/-
# SqlDriver.Proofs.Driver.Mild -- the driver knows nothing of handles

Operations work on objects and not on handles.  So none of them fails because a handle
stands for nothing, and none tells that an error was raised: both belong to the calls of
programs alone (`Mild`).
-/
import SqlDriver.Proofs.Driver.Command

namespace SqlDriver

set_option autoImplicit false

/-- What an event tells is not that an error was raised. -/
def Event.isMild (e : Event) : Prop :=
  ∀ error, e ≠ .raised error

/-- An error has nothing to do with a handle. -/
def Error.isMild (error : Error) : Prop :=
  ∀ kind handle, error ≠ .invalidHandle kind handle

/-- An operation adds mild events to those told before, and fails in a mild way. -/
structure Mild {α : Type} (op : Op α) (s : State) : Prop where
  told : ∃ new, (exec op s).2.events = new ++ s.events ∧ ∀ e ∈ new, e.isMild
  fails : ∀ error, (exec op s).1 = .error error → error.isMild

namespace Mild

variable {α β : Type} {s : State}

theorem pure (x : α) : Mild (pure x) s :=
  ⟨⟨[], rfl, by simp⟩, by simp⟩

theorem throw {error : Error} (mild : error.isMild) : Mild (throw error : Op α) s :=
  ⟨⟨[], rfl, by simp⟩, fun _ same => by cases same; exact mild⟩

theorem bind {a : Op α} {f : α → Op β} (first : Mild a s)
    (rest : ∀ x t, Mild (f x) t) : Mild (a >>= f) s := by
  obtain ⟨⟨new, events, mild⟩, fails⟩ := first
  rcases answer : exec a s with ⟨e | x, t⟩ <;> rw [answer] at events fails
  · refine ⟨⟨new, ?_, mild⟩, fun error same => fails error ?_⟩
    · rw [exec_bind, answer]
      exact events
    · rw [exec_bind, answer] at same
      cases same
      rfl
  · obtain ⟨⟨more, events', mild'⟩, fails'⟩ := rest x t
    refine ⟨⟨more ++ new, ?_, ?_⟩, ?_⟩
    · rw [exec_bind, answer]
      dsimp only at events ⊢
      rw [events', events, List.append_assoc]
    · exact fun e among => (List.mem_append.1 among).elim (mild' e) (mild e)
    · rw [exec_bind, answer]
      exact fails'

theorem get_bind {f : State → Op β} (rest : Mild (f s) s) : Mild (get >>= f) s :=
  ⟨rest.told, rest.fails⟩

theorem throw_bind {error : Error} (mild : error.isMild) (f : α → Op β) :
    Mild (MonadExcept.throw error >>= f) s :=
  ⟨⟨[], rfl, by simp⟩, fun _ same => by cases same; exact mild⟩

theorem engine (a : Engine.Action α) : Mild (Op.engine a) s :=
  ⟨⟨[], rfl, by simp⟩, by simp⟩

theorem tell {e : Event} (mild : e.isMild) : Mild (Op.tell e) s :=
  ⟨⟨[e], rfl, by simpa using mild⟩, by simp⟩

/-- What leaves the events alone. -/
theorem modify {f : State → State} (same : (f s).events = s.events) :
    Mild (modify f : Op PUnit) s :=
  ⟨⟨[], same, by simp⟩, by simp⟩

theorem updateConnection (c : Nat) (f : Connection → Connection) :
    Mild (Op.updateConnection c f) s :=
  modify rfl

theorem updateCursor (k : Nat) (f : Cursor → Cursor) : Mild (Op.updateCursor k f) s :=
  modify rfl

end Mild

section Operations

variable (s : State) (c k : Nat)

theorem closeEnvironment_mild (e : Nat) : Mild (Environment.close e) s := by
  refine .get_bind ?_
  split
  · exact .pure _
  · split
    · exact .pure _
    · exact .bind (.modify rfl) fun _ _ => .bind (.tell fun _ => by simp) fun _ _ => .pure _

theorem connect_mild (e : Nat) (source : String) (timeout : Option Nat) :
    Mild (Environment.connect e source timeout) s := by
  refine .get_bind ?_
  split
  · exact .throw fun _ _ => by simp
  · split
    · exact .throw_bind (fun _ _ => by simp) _
    · refine .bind (.engine _) fun opened s => ?_
      cases opened with
      | error fault => exact .throw fun _ _ => by simp
      | ok session =>
          dsimp only
          split
          · exact .bind (.engine _) fun _ _ => .pure _
          · exact .bind (.engine _) fun _ _ => .bind (.tell fun _ => by simp) fun _ s => .get_bind
              ⟨⟨[], rfl, by simp⟩, fun _ fails => by cases fails⟩

theorem sessionOf_mild : Mild (Connection.sessionOf c) s := by
  refine .get_bind ?_
  split
  · exact .pure _
  · exact .throw fun _ _ => by simp

theorem execute_mild (sql : String) : Mild (Connection.execute c sql) s := by
  refine .bind (sessionOf_mild s c) fun session s => .bind (.engine _) fun prepared s => ?_
  rcases prepared with fault | _ | run
  · exact .throw fun _ _ => by simp
  · exact .throw fun _ _ => by simp
  · refine .bind (.engine _) fun first s => ?_
    cases first with
    | error fault => exact .bind (.engine _) fun _ _ => .throw fun _ _ => by simp
    | ok row =>
        refine .bind (.get_bind (.pure _)) fun columns s => ?_
        dsimp only
        split
        · exact .bind (.engine _) fun _ s => .get_bind (.bind (.tell fun _ => by simp)
            fun _ _ => .pure _)
        · refine .bind (.engine _) fun _ s => .bind (.tell fun _ => by simp) fun _ s =>
            .bind ?_ fun _ _ => .pure _
          exact .bind (.updateConnection _ _) fun _ s => .bind (.updateConnection _ _) fun _ s =>
            .get_bind ⟨⟨[], rfl, by simp⟩, fun _ fails => by cases fails⟩

theorem control_mild (cs : List Engine.Control) : Mild (Connection.control c cs) s :=
  .bind (sessionOf_mild s c) fun _ _ => .engine _

theorem endTransaction_mild (how : Engine.Control) :
    Mild (Connection.endTransaction c how) s := by
  refine .get_bind (.bind (control_mild s c _) fun answer s => ?_)
  cases answer with
  | ok _ => exact .pure _
  | error fault => exact .throw fun _ _ => by simp

theorem setAutocommit_mild (enabled : Bool) : Mild (Connection.setAutocommit c enabled) s := by
  refine .bind (sessionOf_mild s c) fun _ s => .bind (.updateConnection _ _) fun _ s => ?_
  split
  all_goals
    refine .bind (control_mild s c _) fun answer s => ?_
    cases answer with
    | ok _ => exact .pure _
    | error fault => first | exact .tell fun _ => by simp | exact .throw fun _ _ => by simp

theorem lastNumber_mild : Mild (Connection.lastNumber c) s :=
  .bind (sessionOf_mild s c) fun _ _ => .get_bind (.pure _)

theorem closeConnection_mild : Mild (Connection.close c) s := by
  refine .get_bind ?_
  split
  · exact .pure _
  · split
    · exact .pure _
    · split
      · exact .throw_bind (fun _ _ => by simp) _
      · exact .bind (.engine _) fun _ _ => .bind (.updateConnection _ _) fun _ _ =>
          .bind (.tell fun _ => by simp) fun _ _ => .pure _

theorem drop_mild (cursor : Cursor) (run : Nat) : Mild (Cursor.drop k cursor run) s := by
  have rest (s : State) : Mild
      (do
        Op.updateCursor k fun k => { k with run := none }
        Connection.cursorClosed cursor.connection) s :=
    .bind (.updateCursor _ _) fun _ _ => .updateConnection _ _
  refine .get_bind ?_
  cases (s.connections.get? cursor.connection).bind Connection.session with
  | none => exact rest s
  | some session => exact .bind (.engine _) fun _ s => rest s

theorem next_mild : Mild (Cursor.next k) s := by
  refine .get_bind ?_
  split
  · exact .throw fun _ _ => by simp
  · next cursor _ =>
      split
      · exact .throw fun _ _ => by simp
      · refine .bind (sessionOf_mild s _) fun session s => .bind (.engine _) fun row s => ?_
        rcases row with fault | _ | row
        · exact .bind (drop_mild s k cursor _) fun _ _ => .bind (.tell fun _ => by simp)
            fun _ _ => .throw fun _ _ => by simp
        · exact .bind (drop_mild s k cursor _) fun _ _ => .bind (.tell fun _ => by simp)
            fun _ _ => .pure _
        · exact .bind (.tell fun _ => by simp) fun _ _ => .pure _

theorem fetchInto_mild (target : Target) (mode : FetchMode) :
    Mild (Cursor.fetchInto k target mode) s := by
  refine .get_bind (.bind (next_mild s k) fun row s => ?_)
  cases row <;> exact .pure _

theorem columnNames_mild : Mild (Cursor.columnNames k) s := by
  refine .get_bind ?_
  split
  · split
    · exact .throw fun _ _ => by simp
    · exact .pure _
  · exact .throw fun _ _ => by simp

theorem columnTypes_mild : Mild (Cursor.columnTypes k) s := by
  refine .get_bind ?_
  split
  · split
    · exact .throw fun _ _ => by simp
    · exact .pure _
  · exact .throw fun _ _ => by simp

theorem close_mild : Mild (Cursor.close k) s := by
  refine .get_bind ?_
  split
  · exact .pure _
  · next cursor _ =>
      split
      · exact .pure _
      · exact .bind (drop_mild s k cursor _) fun _ _ => .bind (.tell fun _ => by simp)
          fun _ _ => .pure _

theorem openNamed_mild (driver : String) (config : Config) :
    Mild (Environment.openNamed driver config) s := by
  unfold Environment.openNamed
  split
  · exact .get_bind ⟨⟨[], rfl, by simp⟩, fun _ fails => by cases fails⟩
  · exact .throw fun _ _ => by simp

theorem releaseConnection_mild : Mild (Connection.release c) s := by
  refine .get_bind ?_
  split
  · exact .pure _
  · next connection _ =>
      split
      · exact .updateConnection _ _
      · cases connection.session with
        | none => exact .modify rfl
        | some session => exact .bind (.engine _) fun _ _ => .modify rfl

theorem releaseCursor_mild : Mild (Cursor.release k) s := by
  refine .get_bind ?_
  split
  · exact .pure _
  · next cursor _ =>
      split
      · exact .updateCursor _ _
      · have rest (s : State) : Mild (do
            modify fun s => { s with cursors := s.cursors.erase k }
            Connection.release cursor.connection) s :=
          .bind (.modify rfl) fun _ s => releaseConnection_mild s _
        cases cursor.run with
        | none => exact rest s
        | some run => exact .bind (drop_mild s k cursor run) fun _ s => rest s

end Operations

end SqlDriver
