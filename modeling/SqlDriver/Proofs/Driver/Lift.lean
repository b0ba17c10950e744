/-
# SqlDriver.Proofs.Driver.Lift -- what the engine keeps, the driver keeps

The driver reaches databases through eight actions of the engine and in no other way.  So
what each of these keeps is kept by every command (`perform_upholds`) and holds in every
state that a program can reach (`after_upholds`).
-/
import SqlDriver.Proofs.Driver.Command

namespace SqlDriver

set_option autoImplicit false

open Engine

/-- A property of worlds that the actions of the driver keep. -/
structure Upholds (p : World → Prop) : Prop where
  connect : ∀ mode source w, p w → p (exec (Action.connect mode source) w).2
  setTimeout : ∀ id wait w, p w → p (exec (Action.setTimeout id wait) w).2
  disconnect : ∀ id w, p w → p (exec (Action.disconnect id) w).2
  prepare : ∀ id sql w, p w → p (exec (Action.prepare id sql) w).2
  step : ∀ id run w, p w → p (exec (Action.step id run) w).2
  reset : ∀ id run w, p w → p (exec (Action.reset id run) w).2
  finalize : ∀ id run w, p w → p (exec (Action.finalize id run) w).2
  controls : ∀ id cs w, p w → p (exec (Action.controls id cs) w).2

/-- A property of the world is kept. -/
def Keeping (p : World → Prop) (s t : State) : Prop :=
  p s.world → p t.world

instance (p : World → Prop) : Std.Refl (Keeping p) where
  refl _ := id

instance (p : World → Prop) : IsTrans State (Keeping p) where
  trans _ _ _ first second := second ∘ first

section Commands

variable {p : World → Prop}

/-- What does not touch the world. -/
theorem keeping_of_world {α : Type} {op : Op α} {s : State}
    (same : (exec op s).2.world = s.world) : Leads (Keeping p) op s := by
  intro before
  rwa [same]

variable (upholds : Upholds p) (s : State) (c k : Nat)

include upholds

theorem connect_keeping (e : Nat) (source : String) (timeout : Option Nat) :
    Leads (Keeping p) (Environment.connect e source timeout) s := by
  refine .get_bind ?_
  split
  · exact .throw _
  · split
    · exact .throw_bind ..
    · refine .bind (show Keeping p s _ from upholds.connect _ _ _) fun opened s _ => ?_
      cases opened with
      | error fault => exact .throw _
      | ok id =>
          dsimp only
          split
          · exact .bind (show Keeping p s _ from upholds.disconnect id _) fun _ _ _ => .pure _
          · exact .bind (show Keeping p s _ from upholds.setTimeout id _ _) fun _ _ _ =>
              keeping_of_world rfl

theorem execute_keeping (sql : String) : Leads (Keeping p) (Connection.execute c sql) s := by
  refine .bind (sessionOf_leads s c) fun id s _ => ?_
  refine .bind (show Keeping p s _ from upholds.prepare id _ _) fun prepared s _ => ?_
  have finalizes (run : Nat) (s : State) :
      Leads (Keeping p) (Op.engine (Action.finalize id run)) s := upholds.finalize id run s.world
  rcases prepared with fault | _ | run
  · exact .throw _
  · exact .throw _
  · refine .bind (show Keeping p s _ from upholds.step id run _) fun first s _ => ?_
    cases first with
    | error fault => exact .bind (finalizes run s) fun _ _ _ => .throw _
    | ok row =>
        refine .bind (a := Connection.outputs id run) (.get_bind (.pure _)) fun columns s _ => ?_
        dsimp only
        split
        · exact .bind (finalizes run s) fun _ s _ => keeping_of_world rfl
        · exact .bind (show Keeping p s _ from upholds.reset id run _) fun _ s _ =>
            keeping_of_world rfl

theorem control_keeping (cs : List Control) : Leads (Keeping p) (Connection.control c cs) s :=
  .bind (sessionOf_leads s c) fun id s _ => upholds.controls id cs s.world

theorem endTransaction_keeping (how : Control) :
    Leads (Keeping p) (Connection.endTransaction c how) s := by
  refine .get_bind (.bind (control_keeping upholds s c _) fun answer s _ => ?_)
  cases answer with
  | ok _ => exact .pure _
  | error fault => exact .throw _

theorem setAutocommit_keeping (enabled : Bool) :
    Leads (Keeping p) (Connection.setAutocommit c enabled) s := by
  refine .bind (sessionOf_leads s c) fun _ s _ =>
    .bind (keeping_of_world rfl) fun _ s _ => ?_
  split
  · refine .bind (control_keeping upholds s c _) fun answer s _ => ?_
    cases answer with
    | ok _ => exact .pure _
    | error fault => exact keeping_of_world rfl
  · refine .bind (control_keeping upholds s c _) fun answer s _ => ?_
    cases answer with
    | ok _ => exact .pure _
    | error fault => exact .throw _

theorem closeConnection_keeping : Leads (Keeping p) (Connection.close c) s := by
  refine .get_bind ?_
  split
  · exact .pure _
  · split
    · exact .pure _
    · next id _ =>
        split
        · exact .throw_bind ..
        · exact .bind (show Keeping p s _ from upholds.disconnect id _) fun _ _ _ =>
            keeping_of_world rfl

theorem releaseConnection_keeping : Leads (Keeping p) (Connection.release c) s := by
  refine .get_bind ?_
  split
  · exact .pure _
  · split
    · exact keeping_of_world rfl
    · split
      · next id _ =>
          exact .bind (show Keeping p s _ from upholds.disconnect id _) fun _ _ _ =>
            keeping_of_world rfl
      · exact keeping_of_world rfl

theorem drop_keeping (cursor : Cursor) (run : Nat) :
    Leads (Keeping p) (Cursor.drop k cursor run) s := by
  refine .get_bind ?_
  cases (s.connections.get? cursor.connection).bind Connection.session with
  | none => exact keeping_of_world rfl
  | some id =>
      exact .bind (show Keeping p s _ from upholds.finalize id run _) fun _ _ _ =>
        keeping_of_world rfl

theorem next_keeping : Leads (Keeping p) (Cursor.next k) s := by
  refine .get_bind ?_
  split
  · exact .throw _
  · next cursor _ =>
      split
      · exact .throw _
      · next run _ =>
          refine .bind (sessionOf_leads s _) fun id s _ =>
            .bind (show Keeping p s _ from upholds.step id run _) fun row s _ => ?_
          rcases row with fault | _ | row
          · exact .bind (drop_keeping upholds s k cursor run) fun _ _ _ =>
              .bind (keeping_of_world rfl) fun _ _ _ => .throw _
          · exact .bind (drop_keeping upholds s k cursor run) fun _ _ _ => keeping_of_world rfl
          · exact keeping_of_world rfl

theorem closeCursor_keeping : Leads (Keeping p) (Cursor.close k) s := by
  refine .get_bind ?_
  split
  · exact .pure _
  · next cursor _ =>
      split
      · exact .pure _
      · exact .bind (drop_keeping upholds s k cursor _) fun _ _ _ => keeping_of_world rfl

theorem releaseCursor_keeping : Leads (Keeping p) (Cursor.release k) s := by
  refine .get_bind ?_
  split
  · exact .pure _
  · next cursor _ =>
      have rest (s : State) : Leads (Keeping p)
          (do
            modify fun s => { s with cursors := s.cursors.erase k }
            Connection.release cursor.connection) s :=
        .bind (keeping_of_world rfl) fun _ s _ => releaseConnection_keeping upholds s _
      split
      · exact keeping_of_world rfl
      · split
        · exact .bind (drop_keeping upholds s k cursor _) fun _ s _ => rest s
        · exact rest s

theorem perform_upholds (command : Command) : Leads (Keeping p) command.perform s := by
  have forget {α : Type} {op : Op α} (leads : Leads (Keeping p) op s) :
      Leads (Keeping p) (discard op) s :=
    .bind leads fun _ _ _ => .pure _
  cases command with
  | openEnvironment driver config =>
      refine forget (keeping_of_world ?_)
      unfold Environment.openNamed
      split <;> rfl
  | closeEnvironment e =>
      refine forget (.get_bind ?_)
      split
      · exact .pure _
      · split
        · exact .pure _
        · exact keeping_of_world rfl
  | connect e source timeout => exact forget (connect_keeping upholds s e source timeout)
  | execute c sql => exact forget (execute_keeping upholds s c sql)
  | commit c => exact endTransaction_keeping upholds s c .commit
  | rollback c => exact endTransaction_keeping upholds s c .rollback
  | setAutocommit c enabled => exact setAutocommit_keeping upholds s c enabled
  | autocommit c => exact forget (autocommit_leads s c)
  | lastNumber c => exact forget (lastNumber_leads s c)
  | closeConnection c => exact forget (closeConnection_keeping upholds s c)
  | retainConnection c => exact keeping_of_world rfl
  | releaseConnection c =>
      refine .get_bind ?_
      split
      · exact releaseConnection_keeping upholds s c
      · exact .pure _
  | next k => exact forget (next_keeping upholds s k)
  | fetchInto k target mode =>
      refine forget (.get_bind (.bind (next_keeping upholds s k) fun row _ _ => ?_))
      cases row <;> exact .pure _
  | columnNames k => exact forget (columnNames_leads s k)
  | columnTypes k => exact forget (columnTypes_leads s k)
  | closeCursor k => exact forget (closeCursor_keeping upholds s k)
  | retainCursor k => exact keeping_of_world rfl
  | releaseCursor k => exact releaseCursor_keeping upholds s k

theorem after_upholds (commands : List Command) (before : p s.world) :
    p (s.after commands).world := by
  induction commands generalizing s with
  | nil => exact before
  | cons command rest ih => exact ih _ (perform_upholds upholds s command before)

end Commands

end SqlDriver
