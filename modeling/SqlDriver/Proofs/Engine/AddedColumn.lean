/-
# SqlDriver.Proofs.Engine.AddedColumn -- a column is added once

The statement that adds a column may have columns of its own, so that a cursor is put over it once
it has been run.  When the cursor runs it again, the table has a column of that name, and the
statement cannot even be made ready (`prepare_addedColumn`).
-/
import SqlDriver.Proofs.Engine.Ground

namespace SqlDriver.Engine

set_option autoImplicit false

theorem sameName_self (n : String) : sameName n n :=
  decide_eq_true rfl

/-! ## Tables that were changed -/

/-- A table that was changed is found under the names that it had. -/
theorem Contents.table?_modify {c : Contents} {n : String} {t : Table} (found : c.table? n = some t)
    {f : Table → Table} (named : ∀ t, (f t).name = t.name) :
    (c.modify t.name f).table? n = some (f t) := by
  have keeps : (fun x : Table => sameName x.name n) ∘
      (fun x => if sameName x.name t.name then f x else x) = fun x => sameName x.name n := by
    funext x
    rw [Function.comp_apply]
    split
    · rw [named]
    · rfl
  rw [Contents.table?] at found
  rw [Contents.modify, Contents.table?, List.find?_map, keeps, found, Option.map_some,
    if_pos (sameName_self _)]

/-- A column that was put behind the others has a place. -/
theorem Table.place?_of_last {t : Table} {before : List Column} {c : Column}
    (columns : t.columns = before ++ [c]) : (t.place? c.name).isSome := by
  rw [Table.place?, Option.isSome_map, List.findIdx?_isSome, columns]
  simp [sameName_self]

/-- However the rows were looked at, the table has got the column and a value of it in each row. -/
theorem Action.addColumn_modifies {c after : Contents} {n : String} {column : Column}
    {checks : List Check} {unfit : Option String}
    (added : Action.addColumn c n column checks unfit = .ok after) :
    ∃ d, after = c.modify n fun t =>
      { t with
        columns := t.columns ++ [column], checks := t.checks ++ checks,
        rows := t.rows.map fun r =>
          { r with values := r.values ++ [column.affinity.store d] } } := by
  unfold Action.addColumn at added
  extract_lets isEmpty checked filled at added
  have filled_ok (done : filled () = .ok after) : ∃ d, checked d = .ok after := by
    dsimp only [filled] at done
    split at done
    · exact ⟨_, done⟩
    · generalize column.default.eval _ _ = value at done
      cases value with
      | error fault => cases done
      | ok d => exact ⟨d, done⟩
  obtain ⟨d, done⟩ : ∃ d, checked d = .ok after := by
    split at added
    · cases unfit with
      | some why => cases added
      | none => exact filled_ok added
    · exact filled_ok added
  refine ⟨d, ?_⟩
  dsimp only [checked] at done
  split at done
  · split at done
    · cases done
    · generalize Action.meetsChecks _ _ = meets at done
      rcases meets with fault | _ | _ <;> cases done
      rfl
  · cases done
    rfl

/-- The table has the column that was added to it. -/
theorem Action.addColumn_table? {c after : Contents} {n : String} {t : Table} {column : Column}
    {checks : List Check} {unfit : Option String} (found : c.table? n = some t)
    (added : Action.addColumn c t.name column checks unfit = .ok after) :
    ∃ t', after.table? n = some t' ∧ t'.columns = t.columns ++ [column] := by
  obtain ⟨d, rfl⟩ := Action.addColumn_modifies added
  exact ⟨_, Contents.table?_modify found fun _ => rfl, rfl⟩

/-- A program that adds a column succeeds where the column can be added. -/
theorem Program.effect_addColumn {g g' : Ground} {n : String} {column : Column}
    {checks : List Check} {unfit : Option String}
    (done : (Program.addColumn n column checks unfit).effect g = .ok g') :
    ∃ c after, g.contents = .ok c ∧ Action.addColumn c n column checks unfit = .ok after ∧
      g'.contents = .ok after.changed := by
  rw [effect] at done
  cases known : g.contents with
  | error fault =>
      rw [known] at done
      cases done
  | ok c =>
      rw [known] at done
      change (Action.addColumn c n column checks unfit >>= _) = _ at done
      cases added : Action.addColumn c n column checks unfit with
      | error fault =>
          rw [added] at done
          cases done
      | ok after =>
          rw [added] at done
          cases done
          exact ⟨c, after, rfl, added, rfl⟩

/-- The form of a database changes when a column is added. -/
theorem Program.form_addsColumn {p : Program} (adds : p.addsColumn) {g g' : Ground}
    (done : p.effect g = .ok g') :
    ∃ c c', g.contents = .ok c ∧ g'.contents = .ok c' ∧ c'.form = c.form + 1 := by
  cases p with
  | addColumn n column checks unfit =>
      obtain ⟨c, after, known, added, changed⟩ := effect_addColumn done
      obtain ⟨d, rfl⟩ := Action.addColumn_modifies added
      exact ⟨c, _, known, changed, rfl⟩
  | _ => cases adds

/-! ## Binding once more -/

namespace Binding

theorem applyRules_name (env : Env) (c : Column) :
    ∀ rules : List ColumnRule, Binds (fun made => made.name = c.name) (applyRules env c rules) := by
  intro rules
  induction rules generalizing c with
  | nil => exact .pure rfl
  | cons r rest ih =>
      unfold applyRules
      extract_lets go
      have goes (made : Column) (same : made.name = c.name) :
          Binds (fun made => made.name = c.name) (go made) := same ▸ ih made
      cases r with
      | «default» e => exact .bind fun _ => goes _ rfl
      | collate n =>
          dsimp only
          split
          · exact goes _ rfl
          · exact .refuse_bind _ _
      | _ => exact goes _ rfl

theorem bindAddedColumn_name (env : Env) (t : Table) (f : ColumnForm) :
    Binds (fun made => made.1.name = f.name) (bindAddedColumn env t f) := by
  unfold bindAddedColumn
  refine .check _ (.bind_of (applyRules_name env _ f.rules) fun c same => ?_)
  exact .check _ (.check _ (.bind fun _ => .pure same))

theorem table_found {env : Env} (n : String) :
    Binds (fun t => env.contents.table? n = some t) (table env n) := by
  refine .bind fun _ => ?_
  split
  · next found => exact .bind fun _ => .pure found
  · exact .refuse _

/-- A column that the table has is not added to it. -/
theorem bindAddedColumn_of_there {env : Env} {t : Table} {f : ColumnForm}
    (there : (t.place? f.name).isSome) : Binds (fun _ => False) (bindAddedColumn env t f) := by
  unfold bindAddedColumn
  rw [if_pos there]
  rintro notes _ _ ⟨⟩

end Binding

section Statements

variable {c : Contents} {n : String} {f : ColumnForm}

theorem bind_addColumn : Binds (fun p => ∃ t column checks unfit, c.table? n = some t ∧
      column.name = f.name ∧ p.program = .addColumn t.name column checks unfit)
    (Program.bind (.ok c) (.addColumn n f)) := by
  unfold Program.bind
  refine .bind_of (Binding.table_found n) fun t found =>
    .bind_of (Binding.bindAddedColumn_name _ t f) fun made same => .pure ⟨t, made.1, made.2, _, found, same, rfl⟩

theorem bind_addColumn_of_there {t : Table} (found : c.table? n = some t)
    (there : (t.place? f.name).isSome) :
    Binds (fun _ => False) (Program.bind (.ok c) (.addColumn n f)) := by
  unfold Program.bind
  refine .bind_of (Binding.table_found n) fun t' found' => ?_
  cases found.symm.trans found'
  exact .bind_of (Binding.bindAddedColumn_of_there there) fun _ impossible => impossible.elim

/-- Where a statement has added a column, its text cannot be made ready again. -/
theorem prepare_addedColumn {g g' : Ground} {ts : List Token} {p : Prepared}
    (made : Program.prepare g.contents ts = .ok p) (adds : p.program.addsColumn)
    (done : p.program.effect g = .ok g') (p' : Prepared) :
    Program.prepare g'.contents ts ≠ .ok p' := by
  intro again
  obtain ⟨s, notes, parsed, bound⟩ := bound_of_prepare made
  obtain ⟨s', notes', parsed', rebound⟩ := bound_of_prepare again
  cases parsed.symm.trans parsed'
  obtain ⟨n, f, rfl⟩ : ∃ n f, s = .addColumn n f := by
    cases bind_becomes _ _ _ _ _ bound with
    | writes _ _ _ _ _ adding => exact adding adds
    | reads _ reads => cases reads.symm.trans (Program.isReading_of_addsColumn adds)
    | skips => cases adds
    | controls => cases adds
  cases known : g.contents with
  | error fault =>
      rw [known] at bound
      cases bound
  | ok c =>
      rw [known] at bound
      obtain ⟨t, column, checks, unfit, found, same, program⟩ := bind_addColumn _ _ _ bound
      rw [program] at done
      obtain ⟨_, after, known', added, changed⟩ := Program.effect_addColumn done
      cases known.symm.trans known'
      obtain ⟨t', there, columns⟩ := Action.addColumn_table? found added
      rw [changed] at rebound
      exact bind_addColumn_of_there (c := after.changed) there
        (same ▸ Table.place?_of_last columns) _ _ _ rebound

end Statements

end SqlDriver.Engine
