/-
# SqlDriver.Proofs.Row -- what a target holds after a row was copied into it

Copying by position writes the row over the front of the positions (`putFrom_append`), and
copying by name stores one column after the other, so that the last column of a name decides
(`get?_putAll`) and new names line up behind the old ones (`names_putAll`).  A record is both
at once: each half is what a list or a map would have received (`receive_record`).

`Receives` says of two records that the second is the first with a row copied into it, slot by
slot; it holds of what a record receives (`receives_receive`), and of nothing else
(`Receives.unique`).
-/
import Mathlib.Data.List.Nodup
import SqlDriver.Row

namespace SqlDriver

set_option autoImplicit false

/-! ## Positions -/

/-- Stores values at the positions from `index` on. -/
def putFrom (values : List Value) (index : Nat) : List Value → List Value
  | [] => values
  | v :: rest => putFrom (putAt values index v) (index + 1) rest

/-- A value at the first position of what lies behind some values. -/
theorem putAt_append (front behind : List Value) (v : Value) :
    putAt (front ++ behind) front.length v = front ++ v :: behind.tail := by
  cases behind with
  | nil => simp [putAt]
  | cons old rest => simp [putAt]

/-- A row lies over the front of what it was written to. -/
theorem putFrom_append (front behind row : List Value) :
    putFrom (front ++ behind) front.length row = front ++ row ++ behind.drop row.length := by
  induction row generalizing front behind with
  | nil => simp [putFrom]
  | cons v rest ih =>
      have next := ih (front ++ [v]) behind.tail
      rw [List.length_append, List.length_singleton, List.append_assoc] at next
      rw [putFrom, putAt_append, ← List.singleton_append, next]
      simp [List.drop_tail, List.append_assoc]

theorem putFrom_zero (values row : List Value) :
    putFrom values 0 row = row ++ values.drop row.length := by
  simpa using putFrom_append [] values row

/-! ## Names -/

namespace Fields

/-- The names in their order. -/
def names (fields : Fields) : List String :=
  fields.map Prod.fst

/-- Stores values under names, one after the other. -/
def putAll (fields : Fields) (columns : List (String × Value)) : Fields :=
  columns.foldl (fun fields column => fields.put column.1 column.2) fields

variable (fields : Fields) (name : String) (v : Value)

theorem names_cons (field : String × Value) : names (field :: fields) = field.1 :: fields.names :=
  rfl

theorem get?_cons (first : String) :
    get? name ((first, v) :: fields) = if name = first then some v else fields.get? name := by
  rw [get?, List.lookup_cons]
  by_cases here : name = first
  · simp [here]
  · rw [if_neg here, beq_eq_false_iff_ne.mpr here]
    rfl

theorem get?_append (more : Fields) :
    get? name (fields ++ more) = (fields.get? name).or (more.get? name) :=
  List.lookup_append

theorem get?_eq_none_iff : fields.get? name = none ↔ name ∉ fields.names := by
  induction fields with
  | nil => simp [get?, names]
  | cons field rest ih =>
      rw [get?_cons, names_cons, List.mem_cons, not_or, ← ih]
      by_cases here : name = field.1 <;> simp [here]

theorem get?_put (other : String) :
    (fields.put name v).get? other = if other = name then some v else fields.get? other := by
  induction fields with
  | nil => rw [put, get?_cons]
  | cons field rest ih =>
      obtain ⟨first, old⟩ := field
      rw [put]
      by_cases here : first = name
      · subst here
        rw [if_pos rfl, get?_cons, get?_cons]
        split <;> rfl
      · rw [if_neg here, get?_cons, get?_cons, ih]
        by_cases same : other = first
        · simp [same, here]
        · simp [same]

/-- A name that is present keeps its place, and a new one comes behind all others. -/
theorem names_put :
    (fields.put name v).names =
      if name ∈ fields.names then fields.names else fields.names ++ [name] := by
  induction fields with
  | nil => simp [put, names]
  | cons field rest ih =>
      obtain ⟨first, old⟩ := field
      rw [put, names_cons]
      by_cases here : first = name
      · subst here
        rw [if_pos rfl, if_pos List.mem_cons_self, names_cons]
      · rw [if_neg here, names_cons, ih]
        have other : name ≠ first := Ne.symm here
        by_cases among : name ∈ names rest <;> simp [among, other]

theorem putAll_cons (columns : List (String × Value)) :
    fields.putAll ((name, v) :: columns) = (fields.put name v).putAll columns := rfl

/-- The last column of a name decides. -/
theorem get?_putAll (columns : List (String × Value)) :
    (fields.putAll columns).get? name = (get? name columns.reverse).or (fields.get? name) := by
  induction columns generalizing fields with
  | nil => rfl
  | cons column rest ih =>
      obtain ⟨first, w⟩ := column
      rw [putAll_cons, ih, get?_put, List.reverse_cons, get?_append, Option.or_assoc, get?_cons]
      congr 1
      split <;> rfl

/-- New names line up behind the old ones in the order in which they first came up. -/
theorem names_putAll (columns : List (String × Value)) :
    (fields.putAll columns).names = fields.names ++
      ((columns.map Prod.fst).filter fun name => name ∉ fields.names).eraseDups := by
  induction columns generalizing fields with
  | nil => simp [putAll]
  | cons column rest ih =>
      obtain ⟨first, w⟩ := column
      rw [putAll_cons, ih, names_put, List.map_cons]
      by_cases among : first ∈ fields.names
      · simp [among]
      · simp only [among, if_false, not_false_eq_true, decide_true, List.filter_cons_of_pos,
          List.eraseDups_cons, List.filter_filter]
        rw [List.append_assoc, List.singleton_append]
        congr 3
        refine List.filter_congr fun other _ => ?_
        by_cases here : other = first <;> simp [here]

/-- Names stay apart. -/
theorem nodup_names_putAll (columns : List (String × Value)) (apart : fields.names.Nodup) :
    (fields.putAll columns).names.Nodup := by
  induction columns generalizing fields with
  | nil => exact apart
  | cons column rest ih =>
      refine ih _ ?_
      rw [names_put]
      split
      · exact apart
      · next new => exact List.nodup_append_comm.1 (List.nodup_cons.2 ⟨new, apart⟩)

/-- Fields whose names are apart are told by their names and what stands under each. -/
theorem ext_of_nodup {fields more : Fields} (apart : fields.names.Nodup)
    (same : more.names = fields.names) (values : ∀ name, more.get? name = fields.get? name) :
    more = fields := by
  induction fields generalizing more with
  | nil => exact List.map_eq_nil_iff.1 same
  | cons field rest ih =>
      cases more with
      | nil => cases same
      | cons other more =>
          obtain ⟨_, v⟩ := field
          obtain ⟨name, w⟩ := other
          obtain ⟨rfl, behind⟩ := List.cons.inj same
          obtain ⟨absent, apart'⟩ := List.nodup_cons.1 apart
          have value := values name
          rw [get?_cons, get?_cons, if_pos rfl, if_pos rfl] at value
          obtain rfl := Option.some.inj value
          refine congrArg _ (ih apart' behind fun other => ?_)
          by_cases here : other = name
          · rw [here, (get?_eq_none_iff rest name).2 absent, (get?_eq_none_iff more name).2]
            rwa [show names more = names rest from behind]
          · have value := values other
            rwa [get?_cons, get?_cons, if_neg here, if_neg here] at value

end Fields

/-! ## Rows -/

section Rows

variable {names : List String} {row : List Value} {name : String}

theorem get?_zip_of_not_mem (absent : name ∉ names) :
    Fields.get? name (names.zip row).reverse = none := by
  rw [Fields.get?_eq_none_iff, Fields.names, List.map_reverse, List.mem_reverse, List.mem_map]
  rintro ⟨⟨_, v⟩, among, rfl⟩
  exact absent (List.of_mem_zip among).1

/-- The last of the columns of a name. -/
theorem get?_zip_of_last (width : row.length = names.length) {i : Nat}
    (here : names[i]? = some name) (last : ∀ j, i < j → names[j]? ≠ some name) :
    Fields.get? name (names.zip row).reverse = row[i]? := by
  induction names generalizing row i with
  | nil => cases here
  | cons first rest ih =>
      cases row with
      | nil => cases width
      | cons v row =>
          have width : row.length = rest.length := Nat.succ.inj width
          rw [List.zip_cons_cons, List.reverse_cons, Fields.get?_append]
          cases i with
          | zero =>
              obtain rfl : first = name := Option.some.inj here
              have absent : first ∉ rest := fun among => by
                obtain ⟨j, there⟩ := List.mem_iff_getElem?.1 among
                exact last (j + 1) (Nat.succ_pos j) there
              rw [get?_zip_of_not_mem absent, Fields.get?_cons, if_pos rfl]
              rfl
          | succ i =>
              have inside : i < row.length := by
                rw [width]
                exact Nat.lt_of_succ_lt_succ (List.getElem?_eq_some_iff.1 here).1
              rw [ih width here fun j later => last (j + 1) (Nat.succ_lt_succ later),
                List.getElem?_cons_succ, List.getElem?_eq_getElem inside]
              rfl

end Rows

/-! ## Targets -/

namespace Target

variable (values row : List Value) (fields : Fields) (columns : List (String × Value))

theorem setPositions_list (index : Nat) :
    (list values).setPositions index row = list (putFrom values index row) := by
  induction row generalizing values index with
  | nil => rfl
  | cons v rest ih => exact ih _ _

theorem setPositions_map (index : Nat) : (map fields).setPositions index row = map fields := by
  induction row generalizing index with
  | nil => rfl
  | cons v rest ih => exact ih _

theorem setPositions_record (index : Nat) :
    (record ⟨values, fields⟩).setPositions index row =
      record ⟨putFrom values index row, fields⟩ := by
  induction row generalizing values index with
  | nil => rfl
  | cons v rest ih => exact ih _ _

theorem setFields_list : (list values).setFields columns = list values := by
  induction columns with
  | nil => rfl
  | cons column rest ih => exact ih

theorem setFields_map : (map fields).setFields columns = map (fields.putAll columns) := by
  induction columns generalizing fields with
  | nil => rfl
  | cons column rest ih => exact ih _

theorem setFields_record :
    (record ⟨values, fields⟩).setFields columns = record ⟨values, fields.putAll columns⟩ := by
  induction columns generalizing fields with
  | nil => rfl
  | cons column rest ih => exact ih _

end Target

namespace Record

/-- A record with a row copied into it, each half by itself. -/
def received (r : Record) (mode : FetchMode) (names : List String) (row : List Value) : Record where
  values := if mode.numeric then row ++ r.values.drop row.length else r.values
  fields := if mode.named then r.fields.putAll (names.zip row) else r.fields

end Record

section Receiving

variable {names : List String} {row : List Value} (mode : FetchMode)

theorem map_range_getD (row : List Value) :
    ((List.range row.length).map fun i => row.getD i .null) = row := by
  refine List.ext_getElem (by simp) fun i _ inside => ?_
  simp [inside]

/-- Each half of a record receives what a list or a map would have received. -/
theorem receive_record (width : row.length = names.length) (r : Record) :
    (Target.record r).receive mode names row = .record (r.received mode names row) ∧
    (Target.list r.values).receive mode names row = .list (r.received mode names row).values ∧
    (Target.map r.fields).receive mode names row = .map (r.received mode names row).fields := by
  obtain ⟨values, fields⟩ := r
  obtain ⟨numeric, named⟩ := mode
  simp only [Target.receive, ← width, map_range_getD, Record.received]
  cases numeric <;> cases named <;>
    simp [Target.setPositions_list, Target.setPositions_map, Target.setPositions_record,
      Target.setFields_list, Target.setFields_map, Target.setFields_record, putFrom_zero]

end Receiving

/-- The second record is the first with a row copied into it by the columns of these names. -/
structure Receives (mode : FetchMode) (names : List String) (row : List Value) (r r' : Record) :
    Prop where
  /-- Each position of the row holds its value, and those behind it what they held. -/
  positions : mode.numeric → (∀ i : Nat, i < names.length → r'.get? i = row[i]?) ∧
    (∀ i : Nat, names.length ≤ i → r'.get? i = r.get? i) ∧ r'.size = max r.size names.length
  /-- Without positions, these are left alone. -/
  noPositions : mode.numeric = false → r'.values = r.values
  /-- Each name holds the value of its last column, and all others what they held. -/
  fields : mode.named →
    (∀ (i : Nat) (name : String), names[i]? = some name →
      (∀ j, i < j → names[j]? ≠ some name) → r'.field? name = row[i]?) ∧
    ∀ name, name ∉ names → r'.field? name = r.field? name
  /-- Names that were there keep their places; new ones are behind them as they first come up. -/
  order : mode.named → r'.fields.names = r.fields.names ++
    (names.filter fun name => name ∉ r.fields.names).eraseDups
  /-- Without names, the fields are left alone. -/
  noFields : mode.named = false → r'.fields = r.fields

section Receives

variable {mode : FetchMode} {names : List String} {row : List Value} {r r' r'' : Record}

/-- A record has a row copied into it by receiving it. -/
theorem receives_receive (width : row.length = names.length) :
    Receives mode names row r (r.received mode names row) where
  positions numeric := by
    simp only [Record.get?, Record.size, Record.received, numeric, if_true]
    refine ⟨fun i inside => ?_, fun i outside => ?_, ?_⟩
    · exact List.getElem?_append_left (width ▸ inside)
    · rw [List.getElem?_append_right (width ▸ outside), List.getElem?_drop, width]
      congr 1
      omega
    · rw [List.length_append, List.length_drop]
      omega
  noPositions numeric := by simp [Record.received, numeric]
  fields named := by
    simp only [Record.field?, Record.received, named, if_true, Fields.get?_putAll]
    refine ⟨fun i name here last => ?_, fun name absent => ?_⟩
    · have inside : i < row.length := width ▸ (List.getElem?_eq_some_iff.1 here).1
      rw [get?_zip_of_last width here last, List.getElem?_eq_getElem inside]
      rfl
    · rw [get?_zip_of_not_mem absent]
      rfl
  order named := by
    simp only [Record.received, named, if_true, Fields.names_putAll]
    rw [List.map_fst_zip (Nat.le_of_eq width.symm)]
  noFields named := by simp [Record.received, named]

theorem nodup_received (apart : r.fields.names.Nodup) :
    (r.received mode names row).fields.names.Nodup := by
  change (if mode.named then r.fields.putAll (names.zip row) else r.fields).names.Nodup
  split
  · exact Fields.nodup_names_putAll _ _ apart
  · exact apart

/-- Every name among some names has a last place there. -/
theorem exists_last_of_mem {name : String} (among : name ∈ names) :
    ∃ i : Nat, names[i]? = some name ∧ ∀ j, i < j → names[j]? ≠ some name := by
  induction names with
  | nil => cases among
  | cons first rest ih =>
      by_cases later : name ∈ rest
      · obtain ⟨i, here, last⟩ := ih later
        refine ⟨i + 1, here, fun j behind => ?_⟩
        obtain ⟨j, rfl⟩ := Nat.exists_eq_succ_of_ne_zero (Nat.ne_zero_of_lt behind)
        exact last j (Nat.lt_of_succ_lt_succ behind)
      · obtain rfl := (List.mem_cons.1 among).resolve_right later
        refine ⟨0, rfl, fun j behind there => ?_⟩
        obtain ⟨j, rfl⟩ := Nat.exists_eq_succ_of_ne_zero (Nat.ne_zero_of_lt behind)
        exact later (List.mem_of_getElem? there)

/-- What a record with names of its own receives leaves nothing open. -/
theorem Receives.unique (apart : r.fields.names.Nodup) (width : row.length = names.length)
    (one : Receives mode names row r r') (two : Receives mode names row r r'') : r' = r'' := by
  obtain ⟨numeric, named⟩ := mode
  have values : r'.values = r''.values := by
    cases numeric with
    | false => exact (one.noPositions rfl).trans (two.noPositions rfl).symm
    | true =>
        obtain ⟨front, behind, -⟩ := one.positions rfl
        obtain ⟨front', behind', -⟩ := two.positions rfl
        refine List.ext_getElem? fun i => ?_
        rcases Nat.lt_or_ge i names.length with inside | outside
        · exact (front i inside).trans (front' i inside).symm
        · exact (behind i outside).trans (behind' i outside).symm
  have fields : r'.fields = r''.fields := by
    cases named with
    | false => exact (one.noFields rfl).trans (two.noFields rfl).symm
    | true =>
        obtain ⟨held, kept⟩ := one.fields rfl
        obtain ⟨held', kept'⟩ := two.fields rfl
        have received : (r.fields.putAll (names.zip row)).names = r''.fields.names := by
          rw [two.order rfl, Fields.names_putAll, List.map_fst_zip (Nat.le_of_eq width.symm)]
        refine Fields.ext_of_nodup (received ▸ Fields.nodup_names_putAll r.fields _ apart)
          ((one.order rfl).trans (two.order rfl).symm) fun name => ?_
        by_cases among : name ∈ names
        · obtain ⟨i, here, last⟩ := exists_last_of_mem among
          exact (held i name here last).trans (held' i name here last).symm
        · exact (kept name among).trans (kept' name among).symm
  cases r'
  cases r''
  exact congrArg₂ Record.mk values fields

end Receives

end SqlDriver
