/-
# SqlDriver.Pool -- items under keys that are never given out twice

A pool numbers its items from one upwards.  A key that was given out stands for its
item until the item is removed, and for nothing afterwards: `insert` gives a key
above all earlier ones, whatever has been removed (`next_insert`, `next_erase`).  That
keys ascend is part of a pool, so `get?` answers each operation by one equation
(`get?_insert`, `get?_erase`, `get?_modify`).
-/

namespace SqlDriver

set_option autoImplicit false

/-- Without items, the keys ascend. -/
theorem ascending_of_no_items {α : Type} :
    (([] : List (Nat × α)).map Prod.fst ++ [1]).Pairwise (· < ·) :=
  List.pairwise_singleton ..

/-- Items under fresh keys. -/
structure Pool (α : Type) where
  /-- The key of the next item. -/
  next : Nat := 1
  items : List (Nat × α) := []
  /-- Keys ascend, and the next one is above them all. -/
  ascending : (items.map Prod.fst ++ [next]).Pairwise (· < ·) := by
    exact ascending_of_no_items
deriving Repr, DecidableEq

namespace Pool

variable {α : Type}

/-- A pool without items. -/
def empty : Pool α := {}

def get? (p : Pool α) (key : Nat) : Option α :=
  p.items.lookup key

theorem key_lt_next (p : Pool α) {entry : Nat × α} (h : entry ∈ p.items) : entry.1 < p.next :=
  (List.pairwise_append.1 p.ascending).2.2 _ (List.mem_map_of_mem h) _ (by simp)

/-- Stores an item under a fresh key. -/
def insert (p : Pool α) (item : α) : Nat × Pool α :=
  (p.next,
    { next := p.next + 1, items := p.items ++ [(p.next, item)]
      ascending := by
        rw [List.map_append]
        refine List.pairwise_append.2 ⟨p.ascending, by simp, ?_⟩
        simp only [List.map_cons, List.map_nil, List.mem_append, List.mem_map, List.mem_singleton]
        rintro _ (⟨entry, found, rfl⟩ | rfl) _ rfl
        · exact Nat.lt_succ_of_lt (p.key_lt_next found)
        · exact Nat.lt_succ_self _ })

/-- Removes the item under a key. -/
def erase (p : Pool α) (key : Nat) : Pool α :=
  { p with
    items := p.items.filter fun entry => entry.1 ≠ key
    ascending :=
      p.ascending.sublist ((List.filter_sublist.map Prod.fst).append (List.Sublist.refl _)) }

/-- Changes the item under a key. -/
def modify (p : Pool α) (key : Nat) (f : α → α) : Pool α :=
  { p with
    items := p.items.map fun entry => if entry.1 = key then (key, f entry.2) else entry
    ascending := by
      have keys (entry : Nat × α) :
          (if entry.1 = key then (key, f entry.2) else entry).1 = entry.1 := by grind
      simpa [Function.comp_def, keys] using p.ascending }

def set (p : Pool α) (key : Nat) (item : α) : Pool α :=
  p.modify key fun _ => item

def mapItems (p : Pool α) (f : Nat → α → α) : Pool α :=
  { p with
    items := p.items.map fun entry => (entry.1, f entry.1 entry.2)
    ascending := by simpa [Function.comp_def] using p.ascending }

def size (p : Pool α) : Nat :=
  p.items.length

theorem next_insert (p : Pool α) (item : α) : (p.insert item).2.next = p.next + 1 := rfl

theorem next_erase (p : Pool α) (key : Nat) : (p.erase key).next = p.next := rfl

theorem next_modify (p : Pool α) (key : Nat) (f : α → α) : (p.modify key f).next = p.next := rfl

/-! ## Looking up -/

theorem get?_eq_some_iff {p : Pool α} {key : Nat} {item : α} :
    p.get? key = some item ↔ (key, item) ∈ p.items := by
  have keys := (List.pairwise_append.1 p.ascending).1
  unfold get?
  generalize p.items = items at keys
  induction items with
  | nil => simp
  | cons entry rest ih =>
      obtain ⟨k, a⟩ := entry
      simp only [List.map_cons, List.pairwise_cons, List.mem_map] at keys
      by_cases here : key = k
      · subst here
        have absent : (key, item) ∉ rest := fun h => absurd (keys.1 key ⟨_, h, rfl⟩) (by omega)
        simp [absent, eq_comm]
      · have other : (key == k) = false := by simpa using here
        simp [List.lookup_cons, other, here, ih keys.2]

theorem lt_next_of_get? {p : Pool α} {key : Nat} {item : α} (h : p.get? key = some item) :
    key < p.next :=
  p.key_lt_next (get?_eq_some_iff.1 h)

/-- The next number stands for nothing yet. -/
theorem get?_next (p : Pool α) : p.get? p.next = none := by
  refine Option.eq_none_iff_forall_ne_some.2 fun item found => ?_
  exact Nat.lt_irrefl _ (lt_next_of_get? found)

@[simp] theorem get?_empty (key : Nat) : ({} : Pool α).get? key = none := rfl

theorem get?_insert (p : Pool α) (item : α) (key : Nat) :
    (p.insert item).2.get? key = if key = p.next then some item else p.get? key := by
  ext a
  rw [get?_eq_some_iff]
  have fresh : ∀ b, (p.next, b) ∉ p.items := fun b h => absurd (p.key_lt_next h) (by simp)
  by_cases here : key = p.next
  · subst here
    simp [insert, fresh, eq_comm]
  · simp [insert, here, get?_eq_some_iff]

theorem get?_erase (p : Pool α) (erased key : Nat) :
    (p.erase erased).get? key = if key = erased then none else p.get? key := by
  ext a
  rw [get?_eq_some_iff]
  by_cases here : key = erased <;> simp [erase, here, get?_eq_some_iff]

theorem get?_mapItems (p : Pool α) (f : Nat → α → α) (key : Nat) :
    (p.mapItems f).get? key = (p.get? key).map (f key) := by
  ext a
  simp only [get?_eq_some_iff, mapItems, List.mem_map, Prod.mk.injEq, Option.map_eq_some_iff]
  constructor
  · rintro ⟨⟨k, b⟩, found, rfl, rfl⟩
    exact ⟨b, found, rfl⟩
  · rintro ⟨b, found, rfl⟩
    exact ⟨(key, b), found, rfl, rfl⟩

theorem modify_eq_mapItems (p : Pool α) (changed : Nat) (f : α → α) :
    p.modify changed f = p.mapItems fun key item => if key = changed then f item else item := by
  simp only [modify, mapItems, mk.injEq, true_and]
  refine List.map_congr_left fun entry _ => ?_
  by_cases here : entry.1 = changed <;> simp [here]

theorem get?_modify (p : Pool α) (changed : Nat) (f : α → α) (key : Nat) :
    (p.modify changed f).get? key = if key = changed then (p.get? key).map f else p.get? key := by
  rw [modify_eq_mapItems, get?_mapItems]
  by_cases here : key = changed <;> simp [here]

theorem isSome_get?_modify (p : Pool α) (changed : Nat) (f : α → α) (key : Nat) :
    ((p.modify changed f).get? key).isSome = (p.get? key).isSome := by
  rw [get?_modify]
  split
  · exact Option.isSome_map
  · rfl

/-! ## Keys -/

def keys (p : Pool α) : List Nat :=
  p.items.map Prod.fst

theorem keys_mapItems (p : Pool α) (f : Nat → α → α) : (p.mapItems f).keys = p.keys := by
  simp [keys, mapItems, Function.comp_def]

theorem keys_modify (p : Pool α) (key : Nat) (f : α → α) : (p.modify key f).keys = p.keys := by
  rw [modify_eq_mapItems, keys_mapItems]

/-! ## One change after another -/

theorem modify_modify (p : Pool α) (key : Nat) (f g : α → α) :
    (p.modify key f).modify key g = p.modify key (g ∘ f) := by
  simp only [modify, List.map_map, mk.injEq, true_and]
  refine List.map_congr_left fun entry _ => ?_
  by_cases here : entry.1 = key <;> simp [here]

theorem modify_self (p : Pool α) (key : Nat) : (p.modify key fun item => item) = p := by
  have same (entry : Nat × α) : (if entry.1 = key then (key, entry.2) else entry) = entry := by
    by_cases here : entry.1 = key
    · simp [← here]
    · simp [here]
  simp [modify, same]

/-- Only what a change makes of the item that is there matters. -/
theorem modify_congr {p : Pool α} {key : Nat} {f g : α → α}
    (same : ∀ item, p.get? key = some item → f item = g item) :
    p.modify key f = p.modify key g := by
  simp only [modify, mk.injEq, true_and]
  refine List.map_congr_left fun entry found => ?_
  by_cases here : entry.1 = key
  · rw [if_pos here, if_pos here, same _ (get?_eq_some_iff.2 (here ▸ found))]
  · rw [if_neg here, if_neg here]

/-! ## Counting -/

def count (p : Pool α) (kind : α → Bool) : Nat :=
  p.items.countP fun entry => kind entry.2

@[simp] theorem count_empty (kind : α → Bool) : ({} : Pool α).count kind = 0 := rfl

theorem count_pos_iff {p : Pool α} {kind : α → Bool} :
    0 < p.count kind ↔ ∃ key item, p.get? key = some item ∧ kind item := by
  simp [count, List.countP_pos_iff, get?_eq_some_iff]

theorem any_eq_count (p : Pool α) (kind : α → Bool) :
    (p.items.any fun entry => kind entry.2) = decide (0 < p.count kind) := by
  rw [Bool.eq_iff_iff, List.any_eq_true, decide_eq_true_iff, count, List.countP_pos_iff]

theorem count_insert (p : Pool α) (item : α) (kind : α → Bool) :
    (p.insert item).2.count kind = p.count kind + if kind item then 1 else 0 := by
  simp [count, insert, List.countP_append, List.countP_singleton]

/-- Items split by a key: those in front of it, its own, and those behind it. -/
theorem exists_split {p : Pool α} {key : Nat} {item : α} (h : p.get? key = some item) :
    ∃ front behind, p.items = front ++ (key, item) :: behind ∧
      (∀ entry ∈ front, entry.1 ≠ key) ∧ ∀ entry ∈ behind, entry.1 ≠ key := by
  obtain ⟨front, behind, split⟩ := List.append_of_mem (get?_eq_some_iff.1 h)
  have keys := (List.pairwise_append.1 p.ascending).1
  rw [split, List.map_append, List.pairwise_append, List.map_cons, List.pairwise_cons] at keys
  refine ⟨front, behind, split, fun entry found => ?_, fun entry found => ?_⟩
  · exact Nat.ne_of_lt (keys.2.2 _ (List.mem_map_of_mem found) _ (by simp))
  · exact Nat.ne_of_gt (keys.2.1.1 _ (List.mem_map_of_mem found))

/-- A change of an item counts it as what it has become. -/
theorem count_modify {p : Pool α} {key : Nat} {item : α} (h : p.get? key = some item)
    (f : α → α) (kind : α → Bool) :
    (p.modify key f).count kind + (if kind item then 1 else 0) =
      p.count kind + if kind (f item) then 1 else 0 := by
  obtain ⟨front, behind, split, before, after⟩ := exists_split h
  have unchanged (entries : List (Nat × α)) (others : ∀ entry ∈ entries, entry.1 ≠ key) :
      (entries.map fun entry => if entry.1 = key then (key, f entry.2) else entry) = entries :=
    (List.map_congr_left fun entry found => by simp [others entry found]).trans entries.map_id
  simp only [count, modify, split, List.map_append, List.map_cons, if_true,
    unchanged front before, unchanged behind after, List.countP_append, List.countP_cons]
  omega

/-- An item that is erased is counted no more. -/
theorem count_erase {p : Pool α} {key : Nat} {item : α} (h : p.get? key = some item)
    (kind : α → Bool) :
    (p.erase key).count kind + (if kind item then 1 else 0) = p.count kind := by
  obtain ⟨front, behind, split, before, after⟩ := exists_split h
  have kept (entries : List (Nat × α)) (others : ∀ entry ∈ entries, entry.1 ≠ key) :
      (entries.filter fun entry => entry.1 ≠ key) = entries :=
    List.filter_eq_self.2 fun entry found => by simpa using others entry found
  simp only [count, erase, split, List.filter_append, kept front before]
  rw [List.filter_cons_of_neg (by simp), kept behind after]
  simp only [List.countP_append, List.countP_cons]
  omega

/-- Erasing an item of another kind changes no count. -/
theorem count_erase_of_not {p : Pool α} {key : Nat} {kind : α → Bool}
    (other : ∀ item, p.get? key = some item → kind item = false) :
    (p.erase key).count kind = p.count kind := by
  simp only [count, erase, List.countP_filter]
  refine List.countP_congr fun entry found => ?_
  by_cases here : entry.1 = key
  · have := other entry.2 (get?_eq_some_iff.2 (here ▸ found))
    simp [here, this]
  · simp [here]

/-- A change that keeps the kind of an item changes no count. -/
theorem count_modify_of_eq {p : Pool α} {key : Nat} {f : α → α} {kind : α → Bool}
    (same : ∀ item, p.get? key = some item → kind (f item) = kind item) :
    (p.modify key f).count kind = p.count kind := by
  simp only [count, modify, List.countP_map]
  refine List.countP_congr fun entry found => ?_
  by_cases here : entry.1 = key
  · have := same entry.2 (get?_eq_some_iff.2 (here ▸ found))
    simp [here, this]
  · simp [here]

theorem count_mapItems_of_eq {p : Pool α} {f : Nat → α → α} {kind : α → Bool}
    (same : ∀ key item, kind (f key item) = kind item) :
    (p.mapItems f).count kind = p.count kind := by
  simp [count, mapItems, List.countP_map, Function.comp_def, same]

end Pool

end SqlDriver
