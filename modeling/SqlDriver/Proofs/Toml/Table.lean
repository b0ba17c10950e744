/-
# SqlDriver.Proofs.Toml.Table -- the root table of a document

Every key stands at most once in a root table (`document_keyed`): what is inserted replaces the
value of its key or is refused.

Lines `key = value` whose keys are apart (`Apart`) neither help nor hinder each other:
`addAll_of_apart` adds them to a root table in any order, and each puts its value under its key.
-/
import SqlDriver.Toml.Document
import Mathlib.Data.List.Nodup

namespace SqlDriver.Toml

set_option autoImplicit false

/-! ## Outcomes -/

section Outcomes

variable {ε α β : Type} {a : Except ε α} {x : α} {y : β}

theorem map_eq_ok {f : α → β} : a.map f = .ok y ↔ ∃ x, a = .ok x ∧ f x = y := by
  cases a <;> simp [Except.map]

theorem bind_eq_ok {f : α → Except ε β} : a >>= f = .ok y ↔ ∃ x, a = .ok x ∧ f x = .ok y := by
  cases a <;> simp [bind, Except.bind]

theorem mapError_eq_ok {f : ε → ε} : a.mapError f = .ok x ↔ a = .ok x := by
  cases a <;> simp [Except.mapError]

end Outcomes

/-! ## Entries -/

section Entries

variable {k l : String} {n m : Node} {es : List (String × Node)}

theorem lookup_cons_eq : ((l, m) :: es).lookup k = if k = l then some m else es.lookup k := by
  rw [List.lookup_cons]
  by_cases same : k = l <;> simp [same, beq_eq_false_iff_ne.mpr]

theorem lookup_setEntry : (setEntry k n es).lookup l = if l = k then some n else es.lookup l := by
  induction es with
  | nil => rw [setEntry, lookup_cons_eq]
  | cons e es ih =>
      obtain ⟨j, m⟩ := e
      rw [setEntry]
      split
      · next same =>
          rw [same, lookup_cons_eq, lookup_cons_eq]
          split <;> rfl
      · next other =>
          rw [lookup_cons_eq, ih, lookup_cons_eq]
          split
          · next same => rw [if_neg (same ▸ other)]
          · rfl

theorem lookup_eq_none_of_not_mem (absent : k ∉ es.map Prod.fst) : es.lookup k = none := by
  rw [List.lookup_eq_none_iff]
  intro e among
  refine bne_iff_ne.2 ?_
  rintro rfl
  exact absent (List.mem_map_of_mem among)

theorem of_mem_keys_setEntry (among : l ∈ (setEntry k n es).map Prod.fst) :
    l = k ∨ l ∈ es.map Prod.fst := by
  induction es with
  | nil => exact .inl (List.mem_singleton.1 among)
  | cons e es ih =>
      obtain ⟨j, m⟩ := e
      rw [setEntry] at among
      split at among
      · exact .inr among
      · rcases List.mem_cons.1 among with rfl | among
        · exact .inr (.head _)
        · exact (ih among).imp_right (List.mem_cons_of_mem _)

theorem keys_setEntry_nodup (nodup : (es.map Prod.fst).Nodup) :
    ((setEntry k n es).map Prod.fst).Nodup := by
  induction es with
  | nil => exact List.nodup_singleton k
  | cons e es ih =>
      obtain ⟨j, m⟩ := e
      obtain ⟨absent, rest⟩ := List.nodup_cons.1 nodup
      rw [setEntry]
      split
      · exact nodup
      · next other =>
          refine List.nodup_cons.2 ⟨fun among => ?_, ih rest⟩
          exact (of_mem_keys_setEntry among).elim other absent

/-- A new entry is added at the end. -/
theorem append_eq_setEntry (absent : es.lookup k = none) : es ++ [(k, n)] = setEntry k n es := by
  induction es with
  | nil => rfl
  | cons e es ih =>
      obtain ⟨j, m⟩ := e
      rw [lookup_cons_eq] at absent
      split at absent
      · cases absent
      · next other => rw [setEntry, if_neg (Ne.symm other), List.cons_append, ih absent]

end Entries

/-! ## Walking a path -/

namespace Node

/-- What a walk makes of the value of a key, if there is one: it goes on into a table of the form
of the table `n` that it comes from. -/
def child (n : Node) (dotted : Bool) (next : Node → Except Issue Node) (walked : List String)
    (key : String) : Option Node → Except Issue Node
  | none => next (n.emptyLike true dotted)
  | some (tables items) => (changeLast next items).map tables
  | some found =>
      match n, found with
      | table .., table i d es =>
          if dotted && !i then .error (duplicateKey key none) else next (table i d es)
      | inline .., inline i d es =>
          if dotted && !i then .error (duplicateKey key none) else next (inline i d es)
      | _, other => .error (extendsValue walked other)

/-- A walk changes one entry of a table. -/
theorem descend_cons (n : Node) (dotted : Bool) (change : Node → Except Issue Node)
    (walked : List String) (k : String) (path : List String) :
    n.descend dotted change walked (k :: path) =
      (n.child dotted (descend dotted change (walked ++ [k]) path) (walked ++ [k]) k
        (n.entries.lookup k)).map fun child => n.withEntries (setEntry k child n.entries) := by
  rw [descend.eq_def]
  dsimp only
  split
  · next none => rw [none, child]
  · next items found =>
      rw [found, child]
      cases changeLast (descend dotted change (walked ++ [k]) path) items <;> rfl
  · next found =>
      rw [found]
      dsimp only [child]
      split <;> rfl
  · next found =>
      rw [found]
      dsimp only [child]
      split <;> rfl
  · next noTables noTable noInline found =>
      rw [found]
      unfold child
      split
      · next same => cases same
      · next same => exact absurd (Option.some.inj same) (noTables _)
      · next same =>
          cases same
          split
          · exact absurd rfl (noTable _ _ _ _ _ _ rfl)
          · exact absurd rfl (noInline _ _ _ _ _ _ rfl)
          · rfl

/-- Adds the value at the end of a dotted key.  `direct` says that the key has one part. -/
def add (within : Option (List String)) (direct : Bool) (key : String) (value : Node) (t : Node) :
    Except Issue Node :=
  if t.isDotted = direct then .error (duplicateKey key none)
  else if (t.entries.lookup key).isSome then .error (duplicateKey key within)
  else .ok (t.withEntries (t.entries ++ [(key, value)]))

/-- A key is added where the table may be extended so, and does not have it. -/
theorem add_eq_ok {within : Option (List String)} {direct : Bool} {key : String}
    {value t m : Node} :
    add within direct key value t = .ok m ↔
      t.isDotted ≠ direct ∧ t.entries.lookup key = none ∧
        m = t.withEntries (setEntry key value t.entries) := by
  unfold add
  split
  · next same => simp [same]
  split
  · next found => simp [Option.ne_none_iff_isSome.2 found]
  · next other absent =>
      have absent := Option.not_isSome_iff_eq_none.1 absent
      simp [other, absent, append_eq_setEntry absent, eq_comm]

end Node

/-! ## Each key once -/

/-- Each key stands at most once in a table. -/
def Node.Keyed (n : Node) : Prop :=
  (n.entries.map Prod.fst).Nodup

namespace Node.Keyed

variable {n m : Node} {change : Node → Except Issue Node}

theorem withEntries {es : List (String × Node)} (nodup : (es.map Prod.fst).Nodup) (n : Node) :
    (n.withEntries es).Keyed := by
  cases n <;> first | exact nodup | exact List.nodup_nil

theorem setEntry (keyed : n.Keyed) (k : String) (child : Node) :
    (n.withEntries (setEntry k child n.entries)).Keyed :=
  withEntries (keys_setEntry_nodup keyed) n

/-- Only the table at the end of a path is changed otherwise than by one entry. -/
theorem descend (keyed : n.Keyed) (keeps : ∀ m, n.Keyed → change n = .ok m → m.Keyed)
    {dotted : Bool} {walked path : List String}
    (done : n.descend dotted change walked path = .ok m) : m.Keyed := by
  cases path with
  | nil => exact keeps m keyed done
  | cons k path =>
      rw [descend_cons] at done
      obtain ⟨child, -, rfl⟩ := map_eq_ok.1 done
      exact keyed.setEntry k child

theorem insert {within : Option (List String)} {path : List String} {key : String} {value : Node}
    (keyed : n.Keyed) (done : n.insert within path key value = .ok m) : m.Keyed := by
  refine keyed.descend (fun m keyed done => ?_) done
  obtain ⟨-, -, rfl⟩ := Node.add_eq_ok.1 done
  exact keyed.setEntry key value

end Node.Keyed

namespace Builder

/-- The tables have each key once, the current one as long as it is the root table. -/
structure Keyed (b : Builder) : Prop where
  root : b.root.Keyed
  current : b.path = [] → b.current.Keyed

variable {b b' : Builder} {root m : Node} {path : List String}

/-- A change of an entry far down keeps all keys different. -/
theorem changeParent_keyed {change : Node → Except Issue Node} (keyed : root.Keyed)
    (keeps : ∀ n m, n.Keyed → change n = .ok m → m.Keyed)
    (done : changeParent root path change = .ok m) : m.Keyed :=
  keyed.descend (keeps root) done

theorem addLine_keyed {last : String} {v : Node} (keyed : b.Keyed)
    (done : b.addLine path last v = .ok b') : b'.Keyed := by
  obtain ⟨current, inserted, same⟩ := bind_eq_ok.1 done
  cases same
  exact ⟨keyed.root, fun top => (keyed.current top).insert inserted⟩

theorem finish_keyed (keyed : b.Keyed) (done : b.finish = .ok m) : m.Keyed := by
  unfold finish at done
  dsimp only at done
  split at done
  · next top =>
      cases done
      exact keyed.current (List.isEmpty_iff.1 top)
  split at done
  · refine changeParent_keyed keyed.root (fun n m keyed done => ?_) done
    split at done
    · cases done
      exact keyed.setEntry _ _
    · cases done
      exact keyed.setEntry _ _
    · cases done
  · refine changeParent_keyed keyed.root (fun n m keyed done => ?_) done
    cases done
    exact keyed.setEntry _ _

theorem startTable_keyed (keyed : root.Keyed) (below : path ≠ [])
    (done : startTable root path = .ok b) : b.Keyed := by
  obtain ⟨reached, found, done⟩ := bind_eq_ok.1 done
  have keyed : reached.Keyed := by
    refine changeParent_keyed keyed (fun n m keyed done => ?_) found
    split at done
    · cases done
      exact keyed
    · cases done
      exact keyed
    · cases done
  obtain ⟨removed, found, same⟩ := bind_eq_ok.1 done
  cases same
  refine ⟨changeParent_keyed keyed (fun n m keyed done => ?_) found, fun top => absurd top below⟩
  cases done
  exact .withEntries (keyed.sublist (List.filter_sublist.map _)) n

theorem startRepeated_keyed (keyed : root.Keyed) (done : startRepeated root path = .ok b) :
    b.Keyed := by
  obtain ⟨reached, found, same⟩ := bind_eq_ok.1 done
  cases same
  refine ⟨changeParent_keyed keyed (fun n m keyed done => ?_) found, fun _ => List.nodup_nil⟩
  split at done
  · cases done
    exact keyed.setEntry _ _
  · cases done
    exact keyed
  · cases done

theorem header_keyed {repeated : Bool} (keyed : b.Keyed) (below : path ≠ [])
    (done : b.header repeated path = .ok b') : b'.Keyed := by
  obtain ⟨root, finished, done⟩ := bind_eq_ok.1 done
  have keyed := finish_keyed keyed finished
  split at done
  · exact startRepeated_keyed keyed done
  · exact startTable_keyed keyed below done

end Builder

/-! ## Lines -/

section Lines

variable {b b' : Builder} {s r : List Char}

theorem keyLine_keyed (keyed : b.Keyed) (done : keyLine b s = .ok (b', r)) : b'.Keyed := by
  obtain ⟨⟨⟨path, last⟩, _⟩, -, done⟩ := bind_eq_ok.1 done
  obtain ⟨_, -, done⟩ := bind_eq_ok.1 done
  obtain ⟨⟨v, _⟩, -, done⟩ := bind_eq_ok.1 done
  obtain ⟨_, -, done⟩ := bind_eq_ok.1 done
  dsimp only at done
  split at done
  · cases done
  · next added =>
      cases done
      exact Builder.addLine_keyed keyed added

theorem headerLine_keyed (keyed : b.Keyed) (done : headerLine b s = .ok (b', r)) : b'.Keyed := by
  have done := mapError_eq_ok.1 done
  split at done
  · cases done
  next repeated _ _ =>
  obtain ⟨⟨⟨path, last⟩, _⟩, -, done⟩ := bind_eq_ok.1 done
  dsimp only at done
  generalize (if repeated then "]]" else "]") = close at done
  split at done
  · cases done
  obtain ⟨_, -, done⟩ := bind_eq_ok.1 done
  split at done
  · cases done
  · next started =>
      cases done
      exact Builder.header_keyed keyed (by simp) started

theorem line_keyed (keyed : b.Keyed) (done : line b s = .ok (b', r)) : b'.Keyed := by
  unfold line at done
  split at done
  · obtain ⟨_, -, same⟩ := bind_eq_ok.1 done
    cases same
    exact keyed
  · exact headerLine_keyed keyed done
  · cases done
    exact keyed
  · cases done
    exact keyed
  · cases done
  · exact keyLine_keyed keyed done

theorem linesFrom_keyed {n : Nat} (keyed : b.Keyed) (done : linesFrom n b s = .ok b') :
    b'.Keyed := by
  induction n generalizing b s with
  | zero =>
      cases done
      exact keyed
  | succ n ih =>
      rw [linesFrom] at done
      split at done
      · cases done
        exact keyed
      · obtain ⟨⟨next, rest⟩, first, done⟩ := bind_eq_ok.1 done
        exact ih (line_keyed keyed first) done

/-- Each key stands at most once in the root table of a document. -/
theorem document_keyed {root : Node} (done : document s = .ok root) : root.Keyed := by
  unfold document at done
  dsimp only at done
  have first : Builder.Keyed {} := ⟨List.nodup_nil, fun _ => List.nodup_nil⟩
  generalize skipByteOrderMark s = s at done
  rcases lines : linesFrom (s.length + 1) {} s with f | b <;> rw [lines] at done
  · cases done
  · exact Builder.finish_keyed (linesFrom_keyed first lines) done

end Lines

/-! ## Lines of the root table -/

/-- A line `key = value`: the parts of its key but the last, the last, and the value. -/
abbrev Pair := List String × String × Node

/-- Neither key leads through the other: they are not the same, and a point behind one of them
does not begin the other. -/
def Apart (key other : List String) : Prop :=
  ¬key <+: other ∧ ¬other <+: key

instance (key other : List String) : Decidable (Apart key other) :=
  inferInstanceAs (Decidable (_ ∧ _))

/-- A key may still be added below some entries: its first part stands for nothing, or for a
table of dotted keys in which the rest may be added. -/
def Free : List (String × Node) → List String → Prop
  | _, [] => False
  | es, k :: key =>
      es.lookup k = none ∨ ∃ es', es.lookup k = some (.table true true es') ∧ Free es' key

section Free

variable {k : String} {key path : List String} {n v : Node} {es : List (String × Node)}

theorem free_nil (more : key ≠ []) : Free [] key := by
  obtain ⟨k, key, rfl⟩ := List.exists_cons_of_ne_nil more
  exact .inl rfl

theorem Free.setEntry_other (free : Free es key) (other : key.head? ≠ some k) :
    Free (setEntry k n es) key := by
  cases key with
  | nil => exact free
  | cons l key =>
      have other : l ≠ k := fun same => other (congrArg some same)
      rw [Free, lookup_setEntry, if_neg other]
      exact free

/-- What a line leaves of a table `es`: it adds its value, and leaves room for the keys that are
apart from its own. -/
structure Added (key : List String) (v : Node) (es es' : List (String × Node)) : Prop where
  elsewhere : ∀ k, key.head? ≠ some k → es'.lookup k = es.lookup k
  here : ∀ k, key = [k] → es'.lookup k = some v
  free : ∀ other, Free es other → Apart key other → Free es' other

theorem added_direct (k : String) (v : Node) (es : List (String × Node)) :
    Added [k] v es (setEntry k v es) where
  elsewhere l other := by rw [lookup_setEntry, if_neg fun same => other (congrArg some same.symm)]
  here l same := by
    obtain ⟨rfl, -⟩ := List.cons.inj same
    rw [lookup_setEntry, if_pos rfl]
  free other free apart := by
    refine free.setEntry_other fun first => apart.1 ?_
    obtain ⟨rest, rfl⟩ := List.head?_eq_some_iff.1 first
    exact List.prefix_append [k] rest

/-- A value that is added to a table below is added below its key. -/
theorem added_below {es₀ es₁ : List (String × Node)}
    (found : es.lookup k = none ∧ es₀ = [] ∨ es.lookup k = some (.table true true es₀))
    (more : key ≠ []) (added : Added key v es₀ es₁) :
    Added (k :: key) v es (setEntry k (.table true true es₁) es) where
  elsewhere l other := by rw [lookup_setEntry, if_neg fun same => other (congrArg some same.symm)]
  here l same := absurd (List.cons.inj same).2 more
  free other free apart := by
    by_cases first : other.head? = some k
    · obtain ⟨rest, rfl⟩ := List.head?_eq_some_iff.1 first
      have apart : Apart key rest := by
        unfold Apart at apart ⊢
        simpa [List.cons_prefix_cons] using apart
      refine .inr ⟨es₁, by rw [lookup_setEntry, if_pos rfl], added.free rest ?_ apart⟩
      obtain ⟨-, rfl⟩ | found := found
      · refine free_nil ?_
        rintro rfl
        exact apart.2 List.nil_prefix
      · obtain none | ⟨es', found', free⟩ := free
        · rw [found] at none
          cases none
        · rw [found] at found'
          cases found'
          exact free
    · exact free.setEntry_other first

/-- A dotted key is added below a table that has room for it. -/
theorem descend_add (within : Option (List String)) (last : String) (v : Node) (i d : Bool)
    (walked : List String) (deep : path = [] → d = true) (free : Free es (path ++ [last])) :
    ∃ es', Node.descend true (Node.add within false last v) walked path (.table i d es) =
      .ok (.table i d es') ∧ Added (path ++ [last]) v es es' := by
  induction path generalizing es i d walked with
  | nil =>
      obtain none | ⟨_, _, free⟩ := free
      · obtain rfl := deep rfl
        exact ⟨_, Node.add_eq_ok.2 ⟨nofun, none, rfl⟩, added_direct last v es⟩
      · cases free
  | cons k path ih =>
      have more : path ++ [last] ≠ [] := by simp
      obtain none | ⟨es₀, found, free⟩ := free
      · obtain ⟨es₁, done, added⟩ :=
          ih true true (walked ++ [k]) (fun _ => rfl) (free_nil more)
        refine ⟨_, ?_, added_below (.inl ⟨none, rfl⟩) more added⟩
        rw [Node.descend_cons]
        dsimp only [Node.entries]
        rw [none]
        dsimp only [Node.child, Node.emptyLike]
        rw [done]
        rfl
      · obtain ⟨es₁, done, added⟩ :=
          ih true true (walked ++ [k]) (fun _ => rfl) free
        refine ⟨_, ?_, added_below (.inr found) more added⟩
        rw [Node.descend_cons]
        dsimp only [Node.entries]
        rw [found]
        dsimp only [Node.child]
        rw [if_neg (by decide), done]
        rfl

end Free

/-- The root table with a line added. -/
def Pair.addTo (p : Pair) (root : Node) : Except Issue Node :=
  root.insert (some []) p.1 p.2.1 p.2.2

def Pair.key (p : Pair) : List String :=
  p.1 ++ [p.2.1]

section Root

variable {es : List (String × Node)}

/-- A line with a free key is added to the root table. -/
theorem addTo_of_free (p : Pair) (free : Free es p.key) :
    ∃ es', p.addTo (.table false false es) = .ok (.table false false es') ∧
      Added p.key p.2.2 es es' := by
  obtain ⟨_ | ⟨k, path⟩, last, v⟩ := p
  · obtain none | ⟨_, _, free⟩ := free
    · have done : Node.add (some []) true last v (.table false false es) =
          .ok (.table false false (setEntry last v es)) :=
        Node.add_eq_ok.2 ⟨Bool.false_ne_true, none, rfl⟩
      exact ⟨_, done, added_direct last v es⟩
    · cases free
  · exact descend_add (some []) last v false false [] nofun free

/-- Lines whose keys are apart are added to a root table, in any order, and each puts its value
under its key. -/
theorem addAll_of_apart {pairs : List Pair}
    (free : ∀ p ∈ pairs, Free es p.key)
    (apart : (pairs.map Pair.key).Pairwise Apart) :
    ∃ es', pairs.foldlM (fun root p => p.addTo root) (.table false false es) =
        .ok (.table false false es') ∧
      (∀ k, (∀ p ∈ pairs, p.key.head? ≠ some k) → es'.lookup k = es.lookup k) ∧
      ∀ k v, ([], k, v) ∈ pairs → es'.lookup k = some v := by
  induction pairs generalizing es with
  | nil => exact ⟨es, rfl, fun _ _ => rfl, nofun⟩
  | cons p pairs ih =>
      rw [List.map_cons, List.pairwise_cons] at apart
      obtain ⟨es₀, done, added⟩ := addTo_of_free p (free p (.head _))
      have free' (q : Pair) (among : q ∈ pairs) : Free es₀ q.key :=
        added.free q.key (free q (.tail _ among)) (apart.1 _ (List.mem_map_of_mem among))
      obtain ⟨es', rest, elsewhere, here⟩ := ih free' apart.2
      refine ⟨es', ?_, fun k other => ?_, fun k v among => ?_⟩
      · rw [List.foldlM_cons, done]
        exact rest
      · rw [elsewhere k fun q among => other q (.tail _ among)]
        exact added.elsewhere k (other p (.head _))
      · rcases List.mem_cons.1 among with rfl | among
        · rw [elsewhere k fun q among first => ?_, added.here k rfl]
          obtain ⟨rest, same⟩ := List.head?_eq_some_iff.1 first
          refine (apart.1 _ (List.mem_map_of_mem among)).1 ?_
          rw [same]
          exact List.prefix_append [k] rest
        · exact here k v among

end Root

end SqlDriver.Toml
