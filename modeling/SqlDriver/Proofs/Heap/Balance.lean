/-
# SqlDriver.Proofs.Heap.Balance -- what a run does to the counts of references

An account says how a program has come from one state to another: its references are still
covered, each object is referred to as often as it was and as references were taken, less those
that were given up, and what is still there is what it was (`Accounted`, `Keeps`).  Accounts add
up (`Accounted.trans`).  There is one for every call that the program may make, whether an array
is made, a reference is taken or one is given up (`Sound.accounted_step`), and so there is one for
every run (`Sound.accounted_run`).

`references_are_balanced` is the account of a whole run, with what becomes of an array and its
elements when the array is given up behind it.
-/
import Mathlib.Data.List.Nodup
import SqlDriver.Proofs.Heap.Ownership

namespace SqlDriver.Heap

set_option autoImplicit false

variable {h g : Heap} {a b : Nat}

/-! ## New arrays -/

theorem gone_of_next_le (new : h.objects.next ≤ b) : h.get? b = none := by
  apply Option.eq_none_iff_forall_ne_some.mpr
  intro o there
  have old : b < h.objects.next := lt_next_of_live there
  omega

theorem references?_push (h : Heap) (a b : Nat) (w : Int64) :
    (h.push a w).references? b = h.references? b := by
  unfold references? push
  rw [get?_update]
  split
  · rw [Option.map_map]
    rfl
  · rfl

/-- Neither an addition to an array nor a new object changes how often another is referred to. -/
theorem references?_pushNew (bodies : List Body) (old : b < h.objects.next) :
    (h.pushNew a bodies).references? b = h.references? b := by
  induction bodies generalizing h with
  | nil => rfl
  | cons body rest ih =>
      change (pushNew ((h.alloc body).2.push a (wordOf h.objects.next)) a rest).references? b = _
      rw [ih (Nat.lt_succ_of_lt old), references?_push, references?, get?_alloc,
        if_neg (Nat.ne_of_lt old), references?]

section NewArray

variable (h) (bodies : List Body)

theorem get?_allocArrayOf_of_lt (old : b < h.objects.next) :
    (h.allocArrayOf bodies).2.get? b = h.get? b := by
  rw [allocArrayOf_snd, get?_pushNew_of_lt bodies (Nat.ne_of_lt old) (Nat.lt_succ_of_lt old),
    allocArray, get?_alloc, if_neg (Nat.ne_of_lt old)]

/-- What is new has one reference, and nothing else is changed. -/
theorem count_allocArrayOf (b : Nat) : (h.allocArrayOf bodies).2.count b = h.count b +
    if h.objects.next ≤ b ∧ b < h.objects.next + 1 + bodies.length then 1 else 0 := by
  rcases Nat.lt_trichotomy b h.objects.next with old | rfl | new
  · rw [count, references?, get?_allocArrayOf_of_lt h bodies old, if_neg (by omega), add_zero]
    rfl
  · have array : (h.allocArrayOf bodies).2.references? h.objects.next = some 1 := by
      rw [allocArrayOf_snd, references?_pushNew bodies (Nat.lt_succ_self h.objects.next),
        allocArray, references?, get?_alloc, if_pos rfl]
      rfl
    rw [count, array, count_of_none get?_next, if_pos (by omega)]
    rfl
  · have before : h.count b = 0 := by
      apply count_of_none
      exact gone_of_next_le (by omega)
    rw [before]
    by_cases inside : b < h.objects.next + 1 + bodies.length
    · obtain ⟨i, rfl⟩ := Nat.exists_eq_add_of_le (show h.objects.next + 1 ≤ b by omega)
      have element := get?_allocArrayOf_element h
        (List.getElem?_eq_getElem (show i < bodies.length by omega))
      rw [count_of_get? element, if_pos (by omega)]
    · rw [if_neg (by omega)]
      apply count_of_none
      apply gone_of_next_le
      rw [next_allocArrayOf]
      omega

/-- A new array refers to each of its elements once. -/
theorem slots_elements {n : Nat} (fits : h.objects.next + n < 2 ^ 63) (b : Nat) :
    slots ((h.elements n).map wordOf) b =
      if h.objects.next + 1 ≤ b ∧ b < h.objects.next + 1 + n then 1 else 0 := by
  have refers : ∀ c ∈ h.elements n, (wordOf c ≠ 0 ∧ addressOf (wordOf c) = b) ↔ c = b := by
    intro (c : Nat) inside
    obtain ⟨low, high⟩ := List.mem_range'_1.mp inside
    have small : c < 2 ^ 63 := by omega
    have same : addressOf (wordOf c) = c := addressOf_wordOf small
    have some_object : wordOf c ≠ 0 := by
      intro null
      have zero : (0 : Nat) = c := by
        rw [null] at same
        exact same
      omega
    rw [same]
    exact ⟨fun here => here.2, fun here => ⟨some_object, here⟩⟩
  have once_each : slots ((h.elements n).map wordOf) b = (h.elements n).count b := by
    rw [slots, List.countP_map, List.count]
    apply List.countP_congr
    intro c inside
    simpa using refers c inside
  have distinct : (h.elements n).Nodup := List.nodup_range'
  have among : b ∈ h.elements n ↔ h.objects.next + 1 ≤ b ∧ b < h.objects.next + 1 + n :=
    List.mem_range'_1
  rw [once_each, distinct.count]
  simp only [among]

end NewArray

namespace Holder

variable {x y : Holder} {k : Elements} {bodies : List Body}

theorem next_hold (x : Holder) (k : Elements) (bodies : List Body) :
    (x.hold k (x.heap.allocArrayOf bodies)).heap.objects.next =
      x.heap.objects.next + 1 + bodies.length :=
  next_allocArrayOf x.heap bodies

section Hold

variable (sound : x.Sound) (admitted : ∀ body ∈ bodies, k.admits body)
  (fits : x.heap.objects.next + bodies.length < 2 ^ 63)

include sound

theorem Sound.kind_of_next_le (new : x.heap.objects.next ≤ b) : x.kind b = none := by
  apply Option.eq_none_iff_forall_ne_some.mpr
  intro k array
  have old := sound.known b k array
  omega

include fits

/-- A new array holds one reference to each of its elements, and the others hold what they
held. -/
theorem owned_hold (b : Nat) :
    (x.hold k (x.heap.allocArrayOf bodies)).owned b = x.owned b +
      if x.heap.objects.next + 1 ≤ b ∧ b < x.heap.objects.next + 1 + bodies.length
      then 1 else 0 := by
  have kind (c : Nat) (other : c ≠ x.heap.objects.next) :
      (x.hold k (x.heap.allocArrayOf bodies)).kind c = x.kind c := if_neg other
  have earlier : ∀ c ∈ Finset.range x.heap.objects.next,
      (x.hold k (x.heap.allocArrayOf bodies)).slotsAt c b = x.slotsAt c b := by
    intro c inside
    have old := Finset.mem_range.mp inside
    have words : (x.heap.allocArrayOf bodies).2.wordsAt? c = x.heap.wordsAt? c :=
      wordsAt_congr (get?_allocArrayOf_of_lt x.heap bodies old)
    unfold slotsAt
    rw [kind c (Nat.ne_of_lt old)]
    change (if _ then slots (((x.heap.allocArrayOf bodies).2.wordsAt? c).getD []) b else 0) = _
    rw [words]
  have array : (x.hold k (x.heap.allocArrayOf bodies)).slotsAt x.heap.objects.next b =
      if x.heap.objects.next + 1 ≤ b ∧ b < x.heap.objects.next + 1 + bodies.length
      then 1 else 0 := by
    have here : (x.hold k (x.heap.allocArrayOf bodies)).kind x.heap.objects.next = some k :=
      if_pos rfl
    unfold slotsAt
    rw [here, Option.isSome_some, if_pos rfl]
    change slots (((x.heap.allocArrayOf bodies).2.wordsAt? x.heap.objects.next).getD []) b = _
    rw [wordsAt_allocArrayOf]
    exact slots_elements x.heap fits b
  have later : ∀ c ∈ Finset.range (x.heap.objects.next + 1 + bodies.length),
      c ∉ Finset.range (x.heap.objects.next + 1) →
      (x.hold k (x.heap.allocArrayOf bodies)).slotsAt c b = 0 := by
    intro c _ outside
    have new : x.heap.objects.next + 1 ≤ c := by simpa using outside
    unfold slotsAt
    rw [kind c (by omega), sound.kind_of_next_le (b := c) (by omega)]
    rfl
  have whole : (x.hold k (x.heap.allocArrayOf bodies)).owned b =
      ∑ c ∈ Finset.range (x.heap.objects.next + 1 + bodies.length),
        (x.hold k (x.heap.allocArrayOf bodies)).slotsAt c b := by
    rw [owned, next_hold]
  rw [whole, ← Finset.sum_subset (Finset.range_mono (Nat.le_add_right _ _)) later,
    Finset.sum_range_succ, Finset.sum_congr rfl earlier, array]
  rfl

include admitted

theorem Sound.hold : (x.hold k (x.heap.allocArrayOf bodies)).Sound where
  begun := by
    rw [next_hold]
    omega
  proper.nowhere := (get?_allocArrayOf_of_lt x.heap bodies sound.begun).trans sound.proper.nowhere
  proper.counted := by
    intro (b : Nat) o there
    change (x.heap.allocArrayOf bodies).2.get? b = some o at there
    rw [← count_of_get? there, count_allocArrayOf]
    have inside : b < (x.heap.allocArrayOf bodies).2.objects.next := lt_next_of_live there
    rw [next_allocArrayOf] at inside
    by_cases old : b < x.heap.objects.next
    · rw [get?_allocArrayOf_of_lt x.heap bodies old] at there
      have := sound.proper.counted b o there
      rw [count_of_get? there]
      omega
    · rw [if_pos (by omega)]
      omega
  covered := by
    intro (b : Nat)
    have covered := sound.covered b
    have counted := count_allocArrayOf x.heap bodies b
    have begun := sound.begun
    change x.held b + once x.heap.objects.next b + _ ≤ (x.heap.allocArrayOf bodies).2.count b
    rw [owned_hold sound fits, counted, once]
    -- the program's reference covers the array, and the array's each of its elements
    by_cases here : b = x.heap.objects.next
    · have somewhere : b ≠ 0 := by omega
      rw [if_pos ⟨here, somewhere⟩, if_neg (by omega), if_pos (by omega)]
      omega
    · rw [if_neg fun both => here both.1]
      split <;> split <;> omega
  known b k' array := by
    rw [next_hold]
    by_cases here : b = x.heap.objects.next
    · omega
    · have old := sound.known b k' ((if_neg here).symm.trans array)
      omega
  elements b k' o array there := by
    change (x.heap.allocArrayOf bodies).2.get? b = some o at there
    by_cases here : b = x.heap.objects.next
    · subst here
      obtain rfl : k = k' := Option.some.inj ((if_pos rfl).symm.trans array)
      have words := wordsAt_allocArrayOf x.heap bodies
      rw [wordsAt?, there, Option.map_some] at words
      split at words
      · next ws capacity body =>
          obtain rfl := Option.some.inj words
          refine ⟨_, capacity, Option.some.inj body, ?_⟩
          intro w inside _
          obtain ⟨c, among, rfl⟩ := List.mem_map.mp inside
          obtain ⟨low, high⟩ := List.mem_range'_1.mp among
          obtain ⟨i, rfl⟩ := Nat.exists_eq_add_of_le low
          have short : i < bodies.length := by omega
          refine ⟨{ body := bodies[i] }, ?_, admitted bodies[i] (List.getElem_mem short)⟩
          have small : x.heap.objects.next + 1 + i < 2 ^ 63 := by omega
          rw [addressOf_wordOf small]
          exact get?_allocArrayOf_element x.heap (List.getElem?_eq_getElem short)
      · cases words
    · have array : x.kind b = some k' := (if_neg here).symm.trans array
      have old := sound.known b k' array
      rw [get?_allocArrayOf_of_lt x.heap bodies old] at there
      obtain ⟨words, capacity, body, refer⟩ := sound.elements b k' o array there
      refine ⟨words, capacity, body, ?_⟩
      intro w inside some_object
      obtain ⟨e, element, fitting⟩ := refer w inside some_object
      refine ⟨e, ?_, fitting⟩
      exact (get?_allocArrayOf_of_lt x.heap bodies (lt_next_of_live element)).trans element

end Hold

/-! ## One call -/

/-- What was there before is there with its content or not at all, and what is new is new. -/
structure Keeps (h g : Heap) : Prop where
  next : h.objects.next ≤ g.objects.next
  body : ∀ (a : Nat) o', a < h.objects.next → g.get? a = some o' →
    ∃ o, h.get? a = some o ∧ o'.body = o.body

theorem Keeps.refl (h : Heap) : Keeps h h where
  next := le_rfl
  body _ o _ there := ⟨o, there, rfl⟩

theorem Keeps.trans {h g k : Heap} (first : Keeps h g) (second : Keeps g k) : Keeps h k where
  next := first.next.trans second.next
  body a o'' old there := by
    obtain ⟨o', between, same'⟩ := second.body a o'' (Nat.lt_of_lt_of_le old first.next) there
    obtain ⟨o, before, same⟩ := first.body a o' old between
    exact ⟨o, before, same'.trans same⟩

theorem Keeps.of_loses {lost : Address → Nat} (loses : Loses h g lost) : Keeps h g where
  next := loses.next.ge
  body _ _ _ there := by
    obtain ⟨o, before, same, -⟩ := loses.exists_of_get? there
    exact ⟨o, before, same⟩

/-- `y` has come from `x` with some references taken and some given up. -/
structure Accounted (x y : Holder) (taken given : Nat → Nat) : Prop where
  sound : y.Sound
  keeps : Keeps x.heap y.heap
  count : ∀ a, y.heap.count a + given a = x.heap.count a + made x y a + taken a

theorem made_of_next_eq (same : y.heap.objects.next = x.heap.objects.next) (a : Nat) :
    made x y a = 0 := by
  apply if_neg
  rw [same]
  omega

theorem made_trans {z : Holder} (first : Keeps x.heap y.heap) (second : Keeps y.heap z.heap)
    (a : Nat) : made x z a = made x y a + made y z a := by
  have low := first.next
  have high := second.next
  unfold made
  split <;> split <;> split <;> omega

theorem Sound.accounted (sound : x.Sound) : Accounted x x 0 0 where
  sound := sound
  keeps := Keeps.refl x.heap
  count a := by
    rw [made_of_next_eq rfl]
    rfl

/-- What is taken and given up on the way is taken and given up in all. -/
theorem Accounted.trans {z : Holder} {taken given taken' given' : Nat → Nat}
    (first : Accounted x y taken given) (second : Accounted y z taken' given') :
    Accounted x z (taken + taken') (given + given') where
  sound := second.sound
  keeps := first.keeps.trans second.keeps
  count a := by
    have before := first.count a
    have after := second.count a
    rw [made_trans first.keeps second.keeps, Pi.add_apply, Pi.add_apply]
    omega

/-- Whoever gives up a reference gives up all that goes with it. -/
theorem Sound.accounted_of_loses (sound : x.Sound) {lost : Nat → Nat}
    (loses : Loses x.heap y.heap lost) (same_kind : y.kind = x.kind)
    (holds : a = 0 ∨ 0 < x.held a) (given : y.held = x.held - once a)
    (balance : ∀ b, y.owned b + lost b ≤ x.owned b + once a b) : Accounted x y 0 lost := by
  obtain ⟨sound', count⟩ := sound.give loses same_kind holds given balance
  refine ⟨sound', Keeps.of_loses loses, ?_⟩
  intro b
  rw [made_of_next_eq loses.next]
  exact count b

/-- An array of new objects is held once, and each of them by the array. -/
theorem Sound.accounted_hold (sound : x.Sound) (admitted : ∀ body ∈ bodies, k.admits body)
    (fits : x.heap.objects.next + bodies.length < 2 ^ 63) :
    Accounted x (x.hold k (x.heap.allocArrayOf bodies)) 0 0 where
  sound := sound.hold admitted fits
  keeps.next := by
    rw [next_hold]
    omega
  keeps.body b o old there :=
    ⟨o, (get?_allocArrayOf_of_lt x.heap bodies old).symm.trans there, rfl⟩
  count b := by
    have counted := count_allocArrayOf x.heap bodies b
    rw [← next_allocArrayOf] at counted
    exact counted

/-- A reference that is taken is held. -/
theorem Sound.accounted_retain (sound : x.Sound) (there : a = 0 ∨ (x.heap.get? a).isSome) :
    Accounted x (x.step (.retain a)) (once a) 0 where
  sound := sound.retain there
  keeps.next := le_rfl
  keeps.body b o' _ after := by
    obtain ⟨o, before, same, -⟩ := exists_get?_retain after
    exact ⟨o, before, same⟩
  count b := by
    have none_new : made x (x.step (.retain a)) b = 0 := made_of_next_eq rfl b
    rw [none_new]
    exact count_retain sound.proper there b

/-- An array is given up in the way of its kind. -/
theorem Sound.loses_giveUp (sound : x.Sound) (array : a = 0 ∨ x.kind a = some k) :
    Loses x.heap (x.step (k.giveUp a)).heap (x.heap.lostWith a) := by
  have somewhere : ∀ w ∈ (x.heap.wordsAt? a).getD [], w ≠ 0 → addressOf w ≠ 0 := by
    rcases array with rfl | array
    · rw [wordsAt_of_gone sound.proper.nowhere]
      simp
    · exact sound.somewhere array
  cases k with
  | texts => exact loses_releaseStrings sound.proper somewhere
  | values => exact loses_releaseValues sound.proper somewhere

/-- Giving up what one holds, in the way that its kind asks for. -/
theorem Sound.accounted_giveUp (sound : x.Sound)
    (mine : a = 0 ∨ (0 < x.held a ∧ x.kind a = some k)) :
    Accounted x (x.step (k.giveUp a)) 0 (x.heap.lostWith a) := by
  have array : a = 0 ∨ x.kind a = some k := mine.imp_right And.right
  have loses := sound.loses_giveUp array
  have given : (x.step (k.giveUp a)).held = x.held - once a := by cases k <;> rfl
  have same_kind : (x.step (k.giveUp a)).kind = x.kind := by cases k <;> rfl
  apply sound.accounted_of_loses loses same_kind (mine.imp_right And.left) given
  exact sound.owned_add_lostWith_le array loses same_kind

theorem Sound.accounted_step (sound : x.Sound) {c : Handling} (allowed : x.allows c) :
    Accounted x (x.step c) (x.increfs c) (x.decrefs c) := by
  cases c with
  | retain a => exact sound.accounted_retain allowed
  | release a =>
      have loses := loses_release sound.proper a
      apply sound.accounted_of_loses (y := x.step (.release a)) loses rfl
        (allowed.imp_right And.left) rfl
      intro b
      have fewer := owned_le_of_loses (y := x.step (.release a)) loses rfl b
      exact Nat.add_le_add_right fewer _
  | releaseStrings a => exact sound.accounted_giveUp (k := .texts) allowed
  | releaseValues a => exact sound.accounted_giveUp (k := .values) allowed
  | strings items =>
      apply sound.accounted_hold
      · intro body inside
        obtain ⟨s, -, rfl⟩ := List.mem_map.mp inside
        rfl
      · simpa [allows] using allowed
  | row values =>
      apply sound.accounted_hold
      · intro body inside
        obtain ⟨v, -, rfl⟩ := List.mem_map.mp inside
        rfl
      · simpa [allows] using allowed

/-! ## Runs -/

/-- Over a run, references are taken and given up as its calls say, one by one. -/
theorem Sound.accounted_run (sound : x.Sound) {calls : List Handling}
    (allowed : x.Allows calls) :
    Accounted x (x.run calls) (tally increfs x calls) (tally decrefs x calls) := by
  induction calls generalizing x with
  | nil => exact sound.accounted
  | cons c calls ih =>
      obtain ⟨first, rest⟩ := allowed
      have step := sound.accounted_step first
      exact step.trans (ih step.sound rest)

/-- What is held is there. -/
theorem Sound.exists_of_held (sound : x.Sound) (mine : 0 < x.held a) :
    ∃ o, x.heap.get? a = some o := by
  apply sound.proper.exists_of_count
  have covered := sound.covered a
  omega

/-- An array that is referred to elsewhere stays, and nothing else is touched. -/
theorem Sound.giveUp_stays (sound : x.Sound) (array : x.kind a = some k)
    (shared : 1 < x.heap.count a) :
    (x.step (k.giveUp a)).heap.count a + 1 = x.heap.count a ∧
      ∀ b, b ≠ a → (x.step (k.giveUp a)).heap.get? b = x.heap.get? b := by
  have loses := sound.loses_giveUp (Or.inr array)
  have only : x.heap.lostWith a = once a := by
    rw [lostWith, if_neg (by omega), add_zero]
  rw [only] at loses
  have somewhere : a ≠ 0 := sound.proper.ne_zero_of_count (by omega)
  constructor
  · rw [loses.count, once_self somewhere]
    omega
  · intro b other
    exact loses.same sound.proper (once_of_ne other)

/-- With its last reference an array is freed, and each element loses one reference for each
word that refers to it. -/
theorem Sound.giveUp_frees (sound : x.Sound) (array : x.kind a = some k) (mine : 0 < x.held a)
    (last : x.heap.count a = 1) :
    (x.step (k.giveUp a)).heap.get? a = none ∧
      ∀ b, b ≠ a → (x.step (k.giveUp a)).heap.count b +
        slots ((x.heap.wordsAt? a).getD []) b = x.heap.count b := by
  have after := sound.accounted_giveUp (Or.inr ⟨mine, array⟩)
  have none_new (b : Nat) : made x (x.step (k.giveUp a)) b = 0 :=
    made_of_next_eq (sound.loses_giveUp (Or.inr array)).next b
  have lost : x.heap.lostWith a = once a + slots ((x.heap.wordsAt? a).getD []) := by
    rw [lostWith, if_pos last]
  have somewhere : a ≠ 0 := sound.proper.ne_zero_of_count (by omega)
  have count (b : Nat) := after.count b
  simp only [none_new, lost, Pi.add_apply, Pi.zero_apply, add_zero] at count
  constructor
  · have count := count a
    rw [once_self somewhere] at count
    rw [after.sound.proper.gone_iff]
    omega
  · intro b other
    have count := count b
    rw [once_of_ne other] at count
    omega

/-- Whatever a program does with references that it holds, each object is referred to as often
as it was at the start, or once if it is new, and as references were taken since, less those
that were given up; it is gone exactly when there is none.  An array that loses one of several
references is still there and nothing else is touched; with the last one it is freed, and each
element loses one reference for each word of the array that refers to it, and is freed if it
has no other.  What the program holds is there, whether or not an array that held it is. -/
theorem references_are_balanced (sound : x.Sound) (calls : List Handling)
    (allowed : x.Allows calls) :
    let y := x.run calls
    let taken := tally increfs x calls
    let given := tally decrefs x calls
    (∀ a : Nat, a < x.heap.objects.next →
      y.heap.count a + given a = x.heap.count a + taken a) ∧
    (∀ a : Nat, x.heap.objects.next ≤ a → a < y.heap.objects.next →
      y.heap.count a + given a = 1 + taken a) ∧
    (∀ a, y.heap.get? a = none ↔ y.heap.count a = 0) ∧
    (∀ a, 0 < y.held a → (y.heap.get? a).isSome ∧ (a < x.heap.objects.next →
      (y.heap.get? a).map Object.body = (x.heap.get? a).map Object.body)) ∧
    ∀ a k, y.kind a = some k → 0 < y.held a →
      let g := (y.step (k.giveUp a)).heap
      (1 < y.heap.count a →
        g.count a + 1 = y.heap.count a ∧ ∀ b, b ≠ a → g.get? b = y.heap.get? b) ∧
      (y.heap.count a = 1 → g.get? a = none ∧ ∀ b, b ≠ a →
        g.count b + slots ((y.heap.wordsAt? a).getD []) b = y.heap.count b ∧
        (g.get? b = none ↔ y.heap.count b = slots ((y.heap.wordsAt? a).getD []) b) ∧
        (0 < y.held b → (g.get? b).map Object.body = (y.heap.get? b).map Object.body)) := by
  intro y taken given
  have run := sound.accounted_run allowed
  have count (a : Nat) : y.heap.count a + given a = x.heap.count a + made x y a + taken a :=
    run.count a
  refine ⟨fun a old => ?old, fun a new inside => ?new, fun a => run.sound.proper.gone_iff,
    fun a mine => ?held, fun a k array mine => ?giveUp⟩
  case old =>
    have not_new : made x y a = 0 := if_neg (by omega)
    have count := count a
    rw [not_new] at count
    exact count
  case new =>
    have count := count a
    rw [count_of_none (gone_of_next_le new), made, if_pos ⟨new, inside⟩, zero_add] at count
    exact count
  case held =>
    obtain ⟨o', there⟩ := run.sound.exists_of_held mine
    refine ⟨by rw [there]; rfl, ?_⟩
    intro old
    obtain ⟨o, before, same⟩ := run.keeps.body a o' old there
    rw [there, before, Option.map_some, Option.map_some, same]
  case giveUp =>
    intro g
    refine ⟨run.sound.giveUp_stays array, ?_⟩
    intro last
    have after := run.sound.accounted_giveUp (Or.inr ⟨mine, array⟩)
    obtain ⟨gone, lost⟩ := run.sound.giveUp_frees array mine last
    refine ⟨gone, ?_⟩
    intro b other
    have lost : g.count b + slots ((y.heap.wordsAt? a).getD []) b = y.heap.count b := lost b other
    have gone_iff : g.get? b = none ↔ g.count b = 0 := after.sound.proper.gone_iff
    refine ⟨lost, ?_, ?_⟩
    · rw [gone_iff]
      omega
    · intro mine_too
      have still : 0 < (y.step (k.giveUp a)).held b := by
        have given : (y.step (k.giveUp a)).held = y.held - once a := by cases k <;> rfl
        rw [given, Pi.sub_apply, once_of_ne other]
        exact mine_too
      obtain ⟨o', there⟩ := after.sound.exists_of_held still
      obtain ⟨o, before⟩ := run.sound.exists_of_held mine_too
      obtain ⟨o₀, before', same⟩ := after.keeps.body b o' (lt_next_of_live before) there
      rw [there, before', Option.map_some, Option.map_some, same]

/-- A program that holds an array with a null word, and one of its two texts besides. -/
def sharing : Holder where
  heap := ⟨{
    next := 4
    items := [(1, { body := .text [65] }), (2, { references := 2, body := .text [66] }),
      (3, { body := .array [1, 0, 2] 4 })]
    ascending := by decide }⟩
  held := once 2 + once 3
  kind a := if a = 3 then some .texts else none

theorem sharing_sound : sharing.Sound where
  begun := by decide
  proper.nowhere := rfl
  proper.counted a o there := by
    have inside := Pool.get?_eq_some_iff.mp there
    simp only [sharing, List.mem_cons, List.not_mem_nil, or_false, Prod.mk.injEq] at inside
    obtain ⟨-, rfl⟩ | ⟨-, rfl⟩ | ⟨-, rfl⟩ := inside <;> decide
  covered := by
    intro (a : Nat)
    have near : ∀ a < 4, sharing.held a + sharing.owned a ≤ sharing.heap.count a := by decide
    by_cases far : a < 4
    · exact near a far
    · have others : a ≠ 2 ∧ a ≠ 3 := by omega
      have held : sharing.held a = 0 := by
        simp [sharing, once, others]
      have owned : sharing.owned a = 0 := by
        apply Finset.sum_eq_zero
        intro b _
        unfold slotsAt
        split
        · next array =>
          obtain rfl : b = 3 := by
            by_contra other
            simp [sharing, other] at array
          have within : [(1 : Int64), 0, 2].all (fun w => addressOf w < 4) := by decide
          apply List.countP_eq_zero.mpr
          intro w inside refers
          have here : addressOf w = a := (of_decide_eq_true refers).2
          exact far (here ▸ of_decide_eq_true (List.all_eq_true.mp within w inside))
        · rfl
      omega
  known b k array := by
    by_cases here : b = 3
    · subst here
      decide
    · cases (if_neg here).symm.trans array
  elements b k o array there := by
    by_cases here : b = 3
    · subst here
      cases array
      cases there
      refine ⟨[1, 0, 2], 4, rfl, ?_⟩
      have each : [(1 : Int64), 0, 2].all (fun w => w = 0 ||
          (sharing.heap.get? (addressOf w)).any fun e => Elements.admits .texts e.body) := by
        decide
      intro w inside some_object
      have element := List.all_eq_true.mp each w inside
      exact (Option.any_eq_true ..).mp (by simpa [some_object] using element)
    · cases (if_neg here).symm.trans array

theorem references_are_balanced_of_sharing :
    let calls : List Handling :=
      [.retain 1, .releaseStrings 3, .strings ["C", "D"], .release 1, .row [.null, .integer 7]]
    sharing.Sound ∧ sharing.Allows calls ∧
      (sharing.run calls).heap.get? 3 = none ∧ (sharing.run calls).heap.get? 1 = none ∧
      ((sharing.run calls).heap.get? 2).isSome ∧ ((sharing.run calls).heap.get? 4).isSome := by
  intro calls
  have allowed : sharing.Allows calls := by decide
  obtain ⟨-, -, gone_iff, kept, -⟩ := references_are_balanced sharing_sound calls allowed
  refine ⟨sharing_sound, allowed, ?_, ?_, ?_, ?_⟩
  · exact (gone_iff 3).mpr (by decide)
  · exact (gone_iff 1).mpr (by decide)
  · exact (kept 2 (by decide)).1
  · exact (kept 4 (by decide)).1

end Holder

end SqlDriver.Heap
