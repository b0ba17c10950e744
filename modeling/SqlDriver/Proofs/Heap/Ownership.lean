/-
# SqlDriver.Proofs.Heap.Ownership -- who holds the references to an object

A reference is held by the program or by a live array of texts or of values, which holds one
for each of its words.  A `Holder` is a heap with what the program holds itself; it is `Sound`
if the references to every object cover these two kinds of holders and the elements of every
such array are live objects of its kind.

A program that gives up a reference that it holds keeps that, whether the reference was the last
one or not (`Sound.give`): with its last reference an array gives up those that it holds itself
(`Sound.owned_add_lostWith_le`), so that nothing is freed that is still referred to, and nothing
is given up that is not there.  So does a program that takes a reference (`Sound.retain`).
-/
import Mathlib.Algebra.BigOperators.Group.Finset.Basic
import Mathlib.Algebra.Order.BigOperators.Group.Finset
import SqlDriver.Proofs.Heap.References

namespace SqlDriver.Heap

set_option autoImplicit false

/-- What the words of an array refer to. -/
inductive Elements where
  | texts
  | values
deriving DecidableEq, Repr

/-- The object may be an element of such an array. -/
def Elements.admits : Elements → Body → Bool
  | .texts, .text _ => true
  | .values, .value _ => true
  | _, _ => false

/-- A program with its heap. -/
structure Holder where
  heap : Heap
  /-- The references that the program holds itself. -/
  held : Address → Nat
  /-- The arrays whose words are references. -/
  kind : Address → Option Elements

/-- What a program does with references. -/
inductive Handling where
  | retain (a : Address)
  /-- Gives up an object that is no array of references. -/
  | release (a : Address)
  | releaseStrings (a : Address)
  | releaseValues (a : Address)
  | strings (items : List String)
  | row (values : List Value)
deriving DecidableEq, Repr

/-- The way in which an array of a kind is given up. -/
def Elements.giveUp : Elements → Address → Handling
  | .texts => .releaseStrings
  | .values => .releaseValues

namespace Holder

variable {x y : Holder} {a b : Address} {k : Elements} {lost : Address → Nat}

/-! ## What a program does, and when it may -/

/-- The program gets a new array, with the one reference to it. -/
def hold (x : Holder) (k : Elements) (array : Address × Heap) : Holder where
  heap := array.2
  held := x.held + once array.1
  kind b := if b = array.1 then some k else x.kind b

def step (x : Holder) : Handling → Holder
  | .retain a => { x with heap := x.heap.retain a, held := x.held + once a }
  | .release a => { x with heap := x.heap.release a, held := x.held - once a }
  | .releaseStrings a => { x with heap := x.heap.releaseStrings a, held := x.held - once a }
  | .releaseValues a => { x with heap := x.heap.releaseValues a, held := x.held - once a }
  | .strings items => x.hold .texts (x.heap.allocStrings items)
  | .row values => x.hold .values (x.heap.allocValues values)

/-- A program takes references to what is there, and gives up what it holds in the way that
fits it.  New objects need addresses. -/
def allows (x : Holder) : Handling → Prop
  | .retain a => a = 0 ∨ (x.heap.get? a).isSome
  | .release a => a = 0 ∨ (0 < x.held a ∧ x.kind a = none)
  | .releaseStrings a => a = 0 ∨ (0 < x.held a ∧ x.kind a = some .texts)
  | .releaseValues a => a = 0 ∨ (0 < x.held a ∧ x.kind a = some .values)
  | .strings items => x.heap.objects.next + items.length < 2 ^ 63
  | .row values => x.heap.objects.next + values.length < 2 ^ 63

def run (x : Holder) (calls : List Handling) : Holder :=
  calls.foldl step x

/-- Each call is one that the program may make when it makes it. -/
def Allows (x : Holder) : List Handling → Prop
  | [] => True
  | c :: calls => x.allows c ∧ (x.step c).Allows calls

instance (x : Holder) : (c : Handling) → Decidable (x.allows c)
  | .retain a => inferInstanceAs (Decidable (a = 0 ∨ _))
  | .release a => inferInstanceAs (Decidable (a = 0 ∨ _))
  | .releaseStrings a => inferInstanceAs (Decidable (a = 0 ∨ _))
  | .releaseValues a => inferInstanceAs (Decidable (a = 0 ∨ _))
  | .strings _ => inferInstanceAs (Decidable (_ < 2 ^ 63))
  | .row _ => inferInstanceAs (Decidable (_ < 2 ^ 63))

instance decidableAllows (x : Holder) : (calls : List Handling) → Decidable (x.Allows calls)
  | [] => isTrue trivial
  | c :: calls =>
      have := decidableAllows (x.step c) calls
      inferInstanceAs (Decidable (x.allows c ∧ (x.step c).Allows calls))

/-! ## Counts of references -/

/-- The reference that an object is made with. -/
def made (x y : Holder) (a : Nat) : Nat :=
  if x.heap.objects.next ≤ a ∧ a < y.heap.objects.next then 1 else 0

/-- The references that are taken. -/
def increfs (_ : Holder) : Handling → Address → Nat
  | .retain a => once a
  | _ => 0

/-- The references that are given up, those of an array to its elements among them. -/
def decrefs (x : Holder) : Handling → Address → Nat
  | .release a => once a
  | .releaseStrings a => x.heap.lostWith a
  | .releaseValues a => x.heap.lostWith a
  | _ => 0

/-- The sum of what is counted at each call of a run. -/
def tally (count : Holder → Handling → Address → Nat) (x : Holder) :
    List Handling → Address → Nat
  | [], _ => 0
  | c :: calls, a => count x c a + tally count (x.step c) calls a

/-! ## References of arrays -/

/-- The references that an array holds to an object. -/
def slotsAt (x : Holder) (b a : Address) : Nat :=
  if (x.kind b).isSome then slots ((x.heap.wordsAt? b).getD []) a else 0

/-- The references that arrays hold to an object. -/
def owned (x : Holder) (a : Address) : Nat :=
  ∑ b ∈ Finset.range x.heap.objects.next, x.slotsAt b a

structure Sound (x : Holder) : Prop where
  begun : 0 < x.heap.objects.next
  proper : x.heap.Proper
  /-- Every reference that is held is counted. -/
  covered : ∀ a, x.held a + x.owned a ≤ x.heap.count a
  known : ∀ (b : Nat) (k : Elements), x.kind b = some k → b < x.heap.objects.next
  /-- The words of an array of references are null or refer to live objects of its kind. -/
  elements : ∀ b k o, x.kind b = some k → x.heap.get? b = some o →
    ∃ words capacity, o.body = .array words capacity ∧
      ∀ w ∈ words, w ≠ 0 → ∃ e, x.heap.get? (addressOf w) = some e ∧ k.admits e.body

theorem slotsAt_of_gone (gone : x.heap.get? b = none) : x.slotsAt b a = 0 := by
  rw [slotsAt, wordsAt_of_gone gone]
  split <;> rfl

theorem slotsAt_le_owned (x : Holder) (b a : Address) : x.slotsAt b a ≤ x.owned a := by
  cases there : x.heap.get? b with
  | none =>
      rw [slotsAt_of_gone there]
      omega
  | some o =>
      have inside : b ∈ Finset.range x.heap.objects.next :=
        Finset.mem_range.mpr (lt_next_of_live there)
      exact Finset.single_le_sum (f := fun b => x.slotsAt b a) (fun _ _ => Nat.zero_le _) inside

/-- The words of an array that may be given up are null or refer to something. -/
theorem Sound.somewhere (sound : x.Sound) (array : x.kind b = some k) :
    ∀ w ∈ (x.heap.wordsAt? b).getD [], w ≠ 0 → addressOf w ≠ 0 := by
  intro w inside some_object nowhere
  cases there : x.heap.get? b with
  | none =>
      rw [wordsAt_of_gone there] at inside
      cases inside
  | some o =>
      obtain ⟨words, capacity, body, refer⟩ := sound.elements b k o array there
      rw [wordsAt_of_body there body] at inside
      obtain ⟨e, element, -⟩ := refer w inside some_object
      exact sound.proper.ne_zero element nowhere

/-! ## Giving references up -/

section Losing

variable (loses : Loses x.heap y.heap lost) (same_kind : y.kind = x.kind)

include loses

/-- An array that is still there has its words, and one that is gone has none. -/
theorem wordsAt_of_loses :
    y.heap.wordsAt? b = if y.heap.get? b = none then none else x.heap.wordsAt? b := by
  cases there : y.heap.get? b with
  | none => exact wordsAt_of_gone there
  | some o' =>
      obtain ⟨o, before, body, -⟩ := loses.exists_of_get? there
      rw [wordsAt?, wordsAt?, there, before]
      simp [body]

include same_kind

theorem slotsAt_of_loses :
    y.slotsAt b a = if y.heap.get? b = none then 0 else x.slotsAt b a := by
  unfold slotsAt
  rw [same_kind, wordsAt_of_loses loses]
  split <;> split <;> rfl

theorem owned_le_of_loses (a : Address) : y.owned a ≤ x.owned a := by
  unfold owned
  rw [loses.next]
  apply Finset.sum_le_sum
  intro b _
  rw [slotsAt_of_loses loses same_kind]
  split <;> omega

/-- An array that is gone holds none of the references any more that it held. -/
theorem owned_add_slotsAt_le (gone : y.heap.get? b = none) (a : Address) :
    y.owned a + x.slotsAt b a ≤ x.owned a := by
  cases there : x.heap.get? b with
  | none =>
      rw [slotsAt_of_gone there]
      exact owned_le_of_loses loses same_kind a
  | some o =>
      have inside : b ∈ Finset.range x.heap.objects.next :=
        Finset.mem_range.mpr (lt_next_of_live there)
      have before : x.slotsAt b a +
          ∑ c ∈ (Finset.range x.heap.objects.next).erase b, x.slotsAt c a = x.owned a :=
        Finset.add_sum_erase _ (fun c => x.slotsAt c a) inside
      have after : y.slotsAt b a +
          ∑ c ∈ (Finset.range x.heap.objects.next).erase b, y.slotsAt c a = y.owned a := by
        rw [owned, loses.next]
        exact Finset.add_sum_erase _ (fun c => y.slotsAt c a) inside
      have others : ∑ c ∈ (Finset.range x.heap.objects.next).erase b, y.slotsAt c a ≤
          ∑ c ∈ (Finset.range x.heap.objects.next).erase b, x.slotsAt c a := by
        apply Finset.sum_le_sum
        intro c _
        rw [slotsAt_of_loses loses same_kind]
        split <;> omega
      have nothing : y.slotsAt b a = 0 := slotsAt_of_gone gone
      omega

/-- What an array refers to is there as long as the array is, if every reference that is held
is counted. -/
theorem Sound.lose (sound : x.Sound) (covered : ∀ a, y.held a + y.owned a ≤ y.heap.count a) :
    y.Sound where
  begun := by
    rw [loses.next]
    exact sound.begun
  proper := loses.proper sound.proper
  covered := covered
  known b k array := by
    rw [loses.next]
    exact sound.known b k (same_kind ▸ array)
  elements b k o' array there := by
    obtain ⟨o, before, body, -⟩ := loses.exists_of_get? there
    obtain ⟨words, capacity, same, refer⟩ := sound.elements b k o (same_kind ▸ array) before
    refine ⟨words, capacity, body.trans same, ?_⟩
    intro w inside some_object
    obtain ⟨e, element, admitted⟩ := refer w inside some_object
    have words_there := wordsAt_of_body there (body.trans same)
    have held_there : 0 < y.slotsAt b (addressOf w) := by
      rw [slotsAt, array, words_there]
      exact slots_pos inside some_object
    have counted := covered (addressOf w)
    have among := slotsAt_le_owned y b (addressOf w)
    obtain ⟨e', still⟩ := (loses.proper sound.proper).exists_of_count
      (a := addressOf w) (by omega)
    obtain ⟨e₀, element', body', -⟩ := loses.exists_of_get? still
    obtain rfl : e = e₀ := Option.some.inj (element.symm.trans element')
    exact ⟨e', still, by rw [body']; exact admitted⟩

end Losing

theorem once_le_held (holds : a = 0 ∨ 0 < x.held a) (b : Address) : once a b ≤ x.held b := by
  unfold once
  split
  · next here =>
      obtain ⟨rfl, somewhere⟩ := here
      have := holds.resolve_left somewhere
      omega
  · omega

/-- With its last reference an array gives up those that it holds. -/
theorem Sound.owned_add_lostWith_le (sound : x.Sound) (array : a = 0 ∨ x.kind a = some k)
    (loses : Loses x.heap y.heap (x.heap.lostWith a)) (same_kind : y.kind = x.kind)
    (b : Address) : y.owned b + x.heap.lostWith a b ≤ x.owned b + once a b := by
  have fewer := owned_le_of_loses loses same_kind b
  by_cases last : x.heap.count a = 1
  · have somewhere : a ≠ 0 := sound.proper.ne_zero_of_count (by omega)
    have gone : y.heap.get? a = none := by
      rw [(loses.proper sound.proper).gone_iff, loses.count, last, lostWith, Pi.add_apply,
        once_self somewhere]
      omega
    have freed := owned_add_slotsAt_le loses same_kind gone b
    rw [slotsAt, array.resolve_left somewhere, Option.isSome_some, if_pos rfl] at freed
    rw [lostWith, if_pos last, Pi.add_apply]
    omega
  · rw [lostWith, if_neg last, add_zero]
    omega

/-- A program gives up a reference that it holds, and what becomes of it is covered: each object
loses what is said, and not more than it has. -/
theorem Sound.give (sound : x.Sound) (loses : Loses x.heap y.heap lost)
    (same_kind : y.kind = x.kind) (holds : a = 0 ∨ 0 < x.held a)
    (given : y.held = x.held - once a)
    (balance : ∀ b, y.owned b + lost b ≤ x.owned b + once a b) :
    y.Sound ∧ ∀ b, y.heap.count b + lost b = x.heap.count b := by
  have one := once_le_held holds
  have left := loses.count
  have covered := sound.covered
  refine ⟨sound.lose loses same_kind fun b => ?_, fun b => ?_⟩
  · have given := congrFun given b
    have := one b; have := left b; have := covered b; have := balance b
    rw [Pi.sub_apply] at given
    omega
  · have := one b; have := left b; have := covered b; have := balance b
    omega

/-! ## Taking references -/

theorem get?_retain (h : Heap) (a b : Address) : (h.retain a).get? b =
    if b = a then (h.get? b).map fun o => { o with references := o.references + 1 }
    else h.get? b :=
  h.objects.get?_modify a _ b

/-- What is there has one reference more, and nothing else is changed. -/
theorem count_retain {h : Heap} (proper : h.Proper) (there : a = 0 ∨ (h.get? a).isSome)
    (b : Address) : (h.retain a).count b = h.count b + once a b := by
  by_cases here : b = a
  · subst here
    rcases there with rfl | there
    · have nothing : (h.retain 0).get? 0 = none := by
        rw [get?_retain, if_pos rfl, proper.nowhere, Option.map_none]
      rw [count_of_none nothing, count_of_none proper.nowhere, once_zero]
      rfl
    · obtain ⟨o, there⟩ := Option.isSome_iff_exists.mp there
      have somewhere := proper.ne_zero there
      have more : (h.retain b).get? b = some { o with references := o.references + 1 } := by
        rw [get?_retain, if_pos rfl, there, Option.map_some]
      rw [count_of_get? more, count_of_get? there, once_self somewhere]
  · have same : (h.retain a).get? b = h.get? b := by rw [get?_retain, if_neg here]
    rw [count, references?, same, once_of_ne here, add_zero]
    rfl

theorem exists_get?_retain {h : Heap} {o' : Object} (there : (h.retain a).get? b = some o') :
    ∃ o, h.get? b = some o ∧ o'.body = o.body ∧ o.references ≤ o'.references := by
  rw [get?_retain] at there
  split at there
  · obtain ⟨o, before, rfl⟩ := Option.map_eq_some_iff.mp there
    exact ⟨o, before, rfl, by simp⟩
  · exact ⟨o', there, rfl, le_rfl⟩

theorem body_retain (h : Heap) (a b : Address) :
    ((h.retain a).get? b).map Object.body = (h.get? b).map Object.body := by
  rw [get?_retain]
  split
  · rw [Option.map_map]
    rfl
  · rfl

/-- Another reference to an object that is there is sound. -/
theorem Sound.retain (sound : x.Sound) (there : a = 0 ∨ (x.heap.get? a).isSome) :
    (x.step (.retain a)).Sound where
  begun := sound.begun
  proper.nowhere := by
    change (x.heap.retain a).get? 0 = none
    have same := body_retain x.heap a 0
    rw [sound.proper.nowhere, Option.map_none, Option.map_eq_none_iff] at same
    exact same
  proper.counted b o' after := by
    obtain ⟨o, before, -, more⟩ := exists_get?_retain after
    exact Nat.lt_of_lt_of_le (sound.proper.counted b o before) more
  covered b := by
    have owned_same : (x.step (.retain a)).owned b = x.owned b := by
      apply Finset.sum_congr rfl
      intro c _
      have words : (x.heap.retain a).wordsAt? c = x.heap.wordsAt? c := by
        rw [wordsAt?, body_retain, wordsAt?]
      change (if (x.kind c).isSome then slots (((x.heap.retain a).wordsAt? c).getD []) b else 0) = _
      rw [words, slotsAt]
    have covered := sound.covered b
    have more := count_retain sound.proper there b
    change x.held b + once a b + _ ≤ (x.heap.retain a).count b
    rw [owned_same, more]
    omega
  known := sound.known
  elements b k o' array after := by
    obtain ⟨o, before, body, -⟩ := exists_get?_retain after
    obtain ⟨words, capacity, same, refer⟩ := sound.elements b k o array before
    refine ⟨words, capacity, body.trans same, ?_⟩
    intro w inside some_object
    obtain ⟨e, element, admitted⟩ := refer w inside some_object
    have still := body_retain x.heap a (addressOf w)
    rw [element, Option.map_some, Option.map_eq_some_iff] at still
    obtain ⟨e', element', body'⟩ := still
    exact ⟨e', element', by rw [body']; exact admitted⟩

end Holder

end SqlDriver.Heap
