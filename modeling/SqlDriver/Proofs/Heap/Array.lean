/-
# SqlDriver.Proofs.Heap.Array -- arrays of new objects

An object that is made lies at the next address, and all others stay what they are
(`get?_alloc`).  An array of new objects lies in front of its elements, which follow one
another in the order of the array (`wordsAt_allocArrayOf`, `get?_allocArrayOf_element`); what
was there before is what it was (`get?_allocArrayOf_of_live`).
-/
import Mathlib.Algebra.Group.Nat.Defs
import SqlDriver.Heap.Array

namespace SqlDriver.Heap

set_option autoImplicit false

variable (h : Heap) (a b : Address)

/-! ## Single objects -/

theorem get?_alloc (body : Body) :
    (h.alloc body).2.get? b = if b = h.objects.next then some { body } else h.get? b :=
  h.objects.get?_insert _ b

theorem get?_update (f : Body → Body) :
    (h.update a f).get? b =
      if b = a then (h.get? b).map fun o => { o with body := f o.body } else h.get? b :=
  h.objects.get?_modify a _ b

variable {h a b}

/-- There is nothing at the next address. -/
theorem lt_next_of_live {o : Object} (there : h.get? b = some o) : b < h.objects.next :=
  Pool.lt_next_of_get? there

theorem get?_next : h.get? h.objects.next = none :=
  h.objects.get?_next

theorem get?_alloc_of_live {o : Object} (there : h.get? b = some o) (body : Body) :
    (h.alloc body).2.get? b = some o := by
  rw [get?_alloc, if_neg (Nat.ne_of_lt (lt_next_of_live there)), there]

/-! ## Arrays -/

theorem get?_push_of_ne (other : b ≠ a) (w : Int64) : (h.push a w).get? b = h.get? b := by
  rw [push, get?_update, if_neg other]

theorem wordsAt_congr {g : Heap} (same : g.get? a = h.get? a) : g.wordsAt? a = h.wordsAt? a := by
  rw [wordsAt?, same, wordsAt?]

theorem wordsAt_push {words : List Int64} (there : h.wordsAt? a = some words) (w : Int64) :
    (h.push a w).wordsAt? a = some (words ++ [w]) := by
  unfold wordsAt? at there ⊢
  rw [push, get?_update, if_pos rfl]
  cases found : h.get? a with
  | none => rw [found] at there; cases there
  | some o =>
      obtain ⟨references, body⟩ := o
      rw [found] at there
      cases body <;> cases there
      rfl

/-- Adds a new object for each of some bodies at the end of an array. -/
def pushNew (h : Heap) (a : Address) (bodies : List Body) : Heap :=
  bodies.foldl
    (fun h body =>
      let (e, h) := h.alloc body
      h.push a (wordOf e)) h

section PushNew

variable (bodies : List Body)

theorem next_pushNew : (h.pushNew a bodies).objects.next = h.objects.next + bodies.length := by
  induction bodies generalizing h with
  | nil => rfl
  | cons body rest ih =>
      change (pushNew _ a rest).objects.next = _
      rw [ih, List.length_cons, Nat.add_comm rest.length 1, ← Nat.add_assoc]
      rfl

/-- What lies elsewhere is left alone. -/
theorem get?_pushNew_of_lt (other : b ≠ a) (old : b < h.objects.next) :
    (h.pushNew a bodies).get? b = h.get? b := by
  induction bodies generalizing h with
  | nil => rfl
  | cons body rest ih =>
      change (pushNew ((h.alloc body).2.push a _) a rest).get? b = _
      rw [ih (Nat.lt_succ_of_lt old), get?_push_of_ne other, get?_alloc, if_neg (Nat.ne_of_lt old)]

variable (array : a < h.objects.next)

include array

/-- New objects that are pushed stand at the end of an array, in their order. -/
theorem wordsAt_pushNew {words : List Int64} (there : h.wordsAt? a = some words) :
    (h.pushNew a bodies).wordsAt? a =
      some (words ++ (List.range' h.objects.next bodies.length).map wordOf) := by
  induction bodies generalizing h words with
  | nil => exact there.trans (congrArg some (List.append_nil words).symm)
  | cons body rest ih =>
      have kept : (h.alloc body).2.wordsAt? a = some words := by
        rw [wordsAt_congr, there]
        rw [get?_alloc, if_neg (Nat.ne_of_lt array)]
      change (pushNew ((h.alloc body).2.push a (wordOf h.objects.next)) a rest).wordsAt? a = _
      rw [ih (Nat.lt_succ_of_lt array) (wordsAt_push kept _), List.length_cons, List.range'_succ,
        List.map_cons, List.append_assoc, List.singleton_append]
      rfl

theorem get?_pushNew_element {i : Nat} {body : Body} (element : bodies[i]? = some body) :
    (h.pushNew a bodies).get? (h.objects.next + i) = some { body } := by
  induction bodies generalizing h i with
  | nil => cases element
  | cons first rest ih =>
      change (pushNew ((h.alloc first).2.push a (wordOf h.objects.next)) a rest).get? _ = _
      cases i with
      | zero =>
          obtain rfl : first = body := Option.some.inj element
          have old : h.objects.next <
              ((h.alloc first).2.push a (wordOf h.objects.next)).objects.next :=
            Nat.lt_succ_self h.objects.next
          rw [Nat.add_zero, get?_pushNew_of_lt rest (Nat.ne_of_gt array) old,
            get?_push_of_ne (Nat.ne_of_gt array), get?_alloc, if_pos rfl]
      | succ i =>
          have behind := ih (h := (h.alloc first).2.push a (wordOf h.objects.next))
            (Nat.lt_succ_of_lt array) element
          rw [← behind]
          congr 1
          change h.objects.next + (i + 1) = h.objects.next + 1 + i
          omega

end PushNew

/-! ## Arrays of new objects -/

section AllocArrayOf

variable (h) (bodies : List Body)

/-- The addresses of the elements of a new array: those behind its own. -/
def elements (h : Heap) (count : Nat) : List Address :=
  List.range' (h.objects.next + 1) count

theorem allocArrayOf_snd : (h.allocArrayOf bodies).2 =
    (h.allocArray bodies.length).2.pushNew h.objects.next bodies := rfl

theorem next_allocArrayOf :
    (h.allocArrayOf bodies).2.objects.next = h.objects.next + 1 + bodies.length := by
  rw [allocArrayOf_snd, next_pushNew]
  rfl

/-- An array of new objects refers to them in their order. -/
theorem wordsAt_allocArrayOf :
    (h.allocArrayOf bodies).2.wordsAt? h.objects.next =
      some ((h.elements bodies.length).map wordOf) := by
  have empty : (h.allocArray bodies.length).2.wordsAt? h.objects.next = some [] := by
    rw [wordsAt?, allocArray, get?_alloc, if_pos rfl]
    rfl
  rw [allocArrayOf_snd, wordsAt_pushNew bodies (Nat.lt_succ_self h.objects.next) empty]
  rfl

variable {bodies}

theorem get?_allocArrayOf_element {i : Nat} {body : Body} (element : bodies[i]? = some body) :
    (h.allocArrayOf bodies).2.get? (h.objects.next + 1 + i) = some { body } :=
  get?_pushNew_element bodies (Nat.lt_succ_self _) element

variable {h}

theorem get?_allocArrayOf_of_live {o : Object} (there : h.get? b = some o) :
    (h.allocArrayOf bodies).2.get? b = some o := by
  have old := lt_next_of_live there
  rw [allocArrayOf_snd, get?_pushNew_of_lt bodies (Nat.ne_of_lt old) (Nat.lt_succ_of_lt old)]
  exact get?_alloc_of_live there _

end AllocArrayOf

/-! ## Words -/

theorem addressOf_wordOf (small : a < 2 ^ 63) : addressOf (wordOf a) = a :=
  Int64.toNatClampNeg_ofNat_of_lt small

theorem word_of_wordsAt {words : List Int64} (there : h.wordsAt? a = some words) {i : Nat}
    (small : i < 2 ^ 63) : h.word a (Int64.ofNat i) = words[i]?.getD 0 := by
  have index : (Int64.ofNat i).toInt = i := Int64.toInt_ofNat_of_lt small
  rw [word, index, if_neg (by omega), there]
  rfl

end SqlDriver.Heap
