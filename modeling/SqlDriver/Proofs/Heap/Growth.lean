/-
# SqlDriver.Proofs.Heap.Growth -- arrays are lists in room that doubles

`Room` says what the capacity of an array is: the first one, doubled as often as its words
need and no oftener.  One push keeps that (`Room.grow`), so an array that was made and then
pushed to is `Stored`: its words are those that were pushed, in order, in such room.  What the
views of an array answer is read off from there.

`arrays_are_lists` puts this together for every first capacity and every list of words, and
says that an array of texts is read back as the list that it was made of.
-/
import Mathlib.Data.List.Induction
import SqlDriver.Proofs.Heap.Array
import SqlDriver.Proofs.Text.Utf8

namespace SqlDriver.Heap

set_option autoImplicit false

variable {h : Heap} {a : Address} {first n capacity : Nat} {ws : List Int64}

/-! ## Room -/

/-- The capacity is the first one, doubled until the words fit. -/
def Room (first n capacity : Nat) : Prop :=
  ∃ k, capacity = first * 2 ^ k ∧ n ≤ capacity ∧ ∀ j, n ≤ first * 2 ^ j → k ≤ j

theorem room_zero (first : Nat) : Room first 0 first :=
  ⟨0, by simp, by omega, by intros; omega⟩

/-- There is room for one more word: what is full is doubled, and what is not is left. -/
theorem Room.grow (more : 0 < first) (room : Room first n capacity) :
    Room first (n + 1) (grow capacity n) := by
  obtain ⟨k, rfl, fits, least⟩ := room
  have some_room : 0 < first * 2 ^ k := Nat.mul_pos more (Nat.two_pow_pos k)
  rw [Heap.grow]
  split
  · next full =>
      have doubled : first * 2 ^ k * 2 = first * 2 ^ (k + 1) := by
        rw [Nat.pow_succ, Nat.mul_assoc]
      refine ⟨k + 1, doubled, by omega, ?_⟩
      intro j enough
      refine Nat.lt_of_not_le fun short => ?_
      have few : first * 2 ^ j ≤ first * 2 ^ k :=
        Nat.mul_le_mul_left first (Nat.pow_le_pow_right (by omega) short)
      omega
  · next spare =>
      refine ⟨k, rfl, by omega, ?_⟩
      intro j enough
      exact least j (by omega)

theorem initialCapacity_pos (capacity : Nat) : 0 < initialCapacity capacity := by
  unfold initialCapacity
  split <;> omega

/-! ## Arrays that were pushed to -/

/-- There is an array of these words, in room that doubled from the first. -/
def Stored (h : Heap) (a : Address) (first : Nat) (ws : List Int64) : Prop :=
  ∃ references capacity,
    h.get? a = some ⟨references, .array ws capacity⟩ ∧ Room first ws.length capacity

theorem stored_allocArray (h : Heap) (capacity : Nat) :
    Stored (h.allocArray capacity).2 (h.allocArray capacity).1 (initialCapacity capacity) [] := by
  refine ⟨1, initialCapacity capacity, ?_, room_zero _⟩
  exact (get?_alloc h h.objects.next _).trans (if_pos rfl)

/-- A word that is pushed stands at the end, and the array has grown if it had to. -/
theorem get?_push {references : Nat} (there : h.get? a = some ⟨references, .array ws capacity⟩)
    (w : Int64) :
    (h.push a w).get? a = some ⟨references, .array (ws ++ [w]) (grow capacity ws.length)⟩ := by
  rw [push, get?_update, if_pos rfl, there]
  rfl

theorem Stored.push (more : 0 < first) (stored : Stored h a first ws) (w : Int64) :
    Stored (h.push a w) a first (ws ++ [w]) := by
  obtain ⟨references, capacity, there, room⟩ := stored
  refine ⟨references, _, get?_push there w, ?_⟩
  rw [List.length_append]
  exact room.grow more

theorem Stored.pushAll (more : 0 < first) (stored : Stored h a first []) (ws : List Int64) :
    Stored (h.pushAll a ws) a first ws := by
  induction ws using List.reverseRecOn with
  | nil => exact stored
  | append_singleton ws w ih =>
      have last : h.pushAll a (ws ++ [w]) = (h.pushAll a ws).push a w := by
        simp [Heap.pushAll]
      rw [last]
      exact ih.push more w

/-! ## What the views of an array answer -/

theorem Stored.words (stored : Stored h a first ws) : h.wordsAt? a = some ws := by
  obtain ⟨references, capacity, there, -⟩ := stored
  rw [wordsAt?, there]
  rfl

/-- An array has as much room as the fewest doublings give it. -/
theorem Stored.least_capacity (stored : Stored h a first ws) :
    ∃ k, h.capacityAt? a = some (first * 2 ^ k) ∧ ws.length ≤ first * 2 ^ k ∧
      ∀ j, ws.length ≤ first * 2 ^ j → k ≤ j := by
  obtain ⟨references, capacity, there, k, rfl, fits, least⟩ := stored
  refine ⟨k, ?_, fits, least⟩
  rw [capacityAt?, there]
  rfl

theorem length_of_wordsAt (there : h.wordsAt? a = some ws) : h.length a = ws.length := by
  rw [length, there]
  rfl

theorem word_inside (there : h.wordsAt? a = some ws) {i : Int64} (front : 0 ≤ i.toInt) :
    h.word a i = ws[i.toInt.toNat]?.getD 0 := by
  rw [word, if_neg (by omega), there]
  rfl

theorem word_outside (there : h.wordsAt? a = some ws) {i : Int64}
    (outside : i.toInt < 0 ∨ (ws.length : Int) ≤ i.toInt) : h.word a i = 0 := by
  by_cases front : i.toInt < 0
  · rw [word, if_pos front]
  · rw [word_inside there (by omega), List.getElem?_eq_none (by omega)]
    rfl

/-- A push leaves the words in front of its own. -/
theorem word_push (there : h.wordsAt? a = some ws) (w : Int64) {i : Int64}
    (earlier : i.toInt < ws.length) : (h.push a w).word a i = h.word a i := by
  have pushed := wordsAt_push there w
  by_cases front : i.toInt < 0
  · rw [word_outside there (.inl front), word_outside pushed (.inl front)]
  · rw [word_inside there (by omega), word_inside pushed (by omega),
      List.getElem?_append_left (by omega)]

/-! ## Arrays of texts -/

section Texts

variable (h) (items : List String)

theorem wordsAt_allocStrings : (h.allocStrings items).2.wordsAt? (h.allocStrings items).1 =
    some ((h.elements items.length).map wordOf) := by
  have words := h.wordsAt_allocArrayOf (items.map fun s => .text (Text.Utf8.ofString s))
  rwa [List.length_map] at words

/-- The element at an index is the text that stood there in the list. -/
theorem stringAt_allocStrings (fits : h.objects.next + items.length < 2 ^ 63) {i : Nat}
    {t : String} (item : items[i]? = some t) :
    (h.allocStrings items).2.stringAt
      (addressOf ((h.allocStrings items).2.word (h.allocStrings items).1 (Int64.ofNat i))) = t := by
  have inside : i < items.length := (List.getElem?_eq_some_iff.mp item).1
  have element : (h.allocStrings items).2.get? (h.objects.next + 1 + i) =
      some { body := .text (Text.Utf8.ofString t) } := by
    apply get?_allocArrayOf_element
    rw [List.getElem?_map, item]
    rfl
  have address : (h.elements items.length)[i]? = some (h.objects.next + 1 + i) := by
    rw [elements, List.getElem?_range' inside, Nat.one_mul]
  have small : h.objects.next + 1 + i < 2 ^ 63 := by omega
  rw [word_of_wordsAt (wordsAt_allocStrings h items) (by omega), List.getElem?_map, address,
    Option.map_some, Option.getD_some, addressOf_wordOf small, stringAt, textAt?, element]
  exact Text.Utf8.toStringLossy_ofString t

end Texts

/-- An array is the list of the words that were pushed: each is answered at its index and zero at
all others, a push leaves those in front of it alone, and the capacity is the first one, doubled
as often as the words need and no oftener.  An array of texts is read back as the list that it
was made of. -/
theorem arrays_are_lists (h : Heap) (capacity : Nat) (ws : List Int64) (items : List String)
    (fits : h.objects.next + items.length < 2 ^ 63) :
    let a := (h.allocArray capacity).1
    let g := (h.allocArray capacity).2.pushAll a ws
    let first := if capacity = 0 then 4 else capacity
    let b := (h.allocStrings items).1
    let s := (h.allocStrings items).2
    g.length a = ws.length ∧
    (∀ i w, 0 ≤ i.toInt → ws[i.toInt.toNat]? = some w → g.word a i = w) ∧
    (∀ i, i.toInt < 0 ∨ (ws.length : Int) ≤ i.toInt → g.word a i = 0) ∧
    (∀ w i, i.toInt < (ws.length : Int) → (g.push a w).word a i = g.word a i) ∧
    (∃ k, g.capacityAt? a = some (first * 2 ^ k) ∧ ws.length ≤ first * 2 ^ k ∧
      ∀ j, ws.length ≤ first * 2 ^ j → k ≤ j) ∧
    s.length b = items.length ∧
    ∀ i t, items[i]? = some t → s.stringAt (addressOf (s.word b (Int64.ofNat i))) = t := by
  intro a g first b s
  have stored : Stored g a first ws :=
    (stored_allocArray h capacity).pushAll (initialCapacity_pos capacity) ws
  refine ⟨length_of_wordsAt stored.words, ?_, ?_, ?_, stored.least_capacity, ?_, ?_⟩
  · intro i w front there
    rw [word_inside stored.words front, there]
    rfl
  · intro i outside
    exact word_outside stored.words outside
  · intro w i earlier
    exact word_push stored.words w earlier
  · rw [length_of_wordsAt (wordsAt_allocStrings h items)]
    simp [elements]
  · intro i t item
    exact stringAt_allocStrings h items fits item

/-- Five words in an array that began with room for one, and a list of two texts. -/
theorem arrays_are_lists_of_five :
    let g := (Heap.allocArray {} 1).2.pushAll 1 [3, -1, 4, 1, 5]
    let s := (Heap.allocStrings {} ["id", "naïve"]).2
    (({} : Heap).objects.next + ["id", "naïve"].length < 2 ^ 63) ∧
    g.length 1 = 5 ∧ g.word 1 1 = -1 ∧ g.word 1 4 = 5 ∧ g.word 1 5 = 0 ∧ g.word 1 (-1) = 0 ∧
    (g.push 1 9).word 1 4 = 5 ∧ (∃ k, g.capacityAt? 1 = some (1 * 2 ^ k) ∧ 5 ≤ 1 * 2 ^ k ∧
      ∀ j, 5 ≤ 1 * 2 ^ j → k ≤ j) ∧
    s.length 1 = 2 ∧ s.stringAt (addressOf (s.word 1 (Int64.ofNat 1))) = "naïve" := by
  intro g s
  have fits : ({} : Heap).objects.next + ["id", "naïve"].length < 2 ^ 63 := by decide
  obtain ⟨length, inside, outside, kept, capacity, size, texts⟩ :=
    arrays_are_lists {} 1 [3, -1, 4, 1, 5] ["id", "naïve"] fits
  have last : g.word 1 4 = 5 := inside 4 5 (by decide) rfl
  refine ⟨fits, length, inside 1 (-1) (by decide) rfl, last, outside 5 (.inr (by decide)),
    outside (-1) (.inl (by decide)), ?_, capacity, size, texts 1 "naïve" rfl⟩
  exact (kept 9 4 (by decide)).trans last

end SqlDriver.Heap
