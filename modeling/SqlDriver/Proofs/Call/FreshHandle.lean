/-
# SqlDriver.Proofs.Call.FreshHandle -- a registry is a map whose keys are always fresh

What a registry answers follows from the requests that it has had, without a look at the
registry: `Requests` lists them, `Registry.serving` answers them one after the other and
records each request with its reply.  A handle stands for what the insertion that answered
it stored, until it is removed (`StandsFor`).  `registry_keeps` says that every registry
keeps to its record, whatever it was asked: its handles ascend, it finds exactly what its
handles stand for, it gives up each of them once, and it counts them.

`Keeping` is the invariant of one request: the handles are the numbers from one upwards, and
every live key is one of them.
-/
import SqlDriver.Call.Registry
import Mathlib.Algebra.Group.Nat.Defs
import Mathlib.Data.List.Induction

namespace SqlDriver

set_option autoImplicit false

namespace Registry

/-! ## Requests and their record -/

/-- What is asked of a registry. -/
inductive Request where
  | insert (object : Nat) (errorPrefix : String)
  | get (handle : Int64)
  | remove (handle : Int64)
deriving DecidableEq, Repr

/-- What a registry replies. -/
inductive Reply where
  | handle (x : Int64)
  | entry (found : Result Entry)
  | removed (object : Option Nat)

/-- Requests with the replies to them, the latest first. -/
abbrev Record := List (Request × Reply)

/-- The request stores an object. -/
def Request.isInsert : Request → Bool
  | insert .. => true
  | _ => false

/-- The handle that an insertion answered. -/
def issued? : Request × Reply → Option Int64
  | (.insert .., .handle x) => some x
  | _ => none

/-- The handle that a removal found an object under. -/
def removed? : Request × Reply → Option Int64
  | (.remove x, .removed (some _)) => some x
  | _ => none

/-- Answers a request.  Programs hold handles as words of 64 bits. -/
def serve (r : Registry) : Request → Reply × Registry
  | .insert object errorPrefix =>
      let (handle, r) := r.insert object errorPrefix
      (.handle (Int64.ofNat handle), r)
  | .get x => (.entry (r.get x), r)
  | .remove x =>
      let (object, r) := r.remove x
      (.removed object, r)

/-- A new registry after some requests, with their record. -/
def serving (kind : String) (requests : List Request) : Registry × Record :=
  requests.foldl (fun before request =>
    let (reply, r) := before.1.serve request
    (r, (request, reply) :: before.2)) ({ kind }, [])

/-- A handle stands for what the insertion that answered it stored, if it has not been removed
since. -/
def StandsFor (record : Record) (x : Int64) (e : Entry) : Prop :=
  ∃ later earlier,
    record = later ++ (.insert e.object e.errorPrefix, .handle x) :: earlier ∧
      ∀ reply, (.remove x, reply) ∉ later

theorem StandsFor.issued {record : Record} {x : Int64} {e : Entry} (stands : StandsFor record x e) :
    x ∈ record.filterMap issued? := by
  obtain ⟨later, earlier, rfl, -⟩ := stands
  simp [issued?]

/-- What stood before a request stands behind it, unless that removes it; an insertion adds what
it stored. -/
theorem standsFor_cons (request : Request) (reply : Reply) (record : Record) (x : Int64)
    (e : Entry) :
    StandsFor ((request, reply) :: record) x e ↔
      (request = .insert e.object e.errorPrefix ∧ reply = .handle x) ∨
        (request ≠ .remove x ∧ StandsFor record x e) := by
  constructor
  · rintro ⟨later, earlier, split, kept⟩
    cases later with
    | nil =>
        left
        simpa using (List.cons.inj split).1
    | cons first later =>
        obtain ⟨rfl, rfl⟩ := List.cons.inj split
        right
        refine ⟨?_, later, earlier, rfl, fun other found => kept other (.tail _ found)⟩
        rintro rfl
        exact kept reply (.head _)
  · rintro (⟨rfl, rfl⟩ | ⟨other, later, earlier, rfl, kept⟩)
    · exact ⟨[], record, rfl, by simp⟩
    · refine ⟨(request, reply) :: later, earlier, rfl, ?_⟩
      intro answer found
      cases found with
      | head => exact other rfl
      | tail _ found => exact kept answer found

/-! ## One request -/

section Finding

variable {r : Registry} {x y : Int64}

/-- A word above zero is the number of a key. -/
theorem toNat_eq_iff {n : Nat} (small : n < 2 ^ 63) (positive : 0 < x.toInt) :
    x.toInt.toNat = n ↔ x = Int64.ofNat n := by
  rw [← Int64.toInt_inj, Int64.toInt_ofNat_of_lt small]
  omega

/-- An object that is registered stands under the next handle, and the others where they stood. -/
theorem find?_insert (object : Nat) (errorPrefix : String) (positive : 0 < r.entries.next)
    (small : r.entries.next < 2 ^ 63) :
    (r.insert object errorPrefix).2.find? x =
      if x = Int64.ofNat r.entries.next then some ⟨object, errorPrefix⟩ else r.find? x := by
  show (if x.toInt ≤ 0 then none
    else (r.entries.insert ⟨object, errorPrefix⟩).2.get? x.toInt.toNat) = _
  by_cases low : x.toInt ≤ 0
  · have other : x ≠ Int64.ofNat r.entries.next := by
      intro same
      rw [same, Int64.toInt_ofNat_of_lt small] at low
      omega
    simp [find?, low, other]
  · simp only [low, if_false, Pool.get?_insert, toNat_eq_iff small (Int.not_le.mp low), find?]

theorem get_eq_ok_iff {e : Entry} : r.get x = .ok e ↔ r.find? x = some e := by
  unfold get
  cases r.find? x <;> simp

theorem get_of_missing (missing : r.find? x = none) :
    r.get x = .error (.invalidHandle r.kind x) := by
  simp [get, missing]

theorem fst_remove : (r.remove x).1 = (r.find? x).map Entry.object := by
  unfold remove
  cases r.find? x <;> rfl

theorem kind_remove : (r.remove x).2.kind = r.kind := by
  unfold remove
  cases r.find? x <;> rfl

theorem next_remove : (r.remove x).2.entries.next = r.entries.next := by
  unfold remove
  cases r.find? x <;> rfl

theorem find?_remove : (r.remove x).2.find? y = if y = x then none else r.find? y := by
  unfold remove
  cases found : r.find? x with
  | none =>
      by_cases same : y = x
      · simp [same, found]
      · simp [same]
  | some e =>
      have high : ¬ x.toInt ≤ 0 := by
        intro low
        simp [find?, low] at found
      show (if y.toInt ≤ 0 then none else (r.entries.erase x.toInt.toNat).get? y.toInt.toNat) = _
      by_cases low : y.toInt ≤ 0
      · simp [find?, low]
      · have same : y.toInt.toNat = x.toInt.toNat ↔ y = x := by
          rw [← Int64.toInt_inj]
          omega
        simp only [low, if_false, Pool.get?_erase, same, find?]

theorem size_insert (object : Nat) (errorPrefix : String) :
    (r.insert object errorPrefix).2.size = r.size + 1 := by
  show (r.entries.items ++ [_]).length = r.entries.items.length + 1
  simp

/-- A removal that finds an object leaves one less. -/
theorem size_remove : (r.remove x).2.size + (if (r.remove x).1.isSome then 1 else 0) = r.size := by
  have size (p : Pool Entry) : p.size = p.count fun _ => true := by
    simp [Pool.size, Pool.count]
  unfold remove
  cases found : r.find? x with
  | none => rfl
  | some e =>
      have there : r.entries.get? x.toInt.toNat = some e := by
        unfold find? at found
        split at found
        · cases found
        · exact found
      have less := Pool.count_erase there fun _ => true
      simp only [Registry.size, size]
      simpa using less

end Finding

/-! ## Every request -/

/-- A registry has done what its record says. -/
structure Keeping (kind : String) (r : Registry) (record : Record) : Prop where
  named : r.kind = kind
  /-- The handles are the numbers from one upwards. -/
  numbered : record.filterMap issued? =
    ((List.range' 1 (r.entries.next - 1)).map Int64.ofNat).reverse
  positive : 0 < r.entries.next
  finds : ∀ x e, r.find? x = some e ↔ StandsFor record x e
  /-- A handle that was removed once is not live, and a live one was not removed. -/
  once : ∀ x, (record.filterMap removed?).count x + (if (r.find? x).isSome then 1 else 0) ≤ 1
  /-- A handle that was removed had been answered. -/
  known : ∀ x ∈ record.filterMap removed?, x ∈ record.filterMap issued?
  counts : r.size + (record.filterMap removed?).length = r.entries.next - 1

namespace Keeping

variable {kind : String} {r : Registry} {record : Record}

theorem start (kind : String) : Keeping kind { kind } [] := by
  have nothing (x : Int64) : ({ kind } : Registry).find? x = none := by
    simp [find?]
  refine ⟨rfl, rfl, Nat.one_pos, fun x e => ?_, fun x => by simp [nothing], by simp, rfl⟩
  simp [nothing, StandsFor]

theorem mem_issued_iff (keeping : Keeping kind r record) (x : Int64) :
    x ∈ record.filterMap issued? ↔ ∃ n, 1 ≤ n ∧ n < r.entries.next ∧ Int64.ofNat n = x := by
  have := keeping.positive
  rw [keeping.numbered, List.mem_reverse, List.mem_map]
  constructor
  · rintro ⟨n, among, same⟩
    have := List.mem_range'_1.mp among
    exact ⟨n, by omega, by omega, same⟩
  · rintro ⟨n, low, high, same⟩
    exact ⟨n, List.mem_range'_1.mpr (by omega), same⟩

theorem length_issued (keeping : Keeping kind r record) :
    (record.filterMap issued?).length = r.entries.next - 1 := by
  simp [keeping.numbered]

/-- The next handle has not been answered before. -/
theorem fresh (keeping : Keeping kind r record) (small : r.entries.next < 2 ^ 63) :
    Int64.ofNat r.entries.next ∉ record.filterMap issued? := by
  intro among
  obtain ⟨n, low, high, same⟩ := (keeping.mem_issued_iff _).mp among
  have numbers := congrArg Int64.toInt same
  rw [Int64.toInt_ofNat_of_lt (by omega), Int64.toInt_ofNat_of_lt small] at numbers
  omega

/-- Registering an object keeps the record, which gets one more handle. -/
theorem insert (keeping : Keeping kind r record) (small : r.entries.next < 2 ^ 63) (object : Nat)
    (errorPrefix : String) :
    Keeping kind (r.insert object errorPrefix).2
      ((.insert object errorPrefix, .handle (Int64.ofNat r.entries.next)) :: record) := by
  have positive := keeping.positive
  have fresh := keeping.fresh small
  have next : (r.insert object errorPrefix).2.entries.next = r.entries.next + 1 := rfl
  refine ⟨keeping.named, ?_, by omega, fun x e => ?_, fun x => ?_, ?_, ?_⟩
  · have range : r.entries.next + 1 - 1 = r.entries.next - 1 + 1 := by omega
    have last : 1 + 1 * (r.entries.next - 1) = r.entries.next := by omega
    rw [next, range, List.range'_concat, last, List.map_append, List.reverse_append,
      ← keeping.numbered]
    rfl
  · rw [find?_insert object errorPrefix positive small, standsFor_cons, ← keeping.finds]
    by_cases here : x = Int64.ofNat r.entries.next
    · subst here
      have missing : r.find? (Int64.ofNat r.entries.next) ≠ some e := by
        intro found
        exact fresh ((keeping.finds _ _).mp found).issued
      cases e
      simp [missing]
    · have other : Reply.handle (Int64.ofNat r.entries.next) ≠ .handle x := by
        intro same
        exact here (Reply.handle.inj same).symm
      simp [here, other]
  · show (record.filterMap removed?).count x + _ ≤ 1
    rw [find?_insert object errorPrefix positive small]
    by_cases here : x = Int64.ofNat r.entries.next
    · subst here
      have never : (record.filterMap removed?).count (Int64.ofNat r.entries.next) = 0 := by
        rw [List.count_eq_zero]
        intro gone
        exact fresh (keeping.known _ gone)
      simp [never]
    · simpa [here] using keeping.once x
  · intro x gone
    exact List.mem_cons_of_mem _ (keeping.known x gone)
  · have counts := keeping.counts
    rw [size_insert, next]
    show r.size + 1 + (record.filterMap removed?).length = _
    omega

theorem get (keeping : Keeping kind r record) (x : Int64) :
    Keeping kind r ((.get x, .entry (r.get x)) :: record) := by
  refine ⟨keeping.named, keeping.numbered, keeping.positive, fun y e => ?_, keeping.once,
    keeping.known, keeping.counts⟩
  rw [standsFor_cons, ← keeping.finds]
  simp

theorem remove (keeping : Keeping kind r record) (x : Int64) :
    Keeping kind (r.remove x).2 ((.remove x, .removed (r.remove x).1) :: record) := by
  have removed : List.filterMap removed? ((.remove x, .removed (r.remove x).1) :: record) =
      (if (r.find? x).isSome then [x] else []) ++ record.filterMap removed? := by
    rw [fst_remove, List.filterMap_cons]
    cases r.find? x <;> rfl
  refine ⟨kind_remove.trans keeping.named, ?_, ?_, fun y e => ?_, fun y => ?_, ?_, ?_⟩
  · rw [next_remove]
    exact keeping.numbered
  · rw [next_remove]
    exact keeping.positive
  · rw [find?_remove, standsFor_cons, ← keeping.finds]
    by_cases here : y = x
    · simp [here]
    · simp [here, Ne.symm here]
  · have once := keeping.once y
    rw [removed, find?_remove, List.count_append]
    by_cases here : y = x
    · subst here
      cases found : r.find? y <;> simp_all
    · have other : List.count y (if (r.find? x).isSome then [x] else []) = 0 := by
        split
        · simp [Ne.symm here]
        · rfl
      simpa [here, other] using once
  · intro y gone
    rw [removed, List.mem_append] at gone
    show y ∈ record.filterMap issued?
    rcases gone with now | before
    · cases found : r.find? x with
      | none => simp [found] at now
      | some e =>
          obtain rfl : y = x := by simpa [found] using now
          exact ((keeping.finds y e).mp found).issued
    · exact keeping.known y before
  · have counts := keeping.counts
    have size := size_remove (r := r) (x := x)
    rw [fst_remove, Option.isSome_map] at size
    rw [next_remove, removed, List.length_append]
    split at size
    · next some_ => simp [some_]; omega
    · next none_ => simp [none_]; omega

/-- Whatever is asked of a registry keeps the record. -/
theorem serve (keeping : Keeping kind r record) (small : r.entries.next < 2 ^ 63)
    (request : Request) :
    Keeping kind (r.serve request).2 ((request, (r.serve request).1) :: record) := by
  cases request with
  | insert object errorPrefix => exact keeping.insert small object errorPrefix
  | get x => exact keeping.get x
  | remove x => exact keeping.remove x

end Keeping

theorem next_serve (r : Registry) (request : Request) :
    (r.serve request).2.entries.next = r.entries.next + if request.isInsert then 1 else 0 := by
  cases request with
  | insert => rfl
  | get => rfl
  | remove x => exact next_remove

/-- As long as no number is too large for a handle, every run of requests keeps to its record. -/
theorem keeping_serving (kind : String) (requests : List Request)
    (few : requests.countP Request.isInsert < 2 ^ 63 - 1) :
    Keeping kind (serving kind requests).1 (serving kind requests).2 ∧
      (serving kind requests).1.entries.next = requests.countP Request.isInsert + 1 := by
  induction requests using List.reverseRecOn with
  | nil => exact ⟨.start kind, rfl⟩
  | append_singleton requests request ih =>
      rw [List.countP_append, List.countP_singleton] at few
      obtain ⟨keeping, next⟩ := ih (by omega)
      have step : serving kind (requests ++ [request]) =
          (((serving kind requests).1.serve request).2,
            (request, ((serving kind requests).1.serve request).1) ::
              (serving kind requests).2) := by
        simp [serving, List.foldl_append]
      rw [step, List.countP_append, List.countP_singleton]
      refine ⟨keeping.serve (by omega) request, ?_⟩
      rw [next_serve, next]
      omega

/-! ## The record decides -/

/-- A registry answers as its record says. -/
structure Keeps (kind : String) (r : Registry) (record : Record) : Prop where
  /-- Every handle is above all that were answered before it. -/
  ascending : (record.filterMap issued?).Pairwise (· > ·)
  positive : ∀ x ∈ record.filterMap issued?, 0 < x
  /-- Every insertion was answered a handle. -/
  answered : (record.filterMap issued?).length = record.countP fun answered => answered.1.isInsert
  /-- Only what a handle stands for is found under it. -/
  get_iff : ∀ x e, r.get x = .ok e ↔ StandsFor record x e
  get_missing : ∀ x, (∀ e, ¬ StandsFor record x e) → r.get x = .error (.invalidHandle kind x)
  /-- What is removed is the object that the handle stands for. -/
  remove_iff : ∀ x object,
    (r.remove x).1 = some object ↔ ∃ e, StandsFor record x e ∧ e.object = object
  /-- Behind its removal a handle stands for nothing, and the others for what they did. -/
  removed : ∀ x, (r.remove x).2.get x = .error (.invalidHandle kind x)
  others : ∀ x y, y ≠ x → (r.remove x).2.get y = r.get y
  /-- A removal succeeds at most once for each handle. -/
  once : ∀ x, (record.filterMap removed?).count x ≤ 1
  /-- What was inserted is there or was removed. -/
  size : r.size + (record.filterMap removed?).length = (record.filterMap issued?).length

/-- A record that is kept says all there is to say of its handles. -/
theorem Keeping.keeps {kind : String} {r : Registry} {record : Record}
    (keeping : Keeping kind r record) (small : r.entries.next ≤ 2 ^ 63 - 1)
    (inserts : record.countP (fun answered => answered.1.isInsert) = r.entries.next - 1) :
    Keeps kind r record where
  ascending := by
    rw [keeping.numbered, List.pairwise_reverse, List.pairwise_map]
    apply List.Pairwise.imp_of_mem _ List.pairwise_lt_range'
    intro m n _ among less
    have := List.mem_range'_1.mp among
    exact (Int64.ofNat_lt_iff_lt (by omega) (by omega)).mpr less
  positive x among := by
    obtain ⟨n, low, high, rfl⟩ := (keeping.mem_issued_iff x).mp among
    rw [Int64.lt_iff_toInt_lt, Int64.toInt_zero, Int64.toInt_ofNat_of_lt (by omega)]
    omega
  answered := keeping.length_issued.trans inserts.symm
  get_iff x e := by rw [get_eq_ok_iff, keeping.finds]
  get_missing x nothing := by
    rw [← keeping.named]
    apply get_of_missing
    rw [Option.eq_none_iff_forall_ne_some]
    intro e found
    exact nothing e ((keeping.finds x e).mp found)
  remove_iff x object := by
    rw [fst_remove, Option.map_eq_some_iff]
    simp only [keeping.finds]
  removed x := by
    have missing : (r.remove x).2.find? x = none := by simp [find?_remove]
    rw [get_of_missing missing, kind_remove, keeping.named]
  others x y other := by
    have same : (r.remove x).2.find? y = r.find? y := by simp [find?_remove, other]
    simp only [Registry.get, same, kind_remove]
  once x := by
    have := keeping.once x
    omega
  size := keeping.counts.trans keeping.length_issued.symm

/-- The record lists the requests. -/
theorem requests_serving (kind : String) (requests : List Request) :
    (serving kind requests).2.map Prod.fst = requests.reverse := by
  induction requests using List.reverseRecOn with
  | nil => rfl
  | append_singleton requests request ih =>
      rw [List.reverse_append, ← ih]
      simp [serving, List.foldl_append]

/-- Whatever a registry is asked, in whatever order, its handles ascend from one, it finds and
removes exactly what the record of its requests says that they stand for, and it counts it. -/
theorem registry_keeps (kind : String) (requests : List Request)
    (few : requests.countP Request.isInsert < 2 ^ 63 - 1) :
    (serving kind requests).2.map Prod.fst = requests.reverse ∧
      Keeps kind (serving kind requests).1 (serving kind requests).2 := by
  obtain ⟨keeping, next⟩ := keeping_serving kind requests few
  have inserts : (serving kind requests).2.countP (fun answered => answered.1.isInsert) =
      requests.countP Request.isInsert := by
    rw [← List.countP_reverse (l := requests), ← requests_serving kind, List.countP_map]
    rfl
  exact ⟨requests_serving kind requests, keeping.keeps (by omega) (by omega)⟩

/-- An object is removed, and another one stored. -/
def replacing : List Request :=
  [.insert 7 "a: ", .remove 1, .insert 8 "b: ", .get 1, .remove 1, .get 2]

/-- The handle of the removed object is not given out again. -/
theorem registry_keeps_while_replacing :
    replacing.countP Request.isInsert < 2 ^ 63 - 1 ∧
      Keeps "cursor" (serving "cursor" replacing).1 (serving "cursor" replacing).2 ∧
      (serving "cursor" replacing).2.filterMap issued? = [2, 1] ∧
      (serving "cursor" replacing).2.filterMap removed? = [1] :=
  ⟨by decide, (registry_keeps "cursor" replacing (by decide)).2, by decide +kernel,
    by decide +kernel⟩

end Registry

end SqlDriver
