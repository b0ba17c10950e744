/-
# SqlDriver.Proofs.Config.Decoding -- settings are the values under five keys

The settings in a document are a function of what stands under the five known keys of its root
table (`settings`), and reading them succeeds exactly if each of the five that is present has its
type (`Typed`): `foldlM_take` for entries in any order, `parse_eq_ok` for a text.
-/
import SqlDriver.Config.Decode
import SqlDriver.Proofs.Toml.Table

namespace SqlDriver.Config

set_option autoImplicit false

open Toml

/-! ## The known keys -/

/-- A setting. -/
inductive Field where
  | busyTimeout
  | readOnly
  | create
  | uri
  | errorPrefix
deriving DecidableEq, Repr

namespace Field

def key : Field → String
  | busyTimeout => "busy_timeout_ms"
  | readOnly => "read_only"
  | create => "create"
  | uri => "uri"
  | errorPrefix => "error_prefix"

/-- A value has the type of a setting. -/
def HasType : Field → Node → Prop
  | busyTimeout, v => ∃ n : Int64, v = .integer n ∧ 0 ≤ n.toInt
  | readOnly, v => ∃ b, v = .boolean b
  | create, v => ∃ b, v = .boolean b
  | uri, v => ∃ b, v = .boolean b
  | errorPrefix, v => ∃ s, v = .string s

theorem key_injective {f g : Field} (same : f.key = g.key) : f = g := by
  cases f <;> cases g <;> first | rfl | (revert same; decide)

end Field

/-- Each known key that is present has its type. -/
def Typed (entries : List (String × Node)) : Prop :=
  ∀ (f : Field) v, entries.lookup f.key = some v → f.HasType v

/-! ## The settings -/

/-- What the value of a key is read as, or else the default. -/
def valueAt {α : Type} (read : Node → Option α) (entries : List (String × Node)) (f : Field)
    (default : α) : α :=
  ((entries.lookup f.key).bind read).getD default

/-- A number of milliseconds, as a timeout that is set. -/
def timeout? : Node → Option (Option Nat)
  | .integer n => some (some n.toInt.toNat)
  | _ => none

/-- A truth value. -/
def boolean? : Node → Option Bool
  | .boolean b => some b
  | _ => none

def string? : Node → Option String
  | .string s => some s
  | _ => none

/-- The settings that some entries make of others: what stands under a known key replaces its
setting. -/
def settings (entries : List (String × Node)) (c : Config) : Config where
  busyTimeout := valueAt timeout? entries .busyTimeout c.busyTimeout
  readOnly := valueAt boolean? entries .readOnly c.readOnly
  create := valueAt boolean? entries .create c.create
  uri := valueAt boolean? entries .uri c.uri
  errorPrefix := valueAt string? entries .errorPrefix c.errorPrefix

section Entries

variable {k : String} {v : Node} {es : List (String × Node)} {c c' : Config}

theorem valueAt_cons {α : Type} (read : Node → Option α) (absent : es.lookup k = none) (f : Field)
    (default : α) :
    valueAt read ((k, v) :: es) f default =
      valueAt read es f (valueAt read [(k, v)] f default) := by
  unfold valueAt
  rw [lookup_cons_eq, lookup_cons_eq]
  split
  · next same =>
      rw [same, absent]
      rfl
  · rfl

theorem settings_cons (absent : es.lookup k = none) (c : Config) :
    settings ((k, v) :: es) c = settings es (settings [(k, v)] c) := by
  unfold settings
  rw [valueAt_cons _ absent, valueAt_cons _ absent, valueAt_cons _ absent, valueAt_cons _ absent,
    valueAt_cons _ absent]

theorem typed_cons (absent : es.lookup k = none) :
    Typed ((k, v) :: es) ↔ Typed [(k, v)] ∧ Typed es := by
  unfold Typed
  simp only [lookup_cons_eq, List.lookup_nil]
  constructor
  · refine fun typed => ⟨fun f w found => typed f w ?_, fun f w found => typed f w ?_⟩
    · split at found
      · next same => rw [if_pos same, found]
      · cases found
    · rw [if_neg, found]
      rintro same
      rw [same, absent] at found
      cases found
  · rintro ⟨first, rest⟩ f w found
    split at found
    · next same => exact first f w (by rw [if_pos same, found])
    · exact rest f w found

theorem typed_singleton_key (f : Field) : Typed [(f.key, v)] ↔ f.HasType v := by
  unfold Typed
  simp only [lookup_cons_eq, List.lookup_nil]
  constructor
  · intro typed
    exact typed f v (if_pos rfl)
  · intro type g w found
    split at found
    · next same =>
        cases found
        exact Field.key_injective same ▸ type
    · cases found

theorem unknown_lookup (unknown : ∀ f : Field, f.key ≠ k) (f : Field) :
    List.lookup f.key [(k, v)] = none := by
  rw [lookup_cons_eq, if_neg (unknown f), List.lookup_nil]

theorem typed_of_unknown (unknown : ∀ f : Field, f.key ≠ k) : Typed [(k, v)] := by
  intro f w found
  rw [unknown_lookup unknown] at found
  cases found

theorem settings_of_unknown (unknown : ∀ f : Field, f.key ≠ k) : settings [(k, v)] c = c := by
  unfold settings valueAt
  simp only [unknown_lookup unknown, Option.bind_none, Option.getD_none]

theorem take_of_unknown (unknown : ∀ f : Field, f.key ≠ k) : take c (k, v) = .ok c := by
  unfold take
  split
  · next same => exact absurd same.symm (unknown .busyTimeout)
  · next same => exact absurd same.symm (unknown .readOnly)
  · next same => exact absurd same.symm (unknown .create)
  · next same => exact absurd same.symm (unknown .uri)
  · next same => exact absurd same.symm (unknown .errorPrefix)
  · rfl

theorem booleanOf_eq_ok (b : Bool) : booleanOf v = .ok b ↔ v = .boolean b := by
  cases v <;> simp [booleanOf]

theorem stringOf_eq_ok (s : String) : stringOf v = .ok s ↔ v = .string s := by
  cases v <;> simp [stringOf]

theorem naturalOf_eq_ok (n : Nat) :
    naturalOf v = .ok n ↔ ∃ i : Int64, v = .integer i ∧ 0 ≤ i.toInt ∧ i.toInt.toNat = n := by
  cases v with
  | integer i => by_cases low : 0 ≤ i.toInt <;> simp [naturalOf, low]
  | _ => simp [naturalOf]

theorem settings_key (f : Field) :
    settings [(f.key, v)] c =
      match f with
      | .busyTimeout => { c with busyTimeout := (timeout? v).getD c.busyTimeout }
      | .readOnly => { c with readOnly := (boolean? v).getD c.readOnly }
      | .create => { c with create := (boolean? v).getD c.create }
      | .uri => { c with uri := (boolean? v).getD c.uri }
      | .errorPrefix => { c with errorPrefix := (string? v).getD c.errorPrefix } := by
  cases f <;> rfl

/-- A setting is taken over from a value of the form `form x`. -/
theorem set_eq_ok {α : Type} {read : Node → Except String α} {read? : Node → Option α}
    {form : α → Node} (reads : ∀ x, read v = .ok x ↔ v = form x)
    (reads? : ∀ x, read? (form x) = some x) (set : α → Config) (default : α) :
    (do
        let x ← read v
        .ok (set x)) = Except.ok c' ↔
      (∃ x, v = form x) ∧ c' = set ((read? v).getD default) := by
  rw [bind_eq_ok]
  constructor
  · rintro ⟨x, read, same⟩
    cases same
    obtain rfl := (reads x).1 read
    rw [reads?]
    exact ⟨⟨x, rfl⟩, rfl⟩
  · rintro ⟨⟨x, same⟩, rfl⟩
    refine ⟨x, (reads x).2 same, ?_⟩
    rw [same, reads?]
    rfl

/-- The entry of a known key is taken over if it has its type. -/
theorem take_key (f : Field) :
    take c (f.key, v) = .ok c' ↔ f.HasType v ∧ c' = settings [(f.key, v)] c := by
  rw [settings_key]
  cases f with
  | busyTimeout =>
      refine (bind_eq_ok (a := naturalOf v)).trans ?_
      constructor
      · rintro ⟨n, read, same⟩
        cases same
        obtain ⟨i, rfl, low, rfl⟩ := (naturalOf_eq_ok n).1 read
        exact ⟨⟨i, rfl, low⟩, rfl⟩
      · rintro ⟨⟨i, rfl, low⟩, rfl⟩
        exact ⟨i.toInt.toNat, (naturalOf_eq_ok _).2 ⟨i, rfl, low, rfl⟩, rfl⟩
  | readOnly =>
      exact set_eq_ok booleanOf_eq_ok (fun _ => rfl) (fun b => { c with readOnly := b }) c.readOnly
  | create =>
      exact set_eq_ok booleanOf_eq_ok (fun _ => rfl) (fun b => { c with create := b }) c.create
  | uri => exact set_eq_ok booleanOf_eq_ok (fun _ => rfl) (fun b => { c with uri := b }) c.uri
  | errorPrefix =>
      exact set_eq_ok stringOf_eq_ok (fun _ => rfl) (fun s => { c with errorPrefix := s })
        c.errorPrefix

/-- One entry is taken over if it has its type. -/
theorem take_eq_ok : take c (k, v) = .ok c' ↔ Typed [(k, v)] ∧ c' = settings [(k, v)] c := by
  by_cases known : ∃ f : Field, f.key = k
  · obtain ⟨f, rfl⟩ := known
    rw [take_key, typed_singleton_key]
  · have unknown : ∀ f : Field, f.key ≠ k := fun f same => known ⟨f, same⟩
    rw [take_of_unknown unknown, settings_of_unknown unknown, Except.ok.injEq, eq_comm]
    exact ⟨fun same => ⟨typed_of_unknown unknown, same⟩, And.right⟩

/-- Entries with each key once are taken over in any order. -/
theorem foldlM_take (nodup : (es.map Prod.fst).Nodup) :
    es.foldlM take c = .ok c' ↔ Typed es ∧ c' = settings es c := by
  induction es generalizing c with
  | nil =>
      have typed : Typed [] := fun _ _ found => nomatch found
      have same : settings [] c = c := rfl
      rw [List.foldlM_nil, same, eq_comm]
      show Except.ok c' = Except.ok c ↔ _
      rw [Except.ok.injEq]
      exact ⟨fun same => ⟨typed, same⟩, And.right⟩
  | cons e es ih =>
      obtain ⟨k, v⟩ := e
      obtain ⟨absent, nodup⟩ := List.nodup_cons.1 nodup
      have absent := lookup_eq_none_of_not_mem absent
      rw [List.foldlM_cons, bind_eq_ok, typed_cons absent, settings_cons absent]
      constructor
      · rintro ⟨first, taken, rest⟩
        obtain ⟨typed, rfl⟩ := take_eq_ok.1 taken
        obtain ⟨typed', same⟩ := (ih nodup).1 rest
        exact ⟨⟨typed, typed'⟩, same⟩
      · rintro ⟨⟨typed, typed'⟩, same⟩
        exact ⟨_, take_eq_ok.2 ⟨typed, rfl⟩, (ih nodup).2 ⟨typed', same⟩⟩

end Entries

/-- The settings in a text that is a document. -/
theorem parse_eq_ok {text origin : String} {root : Node} (reads : document text.toList = .ok root)
    {c : Config} :
    parse text origin = .ok c ↔ Typed root.entries ∧ c = settings root.entries {} := by
  unfold parse ofText
  rw [reads]
  refine Iff.trans ?_ (foldlM_take (document_keyed reads))
  dsimp only
  unfold ofNode
  cases root.entries.foldlM take {} <;> simp [Except.mapError]

end SqlDriver.Config
