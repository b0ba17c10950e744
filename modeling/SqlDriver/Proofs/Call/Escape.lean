/-
# SqlDriver.Proofs.Call.Escape -- a text that was escaped is read back as it was

`escape_undone` collects what a program can rely on: the inside of a literal that an escape
answers is read as the text up to its first NUL, by the reader of literals and by the engine,
and two texts without NUL never share one.  A connection answers it whether it is open or
closed and changes nothing; a call by handle answers it for a text that is valid UTF-8, as a
new object beside those of the program.
-/
import SqlDriver.Proofs.Call.HandleNumber
import SqlDriver.Proofs.Text.Literal
import SqlDriver.Proofs.Text.Utf8

namespace SqlDriver

set_option autoImplicit false

open SqlDriver.Text

/-! ## Texts among a program's objects -/

namespace Heap

variable {h : Heap} {a : Address} {text : String}

theorem stringAt_of_textAt (valid : h.textAt? a = some (Utf8.ofString text)) :
    h.stringAt a = text := by
  rw [stringAt, valid]
  exact Utf8.toStringLossy_ofString text

theorem textAt_allocString (h : Heap) (text : String) :
    (h.allocString text).2.textAt? (h.allocString text).1 = some (Utf8.ofString text) := by
  have new : (h.allocString text).2.get? (h.allocString text).1 =
      some { body := .text (Utf8.ofString text) } :=
    (Pool.get?_insert ..).trans (if_pos rfl)
  rw [textAt?, new]
  rfl

theorem get_allocString (h : Heap) (text : String) {a : Address}
    (old : a ≠ (h.allocString text).1) : (h.allocString text).2.get? a = h.get? a :=
  (Pool.get?_insert ..).trans (if_neg old)

end Heap

/-! ## The call -/

/-- The address of a new text, and the host with that text beside its other objects. -/
theorem run_newText (h : Host) (text : String) :
    StateT.run (Call.newText text) h =
      ((h.heap.allocString text).1, { h with heap := (h.heap.allocString text).2 }) := rfl

/-- A handle of a connection, open or closed, is answered the address of the inside. -/
theorem run_escape {h : Host} {x : Int64} {e : Entry} (live : h.connections.find? x = some e)
    {a : Address} {text : String} (valid : h.heap.textAt? a = some (Utf8.ofString text)) :
    StateT.run (Call.escape x a) h = StateT.run (Call.newText (Literal.escapeString text)) h := by
  rw [Call.escape, withEntry_of_live live, run_bind, run_textAt, Heap.stringAt_of_textAt valid]

/-- What an escape answers stands for the text up to its first NUL, wherever the literal ends;
texts without NUL are told apart by it, and it is made piece by piece.  Connections answer it,
closed ones too, and so do calls whose text is valid UTF-8, and nothing else is changed. -/
theorem escape_undone :
    (∀ s r : List Char, r.head? ≠ some '\'' →
      Literal.readLiteral (Literal.escape s ++ '\'' :: r) = some (untilNul s, r)) ∧
    (∀ s, Literal.StandsFor (Literal.escape s) (untilNul s)) ∧
    (∀ s t, '\x00' ∉ s → '\x00' ∉ t → Literal.escape s = Literal.escape t → s = t) ∧
    (∀ s t, '\x00' ∉ s → Literal.escape (s ++ t) = Literal.escape s ++ Literal.escape t) ∧
    (∀ (c : Nat) (text : String) (state : State), ∃ inside,
      exec (Connection.escape c text) state = (.ok inside, state) ∧
      inside.toList = Literal.escape text.toList) ∧
    (∀ (h : Host) (x : Int64) (e : Entry) (a : Address) (text : String),
      h.connections.find? x = some e → h.heap.textAt? a = some (Utf8.ofString text) →
      ∃ b g inside, StateT.run (Call.escape x a) h = (b, g) ∧
        g.heap.textAt? b = some (Utf8.ofString inside) ∧ g.heap.stringAt b = inside ∧
        inside.toList = Literal.escape text.toList ∧
        (∀ other, other ≠ b → g.heap.get? other = h.heap.get? other) ∧
        g = { h with heap := g.heap }) := by
  refine ⟨fun s r => (Literal.standsFor_escape s).read r, Literal.standsFor_escape,
    fun _ _ => Literal.escape_injective, fun _ t clean => Literal.escape_append clean t,
    fun _ text state => ⟨Literal.escapeString text, rfl, String.toList_ofList⟩, ?_⟩
  intro h x e a text live valid
  refine ⟨_, _, Literal.escapeString text, (run_escape live valid).trans (run_newText h _),
    Heap.textAt_allocString .., Heap.stringAt_of_textAt (Heap.textAt_allocString ..),
    String.toList_ofList, fun _ => Heap.get_allocString _ _, rfl⟩

/-- A program that closed its connection, with one text: a quote at its front and two at its
end. -/
def closedWithQuotes : Host :=
  (issuing {} (connecting ++
    [.closeConnection 1, .work (({} : Heap).allocString "'tis Ann''").2 {}])).1

/-- The inside of a literal for quotes at both ends, asked of a closed connection. -/
theorem escape_of_closed :
    (closedWithQuotes.state.connections.get? 1).map Connection.isClosed = some true ∧
    Literal.readLiteral (Literal.escape "a'\x00b".toList ++ "', 1)".toList) =
      some ("a'".toList, ", 1)".toList) ∧
    Literal.escape "'".toList ≠ Literal.escape "''".toList ∧
    Literal.escape ("'tis".toList ++ " Ann''".toList) = "''tis Ann''''".toList ∧
    ∃ b g, StateT.run (Call.escape 1 1) closedWithQuotes = (b, g) ∧
      g.heap.stringAt b = "''tis Ann''''" := by
  have closed : (closedWithQuotes.state.connections.get? 1).map Connection.isClosed =
      some true := by decide +kernel
  have live : closedWithQuotes.connections.find? 1 = some ⟨1, Call.defaultPrefix⟩ := by
    decide +kernel
  have valid : closedWithQuotes.heap.textAt? 1 = some (Utf8.ofString "'tis Ann''") := by
    decide +kernel
  obtain ⟨reads, _, injective, pieces, _, called⟩ := escape_undone
  have read := reads "a'\x00b".toList ", 1)".toList (by decide)
  have apart : Literal.escape "'".toList ≠ Literal.escape "''".toList := fun same =>
    absurd (injective _ _ (by decide) (by decide) same) (by decide)
  have pieced := pieces "'tis".toList " Ann''".toList (by decide)
  obtain ⟨b, g, inside, ran, _, answered, written, _⟩ := called closedWithQuotes 1 _ 1 _ live valid
  have same : inside = "''tis Ann''''" := String.toList_injective (written.trans (by decide))
  exact ⟨closed, read, apart, pieced.trans (by decide), b, g, ran, answered.trans same⟩

end SqlDriver
