/-
# SqlDriver.Proofs.Config.Writing -- settings that are written are read back

`Writes` says that some lines write settings: each setting has at most one line `key = value`, and
one whose line is left out has its default; between them, in any order, there are comments, blank
lines and lines under other keys that are apart.  `configuration_decodes` says what settings a
document holds, and that lines which write settings are a document that holds them.
-/
import SqlDriver.Proofs.Config.Decoding
import SqlDriver.Proofs.Toml.Spelling

namespace SqlDriver.Config

set_option autoImplicit false

open Toml

/-! ## Lines -/

/-- A line of a document without headers. -/
inductive Line where
  | blank (blanks : List Char)
  | comment (blanks text : List Char)
  /-- A line `key = value` under a known key. -/
  | field (f : Field) (value : List Char)
  /-- A line under another key, with the pair that it holds. -/
  | other (text : List Char) (pair : Pair)

namespace Line

def text : Line → List Char
  | blank blanks => blanks
  | comment blanks text => blanks ++ '#' :: text
  | field f value => f.key.toList ++ ' ' :: '=' :: ' ' :: value
  | other text _ => text

/-- The setting that a line writes. -/
def field? : Line → Option Field
  | field f _ => some f
  | _ => none

/-- The pair of a line under another key. -/
def other? : Line → Option Pair
  | other _ p => some p
  | _ => none

end Line

/-- The text of some lines, each with a line end. -/
def written (lines : List Line) : String :=
  String.ofList (lines.flatMap fun l => l.text ++ ['\n'])

namespace Field

/-- A setting is written as this: a number in decimal digits, a truth value as its name, a text
between double quotes. -/
def Shows (c : Config) : Field → List Char → Prop
  | busyTimeout, s => ∃ n, c.busyTimeout = some n ∧ s = (toString n).toList
  | readOnly, s => s = (toString c.readOnly).toList
  | create, s => s = (toString c.create).toList
  | uri, s => s = (toString c.uri).toList
  | errorPrefix, s => ∃ t, Spells t c.errorPrefix.toList ∧ s = '"' :: (t ++ ['"'])

def IsDefault (c : Config) : Field → Prop
  | busyTimeout => c.busyTimeout = ({} : Config).busyTimeout
  | readOnly => c.readOnly = ({} : Config).readOnly
  | create => c.create = ({} : Config).create
  | uri => c.uri = ({} : Config).uri
  | errorPrefix => c.errorPrefix = ({} : Config).errorPrefix

end Field

/-- A line is one of a document that holds the settings: a comment, a blank line, a line that shows
a setting under its key, or a line `key = value` under a key that is no known one. -/
def Line.Holds (c : Config) : Line → Prop
  | blank blanks => blanks.all isBlankChar
  | comment blanks text => blanks.all isBlankChar ∧ text.all isPlain
  | field f s => f.Shows c s
  | other text p => pair (text ++ ['\n']) = .ok (p, []) ∧ ∀ f : Field, p.key.head? ≠ some f.key

/-- Some lines write settings. -/
structure Writes (c : Config) (lines : List Line) : Prop where
  holds : ∀ l ∈ lines, l.Holds c
  /-- No setting has two lines. -/
  once : (lines.filterMap Line.field?).Nodup
  /-- A setting whose line is left out has its default. -/
  absent : ∀ f, f ∉ lines.filterMap Line.field? → f.IsDefault c
  /-- The other keys are distinct, and none leads through another. -/
  apart : ((lines.filterMap Line.other?).map Pair.key).Pairwise Apart

/-! ## The pairs of the lines -/

/-- The value of a setting. -/
def Field.node (c : Config) : Field → Node
  | busyTimeout => .integer (Int64.ofNat (c.busyTimeout.getD 0))
  | readOnly => .boolean c.readOnly
  | create => .boolean c.create
  | uri => .boolean c.uri
  | errorPrefix => .string c.errorPrefix

/-- The pair that a line adds to the root table. -/
def Line.pair? (c : Config) : Line → Option Pair
  | field f _ => some ([], f.key, f.node c)
  | other _ p => some p
  | _ => none

section Pairs

variable {c : Config} {lines : List Line} {l : Line} {s : List Char} {f : Field}

/-- A number of milliseconds that the form of the document can hold. -/
def Fits (c : Config) : Prop :=
  ∀ n, c.busyTimeout = some n → n ≤ 2 ^ 63 - 1

theorem Fits.lt (fits : Fits c) {n : Nat} (set : c.busyTimeout = some n) : n < 2 ^ 63 := by
  have le := fits n set
  omega

/-- What shows a setting is read as its value. -/
theorem value_of_shows (fits : Fits c) (shown : f.Shows c s) (depth : Nat) :
    skipBlanks (s ++ ['\n']) = s ++ ['\n'] ∧
      value depth (s ++ ['\n']) = .ok (f.node c, ['\n']) := by
  have truth (b : Bool) :
      skipBlanks ((toString b).toList ++ ['\n']) = (toString b).toList ++ ['\n'] ∧
        value depth ((toString b).toList ++ ['\n']) = .ok (.boolean b, ['\n']) :=
    ⟨by cases b <;> rfl, value_boolean depth b []⟩
  cases f with
  | busyTimeout =>
      obtain ⟨n, set, rfl⟩ := shown
      have digits : (toString n).toList = Nat.toDigits 10 n := Nat.toList_repr
      have node : Field.node c .busyTimeout = .integer (Int64.ofNat n) := by
        rw [Field.node, set, Option.getD_some]
      rw [digits, node]
      refine ⟨?_, value_digits depth (fits.lt set) []⟩
      obtain ⟨d, ds, same⟩ := List.exists_cons_of_ne_nil (Nat.toDigits_ne_nil (n := n) (b := 10))
      rw [same, List.cons_append]
      refine skipBlanks_blank (ℓ := []) rfl ?_ _
      have digit := (numeral_toDigits n).digits d (same ▸ .head _)
      by_contra blank
      rw [Bool.not_eq_false, isBlankChar, Bool.or_eq_true, decide_eq_true_eq, decide_eq_true_eq]
        at blank
      rcases blank with rfl | rfl <;> cases digit
  | readOnly => exact shown ▸ truth c.readOnly
  | create => exact shown ▸ truth c.create
  | uri => exact shown ▸ truth c.uri
  | errorPrefix =>
      obtain ⟨t, spells, rfl⟩ := shown
      have read := value_spelled depth spells []
      rw [String.ofList_toList] at read
      refine ⟨skipBlanks_blank (ℓ := []) rfl rfl _, ?_⟩
      rw [List.cons_append, List.append_assoc]
      exact read

theorem pair_of_shows (fits : Fits c) (shown : f.Shows c s) :
    pair ((Line.field f s).text ++ ['\n']) = .ok (([], f.key, f.node c), []) := by
  obtain ⟨solid, read⟩ := value_of_shows fits shown (depthLimit - 1)
  have line := pair_bare (k := f.key) (by cases f <;> decide) (by cases f <;> decide) solid read
  simpa [Line.text] using line

theorem addLine_of_addTo {p : Pair} {root root' : Node} (added : p.addTo root = .ok root') :
    Builder.addLine { current := root } p.1 p.2.1 p.2.2 = .ok { current := root' } :=
  bind_eq_ok.2 ⟨root', added, rfl⟩

/-- A line is passed over, or adds its pair. -/
theorem linesFrom_line (fits : Fits c) (holds : l.Holds c) {n : Nat} {root root' : Node}
    (t : List Char)
    (added : (l.pair? c).toList.foldlM (fun root p => Pair.addTo p root) root = .ok root') :
    linesFrom (n + 1) { current := root } (l.text ++ '\n' :: t) =
      linesFrom n { current := root' } t := by
  cases l with
  | blank blanks =>
      cases added
      exact linesFrom_blank holds t
  | comment blanks text =>
      cases added
      rw [Line.text, List.append_assoc]
      exact linesFrom_comment holds.1 holds.2 t
  | field f s =>
      obtain ⟨_, added, same⟩ := bind_eq_ok.1 added
      cases same
      exact linesFrom_pair (pair_of_shows fits holds) (addLine_of_addTo added) t
  | other text p =>
      obtain ⟨_, added, same⟩ := bind_eq_ok.1 added
      cases same
      exact linesFrom_pair holds.1 (addLine_of_addTo added) t

/-- Lines add their pairs, one after the other. -/
theorem linesFrom_lines (fits : Fits c) (holds : ∀ l ∈ lines, l.Holds c) {n : Nat}
    {root root' : Node}
    (added : (lines.filterMap (Line.pair? c)).foldlM (fun root p => Pair.addTo p root) root =
      .ok root')
    (enough : lines.length < n) :
    linesFrom n { current := root } (lines.flatMap fun l => l.text ++ ['\n']) =
      .ok { current := root' } := by
  induction lines generalizing n root with
  | nil =>
      obtain ⟨n, rfl⟩ := Nat.exists_eq_add_one_of_ne_zero (Nat.ne_of_gt enough)
      cases added
      rfl
  | cons l lines ih =>
      obtain ⟨n, rfl⟩ := Nat.exists_eq_add_one_of_ne_zero (Nat.ne_of_gt (Nat.zero_lt_of_lt enough))
      obtain ⟨first, rest⟩ := List.forall_mem_cons.1 holds
      have split : (l :: lines).filterMap (Line.pair? c) =
          (l.pair? c).toList ++ lines.filterMap (Line.pair? c) := by
        rw [List.filterMap_cons]
        cases l.pair? c <;> rfl
      rw [split, List.foldlM_append] at added
      obtain ⟨next, added, added'⟩ := bind_eq_ok.1 added
      rw [List.flatMap_cons, List.append_assoc]
      exact (linesFrom_line fits first _ added).trans
        (ih rest added' (Nat.lt_of_succ_lt_succ enough))

/-! ## The document of the lines -/

theorem apart_of_head {key other : List String} (more : key ≠ []) (more' : other ≠ [])
    (heads : key.head? ≠ other.head?) : Apart key other := by
  obtain ⟨k, key, rfl⟩ := List.exists_cons_of_ne_nil more
  obtain ⟨l, other, rfl⟩ := List.exists_cons_of_ne_nil more'
  have heads : k ≠ l := fun same => heads (congrArg some same)
  constructor <;> rw [List.cons_prefix_cons]
  · exact fun below => heads below.1
  · exact fun below => heads below.1.symm

theorem key_ne_nil (p : Pair) : p.key ≠ [] := by
  simp [Pair.key]

theorem pairs_apart (writes : Writes c lines) :
    ((lines.filterMap (Line.pair? c)).map Pair.key).Pairwise Apart := by
  have once := writes.once
  have apart := writes.apart
  rw [List.pairwise_map, List.pairwise_filterMap] at apart ⊢
  rw [List.Nodup, List.pairwise_filterMap] at once
  refine (once.and apart).imp_of_mem fun {l m} l_among m_among ⟨once, apart⟩ p p_of q q_of => ?_
  have heads {p q : Pair} (heads : p.key.head? ≠ q.key.head?) : Apart p.key q.key :=
    apart_of_head (key_ne_nil p) (key_ne_nil q) heads
  cases l <;> cases p_of <;> cases m <;> cases q_of
  case field.refl.field.refl =>
    exact heads fun same => once _ rfl _ rfl (Field.key_injective (Option.some.inj same))
  case field.refl.other.refl =>
    exact heads fun same => (writes.holds _ m_among).2 _ same.symm
  case other.refl.field.refl =>
    exact heads ((writes.holds _ l_among).2 _)
  case other.refl.other.refl => exact apart p rfl q rfl

/-- The mark of a byte order, which a document may begin with. -/
def byteOrderMark : Char :=
  Char.ofNat 0xFEFF

theorem skipByteOrderMark_of_head {s : List Char} (other : s.head? ≠ some byteOrderMark) :
    skipByteOrderMark s = s := by
  cases s with
  | nil => rfl
  | cons d r => exact if_neg fun same => other (congrArg some same)

theorem head_of_blanks {ℓ : List Char} (blank : ℓ.all isBlankChar) {d : Char}
    (other : d ≠ byteOrderMark) (t : List Char) : (ℓ ++ d :: t).head? ≠ some byteOrderMark := by
  cases ℓ with
  | nil => exact fun same => other (Option.some.inj same)
  | cons e ℓ =>
      intro same
      have first := List.all_eq_true.1 blank e (.head _)
      rw [Option.some.inj same] at first
      cases first

theorem head_of_pair {ℓ : List Char} {p : Pair} (read : pair ℓ = .ok (p, [])) :
    ℓ.head? ≠ some byteOrderMark := by
  intro same
  obtain ⟨r, rfl⟩ := List.head?_eq_some_iff.1 same
  obtain ⟨d, v, first, begins⟩ := beginsKey_of_pair read
  have solid : skipBlanks (byteOrderMark :: r) = byteOrderMark :: r :=
    skipBlanks_blank (ℓ := []) rfl rfl r
  rw [solid] at first
  obtain ⟨rfl, -⟩ := List.cons.inj first
  revert begins
  unfold BeginsKey
  decide

theorem head_of_line (fits : Fits c) (holds : l.Holds c) :
    (l.text ++ ['\n']).head? ≠ some byteOrderMark := by
  cases l with
  | blank blanks => exact head_of_blanks holds (by decide) []
  | comment blanks text =>
      rw [Line.text, List.append_assoc]
      exact head_of_blanks holds.1 (by decide) _
  | field f s => exact head_of_pair (pair_of_shows fits holds)
  | other text p => exact head_of_pair holds.1

theorem skipByteOrderMark_written (fits : Fits c) (holds : ∀ l ∈ lines, l.Holds c) :
    skipByteOrderMark (written lines).toList = (written lines).toList := by
  refine skipByteOrderMark_of_head ?_
  rw [written, String.toList_ofList]
  cases lines with
  | nil => exact nofun
  | cons l lines =>
      have head := head_of_line fits (holds l (.head _))
      rw [List.flatMap_cons, List.head?_append]
      cases first : (l.text ++ ['\n']).head? with
      | none => simp at first
      | some d => rwa [first] at head

theorem length_le_written (lines : List Line) : lines.length ≤ (written lines).toList.length := by
  rw [written, String.toList_ofList]
  induction lines with
  | nil => exact Nat.le_refl _
  | cons l lines ih =>
      rw [List.flatMap_cons, List.length_append, List.length_append, List.length_singleton,
        List.length_cons]
      omega

theorem field?_eq_some : l.field? = some f ↔ ∃ s, l = .field f s := by
  cases l <;> simp [Line.field?]

/-- What the lines put under the known keys. -/
theorem document_written (fits : Fits c) (writes : Writes c lines) :
    ∃ es, document (written lines).toList = .ok (.table false false es) ∧
      ∀ f : Field,
        es.lookup f.key =
          if f ∈ lines.filterMap Line.field? then some (f.node c) else none := by
  have free (p : Pair) (_ : p ∈ lines.filterMap (Line.pair? c)) : Free [] p.key :=
    free_nil (key_ne_nil p)
  obtain ⟨es, added, elsewhere, here⟩ := addAll_of_apart free (pairs_apart writes)
  refine ⟨es, ?_, fun f => ?_⟩
  · have read : linesFrom ((written lines).toList.length + 1) {} (written lines).toList =
        .ok { current := .table false false es } := by
      have enough := Nat.lt_succ_of_le (length_le_written lines)
      rw [written, String.toList_ofList] at enough ⊢
      exact linesFrom_lines fits writes.holds added enough
    unfold document
    rw [skipByteOrderMark_written fits writes.holds]
    dsimp only
    rw [read]
    rfl
  · split
    · next among =>
        obtain ⟨l, l_among, is⟩ := List.mem_filterMap.1 among
        obtain ⟨s, rfl⟩ := field?_eq_some.1 is
        exact here f.key (f.node c) (List.mem_filterMap.2 ⟨_, l_among, rfl⟩)
    · next none =>
        refine (elsewhere f.key fun p among first => ?_).trans List.lookup_nil
        obtain ⟨l, l_among, is⟩ := List.mem_filterMap.1 among
        cases l <;> cases is
        · obtain rfl := Field.key_injective (Option.some.inj first)
          exact none (List.mem_filterMap.2 ⟨_, l_among, rfl⟩)
        · exact (writes.holds _ l_among).2 f first

/-! ## Reading back -/

theorem hasType_of_shows (fits : Fits c) (shown : f.Shows c s) : f.HasType (f.node c) := by
  cases f with
  | busyTimeout =>
      obtain ⟨n, set, -⟩ := shown
      refine ⟨_, rfl, ?_⟩
      rw [set, Option.getD_some, Int64.toInt_ofNat_of_lt (fits.lt set)]
      exact Int.natCast_nonneg n
  | readOnly => exact ⟨_, rfl⟩
  | create => exact ⟨_, rfl⟩
  | uri => exact ⟨_, rfl⟩
  | errorPrefix => exact ⟨_, rfl⟩

theorem timeout?_of_shows (fits : Fits c) (shown : Field.busyTimeout.Shows c s) :
    timeout? (Field.busyTimeout.node c) = some c.busyTimeout := by
  obtain ⟨n, set, -⟩ := shown
  rw [Field.node, timeout?, set, Option.getD_some, Int64.toInt_ofNat_of_lt (fits.lt set)]
  rfl

/-- Lines that write settings are read as these settings. -/
theorem parse_written (fits : Fits c) (writes : Writes c lines) (origin : String) :
    parse (written lines) origin = .ok c := by
  obtain ⟨es, reads, found⟩ := document_written fits writes
  have shown {f : Field} (among : f ∈ lines.filterMap Line.field?) : ∃ s, f.Shows c s := by
    obtain ⟨l, l_among, is⟩ := List.mem_filterMap.1 among
    obtain ⟨s, rfl⟩ := field?_eq_some.1 is
    exact ⟨s, writes.holds _ l_among⟩
  have set {α : Type} (read : Node → Option α) (f : Field) {default x : α}
      (shows : ∀ s, f.Shows c s → read (f.node c) = some x) (absent : f.IsDefault c → x = default) :
      valueAt read es f default = x := by
    unfold valueAt
    rw [found]
    split
    · next among =>
        obtain ⟨s, shown⟩ := shown among
        rw [Option.bind_some, shows s shown, Option.getD_some]
    · next left => exact (absent (writes.absent f left)).symm
  refine (parse_eq_ok reads).2 ⟨fun f v there => ?_, ?_⟩
  · change es.lookup f.key = some v at there
    rw [found] at there
    split at there
    · next among =>
        cases there
        obtain ⟨s, shown⟩ := shown among
        exact hasType_of_shows fits shown
    · cases there
  · show c = settings es {}
    unfold settings
    rw [set timeout? .busyTimeout (fun _ => timeout?_of_shows fits) id,
      set boolean? .readOnly (fun _ _ => rfl) id, set boolean? .create (fun _ _ => rfl) id,
      set boolean? .uri (fun _ _ => rfl) id, set string? .errorPrefix (fun _ _ => rfl) id]

end Pairs

/-- Settings with a prefix that has to be escaped. -/
def nightly : Config :=
  { busyTimeout := some 250, readOnly := true, errorPrefix := "night \"run\": " }

/-- Lines that write them, with notes between them. -/
def annotated : List Line :=
  [ .comment [' '] " of the night run".toList,
    .field .errorPrefix "\"night \\\"run\\\": \"".toList,
    .other "note.author = 'x' # who".toList (["note"], "author", .string "x"),
    .blank ['\t'],
    .field .busyTimeout "250".toList,
    .other "note.\"since when\" = 1979-05-27".toList (["note"], "since when", .dateTime),
    .field .readOnly "true".toList ]

/-- Equality of nodes is not decided, so what is read is compared by its parts. -/
theorem pair_author : pair ("note.author = 'x' # who".toList ++ ['\n']) =
    .ok ((["note"], "author", .string "x"), []) := by
  have seen : (pair ("note.author = 'x' # who".toList ++ ['\n'])).toOption.map
      (fun read => (read.1.1, read.1.2.1, (stringOf read.1.2.2).toOption, read.2)) =
        some (["note"], "author", some "x", []) := by
    decide +kernel
  generalize pair ("note.author = 'x' # who".toList ++ ['\n']) = read at seen ⊢
  rcases read with f | ⟨⟨path, last, v⟩, r⟩
  · cases seen
  · cases v <;> cases seen
    rfl

theorem pair_since : pair ("note.\"since when\" = 1979-05-27".toList ++ ['\n']) =
    .ok ((["note"], "since when", .dateTime), []) := by
  have seen : (pair ("note.\"since when\" = 1979-05-27".toList ++ ['\n'])).toOption.map
      (fun read => (read.1.1, read.1.2.1, read.1.2.2.kindName, read.2)) =
        some (["note"], "since when", "datetime", []) := by
    decide +kernel
  generalize pair ("note.\"since when\" = 1979-05-27".toList ++ ['\n']) = read at seen ⊢
  rcases read with f | ⟨⟨path, last, v⟩, r⟩
  · cases seen
  · have same : (path, last, v.kindName, r) = (["note"], "since when", "datetime", []) :=
      Option.some.inj seen
    simp only [Prod.mk.injEq] at same
    obtain ⟨rfl, rfl, kind, rfl⟩ := same
    cases v with
    | dateTime => rfl
    | _ => simp [Node.kindName] at kind

theorem annotated_writes : Writes nightly annotated where
  holds := by
    unfold annotated
    simp only [List.forall_mem_cons, Line.Holds, Field.Shows]
    refine ⟨⟨rfl, rfl⟩, ⟨_, spells_escapeChar _, rfl⟩, ⟨pair_author, ?_⟩, rfl, ⟨250, rfl, rfl⟩,
      ⟨pair_since, ?_⟩, rfl, nofun⟩ <;> exact fun f => by cases f <;> decide
  once := by decide
  absent f absent := by
    cases f <;> first | rfl | exact absurd (by decide) absent
  apart := by decide

/-- A document is read as settings exactly if each known key that its root table has stands for a
value of its type, and then each setting is the value of its key, or its default where there is no
such key.  So settings that are written in lines are read back, from a text or from a file, whatever
the order of the lines is and whatever comments, blank lines and lines under other keys stand
between them. -/
theorem configuration_decodes :
    (∀ text root, document text.toList = .ok root →
      ((∃ c, ofInline text = .ok c) ↔ Typed root.entries) ∧
        ∀ c, ofInline text = .ok c → c = settings root.entries {}) ∧
      ∀ c lines, Fits c → Writes c lines →
        ofInline (written lines) = .ok c ∧ ∀ path, ofFile path (.ok (written lines)) = .ok c := by
  refine ⟨fun text root reads => ⟨⟨?_, ?_⟩, ?_⟩, fun c lines fits writes => ⟨?_, fun path => ?_⟩⟩
  · rintro ⟨c, done⟩
    exact ((parse_eq_ok reads).1 done).1
  · exact fun typed => ⟨_, (parse_eq_ok reads).2 ⟨typed, rfl⟩⟩
  · exact fun c done => ((parse_eq_ok reads).1 done).2
  · exact parse_written fits writes "<inline>"
  · exact parse_written fits writes path

theorem configuration_decodes_nightly :
    (∃ c, ofInline "create = false\n[section]\nread_only = 3\n" = .ok c ∧ c = { create := false }) ∧
      Fits nightly ∧ Writes nightly annotated ∧
        ofInline (written annotated) = .ok nightly := by
  have seen : (document "create = false\n[section]\nread_only = 3\n".toList).toOption.map
      (fun root => root.entries.map fun entry => (entry.1, (booleanOf entry.2).toOption)) =
        some [("create", some false), ("section", none)] := by
    decide +kernel
  obtain ⟨root, reads, keys⟩ : ∃ root,
      document "create = false\n[section]\nread_only = 3\n".toList = .ok root ∧
        (root.entries.map fun entry => (entry.1, (booleanOf entry.2).toOption)) =
          [("create", some false), ("section", none)] := by
    generalize document "create = false\n[section]\nread_only = 3\n".toList = read at seen ⊢
    rcases read with issue | root
    · cases seen
    · exact ⟨root, rfl, Option.some.inj seen⟩
  obtain ⟨⟨_, v⟩, _, entries, create, keys⟩ := List.map_eq_cons_iff.1 keys
  obtain ⟨⟨_, w⟩, _, rfl, other, keys⟩ := List.map_eq_cons_iff.1 keys
  obtain rfl := List.map_eq_nil_iff.1 keys
  simp only [Prod.mk.injEq] at create other
  obtain ⟨rfl, value⟩ := create
  obtain ⟨rfl, -⟩ := other
  obtain rfl : v = .boolean false := by
    cases v <;> cases value
    rfl
  have typed : Typed root.entries := by
    rw [entries, typed_cons rfl]
    exact ⟨(typed_singleton_key .create).2 ⟨false, rfl⟩,
      typed_of_unknown fun f => by cases f <;> decide⟩
  have fits : Fits nightly := by
    intro n set
    cases set
    decide
  obtain ⟨succeeds, equals⟩ := configuration_decodes.1 _ _ reads
  obtain ⟨c, done⟩ := succeeds.2 typed
  have settled : c = { create := false } := by
    rw [equals c done, entries]
    rfl
  exact ⟨⟨c, done, settled⟩, fits, annotated_writes,
    (configuration_decodes.2 nightly annotated fits annotated_writes).1⟩

end SqlDriver.Config
