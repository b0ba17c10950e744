/-
# SqlDriver.Proofs.Engine.Blind -- what is made ready without knowing the tables

While another session keeps a file to itself, its tables cannot be known.  A statement that is
made ready all the same has looked for no table, so it would have become the same program whatever
tables there are (`prepare_of_blind`).  Binding in the one setting and in the other goes side by
side: `Follows r l l'` says that where `l` comes to something, so does `l'`, and `r` relates the
two.
-/
import SqlDriver.Proofs.Engine.Prepared
import Mathlib.Data.List.Forall2

namespace SqlDriver.Engine

set_option autoImplicit false

namespace Binding

/-! ## Side by side -/

/-- Two notes agree but for whether tables are read. -/
def Notes.Like (n n' : Notes) : Prop :=
  n'.used = n.used ∧ n'.functions = n.functions

/-- Where one lookup comes to something, so does the other, and `r` relates what they come to. -/
def Follows {α β : Type} (r : α → β → Prop) (l : Lookup α) (l' : Lookup β) : Prop :=
  ∀ n n' : Notes, n.Like n' → ∀ x m, StateT.run l n = .ok (x, m) →
    ∃ y m', StateT.run l' n' = .ok (y, m') ∧ r x y ∧ m.Like m'

namespace Follows

variable {α β γ δ : Type} {r : α → β → Prop} {q : γ → δ → Prop}

theorem pure {x : α} {y : β} (related : r x y) : Follows r (pure x) (pure y) := by
  rintro n n' like _ _ ⟨⟩
  exact ⟨y, n', rfl, related, like⟩

theorem throw (fault : Fault) (l' : Lookup β) : Follows r (throw fault) l' := by
  rintro n n' like _ _ ⟨⟩

theorem refuse (message : String) (l' : Lookup β) : Follows r (Binding.refuse message) l' :=
  throw _ l'

/-- Bindings that follow each other may be followed by such. -/
theorem bind_of {l : Lookup α} {l' : Lookup β} {f : α → Lookup γ} {f' : β → Lookup δ}
    (first : Follows r l l') (rest : ∀ x y, r x y → Follows q (f x) (f' y)) :
    Follows q (l >>= f) (l' >>= f') := by
  intro n n' like z m answer
  rw [StateT.run_bind] at answer
  cases made : StateT.run l n with
  | error fault =>
      rw [made] at answer
      cases answer
  | ok result =>
      rw [made] at answer
      obtain ⟨y, k', made', related, like⟩ := first n n' like _ _ made
      obtain ⟨z', m', answer', done⟩ := rest result.1 y related result.2 k' like z m answer
      exact ⟨z', m', by rw [StateT.run_bind, made']; exact answer', done⟩

theorem bind {l l' : Lookup α} {f : α → Lookup γ} {f' : α → Lookup δ}
    (first : Follows Eq l l') (rest : ∀ x, Follows q (f x) (f' x)) :
    Follows q (l >>= f) (l' >>= f') :=
  bind_of first fun x _ same => same ▸ rest x

/-- A lookup that begins by refusing comes to nothing. -/
theorem refuse_bind (message : String) (f : α → Lookup γ) (l' : Lookup δ) :
    Follows q (Binding.refuse message >>= f) l' := by
  rintro n n' like _ _ ⟨⟩

theorem get : Follows Notes.Like (MonadState.get : Lookup Notes) MonadState.get := by
  rintro n n' like _ _ ⟨⟩
  exact ⟨n', n', rfl, like, like⟩

theorem set {n n' : Notes} (like : n.Like n') :
    Follows Eq (MonadStateOf.set n : Lookup PUnit) (MonadStateOf.set n') := by
  rintro _ _ _ _ _ ⟨⟩
  exact ⟨_, n', rfl, rfl, like⟩

theorem modify {f f' : Notes → Notes} (like : ∀ n n' : Notes, n.Like n' → (f n).Like (f' n')) :
    Follows Eq (modify f : Lookup PUnit) (modify f') := by
  rintro n n' alike _ _ ⟨⟩
  exact ⟨_, f' n', rfl, rfl, like n n' alike⟩

/-- What is done for each of some things. -/
theorem forM {f f' : γ → Lookup PUnit} (each : ∀ x, Follows Eq (f x) (f' x)) :
    ∀ xs : List γ, Follows Eq (xs.forM f) (xs.forM f')
  | [] => .pure rfl
  | x :: rest => .bind (each x) fun _ => forM each rest

end Follows

/-! ## Settings -/

/-- What a name stands for: the same, or what may not be referred to. -/
inductive Named.Under : Named → Named → Prop where
  | same (n : Named) : Under n n
  | refused (fault : Fault) (n : Named) : Under (.refused fault) n

/-- The tables cannot be known in the first setting; for the rest, the settings are the same. -/
structure Env.Under (env env' : Env) : Prop where
  blind : env.unreadable.isSome
  scopes : env'.scopes = env.scopes
  aliases : env'.aliases = env.aliases
  aggregates : env'.aggregates = env.aggregates
  named : List.Forall₂ (fun m m' => m'.1 = m.1 ∧ m.2.Under m'.2) env.named env'.named

namespace Env.Under

variable {env env' : Env}

theorem push (under : env.Under env') (s : Scope) : (env.push s).Under (env'.push s) :=
  ⟨under.blind, congrArg (s :: ·) under.scopes, rfl, rfl, under.named⟩

theorem withAliases (under : env.Under env') (aliases : List (String × Bound)) :
    { env with aliases }.Under { env' with aliases } :=
  ⟨under.blind, under.scopes, rfl, under.aggregates, under.named⟩

theorem withAggregates (under : env.Under env') (aggregates : Bool) :
    { env with aggregates }.Under { env' with aggregates } :=
  ⟨under.blind, under.scopes, under.aliases, rfl, under.named⟩

theorem depth (under : env.Under env') : env'.depth = env.depth :=
  congrArg List.length under.scopes

theorem column? (under : env.Under env') (qualifier : Option String) (n : String) :
    env'.column? qualifier n = env.column? qualifier n := by
  rw [Env.column?, Env.column?, under.scopes, under.aliases]

/-- A name stands for queries that are related, or for none. -/
theorem find? (under : env.Under env') (n : String) :
    Option.Rel (fun m m' => m.2.Under m'.2) (env.named.find? fun (m, _) => sameName m n)
      (env'.named.find? fun (m, _) => sameName m n) := by
  have named := under.named
  generalize env.named = ns, env'.named = ns' at named
  induction named with
  | nil => exact .none
  | @cons a b _ _ related _ ih =>
      rw [List.find?_cons, List.find?_cons]
      dsimp only
      rw [related.1]
      cases sameName a.1 n with
      | true => exact .some related.2
      | false => exact ih

end Env.Under

/-- What needs the tables comes to nothing where they cannot be known. -/
theorem needTables_follows {env : Env} (unreadable : env.unreadable.isSome) {α β : Type}
    {r : α → β → Prop} (f : PUnit → Lookup α) (l' : Lookup β) :
    Follows r (needTables env >>= f) l' := by
  obtain ⟨fault, blind⟩ := Option.isSome_iff_exists.1 unreadable
  unfold needTables
  rw [blind]
  rintro notes notes' like _ _ ⟨⟩

/-- Where no table can be read, nothing follows a table that is looked up. -/
theorem table_follows {env : Env} (unreadable : env.unreadable.isSome) {α β : Type}
    {r : α → β → Prop} (n : String) (f : Table → Lookup α) (l' : Lookup β) :
    Follows r (table env n >>= f) l' := by
  obtain ⟨fault, blind⟩ := Option.isSome_iff_exists.1 unreadable
  unfold table needTables
  rw [blind]
  rintro notes notes' like _ _ ⟨⟩

section Names

variable {env env' : Env} (under : env.Under env')
include under

theorem note_follows (b : Bound) (level : Option Nat) :
    Follows Eq (note env b level) (note env' b level) := by
  unfold note
  cases level with
  | none => exact .pure rfl
  | some level =>
      dsimp only
      split
      · rw [under.depth]
        exact .modify fun n n' like => ⟨congrArg (_ :: ·) like.1, like.2⟩
      · exact .pure rfl

theorem bindName_follows (qualifier : Option String) (n : String) (quoted : Bool) :
    Follows Eq (bindName env qualifier n quoted) (bindName env' qualifier n quoted) := by
  unfold bindName
  rw [under.column?]
  split
  · exact .bind (note_follows under _ _) fun _ => .pure rfl
  · extract_lets
    split
    · exact .pure rfl
    · split
      · exact .pure rfl
      · exact .refuse _ _

theorem nested_follows {bind bind' : Lookup (Query × List Output)}
    (same : Follows Eq bind bind') : Follows Eq (nested env bind) (nested env' bind') := by
  unfold nested
  refine .bind_of .get fun outside outside' like => .bind (.set ⟨rfl, like.2⟩) fun _ =>
    .bind same fun _ => .bind_of .get fun inside inside' alike =>
      .bind (.set ⟨?_, like.2⟩) fun _ => .pure ?_
  · rw [alike.1, like.1]
  · rw [alike.1, under.depth]

theorem namedOrigin_follows (label : String) {n n' : Named} (related : n.Under n') :
    Follows Eq (namedOrigin env label n) (namedOrigin env' label n') := by
  cases related with
  | refused fault => exact .throw fault _
  | same =>
      cases n with
      | query q outputs => exact .pure rfl
      | row depth outputs =>
          refine .bind (.modify fun n n' like => ⟨congrArg (_ :: ·) like.1, like.2⟩) fun _ =>
            .pure ?_
          rw [under.depth]
      | refused fault => exact .throw fault _

theorem tableOrigin_follows (n : String) (given : Option String) :
    Follows Eq (tableOrigin env n given) (tableOrigin env' n given) := by
  have found := under.find? n
  unfold tableOrigin
  extract_lets label
  generalize env.named.find? _ = m, env'.named.find? _ = m' at found ⊢
  cases found with
  | some related => exact namedOrigin_follows under label related
  | none => exact table_follows under.blind n _ _

end Names

/-! ## Queries -/

/-- Two selects whose names are looked up differ in their settings alone. -/
structure Arm.Under (a a' : Arm) : Prop where
  env : a.env.Under a'.env
  same : a' = { a with env := a'.env }

theorem Arm.Under.results {a a' : Arm} (under : a.Under a') : a'.results = a.results := by
  rw [under.same]

theorem Arm.Under.outputs {a a' : Arm} (under : a.Under a') : a'.outputs = a.outputs :=
  congrArg (List.map Prod.fst) under.results

theorem Arm.Under.query {a a' : Arm} (under : a.Under a') (keys : List (Bound × Bool)) :
    a'.query keys = a.query keys := by
  rw [under.same]
  rfl

/-- Selects that are joined, one by one alike. -/
def Alike : List (Junction × Arm × List (Option String)) →
    List (Junction × Arm × List (Option String)) → Prop :=
  List.Forall₂ fun a a' => a'.1 = a.1 ∧ a.2.1.Under a'.2.1 ∧ a'.2.2 = a.2.2

namespace Alike

variable {arms arms' more more' : List (Junction × Arm × List (Option String))}

theorem append (alike : Alike arms arms') (others : Alike more more') :
    Alike (arms ++ more) (arms' ++ more') :=
  List.rel_append alike others

theorem isEmpty (alike : Alike arms arms') : arms'.isEmpty = arms.isEmpty := by
  cases alike <;> rfl

/-- What is taken from selects without a look at their settings is the same. -/
theorem map {γ : Type} {f : Junction × Arm × List (Option String) → γ} (alike : Alike arms arms')
    (same : ∀ j (a : Arm) env names, f (j, { a with env }, names) = f (j, a, names)) :
    arms'.map f = arms.map f := by
  induction alike with
  | nil => rfl
  | @cons a a' _ _ first _ ih =>
      have here : f a' = f a := by
        obtain ⟨j, b', names'⟩ := a'
        obtain ⟨rfl, under, rfl⟩ := first
        exact (congrArg (fun b => f (_, b, _)) under.same).trans (same ..)
      rw [List.map_cons, List.map_cons, here, ih]

theorem widths (alike : Alike arms arms') :
    (arms'.map fun (_, a) => a.1.results.length) = arms.map fun (_, a) => a.1.results.length :=
  alike.map fun _ _ _ _ => rfl

theorem queries (alike : Alike arms arms') :
    (arms'.map fun (j, a) => (j, a.1.query [])) = arms.map fun (j, a) => (j, a.1.query []) :=
  alike.map fun _ _ _ _ => rfl

theorem selects (alike : Alike arms arms') :
    (arms'.map fun (_, a) => a.1.query []) = arms.map fun (_, a) => a.1.query [] :=
  alike.map fun _ _ _ _ => rfl

end Alike

/-- A name with a select of either environment may be added to both. -/
theorem Env.Under.name {env env' : Env} {n : String} {m m' : Named} (under : env.Under env')
    (related : m.Under m') :
    { env with named := (n, m) :: env.named }.Under { env' with named := (n, m') :: env'.named } :=
  ⟨under.blind, under.scopes, under.aliases, under.aggregates,
    .cons ⟨rfl, related⟩ under.named⟩

theorem callBound_follows (name : String) (arguments : List Bound) :
    Follows Eq (callBound name arguments) (callBound name arguments) := by
  unfold callBound
  extract_lets terms
  split
  · exact .pure rfl
  · exact .pure rfl
  · exact .pure rfl
  · exact .refuse _ _
  · exact .refuse _ _
  · exact .refuse _ _

theorem aggregateBound_follows (f : AggregateFunction) (argument : Option Bound) :
    Follows Eq (aggregateBound f argument) (aggregateBound f argument) := by
  refine .bind_of .get fun n n' like => ?_
  extract_lets place c place'
  have same : place' = place := congrArg List.length like.2
  rw [same]
  exact .bind (.modify fun n n' like => ⟨like.1, congrArg (· ++ _) like.2⟩) fun _ => .pure rfl

theorem checkWidths_follows (isValues : Bool) (width : Nat) (others : List Nat) :
    Follows Eq (checkWidths isValues width others) (checkWidths isValues width others) := by
  unfold checkWidths
  split
  · split
    · exact .refuse _ _
    · exact .refuse _ _
  · exact .pure rfl

theorem keyResult?_follows (results : List (Output × Bound)) (names : List (Option String))
    (place : Nat) (e : Expr) :
    Follows Eq (keyResult? results names place e) (keyResult? results names place e) := by
  unfold keyResult?
  split
  · split
    · exact .pure rfl
    · exact .refuse _ _
  · exact .pure rfl
  · exact .pure rfl

/-- A query with a name; a failure of it is kept, and what was noted meanwhile is not. -/
def kept (n : String) (outside : Notes) (body : Lookup Named) : Lookup (String × Named) := do
  let named ← tryCatch body fun fault => return .refused fault
  modify fun notes => { notes with used := outside.used, functions := outside.functions }
  return (n, named)

/-- A body that binds is kept, and the notes of the outside go on. -/
theorem kept_of_ok (n : String) (outside : Notes) {body : Lookup Named} {k notes : Notes}
    {named : Named} (made : StateT.run body k = .ok (named, notes)) :
    StateT.run (kept n outside body) k = .ok ((n, named),
      { notes with used := outside.used, functions := outside.functions }) := by
  have caught : StateT.run (tryCatch body fun fault => return .refused fault) k =
      .ok (named, notes) := congrArg (fun r => tryCatch r _) made
  rw [kept, StateT.run_bind, caught]
  rfl

/-- A body that does not bind is kept as refused, and the notes of the outside go on. -/
theorem kept_of_error (n : String) (outside : Notes) {body : Lookup Named} {k : Notes}
    {fault : Fault} (failed : StateT.run body k = .error fault) :
    StateT.run (kept n outside body) k = .ok ((n, .refused fault),
      { k with used := outside.used, functions := outside.functions }) := by
  have caught : StateT.run (tryCatch body fun fault => return .refused fault) k =
      .ok (.refused fault, k) := congrArg (fun r => tryCatch r _) failed
  rw [kept, StateT.run_bind, caught]
  rfl

/-- A query that fails where tables cannot be known stands for whatever it may. -/
theorem kept_follows (n : String) {outside outside' : Notes} (like : outside.Like outside')
    {body body' : Lookup Named} (inside : Follows Named.Under body body') :
    Follows (fun m m' => m'.1 = m.1 ∧ m.2.Under m'.2) (kept n outside body)
      (kept n outside' body') := by
  intro k k' alike m last answer
  cases made : StateT.run body k with
  | ok result =>
      rw [kept_of_ok n outside made] at answer
      cases answer
      obtain ⟨named', notes', made', related, _⟩ := inside k k' alike _ _ made
      exact ⟨_, _, kept_of_ok n outside' made', ⟨rfl, related⟩, like⟩
  | error fault =>
      rw [kept_of_error n outside made] at answer
      cases answer
      cases made' : StateT.run body' k' with
      | ok result => exact ⟨_, _, kept_of_ok n outside' made', ⟨rfl, .refused _ _⟩, like⟩
      | error fault' => exact ⟨_, _, kept_of_error n outside' made', ⟨rfl, .refused _ _⟩, like⟩

mutual

theorem bindExpr_follows {env env' : Env} (under : env.Under env') :
    ∀ e : Expr, Follows Eq (bindExpr env e) (bindExpr env' e)
  | .literal _ | .numeral _ | .parameter => by
      unfold bindExpr
      exact .pure rfl
  | .name qualifier n quoted => by
      unfold bindExpr
      exact bindName_follows under qualifier n quoted
  | .unary op e => by
      have operand := bindExpr_follows under e
      unfold bindExpr
      split
      case h_7 _ op' e' _ _ same =>
        cases same
        refine .bind operand fun b => ?_
        split <;> exact .pure rfl
      -- A number with a sign is a number; the rest are other expressions.
      all_goals first | exact .pure rfl | next other => cases other
  | .compare _ l r | .combine _ l r | .both l r | .either l r => by
      unfold bindExpr
      exact .bind (bindExpr_follows under l) fun _ => .bind (bindExpr_follows under r) fun _ =>
        .pure rfl
  | .isNull _ e | .cast e _ => by
      unfold bindExpr
      exact .bind (bindExpr_follows under e) fun _ => .pure rfl
  | .between negated e low high => by
      unfold bindExpr
      exact .bind (bindExpr_follows under e) fun _ => .bind (bindExpr_follows under low) fun _ =>
        .bind (bindExpr_follows under high) fun _ => .pure rfl
  | .oneOf negated e items => by
      unfold bindExpr
      exact .bind (bindExpr_follows under e) fun _ => .bind (bindAll_follows under items) fun _ =>
        .pure rfl
  | .like negated e pattern => by
      unfold bindExpr
      exact .bind (bindExpr_follows under e) fun _ => .bind (bindExpr_follows under pattern)
        fun _ => .pure rfl
  | .collate e n => by
      unfold bindExpr
      refine .bind (bindExpr_follows under e) fun _ => ?_
      split
      · exact .pure rfl
      · exact .refuse _ _
  | .cases base branches otherwise => by
      unfold bindExpr
      exact .bind (bindOption_follows under base) fun _ =>
        .bind (bindOption_follows under otherwise) fun _ =>
          .bind (bindBranches_follows under _ _ branches) fun _ => .pure rfl
  | .call f arguments => by
      unfold bindExpr
      split
      · rw [under.aggregates]
        split
        · extract_lets inner inner'
          have within : inner.Under inner' :=
            ⟨under.blind, congrArg (List.drop 1) under.scopes, under.aliases, rfl, under.named⟩
          exact .bind (bindAll_follows within arguments) fun _ => aggregateBound_follows _ _
        · exact .bind (bindAll_follows under arguments) fun _ => .refuse _ _
      · exact .bind (bindAll_follows under arguments) fun _ => callBound_follows _ _
  | .callAll f => by
      unfold bindExpr
      split
      · rw [under.aggregates]
        split
        · exact aggregateBound_follows _ _
        · exact .refuse _ _
      · exact .refuse _ _
      · exact .refuse _ _
  | .first q => by
      unfold bindExpr
      refine .bind (nested_follows under (bindSelect_follows under q)) fun _ => ?_
      split
      split
      · exact .pure rfl
      · exact .refuse _ _
  | .exists q => by
      unfold bindExpr
      exact .bind (nested_follows under (bindSelect_follows under q)) fun _ => .pure rfl

theorem bindAll_follows {env env' : Env} (under : env.Under env') :
    ∀ es : List Expr, Follows Eq (bindAll env es) (bindAll env' es)
  | [] => by
      unfold bindAll
      exact .pure rfl
  | e :: r => by
      unfold bindAll
      exact .bind (bindExpr_follows under e) fun _ => .bind (bindAll_follows under r) fun _ =>
        .pure rfl

theorem bindOption_follows {env env' : Env} (under : env.Under env') :
    ∀ e : Option Expr, Follows Eq (bindOption env e) (bindOption env' e)
  | none => by
      unfold bindOption
      exact .pure rfl
  | some e => by
      unfold bindOption
      exact .bind (bindExpr_follows under e) fun _ => .pure rfl

/-- The branches of a `CASE` follow, one after the other. -/
theorem bindBranches_follows {env env' : Env} (under : env.Under env') (base : Option Bound)
    (otherwise : Term) : ∀ branches : List (Expr × Expr),
      Follows Eq (bindBranches env base otherwise branches)
        (bindBranches env' base otherwise branches)
  | [] => by
      unfold bindBranches
      exact .pure rfl
  | (c, e) :: r => by
      unfold bindBranches
      exact .bind (bindExpr_follows under c) fun _ => .bind (bindExpr_follows under e) fun _ =>
        .bind (bindBranches_follows under base otherwise r) fun _ => .pure rfl

theorem bindSelect_follows {env env' : Env} (under : env.Under env') :
    ∀ q : Select, Follows Eq (bindSelect env q) (bindSelect env' q)
  | .mk recursive tables head tail order limit offset => by
      unfold bindSelect
      refine .bind_of (bindTables_follows under tables) fun env env' under => ?_
      extract_lets plain isValues plain'
      have bare : plain.Under plain' := ⟨under.blind, rfl, rfl, rfl, under.named⟩
      refine .bind (bindOption_follows bare limit) fun count =>
        .bind (bindOption_follows bare offset) fun offset =>
        .bind (checkTail_follows under tail) fun _ =>
        .bind (checkSource_follows under head) fun _ =>
        .bind_of (bindTail_follows under tail) fun rest rest' alike =>
        .bind_of (bindCore_follows under head) fun ⟨a, names⟩ ⟨a', _⟩ ⟨first, same⟩ => ?_
      cases same
      obtain ⟨inner, rfl⟩ : ∃ inner, a' = { a with env := inner } := ⟨_, first.same⟩
      dsimp only
      rw [alike.widths, alike.isEmpty, alike.queries]
      refine .bind (checkWidths_follows _ _ _) fun _ => ?_
      split
      · exact .bind (bindOrder_follows (first.env.withAliases _) _ _ _ _ order) fun _ => .pure rfl
      · exact .bind (bindOrder_follows under _ _ _ _ order) fun _ => .pure rfl

/-- The sources of the selects behind the first one. -/
theorem checkTail_follows {env env' : Env} (under : env.Under env') :
    ∀ tail : List (Junction × Core), Follows Eq (checkTail env tail) (checkTail env' tail)
  | [] => by
      unfold checkTail
      exact .pure rfl
  | (_, c) :: r => by
      unfold checkTail
      exact .bind (checkTail_follows under r) fun _ => checkSource_follows under c

theorem checkSource_follows {env env' : Env} (under : env.Under env') :
    ∀ c : Core, Follows Eq (checkSource env c) (checkSource env' c)
  | .select distinct items source filter => by
      unfold checkSource
      exact .bind (bindSource_follows under source) fun _ => .pure rfl
  | .values rows => by
      unfold checkSource
      exact .pure rfl

/-- Selects that are joined follow, one by one. -/
theorem bindTail_follows {env env' : Env} (under : env.Under env') :
    ∀ tail : List (Junction × Core),
      Follows Alike (bindTail env tail) (bindTail env' tail)
  | [] => by
      unfold bindTail
      exact .pure .nil
  | (j, c) :: r => by
      unfold bindTail
      exact .bind_of (bindTail_follows under r) fun _ _ rest =>
        .bind_of (bindCore_follows under c) fun _ _ arm => .pure (.cons ⟨rfl, arm⟩ rest)

theorem bindCore_follows {env env' : Env} (under : env.Under env') :
    ∀ c : Core, Follows (fun a a' => a.1.Under a'.1 ∧ a'.2 = a.2) (bindCore env c)
      (bindCore env' c)
  | .values rows => by
      unfold bindCore
      extract_lets inner inner'
      refine .bind (bindRows_follows (under.push {}) rows) fun rows => ?_
      extract_lets width results queries source
      exact .bind (checkWidths_follows _ _ _) fun _ => .pure ⟨⟨under.push _, rfl⟩, rfl⟩
  | .select distinct items source filter => by
      unfold bindCore
      refine .bind (bindSource_follows under source) fun origin => .bind_of .get
        fun outside outside' like => .bind (.set ⟨rfl, rfl⟩) fun _ => ?_
      have within : (env.push origin.scope).Under (env'.push origin.scope) := under.push _
      have above : (if items.any itemAggregate then
            { (env.push origin.scope).push {} with aggregates := true } else
            env.push origin.scope).Under
          (if items.any itemAggregate then
            { (env'.push origin.scope).push {} with aggregates := true } else
            env'.push origin.scope) := by
        split
        · exact (within.push {}).withAggregates true
        · exact within
      split
      · exact .refuse_bind _ _ _
      · refine .bind (bindItems_follows above _ _ items) fun results => ?_
        refine .bind (bindOption_follows (within.withAliases _) filter) fun filter => .bind_of .get
          fun inside inside' alike => .bind (.set ⟨?_, like.2⟩) fun _ => .pure ⟨⟨above, ?_⟩, rfl⟩
        · dsimp only
          rw [alike.1, like.1]
        · dsimp only
          rw [under.depth, alike.1, alike.2]

theorem bindRows_follows {env env' : Env} (under : env.Under env') :
    ∀ rows : List (List Expr), Follows Eq (bindRows env rows) (bindRows env' rows)
  | [] => by
      unfold bindRows
      exact .pure rfl
  | es :: r => by
      unfold bindRows
      exact .bind (bindAll_follows under es) fun _ => .bind (bindRows_follows under r) fun _ =>
        .pure rfl

/-- The entries of a result list follow, one after the other. -/
theorem bindItems_follows {env env' : Env} (under : env.Under env') (scope : Scope)
    (level : Nat) : ∀ items : List ResultItem,
      Follows Eq (bindItems env scope level items) (bindItems env' scope level items)
  | [] => by
      unfold bindItems
      exact .pure rfl
  | item :: r => by
      unfold bindItems
      exact .bind (bindItem_follows under scope level item) fun _ =>
        .bind (bindItems_follows under scope level r) fun _ => .pure rfl

theorem bindItem_follows {env env' : Env} (under : env.Under env') (scope : Scope)
    (level : Nat) : ∀ item : ResultItem,
      Follows Eq (bindItem env scope level item) (bindItem env' scope level item)
  | .all => by
      unfold bindItem
      exact .bind (.forM (fun _ => note_follows under _ _) _) fun _ => .pure rfl
  | .allOf table => by
      unfold bindItem
      split
      · exact .bind (.forM (fun _ => note_follows under _ _) _) fun _ => .pure rfl
      · exact .refuse _ _
  | .item e given text => by
      unfold bindItem
      exact .bind (bindExpr_follows under e) fun _ => .pure rfl

theorem bindSource_follows {env env' : Env} (under : env.Under env') :
    ∀ source : Option Source, Follows Eq (bindSource env source) (bindSource env' source)
  | none => by
      unfold bindSource
      exact .pure rfl
  | some (.table n given) => by
      unfold bindSource
      exact tableOrigin_follows under n given
  | some (.query q given) => by
      unfold bindSource
      have bare : { env with aliases := [], aggregates := false }.Under
          { env' with aliases := [], aggregates := false } :=
        (under.withAliases []).withAggregates false
      exact .bind (bindSelect_follows bare q) fun _ => .pure rfl

/-- The keys of a sort follow: each is a result, or an expression of its own. -/
theorem bindOrder_follows {env env' : Env} (under : env.Under env')
    (results : List (Output × Bound)) (names : List (Option String)) (only : Bool) :
    ∀ (place : Nat) (order : List (Expr × Bool)),
      Follows Eq (bindOrder env results names only place order)
        (bindOrder env' results names only place order)
  | _, [] => by
      unfold bindOrder
      exact .pure rfl
  | place, (e, descending) :: r => by
      have key := bindExpr_follows under e
      have rest := bindOrder_follows under results names only (place + 1) r
      unfold bindOrder
      refine .bind (keyResult?_follows results names place e) fun found => ?_
      have more : ∀ key, Follows Eq
          (do
            let rest ← bindOrder env results names only (place + 1) r
            return (key, descending) :: rest)
          (do
            let rest ← bindOrder env' results names only (place + 1) r
            return (key, descending) :: rest) := fun _ => .bind rest fun _ => .pure rfl
      cases found with
      | some b => exact more b
      | none =>
          cases only with
          | true => exact .refuse_bind _ _ _
          | false => exact .bind key more

/-- The environments with all common tables in them follow. -/
theorem bindTables_follows {env env' : Env} (under : env.Under env') :
    ∀ tables : List CommonTable,
      Follows Env.Under (bindTables env tables) (bindTables env' tables)
  | [] => by
      unfold bindTables
      exact .pure under
  | t :: r => by
      unfold bindTables
      refine .bind_of (bindTable_follows under t) fun m m' ⟨same, related⟩ => ?_
      obtain ⟨n, named⟩ := m
      obtain ⟨_, named'⟩ := m'
      cases same
      exact bindTables_follows (under.name related) r

theorem bindTable_follows {env env' : Env} (under : env.Under env') :
    ∀ t : CommonTable, Follows (fun m m' => m'.1 = m.1 ∧ m.2.Under m'.2) (bindTable env t)
      (bindTable env' t)
  | .mk n columns (.mk recursive tables head tail order limit offset) => by
      unfold bindTable
      refine .bind_of .get fun outside outside' like => kept_follows n like ?_
      have inner : ({ env with
            scopes := [], aliases := [], aggregates := false,
            named := (n, .refused ⟨"circular reference: " ++ n, 1⟩) :: env.named } : Env).Under
          { env' with
            scopes := [], aliases := [], aggregates := false,
            named := (n, .refused ⟨"circular reference: " ++ n, 1⟩) :: env'.named } :=
        ⟨under.blind, rfl, rfl, rfl, .cons ⟨rfl, .same _⟩ under.named⟩
      refine .bind_of (bindTables_follows inner tables) fun base base' based => ?_
      have plain : { base with aliases := [] }.Under { base' with aliases := [] } :=
        ⟨based.blind, based.scopes, rfl, based.aggregates, based.named⟩
      refine .bind (bindOption_follows plain limit) fun count =>
        .bind (bindOption_follows plain offset) fun offset =>
        .bind_of (bindCore_follows based head) fun ⟨a, names⟩ ⟨a', _⟩ ⟨first, same⟩ => ?_
      cases same
      obtain ⟨inner, rfl⟩ : ∃ inner, a' = { a with env := inner } := ⟨_, first.same⟩
      have named : { a.env with aliases := namedResults a.results names }.Under
          { inner with aliases := namedResults a.results names } :=
        ⟨first.env.blind, first.env.scopes, rfl, first.env.aggregates, first.env.named⟩
      dsimp only at first ⊢
      rw [first.outputs]
      refine .bind ?_ fun outputs => ?_
      · split
        · exact .pure rfl
        · split
          · exact .refuse_bind _ _ _
          · exact .pure rfl
      · refine .bind_of (bindSteps_follows n based ?_ tail)
          fun ⟨seeds, steps⟩ ⟨seeds', steps'⟩ ⟨seeded, stepped⟩ => ?_
        · split
          · exact ⟨based.blind, rfl, based.aliases, based.aggregates,
              .cons ⟨rfl, .same _⟩ based.named⟩
          · exact based
        · dsimp only at seeded stepped ⊢
          rw [(seeded.append stepped).widths, seeded.isEmpty, stepped.isEmpty, seeded.queries]
          refine .bind (checkWidths_follows _ _ _) fun _ => ?_
          cases stepped with
          | nil =>
              split
              · exact .bind (bindOrder_follows named _ _ _ _ order) fun _ => .pure (.same _)
              · exact .bind (bindOrder_follows based _ _ _ _ order) fun _ => .pure (.same _)
          | @cons s s' _ _ first rest =>
              obtain ⟨j, step, _⟩ := s
              obtain ⟨_, step', _⟩ := s'
              obtain ⟨rfl, stepUnder, rfl⟩ := first
              simp only [List.isEmpty_cons, Bool.false_and, Bool.false_eq_true, if_false]
              rw [stepUnder.query, Alike.selects rest]
              exact .bind (bindOrder_follows based _ _ _ _ order) fun _ => .pure (.same _)

/-- The selects of a recursion follow: those that read its table, and those that do not. -/
theorem bindSteps_follows {env env' inner inner' : Env} (n : String) (under : env.Under env')
    (within : inner.Under inner') : ∀ tail : List (Junction × Core),
      Follows (fun a a' => Alike a.1 a'.1 ∧ Alike a.2 a'.2) (bindSteps n env inner tail)
        (bindSteps n env' inner' tail)
  | [] => by
      unfold bindSteps
      exact .pure ⟨.nil, .nil⟩
  | (j, c) :: r => by
      unfold bindSteps
      refine .bind_of (bindSteps_follows n under within r)
        fun ⟨_, _⟩ ⟨_, _⟩ ⟨seeds, steps⟩ => ?_
      dsimp only
      split
      · exact .bind_of (bindCore_follows within c) fun _ _ arm =>
          .pure ⟨seeds, .cons ⟨rfl, arm⟩ steps⟩
      · exact .bind_of (bindCore_follows under c) fun _ _ arm =>
          .pure ⟨.cons ⟨rfl, arm⟩ seeds, steps⟩

end

/-- A change begins by looking for its table. -/
theorem bindChange_follows {env env' : Env} (under : env.Under env') (levels levels' : Nat)
    (override : Option Conflict) (active : List String) (change : Change) :
    Follows Eq (bindChange levels env override active change)
      (bindChange levels' env' override active change) := by
  cases levels with
  | zero => exact .refuse _ _
  | succ levels => cases change <;> exact table_follows under.blind _ _ _

end Binding

namespace Program

open Binding

/-- Binding a statement without knowing the tables makes the program that it makes knowing them. -/
theorem bind_follows (fault : Fault) (schema : Outcome Contents) (s : Statement) :
    Follows (fun p p' => p'.program = p.program) (bind (.error fault) s) (bind schema s) := by
  have under : ∀ c u, ({ contents := {}, unreadable := some fault } : Env).Under
      { contents := c, unreadable := u } := fun _ _ => ⟨rfl, rfl, rfl, rfl, .nil⟩
  unfold bind
  dsimp only
  cases s with
  | select q =>
      exact .bind (bindSelect_follows (under _ _) q) fun _ =>
        .bind_of .get fun _ _ _ => .pure rfl
  | change change =>
      exact .bind (bindChange_follows (under _ _) _ _ _ _ change) fun _ => .pure rfl
  | addColumn n f => exact table_follows rfl _ _ _
  | createTable missing n columns rules => exact needTables_follows rfl _ _
  | dropTable present n => exact needTables_follows rfl _ _
  | createTrigger missing form => exact needTables_follows rfl _ _
  | dropTrigger present n => exact needTables_follows rfl _ _
  | control k => exact .pure rfl
  | readVersion => exact .pure rfl
  | writeVersion v => exact .pure rfl
  | nothing => exact .pure rfl

/-- A statement whose heading is not checked is prepared by binding it alone. -/
theorem prepare_of_other {ts : List Token} (other : Grammar.headingOf ts = .other)
    (schema : Outcome Contents) :
    prepare schema ts = (do
      let s ← Grammar.statementOf ts
      let (p, _) ← (bind schema s).run {}
      return p) := by
  unfold prepare
  rw [other]

theorem headingOf_of_blind {fault : Fault} {ts : List Token} {p : Prepared}
    (made : prepare (.error fault) ts = .ok p) : Grammar.headingOf ts = .other := by
  unfold prepare at made
  cases heading : Grammar.headingOf ts with
  | other => rfl
  | table missing n written =>
      rw [heading] at made
      cases made
  | trigger missing n written t =>
      rw [heading] at made
      cases made

/-- A text that is made ready without knowing the tables has looked for none: knowing them, it
becomes the same program. -/
theorem prepare_of_blind {fault : Fault} {ts : List Token} {p : Prepared}
    (made : prepare (.error fault) ts = .ok p) (schema : Outcome Contents) :
    ∃ p', prepare schema ts = .ok p' ∧ p'.program = p.program := by
  obtain ⟨s, notes, parsed, bound⟩ := bound_of_prepare made
  obtain ⟨p', notes', bound', same, _⟩ := bind_follows fault schema s {} {} ⟨rfl, rfl⟩ _ _ bound
  refine ⟨p', ?_, same⟩
  rw [prepare_of_other (headingOf_of_blind made), parsed]
  change (StateT.run (bind schema s) {} >>= fun made => pure made.1) = _
  rw [bound']
  rfl

end Program

end SqlDriver.Engine
