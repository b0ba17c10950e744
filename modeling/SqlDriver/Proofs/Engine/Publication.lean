/-
# SqlDriver.Proofs.Engine.Publication -- what a commit publishes

A session that is opened changes no file, though it may make an empty one (`connect_rises`).  A
transaction that is begun stands on what was committed last (`begin_stands`).  A commit that
succeeds makes what the transaction has made of its database the one that is committed, and
leaves every other file alone; one that is refused, as it is where another session reads the file,
leaves all files alone (`controls_publish`).
-/
import SqlDriver.Proofs.Engine.Standing

namespace SqlDriver

set_option autoImplicit false

namespace Disk

/-- A list of files in which those at a path are replaced. -/
theorem lookup_replace (files : List (String × File)) (path other : String) (f : File) :
    (files.map fun (p, g) => if p = path then (p, f) else (p, g)).lookup other =
      (files.lookup other).map fun g => if other = path then f else g := by
  induction files with
  | nil => rfl
  | cons entry rest ih =>
      obtain ⟨p, g⟩ := entry
      have key : (if p = path then (p, f) else (p, g)) = (p, if p = path then f else g) := by
        split <;> rfl
      rw [List.map_cons]
      dsimp only
      rw [key, List.lookup_cons, List.lookup_cons, ih]
      by_cases same : other = p
      · simp [same]
      · rw [beq_eq_false_iff_ne.2 same]

/-- A file that was stored is there, and the others are what they were. -/
theorem file?_put (d : Disk) (path other : String) (f : File) :
    (d.put path f).file? other = if other = path then some f else d.file? other := by
  unfold put
  by_cases there : (d.file? path).isSome
  · rw [if_pos there, file?, lookup_replace, ← file?]
    by_cases here : other = path
    · obtain ⟨g, found⟩ := Option.isSome_iff_exists.1 there
      simp [here, found]
    · simp [here]
  · have missing : d.files.lookup path = none := Option.not_isSome_iff_eq_none.1 there
    rw [if_neg there, file?, List.lookup_append, file?]
    by_cases here : other = path
    · simp [here, missing]
    · have differs : (other == path) = false := by simpa using here
      simp [here, List.lookup_cons, differs]

/-- The database of a place: a file, or none, where the database has no tables yet. -/
def databaseAt (d : Disk) (place : Option String) : Engine.Outcome Engine.Contents :=
  place.elim (.ok {}) d.database

/-- The files are what they were, but for an empty one where there was none. -/
def Stays (before after : Disk) : Prop :=
  ∀ path, after.file? path = before.file? path ∨
    before.file? path = none ∧ after.file? path = some (.octets [])

theorem Stays.refl (d : Disk) : d.Stays d :=
  fun _ => .inl rfl

/-- An empty file holds what no file holds. -/
theorem Stays.database {before after : Disk} (stays : before.Stays after) (path : String) :
    after.database path = before.database path := by
  unfold Disk.database
  rcases stays path with same | ⟨none_, empty⟩
  · rw [same]
  · rw [empty, none_]

/-- The database of a place has become `o`, and the other files are what they were. -/
structure Becomes (before after : Disk) (place : Option String)
    (o : Engine.Outcome Engine.Contents) : Prop where
  database : ∀ path, place = some path → after.database path = o
  elsewhere : ∀ path, place ≠ some path → after.file? path = before.file? path

end Disk

namespace Engine

open SqlDriver.Engine.Action

/-- The place of the database of a source: a file, or none; there may be no such place. -/
def Location.place? (d : Disk) (mode : OpenMode) (source : String) : Option (Option String) :=
  match Location.ofSource mode source with
  | .error _ => none
  | .ok l => if l.isPrivate then some none else (d.locate? l.path).map some

/-- Where a session stands that is opened when the files are those of a disk. -/
structure Footing.Opens (b : Footing) (d : Disk) (mode : OpenMode) (source : String) : Prop where
  place : Location.place? d mode source = some b.file
  own : b.own = {}
  files : ∀ path, b.disk.file? path = d.file? path ∨
    b.file = some path ∧ d.file? path = none ∧ b.disk.file? path = some (.octets [])

namespace Footing.Opens

variable {b : Footing} {d : Disk} {mode : OpenMode} {source : String}

theorem stays (opens : b.Opens d mode source) : d.Stays b.disk :=
  fun path => (opens.files path).imp_right And.right

theorem committed (opens : b.Opens d mode source) : b.committed = d.databaseAt b.file := by
  unfold Footing.committed Disk.databaseAt
  cases b.file with
  | none => rw [opens.own]; rfl
  | some path => exact opens.stays.database path

end Footing.Opens

/-- A session that is opened, or no file has changed. -/
theorem connect_opens (mode : OpenMode) (source : String) (w : World) :
    match exec (connect mode source) w with
    | (.ok id, v) => ∃ b : Footing, b.Opens w.disk mode source ∧ v.disk = b.disk ∧
        ∃ readOnly,
          v.sessions = (w.sessions.insert { file := b.file, readOnly }).2 ∧ id = w.sessions.next
    | (.error _, v) => v.disk = w.disk := by
  unfold connect
  rw [exec_bind, exec_ofOutcome]
  cases located : Location.ofSource mode source with
  | error fault => rfl
  | ok l =>
      dsimp only
      rw [exec_bind, exec_get]
      dsimp only
      by_cases own : l.isPrivate
      · rw [if_pos own]
        refine ⟨{ disk := w.disk, file := none }, ⟨?_, rfl, fun path => .inl rfl⟩, rfl, _, rfl, rfl⟩
        rw [Location.place?, located]
        exact if_pos own
      · rw [if_neg own]
        cases found : w.disk.locate? l.path with
        | none => rfl
        | some path =>
            have place : Location.place? w.disk mode source = some (some path) := by
              rw [Location.place?, located]
              exact (if_neg own).trans (congrArg (Option.map some) found)
            dsimp only
            by_cases missing : (w.disk.file? path).isNone
            · rw [if_pos missing]
              by_cases refused : l.mode ≠ .create
              · rw [if_pos refused]
                rfl
              · rw [if_neg refused]
                refine ⟨{ disk := w.disk.put path (.octets []), file := some path },
                  ⟨place, rfl, fun other => ?_⟩, rfl, _, rfl, rfl⟩
                by_cases here : other = path
                · subst here
                  exact .inr ⟨rfl, Option.isNone_iff_eq_none.1 missing,
                    (Disk.file?_put ..).trans (if_pos rfl)⟩
                · exact .inl ((Disk.file?_put ..).trans (if_neg here))
            · rw [if_neg missing]
              exact ⟨{ disk := w.disk, file := some path }, ⟨place, rfl, fun path => .inl rfl⟩, rfl,
                _, rfl, rfl⟩

/-- What was committed becomes `o`; the other files stay what they are. -/
structure Footing.Publishes (b : Footing) (o : Outcome Contents) (b' : Footing) : Prop where
  file : b'.file = b.file
  committed : b'.committed = o
  elsewhere : ∀ path, b.file ≠ some path → b'.disk.file? path = b.disk.file? path

section Commit

variable {id : Nat} {w : World} {b : Footing} {g : Ground}

/-- A session outside of a transaction would stand on what was committed last. -/
structure World.Rises (w : World) (id : Nat) (b : Footing) (g : Ground) : Prop where
  ended : w.inTransaction id = false
  stands : (w.change id fun s => { s with autocommit := false }).Stands id b g

theorem World.Rises.setTimeout (rises : w.Rises id b g) (wait : Option Nat) :
    (exec (Action.setTimeout id wait) w).2.Rises id b g := by
  let f : Session → Session := fun s => { s with timeout := wait.getD s.timeout }
  have waits := rises.stands.change (f := f) fun s here => here.congr rfl
  refine ⟨(w.inTransaction_change id (f := f) fun _ => rfl).trans rises.ended, ?_⟩
  change ((w.change id f).change id fun s => { s with autocommit := false }).Stands id b g
  rw [World.change_change] at waits ⊢
  exact waits

/-- A session stands on other files, or somewhere else on the same. -/
theorem World.Stands.goes {v : World} {g' : Ground} (stands : w.Stands id b g) (b' : Footing)
    (sessions : v.sessions = w.sessions) (disk : v.disk = b'.disk) {f : Session → Session}
    (goes : ∀ s, s.Stands b g → (f s).Stands b' g') : (v.change id f).Stands id b' g' := by
  obtain ⟨s, found, here⟩ := stands.session
  have found : v.session? id = some s := by rwa [World.session?, sessions]
  exact ⟨⟨f s, World.session?_change_of_found found, goes s here⟩, disk⟩

/-- A session that is opened would stand on what was committed, in a transaction that has changed
nothing. -/
theorem connect_rises (mode : OpenMode) (source : String) (w : World) :
    match exec (connect mode source) w with
    | (.ok id, v) => ∃ b : Footing, b.Opens w.disk mode source ∧ v.disk = b.disk ∧
        v.Rises id b (.start b.committed)
    | (.error _, v) => v.disk = w.disk := by
  have spec := connect_opens mode source w
  rcases answer : exec (connect mode source) w with ⟨fault | id, v⟩ <;> rw [answer] at spec
  · exact spec
  · obtain ⟨b, opens, disk, readOnly, sessions, rfl⟩ := spec
    have found : v.session? w.sessions.next = some { file := b.file, readOnly } := by
      rw [World.session?, sessions, Pool.get?_insert, if_pos rfl]
    exact ⟨b, opens, disk, by rw [World.inTransaction, found]; rfl, ⟨_,
      World.session?_change_of_found found, rfl, rfl, opens.own.symm, rfl, rfl, rfl⟩, disk⟩

theorem begin_stands (rises : w.Rises id b g) :
    ∃ v, exec (controls id [.begin .deferred]) w = (.ok (), v) ∧ v.Stands id b g := by
  refine ⟨_, ?_, rises.stands⟩
  rw [exec_controls_cons, exec_begin_of_not_inTransaction rises.ended]
  rfl

/-- A session whose changes were published stands on them. -/
theorem Session.Stands.publish {s t : Session} {b' : Footing} (stands : s.Stands b g)
    (publishes : b.Publishes g.contents b') (same : (t.autocommit, t.file, t.lastNumber) =
      (s.autocommit, s.file, s.lastNumber)) (own : t.own = b'.own) (working : t.working = none)
    (dirty : t.dirty = false) : t.Stands b' g := by
  simp only [Prod.mk.injEq] at same
  obtain ⟨begun, file, lastNumber⟩ := same
  refine ⟨begun.trans stands.begun, (file.trans stands.file).trans publishes.file.symm, own, ?_, ?_,
    lastNumber.trans stands.lastNumber⟩
  · rw [dirty, working]
    rfl
  · rw [working]
    exact publishes.committed

/-- A session whose transaction may have written commits what it has made, unless another session
reads its file. -/
theorem commit_stands (stands : w.Stands id b g) :
    match exec (commit id) w with
    | (.ok _, v) => ∃ b', b.Publishes g.contents b' ∧ v.Stands id b' g
    | (.error _, v) => v.disk = b.disk := by
  have here := stands.at_
  have contents := here.contents
  have commits := exec_commit id w
  generalize exec (commit id) w = after at commits ⊢
  obtain ⟨answer, v⟩ := after
  cases commits with
  | refused => exact stands.disk
  | unchanged clean =>
      -- What has not been changed is published as it was.
      have none_ : (w.sessionAt id).working = none :=
        clean.elim (fun none_ => none_) fun clean => by simpa [here.dirty] using clean
      have publishes : b.Publishes g.contents b :=
        ⟨rfl, by rw [← contents, none_]; rfl, fun _ _ => rfl⟩
      exact ⟨b, publishes, stands.goes b rfl stands.disk fun s here =>
        here.publish publishes rfl here.own rfl rfl⟩
  | @kept c file working =>
      rw [working] at contents
      have none_ : b.file = none := here.file.symm.trans file
      have publishes : b.Publishes g.contents { b with own := c } :=
        ⟨rfl, by rw [← contents, Footing.committed, none_]; rfl, fun _ _ => rfl⟩
      exact ⟨{ b with own := c }, publishes, stands.goes { b with own := c } rfl stands.disk
        fun s here => here.publish publishes rfl rfl rfl rfl⟩
  | @stored path c file working =>
      rw [working] at contents
      have some_ : b.file = some path := here.file.symm.trans file
      have publishes : b.Publishes g.contents
          { b with disk := b.disk.put path (.database c) } := by
        refine ⟨rfl, ?_, fun other there => ?_⟩
        · rw [← contents, Footing.committed, some_]
          simp [Disk.database, Disk.file?_put, Footing.contents]
        · refine (Disk.file?_put ..).trans (if_neg fun same => there ?_)
          rw [some_, same]
      refine ⟨_, publishes, ?_⟩
      exact stands.goes (v := { w with disk := w.disk.put path (.database c) })
        { b with disk := b.disk.put path (.database c) } rfl
        (congrArg (Disk.put · path (.database c)) stands.disk) fun s here =>
          here.publish publishes rfl here.own rfl rfl

theorem endTransaction_rises (stands : w.Stands id b g) :
    match exec (endTransaction id) w with
    | (.ok _, v) => ∃ b', b.Publishes g.contents b' ∧ v.Rises id b' g
    | (.error _, v) => v.disk = b.disk := by
  have commits := commit_stands stands
  have ended := endTransaction_cases id w
  unfold endTransaction at ended ⊢
  rw [exec_bind] at ended ⊢
  rcases committed : exec (commit id) w with ⟨fault | _, u⟩ <;> rw [committed] at commits ended
  · exact commits
  · obtain ⟨b', publishes, after⟩ := commits
    refine ⟨b', publishes, ended, ?_⟩
    change (((u.change id fun s => { s with autocommit := true }).change id
      Session.settle).change id fun s => { s with autocommit := false }).Stands id b' g
    rw [World.change_change, World.change_change]
    refine after.change fun s here => ?_
    rw [Function.comp_apply, Function.comp_apply, Session.settle_eq_with_lock]
    exact here.congr (by rw [← here.begun])

/-- A commit that succeeds publishes what the transaction has made, and the next transaction
stands on that. -/
theorem controls_publish (stands : w.Stands id b g) :
    match exec (controls id [.commit, .begin .deferred]) w with
    | (.ok _, v) => ∃ b', b.Publishes g.contents b' ∧ v.Stands id b' g
    | (.error _, v) => v.disk = b.disk := by
  have ends := endTransaction_rises stands
  rw [exec_controls_cons]
  unfold Action.control
  rw [exec_bind, exec_session]
  simp only [stands.at_.begun, Bool.false_eq_true, if_false]
  by_cases writing : (w.sessionAt id).anyWrites
  · rw [if_pos writing]
    exact stands.disk
  · rw [if_neg writing]
    rcases answer : exec (endTransaction id) w with ⟨fault | _, v⟩ <;> rw [answer] at ends
    · exact ends
    · obtain ⟨b', publishes, rises⟩ := ends
      obtain ⟨u, begun, after⟩ := begin_stands rises
      dsimp only
      rw [begun]
      exact ⟨b', publishes, after⟩

end Commit

end Engine

end SqlDriver
