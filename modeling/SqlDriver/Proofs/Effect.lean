/-
# SqlDriver.Proofs.Effect -- what an effect answers and what it leaves behind

The operations of the driver and the actions of the engine are effects of one shape: they
answer or fail, and what they did to the state stays done either way.  `exec` runs one;
an equation for each way of composing effects opens it (`exec_bind`, `exec_tryCatch`).
`Leads r a s` says that the effect `a` leaves behind a state that the relation `r` allows
after `s`.  It is closed under composition wherever `r` is reflexive and transitive, so
what the smallest effects do is proved once and composes (`Leads.bind`, `Leads.tryCatch`).
`Ensures post a s` is about the answer as well, and about success alone.
-/
import SqlDriver.Driver.Cursor
import Mathlib.Order.Defs.Unbundled

namespace SqlDriver

set_option autoImplicit false

variable {ε σ α β : Type}

/-- The answer of an effect in a state, and the state that it leaves. -/
def exec (a : ExceptT ε (StateM σ) α) (s : σ) : Except ε α × σ :=
  StateT.run (ExceptT.run a) s

/-! ## Composing effects -/

@[simp] theorem exec_pure (x : α) (s : σ) :
    exec (pure x : ExceptT ε (StateM σ) α) s = (.ok x, s) := rfl

@[simp] theorem exec_throw (e : ε) (s : σ) :
    exec (throw e : ExceptT ε (StateM σ) α) s = (.error e, s) := rfl

@[simp] theorem exec_get (s : σ) : exec (get : ExceptT ε (StateM σ) σ) s = (.ok s, s) := rfl

@[simp] theorem exec_set (s t : σ) :
    exec (set t : ExceptT ε (StateM σ) PUnit) s = (.ok ⟨⟩, t) := rfl

@[simp] theorem exec_modify (f : σ → σ) (s : σ) :
    exec (modify f : ExceptT ε (StateM σ) PUnit) s = (.ok ⟨⟩, f s) := rfl

/-- What comes of one operation behind another. -/
theorem exec_bind (a : ExceptT ε (StateM σ) α) (f : α → ExceptT ε (StateM σ) β) (s : σ) :
    exec (a >>= f) s =
      match exec a s with
      | (.ok x, t) => exec (f x) t
      | (.error e, t) => (.error e, t) := by
  simp only [exec, ExceptT.run_bind, StateT.run_bind]
  rcases StateT.run (ExceptT.run a) s with ⟨_ | x, t⟩ <;> rfl

/-- What comes of an operation whose error is caught. -/
theorem exec_tryCatch (a : ExceptT ε (StateM σ) α) (f : ε → ExceptT ε (StateM σ) α) (s : σ) :
    exec (tryCatch a f) s =
      match exec a s with
      | (.ok x, t) => (.ok x, t)
      | (.error e, t) => exec (f e) t := by
  simp only [exec, tryCatch, tryCatchThe, MonadExceptOf.tryCatch, ExceptT.tryCatch, ExceptT.run,
    ExceptT.mk, StateT.run, bind, StateT.bind]
  rcases a s with ⟨_ | x, t⟩ <;> rfl

theorem exec_discard (a : ExceptT ε (StateM σ) α) (s : σ) :
    exec (discard a) s = ((exec a s).1.map fun _ => ⟨⟩, (exec a s).2) := by
  change exec (a >>= fun _ => pure ()) s = _
  rw [exec_bind]
  rcases exec a s with ⟨e | x, t⟩ <;> rfl

/-- The answer of an effect can be computed where the states cannot be compared. -/
theorem exec_eq_of_toOption {a : ExceptT ε (StateM σ) α} {s : σ} {x : α}
    (answer : (exec a s).1.toOption = some x) : exec a s = (.ok x, (exec a s).2) := by
  rcases run : exec a s with ⟨_ | y, t⟩ <;> rw [run] at answer <;> cases answer
  rfl

/-! ## What is left behind -/

/-- After `a` in `s` comes a state that `r` allows. -/
def Leads (r : σ → σ → Prop) (a : ExceptT ε (StateM σ) α) (s : σ) : Prop :=
  r s (exec a s).2

namespace Leads

variable {r : σ → σ → Prop} {a : ExceptT ε (StateM σ) α} {s : σ}

theorem pure [Std.Refl r] (x : α) : Leads r (pure x : ExceptT ε (StateM σ) α) s :=
  Std.Refl.refl s

theorem throw [Std.Refl r] (e : ε) : Leads r (throw e : ExceptT ε (StateM σ) α) s :=
  Std.Refl.refl s

/-- Effects whose parts are bound by different relations. -/
theorem bind_trans {p q : σ → σ → Prop} [Std.Refl q] [Trans p q r]
    {f : α → ExceptT ε (StateM σ) β} (first : Leads p a s)
    (rest : ∀ x t, exec a s = (.ok x, t) → Leads q (f x) t) : Leads r (a >>= f) s := by
  unfold Leads at first ⊢
  rw [exec_bind]
  rcases answer : exec a s with ⟨_ | x, t⟩ <;> rw [answer] at first
  · exact Trans.trans first (Std.Refl.refl (r := q) t)
  · exact Trans.trans first (rest x t answer)

theorem bind [Std.Refl r] [IsTrans σ r] {f : α → ExceptT ε (StateM σ) β} (first : Leads r a s)
    (rest : ∀ x t, exec a s = (.ok x, t) → Leads r (f x) t) : Leads r (a >>= f) s :=
  bind_trans first rest

/-- An answer in the place of another changes nothing. -/
theorem bind_pure (leads : Leads r a s) (y : β) :
    Leads r (a >>= fun _ => (Pure.pure y : ExceptT ε (StateM σ) β)) s := by
  unfold Leads at leads ⊢
  rw [exec_bind]
  rcases answer : exec a s with ⟨e | x, t⟩ <;> rw [answer] at leads <;> exact leads

theorem throw_bind [Std.Refl r] (e : ε) (f : α → ExceptT ε (StateM σ) β) :
    Leads r (MonadExcept.throw e >>= f) s :=
  Std.Refl.refl s

/-- An effect that begins by looking at the state. -/
theorem get_bind {f : σ → ExceptT ε (StateM σ) β} (rest : Leads r (f s) s) :
    Leads r (get >>= f) s := by
  rw [Leads, exec_bind]
  exact rest

/-- Where an error is caught, the state goes the first way and then the second. -/
theorem tryCatch_trans {p q : σ → σ → Prop} [Std.Refl q] [Trans p q r]
    {f : ε → ExceptT ε (StateM σ) α} (first : Leads p a s)
    (rest : ∀ e t, exec a s = (.error e, t) → Leads q (f e) t) : Leads r (tryCatch a f) s := by
  unfold Leads at first ⊢
  rw [exec_tryCatch]
  rcases answer : exec a s with ⟨e | x, t⟩ <;> rw [answer] at first
  · exact Trans.trans first (rest e t answer)
  · exact Trans.trans first (Std.Refl.refl (r := q) t)

theorem tryCatch [Std.Refl r] [IsTrans σ r] {f : ε → ExceptT ε (StateM σ) α}
    (first : Leads r a s) (rest : ∀ e t, exec a s = (.error e, t) → Leads r (f e) t) :
    Leads r (tryCatch a f) s :=
  tryCatch_trans first rest

theorem congr {b : ExceptT ε (StateM σ) α} (same : exec a s = exec b s) (leads : Leads r b s) :
    Leads r a s := by
  rwa [Leads, same]

theorem mono {q : σ → σ → Prop} (allows : ∀ s t, r s t → q s t) (leads : Leads r a s) :
    Leads q a s :=
  allows _ _ leads

end Leads

/-! ## What is answered -/

/-- Where an effect succeeds, `post` holds of its answer and of the state that it leaves. -/
def Ensures (post : α → σ → Prop) (a : ExceptT ε (StateM σ) α) (s : σ) : Prop :=
  ∀ x t, exec a s = (.ok x, t) → post x t

namespace Ensures

variable {post : β → σ → Prop} {s : σ}

theorem pure {x : β} (holds : post x s) : Ensures post (pure x : ExceptT ε (StateM σ) β) s := by
  rintro _ _ ⟨⟩
  exact holds

theorem throw (e : ε) : Ensures post (throw e : ExceptT ε (StateM σ) β) s := by
  rintro _ _ ⟨⟩

theorem congr {a b : ExceptT ε (StateM σ) β} (same : exec a s = exec b s)
    (ensures : Ensures post b s) : Ensures post a s := by
  rwa [Ensures, same]

theorem bind {a : ExceptT ε (StateM σ) α} {f : α → ExceptT ε (StateM σ) β}
    (rest : ∀ x t, exec a s = (.ok x, t) → Ensures post (f x) t) : Ensures post (a >>= f) s := by
  intro y v answer
  rw [exec_bind] at answer
  rcases first : exec a s with ⟨e | x, t⟩ <;> rw [first] at answer
  · cases answer
  · exact rest x t first y v answer

end Ensures

end SqlDriver
