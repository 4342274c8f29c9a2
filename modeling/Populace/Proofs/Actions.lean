import Populace.Failure

/-!
# Actions that may fail

An action takes a state to a value or a failure, and to another state either way. Here is
how two actions in a row end, what a change of states does to a result, `Meets`: what
holds behind a success and what behind a failure, and `Keeps`: a relation between the
states before and behind an action that holds however it ends.
-/

namespace Populace

variable {ε σ τ α β : Type}

/-! ## Running the basic actions -/

@[simp] theorem run_pure (a : α) (s : σ) : (pure a : EStateM ε σ α) s = .ok a s := rfl

@[simp] theorem run_get (s : σ) : (get : EStateM ε σ σ) s = .ok s s := rfl

@[simp] theorem run_set (s t : σ) : (set t : EStateM ε σ PUnit) s = .ok () t := rfl

@[simp] theorem run_modify (f : σ → σ) (s : σ) :
    (modify f : EStateM ε σ PUnit) s = .ok () (f s) := rfl

@[simp] theorem run_throw (e : ε) (s : σ) : (throw e : EStateM ε σ α) s = .error e s := rfl

theorem run_bind (x : EStateM ε σ α) (f : α → EStateM ε σ β) (s : σ) :
    (x >>= f) s = match x s with
      | .ok a t => f a t
      | .error e t => .error e t := by
  cases h : x s <;> simp only [bind, EStateM.bind, h]

/-! ## Two in a row -/

theorem bind_of_ok {x : EStateM ε σ α} {f : α → EStateM ε σ β} {s t : σ} {a : α}
    (h : x s = .ok a t) : (x >>= f) s = f a t := by
  simp only [bind, EStateM.bind, h]

theorem bind_of_error {x : EStateM ε σ α} {f : α → EStateM ε σ β} {s t : σ} {e : ε}
    (h : x s = .error e t) : (x >>= f) s = .error e t := by
  simp only [bind, EStateM.bind, h]

/-- Two actions in a row succeed if and only if both do, one behind the other. -/
theorem bind_eq_ok_iff {x : EStateM ε σ α} {f : α → EStateM ε σ β} {s t : σ} {b : β} :
    (x >>= f) s = .ok b t ↔ ∃ a u, x s = .ok a u ∧ f a u = .ok b t := by
  cases h : x s with
  | ok a u =>
      rw [bind_of_ok h]
      constructor
      · exact fun hf => ⟨a, u, rfl, hf⟩
      · rintro ⟨a', u', hx, hf⟩
        cases hx
        exact hf
  | error e u => simp [bind_of_error h]

/-! ## Results -/

/-- The state that a result leaves. -/
def stateBehind : EStateM.Result ε σ α → σ
  | .ok _ s => s
  | .error _ s => s

@[simp] theorem stateBehind_ok (a : α) (s : σ) :
    stateBehind (.ok a s : EStateM.Result ε σ α) = s := rfl

@[simp] theorem stateBehind_error (e : ε) (s : σ) :
    stateBehind (.error e s : EStateM.Result ε σ α) = s := rfl

/-- The result with its state seen through `f`. -/
def mapState (f : σ → τ) : EStateM.Result ε σ α → EStateM.Result ε τ α
  | .ok a s => .ok a (f s)
  | .error e s => .error e (f s)

/-- The value that a result holds, if it is one of success. -/
def value? : EStateM.Result ε σ α → Option α
  | .ok a _ => some a
  | .error _ _ => none

theorem eq_ok_of_value {r : EStateM.Result ε σ α} {a : α} (h : value? r = some a) :
    ∃ s, r = .ok a s := by
  cases r with
  | ok b s =>
      cases h
      exact ⟨s, rfl⟩
  | error e s => cases h

/-! ## Refusals and contexts -/

@[simp] theorem orRefuse_ok (a : α) (s : σ) :
    orRefuse (.ok a) s = .ok a s := rfl

@[simp] theorem orRefuse_error (c : Cause) (s : σ) :
    (orRefuse (.error c) : EStateM Failure σ α) s = .error (.of c) s := rfl

@[simp] theorem orFail_ok (a : α) (s : σ) :
    orFail (.ok a) s = .ok a s := rfl

@[simp] theorem orFail_error (e : Failure) (s : σ) :
    (orFail (.error e) : EStateM Failure σ α) s = .error e s := rfl

theorem inContext_of_ok {c : Context} {x : EStateM Failure σ α} {s t : σ} {a : α}
    (h : x s = .ok a t) : inContext c x s = .ok a t := by
  simp only [inContext, h]

theorem inContext_of_error {c : Context} {x : EStateM Failure σ α} {s t : σ} {e : Failure}
    (h : x s = .error e t) : inContext c x s = .error (e.within c) t := by
  simp only [inContext, h]

/-! ## Journals -/

theorem journaled_eq_ok_iff {action : Journaling α} {j k : Journal} {a : α} :
    journaled action j = .ok a k ↔ action j = .ok a k := by
  cases h : action j <;> simp [journaled, h]

/-! ## What holds of how an action ends -/

/-- A value comes with a state as `Q` says, and a failure with one as `E` says. -/
def Meets (Q : α → σ → Prop) (E : ε → σ → Prop) : EStateM.Result ε σ α → Prop
  | .ok a s => Q a s
  | .error e s => E e s

namespace Meets

variable {Q : α → σ → Prop} {R : β → σ → Prop} {E F : ε → σ → Prop} {s : σ}

theorem imp {Q' : α → σ → Prop} {r : EStateM.Result ε σ α} (h : Meets Q E r)
    (hQ : ∀ a t, Q a t → Q' a t) (hE : ∀ e t, E e t → F e t) : Meets Q' F r := by
  cases r with
  | ok a t => exact hQ a t h
  | error e t => exact hE e t h

theorem bind {x : EStateM ε σ α} {f : α → EStateM ε σ β} (hx : Meets Q E (x s))
    (hf : ∀ a t, Q a t → Meets R E (f a t)) : Meets R E ((x >>= f) s) := by
  cases h : x s with
  | ok a t =>
      rw [h] at hx
      rw [bind_of_ok h]
      exact hf a t hx
  | error e t =>
      rw [h] at hx
      rw [bind_of_error h]
      exact hx

theorem inContext {E : Failure → σ → Prop} {c : Context} {x : EStateM Failure σ α}
    (hx : Meets Q E (x s)) (hE : ∀ e t, E e t → E (e.within c) t) :
    Meets Q E (inContext c x s) := by
  cases h : x s with
  | ok a t => rw [inContext_of_ok h]; rwa [h] at hx
  | error e t =>
      rw [h] at hx
      rw [inContext_of_error h]
      exact hE e t hx

/-- Whatever is refused is refused where the action stands. -/
theorem orRefuse {E : Failure → σ → Prop} (hE : ∀ c t, E (.of c) t) (result : Except Cause α)
    (s : σ) : Meets (fun _ t => t = s) E (orRefuse result s) := by
  cases result with
  | ok a => rfl
  | error c => exact hE c s

end Meets

/-! ## What holds however an action ends -/

/-- However the action ends, the state it leaves stands in the relation to the state it
began with. -/
def Keeps (R : σ → σ → Prop) (x : EStateM ε σ α) : Prop :=
  ∀ s, R s (stateBehind (x s))

namespace Keeps

variable {R : σ → σ → Prop}

theorem done (refl : ∀ s, R s s) (a : α) : Keeps R (pure a : EStateM ε σ α) :=
  fun s => refl s

theorem bind {x : EStateM ε σ α} {f : α → EStateM ε σ β} (hx : Keeps R x)
    (trans : ∀ {a b c}, R a b → R b c → R a c) (hf : ∀ a, Keeps R (f a)) :
    Keeps R (x >>= f) := by
  intro s
  have h₁ := hx s
  cases h : x s with
  | ok a t =>
      rw [h] at h₁
      rw [bind_of_ok h]
      exact trans h₁ (hf a t)
  | error e t =>
      rw [h] at h₁
      rw [bind_of_error h]
      exact h₁

theorem inContext {c : Context} {x : EStateM Failure σ α} (hx : Keeps R x) :
    Keeps R (inContext c x) := by
  intro s
  have h₁ := hx s
  cases h : x s with
  | ok a t => rw [inContext_of_ok h]; rwa [h] at h₁
  | error e t => rw [inContext_of_error h]; rwa [h] at h₁

end Keeps

/-! ## Two runs of one action -/

/-- The two results have the same value or the same failure, and states in a relation. -/
inductive Alike (R : σ → σ → Prop) : EStateM.Result ε σ α → EStateM.Result ε σ α → Prop where
  | ok {a s s'} : R s s' → Alike R (.ok a s) (.ok a s')
  | error {e s s'} : R s s' → Alike R (.error e s) (.error e s')

theorem Alike.cases {R : σ → σ → Prop} {r r' : EStateM.Result ε σ α} (h : Alike R r r') :
    (∃ a s s', r = .ok a s ∧ r' = .ok a s' ∧ R s s')
      ∨ ∃ e s s', r = .error e s ∧ r' = .error e s' ∧ R s s' := by
  cases h with
  | ok hr => exact .inl ⟨_, _, _, rfl, rfl, hr⟩
  | error hr => exact .inr ⟨_, _, _, rfl, rfl, hr⟩

theorem Alike.bind {R : σ → σ → Prop} {x y : EStateM ε σ α} {f g : α → EStateM ε σ β}
    {s s' : σ} (hx : Alike R (x s) (y s'))
    (hf : ∀ a t t', R t t' → Alike R (f a t) (g a t')) :
    Alike R ((x >>= f) s) ((y >>= g) s') := by
  rcases hx.cases with ⟨a, t, t', h, h', hr⟩ | ⟨e, t, t', h, h', hr⟩
  · rw [bind_of_ok h, bind_of_ok h']
    exact hf a t t' hr
  · rw [bind_of_error h, bind_of_error h']
    exact .error hr

theorem Alike.inContext {R : σ → σ → Prop} {c : Context} {x : EStateM Failure σ α} {s s' : σ}
    (hx : Alike R (x s) (x s')) : Alike R (inContext c x s) (inContext c x s') := by
  rcases hx.cases with ⟨a, t, t', h, h', hr⟩ | ⟨e, t, t', h, h', hr⟩
  · rw [inContext_of_ok h, inContext_of_ok h']
    exact .ok hr
  · rw [inContext_of_error h, inContext_of_error h']
    exact .error hr

theorem alike_orRefuse {R : σ → σ → Prop} {s s' : σ} (h : R s s') (result : Except Cause α) :
    Alike R (orRefuse result s) (orRefuse result s') := by
  cases result with
  | ok a => exact .ok h
  | error c => exact .error h

theorem alike_orFail {R : σ → σ → Prop} {s s' : σ} (h : R s s') (result : Except Failure α) :
    Alike R (orFail result s) (orFail result s') := by
  cases result with
  | ok a => exact .ok h
  | error e => exact .error h

end Populace
