/-!
# Proofs.Effect — how an action goes through, and the state in which it ends

An action of a run ends in a state whether it goes through or breaks off.  An action made of two goes through exactly
when both do, one after the other.
-/
namespace Scaffold

variable {ε σ α β : Type}

def endState : EStateM.Result ε σ α → σ
  | .ok _ s => s
  | .error _ s => s

def goesThrough : EStateM.Result ε σ α → Bool
  | .ok _ _ => true
  | .error _ _ => false

theorem exists_of_goesThrough {r : EStateM.Result ε σ α} (h : goesThrough r = true) : ∃ a, r = .ok a (endState r) := by
  cases r with
  | ok a s => exact ⟨a, rfl⟩
  | error e s => cases h

theorem exists_of_not_goesThrough {r : EStateM.Result ε σ α} (h : goesThrough r = false) :
    ∃ e, r = .error e (endState r) := by
  cases r with
  | ok a s => cases h
  | error e s => exact ⟨e, rfl⟩

theorem bind_of_ok {x : EStateM ε σ α} {f : α → EStateM ε σ β} {s t : σ} {a : α} (h : x s = .ok a t) :
    (x >>= f) s = f a t := by
  show EStateM.bind x f s = f a t
  unfold EStateM.bind
  rw [h]

theorem bind_of_error {x : EStateM ε σ α} {f : α → EStateM ε σ β} {s t : σ} {e : ε} (h : x s = .error e t) :
    (x >>= f) s = .error e t := by
  show EStateM.bind x f s = .error e t
  unfold EStateM.bind
  rw [h]

theorem endState_bind_pure (x : EStateM ε σ α) (f : α → β) (s : σ) :
    endState ((x >>= fun a => pure (f a)) s) = endState (x s) := by
  cases h : x s with
  | ok a t =>
    rw [bind_of_ok h]
    rfl
  | error e t =>
    rw [bind_of_error h]
    rfl

/-- **Two actions in a row go through exactly when the first does and then the second.** -/
theorem bind_ok {x : EStateM ε σ α} {f : α → EStateM ε σ β} {s u : σ} {b : β} :
    (x >>= f) s = .ok b u ↔ ∃ a t, x s = .ok a t ∧ f a t = .ok b u := by
  cases h : x s with
  | ok a t =>
    rw [bind_of_ok h]
    constructor
    · intro hf
      exact ⟨a, t, rfl, hf⟩
    · rintro ⟨a', s₁, h₁, hf⟩
      cases h₁
      exact hf
  | error e t =>
    rw [bind_of_error h]
    constructor
    · intro hf
      cases hf
    · rintro ⟨a', s₁, h₁, -⟩
      cases h₁

theorem except_bind_of_ok {x : Except ε α} {a : α} (h : x = .ok a) (f : α → Except ε β) : (x >>= f) = f a := by
  rw [h]
  rfl

theorem except_bind_of_error {x : Except ε α} {e : ε} (h : x = .error e) (f : α → Except ε β) :
    (x >>= f) = .error e := by
  rw [h]
  rfl

theorem except_bind_ok {x : Except ε α} {f : α → Except ε β} {b : β} :
    (x >>= f) = .ok b ↔ ∃ a, x = .ok a ∧ f a = .ok b := by
  cases x with
  | ok a =>
    constructor
    · intro h
      exact ⟨a, rfl, h⟩
    · rintro ⟨a', h₁, h⟩
      cases h₁
      exact h
  | error e =>
    constructor
    · intro h
      cases h
    · rintro ⟨a', h₁, -⟩
      cases h₁

/-! ## Two runs of an action -/

/-- **Two actions end alike**: with the same answer, and in states that are related as `R` says if they go through,
as `E` says if they break off. -/
inductive Agree (R E : σ → σ → Prop) : EStateM.Result ε σ α → EStateM.Result ε σ α → Prop where
  | ok (a : α) {s s' : σ} : R s s' → Agree R E (.ok a s) (.ok a s')
  | error (e : ε) {s s' : σ} : E s s' → Agree R E (.error e s) (.error e s')

theorem Agree.refl {R E : σ → σ → Prop} (hR : ∀ s, R s s) (hE : ∀ s, E s s) (r : EStateM.Result ε σ α) :
    Agree R E r r := by
  cases r with
  | ok a s => exact .ok a (hR s)
  | error e s => exact .error e (hE s)

theorem Agree.bind {R Q E : σ → σ → Prop} {x x' : EStateM ε σ α} {f f' : α → EStateM ε σ β} {s s' : σ}
    (h : Agree R E (x s) (x' s')) (hf : ∀ a t t', R t t' → Agree Q E (f a t) (f' a t')) :
    Agree Q E ((x >>= f) s) ((x' >>= f') s') := by
  generalize hx : x s = r at h
  generalize hx' : x' s' = r' at h
  cases h with
  | ok a ht =>
    rw [bind_of_ok hx, bind_of_ok hx']
    exact hf a _ _ ht
  | error e ht =>
    rw [bind_of_error hx, bind_of_error hx']
    exact .error e ht

theorem Agree.mono {R Q E F : σ → σ → Prop} {r r' : EStateM.Result ε σ α} (h : Agree R E r r')
    (hok : ∀ a s s', r = .ok a s → r' = .ok a s' → R s s' → Q s s')
    (herr : ∀ e s s', r = .error e s → r' = .error e s' → E s s' → F s s') : Agree Q F r r' := by
  cases h with
  | ok a hs => exact .ok a (hok a _ _ rfl rfl hs)
  | error e hs => exact .error e (herr e _ _ rfl rfl hs)

theorem Agree.of_ok {R E : σ → σ → Prop} {a : α} {s : σ} {r : EStateM.Result ε σ α} (h : Agree R E (.ok a s) r) :
    ∃ s', r = .ok a s' ∧ R s s' := by
  cases h with
  | ok _ hs => exact ⟨_, rfl, hs⟩

theorem mapError_ok {ε' : Type} {g : ε → ε'} {x : Except ε α} {b : α} : x.mapError g = .ok b ↔ x = .ok b := by
  cases x with
  | error err =>
    constructor <;> intro h <;> cases h
  | ok found =>
    constructor <;> intro h <;> cases h <;> rfl

end Scaffold
