import Mathlib
/-!
# Operations on a state

Facts about operations that may fail, with the state they leave behind in either case. What holds of
a long operation is put together from what holds of its parts: of `x >>= f`, the second part is only
reached if the first comes to its end.
-/

namespace MacroTrace

variable {ε σ α β : Type}

/-- The state that an operation leaves behind, whether or not it comes to its end. -/
def stateAfter (action : EStateM ε σ α) (s : σ) : σ :=
  match action s with
  | .ok _ s => s
  | .error _ s => s

theorem stateAfter_of_ok {action : EStateM ε σ α} {s s' : σ} {a : α} (h : action s = .ok a s') :
    stateAfter action s = s' := by
  unfold stateAfter
  rw [h]

theorem stateAfter_of_error {action : EStateM ε σ α} {s s' : σ} {e : ε}
    (h : action s = .error e s') : stateAfter action s = s' := by
  unfold stateAfter
  rw [h]

@[simp] theorem stateAfter_pure (a : α) (s : σ) :
    stateAfter (pure a : EStateM ε σ α) s = s := rfl

theorem stateAfter_congr {x : EStateM ε σ α} {y : EStateM ε σ α} {s s' : σ} (h : x s = y s') :
    stateAfter x s = stateAfter y s' := by
  unfold stateAfter
  rw [h]

/-- The reason for which an operation does not come to its end, if it does not. -/
def stoppedBy (action : EStateM ε σ α) (s : σ) : Option ε :=
  match action s with
  | .ok _ _ => none
  | .error e _ => some e

theorem stoppedBy_of_ok {action : EStateM ε σ α} {s s' : σ} {a : α} (h : action s = .ok a s') :
    stoppedBy action s = none := by
  unfold stoppedBy
  rw [h]

theorem stoppedBy_of_error {action : EStateM ε σ α} {s s' : σ} {e : ε}
    (h : action s = .error e s') : stoppedBy action s = some e := by
  unfold stoppedBy
  rw [h]

theorem stoppedBy_congr {x : EStateM ε σ α} {y : EStateM ε σ α} {s s' : σ} (h : x s = y s') :
    stoppedBy x s = stoppedBy y s' := by
  unfold stoppedBy
  rw [h]

theorem eq_ok_of_stoppedBy {action : EStateM ε σ Unit} {s : σ} (h : stoppedBy action s = none) :
    action s = .ok () (stateAfter action s) := by
  unfold stoppedBy at h
  unfold stateAfter
  cases ha : action s with
  | ok u s' => rfl
  | error e s' =>
    rw [ha] at h
    cases h

theorem eq_error_of_stoppedBy {action : EStateM ε σ α} {s : σ} {e : ε}
    (h : stoppedBy action s = some e) : action s = .error e (stateAfter action s) := by
  unfold stoppedBy at h
  unfold stateAfter
  cases ha : action s with
  | ok a s' =>
    rw [ha] at h
    cases h
  | error e' s' =>
    rw [ha] at h
    cases h
    rfl

theorem get_bind (f : σ → EStateM ε σ β) (s : σ) : (get >>= f) s = f s s := rfl

theorem bind_of_ok {x : EStateM ε σ α} {f : α → EStateM ε σ β} {s s' : σ} {a : α}
    (h : x s = .ok a s') : (x >>= f) s = f a s' := by
  simp only [bind, EStateM.bind, h]

theorem bind_of_error {x : EStateM ε σ α} {f : α → EStateM ε σ β} {s s' : σ} {e : ε}
    (h : x s = .error e s') : (x >>= f) s = .error e s' := by
  simp only [bind, EStateM.bind, h]

theorem bind_congr_left {x y : EStateM ε σ α} {s : σ} (h : x s = y s) (f : α → EStateM ε σ β) :
    (x >>= f) s = (y >>= f) s := by
  simp only [bind, EStateM.bind, h]

theorem stateAfter_bind_of_ok {x : EStateM ε σ α} {f : α → EStateM ε σ β} {s s' : σ} {a : α}
    (h : x s = .ok a s') : stateAfter (x >>= f) s = stateAfter (f a) s' := by
  unfold stateAfter
  rw [bind_of_ok h]

theorem stateAfter_bind_of_error {x : EStateM ε σ α} {f : α → EStateM ε σ β} {s s' : σ} {e : ε}
    (h : x s = .error e s') : stateAfter (x >>= f) s = s' :=
  stateAfter_of_error (bind_of_error h)

/-- An operation in two parts comes to its end if both parts do. -/
theorem bind_eq_ok {x : EStateM ε σ α} {f : α → EStateM ε σ β} {s s'' : σ} {b : β}
    (h : (x >>= f) s = .ok b s'') : ∃ a s', x s = .ok a s' ∧ f a s' = .ok b s'' := by
  cases hx : x s with
  | ok a s' =>
    rw [bind_of_ok hx] at h
    exact ⟨a, s', rfl, h⟩
  | error e s' =>
    rw [bind_of_error hx] at h
    cases h

/-- What each part of an operation brings about from any state to the next, the whole brings about,
if the relation chains. -/
theorem stateAfter_bind {R : σ → σ → Prop} (htrans : ∀ {a b c}, R a b → R b c → R a c)
    {x : EStateM ε σ α} {f : α → EStateM ε σ β} {s : σ} (hx : R s (stateAfter x s))
    (hf : ∀ a s', x s = .ok a s' → R s' (stateAfter (f a) s')) :
    R s (stateAfter (x >>= f) s) := by
  cases h : x s with
  | ok a s' =>
    rw [stateAfter_of_ok h] at hx
    rw [stateAfter_bind_of_ok h]
    exact htrans hx (hf a s' h)
  | error e s' =>
    rw [stateAfter_of_error h] at hx
    rw [stateAfter_bind_of_error h]
    exact hx

theorem tryCatch_of_ok {x : EStateM ε σ α} {handle : ε → EStateM ε σ α} {s s' : σ} {a : α}
    (h : x s = .ok a s') : (tryCatch x handle) s = .ok a s' := by
  simp only [tryCatch, tryCatchThe, MonadExceptOf.tryCatch, EStateM.tryCatch, h]

theorem tryCatch_of_error {x : EStateM ε σ α} {handle : ε → EStateM ε σ α} {s s' : σ} {e : ε}
    (h : x s = .error e s') : (tryCatch x handle) s = handle e s' := by
  simp only [tryCatch, tryCatchThe, MonadExceptOf.tryCatch, EStateM.tryCatch, h]
  rfl

/-- What follows an attempt whose failure is of no account. -/
theorem attempt_bind (x : EStateM ε σ Unit) (f : Unit → EStateM ε σ β) (s : σ) :
    (tryCatch x (fun _ => pure ()) >>= f) s = f () (stateAfter x s) := by
  cases h : x s with
  | ok u s' => rw [bind_of_ok (tryCatch_of_ok h), stateAfter_of_ok h]
  | error e s' =>
    have hpure : (pure () : EStateM ε σ Unit) s' = .ok () s' := rfl
    rw [bind_of_ok ((tryCatch_of_error h).trans hpure), stateAfter_of_error h]

/-! ## States that an operation does not tell apart -/

/-- Two outcomes with the same result and related states. -/
inductive Alike (R : σ → σ → Prop) : EStateM.Result ε σ α → EStateM.Result ε σ α → Prop
  | ok (a : α) {s t : σ} (h : R s t) : Alike R (.ok a s) (.ok a t)
  | error (e : ε) {s t : σ} (h : R s t) : Alike R (.error e s) (.error e t)

/-- From related states an operation has the same result, and leaves related states behind. -/
structure Respects (R : σ → σ → Prop) (action : EStateM ε σ α) : Prop where
  alike : ∀ {s t}, R s t → Alike R (action s) (action t)

namespace Respects

variable {R : σ → σ → Prop}

theorem stateAfter {action : EStateM ε σ α} (h : Respects R action) {s t : σ} (hst : R s t) :
    R (stateAfter action s) (stateAfter action t) := by
  have hafter := h.alike hst
  unfold MacroTrace.stateAfter
  generalize action s = r at hafter ⊢
  generalize action t = r' at hafter ⊢
  cases hafter with
  | ok a h => exact h
  | error e h => exact h

theorem pure (a : α) : Respects R (Pure.pure a : EStateM ε σ α) := ⟨fun h => .ok a h⟩

theorem throw (e : ε) : Respects R (MonadExcept.throw e : EStateM ε σ α) := ⟨fun h => .error e h⟩

theorem bind {x : EStateM ε σ α} {f : α → EStateM ε σ β} (hx : Respects R x)
    (hf : ∀ a, Respects R (f a)) : Respects R (x >>= f) := by
  refine ⟨fun {s t} h => ?_⟩
  have hfirst := hx.alike h
  simp only [Bind.bind, EStateM.bind]
  generalize x s = r at hfirst ⊢
  generalize x t = r' at hfirst ⊢
  cases hfirst with
  | ok a h => exact (hf a).alike h
  | error e h => exact .error e h

theorem tryCatch {x : EStateM ε σ α} {handle : ε → EStateM ε σ α} (hx : Respects R x)
    (hhandle : ∀ e, Respects R (handle e)) : Respects R (tryCatchThe ε x handle) := by
  refine ⟨fun {s t} h => ?_⟩
  have hfirst := hx.alike h
  simp only [tryCatchThe, MonadExceptOf.tryCatch, EStateM.tryCatch]
  generalize x s = r at hfirst ⊢
  generalize x t = r' at hfirst ⊢
  cases hfirst with
  | ok a h => exact .ok a h
  | error e h => exact (hhandle e).alike h

/-- What is done with the state may depend on all that related states have in common. -/
theorem get_bind {f : σ → EStateM ε σ α} (h : ∀ s, Respects R (f s))
    (hf : ∀ {s t}, R s t → f t = f s) : Respects R (get >>= f) := by
  refine ⟨fun {s t} hst => ?_⟩
  show Alike R (f s s) (f t t)
  rw [hf hst]
  exact (h s).alike hst

theorem modify {f : σ → σ} (h : ∀ {s t}, R s t → R (f s) (f t)) :
    Respects R (modify f : EStateM ε σ PUnit) := by
  refine ⟨fun {s t} hst => ?_⟩
  show Alike R (.ok PUnit.unit (f s)) (.ok PUnit.unit (f t))
  exact .ok _ (h hst)

end Respects

def succeeds (action : EStateM ε σ α) (s : σ) : Bool :=
  match action s with
  | .ok _ _ => true
  | .error _ _ => false

theorem exists_ok_of_succeeds {action : EStateM ε σ α} {s : σ} (h : succeeds action s) :
    ∃ a s', action s = .ok a s' := by
  unfold succeeds at h
  split at h
  · rename_i a s' ha
    exact ⟨a, s', ha⟩
  · cases h

/-- A computation in two parts has a value if both parts do. -/
theorem except_bind_eq_ok {x : Except ε α} {f : α → Except ε β} {b : β} (h : (x >>= f) = .ok b) :
    ∃ a, x = .ok a ∧ f a = .ok b := by
  cases x with
  | ok a => exact ⟨a, rfl, h⟩
  | error e => cases h

end MacroTrace
