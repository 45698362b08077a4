import Mathlib.Order.Defs.Unbundled
import Mathlib.Tactic.Common

/-!
# Effect — reasoning about stateful computations that may fail

Rules for `EStateM`, whose failures keep the state reached so far.

* `Frame R x` — whatever `x` does, and however it ends, it relates the state
  before to the state after by `R`. With `R` a preorder, frames compose along
  binds and loops; an invariant `I` is the frame `fun s s' => I s → I s'`.
* `Faults P x` — whatever `x` fails with satisfies `P`.
* `Related R` — two computations end alike, in states that `R` relates.
* `zoom` — run a computation on a part of the state.
-/

namespace Effect

variable {ε σ τ α β ι : Type}

/-- The state a computation ends in, returning or failing. -/
def finalState : EStateM.Result ε σ α → σ
  | .ok _ s => s
  | .error _ s => s

@[simp] theorem finalState_ok (a : α) (s : σ) :
    finalState (.ok a s : EStateM.Result ε σ α) = s := rfl

@[simp] theorem finalState_error (e : ε) (s : σ) :
    finalState (.error e s : EStateM.Result ε σ α) = s := rfl

/-- The outcome with a function applied to its state. -/
def mapState (f : σ → τ) : EStateM.Result ε σ α → EStateM.Result ε τ α
  | .ok a s => .ok a (f s)
  | .error e s => .error e (f s)

@[simp] theorem finalState_mapState (f : σ → τ) (r : EStateM.Result ε σ α) :
    finalState (mapState f r) = f (finalState r) := by
  cases r <;> rfl

/-- Did the computation return? -/
def returned : EStateM.Result ε σ α → Bool
  | .ok _ _ => true
  | .error _ _ => false

@[simp] theorem returned_mapState (f : σ → τ) (r : EStateM.Result ε σ α) :
    returned (mapState f r) = returned r := by
  cases r <;> rfl

theorem eq_ok_of_returned {r : EStateM.Result ε σ Unit} (h : returned r = true) :
    r = .ok () (finalState r) := by
  cases r with
  | ok a s => rfl
  | error e s => cases h

/-- What the computation returned. -/
def value? : EStateM.Result ε σ α → Option α
  | .ok a _ => some a
  | .error _ _ => none

theorem eq_ok_of_value? {r : EStateM.Result ε σ α} {a : α} (h : value? r = some a) :
    r = .ok a (finalState r) := by
  cases r with
  | ok b s =>
    cases h
    rfl
  | error e s => cases h

theorem bind_run (x : EStateM ε σ α) (f : α → EStateM ε σ β) (s : σ) :
    (x >>= f) s =
      match x s with
      | .ok a s' => f a s'
      | .error e s' => .error e s' := rfl

/-- One computation after another returns only if both do. -/
theorem bind_eq_ok {x : EStateM ε σ α} {f : α → EStateM ε σ β} {s s' : σ} {b : β}
    (h : (x >>= f) s = .ok b s') : ∃ a t, x s = .ok a t ∧ f a t = .ok b s' := by
  rw [bind_run] at h
  cases hFirst : x s with
  | ok a t =>
    rw [hFirst] at h
    exact ⟨a, t, rfl, h⟩
  | error e t =>
    rw [hFirst] at h
    cases h

theorem pure_run (a : α) (s : σ) : (pure a : EStateM ε σ α) s = .ok a s := rfl

theorem throw_run (e : ε) (s : σ) : (throw e : EStateM ε σ α) s = .error e s := rfl

theorem get_run (s : σ) : (get : EStateM ε σ σ) s = .ok s s := rfl

theorem modify_run (f : σ → σ) (s : σ) : (modify f : EStateM ε σ PUnit) s = .ok ⟨⟩ (f s) := rfl

theorem except_ok_bind (a : α) (f : α → Except ε β) : (Except.ok a >>= f) = f a := rfl

/-- A computation without state returns only if each of its steps does. -/
theorem except_bind_eq_ok {x : Except ε α} {f : α → Except ε β} {b : β}
    (h : x >>= f = .ok b) : ∃ a, x = .ok a ∧ f a = .ok b := by
  cases x with
  | ok a => exact ⟨a, rfl, h⟩
  | error e => cases h

/-- A loop without state that returns keeps what each of its steps keeps. -/
theorem except_foldlM_keeps {P : σ → Prop} {f : σ → ι → Except ε σ}
    (hStep : ∀ i s s', P s → f s i = .ok s' → P s') {l : List ι} {s s' : σ} (hs : P s)
    (h : l.foldlM f s = .ok s') : P s' := by
  induction l generalizing s with
  | nil =>
    obtain rfl : s = s' := Except.ok.inj h
    exact hs
  | cons i rest ih =>
    rw [List.foldlM_cons] at h
    obtain ⟨t, hFirst, hRest⟩ := except_bind_eq_ok h
    exact ih (hStep i s t hs hFirst) hRest

/-! ## Pairs of outcomes -/

/-- Two outcomes of the same kind, whose states are related. -/
def Related (R : σ → τ → Prop) : EStateM.Result ε σ α → EStateM.Result ε τ α → Prop
  | .ok a s, .ok b t => a = b ∧ R s t
  | .error e s, .error f t => e = f ∧ R s t
  | _, _ => False

theorem Related.finalState {R : σ → τ → Prop} {r : EStateM.Result ε σ α}
    {r' : EStateM.Result ε τ α} (h : Related R r r') :
    R (Effect.finalState r) (Effect.finalState r') := by
  cases r <;> cases r' <;> first | exact h.2 | exact h.elim

/-- Two computations in step: if the first halves end alike, it is left to relate what follows
where they return. -/
theorem Related.bind {R : σ → τ → Prop} {x : EStateM ε σ α} {y : EStateM ε τ α}
    {f : α → EStateM ε σ β} {g : α → EStateM ε τ β} {s : σ} {t : τ} (h : Related R (x s) (y t))
    (hRest : ∀ a s' t', x s = .ok a s' → R s' t' → Related R (f a s') (g a t')) :
    Related R ((x >>= f) s) ((y >>= g) t) := by
  rw [bind_run, bind_run]
  cases hx : x s with
  | error e s' =>
    rw [hx] at h
    cases hy : y t with
    | error e' t' => rwa [hy] at h
    | ok b t' =>
      rw [hy] at h
      exact h.elim
  | ok a s' =>
    rw [hx] at h
    cases hy : y t with
    | error e' t' =>
      rw [hy] at h
      exact h.elim
    | ok b t' =>
      rw [hy] at h
      obtain ⟨rfl, hState⟩ := h
      exact hRest a s' t' hx hState

/-! ## Frames -/

/-- Every run of `x` relates its first state to its last. -/
def Frame (R : σ → σ → Prop) (x : EStateM ε σ α) : Prop := ∀ s, R s (finalState (x s))

section Frames

variable {R : σ → σ → Prop} [IsPreorder σ R]

theorem Frame.pure (a : α) : Frame R (pure a : EStateM ε σ α) := refl_of R

theorem Frame.throw (e : ε) : Frame R (throw e : EStateM ε σ α) := refl_of R

theorem Frame.get : Frame R (get : EStateM ε σ σ) := refl_of R

/-- One computation after another, from a given state; the relation may look back to another. -/
theorem Frame.bind_at {x : EStateM ε σ α} {f : α → EStateM ε σ β} {s t : σ}
    (hx : R t (finalState (x s))) (hf : ∀ a, Frame R (f a)) :
    R t (finalState ((x >>= f) s)) := by
  rw [bind_run]
  cases h : x s with
  | ok a s' =>
    rw [h] at hx
    exact trans_of R hx (hf a s')
  -- a failure of the first keeps the state that it had reached
  | error e s' =>
    rw [h] at hx
    exact hx

theorem Frame.bind {x : EStateM ε σ α} {f : α → EStateM ε σ β} (hx : Frame R x)
    (hf : ∀ a, Frame R (f a)) : Frame R (x >>= f) := fun s => bind_at (hx s) hf

theorem Frame.forM {f : ι → EStateM ε σ PUnit} (hf : ∀ i, Frame R (f i)) (l : List ι) :
    Frame R (l.forM f) := by
  induction l with
  | nil => exact Frame.pure _
  | cons i is ih => exact Frame.bind (hf i) fun _ => ih

/-- The frame of a loop may depend on what it goes through. -/
theorem Frame.forM_mem {f : ι → EStateM ε σ PUnit} {l : List ι} (hf : ∀ i ∈ l, Frame R (f i)) :
    Frame R (l.forM f) := by
  induction l with
  | nil => exact Frame.pure _
  | cons i is ih =>
    obtain ⟨hFirst, hRest⟩ := List.forall_mem_cons.mp hf
    exact Frame.bind hFirst fun _ => ih hRest

end Frames

/-- A computation that looks at the state first. -/
theorem Frame.get_bind {R : σ → σ → Prop} {f : σ → EStateM ε σ α}
    (h : ∀ s, R s (finalState (f s s))) : Frame R (MonadState.get >>= f) := h

theorem Frame.modify {R : σ → σ → Prop} {f : σ → σ} (h : ∀ s, R s (f s)) :
    Frame R (modify f : EStateM ε σ PUnit) := h

/-! ## Faults -/

/-- Every failure of `x` satisfies `P`. -/
def Faults (P : ε → Prop) (x : EStateM ε σ α) : Prop := ∀ s e s', x s = .error e s' → P e

section FaultRules

variable {P : ε → Prop}

theorem Faults.pure (a : α) : Faults P (pure a : EStateM ε σ α) := by
  intro s e s' h
  cases h

theorem Faults.throw {e : ε} (h : P e) : Faults P (throw e : EStateM ε σ α) := by
  intro s e' s' hRun
  cases hRun
  exact h

theorem Faults.get : Faults P (get : EStateM ε σ σ) := by
  intro s e s' h
  cases h

theorem Faults.modify (f : σ → σ) : Faults P (modify f : EStateM ε σ PUnit) := by
  intro s e s' h
  cases h

theorem Faults.bind {x : EStateM ε σ α} {f : α → EStateM ε σ β} (hx : Faults P x)
    (hf : ∀ a, Faults P (f a)) : Faults P (x >>= f) := by
  intro s e s' h
  rw [bind_run] at h
  -- the second's failure, or the first's
  cases hFirst : x s with
  | ok a t =>
    rw [hFirst] at h
    exact hf a t e s' h
  | error e₁ t =>
    rw [hFirst] at h
    cases h
    exact hx s e s' hFirst

theorem Faults.forM {f : ι → EStateM ε σ PUnit} (hf : ∀ i, Faults P (f i)) (l : List ι) :
    Faults P (l.forM f) := by
  induction l with
  | nil => exact Faults.pure _
  | cons i is ih => exact Faults.bind (hf i) fun _ => ih

end FaultRules

/-! ## Parts of the state -/

/-- Run a computation on a part of the state. -/
def zoom (get : σ → τ) (set : τ → σ → σ) (x : EStateM ε τ α) : EStateM ε σ α := fun s =>
  match x (get s) with
  | .ok a t => .ok a (set t s)
  | .error e t => .error e (set t s)

/-- A zoomed computation changes its part of the state and nothing else. -/
theorem finalState_zoom (get : σ → τ) (set : τ → σ → σ) (x : EStateM ε τ α) (s : σ) :
    finalState (zoom get set x s) = set (finalState (x (get s))) s := by
  unfold zoom
  cases x (get s) <;> rfl

/-- It returns exactly when the computation on the part does. -/
theorem returned_zoom (get : σ → τ) (set : τ → σ → σ) (x : EStateM ε τ α) (s : σ) :
    returned (zoom get set x s) = returned (x (get s)) := by
  unfold zoom
  cases x (get s) <;> rfl

/-- The frame of a part is a frame of the whole. -/
theorem Frame.zoom {R : τ → τ → Prop} {get : σ → τ} {set : τ → σ → σ}
    (hSet : ∀ t s, get (set t s) = t) {x : EStateM ε τ α} (h : Frame R x) :
    Frame (fun s s' => R (get s) (get s')) (Effect.zoom get set x) := by
  intro s
  show R (get s) (get (finalState (Effect.zoom get set x s)))
  rw [finalState_zoom, hSet]
  exact h (get s)

end Effect
