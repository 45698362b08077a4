import Mathlib.Data.List.Induction
import Mathlib.Tactic.Common

/-!
# Run — sequences of steps

`Runs step s ls t`: the steps labelled `ls`, in this order, lead from `s` to
`t`. A run grows at its end, so an invariant may speak about the labels seen
so far; `Runs.invariant` is the induction, and what else is said about whole
runs follows from it.
-/

namespace Run

variable {S L : Type}

/-- Steps taken one after another. -/
inductive Runs (step : S → L → S → Prop) : S → List L → S → Prop
  | nil (s : S) : Runs step s [] s
  | snoc {s t u : S} {ls : List L} {l : L} :
      Runs step s ls t → step t l u → Runs step s (ls ++ [l]) u

/-- What holds at the start and is preserved by every step, holds after every run. -/
theorem Runs.invariant {step : S → L → S → Prop} {I : List L → S → Prop} {s : S}
    (hStart : I [] s)
    (hStep : ∀ ls t l u, Runs step s ls t → I ls t → step t l u → I (ls ++ [l]) u)
    {ls : List L} {t : S} (hRun : Runs step s ls t) : I ls t := by
  induction hRun with
  | nil => exact hStart
  | snoc hPrefix hLast ih => exact hStep _ _ _ _ hPrefix ih hLast

/-- A single step. -/
theorem Runs.one {step : S → L → S → Prop} {s t : S} {l : L} (h : step s l t) :
    Runs step s [l] t := by
  have hRun := (Runs.nil s).snoc h
  exact hRun

/-- A step, and then a run. -/
theorem Runs.cons {step : S → L → S → Prop} {s t u : S} {l : L} {ls : List L}
    (hStep : step s l t) (hRun : Runs step t ls u) : Runs step s (l :: ls) u := by
  induction hRun with
  | nil => exact .one hStep
  | snoc hPrefix hLast ih =>
    rw [← List.cons_append]
    exact ih.snoc hLast

/-- The run of nothing stays where it is. -/
theorem Runs.nil_inv {step : S → L → S → Prop} {s t : S} (h : Runs step s [] t) : t = s := by
  -- the last step of a longer run would have a label
  generalize hEq : ([] : List L) = ls at h
  cases h with
  | nil => rfl
  | snoc hPrefix hLast => simp at hEq

/-- A run of a nonempty sequence ends in a step. -/
theorem Runs.snoc_inv {step : S → L → S → Prop} {s u : S} {ls : List L} {l : L}
    (h : Runs step s (ls ++ [l]) u) : ∃ t, Runs step s ls t ∧ step t l u := by
  generalize hEq : ls ++ [l] = ks at h
  cases h with
  | nil => simp at hEq
  | snoc hPrefix hLast =>
    obtain ⟨rfl, hLabel⟩ := List.append_inj' hEq rfl
    obtain rfl := List.singleton_inj.mp hLabel
    exact ⟨_, hPrefix, hLast⟩

/-- Runs can be cut anywhere. -/
theorem Runs.append_inv {step : S → L → S → Prop} {s u : S} {ls ks : List L}
    (h : Runs step s (ls ++ ks) u) : ∃ t, Runs step s ls t ∧ Runs step t ks u := by
  -- on the second part, from its end
  induction ks using List.reverseRecOn generalizing u with
  | nil => exact ⟨u, by simpa using h, .nil u⟩
  | append_singleton ks k ih =>
    rw [← List.append_assoc] at h
    obtain ⟨t, hBefore, hLast⟩ := h.snoc_inv
    obtain ⟨w, hFirst, hSecond⟩ := ih hBefore
    exact ⟨w, hFirst, hSecond.snoc hLast⟩

/-- Where the steps are determined, the runs are. -/
theorem Runs.unique {step : S → L → S → Prop}
    (hStep : ∀ s l t u, step s l t → step s l u → t = u) {s t u : S} {ls : List L}
    (ht : Runs step s ls t) (hu : Runs step s ls u) : t = u := by
  induction ht generalizing u with
  | nil => exact hu.nil_inv.symm
  | snoc hBefore hLast ih =>
    obtain ⟨w, hBefore', hLast'⟩ := hu.snoc_inv
    obtain rfl := ih hBefore'
    exact hStep _ _ _ _ hLast hLast'

/-- Where a run goes on, so does every run of its beginning. -/
theorem Runs.resume {step : S → L → S → Prop}
    (hStep : ∀ s l t u, step s l t → step s l u → t = u) {s t u : S} {ls rest : List L} {l : L}
    (hRun : Runs step s (ls ++ l :: rest) u) (ht : Runs step s ls t) :
    ∃ v, step t l v ∧ Runs step s (ls ++ [l]) v ∧ Runs step v rest u := by
  -- the cut in the run is the state that its beginning reaches
  rw [List.append_cons] at hRun
  obtain ⟨v, hv, hRest⟩ := hRun.append_inv
  obtain ⟨w, hw, hLast⟩ := hv.snoc_inv
  obtain rfl := ht.unique hStep hw
  exact ⟨v, hLast, hv, hRest⟩

/-- **A cause.** What holds at the start, and at the end no more, was ended by a step. -/
theorem Runs.exists_cause {step : S → L → S → Prop} {P : S → Prop} {C : S → L → Prop} {s : S}
    (hStart : P s) (hStep : ∀ t l u, step t l u → P t → ¬ P u → C t l) {ls : List L} {t : S}
    (hRun : Runs step s ls t) :
    ¬ P t → ∃ before l after u, ls = before ++ l :: after ∧ Runs step s before u ∧ C u l := by
  refine hRun.invariant (I := fun ls t => ¬ P t → ∃ before l after u,
    ls = before ++ l :: after ∧ Runs step s before u ∧ C u l) (fun h => absurd hStart h) ?_
  intro history t l u hHistory ih hLast hEnd
  -- the step that ended it, or the cause that was there already
  by_cases hHolds : P t
  · exact ⟨history, l, [], t, rfl, hHistory, hStep t l u hLast hHolds hEnd⟩
  · obtain ⟨before, first, after, v, hSplit, hBefore, hCause⟩ := ih hHolds
    exact ⟨before, first, after ++ [l], v, by rw [hSplit]; simp, hBefore, hCause⟩

/-- **At most once.** A property of a state and the label that comes next holds at one place
of a run at most, if it never holds again after it held. -/
theorem Runs.at_most_once {step : S → L → S → Prop} {C : S → L → Prop} {s : S} {ls : List L}
    (hAgain : ∀ before l between l' after t t', ls = before ++ l :: (between ++ l' :: after) →
      Runs step s before t → C t l → Runs step s (before ++ l :: between) t' → ¬ C t' l')
    {before after before' after' : List L} {l l' : L} {t t' : S}
    (hSplit : ls = before ++ l :: after) (hSplit' : ls = before' ++ l' :: after')
    (ht : Runs step s before t) (ht' : Runs step s before' t') (h : C t l) (h' : C t' l') :
    before = before' := by
  -- if one place came first, the property would hold again at the other
  rcases List.append_eq_append_iff.mp (hSplit.symm.trans hSplit') with
    ⟨between, hEarlier, hRest⟩ | ⟨between, hEarlier, hRest⟩
  · cases between with
    | nil => rw [hEarlier, List.append_nil]
    | cons b between =>
      obtain ⟨rfl, hAfter⟩ := List.cons.inj hRest
      rw [hEarlier] at ht'
      rw [hAfter] at hSplit
      exact absurd h' (hAgain before _ between l' after' t t' hSplit ht h ht')
  · cases between with
    | nil => rw [hEarlier, List.append_nil]
    | cons b between =>
      obtain ⟨rfl, hAfter⟩ := List.cons.inj hRest
      rw [hEarlier] at ht
      rw [hAfter] at hSplit'
      exact absurd h (hAgain before' _ between l after t' t hSplit' ht' h' ht)

/-- **A property in every state of a run.** Where a step from a state with the property leads
to one exactly under a condition, the property holds throughout exactly when every step
meets the condition. -/
theorem Runs.always_iff {step : S → L → S → Prop} {P : S → Prop} {C : S → L → Prop} {s₀ : S}
    {ls : List L} (hStart : P s₀) (hStep : ∀ s l t, P s → step s l t → (P t ↔ C s l))
    (hNext : ∀ history l rest t, ls = history ++ l :: rest → Runs step s₀ history t →
      ∃ u, step t l u) :
    (∀ history rest t, ls = history ++ rest → Runs step s₀ history t → P t) ↔
      ∀ history l rest t, ls = history ++ l :: rest → Runs step s₀ history t → C t l := by
  constructor
  · intro hAlways history l rest t hSplit ht
    -- every step of the run leads somewhere, and the property holds there
    obtain ⟨u, hu⟩ := hNext history l rest t hSplit ht
    refine (hStep t l u (hAlways history (l :: rest) t hSplit ht) hu).mp ?_
    exact hAlways (history ++ [l]) rest u (by rw [hSplit, List.append_cons]) (ht.snoc hu)
  · intro hMeets history rest t hSplit ht
    -- the property is carried along the beginning of the run
    induction ht generalizing rest with
    | nil => exact hStart
    | snoc hBefore hLast ih =>
      rw [List.append_assoc] at hSplit
      exact (hStep _ _ _ (ih _ hSplit) hLast).mpr (hMeets _ _ _ _ hSplit hBefore)

end Run
