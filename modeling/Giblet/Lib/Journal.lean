import Mathlib.Data.List.Induction
import Mathlib.Tactic.Common

/-!
# Journal — the last event about a key

A state that is changed by one event after another, seen through one
observation `f` of it. `about e` is what an event makes the observation, `none`
when it leaves it alone; then what is observed at the end is what the last
event about it says, or what was observed at the start.
-/

namespace Journal

variable {E S V : Type}

/-- What the last event that says anything says. -/
def lastAbout (about : E → Option V) (es : List E) : Option V := (es.filterMap about).getLast?

/-- Later events count before earlier ones. -/
theorem lastAbout_append (about : E → Option V) (es more : List E) :
    lastAbout about (es ++ more) = (lastAbout about more).or (lastAbout about es) := by
  unfold lastAbout
  rw [List.filterMap_append, List.getLast?_append]

theorem lastAbout_singleton (about : E → Option V) (e : E) : lastAbout about [e] = about e := by
  unfold lastAbout
  cases h : about e <;> simp [h]

/-- A further event is the last one, if it says anything. -/
theorem lastAbout_snoc (about : E → Option V) (es : List E) (e : E) :
    lastAbout about (es ++ [e]) = (about e).or (lastAbout about es) := by
  rw [lastAbout_append, lastAbout_singleton]

/-- No event says anything. -/
theorem lastAbout_eq_none_iff {about : E → Option V} {es : List E} :
    lastAbout about es = none ↔ ∀ e ∈ es, about e = none := by
  rw [lastAbout, List.getLast?_eq_none_iff, List.filterMap_eq_nil_iff]

/-- The last event that says anything, with those after it that do not. -/
theorem lastAbout_eq_some_iff {about : E → Option V} {es : List E} {v : V} :
    lastAbout about es = some v ↔
      ∃ before e after, es = before ++ e :: after ∧ about e = some v ∧
        ∀ e' ∈ after, about e' = none := by
  constructor
  · intro h
    -- from the end: the last event is the one, or says nothing
    induction es using List.reverseRecOn with
    | nil => cases h
    | append_singleton es e ih =>
      rw [lastAbout_snoc] at h
      cases hLast : about e with
      | some w =>
        rw [hLast, Option.some_or] at h
        exact ⟨es, e, [], rfl, by rw [hLast, h], fun _ h => absurd h List.not_mem_nil⟩
      | none =>
        rw [hLast, Option.none_or] at h
        obtain ⟨before, e₀, after, rfl, hAbout, hAfter⟩ := ih h
        refine ⟨before, e₀, after ++ [e], by simp, hAbout, fun e' he' => ?_⟩
        rcases List.mem_append.mp he' with he' | he'
        · exact hAfter e' he'
        · rw [List.mem_singleton.mp he', hLast]
  · rintro ⟨before, e, after, rfl, hAbout, hAfter⟩
    have hNone : after.filterMap about = [] := List.filterMap_eq_nil_iff.mpr hAfter
    rw [lastAbout, List.filterMap_append, List.filterMap_cons_some hAbout, hNone]
    simp

/-- **Replay.** Where every event makes the observation what it says, or leaves it alone, the
events together make it what the last of them says. -/
theorem observe_foldl {step : S → E → S} {f : S → V} {about : E → Option V}
    (hStep : ∀ s e, f (step s e) = (about e).getD (f s)) (es : List E) (s : S) :
    f (es.foldl step s) = (lastAbout about es).getD (f s) := by
  induction es using List.reverseRecOn with
  | nil => rfl
  | append_singleton es e ih =>
    rw [List.foldl_append, List.foldl_cons, List.foldl_nil, hStep, ih, lastAbout_snoc]
    cases about e with
    | none => rfl
    | some v => rfl

end Journal
