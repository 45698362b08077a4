import Mathlib.Data.List.Basic
import Mathlib.Tactic.Common

/-!
# Intake — what a machine makes of a stream, however it arrives

A machine looks at the symbols that it has buffered and either waits for more
or does something: it takes some symbols off, emits an event, and goes on. If
what it does is not changed by symbols that come later (`Stable`), the events
do not depend on how the stream was cut into chunks.

* `drains_append` — more symbols only add to what was done.
* `feeds_iff_drains` — chunk by chunk is all at once.
-/

namespace Intake

variable {S α E : Type}

/-- What a machine does in a state with some symbols buffered: nothing, or it goes into another
state, takes symbols off and emits an event. -/
abbrev Step (S α E : Type) := S → List α → Option (S × Nat × E)

/-- What is done does not depend on what comes later. -/
def Stable (step : Step S α E) : Prop :=
  ∀ s buffer r, step s buffer = some r → r.2.1 ≤ buffer.length ∧
    ∀ more, step s (buffer ++ more) = some r

/-- The machine goes on until it waits. -/
inductive Drains (step : Step S α E) : S → List α → List E → S → List α → Prop
  | waits {s : S} {buffer : List α} (h : step s buffer = none) : Drains step s buffer [] s buffer
  | goes {s s' t : S} {buffer rest : List α} {n : Nat} {e : E} {es : List E}
      (h : step s buffer = some (s', n, e)) (later : Drains step s' (buffer.drop n) es t rest) :
      Drains step s buffer (e :: es) t rest

/-- Chunks are added to the buffer one after the other, and the machine goes on after each. -/
inductive Feeds (step : Step S α E) : S → List α → List (List α) → List E → S → List α → Prop
  | nil (s : S) (buffer : List α) : Feeds step s buffer [] [] s buffer
  | cons {s t u : S} {buffer rest left chunk : List α} {chunks : List (List α)} {es fs : List E}
      (first : Drains step s (buffer ++ chunk) es t rest)
      (later : Feeds step t rest chunks fs u left) :
      Feeds step s buffer (chunk :: chunks) (es ++ fs) u left

variable {step : Step S α E} {s t u : S} {buffer rest left : List α} {es fs : List E}

/-- A machine that has drained its buffer waits. -/
theorem Drains.waiting (h : Drains step s buffer es t rest) : step t rest = none := by
  induction h with
  | waits h => exact h
  | goes _ _ ih => exact ih

/-- A machine does one thing. -/
theorem Drains.unique (h : Drains step s buffer es t rest)
    (h' : Drains step s buffer fs u left) : es = fs ∧ t = u ∧ rest = left := by
  induction h generalizing fs with
  | waits hWaits =>
    cases h' with
    | waits => exact ⟨rfl, rfl, rfl⟩
    | goes hGoes => cases hWaits.symm.trans hGoes
  | goes hGoes _ ih =>
    cases h' with
    | waits hWaits => cases hGoes.symm.trans hWaits
    | goes hGoes' later =>
      cases hGoes.symm.trans hGoes'
      obtain ⟨rfl, rfl, rfl⟩ := ih later
      exact ⟨rfl, rfl, rfl⟩

/-- **More symbols** only add to what was done. -/
theorem drains_append (hStable : Stable step) (h : Drains step s buffer es t rest)
    (more : List α) :
    Drains step s (buffer ++ more) fs u left ↔
      ∃ gs, fs = es ++ gs ∧ Drains step t (rest ++ more) gs u left := by
  induction h generalizing fs with
  | waits => exact ⟨fun h => ⟨fs, rfl, h⟩, fun ⟨_, hSame, h⟩ => hSame ▸ h⟩
  | goes hGoes _ ih =>
    obtain ⟨hLe, hMore⟩ := hStable _ _ _ hGoes
    have hDrop := @List.drop_append_of_le_length α _ more _ hLe
    constructor
    · intro h
      cases h with
      | waits hWaits => cases (hMore more).symm.trans hWaits
      | goes hGoes' later =>
        cases (hMore more).symm.trans hGoes'
        rw [hDrop] at later
        obtain ⟨gs, rfl, hLater⟩ := ih.mp later
        exact ⟨gs, rfl, hLater⟩
    · rintro ⟨gs, rfl, hLater⟩
      refine .goes (hMore more) ?_
      rw [hDrop]
      exact ih.mpr ⟨gs, rfl, hLater⟩

/-- What comes to an end with more symbols, does so without them. -/
theorem Drains.of_append (hStable : Stable step) {more : List α}
    (h : Drains step s (buffer ++ more) fs u left) :
    ∃ es t rest, Drains step s buffer es t rest := by
  generalize hAll : buffer ++ more = all at h
  induction h generalizing buffer with
  | waits hWaits =>
    cases hStep : step _ buffer with
    | none => exact ⟨_, _, _, .waits hStep⟩
    | some r =>
      have hMore := (hStable _ _ _ hStep).2 more
      rw [hAll, hWaits] at hMore
      cases hMore
  | goes hGoes _ ih =>
    cases hStep : step _ buffer with
    | none => exact ⟨_, _, _, .waits hStep⟩
    | some r =>
      obtain ⟨hLe, hMore⟩ := hStable _ _ _ hStep
      have hSame := hMore more
      rw [hAll, hGoes] at hSame
      cases hSame
      obtain ⟨es, t, rest, hLater⟩ := ih
        (by rw [← hAll, List.drop_append_of_le_length hLe] : buffer.drop _ ++ more = _)
      exact ⟨_, _, _, .goes hStep hLater⟩

/-- **Chunk by chunk is all at once**, for a machine that waits in between. -/
theorem feeds_iff_drains (hStable : Stable step) {chunks : List (List α)}
    (hWaits : step s buffer = none) :
    Feeds step s buffer chunks es t rest ↔ Drains step s (buffer ++ chunks.flatten) es t rest := by
  constructor
  · intro h
    induction h with
    | nil =>
      rw [List.flatten_nil, List.append_nil]
      exact .waits hWaits
    | cons first _ ih =>
      rw [List.flatten_cons, ← List.append_assoc]
      exact (drains_append hStable first _).mpr ⟨_, rfl, ih first.waiting⟩
  · intro h
    induction chunks generalizing s buffer es with
    | nil =>
      rw [List.flatten_nil, List.append_nil] at h
      obtain ⟨rfl, rfl, rfl⟩ := h.unique (.waits hWaits)
      exact .nil _ _
    | cons chunk chunks ih =>
      rw [List.flatten_cons, ← List.append_assoc] at h
      obtain ⟨fs, u, left, hFirst⟩ := h.of_append hStable
      obtain ⟨gs, rfl, hLater⟩ := (drains_append hStable hFirst _).mp h
      exact .cons hFirst (ih hFirst.waiting hLater)

end Intake
