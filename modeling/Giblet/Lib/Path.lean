import Mathlib.Data.List.Basic
import Mathlib.Data.List.Infix
import Mathlib.Data.List.Induction
import Mathlib.Tactic.Common

/-!
# Path — relative paths, resolved

A relative path is a walk in a tree of directories: its names lead down, `..`
leads up, `.` and an empty name lead nowhere. What it comes to is a number of
levels above the place where it starts, and names leading down from there.

* `resolve_append_down` — a walk that starts with names leading down.
* `inside_within_iff` — where such a walk stays below these names.
* `resolve_append_below` — a walk that goes on without leading up.
-/

namespace Path

variable {α : Type}

/-! ## Walks -/

/-- A step of a walk. -/
inductive Step (α : Type)
  | stay
  | up
  | down (name : α)
  deriving DecidableEq, Repr

/-- Where a walk leads: first up, then down. -/
structure Place (α : Type) where
  ups : Nat
  downs : List α
  deriving DecidableEq, Repr

namespace Place

/-- One step further. -/
def step (p : Place α) : Step α → Place α
  | .stay => p
  | .up =>
    if p.downs = [] then { p with ups := p.ups + 1 }
    else { p with downs := p.downs.dropLast }
  | .down name => { p with downs := p.downs ++ [name] }

/-- Below a directory, and not the directory itself. -/
def Inside (dirs : List α) (p : Place α) : Prop :=
  p.ups = 0 ∧ dirs <+: p.downs ∧ dirs ≠ p.downs

/-- The place that lies as described from the end of some directories. -/
def within (dirs : List α) (p : Place α) : Place α where
  ups := p.ups - dirs.length
  downs := dirs.take (dirs.length - p.ups) ++ p.downs

/-- Seen from the end of some directories, the place is above them by some of their levels at
most, and down again through the same ones. -/
def Returns (dirs : List α) (p : Place α) : Prop :=
  p.ups ≤ dirs.length ∧ dirs.drop (dirs.length - p.ups) <+: p.downs

end Place

instance [DecidableEq α] (dirs : List α) (p : Place α) : Decidable (p.Inside dirs) :=
  inferInstanceAs (Decidable (_ ∧ _ ∧ _))

instance [DecidableEq α] (dirs : List α) (p : Place α) : Decidable (p.Returns dirs) :=
  inferInstanceAs (Decidable (_ ∧ _))

/-- Where a walk leads. -/
def resolve (steps : List (Step α)) : Place α := steps.foldl Place.step ⟨0, []⟩

theorem resolve_snoc (steps : List (Step α)) (s : Step α) :
    resolve (steps ++ [s]) = (resolve steps).step s := by
  rw [resolve, List.foldl_append, List.foldl_cons, List.foldl_nil, resolve]

/-! ## Walks from a directory -/

/-- A step is the same step wherever the walk began. -/
theorem step_within (dirs : List α) (p : Place α) (s : Step α) :
    (p.within dirs).step s = (p.step s).within dirs := by
  cases s with
  | stay => rfl
  | down name =>
    show Place.mk _ _ = Place.mk _ _
    rw [Place.within, List.append_assoc]
    rfl
  | up =>
    unfold Place.step
    by_cases hDowns : p.downs = []
    · rw [if_pos hDowns]
      unfold Place.within
      rw [hDowns, List.append_nil]
      -- above the directories already, or in one of them
      by_cases hAbove : dirs.length ≤ p.ups
      · have hNone : dirs.length - p.ups = 0 := by omega
        have hNext : dirs.length - (p.ups + 1) = 0 := by omega
        simp only [hNone, hNext, List.take_zero, if_true, List.append_nil, Place.mk.injEq, and_true]
        omega
      · have hSome : dirs.take (dirs.length - p.ups) ≠ [] := by
          intro hNil
          have hLength := congrArg List.length hNil
          rw [List.length_take, List.length_nil] at hLength
          omega
        rw [if_neg hSome]
        simp only [List.append_nil, Place.mk.injEq]
        refine ⟨by omega, ?_⟩
        rw [List.dropLast_eq_take, List.length_take, List.take_take]
        congr 1
        omega
    · have hLong : dirs.take (dirs.length - p.ups) ++ p.downs ≠ [] := by simp [hDowns]
      rw [if_neg hDowns]
      unfold Place.within
      rw [if_neg hLong, List.dropLast_append_of_ne_nil hDowns]

theorem resolve_down (dirs : List α) : resolve (dirs.map Step.down) = ⟨0, dirs⟩ := by
  induction dirs using List.reverseRecOn with
  | nil => rfl
  | append_singleton dirs name ih =>
    rw [List.map_append, List.map_singleton, resolve_snoc, ih]
    rfl

/-- **A walk that starts with names** leads where the rest of it leads from the last of them. -/
theorem resolve_append_down (dirs : List α) (steps : List (Step α)) :
    resolve (dirs.map Step.down ++ steps) = (resolve steps).within dirs := by
  induction steps using List.reverseRecOn with
  | nil =>
    rw [List.append_nil, resolve_down]
    unfold Place.within resolve
    simp
  | append_singleton steps s ih =>
    rw [← List.append_assoc, resolve_snoc, ih, step_within, resolve_snoc]

/-- **It stays below them** exactly when the rest returns to where it starts, and goes on. -/
theorem inside_within_iff (dirs : List α) (p : Place α) :
    (p.within dirs).Inside dirs ↔
      p.Returns dirs ∧ dirs.drop (dirs.length - p.ups) ≠ p.downs := by
  unfold Place.Inside Place.Returns Place.within
  have hSplit : dirs = dirs.take (dirs.length - p.ups) ++ dirs.drop (dirs.length - p.ups) :=
    (List.take_append_drop _ _).symm
  have hPrefix : dirs <+: dirs.take (dirs.length - p.ups) ++ p.downs ↔
      dirs.drop (dirs.length - p.ups) <+: p.downs := by
    nth_rewrite 1 [hSplit]
    exact List.prefix_append_right_inj _
  have hSame : dirs = dirs.take (dirs.length - p.ups) ++ p.downs ↔
      dirs.drop (dirs.length - p.ups) = p.downs := by
    nth_rewrite 1 [hSplit]
    exact List.append_right_inj _
  rw [hPrefix, ne_eq, hSame]
  dsimp only
  rw [Nat.sub_eq_zero_iff_le, and_assoc]

/-- At another place or below it. -/
def Place.Below (base p : Place α) : Prop := p.ups = base.ups ∧ base.downs <+: p.downs

instance [DecidableEq α] (base p : Place α) : Decidable (base.Below p) :=
  inferInstanceAs (Decidable (_ ∧ _))

theorem Place.Below.trans {p q r : Place α} (h : p.Below q) (h' : q.Below r) : p.Below r :=
  ⟨h'.1.trans h.1, h.2.trans h'.2⟩

/-- A walk that goes on without leading up stays below. -/
theorem resolve_append_below (start : List (Step α)) {steps : List (Step α)}
    (h : ∀ s ∈ steps, s ≠ .up) : (resolve start).Below (resolve (start ++ steps)) := by
  induction steps using List.reverseRecOn with
  | nil =>
    rw [List.append_nil]
    exact ⟨rfl, List.prefix_refl _⟩
  | append_singleton steps s ih =>
    obtain ⟨hBefore, hLast⟩ := List.forall_mem_append.mp h
    obtain ⟨hUps, hDowns⟩ := ih hBefore
    rw [← List.append_assoc, resolve_snoc]
    cases s with
    | stay => exact ⟨hUps, hDowns⟩
    | up => exact absurd rfl (hLast _ List.mem_cons_self)
    | down name => exact ⟨hUps, hDowns.trans (List.prefix_append _ _)⟩

/-! ## Text -/

section Text

variable {γ : Type}

/-- What is appended to a path, without a separator in it, belongs to its last name. -/
theorem splitOnP_append (isSeparator : γ → Bool) {ending : List γ}
    (hEnding : ∀ x ∈ ending, isSeparator x = false) (path : List γ) :
    ∃ names last, path.splitOnP isSeparator = names ++ [last] ∧
      (path ++ ending).splitOnP isSeparator = names ++ [last ++ ending] := by
  induction path with
  | nil => exact ⟨[], [], rfl, List.splitOnP_eq_singleton hEnding⟩
  | cons x rest ih =>
    obtain ⟨names, last, hRest, hLonger⟩ := ih
    rw [List.cons_append, List.splitOnP_cons_eq_if_modifyHead,
      List.splitOnP_cons_eq_if_modifyHead, hRest, hLonger]
    by_cases hSeparator : isSeparator x = true
    · rw [if_pos hSeparator, if_pos hSeparator]
      exact ⟨[] :: names, last, rfl, rfl⟩
    · rw [if_neg hSeparator, if_neg hSeparator]
      -- a first name grows by the character; it may be the last one, too
      cases names with
      | nil => exact ⟨[], x :: last, rfl, rfl⟩
      | cons first names => exact ⟨(x :: first) :: names, last, rfl, rfl⟩

/-- A separator ends a name. -/
theorem splitOnP_append_separator {isSeparator : γ → Bool} {separator : γ}
    (hSeparator : isSeparator separator = true) (before rest : List γ) :
    (before ++ separator :: rest).splitOnP isSeparator =
      before.splitOnP isSeparator ++ rest.splitOnP isSeparator := by
  induction before with
  | nil => rw [List.nil_append, List.splitOnP_cons_eq_if_modifyHead, if_pos hSeparator]; rfl
  | cons x before ih =>
    rw [List.cons_append, List.splitOnP_cons_eq_if_modifyHead, ih,
      List.splitOnP_cons_eq_if_modifyHead]
    by_cases hx : isSeparator x = true
    · rw [if_pos hx, if_pos hx]
      rfl
    · rw [if_neg hx, if_neg hx]
      cases hNames : before.splitOnP isSeparator with
      | nil => exact absurd hNames (List.splitOnP_ne_nil _ _)
      | cons name names => rfl

/-- The first name starts the text, and every other one follows a separator. -/
theorem splitOnP_names (isSeparator : γ → Bool) (text : List γ) :
    ∃ first names, text.splitOnP isSeparator = first :: names ∧ first <+: text ∧
      ∀ name ∈ names, ∃ before c rest, text = before ++ c :: rest ∧ isSeparator c = true ∧
        name <+: rest := by
  induction text with
  | nil => exact ⟨[], [], rfl, List.prefix_refl _, nofun⟩
  | cons x text ih =>
    obtain ⟨first, names, hSplit, hFirst, hNames⟩ := ih
    have hLater : ∀ name ∈ names, ∃ before c rest, x :: text = before ++ c :: rest ∧
        isSeparator c = true ∧ name <+: rest := fun name hName => by
      obtain ⟨before, c, rest, rfl, hc, hPrefix⟩ := hNames name hName
      exact ⟨x :: before, c, rest, rfl, hc, hPrefix⟩
    rw [List.splitOnP_cons_eq_if_modifyHead, hSplit]
    by_cases hx : isSeparator x = true
    · rw [if_pos hx]
      exact ⟨[], _, rfl, List.nil_prefix,
        List.forall_mem_cons.mpr ⟨⟨[], x, text, rfl, hx, hFirst⟩, hLater⟩⟩
    · rw [if_neg hx]
      exact ⟨x :: first, names, rfl, List.cons_prefix_cons.mpr ⟨rfl, hFirst⟩, hLater⟩

variable [DecidableEq γ]

/-- The step that a name stands for; `dot` is the character of the two special names. -/
def Step.ofName (dot : γ) (name : List γ) : Step (List γ) :=
  if name = [] ∨ name = [dot] then .stay
  else if name = [dot, dot] then .up
  else .down name

/-- The steps of a path that is written as text. -/
def stepsOf (isSeparator : γ → Bool) (dot : γ) (path : List γ) : List (Step (List γ)) :=
  (path.splitOnP isSeparator).map (Step.ofName dot)

/-- A name in front, which is not one of the special ones. -/
theorem stepsOf_append_separator {isSeparator : γ → Bool} {dot : γ} {name : List γ} {separator : γ}
    (hName : ∀ x ∈ name, isSeparator x = false) (hSeparator : isSeparator separator = true)
    (rest : List γ) :
    stepsOf isSeparator dot (name ++ separator :: rest) =
      Step.ofName dot name :: stepsOf isSeparator dot rest := by
  rw [stepsOf, List.splitOnP_append_cons_of_forall_mem hName separator hSeparator, List.map_cons,
    stepsOf]

/-- A name with another character than the dot leads down. -/
theorem Step.ofName_down {dot : γ} {name : List γ} (h : ∃ x ∈ name, x ≠ dot) :
    Step.ofName dot name = .down name := by
  obtain ⟨x, hMem, hOther⟩ := h
  unfold Step.ofName
  rw [if_neg, if_neg]
  · rintro rfl
    simp [hOther] at hMem
  · rintro (rfl | rfl)
    · cases hMem
    · simp [hOther] at hMem

/-- **A path with an ending** leads to a name with that ending. -/
theorem resolve_ending {isSeparator : γ → Bool} {dot : γ} {ending : List γ}
    (hEnding : ∀ x ∈ ending, isSeparator x = false) (hOther : ∃ x ∈ ending, x ≠ dot)
    (path : List γ) :
    ∃ dirs last, (resolve (stepsOf isSeparator dot (path ++ ending))).downs =
      dirs ++ [last ++ ending] := by
  obtain ⟨names, last, -, hSplit⟩ := splitOnP_append isSeparator hEnding path
  obtain ⟨x, hMem, hx⟩ := hOther
  have hDown : Step.ofName dot (last ++ ending) = .down (last ++ ending) :=
    Step.ofName_down ⟨x, List.mem_append_right _ hMem, hx⟩
  refine ⟨(resolve (names.map (Step.ofName dot))).downs, last, ?_⟩
  rw [stepsOf, hSplit, List.map_append, List.map_singleton, hDown, resolve_snoc]
  rfl

theorem stepsOf_append {isSeparator : γ → Bool} {dot separator : γ}
    (hSeparator : isSeparator separator = true) (before rest : List γ) :
    stepsOf isSeparator dot (before ++ separator :: rest) =
      stepsOf isSeparator dot before ++ stepsOf isSeparator dot rest := by
  rw [stepsOf, splitOnP_append_separator hSeparator, List.map_append, stepsOf, stepsOf]

/-- Where neither the text nor what follows a separator begins with two dots, no step leads up. -/
theorem stepsOf_ne_up {isSeparator : γ → Bool} {dot : γ} {text : List γ}
    (hFirst : ¬[dot, dot] <+: text)
    (hLater : ∀ before c rest, text = before ++ c :: rest → isSeparator c = true →
      ¬[dot, dot] <+: rest) : ∀ s ∈ stepsOf isSeparator dot text, s ≠ .up := by
  obtain ⟨first, names, hSplit, hPrefix, hNames⟩ := splitOnP_names isSeparator text
  have hNot (name : List γ) (h : Step.ofName dot name = .up) : name = [dot, dot] := by
    unfold Step.ofName at h
    split at h
    · cases h
    · split at h
      · assumption
      · cases h
  rw [stepsOf, hSplit, List.map_cons]
  refine List.forall_mem_cons.mpr ⟨fun hUp => ?_, List.forall_mem_map.mpr fun name hName hUp => ?_⟩
  · exact hFirst (hNot first hUp ▸ hPrefix)
  · obtain ⟨before, c, rest, hText, hc, hRest⟩ := hNames name hName
    exact hLater before c rest hText hc (hNot name hUp ▸ hRest)

end Text

end Path
