import Mathlib.Data.List.Infix
import Mathlib.Tactic.Common

/-!
# Terminator — two-symbol terminated fields

Fields in a stream, each followed by a terminator of two different symbols
`a b`. `cut` takes the first field off a stream; a lone `a` at the very end
of the stream counts as a terminator that was cut short.

Main results:

* `cut_append` — a field without `a b` inside is cut off exactly where its
  terminator stands, also when it ends in `a` or starts with `b`;
* `cut_clean` — what is cut off never has `a b` inside, whatever the stream.
-/

namespace Terminator

variable {α : Type}

/-- The terminator does not occur in a field. -/
def Clean (a b : α) (field : List α) : Prop := ¬ [a, b] <:+: field

theorem clean_nil (a b : α) : Clean a b [] := by
  rintro ⟨s, t, h⟩
  simp at h

theorem clean_singleton (a b x : α) : Clean a b [x] := by
  intro h
  have := h.length_le
  simp at this

theorem clean_cons_cons {a b x y : α} {rest : List α} :
    Clean a b (x :: y :: rest) ↔ ¬ (x = a ∧ y = b) ∧ Clean a b (y :: rest) := by
  unfold Clean
  rw [List.infix_cons_iff, not_or, List.cons_prefix_cons, List.cons_prefix_cons]
  constructor
  · rintro ⟨hHead, hTail⟩
    exact ⟨fun ⟨hx, hy⟩ => hHead ⟨hx.symm, hy.symm, List.nil_prefix⟩, hTail⟩
  · rintro ⟨hHead, hTail⟩
    exact ⟨fun ⟨hx, hy, _⟩ => hHead ⟨hx.symm, hy.symm⟩, hTail⟩

/-- A field without an `a` is clean. -/
theorem clean_of_not_mem {a b : α} {field : List α} (h : a ∉ field) : Clean a b field :=
  fun hInfix => h (hInfix.subset (List.mem_cons_self ..))

variable [DecidableEq α]

instance (a b : α) (field : List α) : Decidable (Clean a b field) :=
  inferInstanceAs (Decidable (¬ _))

/-- The first field of a stream, and what follows its terminator. -/
def cut (a b : α) : List α → List α × List α
  | [] => ([], [])
  -- a lone `a` at the end
  | [x] => if x = a then ([], []) else ([x], [])
  | x :: y :: rest =>
    if x = a ∧ y = b then ([], rest)
    else ((x :: (cut a b (y :: rest)).1), (cut a b (y :: rest)).2)

/-- A symbol that starts no terminator belongs to the field. -/
theorem cut_cons {a b x : α} {rest : List α}
    (h : x = a → ∃ y ys, rest = y :: ys ∧ y ≠ b) :
    cut a b (x :: rest) = (x :: (cut a b rest).1, (cut a b rest).2) := by
  cases rest with
  | nil =>
    have hx : x ≠ a := fun hSame => by
      obtain ⟨y, ys, hEmpty, -⟩ := h hSame
      cases hEmpty
    simp [cut, hx]
  | cons y ys =>
    rw [cut, if_neg]
    intro hPair
    obtain ⟨z, zs, hRest, hz⟩ := h hPair.1
    exact hz ((List.cons.inj hRest).1 ▸ hPair.2)

/-- The symbols of a clean field start no terminator, if the symbol behind it is no `b`. -/
theorem cut_clean_append {a b y : α} (hy : y ≠ b) {field : List α} (hClean : Clean a b field)
    (rest : List α) :
    cut a b (field ++ y :: rest) =
      (field ++ (cut a b (y :: rest)).1, (cut a b (y :: rest)).2) := by
  induction field with
  | nil => rfl
  | cons x xs ih =>
    cases xs with
    | nil =>
      -- the last symbol and the one behind it make none either
      have hx : ¬ (x = a ∧ y = b) := fun h => hy h.2
      rw [List.singleton_append, cut, if_neg hx, List.singleton_append]
    | cons z zs =>
      obtain ⟨hHead, hTail⟩ := clean_cons_cons.mp hClean
      have hCut := ih hTail
      rw [List.cons_append] at hCut
      rw [List.cons_append, List.cons_append, cut, if_neg hHead, hCut]
      rfl

/-- **A clean field is cut off at its own terminator.** The two symbols differ,
so no terminator can start inside the field and end outside it. -/
theorem cut_append {a b : α} (hab : a ≠ b) {field : List α} (hClean : Clean a b field)
    (rest : List α) : cut a b (field ++ a :: b :: rest) = (field, rest) := by
  rw [cut_clean_append hab hClean]
  simp [cut]

private theorem cut_head {a b : α} (y : α) (rest : List α) :
    (cut a b (y :: rest)).1 = [] ∨ ∃ ys, (cut a b (y :: rest)).1 = y :: ys := by
  cases rest with
  | nil =>
    simp only [cut]
    split
    · exact .inl rfl
    · exact .inr ⟨[], rfl⟩
  | cons z zs =>
    simp only [cut]
    split
    · exact .inl rfl
    · exact .inr ⟨_, rfl⟩

/-- **What is cut off is clean.** -/
theorem cut_clean (a b : α) (stream : List α) : Clean a b (cut a b stream).1 := by
  -- a pair inside the field would have been cut
  induction stream with
  | nil => exact clean_nil a b
  | cons x xs ih =>
    cases xs with
    | nil =>
      simp only [cut]
      split
      · exact clean_nil a b
      · exact clean_singleton a b x
    | cons y ys =>
      simp only [cut]
      split
      · exact clean_nil a b
      · rename_i hxy
        rcases cut_head (a := a) (b := b) y ys with h | ⟨zs, h⟩
        · rw [h]
          exact clean_singleton a b x
        · rw [h]
          rw [h] at ih
          exact clean_cons_cons.mpr ⟨hxy, ih⟩

/-- A cut takes its field, and at most the terminator, off the stream. -/
theorem cut_eq (a b : α) (stream : List α) :
    ∃ mid, stream = (cut a b stream).1 ++ (mid ++ (cut a b stream).2) := by
  induction stream with
  | nil => exact ⟨[], rfl⟩
  | cons x xs ih =>
    cases xs with
    | nil =>
      simp only [cut]
      split
      · exact ⟨[x], rfl⟩
      · exact ⟨[], rfl⟩
    | cons y ys =>
      simp only [cut]
      split
      · exact ⟨[x, y], rfl⟩
      · obtain ⟨mid, hMid⟩ := ih
        exact ⟨mid, by rw [List.cons_append, ← hMid]⟩

theorem length_cut_snd_le (a b : α) (stream : List α) :
    (cut a b stream).1.length + (cut a b stream).2.length ≤ stream.length := by
  obtain ⟨mid, hMid⟩ := cut_eq a b stream
  have := congrArg List.length hMid
  rw [List.length_append, List.length_append] at this
  omega

/-! ## Fields, without an algorithm -/

/-- The first field of a stream, and the rest: a field ends at the first terminator, at a
lone `a` that is the very last symbol, or with the stream. -/
inductive Ends (a b : α) : List α → List α → List α → Prop
  | terminated {field : List α} (rest : List α) :
      Clean a b field → Ends a b (field ++ a :: b :: rest) field rest
  | short {field : List α} : Clean a b field → Ends a b (field ++ [a]) field []
  | bare {field : List α} :
      Clean a b field → field.getLast? ≠ some a → Ends a b field field []

/-- `cut` finds a field. -/
theorem ends_cut (a b : α) (stream : List α) :
    Ends a b stream (cut a b stream).1 (cut a b stream).2 := by
  -- what lies between the field and the rest is one of three things
  have hPart : ∃ mid, stream = (cut a b stream).1 ++ (mid ++ (cut a b stream).2) ∧
      (mid = [a, b] ∨ (mid = [a] ∧ (cut a b stream).2 = []) ∨
        (mid = [] ∧ (cut a b stream).2 = [] ∧ stream.getLast? ≠ some a)) := by
    induction stream with
    | nil => exact ⟨[], rfl, .inr (.inr ⟨rfl, rfl, by simp⟩)⟩
    | cons x xs ih =>
      cases xs with
      | nil =>
        simp only [cut]
        split
        · rename_i hSame
          exact ⟨[a], by simp [hSame], .inr (.inl ⟨rfl, rfl⟩)⟩
        · rename_i hOther
          exact ⟨[], rfl, .inr (.inr ⟨rfl, rfl, by simpa using hOther⟩)⟩
      | cons y ys =>
        simp only [cut]
        split
        · rename_i hPair
          exact ⟨[a, b], by simp [hPair.1, hPair.2], .inl rfl⟩
        · obtain ⟨mid, hMid, hCase⟩ := ih
          refine ⟨mid, by rw [List.cons_append, ← hMid], ?_⟩
          rw [List.getLast?_cons_cons]
          exact hCase
  obtain ⟨mid, hStream, hCase⟩ := hPart
  have hClean := cut_clean a b stream
  generalize (cut a b stream).1 = field, (cut a b stream).2 = rest at *
  rcases hCase with rfl | ⟨rfl, rfl⟩ | ⟨rfl, rfl, hLast⟩
  · rw [hStream]
    exact .terminated rest hClean
  · rw [hStream]
    exact .short hClean
  · obtain rfl : stream = field := by simpa using hStream
    exact .bare hClean hLast

/-- A terminator that was cut short still ends its field. -/
theorem cut_short {a b : α} (hab : a ≠ b) {field : List α} (hClean : Clean a b field) :
    cut a b (field ++ [a]) = (field, []) := by
  rw [cut_clean_append hab hClean]
  simp [cut]

/-- A stream without a terminator is one field. -/
theorem cut_bare {a b : α} {field : List α} (hClean : Clean a b field)
    (hLast : field.getLast? ≠ some a) : cut a b field = (field, []) := by
  induction field with
  | nil => rfl
  | cons x xs ih =>
    cases xs with
    | nil =>
      have hx : x ≠ a := by simpa using hLast
      simp [cut, hx]
    | cons y ys =>
      obtain ⟨hHead, hTail⟩ := clean_cons_cons.mp hClean
      rw [List.getLast?_cons_cons] at hLast
      rw [cut, if_neg hHead, ih hTail hLast]

/-- There is no other one. -/
theorem Ends.cut_eq {a b : α} (hab : a ≠ b) {stream field rest : List α}
    (h : Ends a b stream field rest) : cut a b stream = (field, rest) := by
  cases h with
  | terminated rest hClean => exact cut_append hab hClean rest
  | short hClean => exact cut_short hab hClean
  | bare hClean hLast => exact cut_bare hClean hLast

end Terminator
