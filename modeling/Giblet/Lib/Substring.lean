import Mathlib.Data.List.Infix
import Mathlib.Data.List.TakeWhile
import Mathlib.Tactic.Common

/-!
# Substring — searching in a text

`find` answers the position at which a text is found first, as `std::string`
does, and `Between` says what stands between the first occurrence of an
opening and the next closing character, or the end.

* `find_eq_some_iff` — the first occurrence.
* `between_iff` — what is cut out, by its position.
-/

namespace Substring

variable {α : Type}

theorem prefix_drop_iff {needle s : List α} {n : Nat} (hn : n ≤ s.length) :
    needle <+: s.drop n ↔ ∃ before after, s = before ++ needle ++ after ∧ before.length = n := by
  constructor
  · rintro ⟨after, hAfter⟩
    refine ⟨s.take n, after, ?_, List.length_take_of_le hn⟩
    rw [List.append_assoc, hAfter, List.take_append_drop]
  · rintro ⟨before, after, rfl, rfl⟩
    rw [List.append_assoc, List.drop_left]
    exact List.prefix_append _ _

variable [DecidableEq α]

/-- The first position at which the text is found. -/
def find (needle s : List α) : Option Nat := s.tails.findIdx? fun t => needle.isPrefixOf t

/-- The text occurs behind `before`, and nowhere earlier. -/
def FirstAt (needle s before : List α) : Prop :=
  (∃ after, s = before ++ needle ++ after) ∧
    ∀ earlier after, s = earlier ++ needle ++ after → before.length ≤ earlier.length

theorem find_eq_some_iff {needle s : List α} {n : Nat} :
    find needle s = some n ↔ ∃ before, FirstAt needle s before ∧ before.length = n := by
  unfold find FirstAt
  rw [List.findIdx?_eq_some_iff_getElem]
  simp only [List.getElem_tails, List.length_tails, List.isPrefixOf_iff_prefix]
  constructor
  · rintro ⟨hn, hHere, hEarlier⟩
    obtain ⟨before, after, hSplit, hLength⟩ := (prefix_drop_iff (by omega)).mp hHere
    refine ⟨before, ⟨⟨after, hSplit⟩, fun earlier rest hOther => ?_⟩, hLength⟩
    by_contra hLess
    exact hEarlier earlier.length (by omega)
      ((prefix_drop_iff (by omega)).mpr ⟨earlier, rest, hOther, rfl⟩)
  · rintro ⟨before, ⟨⟨after, hSplit⟩, hFirst⟩, rfl⟩
    have hn : before.length ≤ s.length := by
      rw [hSplit, List.length_append, List.length_append]
      omega
    refine ⟨by omega, (prefix_drop_iff hn).mpr ⟨before, after, hSplit, rfl⟩, fun m hm hThere => ?_⟩
    obtain ⟨earlier, rest, hOther, rfl⟩ := (prefix_drop_iff (by omega)).mp hThere
    have hLe := hFirst earlier rest hOther
    omega

/-- The first position of a character, from a given position on. -/
def findFrom (c : α) (pos : Nat) (s : List α) : Option Nat :=
  ((s.drop pos).findIdx? (· = c)).map (· + pos)

/-- What stands before that character, or before the end. -/
theorem take_findFrom (c : α) (pos : Nat) (s : List α) :
    (s.drop pos).take ((findFrom c pos s).getD s.length - pos) =
      (s.drop pos).takeWhile (· ≠ c) := by
  have hSame : (fun x : α => !decide (x ≠ c)) = fun x => decide (x = c) := by
    funext x
    simp
  rw [List.takeWhile_eq_take_findIdx_not, hSame, List.findIdx_eq_getD_findIdx?, findFrom]
  cases (s.drop pos).findIdx? (· = c) with
  | none => rw [Option.map_none, Option.getD_none, Option.getD_none, List.length_drop]
  | some n => rw [Option.map_some, Option.getD_some, Option.getD_some, Nat.add_sub_cancel]

/-- A text without the character, up to the character or the end. -/
theorem takeWhile_append_closing {c : α} {text rest : List α} (hText : c ∉ text)
    (hRest : rest = [] ∨ ∃ more, rest = c :: more) : (text ++ rest).takeWhile (· ≠ c) = text := by
  have hAll : ∀ x ∈ text, decide (x ≠ c) = true := fun x hx =>
    decide_eq_true fun hSame => hText (hSame ▸ hx)
  rw [List.takeWhile_append_of_pos hAll]
  rcases hRest with rfl | ⟨more, rfl⟩
  · rw [List.takeWhile_nil, List.append_nil]
  · simp

/-- The text between the first occurrence of an opening and the next closing character, or the
end of the text. -/
def Between (opening : List α) (closing : α) (s text : List α) : Prop :=
  ∃ before rest, FirstAt opening s before ∧ s = before ++ opening ++ text ++ rest ∧
    closing ∉ text ∧ (rest = [] ∨ ∃ more, rest = closing :: more)

/-- **What is cut out**, in terms of positions. -/
theorem between_iff {opening : List α} {closing : α} {s text : List α} :
    Between opening closing s text ↔ ∃ n, find opening s = some n ∧
      text = (s.drop (n + opening.length)).takeWhile (· ≠ closing) := by
  constructor
  · rintro ⟨before, rest, hFirst, hSplit, hText, hRest⟩
    refine ⟨before.length, find_eq_some_iff.mpr ⟨before, hFirst, rfl⟩, ?_⟩
    have hDrop : s.drop (before.length + opening.length) = text ++ rest := by
      rw [hSplit, ← List.length_append, List.append_assoc, List.drop_left]
    rw [hDrop, takeWhile_append_closing hText hRest]
  · rintro ⟨n, hFind, rfl⟩
    obtain ⟨before, hFirst, rfl⟩ := find_eq_some_iff.mp hFind
    obtain ⟨after, hSplit⟩ := hFirst.1
    have hDrop : s.drop (before.length + opening.length) = after := by
      rw [hSplit, ← List.length_append, List.drop_left]
    refine ⟨before, after.dropWhile (· ≠ closing), hFirst, ?_, ?_, ?_⟩
    · rw [hDrop, List.append_assoc, List.takeWhile_append_dropWhile, hSplit]
    · rw [hDrop]
      intro hMem
      simpa using List.mem_takeWhile_imp hMem
    · cases hRest : after.dropWhile (· ≠ closing) with
      | nil => exact .inl rfl
      | cons x more =>
        have hHead := List.head_dropWhile_not (fun x => decide (x ≠ closing)) (l := after)
          (by rw [hRest]; exact List.cons_ne_nil _ _)
        simp only [hRest, List.head_cons, decide_eq_false_iff_not, not_not] at hHead
        exact .inr ⟨more, by rw [hHead]⟩

end Substring
