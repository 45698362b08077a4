import Mathlib.Data.List.Basic
import Mathlib.Tactic.Common

/-!
# Delimited — lists written as text

Pieces written one after the other with a delimiter between them, or after
each of them, and the readings that take such a text apart again. A writer
that puts a delimiter after every piece and removes the last one has written
`List.intercalate`; one that puts a delimiter before every further piece has,
too. Records without a delimiter can be told apart when each begins with a
head and has no other one (`cutBefore`).
-/

namespace Delimited

variable {α : Type}

/-- Pieces, each followed by the delimiter. -/
def terminated (x : α) (pieces : List (List α)) : List α := pieces.flatMap fun p => p ++ [x]

/-- Removing the last delimiter leaves those in between. -/
theorem dropLast_terminated (x : α) (pieces : List (List α)) :
    (terminated x pieces).dropLast = [x].intercalate pieces := by
  induction pieces with
  | nil => rfl
  | cons p rest ih =>
    cases rest with
    | nil => simp [terminated]
    | cons q rest =>
      rw [List.intercalate_cons_cons, ← ih]
      show (p ++ [x] ++ terminated x (q :: rest)).dropLast = _
      rw [List.dropLast_append_of_ne_nil (by simp [terminated]), List.append_assoc]

/-- A piece, and more pieces with the delimiter before them. -/
theorem append_flatMap_cons (x : α) (first : List α) (rest : List (List α)) :
    first ++ rest.flatMap (fun p => [x] ++ p) = [x].intercalate (first :: rest) := by
  induction rest generalizing first with
  | nil => simp
  | cons p rest ih =>
    rw [List.intercalate_cons_cons, ← ih p, List.flatMap_cons, List.append_assoc, List.append_assoc]

/-- A list, cut before every head: what precedes the first one, and the records. -/
def cutBefore (isHead : α → Bool) : List α → List α × List (List α)
  | [] => ([], [])
  | x :: rest =>
    if isHead x then ([], (x :: (cutBefore isHead rest).1) :: (cutBefore isHead rest).2)
    else (x :: (cutBefore isHead rest).1, (cutBefore isHead rest).2)

/-- What holds no head belongs to what is cut before. -/
theorem cutBefore_append {isHead : α → Bool} {opening : List α}
    (h : ∀ x ∈ opening, isHead x = false) (rest : List α) :
    cutBefore isHead (opening ++ rest) =
      (opening ++ (cutBefore isHead rest).1, (cutBefore isHead rest).2) := by
  induction opening with
  | nil => rfl
  | cons x opening ih =>
    obtain ⟨hFirst, hRest⟩ := List.forall_mem_cons.mp h
    rw [List.cons_append, cutBefore, hFirst, ih hRest]
    rfl

/-- A head, and no other one behind it. -/
def IsRecord (isHead : α → Bool) (record : List α) : Prop :=
  ∃ head tail, record = head :: tail ∧ isHead head = true ∧ ∀ x ∈ tail, isHead x = false

/-- **Records that were written one after the other** are read back. -/
theorem cutBefore_flatten {isHead : α → Bool} {opening : List α} {records : List (List α)}
    (hOpening : ∀ x ∈ opening, isHead x = false) (hRecords : ∀ r ∈ records, IsRecord isHead r) :
    cutBefore isHead (opening ++ records.flatten) = (opening, records) := by
  have hCut : cutBefore isHead records.flatten = ([], records) := by
    clear hOpening
    induction records with
    | nil => rfl
    | cons r rest ih =>
      obtain ⟨⟨head, tail, rfl, hHead, hTail⟩, hRest⟩ := List.forall_mem_cons.mp hRecords
      rw [List.flatten_cons, List.cons_append, cutBefore, hHead, cutBefore_append hTail, ih hRest,
        List.append_nil]
      rfl
  rw [cutBefore_append hOpening, hCut, List.append_nil]

variable [DecidableEq α]

/-- The lines of a text in which every line is terminated. -/
def lines (x : α) (text : List α) : List (List α) := (text.splitOn x).dropLast

theorem lines_terminated {x : α} {pieces : List (List α)} (h : ∀ p ∈ pieces, x ∉ p) :
    lines x (terminated x pieces) = pieces := by
  have hSplit : (terminated x pieces).splitOn x = pieces ++ [[]] := by
    induction pieces with
    | nil => rfl
    | cons p rest ih =>
      obtain ⟨hFirst, hRest⟩ := List.forall_mem_cons.mp h
      show (p ++ [x] ++ terminated x rest).splitOn x = _
      rw [List.append_assoc, List.singleton_append, List.splitOn_append_cons_self_of_not_mem hFirst,
        ih hRest]
      rfl
  rw [lines, hSplit, List.dropLast_concat]

/-- The pieces of a list; the empty text is the empty list. -/
def pieces (x : α) (text : List α) : List (List α) := if text = [] then [] else text.splitOn x

theorem pieces_intercalate {x : α} {ps : List (List α)} (h : ∀ p ∈ ps, p ≠ [] ∧ x ∉ p) :
    pieces x ([x].intercalate ps) = ps := by
  cases ps with
  | nil => rfl
  | cons p rest =>
    have hText : [x].intercalate (p :: rest) ≠ [] := by
      rw [← append_flatMap_cons]
      exact fun hNil => (h p List.mem_cons_self).1 (List.append_eq_nil_iff.mp hNil).1
    rw [pieces, if_neg hText]
    exact List.splitOn_intercalate x (fun q hq => (h q hq).2) (List.cons_ne_nil p rest)

/-- A text, cut at the first delimiter. -/
def cutAt (x : α) (text : List α) : List α × List α :=
  (text.takeWhile (· ≠ x), (text.dropWhile (· ≠ x)).tail)

theorem cutAt_append {x : α} {first : List α} (h : x ∉ first) (rest : List α) :
    cutAt x (first ++ x :: rest) = (first, rest) := by
  have hAll : ∀ y ∈ first, decide (y ≠ x) = true := fun y hy =>
    decide_eq_true fun hSame => h (hSame ▸ hy)
  unfold cutAt
  rw [List.takeWhile_append_of_pos hAll, List.dropWhile_append_of_pos hAll]
  simp

end Delimited
