import Mathlib.Data.List.Nodup
import Mathlib.Tactic.Common

/-!
# InsertionSet — sets that remember the order of insertion

The elements in the order in which they came, each of them once: that none is
there twice is a field. Inserting an element that is there changes nothing.
-/

/-- A finite set with the order in which its elements came. -/
structure InsertionSet (α : Type) where
  elements : List α
  nodup : elements.Nodup

namespace InsertionSet

variable {α : Type}

instance : Membership α (InsertionSet α) := ⟨fun s x => x ∈ s.elements⟩

theorem mem_def {s : InsertionSet α} {x : α} : x ∈ s ↔ x ∈ s.elements := Iff.rfl

variable [DecidableEq α]

/-- A new element comes last. -/
def insert (s : InsertionSet α) (x : α) : InsertionSet α :=
  if h : x ∈ s.elements then s
  else ⟨s.elements ++ [x], List.concat_eq_append ▸ s.nodup.concat h⟩

/-- The set without an element. -/
def erase (s : InsertionSet α) (x : α) : InsertionSet α :=
  ⟨s.elements.filter (· ≠ x), s.nodup.filter _⟩

theorem elements_insert (s : InsertionSet α) (x : α) :
    (s.insert x).elements = if x ∈ s.elements then s.elements else s.elements ++ [x] := by
  unfold insert
  split <;> rfl

theorem mem_insert {s : InsertionSet α} {x y : α} : y ∈ s.insert x ↔ y = x ∨ y ∈ s := by
  rw [mem_def, elements_insert, mem_def]
  split_ifs with h
  · exact ⟨.inr, fun hy => hy.elim (fun hSame => hSame ▸ h) id⟩
  · rw [List.mem_append, List.mem_singleton, or_comm]

theorem mem_erase {s : InsertionSet α} {x y : α} : y ∈ s.erase x ↔ y ≠ x ∧ y ∈ s := by
  rw [mem_def, erase, List.mem_filter, decide_eq_true_iff, and_comm, mem_def]

/-! ## The other elements

An operation on one element keeps the others, in their order. -/

theorem others_insert (s : InsertionSet α) (x : α) :
    (s.insert x).elements.filter (· ≠ x) = s.elements.filter (· ≠ x) := by
  rw [elements_insert]
  split_ifs with h
  · rfl
  · simp

theorem others_erase (s : InsertionSet α) (x : α) :
    (s.erase x).elements.filter (· ≠ x) = s.elements.filter (· ≠ x) := by
  rw [erase, List.filter_filter]
  refine List.filter_congr fun y _ => ?_
  simp

end InsertionSet
