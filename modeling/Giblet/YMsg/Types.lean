import Mathlib.Algebra.Group.Nat.Defs
import Mathlib.Data.List.Lex
import Mathlib.Order.Lattice

/-!
# YMsg — common types

Byte strings, the faults a C++ computation can end in, and the monad the
stateful code is written in. A fault keeps the state reached so far: the
server does not roll back what ran before a `throw`.
-/

namespace Giblet

/-- Bytes compare as unsigned numbers, the way `std::string` compares them. -/
instance byteOrder : LinearOrder UInt8 where
  le_refl := UInt8.le_refl
  le_trans _ _ _ := UInt8.le_trans
  lt_iff_le_not_ge _ _ := by
    rw [UInt8.lt_iff_toNat_lt, UInt8.le_iff_toNat_le, UInt8.le_iff_toNat_le]
    omega
  le_antisymm _ _ := UInt8.le_antisymm
  le_total := UInt8.le_total
  toDecidableLE := inferInstance
  toDecidableEq := inferInstance
  toDecidableLT := inferInstance

/-- A byte string (`std::vector<char>`, `std::string`). -/
abbrev Bytes := List UInt8

/-- The bytes of a string literal of the source (all of them are ASCII). -/
def ascii (s : String) : Bytes := s.toList.map fun c => UInt8.ofNat c.toNat

namespace YMsg

/-- A variable that may not have been assigned yet: the value it holds, and
whether some code put it there. -/
structure Cell (α : Type) where
  value : α
  assigned : Bool
  deriving DecidableEq, Repr

namespace Cell

variable {α β : Type}

/-- A variable without an initialiser; it holds whatever its memory held. -/
def unset (garbage : α) : Cell α := ⟨garbage, false⟩

/-- A variable after an assignment. -/
def of (value : α) : Cell α := ⟨value, true⟩

/-- What is computed from a variable is as reliable as the variable. -/
def map (f : α → β) (c : Cell α) : Cell β := ⟨f c.value, c.assigned⟩

@[simp] theorem assigned_of (value : α) : (of value).assigned = true := rfl

@[simp] theorem value_of (value : α) : (of value).value = value := rfl

@[simp] theorem assigned_map (f : α → β) (c : Cell α) : (c.map f).assigned = c.assigned := rfl

@[simp] theorem value_map (f : α → β) (c : Cell α) : (c.map f).value = f c.value := rfl

end Cell

/-- Reasons for which the C++ code has no defined behaviour. -/
inductive Undefined
  /-- A C string function was handed a null pointer. -/
  | nullPointer
  /-- A C string function read past the end of the receive buffer. -/
  | overread
  deriving DecidableEq, Repr

/-- How a computation can fail to return: a `std` exception, or undefined behaviour. -/
inductive Fault
  | runtimeError (what : String)
  | invalidArgument (what : String)
  | outOfRange (what : String)
  | undefined (why : Undefined)
  deriving DecidableEq, Repr

/-- A C++ exception, as opposed to undefined behaviour. -/
def Fault.Thrown : Fault → Prop
  | .undefined _ => False
  | _ => True

/-- A computation on the state `σ` that may end in a fault. -/
abbrev Action (σ α : Type) := EStateM Fault σ α

/-- An outcome short of undefined behaviour: a return, or an exception. -/
def Defined {σ α : Type} (r : EStateM.Result Fault σ α) : Prop :=
  ∀ why s, r ≠ .error (.undefined why) s

instance : DecidablePred Fault.Thrown
  | .undefined _ => .isFalse id
  | .runtimeError _ | .invalidArgument _ | .outOfRange _ => .isTrue trivial

theorem Defined.ok {σ α : Type} (a : α) (s : σ) : Defined (.ok a s) := by
  intro why s' h
  cases h

theorem defined_error_iff {σ α : Type} {e : Fault} {s : σ} :
    Defined (.error e s : EStateM.Result Fault σ α) ↔ e.Thrown := by
  cases e <;> simp [Defined, Fault.Thrown]

instance {σ α : Type} : DecidablePred fun r : EStateM.Result Fault σ α => Defined r
  | .ok a s => .isTrue (.ok a s)
  | .error _ _ => decidable_of_iff _ defined_error_iff.symm

end YMsg

end Giblet
