import Giblet.Lib.IA32
import Mathlib.Tactic.SplitIfs

/-!
# IA32 — prefixes that override a size

In 32-bit mode the prefix `66` makes operands 16 bits wide, and the prefix
`67` addresses: full-size immediates and code offsets shrink under the one,
ModRM addressing and absolute addresses follow other rules under the other.
`lengthInForce` measures an instruction with the prefixes it has; without an
override it is `length` (`lengthInForce_eq_length`).

Whoever measures with 32-bit addresses is off by `addressingSize_sub`.
-/

namespace IA32

/-- The sizes that the prefixes put in force. -/
structure Sizes where
  operand16 : Bool
  address16 : Bool
  deriving DecidableEq, Repr

/-- One of the prefixes is this byte. -/
def hasPrefix (code : Nat → UInt8) (b : UInt8) : Bool :=
  (List.range (prefixes code)).any fun k => code k == b

def sizesOf (code : Nat → UInt8) : Sizes where
  operand16 := hasPrefix code 0x66
  address16 := hasPrefix code 0x67

/-! ## The format -/

/-- The field's bytes. -/
def Field.sizeIn (sizes : Sizes) : Field → Nat
  | .none => 0
  | .ib | .cb => 1
  | .iw => 2
  | .iwib => 3
  | .id | .cd => if sizes.operand16 then 2 else 4
  -- a selector behind the offset
  | .cp => if sizes.operand16 then 4 else 6
  | .moffs => if sizes.address16 then 2 else 4

/-- Do the sizes in force change the field's size? -/
def Field.shrinks (sizes : Sizes) : Field → Bool
  | .id | .cd | .cp => sizes.operand16
  | .moffs => sizes.address16
  | _ => false

/-- The bytes of displacement that ModRM asks for with 16-bit addresses. -/
def displacementSize16 (modRM : UInt8) : Nat :=
  if mode modRM = 1 then 1
  else if mode modRM = 2 then 2
  -- without a base register: an absolute address
  else if mode modRM = 0 ∧ rm modRM = 6 then 2
  else 0

/-- ModRM, SIB and displacement together; there is no SIB byte with 16-bit addresses. -/
def addressingSizeIn (sizes : Sizes) (modRM sib : UInt8) : Nat :=
  if sizes.address16 then 1 + displacementSize16 modRM else addressingSize modRM sib

/-- The bytes after the opcode, when they have this format. -/
def Form.sizeIn (sizes : Sizes) (form : Form) (modRM sib : UInt8) : Nat :=
  (if form.modRM then addressingSizeIn sizes modRM sib else 0) + form.field.sizeIn sizes

/-- The bytes of the opcode, and the format of what follows. -/
def opcodeForm (code : Nat → UInt8) : Option (Nat × Form) :=
  if code 0 = 0x0f then (twoByteForm (code 1)).map fun form => (2, form)
  else (oneByteForm (code 0) (digit (code 1))).map fun form => (1, form)

/-- The length of the instruction the code starts with, with its prefixes in force. -/
def lengthInForce (code : Nat → UInt8) : Option Nat :=
  (opcodeForm fun k => code (prefixes code + k)).map fun found =>
    prefixes code + (found.1 + found.2.sizeIn (sizesOf code) (code (prefixes code + found.1))
      (code (prefixes code + (found.1 + 1))))

/-! ## Without an override -/

theorem opcodeLength_eq_opcodeForm (code : Nat → UInt8) :
    opcodeLength code = (opcodeForm code).map fun found =>
      found.1 + found.2.size (code found.1) (code (found.1 + 1)) := by
  unfold opcodeLength opcodeForm
  split <;> rw [Option.map_map] <;> rfl

theorem Field.sizeIn_eq_iff (sizes : Sizes) (field : Field) :
    field.sizeIn sizes = field.size ↔ field.shrinks sizes = false := by
  obtain ⟨operand16, address16⟩ := sizes
  cases field <;> cases operand16 <;> cases address16 <;> decide

variable {code : Nat → UInt8}

theorem sizesOf_eq (h : ¬∃ k < prefixes code, overridesSize (code k) = true) :
    sizesOf code = ⟨false, false⟩ := by
  have hnone : ∀ b, overridesSize b = true → hasPrefix code b = false := by
    intro b hb
    rw [hasPrefix, List.any_eq_false]
    intro k hk hsame
    rw [beq_iff_eq] at hsame
    exact h ⟨k, List.mem_range.mp hk, by rw [hsame]; exact hb⟩
  rw [sizesOf, hnone 0x66 rfl, hnone 0x67 rfl]

/-- Without an override the prefixes are only counted. -/
theorem lengthInForce_eq_length (h : ¬∃ k < prefixes code, overridesSize (code k) = true) :
    lengthInForce code = length code := by
  have hfield : ∀ field : Field, field.sizeIn ⟨false, false⟩ = field.size := fun field =>
    (Field.sizeIn_eq_iff _ field).mpr (by cases field <;> rfl)
  rw [lengthInForce, length, if_neg h, opcodeLength_eq_opcodeForm, Option.map_map, sizesOf_eq h]
  congr 1
  funext found
  show _ = prefixes code + (found.1 + Form.size ..)
  rw [Form.sizeIn, Form.size, hfield]
  rfl

/-! ## Measuring with the wrong addresses -/

/-- How many bytes 32-bit addressing takes more than 16-bit addressing, by ModRM and SIB. -/
def addressingExcess (modRM sib : UInt8) : Int :=
  if mode modRM = 3 then 0
  else if mode modRM = 2 then if rm modRM = 4 then 3 else 2
  else if mode modRM = 1 then if rm modRM = 4 then 1 else 0
  else if rm modRM = 4 then if rm sib = 5 then 5 else 1
  else if rm modRM = 5 then 4
  else if rm modRM = 6 then -2
  else 0

/-- The forms of addressing that the two sets of rules tell apart. -/
theorem addressing_cases (modRM sib : UInt8) :
    (mode modRM = 0 ∧ rm modRM = 4 ∧ rm sib = 5) ∨ (mode modRM = 0 ∧ rm modRM = 4 ∧ rm sib ≠ 5) ∨
      (mode modRM = 0 ∧ rm modRM = 5) ∨ (mode modRM = 0 ∧ rm modRM = 6) ∨
      (mode modRM = 0 ∧ rm modRM ≠ 4 ∧ rm modRM ≠ 5 ∧ rm modRM ≠ 6) ∨
      (mode modRM = 1 ∧ rm modRM = 4) ∨ (mode modRM = 1 ∧ rm modRM ≠ 4) ∨
      (mode modRM = 2 ∧ rm modRM = 4) ∨ (mode modRM = 2 ∧ rm modRM ≠ 4) ∨ mode modRM = 3 := by
  rcases mode_cases modRM with hmode | hmode | hmode | hmode
  · by_cases hfour : rm modRM = 4
    · by_cases hbase : rm sib = 5 <;> simp [hmode, hfour, hbase]
    · by_cases hfive : rm modRM = 5
      · simp [hmode, hfive]
      · by_cases hsix : rm modRM = 6 <;> simp [hmode, hfour, hfive, hsix]
  · by_cases hfour : rm modRM = 4 <;> simp [hmode, hfour]
  · by_cases hfour : rm modRM = 4 <;> simp [hmode, hfour]
  · simp [hmode]

theorem addressingSize_sub (modRM sib : UInt8) :
    (addressingSize modRM sib : Int) - (1 + displacementSize16 modRM : Nat) =
      addressingExcess modRM sib := by
  unfold addressingSize displacementSize displacementSize16 addressingExcess hasSIB
  rcases addressing_cases modRM sib with h | h | h | h | h | h | h | h | h | h <;> simp [h]

/-- The rules agree on registers and on plain bases, with or without a byte of displacement. -/
theorem addressingExcess_eq_zero_iff (modRM sib : UInt8) :
    addressingExcess modRM sib = 0 ↔
      mode modRM = 3 ∨ (mode modRM = 1 ∧ rm modRM ≠ 4) ∨
        (mode modRM = 0 ∧ rm modRM ≠ 4 ∧ rm modRM ≠ 5 ∧ rm modRM ≠ 6) := by
  unfold addressingExcess
  rcases addressing_cases modRM sib with h | h | h | h | h | h | h | h | h | h <;> simp [h]

/-- What the other values of the excess stand for. -/
theorem addressingExcess_cases (modRM sib : UInt8) :
    (addressingExcess modRM sib = -2 ↔ mode modRM = 0 ∧ rm modRM = 6) ∧
      (addressingExcess modRM sib = 1 ↔
        rm modRM = 4 ∧ (mode modRM = 1 ∨ (mode modRM = 0 ∧ rm sib ≠ 5))) ∧
      (addressingExcess modRM sib = 3 ↔ rm modRM = 4 ∧ mode modRM = 2) ∧
      (addressingExcess modRM sib = -2 ∨ 0 ≤ addressingExcess modRM sib) := by
  unfold addressingExcess
  rcases addressing_cases modRM sib with h | h | h | h | h | h | h | h | h | h <;> simp [h]

end IA32
