import Giblet.CodeHook.Length

/-!
# CodeHook — size-changing prefixes

The prefixes `66h` and `67h` are collected like the others, and nothing
that takes a size looks at them: operands of full size have four bytes, and
ModRM is read by the rules for 32-bit addresses. An instruction with such a
prefix is measured right if and only if the prefix changes none of its
sizes, or two errors cancel (`getSize_eq_lengthInForce_iff`).
-/

namespace Giblet.CodeHook

open ByteStream Effect Instruction

variable {build : Build} {memory : Memory} {it it' : OpcodeIterator} {row : OpcodeInfo}
  {i : Instruction}

/-! ## The rows -/

/-- The rows with ModRM have an immediate of full size, of one byte, or none. -/
theorem desc_opcodeRows : ∀ row ∈ opcodeRows, row.postbyte ≠ PO.none →
    row.desc = .none ∨ row.desc = .ib ∨ row.desc = .id := by
  decide +kernel

/-- What the miscoded rows read for an operand, and what the instruction has. -/
theorem miscoded_opcodeRows : ∀ row ∈ opcodeRows, ∀ d : Fin 8,
    (row.opPrefix = 0 → row.Accepts (UInt8.ofNat d)) →
    miscoded row.firstByte (UInt8.ofNat d) = true → row.postbyte ≠ PO.none ∧
      ((row.firstByte = 0x81 ∧ row.desc = .id ∧ row.codeBytes = 1) ∨
        (row.firstByte ≠ 0x81 ∧ row.desc = .none ∧ (row.codeBytes = 1 ∨ row.codeBytes = 4))) := by
  decide +kernel

/-! ## When the sizes do not matter -/

/-- The decoder measures right: an instruction by the sizes in force, its first opcode byte, its
format, ModRM and SIB. -/
def MeasuresRight (sizes : IA32.Sizes) (opcode : UInt8) (form : IA32.Form) (modRM sib : UInt8) :
    Prop :=
  if miscoded opcode (IA32.digit modRM) then
    -- the immediate bytes that are not read lie where bytes of addressing are read in excess
    opcode = 0x81 ∧ sizes.address16 = true ∧ IA32.rm modRM = 4 ∧
      if sizes.operand16 then
        IA32.mode modRM = 1 ∨ (IA32.mode modRM = 0 ∧ IA32.rm sib ≠ 5)
      else IA32.mode modRM = 2
  else if form.modRM && sizes.address16 then
    -- a register, or a base whose two encodings are alike
    (form.field.shrinks sizes = false ∧
      (IA32.mode modRM = 3 ∨ (IA32.mode modRM = 1 ∧ IA32.rm modRM ≠ 4) ∨
        (IA32.mode modRM = 0 ∧ IA32.rm modRM ≠ 4 ∧ IA32.rm modRM ≠ 5 ∧ IA32.rm modRM ≠ 6))) ∨
    -- two bytes of address are missed, and two of the immediate are too many
    (form.field = .id ∧ sizes.operand16 = true ∧ IA32.mode modRM = 0 ∧ IA32.rm modRM = 6)
  else form.field.shrinks sizes = false

instance (sizes : IA32.Sizes) (opcode : UInt8) (form : IA32.Form) (modRM sib : UInt8) :
    Decidable (MeasuresRight sizes opcode form modRM sib) :=
  inferInstanceAs (Decidable (ite _ _ _))

/-- The prefixes of the code change no size that the decoder measures. -/
def SizesHonoured (code : Nat → UInt8) : Prop :=
  ∃ found, IA32.opcodeForm (fun k => code (IA32.prefixes code + k)) = some found ∧
    MeasuresRight (IA32.sizesOf code) (code (IA32.prefixes code)) found.2
      (code (IA32.prefixes code + found.1)) (code (IA32.prefixes code + (found.1 + 1)))

/-- A field beside addressing that is measured by the wrong rules. -/
theorem sizeIn_address16 (operand16 : Bool) (field : IA32.Field) (modRM sib : UInt8) (n : Nat) :
    IA32.Form.sizeIn ⟨operand16, true⟩ ⟨true, field⟩ modRM sib =
        IA32.addressingSize modRM sib + n ↔
      IA32.addressingExcess modRM sib = (field.sizeIn ⟨operand16, true⟩ : Int) - n := by
  have hexcess := IA32.addressingSize_sub modRM sib
  have hsize : IA32.Form.sizeIn ⟨operand16, true⟩ ⟨true, field⟩ modRM sib =
      1 + IA32.displacementSize16 modRM + field.sizeIn ⟨operand16, true⟩ := rfl
  rw [hsize]
  omega

/-- The rows that read another operand than the instruction has. -/
theorem sizeIn_miscoded_iff (sizes : IA32.Sizes) {field : IA32.Field} {opcode : UInt8}
    (modRM sib : UInt8) {n : Nat}
    (hrow : (opcode = 0x81 ∧ field = .id ∧ n = 1) ∨
      (opcode ≠ 0x81 ∧ field = .none ∧ (n = 1 ∨ n = 4))) :
    IA32.Form.sizeIn sizes ⟨true, field⟩ modRM sib = IA32.addressingSize modRM sib + n ↔
      opcode = 0x81 ∧ sizes.address16 = true ∧ IA32.rm modRM = 4 ∧
        if sizes.operand16 then
          IA32.mode modRM = 1 ∨ (IA32.mode modRM = 0 ∧ IA32.rm sib ≠ 5)
        else IA32.mode modRM = 2 := by
  obtain ⟨_, hone, hthree, hrange⟩ := IA32.addressingExcess_cases modRM sib
  obtain ⟨operand16, address16⟩ := sizes
  rcases hrow with ⟨rfl, rfl, rfl⟩ | ⟨hother, rfl, hn⟩
  -- three bytes are missing, or one
  · cases address16
    · have hsize : IA32.Form.sizeIn ⟨operand16, false⟩ ⟨true, .id⟩ modRM sib =
          IA32.addressingSize modRM sib + (if operand16 then 2 else 4) := rfl
      rw [hsize]
      cases operand16 <;> simp
    · rw [sizeIn_address16]
      cases operand16
      · show IA32.addressingExcess modRM sib = 4 - 1 ↔ _
        rw [show (4 : Int) - 1 = 3 from rfl, hthree]
        simp
      · show IA32.addressingExcess modRM sib = 2 - 1 ↔ _
        rw [show (2 : Int) - 1 = 1 from rfl, hone]
        simp
  -- one byte is too many, or four; addressing never makes up for them
  · refine ⟨fun hsize => ?_, fun h => absurd h.1 hother⟩
    cases address16
    · have hsame : IA32.Form.sizeIn ⟨operand16, false⟩ ⟨true, .none⟩ modRM sib =
          IA32.addressingSize modRM sib := rfl
      omega
    · rw [sizeIn_address16] at hsize
      have hnone : IA32.Field.none.sizeIn ⟨operand16, true⟩ = 0 := rfl
      rw [hnone] at hsize
      omega

/-- The other rows with ModRM, under 16-bit addresses. -/
theorem sizeIn_address16_iff (operand16 : Bool) {field : IA32.Field} (modRM sib : UInt8)
    (hfield : field = .none ∨ field = .ib ∨ field = .id) :
    IA32.Form.sizeIn ⟨operand16, true⟩ ⟨true, field⟩ modRM sib =
        IA32.addressingSize modRM sib + field.size ↔
      (field.shrinks ⟨operand16, true⟩ = false ∧
        (IA32.mode modRM = 3 ∨ (IA32.mode modRM = 1 ∧ IA32.rm modRM ≠ 4) ∨
          (IA32.mode modRM = 0 ∧ IA32.rm modRM ≠ 4 ∧ IA32.rm modRM ≠ 5 ∧ IA32.rm modRM ≠ 6))) ∨
      (field = .id ∧ operand16 = true ∧ IA32.mode modRM = 0 ∧ IA32.rm modRM = 6) := by
  have hzero := IA32.addressingExcess_eq_zero_iff modRM sib
  obtain ⟨hminus, _, _, _⟩ := IA32.addressingExcess_cases modRM sib
  rw [sizeIn_address16, ← hzero, ← hminus]
  cases hshrinks : field.shrinks ⟨operand16, true⟩ with
  | false =>
    have hsame := (IA32.Field.sizeIn_eq_iff ⟨operand16, true⟩ field).mpr hshrinks
    have hnot : ¬(field = .id ∧ operand16 = true ∧ IA32.addressingExcess modRM sib = -2) := by
      rintro ⟨rfl, rfl, _⟩
      cases hshrinks
    rw [hsame, Int.sub_self]
    exact ⟨fun h => .inl ⟨rfl, h⟩, fun h => (h.resolve_right hnot).2⟩
  | true =>
    -- only an immediate of full size shrinks, by two bytes
    rcases hfield with rfl | rfl | rfl
    · cases hshrinks
    · cases hshrinks
    · obtain rfl : operand16 = true := hshrinks
      show IA32.addressingExcess modRM sib = 2 - 4 ↔ _
      rw [show (2 : Int) - 4 = -2 from rfl]
      simp

/-- The decoder takes a row's operands and 32-bit addressing for the format's field and
addressing. -/
theorem sizeIn_eq_iff (sizes : IA32.Sizes) {field : IA32.Field} {opcode modRM : UInt8}
    (sib : UInt8) {hasModRM : Bool} {n : Nat}
    (hfield : miscoded opcode (IA32.digit modRM) = false → n = field.size)
    (hmiscoded : miscoded opcode (IA32.digit modRM) = true → hasModRM = true ∧
      ((opcode = 0x81 ∧ field = .id ∧ n = 1) ∨
        (opcode ≠ 0x81 ∧ field = .none ∧ (n = 1 ∨ n = 4))))
    (hmodRM : hasModRM = true → field = .none ∨ field = .ib ∨ field = .id) :
    IA32.Form.sizeIn sizes ⟨hasModRM, field⟩ modRM sib =
        (if hasModRM then IA32.addressingSize modRM sib else 0) + n ↔
      MeasuresRight sizes opcode ⟨hasModRM, field⟩ modRM sib := by
  unfold MeasuresRight
  by_cases hmis : miscoded opcode (IA32.digit modRM) = true
  · obtain ⟨rfl, hrow⟩ := hmiscoded hmis
    rw [if_pos hmis, if_pos rfl]
    exact sizeIn_miscoded_iff sizes modRM sib hrow
  · rw [if_neg hmis, hfield (Bool.eq_false_iff.mpr hmis)]
    obtain ⟨operand16, address16⟩ := sizes
    have hsame := IA32.Field.sizeIn_eq_iff ⟨operand16, address16⟩ field
    cases hasModRM
    · rw [if_neg (by simp), if_neg (by simp), ← hsame]
      show 0 + _ = 0 + _ ↔ _
      rw [Nat.zero_add, Nat.zero_add]
    · cases address16
      · rw [if_pos rfl, if_neg (by simp), ← hsame]
        show IA32.addressingSize modRM sib + _ = IA32.addressingSize modRM sib + _ ↔ _
        exact Nat.add_left_cancel_iff
      · rw [if_pos rfl, if_pos (by simp)]
        exact sizeIn_address16_iff operand16 modRM sib (hmodRM rfl)

/-! ## The decoder against the format -/

theorem Decoded.firstByte_eq (h : Decoded memory it row i it') :
    it.at memory i.prefixBytes.length = row.firstByte := by
  rcases h.opcode_cases with ⟨hpre, _, _, hfirst⟩ | ⟨hpre, _, hfirst, _⟩
  · rw [OpcodeInfo.firstByte, if_pos hpre, hfirst]
  · rw [OpcodeInfo.firstByte, if_neg (by rw [hpre]; decide), hfirst, hpre]

/-- The condition, for the row that was found. -/
theorem Decoded.sizesHonoured_iff (h : Decoded memory it row i it') :
    SizesHonoured (it.at memory) ↔
      MeasuresRight (IA32.sizesOf (it.at memory)) row.firstByte
        ⟨row.postbyte != PO.none, row.desc⟩
        (it.at memory (i.prefixBytes.length + (opcodeBytes row).length))
        (it.at memory (i.prefixBytes.length + ((opcodeBytes row).length + 1))) := by
  unfold SizesHonoured
  rw [h.prefixes_eq, h.opcodeForm_eq, h.firstByte_eq]
  constructor
  · rintro ⟨found, hfound, hright⟩
    obtain rfl := Option.some.inj hfound
    exact hright
  · intro hright
    exact ⟨_, rfl, hright⟩

/-- **Size-changing prefixes are honoured exactly when they change nothing that is measured.** -/
theorem getSize_eq_lengthInForce_iff (h : decode build memory {} it = .ok (true, i, it')) :
    IA32.lengthInForce (it.at memory) = some i.getSize ↔ SizesHonoured (it.at memory) := by
  obtain ⟨row, hd⟩ := decoded_of_decode h
  have hdigit := IA32.digit_lt
    (it.at memory (i.prefixBytes.length + (opcodeBytes row).length))
  have haccepts : row.Accepts
      (IA32.digit (it.at memory (i.prefixBytes.length + (opcodeBytes row).length))) := by
    unfold OpcodeIterator.at
    rw [← Nat.add_assoc]
    exact hd.accepts
  have hright := codeBytes_eq_desc_iff_of_row row hd.mem ⟨_, hdigit⟩
  have hwrong := miscoded_opcodeRows row hd.mem ⟨_, hdigit⟩
  rw [UInt8.ofNat_toNat] at hright hwrong
  -- the two measures differ in addressing and in the operand
  have haddressing := hd.addressing
  have hiff := sizeIn_eq_iff (IA32.sizesOf (it.at memory))
    (it.at memory (i.prefixBytes.length + ((opcodeBytes row).length + 1)))
    (fun hmis => (hright fun _ => haccepts).mpr hmis)
    (fun hmis => by
      obtain ⟨hsome, hrow⟩ := hwrong (fun _ => haccepts) hmis
      exact ⟨bne_iff_ne.mpr hsome, hrow⟩)
    (fun hmodRM => desc_opcodeRows row hd.mem (bne_iff_ne.mp hmodRM))
  rw [hd.sizesHonoured_iff, ← hiff, IA32.lengthInForce, hd.prefixes_eq, hd.opcodeForm_eq,
    Option.map_some, Option.some_inj, hd.getSize_eq, hd.length_bytes, haddressing]
  have hsame : (if row.postbyte = PO.none then 0
      else IA32.addressingSize
        (memory (it.pointer + i.prefixBytes.length + (opcodeBytes row).length))
        (memory (it.pointer + i.prefixBytes.length + (opcodeBytes row).length + 1))) =
      if row.postbyte != PO.none then
        IA32.addressingSize (it.at memory (i.prefixBytes.length + (opcodeBytes row).length))
          (it.at memory (i.prefixBytes.length + ((opcodeBytes row).length + 1)))
      else 0 := by
    unfold OpcodeIterator.at
    simp only [bne_iff_ne, ne_eq, ite_not, Nat.add_assoc]
  rw [hsame]
  dsimp only
  omega

/-- `MOV AX,CX`: nothing that is measured has the operands' size. -/
def movAxCx : Memory := holding 0x401000 [0x66, 0x8b, 0xc1]

theorem lengthInForce_movAxCx : IA32.lengthInForce (codeStart.at movAxCx) = some 3 :=
  (@getSize_eq_lengthInForce_iff .debug movAxCx codeStart _ _ rfl).mpr
    ⟨_, rfl, by decide +kernel⟩

/-- `MOV AX,1234h` and `RET`. -/
def movAxImm16 : Memory := holding 0x401000 [0x66, 0xb8, 0x34, 0x12, 0xc3, 0x90]

/-- The decoder takes six bytes for an instruction of four. -/
theorem getSize_ne_lengthInForce_movAxImm16 :
    ∃ i it', decode .release movAxImm16 {} codeStart = .ok (true, i, it') ∧
      IA32.hasPrefix (codeStart.at movAxImm16) 0x66 = true ∧
      IA32.lengthInForce (codeStart.at movAxImm16) = some 4 ∧ i.getSize = 6 := by
  refine ⟨_, _, rfl, ?_, ?_, ?_⟩ <;> decide +kernel

end Giblet.CodeHook
