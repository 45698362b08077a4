import Giblet.CodeHook.Decoded
import Giblet.Lib.Overrides

/-!
# CodeHook — the decoder's lengths

The text of every row agrees with the IA-32 opcode map
(`form_eq_desc`), but four rows do not read the operand that their own text
names: `IMUL r/m` (`F6 /5`, `F7 /5`) reads an immediate that the instruction
does not have, and `AND`/`XOR r/m32,imm32` (`81 /4`, `81 /6`) read one byte
of the four. These are exactly the instructions that are measured wrongly
(`getSize_eq_length_iff`).
-/

namespace Giblet.CodeHook

open ByteStream Effect Instruction

/-! ## The rows against the opcode map -/

/-- The format that the opcode map gives to the row's opcode. -/
def OpcodeInfo.form (row : OpcodeInfo) (digit : UInt8) : Option IA32.Form :=
  if row.opPrefix = 0 then IA32.oneByteForm row.opcode digit else IA32.twoByteForm row.opcode

/-- The row's text names the field that the opcode has, and the row asks for ModRM
when the opcode has it. -/
theorem form_eq_desc : ∀ row ∈ opcodeRows, ∀ d : Fin 8, row.Accepts (UInt8.ofNat d) →
    row.form (UInt8.ofNat d) = some ⟨row.postbyte != PO.none, row.desc⟩ := by
  decide +kernel

/-- The instructions whose rows read another operand than their text names, by the
first opcode byte and the digit in the byte after it. -/
def miscoded (opcode digit : UInt8) : Bool :=
  ((opcode == 0xf6 || opcode == 0xf7) && digit == 5) ||
  (opcode == 0x81 && (digit == 4 || digit == 6))

/-- The first opcode byte. -/
def OpcodeInfo.firstByte (row : OpcodeInfo) : UInt8 :=
  if row.opPrefix = 0 then row.opcode else row.opPrefix

theorem codeBytes_eq_desc_iff_of_row : ∀ row ∈ opcodeRows, ∀ d : Fin 8,
    (row.opPrefix = 0 → row.Accepts (UInt8.ofNat d)) →
    (row.codeBytes = row.desc.size ↔ miscoded row.firstByte (UInt8.ofNat d) = false) := by
  decide +kernel

/-- Only the escape byte stands before an opcode, and it is none itself. -/
theorem opPrefix_opcodeRows : ∀ row ∈ opcodeRows,
    row.opPrefix = 0 ∧ row.opcode ≠ 0x0f ∨ row.opPrefix = 0x0f := by
  decide +kernel

theorem isPrefixByte_eq (b : UInt8) : isPrefixByte b = IA32.isPrefix b := by
  unfold isPrefixByte IA32.isPrefix
  rw [Bool.eq_iff_iff]
  simp only [Bool.or_eq_true]
  tauto

/-! ## The decoded instruction against the format -/

variable {build : Build} {memory : Memory} {it it' : OpcodeIterator} {row : OpcodeInfo}
  {i : Instruction}

namespace Decoded

theorem prefixes_eq (h : Decoded memory it row i it') :
    IA32.prefixes (it.at memory) = i.prefixBytes.length := by
  -- the format counts up to fourteen, the decoder stores four
  have hcount : i.prefixBytes.length ≤ 4 := h.prefixCount
  apply IA32.prefixesUpTo_eq (by omega)
  · intro k hk
    have hmem := mem_slice memory it.pointer hk
    rw [h.prefixTakes.taken] at hmem
    rw [← isPrefixByte_eq]
    exact h.prefixes _ hmem
  · rw [← isPrefixByte_eq]
    exact h.notPrefix

/-- The bytes where the opcode is expected are the row's. -/
theorem opcode_cases (h : Decoded memory it row i it') :
    (row.opPrefix = 0 ∧ row.opcode ≠ 0x0f ∧ (opcodeBytes row).length = 1 ∧
      it.at memory i.prefixBytes.length = row.opcode) ∨
    (row.opPrefix = 0x0f ∧ (opcodeBytes row).length = 2 ∧
      it.at memory i.prefixBytes.length = 0x0f ∧
      it.at memory (i.prefixBytes.length + 1) = row.opcode) := by
  -- what decoding took for the opcode is what the row has
  have htaken := h.opcodeTakes.taken
  cases opPrefix_opcodeRows row h.mem with
  | inl hone =>
    have hbytes : opcodeBytes row = [row.opcode] := by
      rw [opcodeBytes, if_neg (not_not_intro hone.1), List.nil_append]
    rw [hbytes] at htaken
    exact Or.inl ⟨hone.1, hone.2, by rw [hbytes]; rfl, (List.cons.inj htaken).1⟩
  | inr htwo =>
    have hbytes : opcodeBytes row = [0x0f, row.opcode] := by
      rw [opcodeBytes, htwo]
      rfl
    rw [hbytes] at htaken
    obtain ⟨hfirst, hrest⟩ := List.cons.inj htaken
    exact Or.inr ⟨htwo, by rw [hbytes]; rfl, hfirst, (List.cons.inj hrest).1⟩

/-- The row's text and ModRM give the format the bytes after the opcode. -/
theorem form_size_eq (h : Decoded memory it row i it') :
    IA32.Form.size ⟨row.postbyte != PO.none, row.desc⟩
        (it.at memory (i.prefixBytes.length + (opcodeBytes row).length))
        (it.at memory (i.prefixBytes.length + (opcodeBytes row).length + 1)) =
      (postbyteBytes i.postbyte ++ appendOperand i.displacement).length + row.desc.size := by
  rw [h.addressing]
  unfold IA32.Form.size OpcodeIterator.at
  by_cases hnone : row.postbyte = PO.none
  · simp [hnone]
  · simp only [hnone, bne_iff_ne, ne_eq, not_false_eq_true, if_true, if_false, Nat.add_assoc]

/-- The opcode map finds the format that the row's text gives. -/
theorem form_eq (h : Decoded memory it row i it') :
    row.form (IA32.digit (it.at memory (i.prefixBytes.length + (opcodeBytes row).length))) =
      some ⟨row.postbyte != PO.none, row.desc⟩ := by
  have hform := form_eq_desc row h.mem ⟨_, IA32.digit_lt (memory (it.pointer +
    i.prefixBytes.length + (opcodeBytes row).length))⟩
  rw [UInt8.ofNat_toNat] at hform
  unfold OpcodeIterator.at
  rw [← Nat.add_assoc]
  exact hform h.accepts

/-- The opcode map finds the opcode and the format behind the prefixes. -/
theorem opcodeForm_eq (h : Decoded memory it row i it') :
    IA32.opcodeForm (fun k => it.at memory (i.prefixBytes.length + k)) =
      some ((opcodeBytes row).length, ⟨row.postbyte != PO.none, row.desc⟩) := by
  have hform := h.form_eq
  -- the map is asked with the row's own opcode
  rcases h.opcode_cases with ⟨hpre, hopcode, hlength, hfirst⟩ | ⟨hpre, hlength, hfirst, hsecond⟩
  · have hescape : it.at memory (i.prefixBytes.length + 0) ≠ 0x0f :=
      fun hescape => hopcode (hfirst.symm.trans hescape)
    rw [hlength] at hform ⊢
    rw [OpcodeInfo.form, if_pos hpre, ← hfirst] at hform
    rw [IA32.opcodeForm, if_neg hescape]
    exact congrArg (Option.map fun form => (1, form)) hform
  · have hescape : it.at memory (i.prefixBytes.length + 0) = 0x0f := hfirst
    rw [hlength] at hform ⊢
    rw [OpcodeInfo.form, if_neg (by rw [hpre]; decide), ← hsecond] at hform
    rw [IA32.opcodeForm, if_pos hescape]
    exact congrArg (Option.map fun form => (2, form)) hform

/-- The opcode map measures what the row's text says. -/
theorem opcodeLength_eq (h : Decoded memory it row i it') :
    IA32.opcodeLength (fun k => it.at memory (i.prefixBytes.length + k)) =
      some ((opcodeBytes row).length +
        ((postbyteBytes i.postbyte ++ appendOperand i.displacement).length + row.desc.size)) := by
  rw [← h.form_size_eq, IA32.opcodeLength_eq_opcodeForm, h.opcodeForm_eq]
  rfl

/-- Which instructions are miscoded shows in their first opcode byte and the next byte. -/
theorem codeBytes_eq_desc_iff (h : Decoded memory it row i it') :
    row.codeBytes = row.desc.size ↔
      miscoded (it.at memory i.prefixBytes.length)
        (IA32.digit (it.at memory (i.prefixBytes.length + 1))) = false := by
  have hiff := codeBytes_eq_desc_iff_of_row row h.mem
    ⟨_, IA32.digit_lt (it.at memory (i.prefixBytes.length + 1))⟩
  rw [UInt8.ofNat_toNat] at hiff
  have haccepts := h.accepts
  cases h.opcode_cases with
  | inl hone =>
    obtain ⟨hpre, _, hlength, hfirst⟩ := hone
    rw [hlength] at haccepts
    rw [OpcodeInfo.firstByte, if_pos hpre, ← hfirst] at hiff
    exact hiff fun _ => haccepts
  -- a two-byte opcode is told by its escape byte, which no miscoded row has
  | inr htwo =>
    obtain ⟨hpre, _, hfirst, _⟩ := htwo
    have hsome : row.opPrefix ≠ 0 := by rw [hpre]; decide
    rw [OpcodeInfo.firstByte, if_neg hsome] at hiff
    rw [hfirst, ← hpre]
    exact hiff fun hzero => absurd hzero hsome

end Decoded

/-- The decoder measures an instruction as the format prescribes, unless it is one of
the miscoded ones. -/
theorem getSize_eq_length_iff
    (h : decode build memory {} it = .ok (true, i, it'))
    (hsize : ∀ k < IA32.prefixes (it.at memory), IA32.overridesSize (it.at memory k) = false) :
    IA32.length (it.at memory) = some i.getSize ↔
      miscoded (it.at memory (IA32.prefixes (it.at memory)))
        (IA32.digit (it.at memory (IA32.prefixes (it.at memory) + 1))) = false := by
  obtain ⟨row, hd⟩ := decoded_of_decode h
  have hnone : ¬∃ k < IA32.prefixes (it.at memory), IA32.overridesSize (it.at memory k) = true := by
    rintro ⟨k, hk, hover⟩
    rw [hsize k hk] at hover
    cases hover
  have hiff : IA32.length (it.at memory) = some i.getSize ↔ row.codeBytes = row.desc.size := by
    rw [IA32.length, if_neg hnone, hd.prefixes_eq, hd.opcodeLength_eq, hd.getSize_eq,
      hd.length_bytes, Option.map_some, Option.some_inj]
    omega
  rw [hiff, hd.prefixes_eq]
  exact hd.codeBytes_eq_desc_iff

/-- `MOV EAX,[ESP+16]`. -/
def movEspDisp : Memory := holding 0x401000 [0x8b, 0x44, 0x24, 0x10]

theorem length_movEspDisp : IA32.length (codeStart.at movEspDisp) = some 4 :=
  (@getSize_eq_length_iff .debug movEspDisp codeStart _ _ rfl (by decide +kernel)).mpr
    (by decide +kernel)

/-- `AND EAX,12345678h`, in the form that any register can have. -/
def andImm32 : Memory := holding 0x401000 [0x81, 0xe0, 0x78, 0x56, 0x34, 0x12]

/-- The decoder takes three bytes for an instruction of six. -/
theorem getSize_ne_length_andImm32 :
    ∃ i it', decode .release andImm32 {} codeStart = .ok (true, i, it') ∧
      (∀ k < IA32.prefixes (codeStart.at andImm32),
        IA32.overridesSize (codeStart.at andImm32 k) = false) ∧
      IA32.length (codeStart.at andImm32) = some 6 ∧ i.getSize = 3 := by
  refine ⟨_, _, rfl, ?_, ?_, ?_⟩ <;> decide +kernel

end Giblet.CodeHook
