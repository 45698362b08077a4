import Giblet.CodeHook.Length
import Giblet.CodeHook.Prefixes

/-!
# CodeHook — how a decoding can end

`Decode` written out: `decode_of_row` gives its result for any instruction
object it is called on, whatever the object held before, and
`decode_of_none` the result without a row. Between them they say when an
assertion fails: the rows of `IMUL r/m` (`F6 /5`, `F7 /5`) name a register
and have an operand in ModRM, which `ProcessOperand` asserts against; no
other assertion of the decoder can fail (`noAssertionFails_iff`).
-/

namespace Giblet.CodeHook

open ByteStream Effect Instruction

variable {build : Build} {memory : Memory} {it it' it₁ it₂ : OpcodeIterator} {row : OpcodeInfo}
  {bytes : List UInt8}

/-! ## The row -/

/-- The first row that matches, and the iterator past its opcode. -/
def matchedRow (memory : Memory) (it : OpcodeIterator) : Option (OpcodeInfo × OpcodeIterator) :=
  opcodeRows.findSome? fun row => (row.matchRow memory it).map fun it' => (row, it')

theorem findOpcode_eq (build : Build) (memory : Memory) (it : OpcodeIterator) :
    findOpcode build memory it = .ok (matchedRow memory it) := findRow_eq ..

theorem matchedRow_some (h : matchedRow memory it = some (row, it')) :
    row ∈ opcodeRows ∧ Takes memory it.pointer (opcodeBytes row) it'.pointer ∧
      row.Accepts (IA32.digit (memory it'.pointer)) := by
  have hfound : findRow .release memory it opcodeRows = .ok (some (row, it')) := by
    rw [findRow_eq]
    exact congrArg Except.ok h
  exact findRow_some hfound

/-- The bytes at which a row was found. -/
theorem matchedRow_bytes (h : matchedRow memory it = some (row, it')) :
    (row.opPrefix = 0 ∧ it'.pointer = it.pointer + 1 ∧ it.at memory 0 = row.opcode ∧
      row.opcode ≠ 0x0f) ∨
    (row.opPrefix = 0x0f ∧ it'.pointer = it.pointer + 2 ∧ it.at memory 0 = 0x0f ∧
      it.at memory 1 = row.opcode) := by
  obtain ⟨hmem, htakes, _⟩ := matchedRow_some h
  have htaken := htakes.taken
  have hstop := htakes.stop
  rcases opPrefix_opcodeRows row hmem with hone | htwo
  · have hbytes : opcodeBytes row = [row.opcode] := by
      rw [opcodeBytes, if_neg (not_not_intro hone.1), List.nil_append]
    rw [hbytes] at htaken hstop
    exact .inl ⟨hone.1, hstop, (List.cons.inj htaken).1, hone.2⟩
  · have hbytes : opcodeBytes row = [0x0f, row.opcode] := by
      rw [opcodeBytes, htwo]
      rfl
    rw [hbytes] at htaken hstop
    obtain ⟨hfirst, hrest⟩ := List.cons.inj htaken
    exact .inr ⟨htwo, hstop, hfirst, (List.cons.inj hrest).1⟩

/-! ## What a row is asserted to be -/

/-- What `ProcessOperand` asserts of a row that has an operand of this type. -/
def OpcodeInfo.allows (row : OpcodeInfo) : OperandType → Bool
  | .mrmR | .mrmSr | .mrmR8 =>
    row.postbyte == PO.register && row.explicitRegister.isNone && row.postbyte != PO.none
  | .mrm | .mrm8 => row.explicitRegister.isNone && row.postbyte != PO.none
  | .pend => false
  | _ => true

def OpcodeInfo.assertionsHold (row : OpcodeInfo) : Bool :=
  row.allows row.operandTypeDst && row.allows row.operandTypeSrc1 &&
    row.allows row.operandTypeSrc2

/-- The rows that break the assertions. -/
theorem assertionsHold_opcodeRows : ∀ row ∈ opcodeRows,
    row.assertionsHold = false ↔
      row.opPrefix = 0 ∧ (row.opcode = 0xf6 ∨ row.opcode = 0xf7) ∧ row.postbyte = 5 := by
  decide +kernel

theorem operandTypes_opcodeRows : ∀ row ∈ opcodeRows,
    row.operandTypeDst ≠ .pend ∧ row.operandTypeSrc1 ≠ .pend ∧ row.operandTypeSrc2 ≠ .pend := by
  decide +kernel

theorem assert_eq (build : Build) (condition : Bool) :
    assert build condition =
      if build = .debug ∧ condition = false then .error .assertion else .ok () := by
  cases build <;> cases condition <;> rfl

/-! ## Operands -/

/-- The operand after `ProcessOperand`, when no assertion fails. -/
def Operand.after (memory : Memory) (a : Nat) (op : Operand) (type : OperandType) : Operand :=
  if type = .none then op
  else if isImmediate type || isRelative type then
    .setValue type (codeBytesOf type) (BitVec.ofNat 64 (word (slice memory a (codeBytesOf type))))
  else .create type

/-- `ProcessOperand` either fails one of its assertions about the row, or reads the operand. -/
theorem processOperand_eq {postbyte : PostByte} {type : OperandType} (op : Operand)
    (hpend : type ≠ .pend) (hmod : isModRM type = true → postbyte.getHasModRM = true) :
    processOperand build memory row postbyte it op type =
      if build = .debug ∧ row.allows type = false then .error .assertion
      else .ok (op.after memory it.pointer type, it.advance (codeBytesOf type)) := by
  cases type with
  | pend => exact absurd rfl hpend
  | gpreg | gpreg8 | sreg | none => cases build <;> rfl
  | imm | imm8 | imm16 | imm32 | imm64 | rel | rel8 | rel16 | rel32 | rel64 =>
    rw [processOperand_code op rfl]
    cases build <;> rfl
  -- the assertions one after the other; each is about the row but for the one on ModRM
  | mrmR | mrmSr | mrmR8 =>
    unfold processOperand assertModRM OpcodeInfo.allows
    rw [hmod rfl]
    cases build
    · cases row.postbyte == PO.register <;> cases row.explicitRegister.isNone <;>
        cases row.postbyte != PO.none <;> rfl
    · rfl
  | mrm | mrm8 =>
    unfold processOperand assertModRM OpcodeInfo.allows
    rw [hmod rfl]
    cases build
    · cases row.explicitRegister.isNone <;> cases row.postbyte != PO.none <;> rfl
    · rfl

/-! ## Addressing -/

/-- ModRM and SIB, if the row has them. -/
def OpcodeInfo.postbyteAt (memory : Memory) (row : OpcodeInfo) (a : Nat) : PostByte :=
  if row.postbyte = PO.none then {} else PostByte.read memory a

/-- The bytes of displacement, if the row has ModRM. -/
def OpcodeInfo.displacementAt (memory : Memory) (row : OpcodeInfo) (a : Nat) : Nat :=
  if row.postbyte = PO.none then 0 else IA32.displacementSize (memory a) (memory (a + 1))

/-- `ProcessPostfix` asserts only what finding the row has made sure of. -/
theorem processPostfix_eq (op : Operand)
    (hsome : row.postbyte ≠ PO.none) (haccepts : row.Accepts (IA32.digit (memory it.pointer))) :
    processPostfix build memory row {} op it =
      .ok (PostByte.read memory it.pointer,
        if IA32.displacementSize (memory it.pointer) (memory (it.pointer + 1)) = 0 then op
        else readDisplacement memory
          (it.pointer + (postbyteBytes (PostByte.read memory it.pointer)).length)
          (IA32.displacementSize (memory it.pointer) (memory (it.pointer + 1))),
        (it.advance (postbyteBytes (PostByte.read memory it.pointer)).length).advance
          (IA32.displacementSize (memory it.pointer) (memory (it.pointer + 1)))) := by
  have hassert : (row.postbyte == PO.register ||
      IA32.digit (memory it.pointer) == row.postbyte) = true := by
    rcases haccepts with hnone | hregister | hdigit
    · exact absurd hnone hsome
    · rw [hregister, beq_self_eq_true, Bool.true_or]
    · rw [← hdigit, beq_self_eq_true, Bool.or_true]
  unfold processPostfix
  rw [PostByte.assign_eq, except_ok_bind]
  dsimp only
  rw [PostByte.getRegisterOrOpcode_read, except_ok_bind, hassert, assert_eq,
    if_neg (by simp), except_ok_bind, processDisplacement_eq, except_ok_bind, if_pos rfl]
  split
  · rename_i hzero
    rw [hzero]
    rfl
  · rfl

/-- A row without ModRM has nothing to read there. -/
theorem postfix_of_row (op : Operand) (haccepts : row.Accepts (IA32.digit (memory it.pointer))) :
    (if row.postbyte ≠ PO.none then processPostfix build memory row {} op it
      else return ({}, op, it)) =
      .ok (row.postbyteAt memory it.pointer,
        if row.displacementAt memory it.pointer = 0 then op
        else readDisplacement memory
          (it.pointer + (postbyteBytes (row.postbyteAt memory it.pointer)).length)
          (row.displacementAt memory it.pointer),
        (it.advance (postbyteBytes (row.postbyteAt memory it.pointer)).length).advance
          (row.displacementAt memory it.pointer)) := by
  unfold OpcodeInfo.postbyteAt OpcodeInfo.displacementAt
  by_cases hnone : row.postbyte = PO.none
  · simp only [hnone, ne_eq, not_true_eq_false, if_true, if_false]
    rfl
  · simp only [hnone, ne_eq, not_false_eq_true, if_true, if_false]
    exact processPostfix_eq _ hnone haccepts

/-- An operand in ModRM belongs to a row with ModRM. -/
theorem getHasModRM_postbyteAt (memory : Memory) (a : Nat) (hmem : row ∈ opcodeRows) :
    (isModRM row.operandTypeDst = true → (row.postbyteAt memory a).getHasModRM = true) ∧
      (isModRM row.operandTypeSrc1 = true → (row.postbyteAt memory a).getHasModRM = true) ∧
      (isModRM row.operandTypeSrc2 = true → (row.postbyteAt memory a).getHasModRM = true) := by
  have hmod : row.anyModRM = true → (row.postbyteAt memory a).getHasModRM = true := by
    intro hany
    have hcheck := (Bool.and_eq_true_iff.mp (check_opcodeRows row hmem)).1
    rw [hany, beq_true, bne_iff_ne] at hcheck
    rw [OpcodeInfo.postbyteAt, if_neg hcheck]
    rfl
  refine ⟨fun h => hmod ?_, fun h => hmod ?_, fun h => hmod ?_⟩ <;> rw [OpcodeInfo.anyModRM, h]
  · rfl
  · rw [Bool.or_true, Bool.true_or]
  · rw [Bool.or_true]

/-! ## Decoding -/

/-- What `Decode` makes of an instruction object from a row: the parts one after the other.
Where the row asks for nothing, the object keeps what it held. -/
def Instruction.fill (memory : Memory) (self : Instruction) (start : OpcodeIterator)
    (prefixBytes : List UInt8) (row : OpcodeInfo) (it : OpcodeIterator) :
    Instruction × OpcodeIterator :=
  let postbyte := row.postbyteAt memory it.pointer
  let size := row.displacementAt memory it.pointer
  let it₁ := it.advance (postbyteBytes postbyte).length
  let it₂ := it₁.advance size
  let it₃ := it₂.advance (codeBytesOf row.operandTypeDst)
  let it₄ := it₃.advance (codeBytesOf row.operandTypeSrc1)
  let it₅ := it₄.advance (codeBytesOf row.operandTypeSrc2)
  ({ info := some row
     address := start.getAddress
     codeSize := it₅.getAddress - start.getAddress
     prefixBytes
     postbyte
     displacement :=
      if size = 0 then self.displacement else readDisplacement memory it₁.pointer size
     operandDst := self.operandDst.after memory it₂.pointer row.operandTypeDst
     operandSrc1 := self.operandSrc1.after memory it₃.pointer row.operandTypeSrc1
     operandSrc2 := self.operandSrc2.after memory it₄.pointer row.operandTypeSrc2 },
   it₅)

/-- **Decoding a row.** It fails an assertion about the row, or fills the object. -/
theorem decode_of_row (build : Build) (self : Instruction)
    (hpre : processPrefix memory maxPrefixBytes it = .ok (bytes, it₁))
    (hrow : matchedRow memory it₁ = some (row, it₂)) (hterm : row.isTerminator = false) :
    decode build memory self it =
      if build = .debug ∧ row.assertionsHold = false then .error .assertion
      else .ok (true, self.fill memory it bytes row it₂) := by
  obtain ⟨hmem, _, haccepts⟩ := matchedRow_some hrow
  obtain ⟨hdst, hsrc1, hsrc2⟩ := operandTypes_opcodeRows row hmem
  obtain ⟨hmodDst, hmodSrc1, hmodSrc2⟩ := getHasModRM_postbyteAt memory it₂.pointer hmem
  unfold decode
  rw [hpre, except_ok_bind]
  dsimp only
  rw [findOpcode_eq, except_ok_bind, hrow]
  dsimp only
  rw [if_neg (by rw [hterm]; exact Bool.false_ne_true)]
  dsimp only [Instruction.reset]
  rw [postfix_of_row _ haccepts, except_ok_bind]
  dsimp only
  rw [processOperand_eq _ hdst hmodDst]
  by_cases hbuild : build = .debug ∧ row.assertionsHold = false
  -- one of the operands is not allowed: the first of them ends the decoding
  · rw [if_pos hbuild]
    obtain ⟨rfl, hfalse⟩ := hbuild
    by_cases hAllowDst : row.allows row.operandTypeDst = false
    · rw [if_pos (And.intro rfl hAllowDst)]
      rfl
    · rw [if_neg (not_and_of_not_right _ hAllowDst), except_ok_bind]
      dsimp only
      rw [processOperand_eq _ hsrc1 hmodSrc1]
      by_cases hAllowSrc1 : row.allows row.operandTypeSrc1 = false
      · rw [if_pos (And.intro rfl hAllowSrc1)]
        rfl
      · have hAllowSrc2 : row.allows row.operandTypeSrc2 = false := by
          unfold OpcodeInfo.assertionsHold at hfalse
          simpa [hAllowDst, hAllowSrc1] using hfalse
        rw [if_neg (not_and_of_not_right _ hAllowSrc1), except_ok_bind]
        dsimp only
        rw [processOperand_eq _ hsrc2 hmodSrc2, if_pos (And.intro rfl hAllowSrc2)]
        rfl
  -- all are allowed, or nobody asks
  · have hdst' : ¬(build = .debug ∧ row.allows row.operandTypeDst = false) :=
      fun h => hbuild ⟨h.1, by rw [OpcodeInfo.assertionsHold, h.2]; rfl⟩
    have hsrc1' : ¬(build = .debug ∧ row.allows row.operandTypeSrc1 = false) :=
      fun h => hbuild ⟨h.1, by rw [OpcodeInfo.assertionsHold, h.2, Bool.and_false]; rfl⟩
    have hsrc2' : ¬(build = .debug ∧ row.allows row.operandTypeSrc2 = false) :=
      fun h => hbuild ⟨h.1, by rw [OpcodeInfo.assertionsHold, h.2, Bool.and_false]⟩
    rw [if_neg hbuild, if_neg hdst', except_ok_bind]
    dsimp only
    rw [processOperand_eq _ hsrc1 hmodSrc1, if_neg hsrc1', except_ok_bind]
    dsimp only
    rw [processOperand_eq _ hsrc2 hmodSrc2, if_neg hsrc2', except_ok_bind]
    rfl

/-- Without a row, or with one that ends decoding, the object is reset and the iterator stays. -/
theorem decode_of_none (build : Build) (self : Instruction)
    (hpre : processPrefix memory maxPrefixBytes it = .ok (bytes, it₁))
    (hrow : ∀ row it₂, matchedRow memory it₁ = some (row, it₂) → row.isTerminator = true) :
    decode build memory self it = .ok (false, self.reset, it) := by
  unfold decode
  rw [hpre, except_ok_bind]
  dsimp only
  rw [findOpcode_eq, except_ok_bind]
  cases hfound : matchedRow memory it₁ with
  | none => rfl
  | some found =>
    obtain ⟨row, it₂⟩ := found
    dsimp only
    rw [if_pos (hrow row it₂ hfound)]
    rfl

/-- Too many prefixes end decoding before there is a row. -/
theorem decode_of_not_few (build : Build) (self : Instruction) (h : ¬FewPrefixes memory it) :
    decode build memory self it = .error .undefined := by
  have hall : ∀ k ≤ maxPrefixBytes, isPrefixByte (it.at memory k) = true := fun k hk =>
    eq_true_of_ne_false fun hother => h ⟨k, hk, hother⟩
  unfold decode
  rw [processPrefix_undefined_iff.mpr hall]
  rfl

/-- A decoding of few prefixes comes from a row, or there is none. -/
theorem decode_cases (hfew : FewPrefixes memory it) :
    ∃ bytes, processPrefix memory maxPrefixBytes it = .ok (bytes, it.advance bytes.length) ∧
      IA32.prefixes (it.at memory) = bytes.length ∧
      ((∃ row it₂, matchedRow memory (it.advance bytes.length) = some (row, it₂) ∧
          row.isTerminator = false) ∨
        ∀ row it₂, matchedRow memory (it.advance bytes.length) = some (row, it₂) →
          row.isTerminator = true) := by
  obtain ⟨bytes, hpre⟩ := processPrefix_of_few hfew
  obtain ⟨htakes, hcount, hall, hstop⟩ := processPrefix_takes hpre
  refine ⟨bytes, hpre, ?_, ?_⟩
  · have hfour : bytes.length ≤ 4 := hcount
    apply IA32.prefixesUpTo_eq (by omega)
    · intro k hk
      have hmem := mem_slice memory it.pointer hk
      rw [htakes.taken] at hmem
      rw [← isPrefixByte_eq]
      exact hall _ hmem
    · rw [← isPrefixByte_eq]
      exact hstop
  · by_cases hrow : ∃ row it₂, matchedRow memory (it.advance bytes.length) = some (row, it₂) ∧
        row.isTerminator = false
    · exact .inl hrow
    · refine .inr fun row it₂ hfound => eq_true_of_ne_false fun hterm => ?_
      exact hrow ⟨row, it₂, hfound, hterm⟩

/-- With few prefixes, only an assertion of a debug build can fail. -/
theorem fault_of_few {self : Instruction} {e : Fault} (hfew : FewPrefixes memory it)
    (h : decode build memory self it = .error e) : build = .debug ∧ e = .assertion := by
  obtain ⟨bytes, hpre, _, hcases⟩ := decode_cases hfew
  rcases hcases with ⟨row, it₂, hrow, hterm⟩ | hnone
  · rw [decode_of_row build self hpre hrow hterm] at h
    split at h
    · rename_i hbuild
      cases h
      exact ⟨hbuild.1, rfl⟩
    · cases h
  · rw [decode_of_none build self hpre hnone] at h
    cases h

/-! ## Assertions -/

/-- No assertion fails while a fresh instruction is decoded, nor when it is emitted again. -/
structure NoAssertionFails (memory : Memory) (it : OpcodeIterator) : Prop where
  decoding : decode .debug memory {} it ≠ .error .assertion
  emitting : ∀ i it', decode .debug memory {} it = .ok (true, i, it') →
    i.emit .debug ≠ .error .assertion

/-- `IMUL r/m`, by the opcode byte and the digit in the byte after it. -/
def imulOneOperand (opcode digit : UInt8) : Bool := (opcode == 0xf6 || opcode == 0xf7) && digit == 5

/-- Which rows of `F6h` and `F7h` there are. -/
theorem rows_f6_f7 : ∀ row ∈ opcodeRows, row.opcode = 0xf6 ∨ row.opcode = 0xf7 →
    row.postbyte ≠ PO.none ∧ row.postbyte ≠ PO.register ∧ row.isTerminator = false := by
  decide +kernel

theorem exists_row_imul (opcode : UInt8) (h : opcode = 0xf6 ∨ opcode = 0xf7) :
    ∃ row ∈ opcodeRows, row.opPrefix = 0 ∧ row.opcode = opcode ∧ row.postbyte = 5 := by
  rcases h with rfl | rfl <;> decide +kernel

/-- The row that is found breaks the assertions exactly for the bytes of `IMUL r/m`. -/
theorem assertionsHold_iff (hrow : matchedRow memory it = some (row, it')) :
    row.assertionsHold = false ↔
      imulOneOperand (it.at memory 0) (IA32.digit (it.at memory 1)) = true := by
  obtain ⟨hmem, _, haccepts⟩ := matchedRow_some hrow
  have hbyte : ∀ b : UInt8, imulOneOperand b (IA32.digit (it.at memory 1)) = true ↔
      (b = 0xf6 ∨ b = 0xf7) ∧ IA32.digit (it.at memory 1) = 5 := by
    intro b
    simp only [imulOneOperand, Bool.and_eq_true, Bool.or_eq_true, beq_iff_eq]
  rw [assertionsHold_opcodeRows row hmem, hbyte]
  rcases matchedRow_bytes hrow with ⟨hpre, hstop, hopcode, _⟩ | ⟨hpre, _, hopcode, _⟩
  · have haccepts : row.Accepts (IA32.digit (it.at memory 1)) := by
      rw [hstop] at haccepts
      exact haccepts
    rw [hopcode]
    constructor
    · rintro ⟨_, hrow, hdigit⟩
      refine ⟨hrow, ?_⟩
      -- the row takes one digit, so that is the one there
      rcases haccepts with h | h | h
      · rw [hdigit] at h
        cases h
      · rw [hdigit] at h
        cases h
      · rw [← h, hdigit]
    · rintro ⟨hrow, hdigit⟩
      obtain ⟨hnone, hregister, _⟩ := rows_f6_f7 row hmem hrow
      refine ⟨hpre, hrow, ?_⟩
      rw [← hdigit]
      exact (haccepts.resolve_left hnone).resolve_left hregister
  -- a row with an escape byte is none of them
  · rw [hopcode, hpre]
    constructor
    · rintro ⟨h, _⟩
      cases h
    · rintro ⟨h | h, _⟩ <;> cases h

theorem matchedRow_of_imul
    (h : imulOneOperand (it.at memory 0) (IA32.digit (it.at memory 1)) = true) :
    ∃ row it', matchedRow memory it = some (row, it') := by
  have hbyte : (it.at memory 0 = 0xf6 ∨ it.at memory 0 = 0xf7) ∧
      IA32.digit (it.at memory 1) = 5 := by
    simpa only [imulOneOperand, Bool.and_eq_true, Bool.or_eq_true, beq_iff_eq] using h
  obtain ⟨row, hmem, hpre, hopcode, hpost⟩ := exists_row_imul _ hbyte.1
  have haccepts : row.Accepts (IA32.digit (memory (it.pointer + 1))) :=
    .inr (.inr (hpost.trans hbyte.2.symm))
  obtain ⟨⟨found, it'⟩, hfound⟩ := findRow_isSome .debug hmem hpre hopcode.symm haccepts
  refine ⟨found, it', ?_⟩
  have hsame := findOpcode_eq .debug memory it
  rw [findOpcode, hfound] at hsame
  exact (Except.ok.inj hsame).symm

/-- **The assertions of the decoder hold but for one instruction**, whose rows name a register
although their operand is in ModRM. -/
theorem noAssertionFails_iff (hfew : FewPrefixes memory it) :
    NoAssertionFails memory it ↔
      imulOneOperand (it.at memory (IA32.prefixes (it.at memory)))
        (IA32.digit (it.at memory (IA32.prefixes (it.at memory) + 1))) = false := by
  obtain ⟨bytes, hpre, hcount, hcases⟩ := decode_cases hfew
  have hat : ∀ k, (it.advance bytes.length).at memory k = it.at memory (bytes.length + k) :=
    OpcodeIterator.at_advance memory it bytes.length
  have hfirst : it.at memory bytes.length = (it.advance bytes.length).at memory 0 := by
    rw [hat, Nat.add_zero]
  rw [hcount, hfirst, ← hat 1]
  -- emitting what was decoded never fails an assertion
  have hemit : ∀ i it', decode .debug memory {} it = .ok (true, i, it') →
      i.emit .debug ≠ .error .assertion := by
    intro i it' hdecode
    obtain ⟨row, hd⟩ := decoded_of_decode hdecode
    rw [emit_eq hd.info hd.getSize_eq.symm]
    nofun
  rcases hcases with ⟨row, it₂, hrow, hterm⟩ | hnone
  · have hdecode := decode_of_row .debug {} hpre hrow hterm
    have hiff := assertionsHold_iff hrow
    constructor
    · intro h
      refine Bool.eq_false_iff.mpr fun himul => h.decoding ?_
      rw [hdecode, if_pos ⟨rfl, hiff.mpr himul⟩]
    · intro himul
      refine ⟨?_, hemit⟩
      have hhold : ¬(Build.debug = .debug ∧ row.assertionsHold = false) := fun h =>
        Bool.eq_false_iff.mp himul (hiff.mp h.2)
      rw [hdecode, if_neg hhold]
      nofun
  · have hdecode := decode_of_none .debug {} hpre hnone
    constructor
    · intro _
      -- there is a row for `IMUL`, and it does not end decoding
      refine Bool.eq_false_iff.mpr fun himul => ?_
      obtain ⟨row, it₂, hrow⟩ := matchedRow_of_imul himul
      have hmem := (matchedRow_some hrow).1
      obtain ⟨_, hopcode, _⟩ :=
        (assertionsHold_opcodeRows row hmem).mp ((assertionsHold_iff hrow).mpr himul)
      obtain ⟨_, _, hterm⟩ := rows_f6_f7 row hmem hopcode
      rw [hnone row it₂ hrow] at hterm
      cases hterm
    · intro _
      refine ⟨?_, hemit⟩
      rw [hdecode]
      nofun

/-- `MOV EAX,[ESP+16]` fails none. -/
theorem noAssertionFails_movEspDisp : NoAssertionFails movEspDisp codeStart :=
  (noAssertionFails_iff ⟨0, Nat.zero_le _, by decide +kernel⟩).mpr (by decide +kernel)

/-- `IMUL EBX`. -/
def imulEbx : Memory := holding 0x401000 [0xf7, 0xeb]

/-- Its row names `EAX`. -/
theorem imulEbx_asserts :
    FewPrefixes imulEbx codeStart ∧ ¬NoAssertionFails imulEbx codeStart :=
  ⟨⟨0, Nat.zero_le _, by decide +kernel⟩, fun h => h.decoding rfl⟩

/-! ## Decoding and emitting -/

/-- A decoding that fails leaves the iterator where it was. -/
theorem iterator_of_decode_false {self i : Instruction}
    (h : decode build memory self it = .ok (false, i, it')) : it' = it := by
  by_cases hfew : FewPrefixes memory it
  · obtain ⟨bytes, hpre, _, hcases⟩ := decode_cases hfew
    rcases hcases with ⟨row, it₂, hrow, hterm⟩ | hnone
    -- a row that does not end decoding is decoded, if no assertion fails
    · rw [decode_of_row build self hpre hrow hterm] at h
      split at h <;> cases h
    · rw [decode_of_none build self hpre hnone] at h
      cases h
      rfl
  · rw [decode_of_not_few build self hfew] at h
    cases h

/-- **`Decode` and `Emit` are inverse.** What is decoded is emitted as the bytes that decoding
moved past; a decoding that fails does not move. -/
theorem decode_emit (build : Build) (memory : Memory) (it : OpcodeIterator) :
    (∀ i it', decode build memory {} it = .ok (true, i, it') →
      it'.pointer = it.pointer + i.getSize ∧
        ∃ bytes, i.emit build = .ok bytes ∧ bytes.length = i.getSize ∧
          bytes = slice memory it.pointer i.getSize) ∧
    (∀ self i it', decode build memory self it = .ok (false, i, it') → it' = it) := by
  refine ⟨fun i it' h => ?_, fun self i it' h => iterator_of_decode_false h⟩
  obtain ⟨row, hd⟩ := decoded_of_decode h
  have hsize := hd.getSize_eq
  refine ⟨?_, i.bytes row, emit_eq hd.info hsize.symm, hsize.symm, ?_⟩
  · rw [hsize]
    exact hd.takes.stop
  · rw [hsize]
    exact hd.takes.taken.symm

/-- The four bytes of `MOV EAX,[ESP+16]` are taken and written again. -/
theorem decode_emit_movEspDisp :
    ∃ i it', decode .debug movEspDisp {} codeStart = .ok (true, i, it') ∧
      i.getSize = 4 ∧ it'.pointer = codeStart.pointer + i.getSize ∧
      i.emit .debug = .ok (slice movEspDisp codeStart.pointer i.getSize) := by
  obtain ⟨hstop, bytes, hemit, _, rfl⟩ := (decode_emit .debug movEspDisp codeStart).1 _ _ rfl
  exact ⟨_, _, rfl, by decide +kernel, hstop, hemit⟩

end Giblet.CodeHook
