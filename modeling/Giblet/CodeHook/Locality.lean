import Giblet.CodeHook.Length
import Giblet.CodeHook.RelocationLoop

/-!
# CodeHook — what the decoder looks at

A decoded instruction depends on its own bytes only (`decode_local`): no row
of the tables needs a byte behind the instruction to be told from another
one. So whatever is decoded and moved is the same in any two memories that
agree on the bytes it takes (`covers_local`, `movedCode_congr`).
-/

namespace Giblet.CodeHook

open ByteStream Effect Instruction

variable {build : Build} {memory memory' : Memory} {it it' : OpcodeIterator}

/-- The memories agree on the bytes from `a` up to `b`. -/
def Agree (memory memory' : Memory) (a b : Nat) : Prop :=
  ∀ x, a ≤ x → x < b → memory x = memory' x

theorem Agree.mono {a b a' b' : Nat} (h : Agree memory memory' a b) (ha : a ≤ a') (hb : b' ≤ b) :
    Agree memory memory' a' b' := fun x hLow hHigh => h x (by omega) (by omega)

/-! ## Part by part -/

theorem processPrefix_local {room : Nat} {bytes : List UInt8}
    (h : processPrefix memory room it = .ok (bytes, it'))
    (hSame : Agree memory memory' it.pointer (it'.pointer + 1)) :
    processPrefix memory' room it = .ok (bytes, it') := by
  have hLe : it.pointer ≤ it'.pointer := by
    rw [(processPrefix_takes h).1.stop]
    exact Nat.le_add_right _ _
  have hFirst : it.at memory 0 = it.at memory' 0 := hSame _ (Nat.le_refl _) (by omega)
  induction room generalizing it bytes with
  | zero =>
    rw [processPrefix] at h ⊢
    rwa [← hFirst]
  | succ room ih =>
    rw [processPrefix] at h ⊢
    rw [← hFirst]
    split at h
    · rename_i hPrefix
      rw [if_pos hPrefix]
      obtain ⟨⟨rest, stop⟩, hRest, h⟩ := except_bind_eq_ok h
      cases h
      have hLater : it.pointer + 1 ≤ it'.pointer := by
        rw [(processPrefix_takes hRest).1.stop]
        exact Nat.le_add_right _ _
      rw [ih hRest (hSame.mono (Nat.le_succ _) (Nat.le_refl _)) hLater
        (hSame _ (Nat.le_succ _) (by rw [OpcodeIterator.pointer_advance]; omega))]
      rfl
    · rename_i hPrefix
      rw [if_neg hPrefix]
      exact h

theorem processOperand_local {info : OpcodeInfo} {postbyte : PostByte} {op op' : Operand}
    {type : OperandType}
    (h : processOperand build memory info postbyte it op type = .ok (op', it'))
    (hSame : Agree memory memory' it.pointer it'.pointer) :
    processOperand build memory' info postbyte it op type = .ok (op', it') := by
  cases type with
  | imm | imm8 | imm16 | imm32 | imm64 | rel | rel8 | rel16 | rel32 | rel64 =>
    rw [processOperand_code op rfl] at h ⊢
    cases h
    rw [slice_congr fun x hLow hHigh => hSame x hLow hHigh]
  -- no other operand is read from the code
  | gpreg | gpreg8 | sreg | mrmR | mrmSr | mrmR8 | mrm | mrm8 | none | pend => exact h

theorem processDisplacement_local {info : OpcodeInfo} {postbyte : PostByte} {op op' : Operand}
    (h : processDisplacement build memory info postbyte op it = .ok (op', it'))
    (hSame : Agree memory memory' it.pointer it'.pointer) :
    processDisplacement build memory' info postbyte op it = .ok (op', it') := by
  unfold processDisplacement at h ⊢
  obtain ⟨addressing, hMode, h⟩ := except_bind_eq_ok h
  rw [hMode, except_ok_bind]
  split
  · rename_i hInd
    rw [if_pos hInd] at h
    obtain ⟨register, hRegister, h⟩ := except_bind_eq_ok h
    rw [hRegister, except_ok_bind]
    split at h
    · rename_i hDisp
      rw [if_pos hDisp]
      exact processOperand_local h hSame
    · rename_i hDisp
      rw [if_neg hDisp]
      split at h
      · rename_i hBase
        rw [if_pos hBase]
        exact processOperand_local h hSame
      · rename_i hBase
        rw [if_neg hBase]
        exact h
  · rename_i hInd
    rw [if_neg hInd] at h
    split at h
    · rename_i hDisp
      rw [if_pos hDisp]
      exact processOperand_local h hSame
    · rename_i hDisp
      rw [if_neg hDisp]
      split at h
      · rename_i hDisp8
        rw [if_pos hDisp8]
        exact processOperand_local h hSame
      · rename_i hDisp8
        rw [if_neg hDisp8]
        exact h

/-- ModRM and SIB are the same where their bytes are. -/
theorem PostByte.read_local {a : Nat}
    (h : Agree memory memory' a (a + (postbyteBytes (PostByte.read memory a)).length)) :
    PostByte.read memory' a = PostByte.read memory a := by
  unfold PostByte.read postbyteBytes at h
  unfold PostByte.read
  split at h
  · rename_i hSIB
    have hModRM : memory a = memory' a := h a (Nat.le_refl a) (by simp)
    have hBase : memory (a + 1) = memory' (a + 1) := h (a + 1) (Nat.le_succ a) (by simp)
    rw [← hModRM, ← hBase]
  · rename_i hSIB
    have hModRM : memory a = memory' a := h a (Nat.le_refl a) (by simp)
    rw [← hModRM, if_neg hSIB, if_neg hSIB]

theorem processPostfix_local {info : OpcodeInfo} {postbyte : PostByte} {displacement : Operand}
    (h : processPostfix build memory info {} {} it = .ok (postbyte, displacement, it'))
    (hSame : Agree memory memory' it.pointer it'.pointer) :
    processPostfix build memory' info {} {} it = .ok (postbyte, displacement, it') := by
  have hStop := (processPostfix_takes h).1.stop
  unfold processPostfix at h ⊢
  rw [PostByte.assign_eq, except_ok_bind] at h
  obtain ⟨digit, hDigit, h⟩ := except_bind_eq_ok h
  obtain ⟨_, hAssert, h⟩ := except_bind_eq_ok h
  obtain ⟨⟨disp, iter⟩, hDisp, h⟩ := except_bind_eq_ok h
  cases h
  rw [List.length_append] at hStop
  have hRead := PostByte.read_local (hSame.mono (Nat.le_refl _) (by omega))
  rw [PostByte.assign_eq, hRead, except_ok_bind]
  dsimp only at hDigit hAssert hDisp ⊢
  rw [hDigit, except_ok_bind, hAssert, except_ok_bind,
    processDisplacement_local hDisp (hSame.mono ?_ (Nat.le_refl _))]
  · rfl
  · rw [if_pos rfl]
    exact Nat.le_add_right _ _

/-! ## The row -/

variable {row other : OpcodeInfo}

/-- The first byte of a two-byte opcode is not an opcode. -/
theorem opcode_ne_opPrefix (hMem : row ∈ opcodeRows) (hOther : other ∈ opcodeRows)
    (hOne : row.opPrefix = 0) (hTwo : other.opPrefix ≠ 0) : row.opcode ≠ other.opPrefix := by
  have hRow : row.opcode ≠ 0x0f := by
    rcases opPrefix_opcodeRows row hMem with h | h
    · exact h.2
    · exact absurd (hOne.symm.trans h) (by decide)
  rcases opPrefix_opcodeRows other hOther with h | h
  · exact absurd h.1 hTwo
  · rwa [h]

theorem exists_accepts : ∀ row ∈ opcodeRows, ∃ d : Fin 8, row.Accepts (UInt8.ofNat d) := by
  decide +kernel

/-- An opcode has a ModRM byte in all its rows or in none. -/
theorem postbyte_none (hMem : row ∈ opcodeRows) (hOther : other ∈ opcodeRows)
    (hPrefix : row.opPrefix = other.opPrefix) (hOpcode : row.opcode = other.opcode)
    (hNone : row.postbyte = PO.none) : other.postbyte = PO.none := by
  obtain ⟨d, hAccepts⟩ := exists_accepts other hOther
  -- both rows are the opcode's, so both have its format
  have hForm := form_eq_desc other hOther d hAccepts
  rw [OpcodeInfo.form, ← hPrefix, ← hOpcode] at hForm
  have hSame := (form_eq_desc row hMem d (.inl hNone)).symm.trans hForm
  have hModRM := congrArg IA32.Form.modRM (Option.some.inj hSame)
  rw [hNone] at hModRM
  exact Decidable.not_not.mp fun hSome => absurd hModRM (by simp [hSome])

/-- **No row is told from the one that was found by a byte behind the instruction.** -/
theorem matchRow_local (hMem : row ∈ opcodeRows)
    (hOther : other ∈ opcodeRows) (hFound : row.matchRow memory it = some it')
    (hOpcode : Agree memory memory' it.pointer it'.pointer)
    (hModRM : row.postbyte ≠ PO.none → memory it'.pointer = memory' it'.pointer) :
    other.matchRow memory' it = other.matchRow memory it := by
  obtain ⟨hMatch, -⟩ := Option.filter_eq_some_iff.mp hFound
  have hTakes := matchOpcode_takes hMatch
  have hStop : it'.pointer = it.pointer + (opcodeBytes row).length := hTakes.stop
  have hPos : 0 < (opcodeBytes row).length := by simp [opcodeBytes]
  have hFirst : it.at memory 0 = it.at memory' 0 := hOpcode _ (Nat.le_refl _) (by omega)
  unfold OpcodeInfo.matchOpcode at hMatch
  unfold OpcodeInfo.matchRow
  split at hMatch
  -- a two-byte opcode: both bytes are there
  · rename_i hTwo
    obtain ⟨hPrefix, hFirst', hSecond'⟩ := hTwo
    have hLength : (opcodeBytes row).length = 2 := by simp [opcodeBytes, hPrefix]
    have hSecond : it.at memory 1 = it.at memory' 1 := hOpcode _ (Nat.le_add_right _ _) (by omega)
    have hSame : other.matchOpcode memory' it = other.matchOpcode memory it := by
      unfold OpcodeInfo.matchOpcode
      rw [← hFirst, ← hSecond]
    rw [hSame]
    cases hOtherMatch : other.matchOpcode memory it with
    | none => rfl
    | some found =>
      unfold OpcodeInfo.matchOpcode at hOtherMatch
      split at hOtherMatch
      · rename_i hBoth
        cases hMatch
        cases hOtherMatch
        by_cases hNone : row.postbyte = PO.none
        · have hOtherNone := postbyte_none hMem hOther
            (hFirst'.trans hBoth.2.1.symm) (hSecond'.trans hBoth.2.2.symm) hNone
          simp [OpcodeInfo.Accepts, hOtherNone]
        · simp only [Option.filter_some]
          rw [hModRM hNone]
      · split at hOtherMatch
        · rename_i hOne
          have hSame : other.opcode = row.opPrefix := hOne.2.trans hFirst'.symm
          exact absurd hSame (opcode_ne_opPrefix hOther hMem hOne.1 hPrefix)
        · cases hOtherMatch
  · split at hMatch
    · rename_i hOne
      obtain ⟨hPrefix, hOpcode'⟩ := hOne
      -- a row of two bytes does not even begin so
      have hNot (m : Memory) (hm : it.at m 0 = it.at memory 0) :
          ¬(other.opPrefix ≠ 0 ∧ other.opPrefix = it.at m 0 ∧ other.opcode = it.at m 1) := by
        rintro ⟨hTwo, hSame, -⟩
        refine opcode_ne_opPrefix hMem hOther hPrefix hTwo ?_
        rw [hSame, hm, hOpcode']
      unfold OpcodeInfo.matchOpcode
      rw [if_neg (hNot memory' hFirst.symm), if_neg (hNot memory rfl), ← hFirst]
      split
      · rename_i hBoth
        cases hMatch
        by_cases hNone : row.postbyte = PO.none
        · have hOtherNone := postbyte_none hMem hOther (hPrefix.trans hBoth.1.symm)
            (hOpcode'.trans hBoth.2.symm) hNone
          simp [OpcodeInfo.Accepts, hOtherNone]
        · simp only [Option.filter_some]
          rw [hModRM hNone]
      · rfl
    · cases hMatch

theorem findOpcode_local (h : findOpcode build memory it = .ok (some (row, it')))
    (hOpcode : Agree memory memory' it.pointer it'.pointer)
    (hModRM : row.postbyte ≠ PO.none → memory it'.pointer = memory' it'.pointer) :
    findOpcode build memory' it = .ok (some (row, it')) := by
  unfold findOpcode at h ⊢
  rw [findRow_eq] at h ⊢
  rw [← h]
  obtain ⟨found, hMem, hFound⟩ := List.exists_of_findSome?_eq_some (Except.ok.inj h)
  obtain ⟨iter, hMatch, hEq⟩ := Option.map_eq_some_iff.mp hFound
  cases hEq
  have hRows {other : OpcodeInfo} (hOther : other ∈ opcodeRows) :
      other.matchRow memory' it = other.matchRow memory it :=
    matchRow_local hMem hOther hMatch hOpcode hModRM
  have hAll (rows : List OpcodeInfo) (hRowsIn : ∀ other ∈ rows, other ∈ opcodeRows) :
      (rows.findSome? fun row => (row.matchRow memory' it).map fun it' => (row, it')) =
        rows.findSome? fun row => (row.matchRow memory it).map fun it' => (row, it') := by
    induction rows with
    | nil => rfl
    | cons other rows ih =>
      obtain ⟨hFirst, hLater⟩ := List.forall_mem_cons.mp hRowsIn
      rw [List.findSome?_cons, List.findSome?_cons, hRows hFirst, ih hLater]
  rw [hAll opcodeRows fun _ => id]

/-! ## Whole instructions -/

/-- **What is decoded depends on its own bytes only.** -/
theorem decode_local {i : Instruction} (h : decode build memory {} it = .ok (true, i, it'))
    (hSame : Agree memory memory' it.pointer it'.pointer) :
    decode build memory' {} it = .ok (true, i, it') := by
  unfold decode at h ⊢
  obtain ⟨⟨prefixBytes, it₁⟩, hPrefix, h⟩ := except_bind_eq_ok h
  obtain ⟨found, hFind, h⟩ := except_bind_eq_ok h
  dsimp only at h
  split at h
  · cases h
  · rename_i row it₂
    split at h
    · cases h
    · rename_i hTerminator
      obtain ⟨⟨postbyte, displacement, it₃⟩, hPost, h⟩ := except_bind_eq_ok h
      obtain ⟨⟨dst, it₄⟩, hDst, h⟩ := except_bind_eq_ok h
      obtain ⟨⟨src1, it₅⟩, hSrc1, h⟩ := except_bind_eq_ok h
      obtain ⟨⟨src2, it₆⟩, hSrc2, h⟩ := except_bind_eq_ok h
      cases h
      -- each part lies within the instruction
      have hStop₁ := (processPrefix_takes hPrefix).1.stop
      obtain ⟨-, hTakes₂, -⟩ := findRow_some hFind
      have hStop₂ := hTakes₂.stop
      have hOpcode : 0 < (opcodeBytes row).length := by simp [opcodeBytes]
      have hStop₄ := (processOperand_takes hDst).1.stop
      have hStop₅ := (processOperand_takes hSrc1).1.stop
      have hStop₆ := (processOperand_takes hSrc2).1.stop
      dsimp only at hSame hStop₄ hStop₅ hStop₆
      have hPost' : (if row.postbyte ≠ PO.none then
            processPostfix build memory' row {} {} it₂
          else pure ({}, {}, it₂)) = .ok (postbyte, displacement, it₃) ∧
          it₂.pointer ≤ it₃.pointer ∧
          (row.postbyte ≠ PO.none → it₂.pointer < it₃.pointer) := by
        split at hPost
        · rename_i hSome
          obtain ⟨hTakes, hSize⟩ := processPostfix_takes hPost
          have hStop := hTakes.stop
          rw [hSize, IA32.addressingSize] at hStop
          rw [if_pos hSome]
          exact ⟨processPostfix_local hPost (hSame.mono (by omega) (by omega)), by omega,
            fun _ => by omega⟩
        · rename_i hNone
          cases hPost
          rw [if_neg hNone]
          exact ⟨rfl, Nat.le_refl _, fun hSome => absurd hSome hNone⟩
      obtain ⟨hPost', hLe, hLt⟩ := hPost'
      rw [processPrefix_local hPrefix (hSame.mono (Nat.le_refl _) (by omega)), except_ok_bind]
      dsimp only
      rw [findOpcode_local hFind (hSame.mono (by omega) (by omega))
        fun hSome => hSame _ (by omega) (by have := hLt hSome; omega), except_ok_bind]
      dsimp only
      rw [if_neg hTerminator]
      have hDst' := processOperand_local hDst (hSame.mono (by dsimp only; omega) (by omega))
      have hSrc1' := processOperand_local hSrc1 (hSame.mono (by dsimp only; omega) (by omega))
      have hSrc2' := processOperand_local hSrc2 (hSame.mono (by dsimp only; omega) (by omega))
      refine (congrArg (· >>= _) hPost').trans ?_
      rw [except_ok_bind]
      dsimp only
      rw [hDst', except_ok_bind]
      dsimp only
      rw [hSrc1', except_ok_bind]
      dsimp only
      rw [hSrc2']
      rfl

/-- A decoded block depends on its own bytes only. -/
theorem decodesTo_local {is : List Instruction} (h : DecodesTo build memory it is it')
    (hSame : Agree memory memory' it.pointer (it.pointer + codeBytes is)) :
    DecodesTo build memory' it is it' := by
  induction h with
  | nil => exact .nil _
  | cons first _ ih =>
    rename_i it it' it'' i is _
    have hNext := pointer_of_decode first
    rw [codeBytes_cons] at hSame
    exact .cons (decode_local first (hSame.mono (Nat.le_refl _) (by omega)))
      (ih (hSame.mono (by omega) (by omega)))

theorem covers_local {n : Nat} {is : List Instruction} (h : Covers build memory n it is)
    (hSame : Agree memory memory' it.pointer (it.pointer + codeBytes is)) :
    Covers build memory' n it is := by
  obtain ⟨⟨it', hDecodes⟩, hCovered, hLast⟩ := covers_iff.mp h
  exact covers_iff.mpr ⟨⟨it', decodesTo_local hDecodes hSame⟩, hCovered, hLast⟩

/-- What is moved depends on the moved bytes only. -/
theorem movedCode_congr {is : List Instruction} (dst : BitVec 64)
    (h : DecodesTo build memory it is it')
    (hSame : Agree memory memory' it.pointer (it.pointer + codeBytes is)) :
    movedCode memory it.pointer dst is = movedCode memory' it.pointer dst is := by
  induction h generalizing dst with
  | nil => rfl
  | cons first _ ih =>
    rename_i it it' it'' i is _
    obtain ⟨row, hd⟩ := decoded_of_decode first
    have hRelative := hd.relativeBytes_le
    have hNext := pointer_of_decode first
    rw [codeBytes_cons] at hSame
    have hFront : slice memory it.pointer (i.getSize - i.relativeBytes) =
        slice memory' it.pointer (i.getSize - i.relativeBytes) :=
      slice_congr fun x hLow hHigh => hSame x hLow (by omega)
    have hOperand : slice memory (it.pointer + (i.getSize - i.relativeBytes)) i.relativeBytes =
        slice memory' (it.pointer + (i.getSize - i.relativeBytes)) i.relativeBytes :=
      slice_congr fun x hLow hHigh => hSame x (by omega) (by omega)
    have hLater := ih (i.nextAt dst) (hSame.mono (by omega) (by omega))
    rw [hNext] at hLater
    rw [movedCode, movedCode, hLater, Instruction.movedBytes, Instruction.movedBytes,
      Instruction.movedValue, Instruction.movedValue, hFront, hOperand]

/-- **What `RelocateCode` makes of some code depends on the code that it moves**, and on nothing
that lies behind it. -/
theorem relocateCode_local {dst : BitVec 64} {minCodeBytes maxBufferSize n : Nat}
    {written : List UInt8}
    (h : relocateCode build memory dst it minCodeBytes maxBufferSize = .ok (n, written))
    (hPos : 0 < n) (hSame : Agree memory memory' it.pointer (it.pointer + n)) :
    relocateCode build memory' dst it minCodeBytes maxBufferSize = .ok (n, written) := by
  obtain ⟨is, hCovers, rfl, hFits, rfl⟩ := covers_of_relocateCode h hPos
  obtain ⟨⟨it', hDecodes⟩, -, -⟩ := covers_iff.mp hCovers
  rw [relocateCode_of_covers (covers_local hCovers hSame) fun _ => hFits,
    movedCode_congr dst hDecodes hSame]

/-- Two instructions in a row, of which the second one needs a byte of ModRM to be known. -/
theorem relocateCode_local_shortBranch :
    relocateCode .debug (holding 0x401000 [0x75, 0x02, 0x8b, 0xec, 0x83, 0xec, 0x08])
        0x10000010 codeStart 4 256 =
      .ok (4, [0x75, 0xf2, 0x8b, 0xec]) ∧
    relocateCode .debug (holding 0x401000 [0x75, 0x02, 0x8b, 0xec]) 0x10000010 codeStart 4 256 =
      .ok (4, [0x75, 0xf2, 0x8b, 0xec]) := by
  have hRun : relocateCode .debug (holding 0x401000 [0x75, 0x02, 0x8b, 0xec, 0x83, 0xec, 0x08])
      0x10000010 codeStart 4 256 = .ok (4, [0x75, 0xf2, 0x8b, 0xec]) := by
    decide +kernel
  refine ⟨hRun, relocateCode_local hRun (by decide) fun x hLow hHigh => ?_⟩
  have hStart : codeStart.pointer = 0x401000 := rfl
  rw [hStart] at hLow hHigh
  obtain rfl | rfl | rfl | rfl : x = 0x401000 ∨ x = 0x401001 ∨ x = 0x401002 ∨ x = 0x401003 := by
    omega
  all_goals rfl

end Giblet.CodeHook
