import Giblet.CodeHook.Instruction

/-!
# CodeHook — what a decoding has done

`Decoded memory it row i it'`: from `it`, decoding matched `row`, filled the
fresh instruction `i` and stopped at `it'`. Whatever else is proved about
decoding is derived from this (`decoded_of_decode`); above all, the bytes
that decoding moved past are `i.bytes row`, the ones `Emit` would write.
-/

namespace Giblet.CodeHook

open ByteStream Effect Instruction

variable {build : Build} {memory : Memory}

/-! ## Operands -/

theorem appendValue_eq (size : Nat) (v : BitVec 64) :
    appendValue size v = wordBytes size v.toNat := by
  -- the mask keeps the low byte, the shift takes it off
  induction size generalizing v with
  | zero => rfl
  | succ size ih =>
    have hlow : UInt8.ofNat (v &&& 0xff).toNat = UInt8.ofNat v.toNat := by
      apply UInt8.toNat_inj.mp
      rw [UInt8.toNat_ofNat', UInt8.toNat_ofNat', BitVec.toNat_and]
      exact (congrArg (· % 2 ^ 8) (Nat.and_two_pow_sub_one_eq_mod v.toNat 8)).trans
        (Nat.mod_mod _ _)
    have hrest : (v >>> 8).toNat = v.toNat / 256 := by
      rw [BitVec.toNat_ushiftRight, Nat.shiftRight_eq_div_pow]
    rw [appendValue, wordBytes, ih, hlow, hrest]

theorem length_appendOperand (op : Operand) : (appendOperand op).length = op.size := by
  rw [appendOperand, appendValue_eq, length_wordBytes]

/-- A stored value is written as its low bytes. -/
theorem appendOperand_setValue (type : OperandType) {size : Nat} (hsize : size ≤ 8)
    (v : BitVec 64) : appendOperand (Operand.setValue type size v) = wordBytes size v.toNat := by
  have hpow : 2 ^ (8 * size) ≤ 2 ^ 64 := Nat.pow_le_pow_right (by omega) (by omega)
  have hlt : v.toNat % 2 ^ (8 * size) < 2 ^ (8 * size) :=
    Nat.mod_lt _ (Nat.pow_pos (by omega))
  rw [appendOperand, appendValue_eq]
  show wordBytes size ((v.setWidth (8 * size)).setWidth 64).toNat = _
  rw [BitVec.toNat_setWidth, BitVec.toNat_setWidth, Nat.mod_eq_of_lt (by omega), wordBytes_mod]

/-- A value read from the code is written as it was read. -/
theorem appendOperand_setValue_word (type : OperandType) {xs : List UInt8}
    (hsize : xs.length ≤ 8) :
    appendOperand (Operand.setValue type xs.length (BitVec.ofNat 64 (word xs))) = xs := by
  have hpow : 2 ^ (8 * xs.length) ≤ 2 ^ 64 := Nat.pow_le_pow_right (by omega) (by omega)
  have hlt := word_lt xs
  rw [appendOperand_setValue type hsize, BitVec.toNat_ofNat, Nat.mod_eq_of_lt (by omega),
    wordBytes_word]

theorem intValue_setValue_word (type : OperandType) {xs : List UInt8} (hsize : xs.length ≤ 8) :
    (Operand.setValue type xs.length (BitVec.ofNat 64 (word xs))).intValue =
      BitVec.ofNat 64 (word xs) := by
  have hpow : 2 ^ (8 * xs.length) ≤ 2 ^ 64 := Nat.pow_le_pow_right (by omega) (by omega)
  have hlt := word_lt xs
  apply BitVec.eq_of_toNat_eq
  show (((BitVec.ofNat 64 (word xs)).setWidth (8 * xs.length)).setWidth 64).toNat = _
  rw [BitVec.toNat_setWidth, BitVec.toNat_setWidth, BitVec.toNat_ofNat,
    Nat.mod_eq_of_lt (show word xs < 2 ^ 64 by omega), Nat.mod_eq_of_lt hlt,
    Nat.mod_eq_of_lt (by omega)]

/-- The bytes of code that an operand of this type has. -/
def codeBytesOf : OperandType → Nat
  | .imm | .rel => machineSize
  | .imm8 | .rel8 => 1
  | .imm16 | .rel16 => 2
  | .imm32 | .rel32 => 4
  | .imm64 | .rel64 => 8
  | _ => 0

/-- The bytes of code that a row's operands have. -/
def OpcodeInfo.codeBytes (row : OpcodeInfo) : Nat :=
  codeBytesOf row.operandTypeDst + codeBytesOf row.operandTypeSrc1 +
    codeBytesOf row.operandTypeSrc2

theorem codeBytesOf_le (type : OperandType) : codeBytesOf type ≤ 8 := by
  cases type <;> decide

/-- The operand holds what a row's operand type asks for. -/
structure Operand.Fits (op : Operand) (type : OperandType) : Prop where
  size : op.size = codeBytesOf type
  relative : isRelative op.type = isRelative type
  value : op.intValue = BitVec.ofNat 64 (word (appendOperand op))

/-- The size that `ProcessOperand` asks for is known: it is never asked for another type's. -/
theorem processOperand_code {info : OpcodeInfo} {postbyte : PostByte} {it : OpcodeIterator}
    (op : Operand) {type : OperandType} (hcode : (isImmediate type || isRelative type) = true) :
    processOperand build memory info postbyte it op type =
      .ok (Operand.setValue type (codeBytesOf type)
        (BitVec.ofNat 64 (word (slice memory it.pointer (codeBytesOf type)))),
        it.advance (codeBytesOf type)) := by
  -- an operand of code has one of the four sizes that are read
  cases type <;> first | rfl | cases hcode

/-- Reading a value of `size` bytes. -/
theorem processOperand_code_takes {info : OpcodeInfo} {postbyte : PostByte}
    {it it' : OpcodeIterator} {op : Operand} {type : OperandType}
    (hcode : (isImmediate type || isRelative type) = true)
    (h : processOperand build memory info postbyte it {} type = .ok (op, it')) :
    Takes memory it.pointer (appendOperand op) it'.pointer ∧ op.Fits type := by
  rw [processOperand_code {} hcode] at h
  obtain ⟨rfl, rfl⟩ := Prod.mk.inj (Except.ok.inj h)
  have hsize : (slice memory it.pointer (codeBytesOf type)).length ≤ 8 := by
    rw [length_slice]
    exact codeBytesOf_le type
  have hbytes := appendOperand_setValue_word type hsize
  have hvalue := intValue_setValue_word type hsize
  rw [length_slice] at hbytes hvalue
  refine ⟨?_, rfl, rfl, ?_⟩
  · rw [hbytes]
    exact Takes.slice memory it.pointer _
  · rw [hbytes]
    exact hvalue

/-- What `ProcessOperand` makes of an operand that is still empty. -/
theorem processOperand_takes {info : OpcodeInfo} {postbyte : PostByte} {it it' : OpcodeIterator}
    {op : Operand} {type : OperandType}
    (h : processOperand build memory info postbyte it {} type = .ok (op, it')) :
    Takes memory it.pointer (appendOperand op) it'.pointer ∧ op.Fits type := by
  -- An operand without code leaves the iterator where it is.
  have hstay : ∀ type₀, isRelative type₀ = isRelative type → codeBytesOf type = 0 →
      (Operand.create type₀, it) = (op, it') →
      Takes memory it.pointer (appendOperand op) it'.pointer ∧ op.Fits type := by
    intro type₀ hrel hcode heq
    obtain ⟨rfl, rfl⟩ := Prod.mk.inj heq
    exact ⟨Takes.nil memory it.pointer, hcode.symm, hrel, rfl⟩
  cases type with
  | gpreg | gpreg8 | sreg | none => exact hstay _ rfl rfl (Except.ok.inj h)
  -- the assertions leave the operand alone
  | mrmR | mrmSr | mrmR8 =>
    obtain ⟨_, _, h⟩ := except_bind_eq_ok h
    obtain ⟨_, _, h⟩ := except_bind_eq_ok h
    exact hstay _ rfl rfl (Except.ok.inj h)
  | mrm | mrm8 =>
    obtain ⟨_, _, h⟩ := except_bind_eq_ok h
    exact hstay _ rfl rfl (Except.ok.inj h)
  | pend =>
    obtain ⟨_, _, h⟩ := except_bind_eq_ok h
    exact hstay .none rfl rfl (Except.ok.inj h)
  | imm | imm8 | imm16 | imm32 | imm64 | rel | rel8 | rel16 | rel32 | rel64 =>
    exact processOperand_code_takes rfl h

/-! ## ModRM -/

/-- ModRM at an address, with the SIB byte after it if it has one. -/
def PostByte.read (memory : Memory) (a : Nat) : PostByte where
  modRM := some (memory a)
  sib := if IA32.hasSIB (memory a) then some (memory (a + 1)) else none

/-- The accessors' assertions hold once there is a ModRM byte. -/
theorem PostByte.ofModRM_some (build : Build) {p : PostByte} {modRM : UInt8}
    (h : p.modRM = some modRM) (field : UInt8 → UInt8) :
    p.ofModRM build field = .ok (field modRM) := by
  unfold PostByte.ofModRM PostByte.getHasModRM
  rw [h]
  cases build <;> rfl

theorem PostByte.assign_eq (build : Build) (memory : Memory) (it : OpcodeIterator)
    (autoInc : Bool) :
    PostByte.assign build memory {} it autoInc =
      .ok ((postbyteBytes (PostByte.read memory it.pointer)).length,
        PostByte.read memory it.pointer,
        if autoInc then it.advance (postbyteBytes (PostByte.read memory it.pointer)).length
        else it) := by
  -- a SIB byte follows exactly when the format says so
  have hiff : IA32.hasSIB (memory it.pointer) = true ↔
      memory it.pointer >>> 6 ≠ PostByte.mode.reg ∧
        memory it.pointer &&& 7 = PostByte.regs.pbyteSib := by
    unfold IA32.hasSIB
    rw [Bool.and_eq_true, bne_iff_ne, beq_iff_eq]
    exact Iff.rfl
  unfold PostByte.assign PostByte.read PostByte.getMode PostByte.getRegisterOrMode
  dsimp only [OpcodeIterator.at, Nat.add_zero]
  rw [PostByte.ofModRM_some build rfl, PostByte.ofModRM_some build rfl, except_ok_bind,
    except_ok_bind]
  by_cases hsib : IA32.hasSIB (memory it.pointer) = true
  · rw [if_pos hsib, if_pos (hiff.mp hsib)]
    cases autoInc <;> rfl
  · rw [if_neg hsib, if_neg (mt hiff.mpr hsib)]
    cases autoInc <;> rfl

theorem PostByte.getMode_read (build : Build) (memory : Memory) (a : Nat) :
    (PostByte.read memory a).getMode build = .ok (IA32.mode (memory a)) :=
  PostByte.ofModRM_some build rfl _

theorem PostByte.getRegisterOrOpcode_read (build : Build) (memory : Memory) (a : Nat) :
    (PostByte.read memory a).getRegisterOrOpcode build = .ok (IA32.digit (memory a)) :=
  PostByte.ofModRM_some build rfl _

theorem PostByte.getRegisterOrMode_read (build : Build) (memory : Memory) (a : Nat) :
    (PostByte.read memory a).getRegisterOrMode build = .ok (IA32.rm (memory a)) :=
  PostByte.ofModRM_some build rfl _

theorem PostByte.read_takes (memory : Memory) (a : Nat) :
    Takes memory a (postbyteBytes (PostByte.read memory a))
      (a + (postbyteBytes (PostByte.read memory a)).length) := by
  unfold PostByte.read postbyteBytes
  split
  · exact (Takes.one memory a).append (Takes.one memory (a + 1))
  · exact Takes.one memory a

theorem PostByte.read_base_iff (memory : Memory) (a : Nat) :
    ((PostByte.read memory a).getHasSIB = true ∧
        (PostByte.read memory a).getBase = PostByte.regs.sibbaseDisp) ↔
      IA32.hasSIB (memory a) = true ∧ IA32.rm (memory (a + 1)) = 5 := by
  unfold PostByte.read PostByte.getHasSIB PostByte.getBase
  by_cases hsib : IA32.hasSIB (memory a) = true
  · rw [if_pos hsib]
    exact and_congr_left fun _ => ⟨fun _ => hsib, fun _ => rfl⟩
  · rw [if_neg hsib]
    exact ⟨fun h => absurd h.1 Bool.false_ne_true, fun h => absurd h.1 hsib⟩

/-- A displacement of `n` bytes, as it is read. -/
def readDisplacement (memory : Memory) (a n : Nat) : Operand :=
  .setValue (if n = 1 then .imm8 else .imm) n (BitVec.ofNat 64 (word (slice memory a n)))

/-- The displacement has the size that ModRM and SIB ask for; without one, the operand stays
what it was. -/
theorem processDisplacement_eq {info : OpcodeInfo} (a : Nat) (it : OpcodeIterator)
    (op : Operand) :
    processDisplacement build memory info (PostByte.read memory a) op it =
      .ok (if IA32.displacementSize (memory a) (memory (a + 1)) = 0 then (op, it)
        else (readDisplacement memory it.pointer
            (IA32.displacementSize (memory a) (memory (a + 1))),
          it.advance (IA32.displacementSize (memory a) (memory (a + 1))))) := by
  -- an immediate operand is read, of the size that is asked for
  have hread : ∀ type : OperandType, type = .imm ∨ type = .imm8 →
      codeBytesOf type = IA32.displacementSize (memory a) (memory (a + 1)) →
      processOperand build memory info (PostByte.read memory a) it op type =
        .ok (if IA32.displacementSize (memory a) (memory (a + 1)) = 0 then (op, it)
          else (readDisplacement memory it.pointer
              (IA32.displacementSize (memory a) (memory (a + 1))),
            it.advance (IA32.displacementSize (memory a) (memory (a + 1))))) := by
    intro type htype hsize
    rw [← hsize]
    rcases htype with rfl | rfl <;> rfl
  unfold processDisplacement
  rw [PostByte.getMode_read, except_ok_bind]
  -- mode by mode, as the code does
  rcases IA32.mode_cases (memory a) with hmode | hmode | hmode | hmode
  · rw [hmode, if_pos (show (0 : UInt8) = PostByte.mode.regInd from rfl),
      PostByte.getRegisterOrMode_read, except_ok_bind]
    by_cases hrm : IA32.rm (memory a) = PostByte.regs.pbyteDisp
    · rw [if_pos hrm]
      have hfive : IA32.rm (memory a) = 5 := hrm
      refine hread .imm (.inl rfl) ?_
      simp [IA32.displacementSize, hmode, hfive, codeBytesOf, machineSize]
    · rw [if_neg hrm]
      have hfive : ¬IA32.rm (memory a) = 5 := hrm
      by_cases hsib : IA32.hasSIB (memory a) = true ∧ IA32.rm (memory (a + 1)) = 5
      · rw [if_pos ((PostByte.read_base_iff memory a).mpr hsib)]
        refine hread .imm (.inl rfl) ?_
        simp [IA32.displacementSize, hmode, hsib, codeBytesOf, machineSize]
      · rw [if_neg (mt (PostByte.read_base_iff memory a).mp hsib), if_pos]
        · rfl
        · simp [IA32.displacementSize, hmode, hfive, hsib]
  · rw [hmode]
    refine hread .imm8 (.inr rfl) ?_
    simp [IA32.displacementSize, hmode, codeBytesOf]
  · rw [hmode]
    refine hread .imm (.inl rfl) ?_
    simp [IA32.displacementSize, hmode, codeBytesOf, machineSize]
  · rw [if_pos (show IA32.displacementSize _ _ = 0 by simp [IA32.displacementSize, hmode]), hmode]
    rfl

theorem processDisplacement_takes {info : OpcodeInfo} {a : Nat} {it it' : OpcodeIterator}
    {op : Operand}
    (h : processDisplacement build memory info (PostByte.read memory a) {} it = .ok (op, it')) :
    Takes memory it.pointer (appendOperand op) it'.pointer ∧
      op.size = IA32.displacementSize (memory a) (memory (a + 1)) := by
  rw [processDisplacement_eq] at h
  have hle : IA32.displacementSize (memory a) (memory (a + 1)) ≤ 8 :=
    Nat.le_trans (IA32.displacementSize_le _ _) (by decide)
  split at h
  · rename_i hzero
    cases h
    exact ⟨Takes.nil memory _, hzero.symm⟩
  · cases h
    refine ⟨?_, rfl⟩
    have hlength : (slice memory it.pointer
        (IA32.displacementSize (memory a) (memory (a + 1)))).length ≤ 8 := by rwa [length_slice]
    have hbytes := appendOperand_setValue_word
      (if IA32.displacementSize (memory a) (memory (a + 1)) = 1 then OperandType.imm8 else .imm)
      hlength
    rw [length_slice] at hbytes
    rw [readDisplacement, hbytes]
    exact Takes.slice memory it.pointer _

/-- What `ProcessPostfix` reads is what ModRM and SIB ask for. -/
theorem processPostfix_takes {info : OpcodeInfo} {it it' : OpcodeIterator}
    {postbyte : PostByte} {displacement : Operand}
    (h : processPostfix build memory info {} {} it = .ok (postbyte, displacement, it')) :
    Takes memory it.pointer (postbyteBytes postbyte ++ appendOperand displacement) it'.pointer ∧
      (postbyteBytes postbyte ++ appendOperand displacement).length =
        IA32.addressingSize (memory it.pointer) (memory (it.pointer + 1)) := by
  unfold processPostfix at h
  rw [PostByte.assign_eq, except_ok_bind] at h
  -- the assertion on the opcode's digit changes nothing
  obtain ⟨_, _, h⟩ := except_bind_eq_ok h
  obtain ⟨_, _, h⟩ := except_bind_eq_ok h
  obtain ⟨⟨disp, iter⟩, hdisp, h⟩ := except_bind_eq_ok h
  cases h
  obtain ⟨htakes, hsize⟩ := processDisplacement_takes hdisp
  refine ⟨(PostByte.read_takes memory it.pointer).append htakes, ?_⟩
  rw [List.length_append, length_appendOperand, hsize, IA32.addressingSize]
  congr 1
  unfold PostByte.read postbyteBytes
  split <;> rfl

/-! ## Prefixes and opcode -/

theorem processPrefix_takes {room : Nat} {it it' : OpcodeIterator} {bytes : List UInt8}
    (h : processPrefix memory room it = .ok (bytes, it')) :
    Takes memory it.pointer bytes it'.pointer ∧ bytes.length ≤ room ∧
      (∀ b ∈ bytes, isPrefixByte b = true) ∧ isPrefixByte (memory it'.pointer) = false := by
  -- on the room that is left for prefixes
  induction room generalizing it bytes with
  | zero =>
    rw [processPrefix] at h
    split at h
    · cases h
    · rename_i hnot
      cases h
      exact ⟨Takes.nil memory _, Nat.le_refl 0, nofun, Bool.eq_false_iff.mpr hnot⟩
  | succ room ih =>
    rw [processPrefix] at h
    split at h
    · rename_i hpre
      obtain ⟨⟨rest, _⟩, hrest, h⟩ := except_bind_eq_ok h
      cases h
      obtain ⟨htakes, hlen, hall, hstop⟩ := ih hrest
      refine ⟨(Takes.one memory it.pointer).append htakes, Nat.succ_le_succ hlen, ?_, hstop⟩
      intro b hb
      cases hb with
      | head => exact hpre
      | tail _ hb => exact hall b hb
    · rename_i hnot
      cases h
      exact ⟨Takes.nil memory _, Nat.zero_le _, nofun, Bool.eq_false_iff.mpr hnot⟩

theorem matchOpcode_takes {row : OpcodeInfo} {it it' : OpcodeIterator}
    (h : row.matchOpcode memory it = some it') :
    Takes memory it.pointer (opcodeBytes row) it'.pointer := by
  unfold OpcodeInfo.matchOpcode at h
  split at h
  · rename_i hmatch
    cases h
    rw [opcodeBytes, if_pos hmatch.1, hmatch.2.1, hmatch.2.2]
    exact (Takes.one memory _).append (Takes.one memory _)
  · split at h
    · rename_i hmatch
      cases h
      rw [opcodeBytes, if_neg (not_not_intro hmatch.1), hmatch.2, List.nil_append]
      exact Takes.one memory _
    · cases h

/-- The row has no ModRM, takes any, or extends its opcode by this digit of ModRM. -/
def OpcodeInfo.Accepts (row : OpcodeInfo) (digit : UInt8) : Prop :=
  row.postbyte = PO.none ∨ row.postbyte = PO.register ∨ row.postbyte = digit

instance (row : OpcodeInfo) (digit : UInt8) : Decidable (row.Accepts digit) :=
  inferInstanceAs (Decidable (_ ∨ _ ∨ _))

/-- The iterator past the opcode, if the row has the opcode and the digit there. -/
def OpcodeInfo.matchRow (memory : Memory) (it : OpcodeIterator) (row : OpcodeInfo) :
    Option OpcodeIterator :=
  (row.matchOpcode memory it).filter fun it' => row.Accepts (IA32.digit (memory it'.pointer))

/-- The search finds the first row that matches, and asserts nothing that fails. -/
theorem findRow_eq (build : Build) (memory : Memory) (it : OpcodeIterator)
    (rows : List OpcodeInfo) :
    findRow build memory it rows =
      .ok (rows.findSome? fun row => (row.matchRow memory it).map fun it' => (row, it')) := by
  induction rows with
  | nil => rfl
  | cons first rows ih =>
    rw [findRow, List.findSome?_cons, OpcodeInfo.matchRow]
    cases hmatch : first.matchOpcode memory it with
    | none => exact ih
    | some iter =>
      by_cases hnone : first.postbyte = PO.none
      · have haccepts : first.Accepts (IA32.digit (memory iter.pointer)) := .inl hnone
        simp only [hnone, ne_eq, not_true_eq_false, if_false, Option.filter_some, haccepts,
          decide_true, if_true, Option.map_some]
        rfl
      · dsimp only
        rw [if_pos hnone, PostByte.assign_eq, except_ok_bind]
        dsimp only
        rw [if_neg (by simp [postbyteBytes, PostByte.read]), PostByte.getRegisterOrOpcode_read,
          except_ok_bind]
        -- the row is passed over exactly when the digit is another row's
        by_cases haccepts : first.Accepts (IA32.digit (memory iter.pointer))
        · rw [if_neg (fun hother => haccepts.elim hnone (Or.rec hother.1 hother.2))]
          simp only [Option.filter_some, haccepts, decide_true, if_true, Option.map_some]
          rfl
        · have hother : first.postbyte ≠ PO.register ∧
              first.postbyte ≠ IA32.digit (memory iter.pointer) :=
            ⟨fun h => haccepts (.inr (.inl h)), fun h => haccepts (.inr (.inr h))⟩
          rw [if_pos hother, ih]
          simp only [Option.filter_some, haccepts, decide_false, Bool.false_eq_true, if_false,
            Option.map_none]

theorem findRow_some {rows : List OpcodeInfo} {row : OpcodeInfo} {it it' : OpcodeIterator}
    (h : findRow build memory it rows = .ok (some (row, it'))) :
    row ∈ rows ∧ Takes memory it.pointer (opcodeBytes row) it'.pointer ∧
      row.Accepts (IA32.digit (memory it'.pointer)) := by
  rw [findRow_eq] at h
  obtain ⟨first, hmem, hfirst⟩ := List.exists_of_findSome?_eq_some (Except.ok.inj h)
  obtain ⟨iter, hmatch, heq⟩ := Option.map_eq_some_iff.mp hfirst
  cases heq
  obtain ⟨hopcode, haccepts⟩ := Option.filter_eq_some_iff.mp hmatch
  exact ⟨hmem, matchOpcode_takes hopcode, of_decide_eq_true haccepts⟩

/-- A row that matches is not passed over, except for one before it. -/
theorem findRow_isSome (build : Build) {rows : List OpcodeInfo} {row : OpcodeInfo}
    {it : OpcodeIterator} (hmem : row ∈ rows)
    (hpre : row.opPrefix = 0) (hopcode : it.at memory 0 = row.opcode)
    (haccepts : row.Accepts (IA32.digit (memory (it.pointer + 1)))) :
    ∃ found, findRow build memory it rows = .ok (some found) := by
  have hmatch : row.matchRow memory it = some (it.advance 1) := by
    rw [OpcodeInfo.matchRow, OpcodeInfo.matchOpcode, if_neg (fun h => h.1 hpre),
      if_pos ⟨hpre, hopcode.symm⟩]
    exact Option.filter_eq_some_iff.mpr ⟨rfl, decide_eq_true haccepts⟩
  have hsome : (rows.findSome? fun row =>
      (row.matchRow memory it).map fun it' => (row, it')).isSome = true := by
    rw [List.findSome?_isSome_iff]
    exact ⟨row, hmem, by rw [hmatch]; rfl⟩
  obtain ⟨found, hfound⟩ := Option.isSome_iff_exists.mp hsome
  exact ⟨found, by rw [findRow_eq, hfound]⟩

/-! ## Whole instructions -/

/-- From `it`, decoding matched `row`, filled `i` and stopped at `it'`. -/
structure Decoded (memory : Memory) (it : OpcodeIterator) (row : OpcodeInfo) (i : Instruction)
    (it' : OpcodeIterator) : Prop where
  mem : row ∈ opcodeRows
  notTerminator : row.isTerminator = false
  info : i.info = some row
  address : i.address = it.getAddress
  codeSize : i.codeSize = it'.getAddress - it.getAddress
  takes : Takes memory it.pointer (i.bytes row) it'.pointer
  prefixTakes : Takes memory it.pointer i.prefixBytes (it.pointer + i.prefixBytes.length)
  opcodeTakes : Takes memory (it.pointer + i.prefixBytes.length) (opcodeBytes row)
    (it.pointer + i.prefixBytes.length + (opcodeBytes row).length)
  prefixCount : i.prefixBytes.length ≤ maxPrefixBytes
  prefixes : ∀ b ∈ i.prefixBytes, isPrefixByte b = true
  notPrefix : isPrefixByte (memory (it.pointer + i.prefixBytes.length)) = false
  accepts : row.Accepts
    (IA32.digit (memory (it.pointer + i.prefixBytes.length + (opcodeBytes row).length)))
  addressing : (postbyteBytes i.postbyte ++ appendOperand i.displacement).length =
    if row.postbyte = PO.none then 0
    else IA32.addressingSize
      (memory (it.pointer + i.prefixBytes.length + (opcodeBytes row).length))
      (memory (it.pointer + i.prefixBytes.length + (opcodeBytes row).length + 1))
  dst : i.operandDst.Fits row.operandTypeDst
  src1 : i.operandSrc1.Fits row.operandTypeSrc1
  src2 : i.operandSrc2.Fits row.operandTypeSrc2

theorem decoded_of_decode {it it' : OpcodeIterator} {i : Instruction}
    (h : decode build memory {} it = .ok (true, i, it')) :
    ∃ row, Decoded memory it row i it' := by
  unfold decode at h
  obtain ⟨⟨prefixBytes, it₁⟩, hpre, h⟩ := except_bind_eq_ok h
  obtain ⟨htakes₁, hcount, hall, hstop⟩ := processPrefix_takes hpre
  obtain ⟨found, hfind, h⟩ := except_bind_eq_ok h
  dsimp only at h
  split at h
  · cases h
  · rename_i row it₂
    obtain ⟨hmem, htakes₂, haccepts⟩ := findRow_some hfind
    split at h
    · cases h
    · rename_i hterm
      obtain ⟨⟨postbyte, displacement, it₃⟩, hpost, h⟩ := except_bind_eq_ok h
      obtain ⟨⟨dst, it₄⟩, hdst, h⟩ := except_bind_eq_ok h
      obtain ⟨⟨src1, it₅⟩, hsrc1, h⟩ := except_bind_eq_ok h
      obtain ⟨⟨src2, it₆⟩, hsrc2, h⟩ := except_bind_eq_ok h
      cases h
      obtain ⟨htakes₄, hfits₄⟩ := processOperand_takes hdst
      obtain ⟨htakes₅, hfits₅⟩ := processOperand_takes hsrc1
      obtain ⟨htakes₆, hfits₆⟩ := processOperand_takes hsrc2
      have htakes₃ : Takes memory it₂.pointer
            (postbyteBytes postbyte ++ appendOperand displacement) it₃.pointer ∧
          (postbyteBytes postbyte ++ appendOperand displacement).length =
            if row.postbyte = PO.none then 0
            else IA32.addressingSize (memory it₂.pointer) (memory (it₂.pointer + 1)) := by
        split at hpost
        · rename_i hsome
          rw [if_neg hsome]
          exact processPostfix_takes hpost
        · rename_i hnone
          cases hpost
          rw [if_pos (Decidable.not_not.mp hnone)]
          exact ⟨Takes.nil memory _, rfl⟩
      -- each part starts where the one before it has stopped
      have hstop₁ : it₁.pointer = it.pointer + prefixBytes.length := htakes₁.stop
      have hstop₂ : it₂.pointer = it.pointer + prefixBytes.length + (opcodeBytes row).length := by
        rw [← hstop₁]
        exact htakes₂.stop
      refine ⟨row, ⟨hmem, Bool.eq_false_iff.mpr hterm, rfl, rfl, rfl, ?_, ?_, ?_, hcount, hall,
        ?_, ?_, ?_, hfits₄, hfits₅, hfits₆⟩⟩
      · have hall := ((((htakes₁.append htakes₂).append htakes₃.1).append htakes₄).append
          htakes₅).append htakes₆
        rw [← List.append_assoc] at hall
        exact hall
      · rw [← hstop₁]
        exact htakes₁
      · rw [← hstop₁, ← htakes₂.stop]
        exact htakes₂
      · rw [← hstop₁]
        exact hstop
      · rw [← hstop₂]
        exact haccepts
      · rw [← hstop₂]
        exact htakes₃.2

/-- The assertion on the emitted length holds when it should. -/
theorem emit_eq {row : OpcodeInfo} {j : Instruction} (hinfo : j.info = some row)
    (hlength : (j.bytes row).length = j.getSize) : j.emit build = .ok (j.bytes row) := by
  unfold emit
  rw [hinfo]
  dsimp only
  rw [hlength, beq_self_eq_true]
  cases build <;> rfl

namespace Decoded

variable {it it' : OpcodeIterator} {row : OpcodeInfo} {i : Instruction}

theorem length_bytes (h : Decoded memory it row i it') :
    (i.bytes row).length = i.prefixBytes.length + (opcodeBytes row).length +
      (postbyteBytes i.postbyte ++ appendOperand i.displacement).length + row.codeBytes := by
  unfold Instruction.bytes OpcodeInfo.codeBytes
  simp only [List.length_append, length_appendOperand, h.dst.size, h.src1.size, h.src2.size]
  omega

theorem length_bytes_lt (h : Decoded memory it row i it') : (i.bytes row).length < 2 ^ 64 := by
  -- four prefixes, two bytes of opcode, six of addressing, and three operands
  have hpre : i.prefixBytes.length ≤ 4 := h.prefixCount
  have hopcode : (opcodeBytes row).length ≤ 2 := by
    unfold opcodeBytes
    split <;> simp
  have haddressing : (postbyteBytes i.postbyte ++ appendOperand i.displacement).length ≤ 6 := by
    rw [h.addressing]
    split
    · omega
    · exact IA32.addressingSize_le _ _
  have hdst := codeBytesOf_le row.operandTypeDst
  have hsrc1 := codeBytesOf_le row.operandTypeSrc1
  have hsrc2 := codeBytesOf_le row.operandTypeSrc2
  rw [h.length_bytes]
  unfold OpcodeInfo.codeBytes
  omega

/-- `getSize` counts the bytes that decoding moved past. -/
theorem codeSize_eq (h : Decoded memory it row i it') :
    i.codeSize = BitVec.ofNat 64 (i.bytes row).length := by
  rw [h.codeSize, OpcodeIterator.getAddress, OpcodeIterator.getAddress, h.takes.stop,
    BitVec.ofNat_add, BitVec.add_comm, BitVec.add_sub_cancel]

theorem getSize_eq (h : Decoded memory it row i it') : i.getSize = (i.bytes row).length := by
  rw [Instruction.getSize, h.codeSize_eq, BitVec.toNat_ofNat, Nat.mod_eq_of_lt h.length_bytes_lt]

theorem getSize_pos (h : Decoded memory it row i it') : 0 < i.getSize := by
  have hopcode : 0 < (opcodeBytes row).length := by
    unfold opcodeBytes
    rw [List.length_append]
    exact Nat.lt_add_left _ (Nat.succ_pos _)
  rw [h.getSize_eq, h.length_bytes]
  omega

end Decoded

end Giblet.CodeHook
