import Giblet.CodeHook.Decoded
import Giblet.Lib.Displacement

/-!
# CodeHook — moving code

`RelocateCode` copies whole instructions and adjusts relative operands. It
writes each of them before it decodes the next one (`relocateCodeInto`). A
block that is apart from the code cannot change what is decoded, so there the
written bytes can be collected beside the code that is read (`relocateCode`).

An adjusted operand is cut to its width, and nothing looks at what was cut
off. A copied instruction is the original up to its relative operand, and
leads to the same place if the operand can hold the distance
(`Decoded.copy_iff`); only short branches can be out of reach
(`Decoded.reaches_iff`).
-/

namespace Giblet.CodeHook

open ByteStream Effect Instruction

variable {build : Build} {memory : Memory}

/-! ## The model -/

theorem getSize_pos_of_decode {it it' : OpcodeIterator} {i : Instruction}
    (h : decode build memory {} it = .ok (true, i, it')) : 0 < i.getSize := by
  obtain ⟨row, hd⟩ := decoded_of_decode h
  exact hd.getSize_pos

/-- The loop of `RelocateCode`: `totalBytes` bytes are done, and `written` lies at `dstPtr`. -/
def relocateLoopInto (build : Build) (memory : Memory) (dstPtr : BitVec 64)
    (minCodeBytes maxBufferSize : Nat) (opIter : OpcodeIterator) (address : BitVec 64)
    (totalBytes : Nat) (written : List UInt8) : Except Fault (Nat × List UInt8) :=
  if totalBytes < minCodeBytes then
    -- the decoder sees what was written so far
    match _hdecode : decode build (write memory dstPtr.toNat written) {} opIter with
    | .error e => throw e
    -- an instruction that is not known: the caller sees 0, the bytes stay written
    | .ok (false, _, _) => return (0, written)
    | .ok (true, opcode, opIter') =>
      -- the bound is on the buffer, and reaching it counts as too long
      if totalBytes + opcode.getSize ≥ maxBufferSize then return (0, written)
      else do
        let relocated ← opcode.relocate build address
        let bytes ← relocated.emit build
        relocateLoopInto build memory dstPtr minCodeBytes maxBufferSize opIter'
          (address + BitVec.ofNat 64 opcode.getSize) (totalBytes + opcode.getSize)
          (written ++ bytes)
  else return (totalBytes, written)
termination_by minCodeBytes - totalBytes
decreasing_by
  have := getSize_pos_of_decode _hdecode
  omega

/-- `RelocateCode`: the result, and the bytes that lie at `dstPtr` then. -/
def relocateCodeInto (build : Build) (memory : Memory) (dstPtr : BitVec 64)
    (srcPtr : OpcodeIterator) (minCodeBytes maxBufferSize : Nat) :
    Except Fault (Nat × List UInt8) :=
  relocateLoopInto build memory dstPtr minCodeBytes maxBufferSize srcPtr dstPtr 0 []

/-- The loop for a destination apart from the code, which the decoder sees as it was. -/
def relocateLoop (build : Build) (memory : Memory) (minCodeBytes maxBufferSize : Nat)
    (opIter : OpcodeIterator) (address : BitVec 64) (totalBytes : Nat) (written : List UInt8) :
    Except Fault (Nat × List UInt8) :=
  if totalBytes < minCodeBytes then
    match _hdecode : decode build memory {} opIter with
    | .error e => throw e
    | .ok (false, _, _) => return (0, written)
    | .ok (true, opcode, opIter') =>
      if totalBytes + opcode.getSize ≥ maxBufferSize then return (0, written)
      else do
        let relocated ← opcode.relocate build address
        let bytes ← relocated.emit build
        relocateLoop build memory minCodeBytes maxBufferSize opIter'
          (address + BitVec.ofNat 64 opcode.getSize) (totalBytes + opcode.getSize)
          (written ++ bytes)
  else return (totalBytes, written)
termination_by minCodeBytes - totalBytes
decreasing_by
  have := getSize_pos_of_decode _hdecode
  omega

/-- `RelocateCode` for a destination apart from the code. -/
def relocateCode (build : Build) (memory : Memory) (dstPtr : BitVec 64) (srcPtr : OpcodeIterator)
    (minCodeBytes maxBufferSize : Nat) : Except Fault (Nat × List UInt8) :=
  relocateLoop build memory minCodeBytes maxBufferSize srcPtr dstPtr 0 []

/-! ## What a copy is -/

/-- The bytes of relative operands at the end of an instruction. -/
def OpcodeInfo.relativeBytes (row : OpcodeInfo) : Nat :=
  (if isRelative row.operandTypeDst then codeBytesOf row.operandTypeDst else 0) +
    (if isRelative row.operandTypeSrc1 then codeBytesOf row.operandTypeSrc1 else 0) +
    (if isRelative row.operandTypeSrc2 then codeBytesOf row.operandTypeSrc2 else 0)

def Instruction.relativeBytes (i : Instruction) : Nat :=
  match i.info with
  | none => 0
  | some row => row.relativeBytes

/-- The address, in 32-bit mode, that a relative operand of `n` bytes leads to. -/
def branchTarget (n : Nat) (next : BitVec 64) (operand : List UInt8) : BitVec 32 :=
  Displacement.target (next.setWidth 32) (BitVec.ofNat (8 * n) (word operand))

/-- Where the instruction at `a` leads to. -/
def Instruction.target (memory : Memory) (a : Nat) (i : Instruction) : BitVec 32 :=
  branchTarget i.relativeBytes (BitVec.ofNat 64 (a + i.getSize))
    (slice memory (a + (i.getSize - i.relativeBytes)) i.relativeBytes)

/-- The address after the instruction when it lies at `dst`. -/
def Instruction.nextAt (dst : BitVec 64) (i : Instruction) : BitVec 64 :=
  dst + BitVec.ofNat 64 i.getSize

/-- The address is one of the `n` from `start` on. -/
def InRange (start n : Nat) (a : BitVec 32) : Prop := (a - BitVec.ofNat 32 start).toNat < n

instance (start n : Nat) (a : BitVec 32) : Decidable (InRange start n a) :=
  inferInstanceAs (Decidable (_ < _))

/-- `chunk`, at `dst`, does what the instruction at `a` does. -/
structure Copy (memory : Memory) (range : BitVec 32 → Prop) (a : Nat) (dst : BitVec 64)
    (i : Instruction) (chunk : List UInt8) : Prop where
  length : chunk.length = i.getSize
  same : chunk.take (i.getSize - i.relativeBytes) = slice memory a (i.getSize - i.relativeBytes)
  target : 0 < i.relativeBytes → ¬range (i.target memory a) →
    branchTarget i.relativeBytes (i.nextAt dst) (chunk.drop (i.getSize - i.relativeBytes)) =
      i.target memory a

/-- The bytes at `dst` copy the instructions from `a` on, one after the other. -/
inductive Copies (memory : Memory) (range : BitVec 32 → Prop) :
    Nat → BitVec 64 → List Instruction → List UInt8 → Prop
  | nil (a dst) : Copies memory range a dst [] []
  | cons {a dst i is chunk rest} (first : Copy memory range a dst i chunk)
    (later : Copies memory range (a + i.getSize) (i.nextAt dst) is rest) :
    Copies memory range a dst (i :: is) (chunk ++ rest)

/-- The instructions that decoding finds one after the other until they cover `n` bytes. -/
inductive Covers (build : Build) (memory : Memory) :
    Nat → OpcodeIterator → List Instruction → Prop
  | done (it) : Covers build memory 0 it []
  | next {n it it' i is} (more : 0 < n) (first : decode build memory {} it = .ok (true, i, it'))
    (later : Covers build memory (n - i.getSize) it' is) : Covers build memory n it (i :: is)

def codeBytes (is : List Instruction) : Nat := (is.map Instruction.getSize).sum

/-- Every branch out of the range reaches its target from its new place, with the
operand's width. -/
def AllReach (memory : Memory) (range : BitVec 32 → Prop) :
    Nat → BitVec 64 → List Instruction → Prop
  | _, _, [] => True
  | a, dst, i :: is =>
    (0 < i.relativeBytes → ¬range (i.target memory a) →
      Displacement.Reaches (8 * i.relativeBytes) ((i.nextAt dst).setWidth 32)
        (i.target memory a)) ∧
    AllReach memory range (a + i.getSize) (i.nextAt dst) is

/-- Every short branch out of the range lies within a signed byte of its target. -/
def ShortBranchesReach (memory : Memory) (range : BitVec 32 → Prop) :
    Nat → BitVec 64 → List Instruction → Prop
  | _, _, [] => True
  | a, dst, i :: is =>
    (i.relativeBytes = 1 → ¬range (i.target memory a) →
      -128 ≤ (i.target memory a - (i.nextAt dst).setWidth 32).toInt ∧
        (i.target memory a - (i.nextAt dst).setWidth 32).toInt ≤ 127) ∧
    ShortBranchesReach memory range (a + i.getSize) (i.nextAt dst) is

/-! ## One instruction -/

/-- Only the first source operand is ever relative; it ends the instruction and has one
or four bytes. -/
theorem relative_opcodeRows : ∀ row ∈ opcodeRows,
    isRelative row.operandTypeDst = false ∧ isRelative row.operandTypeSrc2 = false ∧
      (isRelative row.operandTypeSrc1 = true → codeBytesOf row.operandTypeSrc2 = 0 ∧
        (codeBytesOf row.operandTypeSrc1 = 1 ∨ codeBytesOf row.operandTypeSrc1 = 4)) := by
  decide +kernel

/-- The value that a relative operand gets when the instruction moves from `a` to `dst`. -/
def Instruction.movedValue (memory : Memory) (a : Nat) (dst : BitVec 64) (i : Instruction) :
    BitVec 64 :=
  BitVec.ofNat 64 (a + i.getSize) +
    BitVec.ofNat 64
      (word (slice memory (a + (i.getSize - i.relativeBytes)) i.relativeBytes)) -
    i.nextAt dst

/-- The instruction's bytes after the move from `a` to `dst`. -/
def Instruction.movedBytes (memory : Memory) (a : Nat) (dst : BitVec 64) (i : Instruction) :
    List UInt8 :=
  slice memory a (i.getSize - i.relativeBytes) ++
    wordBytes i.relativeBytes (i.movedValue memory a dst).toNat

section Instruction

variable {it it' : OpcodeIterator} {row : OpcodeInfo} {i : Instruction}

theorem relocateOperand_of_not {op : Operand} (h : isRelative op.type = false) (dst : BitVec 64) :
    i.relocateOperand build dst op = .ok op := by
  unfold relocateOperand
  rw [if_neg (by rw [h]; exact Bool.false_ne_true)]
  rfl

theorem relocateOperand_of_relative {op : Operand} (h : isRelative op.type = true)
    (hsize : op.size = 1 ∨ op.size = 4) (dst : BitVec 64) :
    i.relocateOperand build dst op =
      .ok (Operand.setValue op.type op.size
        (i.address + i.codeSize + op.intValue - (dst + i.codeSize))) := by
  unfold relocateOperand
  rw [if_pos h]
  cases hsize with
  | inl hone => rw [hone]; rfl
  | inr hfour => rw [hfour]; rfl

namespace Decoded

theorem relativeBytes_eq (h : Decoded memory it row i it') :
    i.relativeBytes =
      if isRelative row.operandTypeSrc1 then codeBytesOf row.operandTypeSrc1 else 0 := by
  obtain ⟨hdst, hsrc2, _⟩ := relative_opcodeRows row h.mem
  rw [Instruction.relativeBytes, h.info]
  simp only [OpcodeInfo.relativeBytes, hdst, hsrc2, Bool.false_eq_true, if_false, Nat.zero_add,
    Nat.add_zero]

theorem relativeBytes_cases (h : Decoded memory it row i it') :
    i.relativeBytes = 0 ∨ i.relativeBytes = 1 ∨ i.relativeBytes = 4 := by
  obtain ⟨_, _, hsize⟩ := relative_opcodeRows row h.mem
  rw [h.relativeBytes_eq]
  split
  · rename_i hrel
    exact Or.inr (hsize hrel).2
  · exact Or.inl rfl

theorem relativeBytes_le (h : Decoded memory it row i it') : i.relativeBytes ≤ i.getSize := by
  rw [h.relativeBytes_eq, h.getSize_eq, h.length_bytes]
  unfold OpcodeInfo.codeBytes
  split <;> omega

/-- A moved instruction keeps its length. -/
theorem length_movedBytes (h : Decoded memory it row i it') (dst : BitVec 64) :
    (i.movedBytes memory it.pointer dst).length = i.getSize := by
  rw [Instruction.movedBytes, List.length_append, length_slice, length_wordBytes,
    Nat.sub_add_cancel h.relativeBytes_le]

/-- The bytes before the relative operand and the operand, as they are in the code. -/
theorem bytes_split (h : Decoded memory it row i it')
    (hrel : isRelative row.operandTypeSrc1 = true) :
    i.prefixBytes ++ opcodeBytes row ++ postbyteBytes i.postbyte ++
        appendOperand i.displacement ++ appendOperand i.operandDst =
      slice memory it.pointer (i.getSize - i.relativeBytes) ∧
    appendOperand i.operandSrc1 =
      slice memory (it.pointer + (i.getSize - i.relativeBytes)) i.relativeBytes ∧
    appendOperand i.operandSrc2 = [] := by
  obtain ⟨_, _, hsize⟩ := relative_opcodeRows row h.mem
  have hsrc2 : appendOperand i.operandSrc2 = [] := by
    rw [← List.length_eq_zero_iff, length_appendOperand, h.src2.size, (hsize hrel).1]
  have hsrc1 : (appendOperand i.operandSrc1).length = i.relativeBytes := by
    rw [length_appendOperand, h.src1.size, h.relativeBytes_eq, if_pos hrel]
  -- an instruction's bytes, cut where the relative operand starts
  have htaken := h.takes.taken
  rw [← h.getSize_eq, ← Nat.sub_add_cancel h.relativeBytes_le, slice_add, Instruction.bytes,
    hsrc2, List.append_nil] at htaken
  obtain ⟨hfront, hoperand⟩ := List.append_inj' htaken (by rw [length_slice, hsrc1])
  exact ⟨hfront.symm, hoperand.symm, hsrc2⟩

/-- **One step.** A decoded instruction can always be moved, and what is written is its
bytes with the relative operand adjusted. -/
theorem relocate_emit (h : Decoded memory it row i it') (build : Build) (dst : BitVec 64) :
    ∃ j, i.relocate build dst = .ok j ∧
      j.emit build = .ok (i.movedBytes memory it.pointer dst) := by
  obtain ⟨hdst, hsrc2, hsize⟩ := relative_opcodeRows row h.mem
  -- whatever the first source operand becomes, the emitted bytes decide
  have hemit : ∀ src1 : Operand, i.relocateOperand build dst i.operandSrc1 = .ok src1 →
      ({ i with operandSrc1 := src1, address := dst } : Instruction).bytes row =
        i.movedBytes memory it.pointer dst →
      ∃ j, i.relocate build dst = .ok j ∧
        j.emit build = .ok (i.movedBytes memory it.pointer dst) := by
    intro src1 hsrc1 hbytes
    refine ⟨{ i with operandSrc1 := src1, address := dst }, ?_, ?_⟩
    · unfold relocate
      rw [relocateOperand_of_not (h.dst.relative.trans hdst), hsrc1,
        relocateOperand_of_not (h.src2.relative.trans hsrc2)]
      rfl
    · have hlength := h.length_movedBytes dst
      rw [← hbytes] at hlength ⊢
      exact emit_eq h.info hlength
  by_cases hrel : isRelative row.operandTypeSrc1 = true
  -- the operand's new value, cut to the operand's width
  · obtain ⟨hfront, hoperand, hempty⟩ := h.bytes_split hrel
    have hop : isRelative i.operandSrc1.type = true := h.src1.relative.trans hrel
    have hwidth : i.operandSrc1.size = i.relativeBytes := by
      rw [h.src1.size, h.relativeBytes_eq, if_pos hrel]
    have hvalue : i.address + i.codeSize + i.operandSrc1.intValue - (dst + i.codeSize) =
        i.movedValue memory it.pointer dst := by
      rw [Instruction.movedValue, h.address, h.codeSize_eq, h.src1.value, hoperand,
        ← h.getSize_eq, BitVec.ofNat_add]
      rfl
    refine hemit _ (relocateOperand_of_relative hop (h.src1.size ▸ (hsize hrel).2) dst) ?_
    rw [hvalue, Instruction.movedBytes, ← hfront, ← hwidth, ← appendOperand_setValue
      i.operandSrc1.type (by rw [h.src1.size]; exact codeBytesOf_le _)]
    unfold Instruction.bytes
    dsimp only
    rw [hempty, List.append_nil]
  -- nothing relative: the bytes are the ones that were read
  · have hzero : i.relativeBytes = 0 := by rw [h.relativeBytes_eq, if_neg hrel]
    refine hemit _ (relocateOperand_of_not (h.src1.relative.trans (Bool.eq_false_iff.mpr hrel)) dst)
      ?_
    rw [Instruction.movedBytes, hzero, Nat.sub_zero, h.getSize_eq, h.takes.taken]
    exact (List.append_nil _).symm

/-- The moved operand is the displacement that could lead to the old target. -/
theorem branchTarget_moved (h : Decoded memory it row i it') (dst : BitVec 64) :
    branchTarget i.relativeBytes (i.nextAt dst)
        (wordBytes i.relativeBytes (i.movedValue memory it.pointer dst).toNat) =
      Displacement.target ((i.nextAt dst).setWidth 32)
        (Displacement.moved ((BitVec.ofNat 64 (it.pointer + i.getSize)).setWidth 32)
          ((i.nextAt dst).setWidth 32)
          (BitVec.ofNat (8 * i.relativeBytes)
            (word (slice memory (it.pointer + (i.getSize - i.relativeBytes))
              i.relativeBytes)))) := by
  have hwidth : 8 * i.relativeBytes ≤ 32 := by
    rcases h.relativeBytes_cases with hrel | hrel | hrel <;> rw [hrel] <;> decide
  -- the operand is emitted and read again, which leaves its low bytes
  have hword : BitVec.ofNat (8 * i.relativeBytes)
      (word (wordBytes i.relativeBytes (i.movedValue memory it.pointer dst).toNat)) =
        (i.movedValue memory it.pointer dst).setWidth (8 * i.relativeBytes) := by
    rw [word_wordBytes]
    apply BitVec.eq_of_toNat_eq
    rw [BitVec.toNat_ofNat, BitVec.toNat_setWidth, Nat.mod_mod]
  rw [branchTarget, hword, Instruction.movedValue,
    Displacement.moved_setWidth hwidth (by decide),
    BitVec.setWidth_ofNat_of_le (show 8 * i.relativeBytes ≤ 64 by omega)]

/-- **What is written is a copy** unless it is a branch whose target is out of reach. -/
theorem copy_iff (h : Decoded memory it row i it') (range : BitVec 32 → Prop)
    (dst : BitVec 64) :
    Copy memory range it.pointer dst i (i.movedBytes memory it.pointer dst) ↔
      (0 < i.relativeBytes → ¬range (i.target memory it.pointer) →
        Displacement.Reaches (8 * i.relativeBytes) ((i.nextAt dst).setWidth 32)
          (i.target memory it.pointer)) := by
  have hwidth : 8 * i.relativeBytes ≤ 32 := by
    rcases h.relativeBytes_cases with hrel | hrel | hrel <;> rw [hrel] <;> decide
  have htarget := Displacement.target_moved_iff hwidth
    ((BitVec.ofNat 64 (it.pointer + i.getSize)).setWidth 32) ((i.nextAt dst).setWidth 32)
    (BitVec.ofNat (8 * i.relativeBytes)
      (word (slice memory (it.pointer + (i.getSize - i.relativeBytes)) i.relativeBytes)))
  rw [← h.branchTarget_moved dst] at htarget
  have hfront := length_slice memory it.pointer (i.getSize - i.relativeBytes)
  -- a copy's bytes before the operand are the same anyway, so its target decides
  constructor
  · intro hcopy hpos hout
    have hsame := hcopy.target hpos hout
    rw [Instruction.movedBytes, List.drop_left' hfront] at hsame
    exact htarget.mp hsame
  · intro hreach
    refine ⟨h.length_movedBytes dst, ?_, ?_⟩
    · rw [Instruction.movedBytes, List.take_left' hfront]
    · intro hpos hout
      rw [Instruction.movedBytes, List.drop_left' hfront]
      exact htarget.mpr (hreach hpos hout)

/-- Only short branches can be out of reach. -/
theorem reaches_iff (h : Decoded memory it row i it') (next t : BitVec 32) :
    (0 < i.relativeBytes → Displacement.Reaches (8 * i.relativeBytes) next t) ↔
      (i.relativeBytes = 1 → -128 ≤ (t - next).toInt ∧ (t - next).toInt ≤ 127) := by
  -- no relative operand, one of a byte, or one of the full width, which reaches everything
  rcases h.relativeBytes_cases with hrel | hrel | hrel
  · rw [hrel]
    exact ⟨fun _ h => absurd h (by decide), fun _ h => absurd h (by decide)⟩
  · rw [hrel, Displacement.reaches_iff_toInt (by decide) (by decide)]
    constructor
    · intro hreach _
      have := hreach Nat.one_pos
      omega
    · intro hreach _
      have := hreach rfl
      omega
  · rw [hrel]
    exact ⟨fun _ h => absurd h (by decide), fun _ _ => Displacement.Reaches.of_full next t⟩

end Decoded

end Instruction

end Giblet.CodeHook
