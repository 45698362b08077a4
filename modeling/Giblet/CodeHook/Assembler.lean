import Giblet.CodeHook.Length
import Giblet.CodeHook.Relocation

/-!
# CodeHook — writing code

A process as far as hooks go: its memory, the pointer a hook hands out, and a
log of the stores. `Assembler` writes single instructions; what it writes as
a jump, the decoder reads as that jump (`decode_jumpNear`,
`decode_jumpThrough`).
-/

namespace Giblet.CodeHook

open ByteStream Effect Instruction

variable {ε : Type} {build : Build} {memory : Memory} {it it' : OpcodeIterator} {row : OpcodeInfo}

/-! ## Stores -/

/-- `stores` holds where each store went, and its length. -/
structure Process where
  memory : Memory
  thunkFunctionOut : Nat
  stores : List (Nat × Nat)

/-- The process after bytes were stored from an address on. -/
def Process.stored (s : Process) (a : Nat) (bytes : List UInt8) : Process :=
  { s with memory := write s.memory a bytes, stores := s.stores ++ [(a, bytes.length)] }

/-- Store bytes from an address on. -/
def store (a : Nat) (bytes : List UInt8) : EStateM ε Process Unit := modify (·.stored a bytes)

/-- The address is one of the `n` from `start` on. -/
def Block (start n a : Nat) : Prop := start ≤ a ∧ a < start + n

/-- Only this region was written to, and the pointer that is handed out was not. -/
structure Within (region : Nat → Prop) (s s' : Process) : Prop where
  out : s'.thunkFunctionOut = s.thunkFunctionOut
  memory : ∀ a, ¬region a → s'.memory a = s.memory a
  stores : ∃ new, s'.stores = s.stores ++ new ∧ ∀ e ∈ new, ∀ a, Block e.1 e.2 a → region a

instance (region : Nat → Prop) : IsPreorder Process (Within region) where
  refl s :=
    ⟨rfl, fun _ _ => rfl, [], (List.append_nil _).symm, fun _ h => absurd h List.not_mem_nil⟩
  trans s t u h h' := by
    obtain ⟨new, hNew, hAll⟩ := h.stores
    obtain ⟨new', hNew', hAll'⟩ := h'.stores
    refine ⟨h'.out.trans h.out, fun a ha => (h'.memory a ha).trans (h.memory a ha), new ++ new',
      ?_, ?_⟩
    · rw [hNew', hNew, List.append_assoc]
    · intro e he
      cases List.mem_append.mp he with
      | inl hOld => exact hAll e hOld
      | inr hLate => exact hAll' e hLate

/-- A store that stays in the region. -/
theorem Process.stored_within {region : Nat → Prop} {a n : Nat} {bytes : List UInt8} (s : Process)
    (hLength : bytes.length = n) (h : ∀ x, Block a n x → region x) :
    Within region s (s.stored a bytes) := by
  subst hLength
  refine ⟨rfl, fun x hx => write_outside fun hIn => hx (h x hIn), [(a, bytes.length)], rfl, ?_⟩
  intro e he
  rw [List.mem_singleton.mp he]
  exact h

theorem Within.slice_eq {start m b n : Nat} {s s' : Process} (h : Within (Block start m) s s')
    (hApart : b + n ≤ start ∨ start + m ≤ b) : slice s'.memory b n = slice s.memory b n :=
  slice_congr fun x hLow hHigh => h.memory x fun hIn => by
    have := hIn.1
    have := hIn.2
    omega

theorem store_within {region : Nat → Prop} {a n : Nat} {bytes : List UInt8}
    (hLength : bytes.length = n) (h : ∀ x, Block a n x → region x) :
    Frame (Within region) (store a bytes : EStateM ε Process Unit) := fun s =>
  s.stored_within hLength h

/-! ## The assembler -/

/-- `Assembler`; all members of its union hold the same pointer. -/
structure Assembler where
  m_Address : Nat

namespace Assembler

/-- `Assembler::Relative32`. -/
def relative32 (self : Assembler) (opcode : UInt8) (address : Nat) :
    EStateM ε Process Assembler := do
  store self.m_Address [opcode]
  let m_Address := self.m_Address + 1
  -- the operand is computed before the pointer moves on
  store m_Address (wordBytes 4 (BitVec.ofNat 32 address - BitVec.ofNat 32 (m_Address + 4)).toNat)
  return ⟨m_Address + 4⟩

/-- `Assembler::Absolute32`. -/
def absolute32 (self : Assembler) (opcode : UInt8) (address : Nat) :
    EStateM ε Process Assembler := do
  store self.m_Address [opcode]
  let m_Address := self.m_Address + 1
  store m_Address (wordBytes 4 (BitVec.ofNat 32 address).toNat)
  return ⟨m_Address + 4⟩

/-- `Assembler::Jump`. -/
def jump (self : Assembler) (address : Nat) : EStateM ε Process Assembler :=
  self.relative32 0xe9 address

/-- `Assembler::JumpIndirect`. -/
def jumpIndirect (self : Assembler) (address : Nat) : EStateM ε Process Assembler := do
  store self.m_Address [0xff]
  absolute32 ⟨self.m_Address + 1⟩ 0x25 address

theorem jump_run (a address : Nat) (s : Process) :
    (jump ⟨a⟩ address : EStateM ε Process Assembler) s =
      .ok ⟨a + 5⟩ ((s.stored a [0xe9]).stored (a + 1)
        (wordBytes 4 (BitVec.ofNat 32 address - BitVec.ofNat 32 (a + 5)).toNat)) := rfl

theorem jumpIndirect_run (a address : Nat) (s : Process) :
    (jumpIndirect ⟨a⟩ address : EStateM ε Process Assembler) s =
      .ok ⟨a + 6⟩ (((s.stored a [0xff]).stored (a + 1) [0x25]).stored (a + 2)
        (wordBytes 4 (BitVec.ofNat 32 address).toNat)) := rfl

/-- A near jump has five bytes. -/
theorem jump_within {region : Nat → Prop} {a : Nat} (h : ∀ x, Block a 5 x → region x)
    (address : Nat) : Frame (Within region) (jump ⟨a⟩ address : EStateM ε Process Assembler) := by
  have hOpcode : ∀ x, Block a 1 x → region x := fun x hx => h x ⟨hx.1, by have := hx.2; omega⟩
  have hOperand : ∀ x, Block (a + 1) 4 x → region x := fun x hx =>
    h x ⟨by have := hx.1; omega, by have := hx.2; omega⟩
  exact .bind (store_within rfl hOpcode) fun _ =>
    .bind (store_within (length_wordBytes 4 _) hOperand) fun _ => .pure _

end Assembler

/-- Two stores, one right behind the other. -/
theorem slice_stored_stored (s : Process) (a : Nat) (xs ys : List UInt8) :
    slice ((s.stored a xs).stored (a + xs.length) ys).memory a (xs.length + ys.length) =
      xs ++ ys := by
  show slice (write (write s.memory a xs) (a + xs.length) ys) a (xs.length + ys.length) = xs ++ ys
  rw [slice_add, slice_write, slice_write_outside _ (.inl (Nat.le_refl _)), slice_write]

/-! ## Finding a row -/

/-- The only row for a one-byte opcode is the one that is found. -/
theorem findOpcode_oneByte (hMem : row ∈ opcodeRows) (hPrefix : row.opPrefix = 0)
    (hOpcode : it.at memory 0 = row.opcode)
    (hAccepts : row.Accepts (IA32.digit (memory (it.pointer + 1))))
    (hOnly : ∀ other ∈ opcodeRows, other.opPrefix = 0 → other.opcode = row.opcode →
      other.Accepts (IA32.digit (memory (it.pointer + 1))) → other = row) :
    findOpcode build memory it = .ok (some (row, it.advance 1)) := by
  -- something is found, and what is found matched
  obtain ⟨⟨other, it'⟩, hFind⟩ :=
    findRow_isSome build hMem hPrefix hOpcode hAccepts
  obtain ⟨hOther, hTakes, hAccepted⟩ := findRow_some hFind
  have hTaken := hTakes.taken
  have hStop := hTakes.stop
  cases opPrefix_opcodeRows other hOther with
  | inl hOne =>
    rw [opcodeBytes, if_neg (not_not_intro hOne.1), List.nil_append] at hTaken hStop
    have hByte : it.at memory 0 = other.opcode := (List.cons.inj hTaken).1
    have hEnd : it'.pointer = it.pointer + 1 := hStop
    rw [hEnd] at hAccepted
    obtain rfl := hOnly other hOther hOne.1 (hByte.symm.trans hOpcode) hAccepted
    have hIter : it' = it.advance 1 := by
      cases it'
      cases hEnd
      rfl
    rw [findOpcode, hFind, hIter]
  | inr hTwo =>
    -- a row with an escape byte cannot match here
    rw [opcodeBytes, if_pos (by rw [hTwo]; decide), hTwo] at hTaken
    have hByte : it.at memory 0 = 0x0f := (List.cons.inj hTaken).1
    cases opPrefix_opcodeRows row hMem with
    | inl hRow => exact absurd (hOpcode.symm.trans hByte) hRow.2
    | inr hRow =>
      rw [hPrefix] at hRow
      cases hRow

/-! ## Decoding jumps -/

/-- The row of a near jump. -/
def jumpNear : OpcodeInfo := ote 0x00 0xe9 .rel PO.none none .none .rel .none .cd

/-- The row of a near jump through memory. -/
def jumpThrough : OpcodeInfo := ote 0x00 0xff .enh PO.xFF.jumpn none .none .mrm .none .none

theorem only_jumpNear : ∀ other ∈ opcodeRows, other.opPrefix = 0 → other.opcode = 0xe9 →
    other = jumpNear := by
  decide +kernel

theorem only_jumpThrough : ∀ other ∈ opcodeRows, other.opPrefix = 0 → other.opcode = 0xff →
    other.Accepts 4 → other = jumpThrough := by
  decide +kernel

theorem processPrefix_none (h : isPrefixByte (memory it.pointer) = false) :
    processPrefix memory maxPrefixBytes it = .ok ([], it) := by
  rw [maxPrefixBytes, processPrefix, OpcodeIterator.at, Nat.add_zero, h,
    if_neg Bool.false_ne_true]
  rfl

/-- What decoding makes of the bytes of a near jump. -/
theorem decode_jumpNear (hOpcode : memory it.pointer = 0xe9) :
    decode build memory {} it =
      .ok (true,
        { info := some jumpNear
          address := it.getAddress
          codeSize := (it.advance 5).getAddress - it.getAddress
          operandSrc1 :=
            .setValue .rel 4 (BitVec.ofNat 64 (word (slice memory (it.pointer + 1) 4))) },
        it.advance 5) := by
  have hFind : findOpcode build memory it = .ok (some (jumpNear, it.advance 1)) :=
    findOpcode_oneByte (by decide +kernel) rfl hOpcode (.inl rfl)
      fun other hOther hPrefix hSame _ => only_jumpNear other hOther hPrefix hSame
  unfold decode
  rw [processPrefix_none (by rw [hOpcode]; decide)]
  dsimp only [bind, Except.bind]
  rw [hFind]
  rfl

/-- What decoding makes of the bytes of a jump through an absolute address. -/
theorem decode_jumpThrough (hOpcode : memory it.pointer = 0xff)
    (hModRM : memory (it.pointer + 1) = 0x25) :
    decode build memory {} it =
      .ok (true,
        { info := some jumpThrough
          address := it.getAddress
          codeSize := (it.advance 6).getAddress - it.getAddress
          postbyte := ⟨some 0x25, none⟩
          displacement :=
            .setValue .imm 4 (BitVec.ofNat 64 (word (slice memory (it.pointer + 2) 4)))
          operandSrc1 := .create .mrm },
        it.advance 6) := by
  -- the digit in ModRM tells this row from the other rows of `FFh`
  have hDigit : IA32.digit (memory (it.pointer + 1)) = 4 := by
    rw [hModRM]
    decide
  have hFind : findOpcode build memory it = .ok (some (jumpThrough, it.advance 1)) := by
    refine findOpcode_oneByte (by decide +kernel) rfl hOpcode ?_ ?_
    · rw [hDigit]
      decide
    · rw [hDigit]
      exact fun other hOther hPrefix hSame => only_jumpThrough other hOther hPrefix hSame
  have hPostbyte : PostByte.read memory (it.advance 1).pointer = ⟨some 0x25, none⟩ := by
    rw [PostByte.read, OpcodeIterator.pointer_advance, hModRM]
    rfl
  have hPostfix : processPostfix build memory jumpThrough {} {} (it.advance 1) =
      .ok (⟨some 0x25, none⟩,
        .setValue .imm 4 (BitVec.ofNat 64 (word (slice memory (it.pointer + 2) 4))),
        it.advance 6) := by
    unfold processPostfix
    rw [PostByte.assign_eq, hPostbyte]
    cases build <;> rfl
  unfold decode
  rw [processPrefix_none (by rw [hOpcode]; decide)]
  dsimp only [bind, Except.bind]
  rw [hFind]
  have hReset : Instruction.reset {} = {} := rfl
  dsimp only
  rw [if_neg (by decide), if_pos (by decide), hReset, hPostfix]
  cases build <;> rfl

/-! ## Jumps -/

/-- The decoder finds a near jump there, and it leads to `target`. -/
def JumpsTo (build : Build) (memory : Memory) (it : OpcodeIterator) (target : BitVec 32) : Prop :=
  ∃ i, decode build memory {} it = .ok (true, i, it.advance 5) ∧ i.info = some jumpNear ∧
    i.getSize = 5 ∧ i.target memory it.pointer = target

/-- The decoder finds a jump there through the pointer at the absolute address `slot`:
ModRM `25h` asks for an address without a register. -/
def JumpsThrough (build : Build) (memory : Memory) (it : OpcodeIterator) (slot : Nat) : Prop :=
  ∃ i, decode build memory {} it = .ok (true, i, it.advance 6) ∧ i.info = some jumpThrough ∧
    i.getSize = 6 ∧ i.postbyte = ⟨some 0x25, none⟩ ∧
    i.displacement.intValue = BitVec.ofNat 64 slot

theorem getSize_advance (it : OpcodeIterator) (n : Nat) (h : n < 2 ^ 64) :
    ((it.advance n).getAddress - it.getAddress).toNat = n := by
  rw [OpcodeIterator.getAddress, OpcodeIterator.pointer_advance, OpcodeIterator.getAddress,
    BitVec.ofNat_add, BitVec.add_comm, BitVec.add_sub_cancel, BitVec.toNat_ofNat,
    Nat.mod_eq_of_lt h]

/-- An operand of four bytes leads wherever it was made for. -/
theorem branchTarget_wordBytes (next : Nat) (target : BitVec 32) :
    branchTarget 4 (BitVec.ofNat 64 next)
      (wordBytes 4 (target - BitVec.ofNat 32 next).toNat) = target := by
  -- the word survives being written and read
  have hWord : BitVec.ofNat (8 * 4)
      (word (wordBytes 4 (target - BitVec.ofNat 32 next).toNat)) =
        target - BitVec.ofNat 32 next := by
    apply BitVec.eq_of_toNat_eq
    rw [word_wordBytes, BitVec.toNat_ofNat, Nat.mod_mod]
    exact Nat.mod_eq_of_lt (BitVec.isLt _)
  rw [branchTarget, hWord, BitVec.setWidth_ofNat_of_le (by decide), Displacement.target]
  show BitVec.ofNat 32 next + (target - BitVec.ofNat 32 next).signExtend 32 = target
  rw [BitVec.signExtend_eq, BitVec.add_comm, BitVec.sub_add_cancel]

theorem jumpsTo_of_slice {target : BitVec 32}
    (h : slice memory it.pointer 5 =
      0xe9 :: wordBytes 4 (target - BitVec.ofNat 32 (it.pointer + 5)).toNat) :
    JumpsTo build memory it target := by
  obtain ⟨hOpcode, hOperand⟩ := List.cons.inj h
  have hOperand : slice memory (it.pointer + 1) 4 =
      wordBytes 4 (target - BitVec.ofNat 32 (it.pointer + 5)).toNat := hOperand
  refine ⟨_, decode_jumpNear hOpcode, rfl, ?_, ?_⟩
  · exact getSize_advance it 5 (by decide)
  · have hSize := getSize_advance it 5 (by decide)
    rw [Instruction.target, Instruction.getSize, hSize]
    show branchTarget 4 (BitVec.ofNat 64 (it.pointer + 5)) (slice memory (it.pointer + 1) 4) =
      target
    rw [hOperand, branchTarget_wordBytes]

theorem jumpsThrough_of_slice {slot : Nat} (hSlot : slot < 2 ^ 32)
    (h : slice memory it.pointer 6 = 0xff :: 0x25 :: wordBytes 4 slot) :
    JumpsThrough build memory it slot := by
  obtain ⟨hOpcode, hRest⟩ := List.cons.inj h
  obtain ⟨hModRM, hOperand⟩ := List.cons.inj hRest
  refine ⟨_, decode_jumpThrough hOpcode hModRM, rfl, ?_, rfl, ?_⟩
  · exact getSize_advance it 6 (by decide)
  -- the displacement is read as 64 bits, which hold the slot's 32
  · have hWord : word (slice memory (it.pointer + 2) 4) = slot := by
      rw [show slice memory (it.pointer + 2) 4 = wordBytes 4 slot from hOperand, word_wordBytes,
        Nat.mod_eq_of_lt hSlot]
    have hLength : (slice memory (it.pointer + 2) 4).length ≤ 8 := by
      rw [length_slice]
      decide
    have hValue := intValue_setValue_word .imm hLength
    rw [length_slice, hWord] at hValue
    rw [hWord]
    exact hValue

end Giblet.CodeHook
