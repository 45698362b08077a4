import Giblet.CodeHook.Outcomes

/-!
# CodeHook — decoding with a used instruction object

`Reset` clears some of an instruction's members; the displacement and the
three operands keep what they held until the next decoding writes them. So
a used object decodes like a fresh one if and only if everything that the
earlier code made `Decode` write is written again (`decode_reused_iff`).
-/

namespace Giblet.CodeHook

open ByteStream Effect Instruction

variable {build : Build} {memory memory' : Memory} {it it' jt jt' it₂ : OpcodeIterator}
  {row : OpcodeInfo} {i j self : Instruction} {bytes : List UInt8}

/-! ## What decoding writes -/

/-- The members that `Reset` leaves alone. -/
structure Parts where
  displacement : Bool := false
  operandDst : Bool := false
  operandSrc1 : Bool := false
  operandSrc2 : Bool := false
  deriving DecidableEq, Repr

/-- The row behind the prefixes, and the iterator past its opcode. -/
def rowAt (memory : Memory) (it : OpcodeIterator) : Option (OpcodeInfo × OpcodeIterator) :=
  matchedRow memory (it.advance (IA32.prefixes (it.at memory)))

/-- The members that a row makes `Decode` write. -/
def OpcodeInfo.written (memory : Memory) (row : OpcodeInfo) (it : OpcodeIterator) : Parts where
  displacement := row.displacementAt memory it.pointer != 0
  operandDst := row.operandTypeDst != .none
  operandSrc1 := row.operandTypeSrc1 != .none
  operandSrc2 := row.operandTypeSrc2 != .none

/-- The members that the code at `it` makes `Decode` write. -/
def writtenParts (memory : Memory) (it : OpcodeIterator) : Parts :=
  (rowAt memory it).elim {} fun found => found.1.written memory found.2

/-- Whatever the one writes, the other writes. -/
structure Parts.Within (s t : Parts) : Prop where
  displacement : s.displacement = true → t.displacement = true
  operandDst : s.operandDst = true → t.operandDst = true
  operandSrc1 : s.operandSrc1 = true → t.operandSrc1 = true
  operandSrc2 : s.operandSrc2 = true → t.operandSrc2 = true

/-- What can be told of an instruction from outside. -/
structure Instruction.SameAs (build : Build) (i j : Instruction) : Prop where
  getSize : i.getSize = j.getSize
  displacement : i.displacement = j.displacement
  operandDst : i.operandDst = j.operandDst
  operandSrc1 : i.operandSrc1 = j.operandSrc1
  operandSrc2 : i.operandSrc2 = j.operandSrc2
  emit : i.emit build = j.emit build

/-! ## One member -/

/-- An operand that is written gets its type. -/
theorem Operand.after_type {a : Nat} {op : Operand} {type : OperandType} (h : type ≠ .none) :
    (op.after memory a type).type = type := by
  unfold Operand.after
  rw [if_neg h]
  split <;> rfl

/-- An operand after it is written shows nothing of what it was; one that is not written is what
it was. -/
theorem Operand.after_eq_iff {a : Nat} {op : Operand} {type : OperandType} :
    op.after memory a type = ({} : Operand).after memory a type ↔ type ≠ .none ∨ op = {} := by
  by_cases hnone : type = .none
  · unfold Operand.after
    rw [if_pos hnone, if_pos hnone]
    exact ⟨.inr, fun h => h.resolve_left (not_not_intro hnone)⟩
  · unfold Operand.after
    rw [if_neg hnone, if_neg hnone]
    exact ⟨fun _ => .inl hnone, fun _ => rfl⟩

/-- A fresh operand is still fresh exactly when nothing was written. -/
theorem Operand.after_fresh_iff {a : Nat} {type : OperandType} :
    ({} : Operand).after memory a type = {} ↔ type = .none := by
  constructor
  · intro h
    by_contra hnone
    have htype := @Operand.after_type memory a {} type hnone
    rw [h] at htype
    exact hnone htype.symm
  · rintro rfl
    rfl

theorem readDisplacement_ne (a n : Nat) : readDisplacement memory a n ≠ {} := by
  intro h
  have htype : (if n = 1 then OperandType.imm8 else .imm) = .none := congrArg Operand.type h
  split at htype <;> cases htype

/-! ## Decoding twice -/

/-- A decoding that succeeds has filled the object from the row it found. -/
theorem decode_true (h : decode build memory self it = .ok (true, i, it')) :
    ∃ bytes row it₂, rowAt memory it = some (row, it₂) ∧
      self.fill memory it bytes row it₂ = (i, it') ∧
      ∀ other : Instruction, decode build memory other it =
        .ok (true, other.fill memory it bytes row it₂) := by
  by_cases hfew : FewPrefixes memory it
  · obtain ⟨bytes, hpre, hcount, hcases⟩ := decode_cases hfew
    rcases hcases with ⟨row, it₂, hrow, hterm⟩ | hnone
    · have hfill := fun other : Instruction => decode_of_row build other hpre hrow hterm
      have hself := h
      rw [hfill self] at hself
      split at hself
      · cases hself
      · rename_i hbuild
        refine ⟨bytes, row, it₂, ?_, ?_, fun other => ?_⟩
        · rw [rowAt, hcount]
          exact hrow
        · exact congrArg Prod.snd (Except.ok.inj hself)
        · rw [hfill other, if_neg hbuild]
    · rw [decode_of_none build self hpre hnone] at h
      cases h
  · rw [decode_of_not_few build self hfew] at h
    cases h

/-- A fresh object still holds nothing exactly where nothing was written. -/
theorem fill_fresh (h : ({} : Instruction).fill memory it bytes row it₂ = (i, it')) :
    (i.displacement = {} ↔ (row.written memory it₂).displacement = false) ∧
      (i.operandDst = {} ↔ (row.written memory it₂).operandDst = false) ∧
      (i.operandSrc1 = {} ↔ (row.written memory it₂).operandSrc1 = false) ∧
      (i.operandSrc2 = {} ↔ (row.written memory it₂).operandSrc2 = false) := by
  obtain rfl : (({} : Instruction).fill memory it bytes row it₂).1 = i := congrArg Prod.fst h
  unfold OpcodeInfo.written
  simp only [bne_eq_false_iff_eq]
  refine ⟨?_, Operand.after_fresh_iff, Operand.after_fresh_iff, Operand.after_fresh_iff⟩
  unfold Instruction.fill
  dsimp only
  split
  · rename_i hzero
    exact ⟨fun _ => hzero, fun _ => rfl⟩
  · rename_i hsome
    exact ⟨fun h => absurd h (readDisplacement_ne _ _), fun h => absurd h hsome⟩

/-- Two objects filled from the same code agree exactly where the code writes, or where the used
one held nothing. -/
theorem fill_same_iff (h : ({} : Instruction).fill memory it bytes row it₂ = (j, it')) :
    (self.fill memory it bytes row it₂).1.SameAs build j ↔
      ((row.written memory it₂).displacement = true ∨ self.displacement = {}) ∧
      ((row.written memory it₂).operandDst = true ∨ self.operandDst = {}) ∧
      ((row.written memory it₂).operandSrc1 = true ∨ self.operandSrc1 = {}) ∧
      ((row.written memory it₂).operandSrc2 = true ∨ self.operandSrc2 = {}) := by
  obtain rfl : (({} : Instruction).fill memory it bytes row it₂).1 = j := congrArg Prod.fst h
  unfold OpcodeInfo.written
  simp only [bne_iff_ne, ne_eq]
  have hdisplacement : (self.fill memory it bytes row it₂).1.displacement =
      (({} : Instruction).fill memory it bytes row it₂).1.displacement ↔
      row.displacementAt memory it₂.pointer ≠ 0 ∨ self.displacement = {} := by
    unfold Instruction.fill
    dsimp only
    split
    · rename_i hzero
      exact ⟨.inr, fun h => h.resolve_left (not_not_intro hzero)⟩
    · rename_i hsome
      exact ⟨fun _ => .inl hsome, fun _ => rfl⟩
  constructor
  · intro hsame
    exact ⟨hdisplacement.mp hsame.displacement, Operand.after_eq_iff.mp hsame.operandDst,
      Operand.after_eq_iff.mp hsame.operandSrc1, Operand.after_eq_iff.mp hsame.operandSrc2⟩
  · rintro ⟨hdisp, hdst, hsrc1, hsrc2⟩
    -- the other members do not depend on the object
    have hall : (self.fill memory it bytes row it₂).1 =
        (({} : Instruction).fill memory it bytes row it₂).1 := by
      have hdisp := hdisplacement.mpr hdisp
      have hdst : (self.fill memory it bytes row it₂).1.operandDst =
          (({} : Instruction).fill memory it bytes row it₂).1.operandDst :=
        Operand.after_eq_iff.mpr hdst
      have hsrc1 : (self.fill memory it bytes row it₂).1.operandSrc1 =
          (({} : Instruction).fill memory it bytes row it₂).1.operandSrc1 :=
        Operand.after_eq_iff.mpr hsrc1
      have hsrc2 : (self.fill memory it bytes row it₂).1.operandSrc2 =
          (({} : Instruction).fill memory it bytes row it₂).1.operandSrc2 :=
        Operand.after_eq_iff.mpr hsrc2
      unfold Instruction.fill at hdisp hdst hsrc1 hsrc2 ⊢
      dsimp only at hdisp hdst hsrc1 hsrc2 ⊢
      rw [hdisp, hdst, hsrc1, hsrc2]
    rw [hall]
    exact ⟨rfl, rfl, rfl, rfl, rfl, rfl⟩

/-- **A used object decodes like a fresh one exactly when nothing of its last instruction is
left**: whatever that made `Decode` write is written again. -/
theorem decode_reused_iff (hs : decode build memory {} it = .ok (true, i, it'))
    (ht : decode build memory' {} jt = .ok (true, j, jt')) :
    ∃ j', decode build memory' i jt = .ok (true, j', jt') ∧
      (j'.SameAs build j ↔ (writtenParts memory it).Within (writtenParts memory' jt)) := by
  obtain ⟨bytes, row, it₂, hrow, hfill, _⟩ := decode_true hs
  obtain ⟨bytes', row', jt₂, hrow', hfill', hdecode⟩ := decode_true ht
  obtain ⟨hdisp, hdst, hsrc1, hsrc2⟩ := fill_fresh hfill
  have hiff := @fill_same_iff build memory' jt jt' jt₂ row' j i bytes' hfill'
  refine ⟨(i.fill memory' jt bytes' row' jt₂).1, ?_, ?_⟩
  · rw [hdecode i]
    -- where decoding stops does not depend on the object
    have hstop : (i.fill memory' jt bytes' row' jt₂).2 = jt' := congrArg Prod.snd hfill'
    rw [← hstop]
  · have hor : ∀ {s t : Bool} {P : Prop}, (P ↔ s = false) →
        ((t = true ∨ P) ↔ (s = true → t = true)) := by
      intro s t P hP
      rw [hP]
      cases s <;> cases t <;> simp
    unfold writtenParts
    rw [hrow, hrow', hiff, hor hdisp, hor hdst, hor hsrc1, hor hsrc2]
    exact ⟨fun h => ⟨h.1, h.2.1, h.2.2.1, h.2.2.2⟩, fun h => ⟨h.1, h.2, h.3, h.4⟩⟩

/-- `RET`. -/
def ret : Memory := holding 0x401000 [0xc3]

/-- After `RET`, which writes nothing, `MOV EAX,[ESP+16]` is decoded as by a fresh object. -/
theorem decode_reused_ret :
    ∃ i it' j jt' j', decode .debug ret {} codeStart = .ok (true, i, it') ∧
      decode .debug movEspDisp {} codeStart = .ok (true, j, jt') ∧
      decode .debug movEspDisp i codeStart = .ok (true, j', jt') ∧ j'.SameAs .debug j := by
  have hnothing : writtenParts ret codeStart = {} := by decide +kernel
  have hwithin : (writtenParts ret codeStart).Within (writtenParts movEspDisp codeStart) := by
    rw [hnothing]
    exact ⟨nofun, nofun, nofun, nofun⟩
  obtain ⟨j', hdecode, hiff⟩ :=
    @decode_reused_iff .debug ret movEspDisp codeStart _ codeStart _ _ _ rfl rfl
  exact ⟨_, _, _, _, j', rfl, rfl, hdecode, hiff.mpr hwithin⟩

/-- After `MOV EAX,[ESP+16]`, `RET` is emitted with the displacement that is left over. -/
theorem reused_leftover :
    ∃ i it' j jt' j', decode .release movEspDisp {} codeStart = .ok (true, i, it') ∧
      decode .release ret {} codeStart = .ok (true, j, jt') ∧
      decode .release ret i codeStart = .ok (true, j', jt') ∧
      j.emit .release = .ok [0xc3] ∧ j'.emit .release = .ok [0xc3, 0x10] ∧
      ¬j'.SameAs .release j :=
  ⟨_, _, _, _, _, rfl, rfl, rfl, rfl, rfl, fun h => absurd h.displacement (by decide +kernel)⟩

end Giblet.CodeHook
