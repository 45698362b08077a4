import Giblet.CodeHook.Opcode
import Giblet.Lib.ByteStream
import Giblet.Lib.Effect

/-!
# CodeHook — decoding, relocating and emitting one instruction

`Instruction::Decode` and what it calls, `Relocate` and `Emit`, over a byte
memory that is only read. An assertion counts in a debug build only, so the
build is a parameter.

`Decoded` says once what a decoding that succeeds has done: which row it
matched, and that the bytes it moved past are the ones `Emit` would write.
-/

namespace Giblet.CodeHook

open ByteStream

abbrev Memory := Nat → UInt8

/-- A memory that holds some bytes from an address on, and zeros elsewhere. -/
def holding (start : Nat) (bytes : List UInt8) : Memory := fun a =>
  if start ≤ a then bytes.getD (a - start) 0 else 0

/-- A debug build checks its assertions, a release build does not. -/
inductive Build
  | debug
  | release
  deriving DecidableEq, Repr

/-- How a call can end without a result. -/
inductive Fault
  /-- A failed assertion of a debug build. -/
  | assertion
  /-- Undefined behaviour: a write past an array, or a null pointer read. -/
  | undefined
  deriving DecidableEq, Repr

def assert (build : Build) (condition : Bool) : Except Fault Unit :=
  match build with
  | .debug => if condition then pure () else throw .assertion
  | .release => pure ()

/-! ## Iterators -/

/-- A pointer into code. With a null pointer the first access throws, so it is left out. -/
structure OpcodeIterator where
  pointer : Nat
  notNull : pointer ≠ 0
  deriving DecidableEq

/-- An address to read code from. -/
def codeStart : OpcodeIterator := ⟨0x401000, by decide⟩

/-- `operator[]`. -/
def OpcodeIterator.at (memory : Memory) (iter : OpcodeIterator) (index : Nat) : UInt8 :=
  memory (iter.pointer + index)

/-- The iterator some bytes further on. -/
def OpcodeIterator.advance (iter : OpcodeIterator) (size : Nat) : OpcodeIterator where
  pointer := iter.pointer + size
  notNull := by have := iter.notNull; omega

@[simp] theorem OpcodeIterator.pointer_advance (iter : OpcodeIterator) (size : Nat) :
    (iter.advance size).pointer = iter.pointer + size := rfl

theorem OpcodeIterator.at_advance (memory : Memory) (iter : OpcodeIterator) (size index : Nat) :
    (iter.advance size).at memory index = iter.at memory (size + index) := by
  rw [OpcodeIterator.at, pointer_advance, Nat.add_assoc, OpcodeIterator.at]

def OpcodeIterator.getAddress (iter : OpcodeIterator) : BitVec 64 := BitVec.ofNat 64 iter.pointer

/-- `NextI8` to `NextI64`: the number in the next bytes, little-endian. -/
def OpcodeIterator.nextInt (memory : Memory) (iter : OpcodeIterator) (size : Nat) :
    BitVec 64 × OpcodeIterator :=
  (BitVec.ofNat 64 (word (slice memory iter.pointer size)), iter.advance size)

/-! ## Operands -/

structure Operand where
  type : OperandType := .none
  size : Nat := 0
  intValue : BitVec 64 := 0
  deriving DecidableEq, Repr

def Operand.create (type : OperandType) : Operand := ⟨type, 0, 0⟩

/-- `setValue` with a value of `size` bytes. -/
def Operand.setValue (type : OperandType) (size : Nat) (value : BitVec 64) : Operand :=
  ⟨type, size, (value.setWidth (8 * size)).setWidth 64⟩

def machineSize : Nat := 4

def sizeOfOperandByType (build : Build) : OperandType → Except Fault Nat
  | .mrm | .imm | .rel => return machineSize
  | .mrm8 | .imm8 | .rel8 => return 1
  | .imm16 | .rel16 => return 2
  | .imm32 | .rel32 => return 4
  | .imm64 | .rel64 => return 8
  -- not known yet, but not asserted either
  | .mrmR => return 0
  | .gpreg | .gpreg8 | .sreg | .mrmSr | .mrmR8 | .none | .pend => do
    assert build false
    return 0

/-! ## ModRM and SIB -/

/-- The two bytes, each absent until it is assigned. -/
structure PostByte where
  modRM : Option UInt8 := none
  sib : Option UInt8 := none
  deriving DecidableEq, Repr

namespace PostByte

def mode.regInd : UInt8 := 0x00
def mode.regIndDisp8 : UInt8 := 0x01
def mode.regIndDisp : UInt8 := 0x02
def mode.reg : UInt8 := 0x03

def regs.pbyteSib : UInt8 := 0x04
def regs.pbyteDisp : UInt8 := 0x05
def regs.sibbaseDisp : UInt8 := 0x05

def getHasModRM (p : PostByte) : Bool := p.modRM.isSome

/-- An accessor of ModRM asserts that there is one. -/
def ofModRM (build : Build) (p : PostByte) (field : UInt8 → UInt8) : Except Fault UInt8 := do
  assert build p.getHasModRM
  return field (p.modRM.getD 0)

def getMode (build : Build) (p : PostByte) : Except Fault UInt8 :=
  p.ofModRM build fun modRM => modRM >>> 6

def getRegisterOrOpcode (build : Build) (p : PostByte) : Except Fault UInt8 :=
  p.ofModRM build fun modRM => (modRM >>> 3) &&& 7

def getRegisterOrMode (build : Build) (p : PostByte) : Except Fault UInt8 :=
  p.ofModRM build fun modRM => modRM &&& 7

def getHasSIB (p : PostByte) : Bool := p.sib.isSome

def getBase (p : PostByte) : UInt8 := p.sib.getD 0 &&& 7

/-- The bytes read, and the iterator past them if it is to move. -/
def assign (build : Build) (memory : Memory) (p : PostByte) (iter : OpcodeIterator)
    (autoInc : Bool) : Except Fault (Nat × PostByte × OpcodeIterator) := do
  let p := { p with modRM := some (iter.at memory 0) }
  let addressing ← p.getMode build
  let register ← p.getRegisterOrMode build
  -- a SIB byte follows in every mode with memory when the register's number is ESP's
  let (count, p) :=
    if addressing ≠ mode.reg ∧ register = regs.pbyteSib then
      (2, { p with sib := some (iter.at memory 1) })
    else (1, p)
  let iter :=
    if autoInc then
      if p.getHasSIB then (iter.advance 1).advance 1 else iter.advance 1
    else iter
  return (count, p, iter)

end PostByte

/-! ## Finding the row -/

/-- The iterator past the opcode, if the row has the opcode there. -/
def OpcodeInfo.matchOpcode (memory : Memory) (row : OpcodeInfo) (iter : OpcodeIterator) :
    Option OpcodeIterator :=
  -- a two-byte opcode
  if row.opPrefix ≠ 0 ∧ row.opPrefix = iter.at memory 0 ∧ row.opcode = iter.at memory 1 then
    some ((iter.advance 1).advance 1)
  -- a one-byte opcode; the two cannot both match
  else if row.opPrefix = 0 ∧ row.opcode = iter.at memory 0 then
    some (iter.advance 1)
  else none

/-- The loop of `FindOpcode` over the rows that are left. -/
def findRow (build : Build) (memory : Memory) (opIterIn : OpcodeIterator) :
    List OpcodeInfo → Except Fault (Option (OpcodeInfo × OpcodeIterator))
  | [] => return none
  | row :: rows =>
    match row.matchOpcode memory opIterIn with
    | none => findRow build memory opIterIn rows
    | some iter =>
      -- the ModRM byte is only looked at: the iterator stays behind the opcode
      if row.postbyte ≠ PO.none then do
        let (size, modRM, iter) ← PostByte.assign build memory {} iter false
        if size = 0 then return none
        let digit ← modRM.getRegisterOrOpcode build
        -- an opcode extension that is another row's
        if row.postbyte ≠ PO.register ∧ row.postbyte ≠ digit then
          findRow build memory opIterIn rows
        else return some (row, iter)
      else return some (row, iter)

/-- The first row of the tables that matches, and the iterator past its opcode. -/
def findOpcode (build : Build) (memory : Memory) (iter : OpcodeIterator) :
    Except Fault (Option (OpcodeInfo × OpcodeIterator)) :=
  findRow build memory iter opcodeRows

/-! ## Instructions -/

structure Instruction where
  info : Option OpcodeInfo := none
  address : BitVec 64 := 0
  codeSize : BitVec 64 := 0
  prefixBytes : List UInt8 := []
  postbyte : PostByte := {}
  displacement : Operand := {}
  operandDst : Operand := {}
  operandSrc1 : Operand := {}
  operandSrc2 : Operand := {}
  deriving DecidableEq, Repr

namespace Instruction

/-- `Reset` leaves the displacement and the operands as they are. -/
def reset (self : Instruction) : Instruction :=
  { self with info := none, address := 0, codeSize := 0, prefixBytes := [], postbyte := {} }

def getSize (self : Instruction) : Nat := self.codeSize.toNat

def maxPrefixBytes : Nat := 4

def isPrefixByte (b : UInt8) : Bool :=
  b == 0xf0 || b == 0xf2 || b == 0xf3 || b == 0x66 || b == 0x67 ||
  b == 0x26 || b == 0x2e || b == 0x36 || b == 0x3e || b == 0x64 || b == 0x65

/-- `ProcessPrefix`, with the room that is left in `m_PrefixBytes`. The loop stores
a prefix without looking at the room. -/
def processPrefix (memory : Memory) :
    Nat → OpcodeIterator → Except Fault (List UInt8 × OpcodeIterator)
  | 0, iter => if isPrefixByte (iter.at memory 0) then throw .undefined else return ([], iter)
  | room + 1, iter =>
    if isPrefixByte (iter.at memory 0) then do
      let (bytes, iter') ← processPrefix memory room (iter.advance 1)
      return (iter.at memory 0 :: bytes, iter')
    else return ([], iter)

/-- The assertions of `ProcessOperand` on an operand that ModRM gives. -/
def assertModRM (build : Build) (info : OpcodeInfo) (postbyte : PostByte) : Except Fault Unit := do
  assert build info.explicitRegister.isNone
  assert build postbyte.getHasModRM
  assert build (info.postbyte != PO.none)

/-- The end of `ProcessOperand`: read a value of one of the integer sizes. -/
def readOperand (memory : Memory) (iter : OpcodeIterator) (operand : Operand)
    (type : OperandType) (size : Nat) : Operand × OpcodeIterator :=
  match size with
  | 1 | 2 | 4 | 8 =>
    let (value, iter) := iter.nextInt memory size
    (Operand.setValue type size value, iter)
  | _ => (operand, iter)

def processOperand (build : Build) (memory : Memory) (info : OpcodeInfo) (postbyte : PostByte)
    (iter : OpcodeIterator) (operand : Operand) (type : OperandType) :
    Except Fault (Operand × OpcodeIterator) :=
  match type with
  -- a register that the opcode names takes no bytes
  | .gpreg | .gpreg8 | .sreg => return (Operand.create type, iter)
  | .mrmR | .mrmSr | .mrmR8 => do
    assert build (info.postbyte == PO.register)
    assertModRM build info postbyte
    return (Operand.create type, iter)
  -- ModRM names these; its bytes were read already
  | .mrm | .mrm8 => do
    assertModRM build info postbyte
    return (Operand.create type, iter)
  | .imm | .imm8 | .imm16 | .imm32 | .imm64
  | .rel | .rel8 | .rel16 | .rel32 | .rel64 => do
    let size ← sizeOfOperandByType build type
    return readOperand memory iter operand type size
  | .none => return (operand, iter)
  | .pend => do
    assert build false
    return (operand, iter)

/-- The part of `ProcessPostfix` that reads the displacement. -/
def processDisplacement (build : Build) (memory : Memory) (info : OpcodeInfo)
    (postbyte : PostByte) (displacement : Operand) (iter : OpcodeIterator) :
    Except Fault (Operand × OpcodeIterator) := do
  let addressing ← postbyte.getMode build
  -- no displacement, but for two encodings that mean an address
  if addressing = PostByte.mode.regInd then
    let register ← postbyte.getRegisterOrMode build
    if register = PostByte.regs.pbyteDisp then
      processOperand build memory info postbyte iter displacement .imm
    else if postbyte.getHasSIB ∧ postbyte.getBase = PostByte.regs.sibbaseDisp then
      processOperand build memory info postbyte iter displacement .imm
    else return (displacement, iter)
  else if addressing = PostByte.mode.regIndDisp then
    processOperand build memory info postbyte iter displacement .imm
  else if addressing = PostByte.mode.regIndDisp8 then
    processOperand build memory info postbyte iter displacement .imm8
  -- a register operand has none
  else if addressing = PostByte.mode.reg then return (displacement, iter)
  else
    assert build false
    return (displacement, iter)

/-- Read ModRM, SIB, and the displacement that they ask for. -/
def processPostfix (build : Build) (memory : Memory) (info : OpcodeInfo) (postbyte : PostByte)
    (displacement : Operand) (iter : OpcodeIterator) :
    Except Fault (PostByte × Operand × OpcodeIterator) := do
  let (_, postbyte, iter) ← postbyte.assign build memory iter true
  let digit ← postbyte.getRegisterOrOpcode build
  assert build (info.postbyte == PO.register || digit == info.postbyte)
  let (displacement, iter) ←
    processDisplacement build memory info postbyte displacement iter
  return (postbyte, displacement, iter)

/-- The result, the instruction afterwards, and the iterator afterwards. -/
def decode (build : Build) (memory : Memory) (self : Instruction) (opIterIn : OpcodeIterator) :
    Except Fault (Bool × Instruction × OpcodeIterator) := do
  let self := { self.reset with address := opIterIn.getAddress }
  let (prefixBytes, iter) ← processPrefix memory maxPrefixBytes opIterIn
  let self := { self with prefixBytes }
  match ← findOpcode build memory iter with
  -- a failed decoding leaves the caller's iterator where it was
  | none => return (false, self.reset, opIterIn)
  | some (info, iter) =>
    if info.isTerminator then return (false, self.reset, opIterIn)
    let self := { self with info := some info }
    let (postbyte, displacement, iter) ←
      (if info.postbyte ≠ PO.none then
        processPostfix build memory info self.postbyte self.displacement iter
      else return (self.postbyte, self.displacement, iter))
    let self := { self with postbyte, displacement }
    -- the operands are read in the order in which they are encoded
    let (operandDst, iter) ←
      processOperand build memory info postbyte iter self.operandDst info.operandTypeDst
    let (operandSrc1, iter) ←
      processOperand build memory info postbyte iter self.operandSrc1 info.operandTypeSrc1
    let (operandSrc2, iter) ←
      processOperand build memory info postbyte iter self.operandSrc2 info.operandTypeSrc2
    let codeSize := iter.getAddress - self.address
    return (true, { self with operandDst, operandSrc1, operandSrc2, codeSize }, iter)

/-- What `Relocate` does to one operand. -/
def relocateOperand (build : Build) (self : Instruction) (address : BitVec 64) (op : Operand) :
    Except Fault Operand :=
  if isRelative op.type then
    -- the target stays, the address after the instruction changes
    let value := (self.address + self.codeSize + op.intValue) - (address + self.codeSize)
    match op.size with
    | 1 | 2 | 4 | 8 => return Operand.setValue op.type op.size value
    | _ => do
      assert build false
      return op
  else return op

def relocate (build : Build) (self : Instruction) (address : BitVec 64) :
    Except Fault Instruction := do
  let operandDst ← self.relocateOperand build address self.operandDst
  let operandSrc1 ← self.relocateOperand build address self.operandSrc1
  let operandSrc2 ← self.relocateOperand build address self.operandSrc2
  return { self with operandDst, operandSrc1, operandSrc2, address }

/-- The loop of `AppendOperand`. -/
def appendValue : Nat → BitVec 64 → List UInt8
  | 0, _ => []
  | size + 1, intVal => UInt8.ofNat (intVal &&& 0xff).toNat :: appendValue size (intVal >>> 8)

def appendOperand (operand : Operand) : List UInt8 := appendValue operand.size operand.intValue

/-- The bytes that are written for the opcode. -/
def opcodeBytes (info : OpcodeInfo) : List UInt8 :=
  (if info.opPrefix ≠ 0 then [info.opPrefix] else []) ++ [info.opcode]

/-- The bytes that are written for ModRM and SIB. -/
def postbyteBytes (postbyte : PostByte) : List UInt8 :=
  postbyte.modRM.toList ++ postbyte.sib.toList

/-- The bytes of the instruction in the order in which `Emit` writes them. -/
def bytes (self : Instruction) (info : OpcodeInfo) : List UInt8 :=
  self.prefixBytes ++ opcodeBytes info ++ postbyteBytes self.postbyte ++
    appendOperand self.displacement ++ appendOperand self.operandDst ++
    appendOperand self.operandSrc1 ++ appendOperand self.operandSrc2

/-- The bytes written. -/
def emit (build : Build) (self : Instruction) : Except Fault (List UInt8) :=
  match self.info with
  | none => throw .undefined
  | some info => do
    assert build ((self.bytes info).length == self.getSize)
    return self.bytes info

end Instruction

end Giblet.CodeHook
