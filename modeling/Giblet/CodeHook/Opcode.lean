import Giblet.Lib.IA32

/-!
# CodeHook — the opcode tables

The rows of `opcodes32Table` with every column that decoding reads. The
column `desc` keeps what the row's own text (`m_Desc`) says of the field
after the opcode, be it in the manual's letters (`ib`, `cd`) or by the
operand's name (`imm8`, `rel32`); the rest of the text, the name and the
operand size are only printed, and `ADC`, `BT` and `BTC` are in no table
that is searched.
-/

namespace Giblet.CodeHook

/-- `OPERAND_TYPE`. -/
inductive OperandType
  | gpreg
  | gpreg8
  | sreg
  | mrmR
  | mrmSr
  | mrmR8
  | mrm
  | mrm8
  | imm
  | imm8
  | imm16
  | imm32
  | imm64
  | rel
  | rel8
  | rel16
  | rel32
  | rel64
  | none
  | pend
  deriving DecidableEq, Repr

/-- `ADDR_MODE`. The mode `AM_INV` only marks the end of a table. -/
inductive AddressingMode
  | inh
  | dir
  | ext
  | rel
  | imm
  | enh
  deriving DecidableEq, Repr

/-- The registers that rows name. -/
inductive Register
  | al | cl | dl | bl | ah | ch | dh | bh
  | eax | ecx | edx | ebx | esp | ebp | esi | edi
  | es | cs | ss | ds | fs | gs
  deriving DecidableEq, Repr

/-! ## Opcode extensions used in ModRM -/

namespace PO

def register : UInt8 := 0xfe
def none : UInt8 := 0xff

def x80.add8i8 : UInt8 := 0x00
def x80.and8i8 : UInt8 := 0x04
def x80.sub8i8 : UInt8 := 0x05
def x80.xor8i8 : UInt8 := 0x06
def x80.cmp8i8 : UInt8 := 0x07

def x81.addi : UInt8 := 0x00
def x81.subi : UInt8 := 0x05
def x81.cmpi : UInt8 := 0x07

def x83.addi8 : UInt8 := 0x00
def x83.andi8 : UInt8 := 0x04
def x83.subi8 : UInt8 := 0x05
def x83.xori8 : UInt8 := 0x06
def x83.cmpi8 : UInt8 := 0x07

def x8F.pop : UInt8 := 0x00

def xF6.imul8 : UInt8 := 0x05
def xF6.idiv8 : UInt8 := 0x07

def xF7.imul : UInt8 := 0x05
def xF7.idiv : UInt8 := 0x07

def xFF.ncall : UInt8 := 0x02
def xFF.fcall : UInt8 := 0x03
def xFF.jumpn : UInt8 := 0x04
def xFF.jumpf : UInt8 := 0x05
def xFF.push : UInt8 := 0x06

end PO

/-! ## Rows -/

structure OpcodeInfo where
  opPrefix : UInt8
  opcode : UInt8
  addressingMode : AddressingMode
  postbyte : UInt8
  explicitRegister : Option Register
  operandTypeDst : OperandType
  operandTypeSrc1 : OperandType
  operandTypeSrc2 : OperandType
  desc : IA32.Field
  isTerminator : Bool
  deriving DecidableEq, Repr

/-- `OTE_`: a row that is no terminator. -/
def ote (opPrefix opcode : UInt8) (mode : AddressingMode) (postbyte : UInt8)
    (register : Option Register) (dst src1 src2 : OperandType) (desc : IA32.Field) :
    OpcodeInfo :=
  ⟨opPrefix, opcode, mode, postbyte, register, dst, src1, src2, desc, false⟩

/-- `OTET_`: a row that ends decoding. -/
def otet (opPrefix opcode : UInt8) (mode : AddressingMode) (postbyte : UInt8)
    (register : Option Register) (dst src1 src2 : OperandType) (desc : IA32.Field) :
    OpcodeInfo :=
  ⟨opPrefix, opcode, mode, postbyte, register, dst, src1, src2, desc, true⟩

def opcodesTableGeneral : List OpcodeInfo :=
  [ ote  0x00 0xc3 .inh PO.none     none .none .none  .none .none,
    ote  0x00 0xcb .inh PO.none     none .none .none  .none .none,
    ote  0x00 0xc2 .imm PO.none     none .none .imm16 .none .iw,
    ote  0x00 0xca .imm PO.none     none .none .imm16 .none .iw,
    ote  0x00 0xe2 .rel PO.none     none .none .rel8  .none .cb,
    ote  0x00 0xe1 .rel PO.none     none .none .rel8  .none .cb,
    ote  0x00 0xe0 .rel PO.none     none .none .rel8  .none .cb,
    ote  0x00 0x99 .inh PO.none     none .none .none  .none .none,
    ote  0x00 0x37 .inh PO.none     none .none .none  .none .none,
    ote  0x00 0xd5 .imm PO.none     none .none .imm8  .none .ib,
    ote  0x00 0xd4 .imm PO.none     none .none .imm8  .none .ib,
    ote  0x00 0x3f .inh PO.none     none .none .none  .none .none,
    ote  0x00 0x8d .enh PO.register none .mrmR .mrm   .none .none,
    otet 0x00 0xcc .inh PO.none     none .none .none  .none .none ]

def opcodesTableADD : List OpcodeInfo :=
  [ ote 0x00 0x04 .imm PO.none       (some .al)  .gpreg8 .imm8  .none .ib,
    ote 0x00 0x05 .imm PO.none       (some .eax) .gpreg  .imm   .none .id,
    ote 0x00 0x80 .imm PO.x80.add8i8 none        .mrm8   .imm8  .none .ib,
    ote 0x00 0x81 .imm PO.x81.addi   none        .mrm    .imm   .none .id,
    ote 0x00 0x83 .imm PO.x83.addi8  none        .mrm    .imm8  .none .ib,
    ote 0x00 0x00 .dir PO.register   none        .mrm8   .mrmR8 .none .none,
    ote 0x00 0x01 .dir PO.register   none        .mrm    .mrmR  .none .none,
    ote 0x00 0x02 .dir PO.register   none        .mrmR8  .mrm8  .none .none,
    ote 0x00 0x03 .dir PO.register   none        .mrmR   .mrm   .none .none ]

def opcodesTableAND : List OpcodeInfo :=
  [ ote 0x00 0x24 .imm PO.none       (some .al)  .gpreg8 .imm8  .none .ib,
    ote 0x00 0x25 .imm PO.none       (some .eax) .gpreg  .imm   .none .id,
    ote 0x00 0x80 .imm PO.x80.and8i8 none        .mrm8   .imm8  .none .ib,
    ote 0x00 0x81 .imm PO.x83.andi8  none        .mrm    .imm8  .none .id,
    ote 0x00 0x83 .imm PO.x83.andi8  none        .mrm    .imm8  .none .ib,
    ote 0x00 0x20 .dir PO.register   none        .mrm8   .mrmR8 .none .none,
    ote 0x00 0x21 .dir PO.register   none        .mrm    .mrmR  .none .none,
    ote 0x00 0x22 .dir PO.register   none        .mrmR8  .mrm8  .none .none,
    ote 0x00 0x23 .dir PO.register   none        .mrmR   .mrm   .none .none ]

def opcodesTableCMP : List OpcodeInfo :=
  [ ote 0x00 0x3c .imm PO.none       (some .al)  .gpreg8 .imm8  .none .ib,
    ote 0x00 0x3d .imm PO.none       (some .eax) .gpreg  .imm   .none .id,
    ote 0x00 0x80 .imm PO.x80.cmp8i8 none        .mrm8   .imm8  .none .ib,
    ote 0x00 0x81 .imm PO.x81.cmpi   none        .mrm    .imm   .none .id,
    ote 0x00 0x83 .imm PO.x83.cmpi8  none        .mrm    .imm8  .none .ib,
    ote 0x00 0x38 .dir PO.register   none        .mrm8   .mrmR8 .none .none,
    ote 0x00 0x39 .dir PO.register   none        .mrm    .mrmR  .none .none,
    ote 0x00 0x3a .dir PO.register   none        .mrmR8  .mrm8  .none .none,
    ote 0x00 0x3b .dir PO.register   none        .mrmR   .mrm   .none .none,
    ote 0x00 0xa6 .inh PO.none       none        .none   .none  .none .none,
    ote 0x00 0xa7 .inh PO.none       none        .none   .none  .none .none ]

def opcodesTableCALL : List OpcodeInfo :=
  [ ote 0x00 0xe8 .rel PO.none      none .none .rel .none  .cd,
    ote 0x00 0xff .enh PO.xFF.ncall none .none .mrm .none  .none,
    ote 0x00 0x9a .ext PO.none      none .none .imm .imm16 .cp,
    ote 0x00 0xff .enh PO.xFF.fcall none .none .mrm .none  .none ]

def opcodesTableDIV : List OpcodeInfo :=
  [ ote 0x00 0xf6 .enh PO.xF6.idiv8 none .none .mrm8 .none .none,
    ote 0x00 0xf7 .enh PO.xF7.idiv  none .none .mrm  .none .none ]

def opcodesTableJcc : List OpcodeInfo :=
  [ ote 0x00 0x70 .rel PO.none none .none .rel8 .none .cb,
    ote 0x00 0x71 .rel PO.none none .none .rel8 .none .cb,
    ote 0x00 0x72 .rel PO.none none .none .rel8 .none .cb,
    ote 0x00 0x73 .rel PO.none none .none .rel8 .none .cb,
    ote 0x00 0x74 .rel PO.none none .none .rel8 .none .cb,
    ote 0x00 0x75 .rel PO.none none .none .rel8 .none .cb,
    ote 0x00 0x76 .rel PO.none none .none .rel8 .none .cb,
    ote 0x00 0x77 .rel PO.none none .none .rel8 .none .cb,
    ote 0x00 0x78 .rel PO.none none .none .rel8 .none .cb,
    ote 0x00 0x79 .rel PO.none none .none .rel8 .none .cb,
    ote 0x00 0x7a .rel PO.none none .none .rel8 .none .cb,
    ote 0x00 0x7b .rel PO.none none .none .rel8 .none .cb,
    ote 0x00 0x7c .rel PO.none none .none .rel8 .none .cb,
    ote 0x00 0x7d .rel PO.none none .none .rel8 .none .cb,
    ote 0x00 0x7e .rel PO.none none .none .rel8 .none .cb,
    ote 0x00 0x7f .rel PO.none none .none .rel8 .none .cb,
    ote 0x00 0xe3 .rel PO.none none .none .rel8 .none .cb,
    ote 0x0f 0x80 .rel PO.none none .none .rel  .none .cd,
    ote 0x0f 0x81 .rel PO.none none .none .rel  .none .cd,
    ote 0x0f 0x82 .rel PO.none none .none .rel  .none .cd,
    ote 0x0f 0x83 .rel PO.none none .none .rel  .none .cd,
    ote 0x0f 0x84 .rel PO.none none .none .rel  .none .cd,
    ote 0x0f 0x85 .rel PO.none none .none .rel  .none .cd,
    ote 0x0f 0x86 .rel PO.none none .none .rel  .none .cd,
    ote 0x0f 0x87 .rel PO.none none .none .rel  .none .cd,
    ote 0x0f 0x88 .rel PO.none none .none .rel  .none .cd,
    ote 0x0f 0x89 .rel PO.none none .none .rel  .none .cd,
    ote 0x0f 0x8a .rel PO.none none .none .rel  .none .cd,
    ote 0x0f 0x8b .rel PO.none none .none .rel  .none .cd,
    ote 0x0f 0x8c .rel PO.none none .none .rel  .none .cd,
    ote 0x0f 0x8d .rel PO.none none .none .rel  .none .cd,
    ote 0x0f 0x8e .rel PO.none none .none .rel  .none .cd,
    ote 0x0f 0x8f .rel PO.none none .none .rel  .none .cd ]

def opcodesTableJMP : List OpcodeInfo :=
  [ ote 0x00 0xeb .rel PO.none      none .none .rel8 .none  .cb,
    ote 0x00 0xe9 .rel PO.none      none .none .rel  .none  .cd,
    ote 0x00 0xff .enh PO.xFF.jumpn none .none .mrm  .none  .none,
    ote 0x00 0xea .ext PO.none      none .none .imm  .imm16 .cp,
    ote 0x00 0xff .dir PO.xFF.jumpf none .none .mrm  .none  .none ]

def opcodesTableMOV : List OpcodeInfo :=
  [ ote 0x00 0x88 .enh PO.register none        .mrm8   .mrmR8 .none .none,
    ote 0x00 0x89 .enh PO.register none        .mrm    .mrmR  .none .none,
    ote 0x00 0x8a .enh PO.register none        .mrmR8  .mrm8  .none .none,
    ote 0x00 0x8b .enh PO.register none        .mrmR   .mrm   .none .none,
    ote 0x00 0x8c .enh PO.register none        .mrm    .mrmSr .none .none,
    ote 0x00 0x8e .enh PO.register none        .mrmSr  .mrm   .none .none,
    ote 0x00 0xa0 .imm PO.none     (some .al)  .gpreg8 .imm   .none .moffs,
    ote 0x00 0xa1 .imm PO.none     (some .eax) .gpreg  .imm   .none .moffs,
    ote 0x00 0xa2 .imm PO.none     (some .al)  .gpreg8 .imm   .none .moffs,
    ote 0x00 0xa3 .imm PO.none     (some .eax) .gpreg  .imm   .none .moffs,
    ote 0x00 0xb0 .imm PO.none     (some .al)  .gpreg8 .imm8  .none .ib,
    ote 0x00 0xb1 .imm PO.none     (some .cl)  .gpreg8 .imm8  .none .ib,
    ote 0x00 0xb2 .imm PO.none     (some .dl)  .gpreg8 .imm8  .none .ib,
    ote 0x00 0xb3 .imm PO.none     (some .bl)  .gpreg8 .imm8  .none .ib,
    ote 0x00 0xb4 .imm PO.none     (some .ah)  .gpreg8 .imm8  .none .ib,
    ote 0x00 0xb5 .imm PO.none     (some .ch)  .gpreg8 .imm8  .none .ib,
    ote 0x00 0xb6 .imm PO.none     (some .dh)  .gpreg8 .imm8  .none .ib,
    ote 0x00 0xb7 .imm PO.none     (some .bh)  .gpreg8 .imm8  .none .ib,
    ote 0x00 0xb8 .imm PO.none     (some .eax) .gpreg8 .imm   .none .id,
    ote 0x00 0xb9 .imm PO.none     (some .ecx) .gpreg8 .imm   .none .id,
    ote 0x00 0xba .imm PO.none     (some .edx) .gpreg8 .imm   .none .id,
    ote 0x00 0xbb .imm PO.none     (some .ebx) .gpreg8 .imm   .none .id,
    ote 0x00 0xbc .imm PO.none     (some .esp) .gpreg8 .imm   .none .id,
    ote 0x00 0xbd .imm PO.none     (some .ebp) .gpreg8 .imm   .none .id,
    ote 0x00 0xbe .imm PO.none     (some .esi) .gpreg8 .imm   .none .id,
    ote 0x00 0xbf .imm PO.none     (some .edi) .gpreg8 .imm   .none .id ]

def opcodesTableMUL : List OpcodeInfo :=
  [ ote 0x00 0xf6 .enh PO.xF6.imul8 (some .al)  .mrm8 .imm8 .none .none,
    ote 0x00 0xf7 .enh PO.xF7.imul  (some .eax) .mrm  .imm  .none .none,
    ote 0x0f 0xaf .enh PO.register  none        .mrmR .mrm  .none .none,
    ote 0x00 0x6b .enh PO.register  none        .mrmR .mrm  .imm8 .ib,
    ote 0x00 0x6b .imm PO.register  none        .mrmR .imm8 .none .ib,
    ote 0x00 0x69 .imm PO.register  none        .mrmR .mrm  .imm  .id ]

def opcodesTablePOP : List OpcodeInfo :=
  [ ote 0x00 0x8f .enh PO.x8F.pop none        .mrm   .none .none .none,
    ote 0x00 0x58 .inh PO.none    (some .eax) .gpreg .none .none .none,
    ote 0x00 0x59 .inh PO.none    (some .ecx) .gpreg .none .none .none,
    ote 0x00 0x5a .inh PO.none    (some .edx) .gpreg .none .none .none,
    ote 0x00 0x5b .inh PO.none    (some .ebx) .gpreg .none .none .none,
    ote 0x00 0x5c .inh PO.none    (some .esp) .gpreg .none .none .none,
    ote 0x00 0x5d .inh PO.none    (some .ebp) .gpreg .none .none .none,
    ote 0x00 0x5e .inh PO.none    (some .esi) .gpreg .none .none .none,
    ote 0x00 0x5f .inh PO.none    (some .edi) .gpreg .none .none .none,
    ote 0x00 0x1f .inh PO.none    (some .ds)  .sreg  .none .none .none,
    ote 0x00 0x07 .inh PO.none    (some .es)  .sreg  .none .none .none,
    ote 0x00 0x17 .inh PO.none    (some .ss)  .sreg  .none .none .none,
    ote 0x0f 0xa1 .inh PO.none    (some .fs)  .sreg  .none .none .none,
    ote 0x0f 0xa9 .inh PO.none    (some .gs)  .sreg  .none .none .none ]

def opcodesTablePUSH : List OpcodeInfo :=
  [ ote 0x00 0xff .enh PO.xFF.push none        .none .mrm   .none .none,
    ote 0x00 0x50 .inh PO.none     (some .eax) .none .gpreg .none .none,
    ote 0x00 0x51 .inh PO.none     (some .ecx) .none .gpreg .none .none,
    ote 0x00 0x52 .inh PO.none     (some .edx) .none .gpreg .none .none,
    ote 0x00 0x53 .inh PO.none     (some .ebx) .none .gpreg .none .none,
    ote 0x00 0x54 .inh PO.none     (some .esp) .none .gpreg .none .none,
    ote 0x00 0x55 .inh PO.none     (some .ebp) .none .gpreg .none .none,
    ote 0x00 0x56 .inh PO.none     (some .esi) .none .gpreg .none .none,
    ote 0x00 0x57 .inh PO.none     (some .edi) .none .gpreg .none .none,
    ote 0x00 0x6a .imm PO.none     none        .none .imm8  .none .ib,
    ote 0x00 0x68 .imm PO.none     none        .none .imm   .none .id,
    ote 0x00 0x0e .inh PO.none     (some .cs)  .none .sreg  .none .none,
    ote 0x00 0x16 .inh PO.none     (some .ss)  .none .sreg  .none .none,
    ote 0x00 0x1e .inh PO.none     (some .ds)  .none .sreg  .none .none,
    ote 0x00 0x06 .inh PO.none     (some .es)  .none .sreg  .none .none,
    ote 0x0f 0xa0 .inh PO.none     (some .fs)  .none .sreg  .none .none,
    ote 0x0f 0xa8 .inh PO.none     (some .gs)  .none .sreg  .none .none ]

def opcodesTableSUB : List OpcodeInfo :=
  [ ote 0x00 0x2c .imm PO.none       (some .al)  .gpreg8 .imm8  .none .ib,
    ote 0x00 0x2d .imm PO.none       (some .eax) .gpreg  .imm   .none .id,
    ote 0x00 0x80 .imm PO.x80.sub8i8 none        .mrm8   .imm8  .none .ib,
    ote 0x00 0x81 .imm PO.x81.subi   none        .mrm    .imm   .none .id,
    ote 0x00 0x83 .imm PO.x83.subi8  none        .mrm    .imm8  .none .ib,
    ote 0x00 0x28 .dir PO.register   none        .mrm8   .mrmR8 .none .none,
    ote 0x00 0x29 .dir PO.register   none        .mrm    .mrmR  .none .none,
    ote 0x00 0x2a .dir PO.register   none        .mrmR8  .mrm8  .none .none,
    ote 0x00 0x2b .dir PO.register   none        .mrmR   .mrm   .none .none ]

def opcodesTableXOR : List OpcodeInfo :=
  [ ote 0x00 0x34 .imm PO.none       (some .al)  .gpreg8 .imm8  .none .ib,
    ote 0x00 0x35 .imm PO.none       (some .eax) .gpreg  .imm   .none .id,
    ote 0x00 0x80 .imm PO.x80.xor8i8 none        .mrm8   .imm8  .none .ib,
    ote 0x00 0x81 .imm PO.x83.xori8  none        .mrm    .imm8  .none .id,
    ote 0x00 0x83 .imm PO.x83.xori8  none        .mrm    .imm8  .none .ib,
    ote 0x00 0x30 .dir PO.register   none        .mrm8   .mrmR8 .none .none,
    ote 0x00 0x31 .dir PO.register   none        .mrm    .mrmR  .none .none,
    ote 0x00 0x32 .dir PO.register   none        .mrmR8  .mrm8  .none .none,
    ote 0x00 0x33 .dir PO.register   none        .mrmR   .mrm   .none .none ]

def opcodesTableSTOS : List OpcodeInfo :=
  [ ote 0x00 0xaa .inh PO.none (some .edi) .none .none .none .none,
    ote 0x00 0xab .inh PO.none (some .edi) .none .none .none .none,
    ote 0x00 0xaa .inh PO.none (some .edi) .none .none .none .none,
    ote 0x00 0xab .inh PO.none (some .edi) .none .none .none .none ]

def opcodes32Table : List (List OpcodeInfo) :=
  [ opcodesTableGeneral,
    opcodesTableADD,
    opcodesTableAND,
    opcodesTableCMP,
    opcodesTableCALL,
    opcodesTableDIV,
    opcodesTableJcc,
    opcodesTableJMP,
    opcodesTableMOV,
    opcodesTableMUL,
    opcodesTablePOP,
    opcodesTablePUSH,
    opcodesTableSUB,
    opcodesTableXOR,
    opcodesTableSTOS ]

/-! ## Kinds of operand -/

def isRegister : OperandType → Bool
  | .gpreg | .gpreg8 | .sreg => true
  | _ => false

def isModRM : OperandType → Bool
  | .mrmR | .mrmSr | .mrmR8 | .mrm | .mrm8 => true
  | _ => false

def isRelative : OperandType → Bool
  | .rel | .rel8 | .rel16 | .rel32 | .rel64 => true
  | _ => false

def isImmediate : OperandType → Bool
  | .imm | .imm8 | .imm16 | .imm32 | .imm64 => true
  | _ => false

/-! ## The tables' own check -/

/-- Does one of the row's operands come from ModRM? -/
def OpcodeInfo.anyModRM (row : OpcodeInfo) : Bool :=
  isModRM row.operandTypeDst || isModRM row.operandTypeSrc1 || isModRM row.operandTypeSrc2

/-- What `CheckOpcodes` asserts of a row for its addressing mode. -/
def OpcodeInfo.checkMode (row : OpcodeInfo) : Bool :=
  match row.addressingMode with
  | .rel =>
    !isRelative row.operandTypeDst && isRelative row.operandTypeSrc1 &&
      !isRelative row.operandTypeSrc2
  | .enh => row.postbyte != PO.none && row.anyModRM
  | .ext =>
    row.operandTypeDst == .none && row.operandTypeSrc1 == .imm && row.operandTypeSrc2 == .imm16
  | .dir =>
    (isModRM row.operandTypeDst || row.operandTypeDst == .none) &&
      isModRM row.operandTypeSrc1 && row.operandTypeSrc2 == .none
  | .imm =>
    ((row.operandTypeDst == .none || isRegister row.operandTypeDst ||
        isModRM row.operandTypeDst) &&
      isImmediate row.operandTypeSrc1 && row.operandTypeSrc2 == .none) ||
    (row.postbyte == PO.register && isModRM row.operandTypeDst &&
      isModRM row.operandTypeSrc1 && isImmediate row.operandTypeSrc2)
  | .inh =>
    row.operandTypeSrc2 == .none &&
    ((row.operandTypeDst == .none && row.operandTypeSrc1 == .none) ||
      (row.operandTypeDst == .none && isRegister row.operandTypeSrc1) ||
      (isRegister row.operandTypeDst && row.operandTypeSrc1 == .none))

/-- What `CheckOpcodes` asserts of a row. -/
def OpcodeInfo.check (row : OpcodeInfo) : Bool :=
  (row.postbyte != PO.none) == row.anyModRM && row.checkMode

/-- The rows in the order in which they are searched. -/
def opcodeRows : List OpcodeInfo := opcodes32Table.flatten

/-- `CheckOpcodes` passes. -/
theorem check_opcodeRows : ∀ row ∈ opcodeRows, row.check = true := by
  decide +kernel

end Giblet.CodeHook
