import Mathlib.Data.List.Basic
import Mathlib.Tactic.Common

/-!
# IA32 — how long an instruction is

The instruction format in 32-bit mode, with the default operand and address
sizes: prefixes, one or two opcode bytes, the ModRM byte with what it asks
for, and the field that the opcode map gives to the opcode. Code is a stream
`Nat → UInt8` that starts at the instruction's first byte.

The one-byte map is whole; of the two-byte map (escape `0F`) the rows `8x`
to `Bx` are here.
-/

namespace IA32

/-! ## Prefixes -/

/-- The four groups of legacy prefixes. -/
def isPrefix (b : UInt8) : Bool :=
  b == 0xf0 || b == 0xf2 || b == 0xf3 ||
  b == 0x2e || b == 0x36 || b == 0x3e || b == 0x26 || b == 0x64 || b == 0x65 ||
  b == 0x66 || b == 0x67

/-- How many prefixes the code starts with, counted up to a bound. -/
def prefixesUpTo : Nat → (Nat → UInt8) → Nat
  | 0, _ => 0
  | bound + 1, code =>
    if isPrefix (code 0) then prefixesUpTo bound (fun k => code (k + 1)) + 1 else 0

/-- An instruction has at most fifteen bytes, so at most fourteen prefixes. -/
def prefixes (code : Nat → UInt8) : Nat := prefixesUpTo 14 code

/-! ## The opcode maps -/

/-- What follows the opcode and ModRM: the code offset or immediate, in the
manual's letters. -/
inductive Field
  | none
  | ib
  | iw
  | id
  | iwib
  | cb
  | cd
  | cp
  | moffs
  deriving DecidableEq, Repr

/-- The field's bytes. -/
def Field.size : Field → Nat
  | .none => 0
  | .ib | .cb => 1
  | .iw => 2
  | .iwib => 3
  | .id | .cd | .moffs => 4
  | .cp => 6

/-- The format of an instruction after its prefixes and opcode. -/
structure Form where
  modRM : Bool
  field : Field
  deriving DecidableEq, Repr

/-! Abbreviations for the maps: `m` is ModRM, `o` none, `j` a code offset. -/

namespace Map

def oo : Option Form := some ⟨false, .none⟩
def ob : Option Form := some ⟨false, .ib⟩
def ow : Option Form := some ⟨false, .iw⟩
def od : Option Form := some ⟨false, .id⟩
def en : Option Form := some ⟨false, .iwib⟩
def mm : Option Form := some ⟨true, .none⟩
def mb : Option Form := some ⟨true, .ib⟩
def md : Option Form := some ⟨true, .id⟩
def jb : Option Form := some ⟨false, .cb⟩
def jd : Option Form := some ⟨false, .cd⟩
def jp : Option Form := some ⟨false, .cp⟩
def mo : Option Form := some ⟨false, .moffs⟩

/-- Not an opcode: a prefix, the escape byte, or not assigned. -/
def xx : Option Form := none

end Map

open Map

/-- The one-byte opcode map, sixteen opcodes a row. -/
def oneByteMap : List (Option Form) :=
  [ mm, mm, mm, mm, ob, od, oo, oo, mm, mm, mm, mm, ob, od, oo, xx,  -- 0x
    mm, mm, mm, mm, ob, od, oo, oo, mm, mm, mm, mm, ob, od, oo, oo,  -- 1x
    mm, mm, mm, mm, ob, od, xx, oo, mm, mm, mm, mm, ob, od, xx, oo,  -- 2x
    mm, mm, mm, mm, ob, od, xx, oo, mm, mm, mm, mm, ob, od, xx, oo,  -- 3x
    oo, oo, oo, oo, oo, oo, oo, oo, oo, oo, oo, oo, oo, oo, oo, oo,  -- 4x
    oo, oo, oo, oo, oo, oo, oo, oo, oo, oo, oo, oo, oo, oo, oo, oo,  -- 5x
    oo, oo, mm, mm, xx, xx, xx, xx, od, md, ob, mb, oo, oo, oo, oo,  -- 6x
    jb, jb, jb, jb, jb, jb, jb, jb, jb, jb, jb, jb, jb, jb, jb, jb,  -- 7x
    mb, md, mb, mb, mm, mm, mm, mm, mm, mm, mm, mm, mm, mm, mm, mm,  -- 8x
    oo, oo, oo, oo, oo, oo, oo, oo, oo, oo, jp, oo, oo, oo, oo, oo,  -- 9x
    mo, mo, mo, mo, oo, oo, oo, oo, ob, od, oo, oo, oo, oo, oo, oo,  -- Ax
    ob, ob, ob, ob, ob, ob, ob, ob, od, od, od, od, od, od, od, od,  -- Bx
    mb, mb, ow, oo, mm, mm, mb, md, en, oo, ow, oo, oo, ob, oo, oo,  -- Cx
    mm, mm, mm, mm, ob, ob, xx, oo, mm, mm, mm, mm, mm, mm, mm, mm,  -- Dx
    jb, jb, jb, jb, ob, ob, ob, ob, jd, jd, jp, jb, oo, oo, oo, oo,  -- Ex
    xx, xx, xx, xx, oo, oo, mm, mm, oo, oo, oo, oo, oo, oo, mm, mm ] -- Fx

/-- Rows `8x` to `Bx` of the two-byte opcode map. -/
def twoByteMap : List (Option Form) :=
  [ jd, jd, jd, jd, jd, jd, jd, jd, jd, jd, jd, jd, jd, jd, jd, jd,  -- 0F 8x
    mm, mm, mm, mm, mm, mm, mm, mm, mm, mm, mm, mm, mm, mm, mm, mm,  -- 0F 9x
    oo, oo, oo, mm, mb, mm, xx, xx, oo, oo, oo, mm, mb, mm, mm, mm,  -- 0F Ax
    mm, mm, mm, mm, mm, mm, mm, mm, xx, xx, mb, mm, mm, mm, mm, mm ] -- 0F Bx

/-- The format of an opcode of the one-byte map. Of the unary group 3 only
`TEST`, whose extension digit is 0 or 1, has an immediate. -/
def oneByteForm (opcode digit : UInt8) : Option Form :=
  -- two entries of the map depend on ModRM
  if opcode = 0xf6 ∧ digit ≤ 1 then mb
  else if opcode = 0xf7 ∧ digit ≤ 1 then md
  else (oneByteMap[opcode.toNat]?).join

/-- The format of an opcode after the escape byte. -/
def twoByteForm (opcode : UInt8) : Option Form :=
  if opcode < 0x80 then none else (twoByteMap[opcode.toNat - 0x80]?).join

/-! ## ModRM -/

/-- The two bits of ModRM that choose between a register and the kinds of memory operand. -/
def mode (modRM : UInt8) : UInt8 := modRM >>> 6

/-- The register number or opcode extension in ModRM. -/
def digit (modRM : UInt8) : UInt8 := (modRM >>> 3) &&& 7

/-- The register or memory operand in ModRM. -/
def rm (modRM : UInt8) : UInt8 := modRM &&& 7

/-- Is ModRM followed by a SIB byte? -/
def hasSIB (modRM : UInt8) : Bool := mode modRM != 3 && rm modRM == 4

/-- The bytes of displacement that ModRM, with the SIB byte it has, asks for. -/
def displacementSize (modRM sib : UInt8) : Nat :=
  if mode modRM = 1 then 1
  else if mode modRM = 2 then 4
  -- without a base register: an absolute address
  else if mode modRM = 0 ∧ (rm modRM = 5 ∨ (hasSIB modRM = true ∧ rm sib = 5)) then 4
  else 0

/-- ModRM, SIB and displacement together. -/
def addressingSize (modRM sib : UInt8) : Nat :=
  1 + (if hasSIB modRM then 1 else 0) + displacementSize modRM sib

/-! ## The whole instruction -/

/-- The bytes after the opcode, when they have this format. -/
def Form.size (form : Form) (modRM sib : UInt8) : Nat :=
  (if form.modRM then addressingSize modRM sib else 0) + form.field.size

/-- The length of an instruction without prefixes. -/
def opcodeLength (code : Nat → UInt8) : Option Nat :=
  if code 0 = 0x0f then
    (twoByteForm (code 1)).map fun form => 2 + form.size (code 2) (code 3)
  else
    (oneByteForm (code 0) (digit (code 1))).map fun form => 1 + form.size (code 1) (code 2)

/-- Does a prefix change the operand or address size? -/
def overridesSize (b : UInt8) : Bool := b == 0x66 || b == 0x67

/-- The length of the instruction the code starts with; none when the maps give it
no format, or when a prefix overrides a default size. -/
def length (code : Nat → UInt8) : Option Nat :=
  if ∃ k < prefixes code, overridesSize (code k) = true then none
  else (opcodeLength fun k => code (prefixes code + k)).map (prefixes code + ·)

/-! ## Control flow -/

/-- A return or an unconditional jump: near, far, short or indirect. Control does not run on
into the code behind it. -/
def endsFlow (code : Nat → UInt8) : Bool :=
  let opcode := code (prefixes code)
  let digit := digit (code (prefixes code + 1))
  opcode == 0xc2 || opcode == 0xc3 || opcode == 0xca || opcode == 0xcb ||
  opcode == 0xe9 || opcode == 0xea || opcode == 0xeb ||
  (opcode == 0xff && (digit == 4 || digit == 5))

/-! ## Reading the definitions -/

variable {code : Nat → UInt8}

theorem prefixesUpTo_eq {n bound : Nat} (hle : n ≤ bound)
    (hall : ∀ k < n, isPrefix (code k) = true) (hstop : isPrefix (code n) = false) :
    prefixesUpTo bound code = n := by
  -- on the bound; the code starts one byte later each time
  induction bound generalizing n code with
  | zero => exact (Nat.le_zero.mp hle).symm
  | succ bound ih =>
    cases n with
    | zero => rw [prefixesUpTo, hstop, if_neg Bool.false_ne_true]
    | succ n =>
      have hfirst := hall 0 (Nat.succ_pos n)
      have hrest : prefixesUpTo bound (fun k => code (k + 1)) = n :=
        ih (by omega) (fun k hk => hall (k + 1) (by omega)) hstop
      rw [prefixesUpTo, if_pos hfirst, hrest]

theorem digit_lt (modRM : UInt8) : (digit modRM).toNat < 8 := by
  unfold digit
  rw [UInt8.toNat_and]
  exact Nat.lt_succ_of_le Nat.and_le_right

/-- The two bits of ModRM leave four modes. -/
theorem mode_cases (modRM : UInt8) :
    mode modRM = 0 ∨ mode modRM = 1 ∨ mode modRM = 2 ∨ mode modRM = 3 := by
  have hlt : (mode modRM).toNat < 4 := by
    have hbyte : modRM.toNat < 256 := modRM.toNat_lt
    rw [mode, UInt8.toNat_shiftRight, Nat.shiftRight_eq_div_pow]
    show modRM.toNat / 64 < 4
    omega
  simp only [← UInt8.toNat_inj]
  show _ = 0 ∨ _ = 1 ∨ _ = 2 ∨ _ = 3
  omega

theorem displacementSize_le (modRM sib : UInt8) : displacementSize modRM sib ≤ 4 := by
  unfold displacementSize
  split_ifs <;> decide

theorem addressingSize_le (modRM sib : UInt8) : addressingSize modRM sib ≤ 6 := by
  have hdisp := displacementSize_le modRM sib
  unfold addressingSize
  split <;> omega

end IA32
