import Giblet.CodeHook.InPlace
import Giblet.Lib.Machine

/-!
# CodeHook — what a hooked program does

The code that `InstallHook` moved, and the jumps it wrote, run on a processor
of which only the two jumps are known. Where processor and decoder agree on
the moved instructions, and none of them depends on its place, a program whose
proxy hands over to the thunk does what it did without the hook, but for what
the proxy does (`hooked_simulates`); of several hooks on a procedure, each
leads on to the one before it, and the first to the code that was moved
(`hooks_chain`).
-/

namespace Giblet.CodeHook

open ByteStream Effect Instruction Machine Run

variable {build : Build} {memory memory' original read : Memory} {σ : Type}
  {set : InstructionSet 32 σ} {it it' : OpcodeIterator} {is : List Instruction}

/-! ## The processor -/

/-- The processor knows the jumps that a hook is made of. -/
structure KnowsJumps (set : InstructionSet 32 σ) : Prop where
  near : set.operand [0xe9] = some 4
  nearEffect : ∀ next st, set.effect [0xe9] next st = some (st, .relative)
  through : ∀ slot, set.operand (patchThrough slot) = some 0
  throughEffect : ∀ slot next st, slot < 2 ^ 32 →
    set.effect (patchThrough slot) next st = some (st, .through (BitVec.ofNat 32 slot))

/-- The bytes of an instruction, up to its relative operand. -/
def Instruction.front (memory : Memory) (a : Nat) (i : Instruction) : List UInt8 :=
  slice memory a (i.getSize - i.relativeBytes)

/-- The processor finds the decoder's instructions, and they do the same in both stores and
wherever they lie. -/
def Understood (set : InstructionSet 32 σ) (memory memory' : Memory) :
    Nat → List Instruction → Prop
  | _, [] => True
  | a, i :: is => set.operand (i.front memory a) = some i.relativeBytes ∧
      Portable set memory memory' (i.front memory a) ∧
      Understood set memory memory' (a + i.getSize) is

/-- No short branch of the moved code is out of reach, wherever it leads. -/
def NothingLost (memory : Memory) (a thunk : Nat) (is : List Instruction) : Prop :=
  ShortBranchesReach memory (fun _ => False) a (BitVec.ofNat 64 thunk) is

/-! ## Reading the same bytes elsewhere -/

theorem toNat_ofNat_lt {a : Nat} (h : a < 2 ^ 32) : (BitVec.ofNat 32 a).toNat = a := by
  rw [BitVec.toNat_ofNat, Nat.mod_eq_of_lt h]

theorem branchTarget_eq_leads {n : Nat} {next : BitVec 64} {operand : List UInt8}
    (h : operand.length = n) : branchTarget n next operand = leads (next.setWidth 32) operand := by
  subst h
  rfl

/-! ## The moved code -/

/-- **What was copied was moved**, as far as the processor is concerned. -/
theorem moved_of_copies {range : BitVec 32 → Prop} {dst : Nat} {out : List UInt8}
    (h : DecodesTo build read it is it') (hRange : ∀ a, ¬range a)
    (hCopies : Copies read range it.pointer (BitVec.ofNat 64 dst) is out)
    (hOut : slice memory' dst out.length = out)
    (hSame : ∀ a, Block it.pointer (codeBytes is) a → read a = memory a)
    (hUnderstood : Understood set memory memory' it.pointer is)
    (hSource : it.pointer + codeBytes is < 2 ^ 32) (hDst : dst + codeBytes is < 2 ^ 32) :
    Moved set memory memory' (BitVec.ofNat 32 it.pointer) (BitVec.ofNat 32 dst)
      (codeBytes is) := by
  induction h generalizing dst out with
  | nil => exact .done _ _
  | cons first _ ih =>
    rename_i it it' it'' i is _
    obtain ⟨row, hd⟩ := decoded_of_decode first
    have hRelative := hd.relativeBytes_le
    have hNext := pointer_of_decode first
    obtain ⟨chunk, rest, rfl, hCopy, hRest⟩ := hCopies.cons_inv
    obtain ⟨hKnown, hPortable, hLater⟩ := hUnderstood
    rw [codeBytes_cons] at hSame hSource hDst ⊢
    -- the instruction's bytes where it was and where it lies now
    have hFront : i.front memory it.pointer = slice read it.pointer (i.getSize - i.relativeBytes) :=
      slice_congr fun x hLow hHigh => (hSame x ⟨hLow, by omega⟩).symm
    rw [List.length_append, slice_add] at hOut
    obtain ⟨hChunk, hOthers⟩ := List.append_inj hOut (length_slice ..)
    have hLength := hCopy.length
    set operand := slice memory (it.pointer + (i.getSize - i.relativeBytes)) i.relativeBytes
      with hOperand
    set operand' := chunk.drop (i.getSize - i.relativeBytes) with hOperand'
    have hWidth : operand.length = i.relativeBytes := length_slice ..
    have hWidth' : operand'.length = i.relativeBytes := by
      rw [hOperand', List.length_drop, hLength]
      omega
    have hFrontLength : (i.front memory it.pointer).length = i.getSize - i.relativeBytes :=
      length_slice ..
    have hAll : (i.front memory it.pointer).length + operand.length = i.getSize := by omega
    have hFetch : Fetches set memory (BitVec.ofNat 32 it.pointer) (i.front memory it.pointer)
        operand := by
      refine ⟨hWidth ▸ hKnown, ?_⟩
      rw [toNat_ofNat_lt (by omega), slice_add, hFrontLength, hWidth]
      rfl
    have hFetch' : Fetches set memory' (BitVec.ofNat 32 dst) (i.front memory it.pointer)
        operand' := by
      refine ⟨hWidth' ▸ hKnown, ?_⟩
      rw [toNat_ofNat_lt (by omega), hWidth', ← hWidth, hAll, ← hLength, hChunk, hFront,
        ← hCopy.same, List.take_append_drop]
    have hBehind : behind (BitVec.ofNat 32 it.pointer) (i.front memory it.pointer) operand =
        BitVec.ofNat 32 (it.pointer + i.getSize) := by
      rw [behind, hAll, ← BitVec.ofNat_add]
    have hBehind' : behind (BitVec.ofNat 32 dst) (i.front memory it.pointer) operand' =
        BitVec.ofNat 32 (dst + i.getSize) := by
      rw [behind, hWidth', ← hWidth, hAll, ← BitVec.ofNat_add]
    have hNextAt : i.nextAt (BitVec.ofNat 64 dst) = BitVec.ofNat 64 (dst + i.getSize) := by
      rw [Instruction.nextAt, ← BitVec.ofNat_add]
    rw [hNextAt] at hRest
    have hMoved := @ih (dst + i.getSize) rest (by rw [hNext]; exact hRest)
      (by rw [← hLength]; exact hOthers)
      (fun x hx => hSame x (Block.mono (by omega) (by omega) x hx))
      (by rw [hNext]; exact hLater) (by omega) (by omega)
    rw [hNext, ← hBehind, ← hBehind'] at hMoved
    rw [← hAll]
    refine .next hFetch hFetch' (fun hPos => ?_) hPortable hMoved
    have hTarget := hCopy.target (by omega) (hRange _)
    have hRead : slice read (it.pointer + (i.getSize - i.relativeBytes)) i.relativeBytes =
        operand := slice_congr fun x hLow hHigh => hSame x ⟨by omega, by omega⟩
    rw [Instruction.target, hRead, branchTarget_eq_leads hWidth, branchTarget_eq_leads hWidth',
      hNextAt, BitVec.setWidth_ofNat_of_le (by decide), BitVec.setWidth_ofNat_of_le (by decide)]
      at hTarget
    rw [hBehind, hBehind']
    exact hTarget

/-- A thunk's jump back. -/
theorem jumpsTo_of_slice_word (hKnows : KnowsJumps set) {a : Nat} {goal : BitVec 32}
    (ha : a + 5 ≤ 2 ^ 32)
    (h : slice memory a 5 = 0xe9 :: wordBytes 4 (goal - BitVec.ofNat 32 (a + 5)).toNat) :
    Machine.JumpsTo set memory (BitVec.ofNat 32 a) [0xe9]
      (wordBytes 4 (goal - BitVec.ofNat 32 (a + 5)).toNat) goal := by
  refine ⟨⟨?_, ?_⟩, hKnows.nearEffect, ?_⟩
  · rw [length_wordBytes]
    exact hKnows.near
  · rw [toNat_ofNat_lt (by omega), length_wordBytes]
    exact h
  · have hTarget := branchTarget_wordBytes (a + 5) goal
    rw [branchTarget_eq_leads (length_wordBytes ..),
      BitVec.setWidth_ofNat_of_le (by decide)] at hTarget
    rw [behind, length_wordBytes, List.length_singleton, ← BitVec.ofNat_add]
    exact hTarget

/-- A jump through a slot. -/
theorem step_patchThrough (hKnows : KnowsJumps set) {a slot : Nat} {goal : BitVec 32}
    (ha : a < 2 ^ 32) (hSlot : slot < 2 ^ 32) (h : slice memory a 6 = patchThrough slot)
    (hGoal : slice memory slot 4 = wordBytes 4 goal.toNat) (st : σ) :
    Step set memory ⟨BitVec.ofNat 32 a, st⟩ (.through (BitVec.ofNat 32 slot)) ⟨goal, st⟩ := by
  have hFetch : Fetches set memory (BitVec.ofNat 32 a) (patchThrough slot) [] := by
    refine ⟨hKnows.through slot, ?_⟩
    rw [toNat_ofNat_lt ha, List.append_nil]
    exact h
  have hPointer : pointerAt memory (BitVec.ofNat 32 slot) = goal := by
    rw [pointerAt, toNat_ofNat_lt hSlot]
    show BitVec.ofNat 32 (word (slice memory slot 4)) = goal
    rw [hGoal, word_wordBytes, Nat.mod_eq_of_lt goal.isLt, BitVec.ofNat_toNat,
      BitVec.setWidth_eq]
  have hStep := Step.intro hFetch (hKnows.throughEffect slot _ st hSlot)
  rw [Exit.goes, hPointer] at hStep
  exact hStep

/-! ## One hook -/

/-- The addresses of a hook are those of the 32-bit processor. -/
structure InAddressSpace (procAddress : OpcodeIterator) (codeBuffer : Nat) : Prop where
  proc : procAddress.pointer + 21 < 2 ^ 32
  buffer : codeBuffer + THUNK_BUFFER_SIZE ≤ 2 ^ 32

/-- The moved code can be understood, and nothing is lost when it is moved. -/
structure Movable (set : InstructionSet 32 σ) (memory memory' : Memory) (proc codeBuffer : Nat)
    (is : List Instruction) : Prop where
  understood : Understood set memory memory' proc is
  nothingLost : NothingLost memory proc (thunkStart codeBuffer) is

section

variable {procAddress : OpcodeIterator} {proxyFunction : BitVec 32} {codeBuffer : Nat}

/-- **The thunk holds the moved code**, with the jump back behind it. -/
theorem moved_of_thunk (hKnows : KnowsJumps set) (hCovers : Covers build memory 6 procAddress is)
    (hThunk : Thunk memory' procAddress.pointer proxyFunction codeBuffer
      (movedCode memory procAddress.pointer (BitVec.ofNat 64 (thunkStart codeBuffer)) is))
    (hSpace : InAddressSpace procAddress codeBuffer)
    (hMovable : Movable set memory memory' procAddress.pointer codeBuffer is) :
    Moved set memory memory' (BitVec.ofNat 32 procAddress.pointer)
      (BitVec.ofNat 32 (thunkStart codeBuffer)) (codeBytes is) ∧
    ∃ operand, operand.length = 4 ∧
      Machine.JumpsTo set memory'
        (BitVec.ofNat 32 (thunkStart codeBuffer) + BitVec.ofNat 32 (codeBytes is)) [0xe9] operand
        (BitVec.ofNat 32 procAddress.pointer + BitVec.ofNat 32 (codeBytes is)) := by
  obtain ⟨⟨it', hDecodes⟩, -, -⟩ := covers_iff.mp hCovers
  have hShort := hThunk.codeBytes_le hCovers
  have hProc := hSpace.proc
  have hBuffer := hSpace.buffer
  have hSize : THUNK_BUFFER_SIZE = 256 := rfl
  have hStart : thunkStart codeBuffer = codeBuffer + 16 := rfl
  have hReach : AllReach memory (fun _ => False) procAddress.pointer
      (BitVec.ofNat 64 (thunkStart codeBuffer)) is :=
    (allReach_iff _ hCovers).mpr hMovable.nothingLost
  have hCopies := (copies_movedCode_iff _ hCovers).mpr hReach
  refine ⟨moved_of_copies hDecodes (fun _ => id) hCopies hThunk.moved (fun _ _ => rfl)
    hMovable.understood (by omega) (by omega), ?_⟩
  have hBack := hThunk.back
  rw [length_movedCode _ hDecodes] at hBack
  rw [← BitVec.ofNat_add, ← BitVec.ofNat_add]
  exact ⟨_, length_wordBytes .., jumpsTo_of_slice_word hKnows (by omega) hBack⟩

/-- The thunk leads where the moved code led. -/
theorem passes_thunk_iff (hKnows : KnowsJumps set)
    (hCovers : Covers build memory 6 procAddress is)
    (hThunk : Thunk memory' procAddress.pointer proxyFunction codeBuffer
      (movedCode memory procAddress.pointer (BitVec.ofNat 64 (thunkStart codeBuffer)) is))
    (hSpace : InAddressSpace procAddress codeBuffer)
    (hMovable : Movable set memory memory' procAddress.pointer codeBuffer is) {st : σ}
    {d : Config 32 σ} :
    Passes set memory (BitVec.ofNat 32 procAddress.pointer) (codeBytes is) st d ↔
      Passes set memory' (BitVec.ofNat 32 (thunkStart codeBuffer)) (codeBytes is + 5) st d := by
  obtain ⟨hMoved, operand, hLength, hBack⟩ :=
    moved_of_thunk hKnows hCovers hThunk hSpace hMovable
  rw [hMoved.passes_iff hBack, hLength]
  rfl

/-- Where the installed hook is, the processor runs the proxy. -/
theorem reaches_proxy (hKnows : KnowsJumps set) (hSpace : InAddressSpace procAddress codeBuffer)
    (hPatch : slice memory procAddress.pointer 6 = patchThrough codeBuffer)
    (hSlot : slice memory codeBuffer 4 = wordBytes 4 proxyFunction.toNat) (st : σ) :
    Reaches set memory ⟨BitVec.ofNat 32 procAddress.pointer, st⟩ ⟨proxyFunction, st⟩ := by
  have hProc := hSpace.proc
  have hBuffer := hSpace.buffer
  have hSize : THUNK_BUFFER_SIZE = 256 := rfl
  exact .of_step (step_patchThrough hKnows (by omega) (by omega) hPatch hSlot st)

/-- What installing a hook writes to. -/
def Written (proc codeBuffer : Nat) (a : Nat) : Prop :=
  Block proc 6 a ∨ Block codeBuffer THUNK_BUFFER_SIZE a

/-- **A hook is a way to the moved code**, through its proxy. -/
theorem rerouted_of_installHook {win32 : Win32} {s s' : Process} {f : σ → σ}
    (hKnows : KnowsJumps set) (hFresh : FreshBlock win32 procAddress 21)
    (h : installHook build win32 procAddress proxyFunction s = .ok .success s')
    (hAlloc : win32.virtualAlloc = some codeBuffer) (hSpace : InAddressSpace procAddress codeBuffer)
    (hCovers : Covers build s.memory 6 procAddress is)
    (hMovable : Movable set s.memory s'.memory procAddress.pointer codeBuffer is)
    (hProxy : ∀ st, Reaches set s'.memory ⟨proxyFunction, st⟩
      ⟨BitVec.ofNat 32 (thunkStart codeBuffer), f st⟩) :
    Rerouted set s.memory s'.memory (Written procAddress.pointer codeBuffer) f
      (BitVec.ofNat 32 procAddress.pointer) (BitVec.ofNat 32 (thunkStart codeBuffer))
      (codeBytes is) := by
  obtain ⟨buffer, hBuffer, js, hCovers', hInPlace⟩ := installHook_installed hFresh h
  obtain rfl := Option.some.inj (hAlloc.symm.trans hBuffer)
  obtain rfl := hCovers.unique hCovers'
  obtain ⟨hMoved, operand, -, hBack⟩ :=
    moved_of_thunk hKnows hCovers hInPlace.toThunk hSpace hMovable
  have hShort := hInPlace.toThunk.codeBytes_le hCovers
  obtain ⟨-, hEnough, -⟩ := covers_iff.mp hCovers
  exact
    { pos := by omega
      small := by omega
      moved := hMoved
      enter := fun st =>
        (reaches_proxy hKnows hSpace hInPlace.patch hInPlace.slot st).trans (hProxy st)
      back := fun st => .of_step (hBack.step st)
      unchanged := fun a hOut => by
        have hSame := installHook_unchanged build win32 procAddress proxyFunction s hFresh
          (fun hProc => hOut (.inl hProc)) fun b hb hIn => hOut (.inr (by
            rw [hAlloc] at hb
            exact Option.some.inj hb ▸ hIn))
        rw [h] at hSame
        exact hSame.symm }

/-- **A hooked program does what it did before**, with what the proxy does in front of the
procedure: if the proxy hands over to the thunk, having done `f`, then whatever the program with
`f` in front of the procedure reaches, the hooked program reaches, with the same state and outside
the moved code at the same place. -/
theorem hooked_simulates {win32 : Win32} {s s' : Process} {f : σ → σ} {c d : Config 32 σ}
    {es : List (Exit 32)} (hKnows : KnowsJumps set) (hFresh : FreshBlock win32 procAddress 21)
    (h : installHook build win32 procAddress proxyFunction s = .ok .success s')
    (hAlloc : win32.virtualAlloc = some codeBuffer) (hSpace : InAddressSpace procAddress codeBuffer)
    (hCovers : Covers build s.memory 6 procAddress is)
    (hMovable : Movable set s.memory s'.memory procAddress.pointer codeBuffer is)
    (hProxy : ∀ st, Reaches set s'.memory ⟨proxyFunction, st⟩
      ⟨BitVec.ofNat 32 (thunkStart codeBuffer), f st⟩)
    (hRun : Runs (Intercepted set s.memory (Written procAddress.pointer codeBuffer) f
      (BitVec.ofNat 32 procAddress.pointer) (codeBytes is)) c es d)
    (hStart : ¬InBlock (BitVec.ofNat 32 procAddress.pointer) (codeBytes is) c.pc) :
    (¬InBlock (BitVec.ofNat 32 procAddress.pointer) (codeBytes is) d.pc →
      Reaches set s'.memory c d) ∧
    ∃ d', Reaches set s'.memory c d' ∧ Corresponds set s.memory s'.memory f
      (BitVec.ofNat 32 procAddress.pointer) (BitVec.ofNat 32 (thunkStart codeBuffer))
      (codeBytes is) d d' := by
  have hRerouted := rerouted_of_installHook hKnows hFresh h hAlloc hSpace hCovers hMovable hProxy
  obtain ⟨d', hReaches, hCorresponds⟩ := hRerouted.simulates hRun hStart
  refine ⟨fun hOut => ?_, d', hReaches, hCorresponds⟩
  rwa [hRerouted.eq_of_corresponds hOut hCorresponds]

end

/-! ## A processor for a usual function entry -/

/-- `ESP` and `EBP`. -/
abbrev Registers := BitVec 32 × BitVec 32

/-- The bytes of an instruction of a usual function entry, or of a jump of a hook, up to its
relative operand. -/
def entryLength (opcode : UInt8) : Nat :=
  if opcode = 0xff then 6 else if opcode = 0x83 then 3 else if opcode = 0x8b then 2 else 1

/-- The instructions of a usual function entry, and the jumps of a hook. -/
def entryOperand (front : List UInt8) : Option Nat :=
  if front = [0xe9] then some 4
  else if front = [0x8b, 0xff] ∨ front = [0x55] ∨ front = [0x8b, 0xec] then some 0
  else if front.length = 3 ∧ front.take 2 = [0x83, 0xec] then some 0
  else if front.length = 6 ∧ front.take 2 = [0xff, 0x25] then some 0
  else none

def entryEffect (front : List UInt8) (_next : BitVec 32) :
    Registers → Option (Registers × Exit 32)
  | (esp, ebp) =>
    if front = [0xe9] then some ((esp, ebp), .relative)
    -- `MOV EDI,EDI`
    else if front = [0x8b, 0xff] then some ((esp, ebp), .next)
    -- `PUSH EBP`
    else if front = [0x55] then some ((esp - 4, ebp), .next)
    -- `MOV EBP,ESP`
    else if front = [0x8b, 0xec] then some ((esp, esp), .next)
    -- `SUB ESP,imm8`
    else if front.length = 3 ∧ front.take 2 = [0x83, 0xec] then
      some ((esp - (front.getD 2 0).toBitVec.signExtend 32, ebp), .next)
    else if front.take 2 = [0xff, 0x25] then
      some ((esp, ebp), .through (BitVec.ofNat 32 (word (front.drop 2))))
    else none

/-- The first byte tells how long an instruction is. -/
theorem length_of_entryOperand {front : List UInt8} {r : Nat} (h : entryOperand front = some r) :
    ∃ opcode rest, front = opcode :: rest ∧ front.length = entryLength opcode := by
  have hTaken {n : Nat} {opcode second : UInt8} (hTake : front.take (n + 1) = opcode :: [second])
      (hLength : front.length = entryLength opcode) :
      ∃ opcode rest, front = opcode :: rest ∧ front.length = entryLength opcode := by
    cases front with
    | nil => cases hTake
    | cons b rest => exact ⟨b, rest, rfl, (List.cons.inj hTake).1 ▸ hLength⟩
  unfold entryOperand at h
  split_ifs at h with hNear hEntry hSub hThrough
  · exact ⟨0xe9, [], hNear, by rw [hNear]; rfl⟩
  · rcases hEntry with rfl | rfl | rfl
    · exact ⟨_, _, rfl, rfl⟩
    · exact ⟨_, _, rfl, rfl⟩
    · exact ⟨_, _, rfl, rfl⟩
  · exact hTaken hSub.2 hSub.1
  · exact hTaken hThrough.2 hThrough.1

theorem entryOperand_unique {front front' : List UInt8} {r r' : Nat}
    (h : entryOperand front = some r) (h' : entryOperand front' = some r')
    (hPrefix : front <+: front') : front = front' := by
  obtain ⟨opcode, rest, rfl, hLength⟩ := length_of_entryOperand h
  obtain ⟨opcode', rest', rfl, hLength'⟩ := length_of_entryOperand h'
  obtain ⟨rfl, -⟩ := List.cons_prefix_cons.mp hPrefix
  exact hPrefix.eq_of_length (hLength.trans hLength'.symm)

def entryProcessor : InstructionSet 32 Registers where
  operand := entryOperand
  effect := entryEffect
  nonempty := rfl
  unique := entryOperand_unique
  relative := by
    rintro front next ⟨esp, ebp⟩ st' h
    unfold entryEffect at h
    dsimp only at h
    split_ifs at h with hNear
    · rw [hNear]
      decide
    all_goals cases h

theorem knowsJumps_entryProcessor : KnowsJumps entryProcessor where
  near := rfl
  nearEffect := fun _ _ => rfl
  through := fun _ => rfl
  throughEffect := fun slot next st hSlot => by
    have hWord : word (wordBytes 4 slot) = slot := by rw [word_wordBytes, Nat.mod_eq_of_lt hSlot]
    have hThrough : entryEffect (patchThrough slot) next st =
        some (st, .through (BitVec.ofNat 32 (word (wordBytes 4 slot)))) := rfl
    rw [hWord] at hThrough
    exact hThrough

/-- Whatever is no jump of a hook is the same everywhere. -/
theorem portable_entry {front : List UInt8} (h : front.take 1 ≠ [0xff]) :
    Portable entryProcessor memory memory' front where
  anywhere := fun _ _ _ => rfl
  slots := by
    rintro next ⟨esp, ebp⟩ st' slot hEffect
    have hEffect : entryEffect front next (esp, ebp) = some (st', .through slot) := hEffect
    have hOther : front.take 2 ≠ [0xff, 0x25] := by
      intro hThrough
      have hOne : (front.take 2).take 1 = [0xff] := by rw [hThrough]; rfl
      rw [List.take_take] at hOne
      exact h hOne
    unfold entryEffect at hEffect
    simp only [if_neg hOther] at hEffect
    split_ifs at hEffect
    all_goals cases hEffect

/-- A caller, a usual function entry, and a proxy that hands over to the thunk. -/
def hookedCaller : Process :=
  ⟨write (write functionEntry.memory 0x402000 [0xe9, 0x0b, 0xe0, 0xbf, 0x0f])
    0x403000 [0xe9, 0xfb, 0xdf, 0xff, 0xff], 0, []⟩

/-- What the hook has made of it. -/
def hookedEntry : Process :=
  finalState (installHook .debug allGranted codeStart 0x402000 hookedCaller)

theorem installHook_hookedCaller :
    installHook .debug allGranted codeStart 0x402000 hookedCaller = .ok .success hookedEntry :=
  eq_ok_of_value? (by decide +kernel)

theorem entry_covers (memory : Memory) : ∃ is, Covers .debug hookedCaller.memory 6 codeStart is ∧
    codeBytes is = 8 ∧
    Movable entryProcessor hookedCaller.memory memory codeStart.pointer 0x10000000 is := by
  refine ⟨_, .next (by decide) rfl (.next (by decide +kernel) rfl (.next (by decide +kernel) rfl
      (.next (by decide +kernel) rfl (.done _)))), by decide +kernel, ?_⟩
  refine ⟨⟨by decide +kernel, portable_entry (by decide +kernel), by decide +kernel,
    portable_entry (by decide +kernel), by decide +kernel, portable_entry (by decide +kernel),
    by decide +kernel, portable_entry (by decide +kernel), trivial⟩, ?_⟩
  -- none of them is a branch
  exact ⟨fun h => absurd h (by decide +kernel), fun h => absurd h (by decide +kernel),
    fun h => absurd h (by decide +kernel), fun h => absurd h (by decide +kernel), trivial⟩

/-- The hooked procedure is called, and goes on behind the moved code. -/
theorem hooked_simulates_entry :
    Reaches entryProcessor hookedEntry.memory ⟨0x403000, (0x20000, 0)⟩
      ⟨0x401008, (0x1fff4, 0x1fffc)⟩ := by
  obtain ⟨is, hCovers, hBytes, hMovable⟩ := entry_covers hookedEntry.memory
  have hFresh : FreshBlock allGranted codeStart 21 := by
    intro codeBuffer hAlloc
    cases hAlloc
    refine ⟨by decide, fun a hCode hBlock => ?_⟩
    exact absurd (Nat.lt_of_le_of_lt hBlock.1 hCode.2) (by decide)
  have hSpace : InAddressSpace codeStart 0x10000000 := ⟨by decide, by decide⟩
  -- the proxy is a jump to the thunk
  have hProxy (st : Registers) : Reaches entryProcessor hookedEntry.memory ⟨0x402000, st⟩
      ⟨BitVec.ofNat 32 (thunkStart 0x10000000), id st⟩ := by
    have hFetch : Fetches entryProcessor hookedEntry.memory 0x402000 [0xe9]
        [0x0b, 0xe0, 0xbf, 0x0f] := ⟨rfl, by decide +kernel⟩
    exact .of_step (.intro hFetch rfl)
  -- the caller's step, and one in the block
  have hCall : Intercepted entryProcessor hookedCaller.memory
      (Written codeStart.pointer 0x10000000) id 0x401000 8
      ⟨0x403000, (0x20000, 0)⟩ .relative ⟨0x401000, (0x20000, 0)⟩ := by
    have hFetch : Fetches entryProcessor hookedCaller.memory 0x403000 [0xe9]
        [0xfb, 0xdf, 0xff, 0xff] := ⟨rfl, by decide +kernel⟩
    refine ⟨⟨0x401000, (0x20000, 0)⟩, ⟨.intro hFetch rfl, fun _ => .inl rfl, ?_, nofun⟩, rfl⟩
    intro _ front operand hOther x hLow hHigh hWritten
    obtain ⟨rfl, rfl⟩ := hFetch.unique hOther
    have hLow : 0x403000 ≤ x := hLow
    have hHigh : x < 0x403000 + 5 := hHigh
    rcases hWritten with ⟨-, hProc⟩ | ⟨hBuffer, -⟩
    · have hProc : x < 0x401000 + 6 := hProc
      omega
    · omega
  have hInside {pc : BitVec 32} {st st' : Registers} {front : List UInt8}
      (hFetch : Fetches entryProcessor hookedCaller.memory pc front [])
      (hEffect : entryEffect front (behind pc front []) st = some (st', .next))
      (hIn : InBlock 0x401000 8 pc) (hOn : behind pc front [] ≠ 0x401000) :
      Intercepted entryProcessor hookedCaller.memory (Written codeStart.pointer 0x10000000) id
        0x401000 8 ⟨pc, st⟩ .next ⟨behind pc front [], st'⟩ :=
    ⟨_, ⟨.intro hFetch hEffect, fun _ => .inr ⟨hIn, rfl⟩, fun hOut => absurd hIn hOut,
      fun hOut => absurd hIn hOut⟩, (if_neg hOn).symm⟩
  have hMov := @hInside 0x401000 (0x20000, 0) _ [0x8b, 0xff] ⟨rfl, by decide +kernel⟩ rfl
    (by decide) (by decide)
  have hPush := @hInside 0x401002 (0x20000, 0) _ [0x55] ⟨rfl, by decide +kernel⟩ rfl
    (by decide) (by decide)
  have hFrame := @hInside 0x401003 (0x1fffc, 0) _ [0x8b, 0xec] ⟨rfl, by decide +kernel⟩ rfl
    (by decide) (by decide)
  have hSub := @hInside 0x401005 (0x1fffc, 0x1fffc) _ [0x83, 0xec, 0x08] ⟨rfl, by decide +kernel⟩
    rfl (by decide) (by decide)
  have hRun : Runs (Intercepted entryProcessor hookedCaller.memory
      (Written codeStart.pointer 0x10000000) id 0x401000 (codeBytes is)) ⟨0x403000, (0x20000, 0)⟩
      [.relative, .next, .next, .next, .next] ⟨0x401008, (0x1fff4, 0x1fffc)⟩ := by
    rw [hBytes]
    exact ((((Runs.one hCall).snoc hMov).snoc hPush).snoc hFrame).snoc hSub
  exact (hooked_simulates knowsJumps_entryProcessor hFresh installHook_hookedCaller rfl hSpace
    hCovers hMovable hProxy hRun (by rw [hBytes]; decide)).1 (by rw [hBytes]; decide)

/-! ## Several hooks -/

theorem Stacked.thunk {proc : Nat} {hooks older : List (BitVec 32 × Nat)} {hook : BitVec 32 × Nat}
    (h : Stacked original memory proc is (hooks ++ hook :: older)) :
    Thunk memory proc hook.1 hook.2 (thunkCode original proc is hook.2 older) := by
  induction hooks with
  | nil => exact h.1
  | cons newer hooks ih => exact ih h.2

/-- **Hooks on one procedure are run from the newest to the oldest**: the procedure leads to the
newest proxy, each hook's thunk to the proxy of the hook before it, and the first hook's thunk,
if the code can be moved, where the procedure led before it was hooked. -/
theorem hooks_chain {s s' : Process} {procAddress : OpcodeIterator}
    {calls : List (Win32 × BitVec 32)} (hKnows : KnowsJumps set)
    (hFresh : FreshStack procAddress calls)
    (hRun : Runs (HookStep build procAddress) s calls s')
    (hSpace : ∀ call ∈ calls, InAddressSpace procAddress (call.1.virtualAlloc.getD 0)) :
    (∀ newest ∈ calls.getLast?, ∀ st, Reaches set s'.memory
      ⟨BitVec.ofNat 32 procAddress.pointer, st⟩ ⟨newest.2, st⟩) ∧
    (∀ before after : Win32 × BitVec 32, [before, after] <:+: calls → ∀ st, Reaches set s'.memory
      ⟨BitVec.ofNat 32 (thunkStart (after.1.virtualAlloc.getD 0)), st⟩ ⟨before.2, st⟩) ∧
    ∀ first ∈ calls.head?, ∀ is, Covers build s.memory 6 procAddress is →
      Movable set s.memory s'.memory procAddress.pointer (first.1.virtualAlloc.getD 0) is →
      ∀ st d,
        (Passes set s.memory (BitVec.ofNat 32 procAddress.pointer) (codeBytes is) st d ↔
          Passes set s'.memory (BitVec.ofNat 32 (thunkStart (first.1.virtualAlloc.getD 0)))
            (codeBytes is + 5) st d) := by
  have hSize : THUNK_BUFFER_SIZE = 256 := rfl
  obtain ⟨js, hHooked⟩ := hookedAgain_of_runs hFresh hRun
  refine ⟨fun newest hNewest st => ?_, fun before after hNext st => ?_,
    fun first hFirst is hCovers hMovable st d => ?_⟩
  · obtain ⟨calls, rfl⟩ := List.getLast?_eq_some_iff.mp hNewest
    have hHooks : hooksOf (calls ++ [newest]) =
        (newest.2, newest.1.virtualAlloc.getD 0) :: hooksOf calls := by
      simp [hooksOf]
    rw [hHooks] at hHooked
    exact reaches_proxy hKnows (hSpace newest (by simp)) hHooked.patched hHooked.stacked.1.slot st
  · obtain ⟨earlier, later, rfl⟩ := hNext
    have hHooks : hooksOf (earlier ++ [before, after] ++ later) =
        hooksOf later ++ (after.2, after.1.virtualAlloc.getD 0) ::
          (before.2, before.1.virtualAlloc.getD 0) :: hooksOf earlier := by
      simp [hooksOf]
    rw [hHooks] at hHooked
    have hAfter := hHooked.stacked.thunk
    rw [List.append_cons] at hHooked
    have hBefore := hHooked.stacked.thunk
    have hAfterSpace := (hSpace after (by simp)).buffer
    have hBeforeSpace := (hSpace before (by simp)).buffer
    have hStart : ∀ b, thunkStart b = b + 16 := fun _ => rfl
    have hMoved := hAfter.moved
    rw [thunkCode, show (patchThrough (before.1.virtualAlloc.getD 0)).length = 6 by
      simp [patchThrough]] at hMoved
    exact .of_step (step_patchThrough hKnows (by rw [hStart]; omega) (by omega) hMoved
      hBefore.slot st)
  · obtain ⟨calls, rfl⟩ := List.head?_eq_some_iff.mp hFirst
    have hHooks : hooksOf (first :: calls) =
        hooksOf calls ++ [(first.2, first.1.virtualAlloc.getD 0)] := by
      simp [hooksOf]
    rw [hHooks] at hHooked
    obtain rfl := hCovers.unique (hHooked.covers (by simp))
    exact passes_thunk_iff hKnows hCovers hHooked.stacked.thunk (hSpace first (by simp)) hMovable

/-- Another block than `allGranted`'s. -/
def grantedElsewhere : Win32 := { allGranted with virtualAlloc := some 0x10001000 }

/-- The hooked procedure, hooked once more. -/
def hookedTwice : Process :=
  finalState (installHook .debug grantedElsewhere codeStart 0x405000 hookedEntry)

/-- Both hooks' proxies are called, the newer one first, and the older one's thunk does what the
first eight bytes of the procedure did. -/
theorem hooks_chain_entry :
    Reaches entryProcessor hookedTwice.memory ⟨0x401000, (0x20000, 0)⟩ ⟨0x405000, (0x20000, 0)⟩ ∧
    Reaches entryProcessor hookedTwice.memory ⟨0x10001010, (0x20000, 0)⟩
      ⟨0x402000, (0x20000, 0)⟩ ∧
    ∀ st d, Passes entryProcessor hookedCaller.memory 0x401000 8 st d ↔
      Passes entryProcessor hookedTwice.memory 0x10000010 13 st d := by
  obtain ⟨is, hCovers, hBytes, hMovable⟩ := entry_covers hookedTwice.memory
  have hAgain : HookStep .debug codeStart hookedEntry (grantedElsewhere, 0x405000) hookedTwice :=
    eq_ok_of_value? (by decide +kernel)
  have hRun : Runs (HookStep .debug codeStart) hookedCaller
      [(allGranted, 0x402000), (grantedElsewhere, 0x405000)] hookedTwice :=
    (Runs.one installHook_hookedCaller).snoc hAgain
  have hBlock {win32 : Win32} {codeBuffer : Nat} (hAlloc : win32.virtualAlloc = some codeBuffer)
      (hHigh : codeBuffer + THUNK_BUFFER_SIZE ≤ 2 ^ 32)
      (hApart : codeStart.pointer + 21 ≤ codeBuffer) : FreshBlock win32 codeStart 21 := by
    intro b hb
    cases hAlloc.symm.trans hb
    exact ⟨hHigh, fun a hCode hBlock => absurd (Nat.lt_of_le_of_lt hBlock.1 hCode.2) (by omega)⟩
  have hFresh : FreshStack codeStart [(allGranted, 0x402000), (grantedElsewhere, 0x405000)] := by
    refine ⟨List.forall_mem_cons.mpr ⟨hBlock rfl (by decide) (by decide),
      List.forall_mem_singleton.mpr (hBlock rfl (by decide) (by decide))⟩,
      List.pairwise_pair.mpr fun a ha ha' => ?_⟩
    exact absurd (Nat.lt_of_le_of_lt ha'.1 ha.2) (by decide)
  have hSpace : ∀ call ∈ [(allGranted, (0x402000 : BitVec 32)), (grantedElsewhere, 0x405000)],
      InAddressSpace codeStart (call.1.virtualAlloc.getD 0) :=
    List.forall_mem_cons.mpr
      ⟨⟨by decide, by decide⟩, List.forall_mem_singleton.mpr ⟨by decide, by decide⟩⟩
  obtain ⟨hNewest, hBetween, hOldest⟩ :=
    hooks_chain knowsJumps_entryProcessor hFresh hRun hSpace
  have hPasses := hOldest (allGranted, 0x402000) rfl is hCovers hMovable
  rw [hBytes] at hPasses
  exact ⟨hNewest (grantedElsewhere, 0x405000) rfl _,
    hBetween (allGranted, 0x402000) (grantedElsewhere, 0x405000) (List.infix_refl _) _, hPasses⟩

end Giblet.CodeHook
