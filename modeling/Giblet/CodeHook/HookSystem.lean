import Giblet.CodeHook.Assembler
import Giblet.CodeHook.RelocateCode

/-!
# CodeHook — installing a hook

`InstallHook` copies the first instructions of a procedure to a thunk, has
the thunk jump back behind them, and only then overwrites the procedure with
a jump to the proxy. What can fail, fails before that last step.

* `copyCode_success`, `rewriteCode_success` — what the two halves leave behind.
* `installHook_complete_or_absent` — the result.
-/

namespace Giblet.CodeHook

open ByteStream Effect Instruction

variable {build : Build} {memory : Memory} {it it' : OpcodeIterator}

/-! ## The model -/

/-- `HOOK_ERROR`. -/
inductive HookError
  | success
  | noModule
  | noFunc
  | noRelocate
  | noRedirect
  | coreFailed
  | outOfMemory
  deriving DecidableEq, Repr

/-- How a call can end without returning: `ExitProcess` ends the process. -/
inductive Stop
  | fault (f : Fault)
  | exit (status : HookError)
  deriving DecidableEq, Repr

abbrev ProcessAction (α : Type) := EStateM Stop Process α

def THUNK_BUFFER_SIZE : Nat := 256

/-- `sizeof(void*)`. -/
def pointerSize : Nat := 4

/-- `HookError` shows a message and ends the process. -/
def hookError {α : Type} (status : HookError) : ProcessAction α := throw (.exit status)

/-- A call that does not change the process. -/
def liftFault {α : Type} : Except Fault α → ProcessAction α
  | .error e => throw (.fault e)
  | .ok a => pure a

/-- What the Win32 calls of one `Lock` answer: the protection `VirtualQuery` finds, if it finds
one, whether `VirtualProtect` succeeds, and what it stores as the old protection. -/
structure LockOutcome where
  query : Option UInt32
  result : Bool
  oldProtection : UInt32

/-- `MemoryBlock::Lock` of a new `MemoryBlock`, by what it answers; the pages are left out. -/
def memoryBlockLock (build : Build) (outcome : LockOutcome) : Except Fault Bool :=
  match outcome.query with
  | none => return false
  | some _ => do
    assert build (outcome.oldProtection != 0)
    return outcome.result

/-- What the Win32 calls of `InstallHook` answer; `VirtualAlloc` may return a null pointer. -/
structure Win32 where
  virtualAlloc : Option Nat
  lockThunk : LockOutcome
  lockProc : LockOutcome

/-- Copy the code into the thunk buffer and append a jump to the original code. -/
def copyCode (build : Build) (thunkLock : LockOutcome) (thunkJumpPtr thunkFunctionPtr : Nat)
    (procAddress : OpcodeIterator) (proxyFunction : BitVec 32) : ProcessAction HookError := do
  let result ← liftFault (memoryBlockLock build thunkLock)
  if result = false then return .coreFailed
  -- the first word is the slot that the patch jumps through, the second the thunk's entry
  store thunkJumpPtr (wordBytes pointerSize proxyFunction.toNat)
  store (thunkJumpPtr + pointerSize) (wordBytes pointerSize thunkFunctionPtr)
  let s ← get
  -- the patch needs six bytes, so at least as many are moved
  let (thunkBufferUsed, written) ← liftFault (relocateCodeInto build s.memory
    (BitVec.ofNat 64 thunkFunctionPtr) procAddress 6 THUNK_BUFFER_SIZE)
  store thunkFunctionPtr written
  -- the code is copied before its length is looked at
  if thunkBufferUsed = 0 then return .noRelocate
  let _ ← Assembler.jump ⟨thunkFunctionPtr + thunkBufferUsed⟩
    (procAddress.pointer + thunkBufferUsed)
  return .success

/-- Rewrite the code to jump to the thunk. -/
def rewriteCode (build : Build) (procLock : LockOutcome) (thunkJumpPtr thunkFunctionPtr : Nat)
    (procAddress : OpcodeIterator) : ProcessAction HookError := do
  let result ← liftFault (memoryBlockLock build procLock)
  if result = false then return .noRedirect
  -- the thunk is handed out only now, and nothing can fail any more
  modify fun s => { s with thunkFunctionOut := thunkFunctionPtr }
  let _ ← Assembler.jumpIndirect ⟨procAddress.pointer⟩ thunkJumpPtr
  return .success

/-- `InstallHook` for the address of a procedure. -/
def installHook (build : Build) (win32 : Win32) (procAddress : OpcodeIterator)
    (proxyFunction : BitVec 32) : ProcessAction HookError :=
  match win32.virtualAlloc with
  | none => hookError .outOfMemory
  | some codeBuffer => do
    store codeBuffer (List.replicate THUNK_BUFFER_SIZE 0)
    -- the thunk's code lies behind four words
    let thunkFunctionPtr := codeBuffer + pointerSize * 4
    let status ←
      copyCode build win32.lockThunk codeBuffer thunkFunctionPtr procAddress proxyFunction
    let status ←
      if status = .success then
        rewriteCode build win32.lockProc codeBuffer thunkFunctionPtr procAddress
      else pure status
    if status ≠ .success then hookError status
    return status

/-! ## What each half does -/

theorem liftFault_bind_frame {α β : Type} {R : Process → Process → Prop} [IsPreorder Process R]
    {x : Except Fault α} {f : α → ProcessAction β} (h : ∀ a, x = .ok a → Frame R (f a)) :
    Frame R (liftFault x >>= f) := by
  cases x with
  | error e => exact fun s => refl_of R s
  | ok a => exact h a rfl

/-- One block inside another. -/
theorem Block.mono {start n start' n' : Nat} (hStart : start ≤ start')
    (hEnd : start' + n' ≤ start + n) (a : Nat) (h : Block start' n' a) : Block start n a :=
  ⟨Nat.le_trans hStart h.1, Nat.lt_of_lt_of_le h.2 hEnd⟩

/-- Copying the code stays inside the buffer. -/
theorem copyCode_frame (build : Build) (lock : LockOutcome) (codeBuffer : Nat)
    (procAddress : OpcodeIterator) (proxyFunction : BitVec 32) :
    Frame (Within (Block codeBuffer THUNK_BUFFER_SIZE))
      (copyCode build lock codeBuffer (codeBuffer + pointerSize * 4) procAddress
        proxyFunction) := by
  unfold copyCode
  refine liftFault_bind_frame fun result _ => ?_
  split
  · exact .pure _
  have hSlots : pointerSize + pointerSize ≤ THUNK_BUFFER_SIZE := by decide
  refine .bind (store_within (length_wordBytes _ _)
    (Block.mono (Nat.le_refl _) (by omega))) fun _ => ?_
  refine .bind (store_within (length_wordBytes _ _) (Block.mono (by omega) (by omega))) fun _ => ?_
  refine .get_bind fun s => liftFault_bind_frame (fun ⟨n, written⟩ hRun => ?_) s
  obtain ⟨hWritten, hUsed⟩ := relocateCodeInto_le hRun
  -- the code starts sixteen bytes in, and the jump behind it has five
  have hRoom : pointerSize * 4 + 21 + 5 ≤ THUNK_BUFFER_SIZE := by decide
  refine .bind (store_within rfl (Block.mono (by omega) (by omega))) fun _ => ?_
  split
  · exact .pure _
  · exact .bind (Assembler.jump_within (Block.mono (by omega) (by omega)) _) fun _ => .pure _

theorem liftFault_eq_ok {α : Type} {x : Except Fault α} {a : α} {s s' : Process}
    (h : liftFault x s = .ok a s') : x = .ok a ∧ s = s' := by
  cases x with
  | error e => cases h
  | ok b =>
    cases h
    exact ⟨rfl, rfl⟩

/-- What a successful result of `RelocateCode` says for a hook. -/
theorem relocateCode_covers {dst : BitVec 64} {n : Nat} {written : List UInt8}
    (h : relocateCode build memory dst it 6 THUNK_BUFFER_SIZE = .ok (n, written)) (hPos : 0 < n) :
    written.length = n ∧ 6 ≤ n ∧ ∃ is, Covers build memory 6 it is ∧ codeBytes is = n := by
  obtain ⟨is, hCovers, rfl, _, rfl⟩ := covers_of_relocateCode h hPos
  obtain ⟨⟨it', hDecodes⟩, hEnough, _⟩ := covers_iff.mp hCovers
  exact ⟨length_movedCode dst hDecodes, hEnough, is, hCovers, rfl⟩

theorem slice_stored (s : Process) (a : Nat) (xs : List UInt8) :
    slice (s.stored a xs).memory a xs.length = xs := slice_write s.memory a xs

theorem slice_stored_outside (s : Process) {a b n : Nat} {xs : List UInt8}
    (h : b + n ≤ a ∨ a + xs.length ≤ b) : slice (s.stored a xs).memory b n = slice s.memory b n :=
  slice_write_outside s.memory h

/-- What copying the code leaves behind when it succeeds: the slot, the code and the jump behind
it. `RelocateCode` started in a memory in which the buffer alone had changed. -/
theorem copyCode_success {lock : LockOutcome} {codeBuffer : Nat} {proxyFunction : BitVec 32}
    {s s' : Process}
    (h : copyCode build lock codeBuffer (codeBuffer + pointerSize * 4) it proxyFunction s =
      .ok .success s') :
    ∃ memory n written, (∀ a, ¬Block codeBuffer THUNK_BUFFER_SIZE a → memory a = s.memory a) ∧
      relocateCodeInto build memory (BitVec.ofNat 64 (codeBuffer + pointerSize * 4)) it 6
        THUNK_BUFFER_SIZE = .ok (n, written) ∧ 0 < n ∧
      slice s'.memory codeBuffer pointerSize = wordBytes pointerSize proxyFunction.toNat ∧
      slice s'.memory (codeBuffer + pointerSize * 4) n = written ∧
      slice s'.memory (codeBuffer + pointerSize * 4 + n) 5 =
        0xe9 :: wordBytes 4 (BitVec.ofNat 32 (it.pointer + n) -
          BitVec.ofNat 32 (codeBuffer + pointerSize * 4 + n + 5)).toNat := by
  unfold copyCode at h
  -- the calls one after another; the locks and `get` change nothing
  obtain ⟨result, t, hLock, h⟩ := bind_eq_ok h
  obtain ⟨_, rfl⟩ := liftFault_eq_ok hLock
  split at h
  · cases h
  obtain ⟨_, slotted, hSlot, h⟩ := bind_eq_ok h
  obtain ⟨_, placed, hEntry, h⟩ := bind_eq_ok h
  obtain ⟨_, t, hGet, h⟩ := bind_eq_ok h
  cases hGet
  obtain ⟨⟨n, written⟩, t, hCode, h⟩ := bind_eq_ok h
  obtain ⟨hRelocate, rfl⟩ := liftFault_eq_ok hCode
  obtain ⟨_, copied, hStore, h⟩ := bind_eq_ok h
  split at h
  · cases h
  rename_i hUsed
  have hWritten : written.length = n := ((relocateCodeInto_le hRelocate).2.resolve_left hUsed).symm
  obtain ⟨_, t, hJump, h⟩ := bind_eq_ok h
  rw [Assembler.jump_run] at hJump
  cases hJump
  cases h
  cases hSlot
  cases hEntry
  cases hStore
  dsimp only
  have hPointer : pointerSize = 4 := rfl
  refine ⟨_, n, written, ?_, hRelocate, Nat.pos_of_ne_zero hUsed, ?_, ?_, ?_⟩
  -- the memory the decoder read: only the two slots had been written to
  · intro a ha
    have hRoom : pointerSize + pointerSize ≤ THUNK_BUFFER_SIZE := by decide
    have hFirst := s.stored_within (length_wordBytes pointerSize proxyFunction.toNat)
      (Block.mono (Nat.le_refl codeBuffer) (n := THUNK_BUFFER_SIZE) (by omega))
    exact (((s.stored _ _).stored_within (length_wordBytes _ _)
      (Block.mono (by omega) (by omega))).memory a ha).trans (hFirst.memory a ha)
  -- the slot lies before everything that was stored later
  · rw [slice_stored_outside _ (.inl (by omega)), slice_stored_outside _ (.inl (by omega)),
      slice_stored_outside _ (.inl (by omega)), slice_stored_outside _ (.inl (Nat.le_refl _))]
    have hThere := slice_stored s codeBuffer (wordBytes pointerSize proxyFunction.toNat)
    rwa [length_wordBytes] at hThere
  -- the code lies between the slots and the jump
  · rw [slice_stored_outside _ (.inl (by omega)), slice_stored_outside _ (.inl (Nat.le_refl _)),
      ← hWritten, slice_stored]
  -- the jump was stored last
  · exact slice_stored_stored _ _ [0xe9] _

/-- What rewriting the code does when it succeeds: the slot's jump, and nothing else in memory. -/
theorem rewriteCode_success {lock : LockOutcome} {thunkJumpPtr thunkFunctionPtr : Nat}
    (hSlot : thunkJumpPtr < 2 ^ 32) {s s' : Process}
    (h : rewriteCode build lock thunkJumpPtr thunkFunctionPtr it s = .ok .success s') :
    Within (Block it.pointer 6) { s with thunkFunctionOut := thunkFunctionPtr } s' ∧
      slice s'.memory it.pointer 6 = 0xff :: 0x25 :: wordBytes 4 thunkJumpPtr := by
  unfold rewriteCode at h
  obtain ⟨result, t, hLock, h⟩ := bind_eq_ok h
  obtain ⟨_, rfl⟩ := liftFault_eq_ok hLock
  split at h
  · cases h
  obtain ⟨_, t, hOut, h⟩ := bind_eq_ok h
  obtain ⟨_, t', hJump, h⟩ := bind_eq_ok h
  rw [Assembler.jumpIndirect_run, BitVec.toNat_ofNat, Nat.mod_eq_of_lt hSlot] at hJump
  cases hOut
  cases hJump
  cases h
  refine ⟨?_, ?_⟩
  -- three stores, one behind the other
  · refine trans_of _ (trans_of _ (Process.stored_within _ (n := 1) rfl ?_)
      (Process.stored_within _ (n := 1) rfl ?_)) (Process.stored_within _ (length_wordBytes 4 _) ?_)
    · exact Block.mono (Nat.le_refl _) (by omega)
    · exact Block.mono (Nat.le_succ _) (by omega)
    · exact Block.mono (Nat.le_add_right _ 2) (by omega)
  · rw [show 6 = 1 + 5 from rfl, slice_add, slice_stored_outside _ (.inl (by omega)),
      slice_stored_outside _ (.inl (Nat.le_refl _))]
    exact congrArg₂ _ (slice_stored _ _ [0xff]) (slice_stored_stored _ _ [0x25] _)

/-- Without success it does nothing. -/
theorem rewriteCode_otherwise {lock : LockOutcome} {thunkJumpPtr thunkFunctionPtr : Nat}
    {s : Process}
    (h : ∀ s', rewriteCode build lock thunkJumpPtr thunkFunctionPtr it s ≠ .ok .success s') :
    finalState (rewriteCode build lock thunkJumpPtr thunkFunctionPtr it s) = s := by
  unfold rewriteCode at h ⊢
  -- only a lock that succeeds gets as far as the first store, and then success follows
  cases hLock : memoryBlockLock build lock with
  | error f => rfl
  | ok result =>
    rw [hLock] at h
    cases result with
    | false => rfl
    | true => exact absurd rfl (h _)

/-! ## Complete or absent -/

/-- The hook is in place: `codeBuffer` is its block, and `RelocateCode` returned `n`. -/
structure Hooked (build : Build) (s s' : Process) (procAddress : OpcodeIterator)
    (proxyFunction : BitVec 32) (codeBuffer n : Nat) : Prop where
  /-- What was moved are whole instructions, and they lie where the thunk starts. -/
  relocated : ∃ memory is written,
    (∀ a, ¬Block codeBuffer THUNK_BUFFER_SIZE a → memory a = s.memory a) ∧
    relocateCode build memory (BitVec.ofNat 64 (codeBuffer + pointerSize * 4)) procAddress 6
      THUNK_BUFFER_SIZE = .ok (n, written) ∧
    Covers build memory 6 procAddress is ∧ codeBytes is = n ∧
    slice s'.memory (codeBuffer + pointerSize * 4) n = written
  enough : 6 ≤ n
  patch : JumpsThrough build s'.memory procAddress codeBuffer
  slot : slice s'.memory codeBuffer pointerSize = wordBytes pointerSize proxyFunction.toNat
  others : ∀ a, ¬Block codeBuffer THUNK_BUFFER_SIZE a → ¬Block procAddress.pointer 6 a →
    s'.memory a = s.memory a
  back : ∀ it : OpcodeIterator, it.pointer = codeBuffer + pointerSize * 4 + n →
    JumpsTo build s'.memory it (BitVec.ofNat 32 (procAddress.pointer + n))
  thunkFunctionOut : s'.thunkFunctionOut = codeBuffer + pointerSize * 4
  stores : ∃ new, s'.stores = s.stores ++ new ∧ ∀ e ∈ new,
    (∀ a, Block e.1 e.2 a → Block codeBuffer THUNK_BUFFER_SIZE a) ∨
    (∀ a, Block e.1 e.2 a → Block procAddress.pointer 6 a)

/-- The hook is absent: the code is what it was, and no thunk was handed out. -/
structure Absent (s s' : Process) (procAddress : OpcodeIterator) (size : Nat) : Prop where
  code : ∀ a, Block procAddress.pointer size a → s'.memory a = s.memory a
  thunkFunctionOut : s'.thunkFunctionOut = s.thunkFunctionOut

/-- The block that `VirtualAlloc` returns lies in the address space and apart from the code. -/
def FreshBlock (win32 : Win32) (procAddress : OpcodeIterator) (size : Nat) : Prop :=
  ∀ codeBuffer, win32.virtualAlloc = some codeBuffer →
    codeBuffer + THUNK_BUFFER_SIZE ≤ 2 ^ 32 ∧
      ∀ a, Block procAddress.pointer size a → ¬Block codeBuffer THUNK_BUFFER_SIZE a

section InstallHook

variable {win32 : Win32} {procAddress : OpcodeIterator} {proxyFunction : BitVec 32} {size : Nat}
  {s s' : Process}

/-- Clearing the buffer. -/
theorem cleared_within (s : Process) (codeBuffer : Nat) :
    Within (Block codeBuffer THUNK_BUFFER_SIZE) s
      (s.stored codeBuffer (List.replicate THUNK_BUFFER_SIZE 0)) :=
  s.stored_within List.length_replicate fun _ => id

/-- The two halves of a hook that is installed. -/
theorem installHook_success
    (h : installHook build win32 procAddress proxyFunction s = .ok .success s') :
    ∃ codeBuffer t, win32.virtualAlloc = some codeBuffer ∧
      copyCode build win32.lockThunk codeBuffer (codeBuffer + pointerSize * 4) procAddress
        proxyFunction (s.stored codeBuffer (List.replicate THUNK_BUFFER_SIZE 0)) = .ok .success t ∧
      rewriteCode build win32.lockProc codeBuffer (codeBuffer + pointerSize * 4) procAddress t =
        .ok .success s' := by
  unfold installHook at h
  cases hAlloc : win32.virtualAlloc with
  | none =>
    rw [hAlloc] at h
    cases h
  | some codeBuffer =>
    rw [hAlloc] at h
    obtain ⟨_, cleared, hClear, h⟩ := bind_eq_ok h
    cases hClear
    obtain ⟨status, t, hCopy, h⟩ := bind_eq_ok h
    dsimp only at h
    split at h
    · rename_i hCopied
      obtain ⟨status', t', hRewrite, h⟩ := bind_eq_ok h
      split at h
      · cases h
      · cases h
        subst hCopied
        exact ⟨codeBuffer, t, rfl, hCopy, hRewrite⟩
    · rename_i hFailed
      rw [pure_bind, if_pos hFailed] at h
      cases h

/-- Without success the buffer alone was written to. -/
theorem installHook_otherwise {codeBuffer : Nat} (hAlloc : win32.virtualAlloc = some codeBuffer)
    (h : ∀ t, installHook build win32 procAddress proxyFunction s ≠ .ok .success t) :
    Within (Block codeBuffer THUNK_BUFFER_SIZE) s
      (finalState (installHook build win32 procAddress proxyFunction s)) := by
  unfold installHook at h ⊢
  rw [hAlloc] at h ⊢
  dsimp only at h ⊢
  have hClear : (store codeBuffer (List.replicate THUNK_BUFFER_SIZE 0) : ProcessAction Unit) s =
      .ok () (s.stored codeBuffer (List.replicate THUNK_BUFFER_SIZE 0)) := rfl
  have hCleared := cleared_within s codeBuffer
  have hCopied := copyCode_frame build win32.lockThunk codeBuffer procAddress proxyFunction
    (s.stored codeBuffer (List.replicate THUNK_BUFFER_SIZE 0))
  -- clearing, copying and rewriting; only the last could leave the buffer
  rw [bind_run, hClear] at h ⊢
  dsimp only at h ⊢
  rw [bind_run] at h ⊢
  cases hCopy : copyCode build win32.lockThunk codeBuffer (codeBuffer + pointerSize * 4) procAddress
      proxyFunction (s.stored codeBuffer (List.replicate THUNK_BUFFER_SIZE 0)) with
  | error e t =>
    rw [hCopy] at hCopied
    exact trans_of _ hCleared hCopied
  | ok status t =>
    rw [hCopy] at h hCopied
    refine trans_of _ hCleared (trans_of _ hCopied ?_)
    dsimp only [finalState_ok] at h ⊢
    split
    · rename_i hStatus
      rw [if_pos hStatus, bind_run] at h
      -- had the rewriting succeeded, the whole call would have
      have hSame : finalState (rewriteCode build win32.lockProc codeBuffer
          (codeBuffer + pointerSize * 4) procAddress t) = t := by
        refine rewriteCode_otherwise fun u hRewrite => ?_
        rw [hRewrite] at h
        exact h u rfl
      refine Frame.bind_at ?_ fun status' => ?_
      · rw [hSame]
        exact refl_of _ t
      · -- what is left shows the message, or returns
        split
        · exact .throw _
        · exact .pure _
    · rename_i hFailed
      rw [pure_bind, if_pos hFailed]
      exact refl_of _ t

/-- Blocks without a common address lie one behind the other. -/
theorem Block.apart {start n start' n' : Nat} (hPos : 0 < n) (hPos' : 0 < n')
    (h : ∀ a, Block start n a → ¬Block start' n' a) : start + n ≤ start' ∨ start' + n' ≤ start := by
  -- else the later of the two starts lies in both
  by_contra hOverlap
  exact h (max start start') ⟨by omega, by omega⟩ ⟨by omega, by omega⟩

/-- In a fresh block `RelocateCode` does not overwrite what it has to read. -/
theorem FreshBlock.relocateCode_eq {codeBuffer n : Nat} {written : List UInt8} (hSize : 6 ≤ size)
    (hFresh : FreshBlock win32 procAddress size) (hAlloc : win32.virtualAlloc = some codeBuffer)
    (hPos : 0 < n)
    (h : relocateCodeInto build memory (BitVec.ofNat 64 (codeBuffer + pointerSize * 4)) procAddress
      6 THUNK_BUFFER_SIZE = .ok (n, written)) :
    relocateCode build memory (BitVec.ofNat 64 (codeBuffer + pointerSize * 4)) procAddress 6
      THUNK_BUFFER_SIZE = .ok (n, written) := by
  obtain ⟨hRange, hDisjoint⟩ := hFresh codeBuffer hAlloc
  have hBuffer : THUNK_BUFFER_SIZE = 256 := rfl
  have hPointer : pointerSize = 4 := rfl
  have hBlocks := Block.apart (by omega) (by decide) hDisjoint
  have hStart : (BitVec.ofNat 64 (codeBuffer + pointerSize * 4)).toNat =
      codeBuffer + pointerSize * 4 := by
    rw [BitVec.toNat_ofNat, Nat.mod_eq_of_lt (by omega)]
  refine (relocateCodeInto_iff ?_ hPos).mp h
  -- the thunk's code starts sixteen bytes behind the start of the block
  unfold NotOverwritten
  rw [hStart]
  omega

theorem hooked_of_success (hSize : 6 ≤ size) (hFresh : FreshBlock win32 procAddress size)
    (h : installHook build win32 procAddress proxyFunction s = .ok .success s') :
    ∃ codeBuffer n, win32.virtualAlloc = some codeBuffer ∧
      Hooked build s s' procAddress proxyFunction codeBuffer n := by
  obtain ⟨codeBuffer, t, hAlloc, hCopy, hRewrite⟩ := installHook_success h
  obtain ⟨hRange, hDisjoint⟩ := hFresh codeBuffer hAlloc
  have hBuffer : THUNK_BUFFER_SIZE = 256 := rfl
  have hApart : procAddress.pointer + 6 ≤ codeBuffer ∨
      codeBuffer + THUNK_BUFFER_SIZE ≤ procAddress.pointer := by
    have := Block.apart (by omega) (by decide) hDisjoint
    omega
  -- the first half writes to the buffer, the second to the procedure
  have hCleared := cleared_within s codeBuffer
  have hCopied := copyCode_frame build win32.lockThunk codeBuffer procAddress proxyFunction
    (s.stored codeBuffer (List.replicate THUNK_BUFFER_SIZE 0))
  rw [hCopy] at hCopied
  have hBlock := trans_of _ hCleared hCopied
  obtain ⟨memory, n, written, hMemory, hInto, hPos, hSlot, hCode, hBack⟩ := copyCode_success hCopy
  have hRelocate := hFresh.relocateCode_eq hSize hAlloc hPos hInto
  obtain ⟨hWritten, hEnough, is, hCovers, hSum⟩ := relocateCode_covers hRelocate hPos
  have hShort := (relocateCodeInto_le hInto).1
  have hUsed : n ≤ 21 := hWritten ▸ hShort
  obtain ⟨hPatched, hPatch⟩ := rewriteCode_success (by omega) hRewrite
  have hPointer : pointerSize = 4 := rfl
  -- what the first half left in the buffer is still there after the second
  refine ⟨codeBuffer, n, hAlloc, ?_⟩
  exact
    { relocated := by
        refine ⟨memory, is, written, fun a ha => ?_, hRelocate, hCovers, hSum, ?_⟩
        · exact (hMemory a ha).trans (hCleared.memory a ha)
        · exact (hPatched.slice_eq (by omega)).trans hCode
      enough := hEnough
      patch := jumpsThrough_of_slice (by omega) hPatch
      slot := (hPatched.slice_eq (by omega)).trans hSlot
      others := fun a hOut hOther => (hPatched.memory a hOther).trans (hBlock.memory a hOut)
      back := by
        intro it hIt
        refine jumpsTo_of_slice ?_
        rw [hIt]
        exact (hPatched.slice_eq (by omega)).trans hBack
      thunkFunctionOut := hPatched.out
      stores := by
        obtain ⟨new, hNew, hAll⟩ := hBlock.stores
        obtain ⟨new', hNew', hAll'⟩ := hPatched.stores
        refine ⟨new ++ new', ?_, fun e he => ?_⟩
        · rw [hNew', ← List.append_assoc, ← hNew]
          rfl
        · cases List.mem_append.mp he with
          | inl hFirst => exact .inl (hAll e hFirst)
          | inr hSecond => exact .inr (hAll' e hSecond) }

/-- A call that does not succeed leaves the code and the thunk's pointer alone. -/
theorem absent_of_otherwise (hFresh : FreshBlock win32 procAddress size)
    (h : ∀ t, installHook build win32 procAddress proxyFunction s ≠ .ok .success t) :
    Absent s (finalState (installHook build win32 procAddress proxyFunction s)) procAddress
      size := by
  cases hAlloc : win32.virtualAlloc with
  | none =>
    unfold installHook
    rw [hAlloc]
    exact ⟨fun _ _ => rfl, rfl⟩
  | some codeBuffer =>
    have hBlock := installHook_otherwise hAlloc h
    exact ⟨fun a ha => hBlock.memory a ((hFresh codeBuffer hAlloc).2 a ha), hBlock.out⟩

end InstallHook

/-- **A hook is complete or absent.** `size` is the size of the procedure; a call that ends the
process counts as returning its status. -/
theorem installHook_complete_or_absent (build : Build) (win32 : Win32)
    (procAddress : OpcodeIterator) (proxyFunction : BitVec 32) (s : Process) (size : Nat)
    (hSize : 6 ≤ size) (hFresh : FreshBlock win32 procAddress size) :
    (∀ s', installHook build win32 procAddress proxyFunction s = .ok .success s' →
      ∃ codeBuffer n, win32.virtualAlloc = some codeBuffer ∧
        Hooked build s s' procAddress proxyFunction codeBuffer n) ∧
    (∀ status s', status ≠ .success ∧
        installHook build win32 procAddress proxyFunction s = .ok status s' ∨
        installHook build win32 procAddress proxyFunction s = .error (.exit status) s' →
      Absent s s' procAddress size) := by
  refine ⟨fun s' h => hooked_of_success hSize hFresh h, fun status s' h => ?_⟩
  have hOtherwise := @absent_of_otherwise build win32 procAddress proxyFunction size s hFresh
  -- the two ways to end without success
  cases h with
  | inl hReturned =>
    obtain ⟨hStatus, hRun⟩ := hReturned
    rw [hRun] at hOtherwise
    refine hOtherwise fun t hSuccess => ?_
    cases hSuccess
    exact hStatus rfl
  | inr hExit =>
    rw [hExit] at hOtherwise
    exact hOtherwise fun t => nofun

/-- A usual function entry: `MOV EDI,EDI`, `PUSH EBP`, `MOV EBP,ESP`, `SUB ESP,8`. -/
def functionEntry : Process :=
  ⟨holding 0x401000 [0x8b, 0xff, 0x55, 0x8b, 0xec, 0x83, 0xec, 0x08], 0, []⟩

/-- Every call succeeds. -/
def allGranted : Win32 := ⟨some 0x10000000, ⟨some 0x40, true, 0x40⟩, ⟨some 0x20, true, 0x20⟩⟩

/-- The hook on a usual function entry is complete. -/
theorem installHook_functionEntry :
    ∃ s', installHook .debug allGranted codeStart 0x402000 functionEntry = .ok .success s' ∧
      ∃ codeBuffer n, allGranted.virtualAlloc = some codeBuffer ∧
        Hooked .debug functionEntry s' codeStart 0x402000 codeBuffer n := by
  have hFresh : FreshBlock allGranted codeStart 8 := by
    intro codeBuffer hAlloc
    cases hAlloc
    refine ⟨by decide, fun a hCode hBlock => ?_⟩
    exact absurd (Nat.lt_of_le_of_lt hBlock.1 hCode.2) (by decide)
  -- the run is evaluated for its result alone
  have hStatus : value? (installHook .debug allGranted codeStart 0x402000 functionEntry) =
      some .success := by
    decide +kernel
  have hRun := eq_ok_of_value? hStatus
  exact ⟨_, hRun, (installHook_complete_or_absent .debug allGranted codeStart 0x402000
    functionEntry 8 (by decide) hFresh).1 _ hRun⟩

end Giblet.CodeHook
