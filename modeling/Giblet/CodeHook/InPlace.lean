import Giblet.CodeHook.HookSystem
import Giblet.Lib.Run

/-!
# CodeHook — hooks as they lie in memory

A hook that is in place is a patch at the procedure, a slot, the moved code
and a jump back. It stays in place as long as nobody writes to these bytes
(`InPlace.congr`), so hooks that lie apart do not disturb each other, however
many are installed and wherever the process ends (`installHooks_each`). A
procedure that is hooked already can be hooked again: what is moved then is
the patch of the hook before (`hookedAgain_of_runs`).
-/

namespace Giblet.CodeHook

open ByteStream Effect Instruction Run

variable {build : Build} {memory memory' : Memory}

/-! ## The model -/

/-- What `GetModuleHandleA` and `GetProcAddress` answer. -/
structure Exports where
  getModuleHandleA : String → Option Nat
  getProcAddress : Nat → String → Option OpcodeIterator

/-- A call of `InstallHook`, and what the Win32 calls answer it. -/
structure HookRequest where
  moduleName : String
  functionName : String
  proxyFunction : BitVec 32
  win32 : Win32

/-- `InstallHook` for a function of a module. -/
def installHookOf (build : Build) (exports : Exports) (request : HookRequest) :
    ProcessAction HookError :=
  match exports.getModuleHandleA request.moduleName with
  | none => return .noModule
  | some module =>
    match exports.getProcAddress module request.functionName with
    | none => return .noFunc
    | some procAddress => installHook build request.win32 procAddress request.proxyFunction

/-- The functions that `Hook_Winsock`, `Hook_CreateFile` and `Hook_WinINet` hook, in this order. -/
def hookedFunctions : List (String × String) :=
  [("ws2_32.dll", "connect"), ("kernel32.dll", "CreateFileA"), ("kernel32.dll", "CreateFileW"),
    ("Wininet.dll", "InternetConnectA"), ("Wininet.dll", "InternetConnectW")]

/-- What `Hook_Winsock`, `Hook_CreateFile` and `Hook_WinINet` ask for. -/
def hookRequests (proxyFunction : String → BitVec 32) (win32 : String → Win32) :
    List HookRequest :=
  hookedFunctions.map fun (moduleName, functionName) =>
    ⟨moduleName, functionName, proxyFunction functionName, win32 functionName⟩

/-- One hook after another; nobody looks at the results. -/
def installHooks (build : Build) (exports : Exports) (requests : List HookRequest) :
    ProcessAction Unit :=
  requests.forM fun request => do
    let _ ← installHookOf build exports request

/-! ## A hook in place -/

/-- Where the thunk's code starts. -/
def thunkStart (codeBuffer : Nat) : Nat := codeBuffer + pointerSize * 4

/-- A jump through a slot. -/
def patchThrough (slot : Nat) : List UInt8 := 0xff :: 0x25 :: wordBytes 4 slot

/-- A hook's own block: `code` is what was moved. -/
structure Thunk (memory : Memory) (procAddress : Nat) (proxyFunction : BitVec 32)
    (codeBuffer : Nat) (code : List UInt8) : Prop where
  slot : slice memory codeBuffer 4 = wordBytes 4 proxyFunction.toNat
  moved : slice memory (thunkStart codeBuffer) code.length = code
  back : slice memory (thunkStart codeBuffer + code.length) 5 =
    0xe9 :: wordBytes 4 (BitVec.ofNat 32 (procAddress + code.length) -
      BitVec.ofNat 32 (thunkStart codeBuffer + code.length + 5)).toNat
  short : code.length ≤ 21

/-- A hook, together with the patch that leads to it. -/
structure InPlace (memory : Memory) (procAddress : Nat) (proxyFunction : BitVec 32)
    (codeBuffer : Nat) (code : List UInt8) : Prop extends
    Thunk memory procAddress proxyFunction codeBuffer code where
  patch : slice memory procAddress 6 = patchThrough codeBuffer

/-- The hook was installed over a procedure that looked as it does in `original`. -/
def Installed (build : Build) (original memory : Memory) (procAddress : OpcodeIterator)
    (proxyFunction : BitVec 32) (codeBuffer : Nat) : Prop :=
  ∃ is, Covers build original 6 procAddress is ∧
    InPlace memory procAddress.pointer proxyFunction codeBuffer
      (movedCode original procAddress.pointer (BitVec.ofNat 64 (thunkStart codeBuffer)) is)

section

variable {procAddress : OpcodeIterator} {proxyFunction : BitVec 32} {codeBuffer : Nat}
  {code : List UInt8}

/-- A thunk stays as it is as long as its block does. -/
theorem Thunk.congr {proc : Nat} (h : Thunk memory proc proxyFunction codeBuffer code)
    (hBuffer : ∀ a, Block codeBuffer THUNK_BUFFER_SIZE a → memory' a = memory a) :
    Thunk memory' proc proxyFunction codeBuffer code := by
  have hSize : THUNK_BUFFER_SIZE = 256 := rfl
  have hStart : thunkStart codeBuffer = codeBuffer + 16 := rfl
  have hShort := h.short
  have hInside : ∀ b n, codeBuffer ≤ b → b + n ≤ codeBuffer + 256 →
      slice memory' b n = slice memory b n := fun b n hLow hHigh =>
    slice_congr fun x hx hx' => hBuffer x ⟨by omega, by omega⟩
  exact
    { slot := (hInside _ _ (Nat.le_refl _) (by omega)).trans h.slot
      moved := (hInside _ _ (by omega) (by omega)).trans h.moved
      back := (hInside _ _ (by omega) (by omega)).trans h.back
      short := h.short }

/-- A hook stays in place as long as its bytes do. -/
theorem InPlace.congr {proc : Nat} (h : InPlace memory proc proxyFunction codeBuffer code)
    (hProc : ∀ a, Block proc 6 a → memory' a = memory a)
    (hBuffer : ∀ a, Block codeBuffer THUNK_BUFFER_SIZE a → memory' a = memory a) :
    InPlace memory' proc proxyFunction codeBuffer code where
  toThunk := h.toThunk.congr hBuffer
  patch := (slice_congr fun x hx hx' => hProc x ⟨hx, hx'⟩).trans h.patch

theorem Installed.congr {original : Memory}
    (h : Installed build original memory procAddress proxyFunction codeBuffer)
    (hProc : ∀ a, Block procAddress.pointer 6 a → memory' a = memory a)
    (hBuffer : ∀ a, Block codeBuffer THUNK_BUFFER_SIZE a → memory' a = memory a) :
    Installed build original memory' procAddress proxyFunction codeBuffer := by
  obtain ⟨is, hCovers, hInPlace⟩ := h
  exact ⟨is, hCovers, hInPlace.congr hProc hBuffer⟩

theorem Thunk.codeBytes_le {original : Memory} {is : List Instruction} {proc : Nat}
    {dst : BitVec 64}
    (h : Thunk memory proc proxyFunction codeBuffer (movedCode original procAddress.pointer dst is))
    (hCovers : Covers build original 6 procAddress is) : codeBytes is ≤ 21 := by
  obtain ⟨⟨it', hDecodes⟩, -, -⟩ := covers_iff.mp hCovers
  have hShort := h.short
  rwa [length_movedCode _ hDecodes] at hShort

/-- **A hook that was installed** is in place, in memory that is unchanged elsewhere. -/
theorem installHook_installed {win32 : Win32} {s s' : Process}
    (hFresh : FreshBlock win32 procAddress 21)
    (h : installHook build win32 procAddress proxyFunction s = .ok .success s') :
    ∃ codeBuffer, win32.virtualAlloc = some codeBuffer ∧
      Installed build s.memory s'.memory procAddress proxyFunction codeBuffer := by
  obtain ⟨codeBuffer, t, hAlloc, hCopy, hRewrite⟩ := installHook_success h
  obtain ⟨hRange, hDisjoint⟩ := hFresh codeBuffer hAlloc
  have hBuffer : THUNK_BUFFER_SIZE = 256 := rfl
  have hApart : procAddress.pointer + 21 ≤ codeBuffer ∨
      codeBuffer + THUNK_BUFFER_SIZE ≤ procAddress.pointer :=
    Block.apart (by decide) (by decide) hDisjoint
  have hCleared := cleared_within s codeBuffer
  obtain ⟨memory, n, written, hMemory, hInto, hPos, hSlot, hCode, hBack⟩ := copyCode_success hCopy
  have hRelocate := hFresh.relocateCode_eq (by decide) hAlloc hPos hInto
  obtain ⟨is, hCovers, rfl, -, rfl⟩ := covers_of_relocateCode hRelocate hPos
  obtain ⟨hLength, -, -⟩ := relocateCode_covers hRelocate hPos
  have hUsed := (relocateCodeInto_le hInto).1
  obtain ⟨hPatched, hPatch⟩ := rewriteCode_success (by omega) hRewrite
  have hPointer : pointerSize = 4 := rfl
  -- the procedure was read when the buffer had been written to
  have hSame : Agree memory s.memory procAddress.pointer (procAddress.pointer + codeBytes is) :=
    fun a hLow hHigh =>
      have ha : Block procAddress.pointer 21 a := ⟨hLow, by omega⟩
      (hMemory a (hDisjoint a ha)).trans (hCleared.memory a (hDisjoint a ha))
  obtain ⟨⟨it', hDecodes⟩, -, -⟩ := covers_iff.mp hCovers
  refine ⟨codeBuffer, hAlloc, is, covers_local hCovers hSame, ?_⟩
  rw [← movedCode_congr _ hDecodes hSame]
  -- what the first half left in the buffer is still there after the second
  exact
    { patch := hPatch
      slot := (hPatched.slice_eq (by omega)).trans hSlot
      moved := by
        rw [thunkStart, hLength]
        exact (hPatched.slice_eq (by omega)).trans hCode
      back := by
        rw [thunkStart, hLength]
        exact (hPatched.slice_eq (by omega)).trans hBack
      short := hUsed }

/-- **However a call ends**, the buffer and the patch are all that was written. -/
theorem installHook_unchanged (build : Build) (win32 : Win32) (procAddress : OpcodeIterator)
    (proxyFunction : BitVec 32) (s : Process) (hFresh : FreshBlock win32 procAddress 21) {a : Nat}
    (hProc : ¬Block procAddress.pointer 6 a)
    (hBuffer : ∀ codeBuffer, win32.virtualAlloc = some codeBuffer →
      ¬Block codeBuffer THUNK_BUFFER_SIZE a) :
    (finalState (installHook build win32 procAddress proxyFunction s)).memory a = s.memory a := by
  by_cases hSuccess : ∃ s', installHook build win32 procAddress proxyFunction s = .ok .success s'
  · obtain ⟨s', hRun⟩ := hSuccess
    obtain ⟨codeBuffer, n, hAlloc, hHooked⟩ := hooked_of_success (by decide) hFresh hRun
    rw [hRun, finalState_ok]
    exact hHooked.others a (hBuffer codeBuffer hAlloc) hProc
  · cases hAlloc : win32.virtualAlloc with
    | none =>
      unfold installHook
      rw [hAlloc]
      rfl
    | some codeBuffer =>
      have hWithin := installHook_otherwise hAlloc fun t hRun => hSuccess ⟨t, hRun⟩
      exact hWithin.memory a (hBuffer codeBuffer hAlloc)

/-- A call that returns has succeeded: every failure ends the process. -/
theorem status_of_installHook {win32 : Win32} {s s' : Process} {status : HookError}
    (h : installHook build win32 procAddress proxyFunction s = .ok status s') :
    status = .success := by
  unfold installHook at h
  cases hAlloc : win32.virtualAlloc with
  | none =>
    rw [hAlloc] at h
    cases h
  | some codeBuffer =>
    rw [hAlloc] at h
    obtain ⟨_, _, -, h⟩ := bind_eq_ok h
    obtain ⟨_, _, -, h⟩ := bind_eq_ok h
    dsimp only at h
    split at h
    · obtain ⟨last, _, -, h⟩ := bind_eq_ok h
      split at h
      · cases h
      · rename_i hLast
        cases h
        exact not_not.mp hLast
    · rename_i hFailed
      rw [pure_bind, if_pos hFailed] at h
      cases h

/-! ## One hook after another -/

/-- The procedure that a request is about. -/
def Exports.find (exports : Exports) (request : HookRequest) : Option OpcodeIterator :=
  (exports.getModuleHandleA request.moduleName).bind fun module =>
    exports.getProcAddress module request.functionName

theorem installHookOf_eq (build : Build) (exports : Exports) (request : HookRequest) :
    (exports.find request = none ∧ ∃ status, installHookOf build exports request = pure status) ∨
      ∃ procAddress, exports.find request = some procAddress ∧
        installHookOf build exports request =
          installHook build request.win32 procAddress request.proxyFunction := by
  unfold installHookOf Exports.find
  cases exports.getModuleHandleA request.moduleName with
  | none => exact .inl ⟨rfl, _, rfl⟩
  | some module =>
    dsimp only [Option.bind_some]
    cases exports.getProcAddress module request.functionName with
    | none => exact .inl ⟨rfl, _, rfl⟩
    | some procAddress => exact .inr ⟨procAddress, rfl, rfl⟩

/-- The procedure's first bytes and the buffer for its thunk. -/
def Footprint (exports : Exports) (request : HookRequest) (a : Nat) : Prop :=
  ∃ procAddress, exports.find request = some procAddress ∧
    (Block procAddress.pointer 21 a ∨ ∃ codeBuffer, request.win32.virtualAlloc = some codeBuffer ∧
      Block codeBuffer THUNK_BUFFER_SIZE a)

/-- `VirtualAlloc` returns a fresh block for each procedure that exists. -/
def FreshBlocks (exports : Exports) (requests : List HookRequest) : Prop :=
  (∀ r ∈ requests, ∀ procAddress, exports.find r = some procAddress →
    FreshBlock r.win32 procAddress 21) ∧
  requests.Pairwise fun q r => ∀ a, Footprint exports q a → ¬Footprint exports r a

/-- The request's hook is in place, if there is such a procedure. -/
def Answered (build : Build) (exports : Exports) (original memory : Memory)
    (request : HookRequest) : Prop :=
  ∀ procAddress, exports.find request = some procAddress →
    ∃ codeBuffer, request.win32.virtualAlloc = some codeBuffer ∧
      Installed build original memory procAddress request.proxyFunction codeBuffer

section

variable {exports : Exports} {requests : List HookRequest} {request : HookRequest} {s s' : Process}

theorem Answered.congr {original original' : Memory}
    (h : Answered build exports original memory request)
    (hOriginal : ∀ a, Footprint exports request a → original a = original' a)
    (hSame : ∀ a, Footprint exports request a → memory' a = memory a) :
    Answered build exports original' memory' request := by
  intro procAddress hFind
  obtain ⟨codeBuffer, hAlloc, is, hCovers, hInPlace⟩ := h procAddress hFind
  have hShort := hInPlace.toThunk.codeBytes_le hCovers
  have hAgree : Agree original original' procAddress.pointer
      (procAddress.pointer + codeBytes is) := fun a hLow hHigh =>
    hOriginal a ⟨procAddress, hFind, .inl ⟨hLow, by omega⟩⟩
  obtain ⟨⟨it', hDecodes⟩, -, -⟩ := covers_iff.mp hCovers
  rw [movedCode_congr _ hDecodes hAgree] at hInPlace
  refine ⟨codeBuffer, hAlloc, is, covers_local hCovers hAgree, hInPlace.congr ?_ ?_⟩
  · exact fun a ha => hSame a ⟨procAddress, hFind, .inl ⟨ha.1, by have := ha.2; omega⟩⟩
  · exact fun a ha => hSame a ⟨procAddress, hFind, .inr ⟨codeBuffer, hAlloc, ha⟩⟩

theorem installHookOf_unchanged (build : Build) (s : Process)
    (hFresh : ∀ procAddress, exports.find request = some procAddress →
      FreshBlock request.win32 procAddress 21) {a : Nat} (hOut : ¬Footprint exports request a) :
    (finalState (installHookOf build exports request s)).memory a = s.memory a := by
  rcases installHookOf_eq build exports request with ⟨-, status, hRun⟩ | ⟨proc, hFind, hRun⟩
  · rw [hRun]
    rfl
  · rw [hRun]
    refine installHook_unchanged build _ proc _ s (hFresh proc hFind) (fun hProc => ?_) ?_
    · exact hOut ⟨proc, hFind, .inl ⟨hProc.1, by have := hProc.2; omega⟩⟩
    · exact fun codeBuffer hAlloc hBuffer => hOut ⟨proc, hFind, .inr ⟨codeBuffer, hAlloc, hBuffer⟩⟩

theorem answered_of_ok {status : HookError}
    (hFresh : ∀ procAddress, exports.find request = some procAddress →
      FreshBlock request.win32 procAddress 21)
    (h : installHookOf build exports request s = .ok status s') :
    Answered build exports s.memory s'.memory request := by
  intro procAddress hFind
  rcases installHookOf_eq build exports request with ⟨hNone, -⟩ | ⟨proc, hSome, hRun⟩
  · rw [hFind] at hNone
    cases hNone
  · rw [hFind] at hSome
    cases hSome
    rw [hRun] at h
    obtain rfl := status_of_installHook h
    exact installHook_installed (hFresh procAddress hFind) h

/-- The code of the request's procedure, if there is such a procedure. -/
def CodeOf (exports : Exports) (request : HookRequest) (a : Nat) : Prop :=
  ∃ procAddress, exports.find request = some procAddress ∧ Block procAddress.pointer 21 a

/-- A call that ends the process leaves the code as it was. -/
theorem code_of_error {e : Stop}
    (hFresh : ∀ procAddress, exports.find request = some procAddress →
      FreshBlock request.win32 procAddress 21)
    (h : installHookOf build exports request s = .error e s') {a : Nat}
    (hCode : CodeOf exports request a) : s'.memory a = s.memory a := by
  obtain ⟨procAddress, hFind, hBlock⟩ := hCode
  rcases installHookOf_eq build exports request with ⟨hNone, -⟩ | ⟨proc, hSome, hRun⟩
  · rw [hFind] at hNone
    cases hNone
  · rw [hFind] at hSome
    cases hSome
    rw [hRun] at h
    have hOtherwise : ∀ t,
        installHook build request.win32 procAddress request.proxyFunction s ≠ .ok .success t := by
      intro t hSuccess
      rw [h] at hSuccess
      cases hSuccess
    have hAbsent := absent_of_otherwise (hFresh procAddress hFind) hOtherwise
    rw [h] at hAbsent
    exact hAbsent.code a hBlock

/-- **Hooks are installed one by one.** However the installation ends, it has answered some of
the requests, all of them if it returns, and their hooks are in place; the next one, which ended
the process, has written to its buffer alone. -/
theorem installHooks_each (build : Build) (exports : Exports) (requests : List HookRequest)
    (s : Process) (hFresh : FreshBlocks exports requests) :
    ∃ done rest, requests = done ++ rest ∧
      (returned (installHooks build exports requests s) = true → rest = []) ∧
      (∀ q ∈ done, Answered build exports s.memory
        (finalState (installHooks build exports requests s)).memory q) ∧
      (∀ q ∈ rest.head?, ∀ a, CodeOf exports q a →
        (finalState (installHooks build exports requests s)).memory a = s.memory a) ∧
      ∀ a, (∀ q ∈ done, ¬Footprint exports q a) → (∀ q ∈ rest.head?, ¬Footprint exports q a) →
        (finalState (installHooks build exports requests s)).memory a = s.memory a := by
  induction requests generalizing s with
  | nil =>
    exact ⟨[], [], rfl, fun _ => rfl, fun q hq => absurd hq List.not_mem_nil, fun _ _ _ _ => rfl,
      fun _ _ _ => rfl⟩
  | cons r requests ih =>
    obtain ⟨hBlocks, hApart⟩ := hFresh
    obtain ⟨hFirst, hLater⟩ := List.forall_mem_cons.mp hBlocks
    obtain ⟨hOthers, hPairs⟩ := List.pairwise_cons.mp hApart
    have hRun : installHooks build exports (r :: requests) s =
        match installHookOf build exports r s with
        | .ok _ t => installHooks build exports requests t
        | .error e t => .error e t := by
      show ((installHookOf build exports r >>= fun _ => pure ()) >>= fun _ =>
        installHooks build exports requests) s = _
      rw [bind_run, bind_run]
      cases installHookOf build exports r s <;> rfl
    have hUnchanged {a : Nat} := @installHookOf_unchanged exports r build s hFirst a
    cases hHook : installHookOf build exports r s with
    | error e t =>
      rw [hHook] at hRun hUnchanged
      rw [hRun]
      refine ⟨[], r :: requests, rfl, nofun, fun q hq => absurd hq List.not_mem_nil,
        fun q hq a hCode => ?_, fun a _ hOut => hUnchanged (hOut r rfl)⟩
      obtain rfl := Option.some.inj hq
      exact code_of_error hFirst hHook hCode
    | ok status t =>
      rw [hHook] at hRun hUnchanged
      rw [hRun]
      obtain ⟨done, rest, hSplit, hAll, hDone, hLast, hElse⟩ := ih t ⟨hLater, hPairs⟩
      -- what the later ones write to lies apart from the first, and the other way round
      have hApartOf {q : HookRequest} (hq : q ∈ done ++ rest) (a : Nat) :
          Footprint exports r a → ¬Footprint exports q a := hOthers q (hSplit ▸ hq) a
      refine ⟨r :: done, rest, by rw [hSplit, List.cons_append], hAll, ?_, fun q hq a hCode => ?_,
        fun a hOut hNext => ?_⟩
      · intro q hq
        rcases List.mem_cons.mp hq with rfl | hq
        · refine (answered_of_ok hFirst hHook).congr (fun _ _ => rfl) fun a ha => hElse a ?_ ?_
          · exact fun p hp => hApartOf (List.mem_append_left _ hp) a ha
          · exact fun p hp => hApartOf (List.mem_append_right _ (List.mem_of_mem_head? hp)) a ha
        · refine (hDone q hq).congr (fun a ha => hUnchanged fun hr => ?_) fun _ _ => rfl
          exact hApartOf (List.mem_append_left _ hq) a hr ha
      · obtain ⟨proc, hFind, hBlock⟩ := hCode
        refine (hLast q hq a ⟨proc, hFind, hBlock⟩).trans (hUnchanged fun hr => ?_)
        exact hApartOf (List.mem_append_right _ (List.mem_of_mem_head? hq)) a hr
          ⟨proc, hFind, .inl hBlock⟩
      · obtain ⟨hr, hOut⟩ := List.forall_mem_cons.mp hOut
        exact (hElse a hOut hNext).trans (hUnchanged hr)

end

/-- The number of a function. -/
def hookedIndex (functionName : String) : Nat :=
  hookedFunctions.findIdx fun hooked => hooked.2 == functionName

/-- Each function has a usual entry. -/
def hookedExports : Exports where
  getModuleHandleA _ := some 0x400000
  getProcAddress _ functionName :=
    some ⟨0x401000 + 0x100 * hookedIndex functionName, by omega⟩

def hookedEntries : Process where
  memory a := if 0x401000 ≤ a then functionEntry.memory (0x401000 + a % 0x100) else 0
  thunkFunctionOut := 0
  stores := []

/-- Each thunk has a block of its own. -/
def grantedApart (functionName : String) : Win32 :=
  { allGranted with virtualAlloc := some (0x10000000 + 0x1000 * hookedIndex functionName) }

/-- All hooks are in place. -/
theorem installHooks_each_entries :
    returned (installHooks .debug hookedExports
      (hookRequests (fun _ => 0x402000) grantedApart) hookedEntries) = true ∧
    ∀ q ∈ hookRequests (fun _ => 0x402000) grantedApart,
      Answered .debug hookedExports hookedEntries.memory
        (finalState (installHooks .debug hookedExports
          (hookRequests (fun _ => 0x402000) grantedApart) hookedEntries)).memory q := by
  have hSize : THUNK_BUFFER_SIZE = 256 := rfl
  have hIndex : ∀ hooked ∈ hookedFunctions, hookedIndex hooked.2 < 5 := by decide
  have hFresh : FreshBlocks hookedExports (hookRequests (fun _ => 0x402000) grantedApart) := by
    refine ⟨List.forall_mem_map.mpr fun hooked hMem procAddress hFind => ?_,
      List.pairwise_map.mpr ?_⟩
    · have hLess := hIndex hooked hMem
      cases hFind
      intro codeBuffer hAlloc
      cases hAlloc
      refine ⟨by omega, fun a hCode hBlock => ?_⟩
      have hCode := hCode.2
      have hBlock := hBlock.1
      dsimp only at hCode
      omega
    · have hPairs : hookedFunctions.Pairwise fun p q =>
          hookedIndex p.2 < hookedIndex q.2 ∧ hookedIndex q.2 < 5 := by
        decide
      refine hPairs.imp fun {p q} hLess a hFirst hSecond => ?_
      obtain ⟨proc, hProc, hFirst⟩ := hFirst
      obtain ⟨proc', hProc', hSecond⟩ := hSecond
      cases hProc
      cases hProc'
      have hFirst' : Block (0x401000 + 0x100 * hookedIndex p.2) 21 a ∨
          Block (0x10000000 + 0x1000 * hookedIndex p.2) 256 a :=
        hFirst.imp_right fun ⟨_, hAlloc, hIn⟩ => Option.some.inj hAlloc ▸ hIn
      have hSecond' : Block (0x401000 + 0x100 * hookedIndex q.2) 21 a ∨
          Block (0x10000000 + 0x1000 * hookedIndex q.2) 256 a :=
        hSecond.imp_right fun ⟨_, hAlloc, hIn⟩ => Option.some.inj hAlloc ▸ hIn
      unfold Block at hFirst' hSecond'
      omega
  have hReturned : returned (installHooks .debug hookedExports
      (hookRequests (fun _ => 0x402000) grantedApart) hookedEntries) = true := by decide +kernel
  obtain ⟨done, rest, hSplit, hAll, hDone, -, -⟩ :=
    installHooks_each .debug hookedExports _ hookedEntries hFresh
  rw [hAll hReturned, List.append_nil] at hSplit
  refine ⟨hReturned, ?_⟩
  rw [hSplit] at hDone ⊢
  exact hDone

/-! ## A procedure that is hooked again -/

section

variable {read : Memory} {it : OpcodeIterator} {is : List Instruction}

/-- What is moved from a procedure that is hooked already is the patch. -/
theorem movedCode_patched {slot : Nat} (dst : BitVec 64)
    (hPatch : slice read it.pointer 6 = patchThrough slot) (hCovers : Covers build read 6 it is) :
    movedCode read it.pointer dst is = patchThrough slot := by
  obtain ⟨hOpcode, hRest⟩ := List.cons.inj hPatch
  obtain ⟨hModRM, -⟩ := List.cons.inj hRest
  have hDecode := @decode_jumpThrough build read it hOpcode hModRM
  have hSize := getSize_advance it 6 (by decide)
  -- the patch is one instruction, and six bytes are all that is needed
  obtain rfl := hCovers.unique (.next (by decide) hDecode (by
    rw [Instruction.getSize, hSize]
    exact .done _))
  rw [movedCode, movedCode, List.append_nil, Instruction.movedBytes, Instruction.getSize, hSize,
    ← hPatch]
  exact List.append_nil _

/-- The code in the thunk of the hook that was installed over `older` ones. -/
def thunkCode (original : Memory) (proc : Nat) (is : List Instruction) (codeBuffer : Nat) :
    List (BitVec 32 × Nat) → List UInt8
  | [] => movedCode original proc (BitVec.ofNat 64 (thunkStart codeBuffer)) is
  | (_, slot) :: _ => patchThrough slot

/-- Hooks on one procedure, the newest first, each with its proxy and its block: the thunk of
each leads on to the one before it, the last one's to the original code. -/
def Stacked (original memory : Memory) (proc : Nat) (is : List Instruction) :
    List (BitVec 32 × Nat) → Prop
  | [] => True
  | (proxyFunction, codeBuffer) :: older =>
    Thunk memory proc proxyFunction codeBuffer
      (thunkCode original proc is codeBuffer older) ∧ Stacked original memory proc is older

/-- The patch belongs to the newest hook. -/
def Patched (memory : Memory) (proc : Nat) : List (BitVec 32 × Nat) → Prop
  | [] => True
  | (_, codeBuffer) :: _ => slice memory proc 6 = patchThrough codeBuffer

theorem Stacked.congr {original : Memory} {proc : Nat} {hooks : List (BitVec 32 × Nat)}
    (h : Stacked original memory proc is hooks)
    (hBuffers : ∀ hook ∈ hooks, ∀ a, Block hook.2 THUNK_BUFFER_SIZE a → memory' a = memory a) :
    Stacked original memory' proc is hooks := by
  induction hooks with
  | nil => trivial
  | cons hook older ih =>
    obtain ⟨hFirst, hOlder⟩ := List.forall_mem_cons.mp hBuffers
    exact ⟨h.1.congr hFirst, ih h.2 hOlder⟩

/-- A further hook on the procedure. -/
def HookStep (build : Build) (procAddress : OpcodeIterator) (s : Process)
    (call : Win32 × BitVec 32) (s' : Process) : Prop :=
  installHook build call.1 procAddress call.2 s = .ok .success s'

/-- The hooks that some calls have installed, the newest first. -/
def hooksOf (calls : List (Win32 × BitVec 32)) : List (BitVec 32 × Nat) :=
  (calls.map fun call => (call.2, call.1.virtualAlloc.getD 0)).reverse

/-- Each call gets a block of its own. -/
def FreshStack (procAddress : OpcodeIterator) (calls : List (Win32 × BitVec 32)) : Prop :=
  (∀ call ∈ calls, FreshBlock call.1 procAddress 21) ∧
  calls.Pairwise fun earlier later => ∀ a,
    Block (earlier.1.virtualAlloc.getD 0) THUNK_BUFFER_SIZE a →
      ¬Block (later.1.virtualAlloc.getD 0) THUNK_BUFFER_SIZE a

/-- What some hooks on a procedure have made of it. -/
structure HookedAgain (build : Build) (original memory : Memory) (procAddress : OpcodeIterator)
    (hooks : List (BitVec 32 × Nat)) (is : List Instruction) : Prop where
  covers : hooks ≠ [] → Covers build original 6 procAddress is
  untouched : hooks = [] → ∀ a, Block procAddress.pointer 21 a → memory a = original a
  stacked : Stacked original memory procAddress.pointer is hooks
  patched : Patched memory procAddress.pointer hooks
  apart : ∀ hook ∈ hooks, ∀ a, Block hook.2 THUNK_BUFFER_SIZE a → ¬Block procAddress.pointer 21 a

/-- **One more hook.** -/
theorem hookedAgain_cons {original : Memory} {s s' : Process} {procAddress : OpcodeIterator}
    {call : Win32 × BitVec 32} {hooks : List (BitVec 32 × Nat)}
    (h : HookedAgain build original s.memory procAddress hooks is)
    (hFresh : FreshBlock call.1 procAddress 21)
    (hApart : ∀ hook ∈ hooks, ∀ a, Block hook.2 THUNK_BUFFER_SIZE a →
      ¬Block (call.1.virtualAlloc.getD 0) THUNK_BUFFER_SIZE a)
    (hStep : HookStep build procAddress s call s') :
    ∃ is', HookedAgain build original s'.memory procAddress
      ((call.2, call.1.virtualAlloc.getD 0) :: hooks) is' := by
  obtain ⟨codeBuffer, hAlloc, js, hCovers, hInPlace⟩ := installHook_installed hFresh hStep
  have hBuffer : call.1.virtualAlloc.getD 0 = codeBuffer := by rw [hAlloc]; rfl
  rw [hBuffer] at hApart ⊢
  have hProc : ∀ hook ∈ (call.2, codeBuffer) :: hooks, ∀ a,
      Block hook.2 THUNK_BUFFER_SIZE a → ¬Block procAddress.pointer 21 a :=
    List.forall_mem_cons.mpr
      ⟨fun a ha hIn => (hFresh codeBuffer hAlloc).2 a hIn ha, h.apart⟩
  cases hooks with
  -- the first hook moves the original code
  | nil =>
    have hShort := hInPlace.toThunk.codeBytes_le hCovers
    have hAgree : Agree s.memory original procAddress.pointer
        (procAddress.pointer + codeBytes js) := fun a hLow hHigh =>
      h.untouched rfl a ⟨hLow, by omega⟩
    obtain ⟨⟨it', hDecodes⟩, -, -⟩ := covers_iff.mp hCovers
    rw [movedCode_congr _ hDecodes hAgree] at hInPlace
    exact ⟨js, fun _ => covers_local hCovers hAgree, nofun, ⟨hInPlace.toThunk, trivial⟩,
      hInPlace.patch, hProc⟩
  -- a later one moves the patch of the one before
  | cons hook older =>
    obtain ⟨proxy, slot⟩ := hook
    have hUnchanged : ∀ hook ∈ (proxy, slot) :: older, ∀ a, Block hook.2 THUNK_BUFFER_SIZE a →
        s'.memory a = s.memory a := by
      intro hook hMem a ha
      have hOut : ¬Block procAddress.pointer 6 a := fun hIn =>
        h.apart hook hMem a ha ⟨hIn.1, by have := hIn.2; omega⟩
      have hSame := installHook_unchanged build call.1 procAddress call.2 s hFresh hOut
        fun b hb => by
          rw [hAlloc] at hb
          exact Option.some.inj hb ▸ hApart hook hMem a ha
      rwa [show installHook build call.1 procAddress call.2 s = .ok .success s' from hStep] at hSame
    refine ⟨is, fun _ => h.covers (List.cons_ne_nil _ _), nofun, ⟨?_, ?_⟩, hInPlace.patch, hProc⟩
    · rw [thunkCode, ← movedCode_patched _ h.patched hCovers]
      exact hInPlace.toThunk
    · exact h.stacked.congr hUnchanged

/-- **However often a procedure is hooked**, the newest hook is the one that is patched in, and
each thunk leads on to the hook before it, the first one's to the original code. -/
theorem hookedAgain_of_runs {s s' : Process} {procAddress : OpcodeIterator}
    {calls : List (Win32 × BitVec 32)} (hFresh : FreshStack procAddress calls)
    (hRun : Runs (HookStep build procAddress) s calls s') :
    ∃ is, HookedAgain build s.memory s'.memory procAddress (hooksOf calls) is := by
  refine hRun.invariant (I := fun calls t => FreshStack procAddress calls →
    ∃ is, HookedAgain build s.memory t.memory procAddress (hooksOf calls) is)
    (fun _ => ⟨[], fun h => absurd rfl h, fun _ _ _ => rfl, trivial, trivial, nofun⟩) ?_ hFresh
  intro calls t call u _ ih hStep hFresh
  obtain ⟨hBlocks, hPairs⟩ := hFresh
  obtain ⟨hEarlier, -, hBetween⟩ := List.pairwise_append.mp hPairs
  obtain ⟨hBefore, hLast⟩ := List.forall_mem_append.mp hBlocks
  obtain ⟨is, h⟩ := ih ⟨hBefore, hEarlier⟩
  have hCall := hLast call List.mem_cons_self
  have hHooks : hooksOf (calls ++ [call]) =
      (call.2, call.1.virtualAlloc.getD 0) :: hooksOf calls := by
    simp [hooksOf]
  rw [hHooks]
  refine hookedAgain_cons h hCall (fun hook hMem a ha => ?_) hStep
  obtain ⟨other, hOther, rfl⟩ := List.mem_map.mp (List.mem_reverse.mp hMem)
  exact hBetween other hOther call List.mem_cons_self a ha

end

end

end Giblet.CodeHook
