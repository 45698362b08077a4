import Giblet.Lib.Stretch
import Giblet.CodeHook.HookSystem

/-!
# CodeHook — page protections

`InstallHook` writes to a block of memory while a `MemoryBlock` has made its
region writable. The block remembers the region's protection, but not the
region: `Unlock` asks for it again, and by then it may have grown together
with the one behind it.

* `lock_eq`, `unlock_eq` — what the two calls do to the pages.
* `protectionsRestored_iff` — when everything is as it was.
-/

namespace Giblet.CodeHook

open Stretch

/-! ## The model -/

def pageSize : Nat := 4096

/-- `MEMORY_BASIC_INFORMATION`, as far as it is read. -/
structure MemoryBasicInformation where
  baseAddress : Nat
  regionSize : Nat
  protect : UInt32
  deriving DecidableEq, Repr

/-- `VirtualQuery`: the pages from the address's page on that are protected in the same way. The
pages' protections stand for the address space. -/
def virtualQuery (pages : List UInt32) (address : Nat) : Option MemoryBasicInformation :=
  pages[address / pageSize]?.map fun protect =>
    { baseAddress := address / pageSize * pageSize
      regionSize := stretch pages (address / pageSize) * pageSize
      protect }

/-- `VirtualProtect`: the result, the old protection of the first page, and the pages, of which
those that have one of the bytes are changed. -/
def virtualProtect (pages : List UInt32) (address size : Nat) (prot : UInt32) :
    Bool × UInt32 × List UInt32 :=
  let first := address / pageSize
  let behind := (address + size + (pageSize - 1)) / pageSize
  (true, pages.getD first 0, paint pages first (behind - first) prot)

/-- `MemoryBlock`. -/
structure MemoryBlock where
  memory : Nat
  /-- The protection to give back; zero when nothing is locked. -/
  lockedProtection : UInt32
  deriving DecidableEq, Repr

/-- The constructor. -/
def MemoryBlock.ofMemory (build : Build) (memory : Nat) : Except Fault MemoryBlock := do
  assert build (memory != 0)
  return { memory, lockedProtection := 0 }

/-- `MemoryBlock::Lock`. -/
def MemoryBlock.lock (build : Build) (block : MemoryBlock) (prot : UInt32)
    (pages : List UInt32) : Except Fault (Bool × MemoryBlock × List UInt32) := do
  assert build (block.lockedProtection == 0)
  if block.lockedProtection ≠ 0 then return (false, block, pages)
  match virtualQuery pages block.memory with
  | none => return (false, block, pages)
  | some mbi =>
    let (result, lockedProtection, pages) :=
      virtualProtect pages mbi.baseAddress mbi.regionSize prot
    assert build (lockedProtection != 0)
    if result = false then return (false, { block with lockedProtection }, pages)
    return (true, { block with lockedProtection := mbi.protect }, pages)

/-- `MemoryBlock::Unlock`. -/
def MemoryBlock.unlock (build : Build) (block : MemoryBlock) (pages : List UInt32) :
    Except Fault (Bool × MemoryBlock × List UInt32) := do
  assert build (block.lockedProtection != 0)
  if block.lockedProtection = 0 then return (false, block, pages)
  -- the region is asked for again
  match virtualQuery pages block.memory with
  | none => return (false, block, pages)
  | some mbi =>
    let (result, _, pages) :=
      virtualProtect pages mbi.baseAddress mbi.regionSize block.lockedProtection
    if result = false then return (false, { block with lockedProtection := 0 }, pages)
    return (true, { block with lockedProtection := 0 }, pages)

/-- The destructor. -/
def MemoryBlock.destroy (build : Build) (block : MemoryBlock) (pages : List UInt32) :
    Except Fault (List UInt32) := do
  if block.lockedProtection ≠ 0 then
    let (_, _, pages) ← block.unlock build pages
    return pages
  return pages

/-! ## What the calls do -/

variable {build : Build} {pages : List UInt32} {block : MemoryBlock} {prot : UInt32} {memory : Nat}

/-- The region that starts with page `p` gets another protection. -/
def protectRegion (pages : List UInt32) (p : Nat) (prot : UInt32) : List UInt32 :=
  paint pages p (stretch pages p) prot

@[simp] theorem length_protectRegion (pages : List UInt32) (p : Nat) (prot : UInt32) :
    (protectRegion pages p prot).length = pages.length :=
  length_paint ..

theorem virtualQuery_eq (h : memory / pageSize < pages.length) :
    virtualQuery pages memory = some {
      baseAddress := memory / pageSize * pageSize
      regionSize := stretch pages (memory / pageSize) * pageSize
      protect := pages[memory / pageSize] } := by
  unfold virtualQuery
  rw [List.getElem?_eq_getElem h]
  rfl

/-- A region's bytes are those of its pages. -/
theorem virtualProtect_region (pages : List UInt32) (p n : Nat) (prot : UInt32) :
    virtualProtect pages (p * pageSize) (n * pageSize) prot =
      (true, pages.getD p 0, paint pages p n prot) := by
  have hFirst : p * pageSize / pageSize = p := Nat.mul_div_cancel p (by decide)
  have hBehind : (p * pageSize + n * pageSize + (pageSize - 1)) / pageSize - p = n := by
    unfold pageSize
    omega
  simp only [virtualProtect, hFirst, hBehind]

/-- `Lock` of an address that has a page. -/
theorem lock_eq (hNew : block.lockedProtection = 0) (hPage : block.memory / pageSize < pages.length)
    (hOld : build = .debug → pages[block.memory / pageSize] ≠ 0) :
    block.lock build prot pages =
      .ok (true, { block with lockedProtection := pages[block.memory / pageSize] },
        protectRegion pages (block.memory / pageSize) prot) := by
  have hStored : pages.getD (block.memory / pageSize) 0 = pages[block.memory / pageSize] := by
    rw [List.getD_eq_getElem?_getD, List.getElem?_eq_getElem hPage]
    rfl
  unfold MemoryBlock.lock
  rw [virtualQuery_eq hPage, hNew]
  simp only [virtualProtect_region, hStored]
  cases build
  · have hSet : (pages[block.memory / pageSize] != 0) = true := bne_iff_ne.mpr (hOld rfl)
    rw [hSet]
    rfl
  · rfl

/-- A region without a protection is found out by the assertion, after the call. -/
theorem lock_unprotected (hNew : block.lockedProtection = 0)
    (hPage : block.memory / pageSize < pages.length) (hOld : pages[block.memory / pageSize] = 0) :
    block.lock .debug prot pages = .error .assertion := by
  have hStored : pages.getD (block.memory / pageSize) 0 = 0 := by
    rw [List.getD_eq_getElem?_getD, List.getElem?_eq_getElem hPage]
    exact hOld
  unfold MemoryBlock.lock
  rw [virtualQuery_eq hPage, hNew]
  simp only [virtualProtect_region, hStored]
  rfl

/-- `Unlock` of a block that is locked. -/
theorem unlock_eq (hLocked : block.lockedProtection ≠ 0)
    (hPage : block.memory / pageSize < pages.length) :
    block.unlock build pages = .ok (true, { block with lockedProtection := 0 },
      protectRegion pages (block.memory / pageSize) block.lockedProtection) := by
  have hSet : (block.lockedProtection != 0) = true := bne_iff_ne.mpr hLocked
  unfold MemoryBlock.unlock
  rw [virtualQuery_eq hPage, hSet]
  simp only [virtualProtect_region, if_neg hLocked]
  cases build <;> rfl

/-- A block that remembers no protection gives none back. -/
theorem unlock_unlocked (hLocked : block.lockedProtection = 0) :
    block.unlock .release pages = .ok (false, block, pages) := by
  unfold MemoryBlock.unlock
  rw [hLocked]
  rfl

/-- The destructor is `Unlock` for a block that is locked. -/
theorem destroy_eq (block : MemoryBlock) (pages : List UInt32) :
    block.destroy build pages =
      if block.lockedProtection = 0 then .ok pages
      else (block.unlock build pages).map fun done => done.2.2 := by
  unfold MemoryBlock.destroy
  by_cases hLocked : block.lockedProtection = 0
  · rw [if_neg (not_not_intro hLocked), if_pos hLocked]
    rfl
  · rw [if_pos hLocked, if_neg hLocked]
    cases block.unlock build pages <;> rfl

/-- What `InstallHook` sees of a lock is one of the outcomes its model allows for. -/
theorem lock_outcome (hNew : block.lockedProtection = 0) :
    (block.lock build prot pages).map (fun done => done.1) = memoryBlockLock build
      { query := pages[block.memory / pageSize]?
        result := true
        oldProtection := pages.getD (block.memory / pageSize) 0 } := by
  by_cases hPage : block.memory / pageSize < pages.length
  · unfold MemoryBlock.lock memoryBlockLock
    rw [virtualQuery_eq hPage, hNew, List.getElem?_eq_getElem hPage]
    simp only [virtualProtect_region]
    generalize (pages.getD (block.memory / pageSize) 0 != 0) = stored
    cases build <;> cases stored <;> rfl
  · have hNone : pages[block.memory / pageSize]? = none :=
      List.getElem?_eq_none (Nat.le_of_not_lt hPage)
    unfold MemoryBlock.lock memoryBlockLock virtualQuery
    rw [hNew, hNone]
    cases build <;> rfl

/-! ## When everything is as it was -/

/-- `Lock`, followed by `Unlock` or by the destructor, ends with the pages it began with. -/
def ProtectionsRestored (build : Build) (block : MemoryBlock) (prot : UInt32)
    (pages : List UInt32) : Prop :=
  ∃ result locked changed, block.lock build prot pages = .ok (result, locked, changed) ∧
    (∃ result' unlocked, locked.unlock build changed = .ok (result', unlocked, pages)) ∧
    locked.destroy build changed = .ok pages

/-- The region at page `p` has a protection, and does not grow when it gets this one. -/
def StaysApart (build : Build) (pages : List UInt32) (p : Nat) (prot : UInt32) : Prop :=
  (build = .debug → pages[p]? ≠ some 0) ∧
    (pages[p]? = some prot ∨
      pages[p]? ≠ some 0 ∧ pages[p + stretch pages p]? ≠ some prot)

instance : Decidable (StaysApart build pages p prot) :=
  inferInstanceAs (Decidable (_ ∧ _))

theorem ofMemory_eq (h : MemoryBlock.ofMemory build memory = .ok block) :
    block = { memory, lockedProtection := 0 } := by
  unfold MemoryBlock.ofMemory at h
  cases build
  · cases hNull : memory != 0
    · rw [hNull] at h
      cases h
    · rw [hNull] at h
      cases h
      rfl
  · cases h
    rfl

/-- Both ways back, after `Lock` has returned. -/
theorem protectionsRestored_of_lock {result : Bool} {locked : MemoryBlock} {changed : List UInt32}
    (h : block.lock build prot pages = .ok (result, locked, changed)) :
    ProtectionsRestored build block prot pages ↔
      (∃ result' unlocked, locked.unlock build changed = .ok (result', unlocked, pages)) ∧
        locked.destroy build changed = .ok pages := by
  constructor
  · rintro ⟨result, locked, changed, hLock, hBack⟩
    cases h.symm.trans hLock
    exact hBack
  · exact fun hBack => ⟨result, locked, changed, h, hBack⟩

/-- `Unlock` gives the region that it finds the protection that `Lock` found. -/
theorem protectionsRestored_iff_back (hNew : block.lockedProtection = 0)
    (hPage : block.memory / pageSize < pages.length)
    (hOld : pages[block.memory / pageSize] ≠ 0) :
    ProtectionsRestored build block prot pages ↔
      protectRegion (protectRegion pages (block.memory / pageSize) prot) (block.memory / pageSize)
        pages[block.memory / pageSize] = pages := by
  rw [protectionsRestored_of_lock (lock_eq hNew hPage fun _ => hOld), destroy_eq, if_neg hOld,
    unlock_eq hOld (by rw [length_protectRegion]; exact hPage)]
  constructor
  · rintro ⟨-, hDestroy⟩
    exact Except.ok.inj hDestroy
  · intro hBack
    exact ⟨⟨_, _, by rw [hBack]⟩, congrArg Except.ok hBack⟩

/-- A block whose region had no protection is taken for one that is not locked. -/
theorem protectionsRestored_unprotected (hNew : block.lockedProtection = 0)
    (hPage : block.memory / pageSize < pages.length)
    (hOld : pages[block.memory / pageSize] = 0) :
    ProtectionsRestored .release block prot pages ↔
      protectRegion pages (block.memory / pageSize) prot = pages := by
  have hRelease : Build.release = .debug → pages[block.memory / pageSize] ≠ 0 := nofun
  rw [protectionsRestored_of_lock (lock_eq hNew hPage hRelease), destroy_eq, if_pos hOld,
    unlock_unlocked hOld]
  constructor
  · rintro ⟨-, hDestroy⟩
    exact Except.ok.inj hDestroy
  · intro hSame
    exact ⟨⟨_, _, by rw [hSame]⟩, congrArg Except.ok hSame⟩

/-- **The pages have their protections again exactly when the region behind the block's did not
have the protection it was locked with.** -/
theorem protectionsRestored_iff (hNew : MemoryBlock.ofMemory build memory = .ok block)
    (hPage : memory / pageSize < pages.length) :
    ProtectionsRestored build block prot pages ↔
      StaysApart build pages (memory / pageSize) prot := by
  obtain rfl := ofMemory_eq hNew
  unfold StaysApart
  rw [List.getElem?_eq_getElem hPage, Option.some_inj, Ne, Option.some_inj]
  by_cases hOld : pages[memory / pageSize] = 0
  · cases build
    · -- the assertion ends a debug build
      refine iff_of_false ?_ fun h => h.1 rfl hOld
      rintro ⟨_, _, _, hLock, -⟩
      rw [lock_unprotected rfl hPage hOld] at hLock
      cases hLock
    · -- and a release build gives nothing back
      rw [protectionsRestored_unprotected rfl hPage hOld]
      have hSame : protectRegion pages (memory / pageSize) prot = pages ↔
          pages[memory / pageSize] = prot := paint_stretch_eq_iff hPage prot
      rw [hSame]
      exact ⟨fun h => ⟨nofun, .inl h⟩, fun h => h.2.resolve_right fun h => h.1 hOld⟩
  · rw [protectionsRestored_iff_back rfl hPage hOld]
    have hBack : protectRegion (protectRegion pages (memory / pageSize) prot) (memory / pageSize)
        pages[memory / pageSize] = pages ↔ pages[memory / pageSize] = prot ∨
          pages[memory / pageSize + stretch pages (memory / pageSize)]? ≠ some prot :=
      paint_back_iff hPage prot
    rw [hBack]
    exact ⟨fun h => ⟨fun _ => hOld, h.imp_right fun h => ⟨hOld, h⟩⟩,
      fun h => h.2.imp_right fun h => h.2⟩

/-- A code section behind a page without access, and constants behind it. -/
theorem protectionsRestored_constants :
    ∃ block, MemoryBlock.ofMemory .debug 0x1234 = .ok block ∧
      ProtectionsRestored .debug block 0x04 [0x01, 0x20, 0x20, 0x02] := by
  have hNew : MemoryBlock.ofMemory .debug 0x1234 = .ok ⟨0x1234, 0⟩ := rfl
  exact ⟨_, hNew, (protectionsRestored_iff hNew (by decide)).mpr (by decide)⟩

/-- With a writable section behind it, both have become executable, and no longer writable. -/
theorem protections_notRestored_data :
    ∃ block, MemoryBlock.ofMemory .debug 0x1234 = .ok block ∧
      ¬ProtectionsRestored .debug block 0x04 [0x01, 0x20, 0x20, 0x04] ∧
      ∃ locked changed unlocked,
        block.lock .debug 0x04 [0x01, 0x20, 0x20, 0x04] = .ok (true, locked, changed) ∧
        locked.unlock .debug changed = .ok (true, unlocked, [0x01, 0x20, 0x20, 0x20]) := by
  refine ⟨⟨0x1234, 0⟩, rfl, ?_, ⟨0x1234, 0x20⟩, [0x01, 0x04, 0x04, 0x04], ⟨0x1234, 0⟩, rfl, rfl⟩
  rintro ⟨_, _, _, hLock, ⟨_, _, hUnlock⟩, -⟩
  cases hLock
  cases hUnlock

end Giblet.CodeHook
