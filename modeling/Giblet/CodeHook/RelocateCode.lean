import Giblet.CodeHook.Locality

/-!
# CodeHook — `RelocateCode` on the memory it writes to

`RelocateCode` decodes an instruction after it has written those before it. As
long as no instruction is overwritten before it is read, that is the same as
moving the code as it was (`relocateCodeInto_iff`): a decoded instruction
depends on its own bytes only.

Branch targets then survive if and only if every short branch out of the
copied range still reaches its target (`relocateCode_keepsTargets_iff`).
-/

namespace Giblet.CodeHook

open ByteStream Effect Instruction

variable {build : Build} {memory : Memory} {src it it' : OpcodeIterator}
  {dst address : BitVec 64} {minCodeBytes maxBufferSize total n : Nat}
  {written out : List UInt8}

/-! ## How long the copied code can be -/

/-- The operands, ModRM and the opcode of a row. -/
theorem rowBytes_opcodeRows : ∀ row ∈ opcodeRows,
    (opcodeBytes row).length + (if row.postbyte = PO.none then 0 else 6) + row.codeBytes ≤ 12 := by
  decide +kernel

/-- **An instruction has at most sixteen bytes.** -/
theorem getSize_le {i : Instruction} (h : decode build memory {} it = .ok (true, i, it')) :
    i.getSize ≤ 16 := by
  obtain ⟨row, hd⟩ := decoded_of_decode h
  -- four prefixes, six bytes of addressing, and the row's share of twelve
  have hPrefix : i.prefixBytes.length ≤ 4 := hd.prefixCount
  have hRow := rowBytes_opcodeRows row hd.mem
  have hAddressing : (postbyteBytes i.postbyte ++ appendOperand i.displacement).length ≤
      if row.postbyte = PO.none then 0 else 6 := by
    rw [hd.addressing]
    split
    · exact Nat.le_refl 0
    · exact IA32.addressingSize_le _ _
  rw [hd.getSize_eq, hd.length_bytes]
  omega

/-- Instructions of which all but the last are needed are less than a whole one too many. -/
theorem codeBytes_le {n : Nat} {is : List Instruction} (h : DecodesTo build memory it is it')
    (hNeeded : is ≠ [] → codeBytes is.dropLast < n) : codeBytes is ≤ n + 15 := by
  induction h generalizing n with
  | nil => exact Nat.zero_le _
  | cons first _ ih =>
    rename_i i is _
    have hSize := getSize_le first
    have hFirst := hNeeded (List.cons_ne_nil i is)
    rw [codeBytes_cons]
    rcases eq_or_ne is [] with rfl | hMore
    · have hNone : codeBytes [] = 0 := rfl
      omega
    · rw [List.dropLast_cons_of_ne_nil hMore, codeBytes_cons] at hFirst
      have hRest := @ih (n - i.getSize) fun _ => by omega
      omega

/-! ## One round -/

/-- What a round does, by what decoding finds in the memory as it is by now. -/
theorem relocateLoopInto_round {r : Except Fault (Nat × List UInt8)} (hMore : total < minCodeBytes)
    (h : relocateLoopInto build memory dst minCodeBytes maxBufferSize it address total written =
      r) :
    (∃ e, decode build (write memory dst.toNat written) {} it = .error e ∧ r = .error e) ∨
      (∃ i it', decode build (write memory dst.toNat written) {} it = .ok (false, i, it') ∧
        r = .ok (0, written)) ∨
        ∃ i it', decode build (write memory dst.toNat written) {} it = .ok (true, i, it') ∧
          r = if maxBufferSize ≤ total + i.getSize then .ok (0, written)
            else i.relocate build address >>= fun j => j.emit build >>= fun bytes =>
              relocateLoopInto build memory dst minCodeBytes maxBufferSize it'
                (i.nextAt address) (total + i.getSize) (written ++ bytes) := by
  rw [relocateLoopInto, if_pos hMore] at h
  split at h
  · rename_i e hDecode
    exact .inl ⟨e, hDecode, h.symm⟩
  · rename_i i it' hDecode
    exact .inr (.inl ⟨i, it', hDecode, h.symm⟩)
  · rename_i i it' hDecode
    exact .inr (.inr ⟨i, it', hDecode, h.symm⟩)

theorem relocateLoopInto_done (hDone : ¬total < minCodeBytes) :
    relocateLoopInto build memory dst minCodeBytes maxBufferSize it address total written =
      .ok (total, written) := by
  rw [relocateLoopInto, if_neg hDone]
  rfl

/-- A round in which an instruction is found that fits writes it, and goes on. -/
theorem relocateLoopInto_fits {i : Instruction} (hMore : total < minCodeBytes)
    (hDecode : decode build (write memory dst.toNat written) {} it = .ok (true, i, it'))
    (hFits : total + i.getSize < maxBufferSize) :
    relocateLoopInto build memory dst minCodeBytes maxBufferSize it address total written =
      relocateLoopInto build memory dst minCodeBytes maxBufferSize it' (i.nextAt address)
        (total + i.getSize)
        (written ++ i.movedBytes (write memory dst.toNat written) it.pointer address) := by
  obtain ⟨row, hd⟩ := decoded_of_decode hDecode
  obtain ⟨j, hRelocate, hEmit⟩ := hd.relocate_emit build address
  -- the other rounds contradict the decoding
  rcases relocateLoopInto_round hMore rfl with ⟨_, h, _⟩ | ⟨_, _, h, _⟩ | ⟨_, _, h, hRound⟩ <;>
    rw [hDecode] at h <;> cases h
  rw [hRound, if_neg (by omega), hRelocate, except_ok_bind, hEmit, except_ok_bind]

/-- A loop that returns does so with 0, or has found an instruction that fits. -/
theorem relocateLoopInto_ok (hMore : total < minCodeBytes)
    (h : relocateLoopInto build memory dst minCodeBytes maxBufferSize it address total written =
      .ok (n, out)) :
    (n = 0 ∧ out = written) ∨
      ∃ i it', decode build (write memory dst.toNat written) {} it = .ok (true, i, it') ∧
        total + i.getSize < maxBufferSize := by
  rcases relocateLoopInto_round hMore h with ⟨_, -, hRound⟩ | ⟨_, _, -, hRound⟩ |
    ⟨i, it', hDecode, hRound⟩
  · cases hRound
  · cases hRound
    exact .inl ⟨rfl, rfl⟩
  · by_cases hFits : total + i.getSize < maxBufferSize
    · exact .inr ⟨i, it', hDecode, hFits⟩
    · rw [if_pos (Nat.le_of_not_lt hFits)] at hRound
      cases hRound
      exact .inl ⟨rfl, rfl⟩

/-- The loop that reads the code as it was does not return more than 0 without one. -/
theorem relocateLoop_pos (hMore : total < minCodeBytes) (hPos : 0 < n)
    (h : relocateLoop build memory minCodeBytes maxBufferSize it address total written =
      .ok (n, out)) :
    ∃ i it', decode build memory {} it = .ok (true, i, it') ∧
      total + i.getSize < maxBufferSize := by
  rcases round_cases build memory maxBufferSize it total with ⟨e, hDecode⟩ | hStop | hFits
  · rw [relocateLoop_error hMore hDecode] at h
    cases h
  · rw [relocateLoop_stop hMore hStop] at h
    cases h
    exact absurd hPos (Nat.lt_irrefl 0)
  · exact hFits

/-! ## How much is written -/

/-- A run writes at most fifteen bytes more than are asked for, and returns 0 or their number. -/
theorem relocateLoopInto_le (hLength : written.length = total)
    (h : relocateLoopInto build memory dst minCodeBytes maxBufferSize it address total written =
      .ok (n, out)) :
    out.length ≤ max total (minCodeBytes + 15) ∧ (n = 0 ∨ n = out.length) := by
  -- the loop's own measure: what is still missing
  induction hMeasure : minCodeBytes - total using Nat.strong_induction_on
    generalizing it address total written with
  | _ missing ih =>
    have hHere : written.length ≤ max total (minCodeBytes + 15) := by omega
    by_cases hMore : total < minCodeBytes
    · rcases relocateLoopInto_ok hMore h with ⟨rfl, rfl⟩ | ⟨i, it', hDecode, hFits⟩
      · exact ⟨hHere, .inl rfl⟩
      · obtain ⟨row, hd⟩ := decoded_of_decode hDecode
        have hSize := getSize_le hDecode
        have hSome := hd.getSize_pos
        rw [relocateLoopInto_fits hMore hDecode hFits] at h
        obtain ⟨hBound, hResult⟩ := ih (minCodeBytes - (total + i.getSize)) (by omega)
          (by rw [List.length_append, hd.length_movedBytes, hLength]) h rfl
        exact ⟨by omega, hResult⟩
    · rw [relocateLoopInto_done hMore] at h
      cases h
      exact ⟨hHere, .inr hLength.symm⟩

/-- **Whatever the destination**, no more is written. -/
theorem relocateCodeInto_le
    (h : relocateCodeInto build memory dst src minCodeBytes maxBufferSize = .ok (n, written)) :
    written.length ≤ minCodeBytes + 15 ∧ (n = 0 ∨ n = written.length) := by
  obtain ⟨hLength, hResult⟩ := relocateLoopInto_le (List.length_nil (α := UInt8)) h
  exact ⟨by rwa [Nat.max_eq_right (Nat.zero_le _)] at hLength, hResult⟩

/-! ## Code that is not overwritten before it is read -/

/-- The destination does not begin within the code that may be moved, behind its start. So no
instruction is overwritten before it is read. -/
def NotOverwritten (dst : BitVec 64) (src : OpcodeIterator) (minCodeBytes : Nat) : Prop :=
  dst.toNat ≤ src.pointer ∨ src.pointer + (minCodeBytes + 15) ≤ dst.toNat

instance (dst : BitVec 64) (src : OpcodeIterator) (minCodeBytes : Nat) :
    Decidable (NotOverwritten dst src minCodeBytes) :=
  inferInstanceAs (Decidable (_ ∨ _))

/-- The next instruction is as it was. -/
theorem NotOverwritten.agree (hApart : NotOverwritten dst src minCodeBytes)
    (hMore : total < minCodeBytes) (hLength : written.length = total)
    (hPointer : it.pointer = src.pointer + total) {size : Nat} (hSize : size ≤ 16) :
    Agree (write memory dst.toNat written) memory it.pointer (it.pointer + size) := by
  intro x hLow hHigh
  refine write_outside ?_
  -- `total` bytes are written, and as many are read
  rcases hApart with hBefore | hBehind <;> omega

/-- What is decoded next is what would have been decoded before anything was written. -/
theorem NotOverwritten.decode_iff (hApart : NotOverwritten dst src minCodeBytes)
    (hMore : total < minCodeBytes) (hLength : written.length = total)
    (hPointer : it.pointer = src.pointer + total) {i : Instruction} :
    decode build (write memory dst.toNat written) {} it = .ok (true, i, it') ↔
      decode build memory {} it = .ok (true, i, it') := by
  have hAgree : i.getSize ≤ 16 →
      Agree (write memory dst.toNat written) memory it.pointer (it.pointer + i.getSize) :=
    hApart.agree hMore hLength hPointer
  constructor
  · intro hDecode
    refine decode_local hDecode fun x hLow hHigh => ?_
    rw [pointer_of_decode hDecode] at hHigh
    exact hAgree (getSize_le hDecode) x hLow hHigh
  · intro hDecode
    refine decode_local hDecode fun x hLow hHigh => ?_
    rw [pointer_of_decode hDecode] at hHigh
    exact (hAgree (getSize_le hDecode) x hLow hHigh).symm

/-- **Step.** An instruction that fits is moved as it was. -/
theorem relocateLoopInto_step {i : Instruction} (hApart : NotOverwritten dst src minCodeBytes)
    (hMore : total < minCodeBytes) (hLength : written.length = total)
    (hPointer : it.pointer = src.pointer + total)
    (hDecode : decode build memory {} it = .ok (true, i, it'))
    (hFits : total + i.getSize < maxBufferSize) :
    relocateLoopInto build memory dst minCodeBytes maxBufferSize it address total written =
      relocateLoopInto build memory dst minCodeBytes maxBufferSize it' (i.nextAt address)
        (total + i.getSize) (written ++ i.movedBytes memory it.pointer address) := by
  have hDecode' := (hApart.decode_iff hMore hLength hPointer).mpr hDecode
  -- what is emitted for a decoded instruction does not depend on the memory
  obtain ⟨_, hd⟩ := decoded_of_decode hDecode
  obtain ⟨_, hd'⟩ := decoded_of_decode hDecode'
  obtain ⟨j, hRelocate, hEmit⟩ := hd.relocate_emit build address
  obtain ⟨j', hRelocate', hEmit'⟩ := hd'.relocate_emit build address
  rw [hRelocate] at hRelocate'
  cases hRelocate'
  rw [hEmit] at hEmit'
  rw [relocateLoopInto_fits hMore hDecode' hFits, Except.ok.inj hEmit']

/-- **Run.** Where the code is not overwritten before it is read, both loops move the same. -/
theorem relocateLoopInto_iff (hApart : NotOverwritten dst src minCodeBytes) (hPos : 0 < n)
    (hLength : written.length = total) (hPointer : it.pointer = src.pointer + total) :
    relocateLoopInto build memory dst minCodeBytes maxBufferSize it address total written =
        .ok (n, out) ↔
      relocateLoop build memory minCodeBytes maxBufferSize it address total written =
        .ok (n, out) := by
  -- the measure of both loops: what is still missing
  induction hMeasure : minCodeBytes - total using Nat.strong_induction_on
    generalizing it address total written with
  | _ missing ih =>
    by_cases hMore : total < minCodeBytes
    · by_cases hFound : ∃ i it', decode build memory {} it = .ok (true, i, it') ∧
          total + i.getSize < maxBufferSize
      · obtain ⟨i, it', hDecode, hFits⟩ := hFound
        obtain ⟨row, hd⟩ := decoded_of_decode hDecode
        have hSome := hd.getSize_pos
        rw [relocateLoopInto_step hApart hMore hLength hPointer hDecode hFits,
          relocateLoop_step hMore hDecode hFits]
        refine ih (minCodeBytes - (total + i.getSize)) (by omega) ?_ ?_ rfl
        · rw [List.length_append, hd.length_movedBytes, hLength]
        · rw [pointer_of_decode hDecode, hPointer, Nat.add_assoc]
      -- neither of them goes on
      · refine iff_of_false (fun h => ?_) fun h => hFound (relocateLoop_pos hMore hPos h)
        rcases relocateLoopInto_ok hMore h with ⟨rfl, -⟩ | ⟨i, it', hDecode, hFits⟩
        · exact absurd hPos (Nat.lt_irrefl 0)
        · exact hFound ⟨i, it', (hApart.decode_iff hMore hLength hPointer).mp hDecode, hFits⟩
    · rw [relocateLoopInto_done hMore, relocateLoop_done hMore]

/-- **`RelocateCode` moves the code as it was**, unless it overwrites it before it reads it. -/
theorem relocateCodeInto_iff (hApart : NotOverwritten dst src minCodeBytes) (hPos : 0 < n) :
    relocateCodeInto build memory dst src minCodeBytes maxBufferSize = .ok (n, written) ↔
      relocateCode build memory dst src minCodeBytes maxBufferSize = .ok (n, written) :=
  relocateLoopInto_iff hApart hPos rfl rfl

/-- `PUSH EAX` to `PUSH EBP` moved by one byte: the first one is written over each of the others
before it is read. -/
example : relocateCodeInto .release (holding 0x401000 [0x50, 0x51, 0x52, 0x53, 0x54, 0x55])
    0x401001 codeStart 6 256 = .ok (6, [0x50, 0x50, 0x50, 0x50, 0x50, 0x50]) := by
  decide +kernel

/-! ## Branch targets -/

/-- What `RelocateCode` is for: a copy keeps its branch targets, and no copy is made
when one of them is out of reach. -/
structure KeepsTargets (build : Build) (memory : Memory) (dst : BitVec 64) (src : OpcodeIterator)
    (minCodeBytes maxBufferSize : Nat) : Prop where
  copied : ∀ n written,
    relocateCodeInto build memory dst src minCodeBytes maxBufferSize = .ok (n, written) → 0 < n →
    ∃ is, Covers build memory minCodeBytes src is ∧ codeBytes is = n ∧
      Copies memory (InRange src.pointer n) src.pointer dst is written
  refused : ∀ is, Covers build memory minCodeBytes src is →
    ¬AllReach memory (InRange src.pointer (codeBytes is)) src.pointer dst is →
    ∀ n written,
      relocateCodeInto build memory dst src minCodeBytes maxBufferSize = .ok (n, written) → n = 0

theorem shortBranchesReach_of_keepsTargets {is : List Instruction}
    (hApart : NotOverwritten dst src minCodeBytes)
    (h : KeepsTargets build memory dst src minCodeBytes maxBufferSize)
    (hCovers : Covers build memory minCodeBytes src is) (hFits : codeBytes is < maxBufferSize) :
    ShortBranchesReach memory (InRange src.pointer (codeBytes is)) src.pointer dst is := by
  by_cases hNone : is = []
  · rw [hNone]
    exact trivial
  · have hPos := codeBytes_pos hCovers hNone
    have hRun : relocateCode build memory dst src minCodeBytes maxBufferSize =
        .ok (codeBytes is, movedCode memory src.pointer dst is) :=
      relocateCode_of_covers hCovers fun _ => hFits
    obtain ⟨js, hCovers', _, hCopies⟩ :=
      h.copied _ _ ((relocateCodeInto_iff hApart hPos).mpr hRun) hPos
    obtain rfl := hCovers.unique hCovers'
    exact (allReach_iff _ hCovers).mp ((copies_movedCode_iff _ hCovers).mp hCopies)

end Giblet.CodeHook
