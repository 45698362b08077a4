import Giblet.CodeHook.Outcomes
import Giblet.CodeHook.RelocationLoop

/-!
# CodeHook — what `RelocateCode` may write and return

The loop ends, unless an assertion of a debug build fails
(`relocateLoop_ends`). From what it has done when it returns follow the bound
on what is written, the results that are possible, and when the result is 0
(`relocateCode_limits`).
-/

namespace Giblet.CodeHook

open ByteStream Effect Instruction

variable {build : Build} {memory : Memory} {it : OpcodeIterator} {dst : BitVec 64}
  {minCodeBytes maxBufferSize total n : Nat} {written : List UInt8}

/-- What `RelocateCode` may return and write. -/
structure RespectsLimits (build : Build) (memory : Memory) (src : OpcodeIterator)
    (minCodeBytes maxBufferSize n : Nat) (written : List UInt8) : Prop where
  bound : written.length ≤ maxBufferSize
  result : n = 0 ∨ (minCodeBytes ≤ n ∧ n < maxBufferSize ∧
    ∃ is it', DecodesTo build memory src is it' ∧ n = codeBytes is ∧
      codeBytes is.dropLast < minCodeBytes)
  zero_iff : 0 < minCodeBytes → (n = 0 ↔
    ∃ is it', DecodesTo build memory src is it' ∧ codeBytes is < minCodeBytes ∧
      Stops build memory maxBufferSize it' (codeBytes is))

/-! ## Runs -/

/-- **The loop ends**: with a result, or with an assertion of a debug build. -/
theorem relocateLoop_ends
    (hfew : ∀ is it', DecodesTo build memory it is it' → total + codeBytes is < minCodeBytes →
      FewPrefixes memory it') :
    (∃ r, relocateLoop build memory minCodeBytes maxBufferSize it dst total written = .ok r) ∨
      (build = .debug ∧
        relocateLoop build memory minCodeBytes maxBufferSize it dst total written =
          .error .assertion) := by
  -- the loop's own measure: what is still missing
  induction hmeasure : minCodeBytes - total using Nat.strong_induction_on
    generalizing it dst total written with
  | _ missing ih =>
    by_cases hmore : total < minCodeBytes
    · rcases round_cases build memory maxBufferSize it total with
        ⟨e, hdecode⟩ | hstop | ⟨i, it', hdecode, hfits⟩
      · rw [relocateLoop_error hmore hdecode]
        -- few prefixes leave only an assertion to fail
        have hhere : FewPrefixes memory it := hfew [] it (.nil it) hmore
        obtain ⟨rfl, rfl⟩ := fault_of_few hhere hdecode
        exact .inr ⟨rfl, rfl⟩
      · exact .inl ⟨_, relocateLoop_stop hmore hstop⟩
      · have hpos := getSize_pos_of_decode hdecode
        rw [relocateLoop_step hmore hdecode hfits]
        refine ih (minCodeBytes - (total + i.getSize)) (by omega) ?_ rfl
        intro is it'' hdecodes hless
        refine hfew (i :: is) it'' (.cons hdecode hdecodes) ?_
        rw [codeBytes_cons]
        omega
    · exact .inl ⟨_, relocateLoop_done hmore⟩

/-- **No byte is written past the buffer**, whatever the result. -/
theorem length_le_of_relocateCode
    (h : relocateCode build memory dst it minCodeBytes maxBufferSize = .ok (n, written)) :
    written.length ≤ maxBufferSize := by
  obtain ⟨is, it', hdecodes, rfl, hlast, _⟩ := relocateCode_spec h
  rw [length_movedCode dst hdecodes]
  rcases eq_or_ne is [] with rfl | hne
  · exact Nat.zero_le _
  · exact Nat.le_of_lt (hlast hne).2

/-- A result that is not 0 is the length of the instructions that were needed. -/
theorem result_of_relocateCode
    (h : relocateCode build memory dst it minCodeBytes maxBufferSize = .ok (n, written)) :
    n = 0 ∨ (minCodeBytes ≤ n ∧ n < maxBufferSize ∧
      ∃ is it', DecodesTo build memory it is it' ∧ n = codeBytes is ∧
        codeBytes is.dropLast < minCodeBytes) := by
  obtain ⟨is, it', hdecodes, _, hlast, ⟨henough, rfl⟩ | ⟨_, hzero, _⟩⟩ := relocateCode_spec h
  · rcases eq_or_ne is [] with rfl | hne
    · exact .inl rfl
    · obtain ⟨hneeded, hfits⟩ := hlast hne
      exact .inr ⟨henough, hfits, is, it', hdecodes, rfl, hneeded⟩
  · exact .inl hzero

/-- **The result is 0 exactly when an instruction that is needed stops the loop.** -/
theorem relocateCode_zero_iff (hmin : 0 < minCodeBytes)
    (h : relocateCode build memory dst it minCodeBytes maxBufferSize = .ok (n, written)) :
    n = 0 ↔ ∃ is it', DecodesTo build memory it is it' ∧ codeBytes is < minCodeBytes ∧
      Stops build memory maxBufferSize it' (codeBytes is) := by
  obtain ⟨ks, kt, hks, _, hlast, hresult⟩ := relocateCode_spec h
  constructor
  · intro hzero
    rcases hresult with ⟨henough, hn⟩ | ⟨hless, _, hstop⟩
    · omega
    · exact ⟨ks, kt, hks, hless, hstop⟩
  · rintro ⟨is, it', his, hless, hstop⟩
    rcases hresult with ⟨henough, _⟩ | ⟨_, hzero, _⟩
    · -- the instruction that stops the loop would have been moved
      obtain ⟨i, jt, js, hdecode, rfl, _⟩ := hks.next his (by omega)
      have hfits := (hlast (by simp)).2
      rw [codeBytes_split] at hfits
      rcases hstop with ⟨j, _, hother⟩ | ⟨j, _, hother, hlong⟩
      · rw [hdecode] at hother
        cases hother
      · rw [hdecode] at hother
        cases hother
        omega
    · exact hzero

/-- **`RelocateCode` ends and respects its limits.** Only an assertion of a debug build keeps it
from returning. -/
theorem relocateCode_limits (build : Build) (memory : Memory) (dst : BitVec 64)
    (src : OpcodeIterator) (minCodeBytes maxBufferSize : Nat)
    (hfew : ∀ is it', DecodesTo build memory src is it' → codeBytes is < minCodeBytes →
      FewPrefixes memory it') :
    ((∃ r, relocateCode build memory dst src minCodeBytes maxBufferSize = .ok r) ∨
      (build = .debug ∧
        relocateCode build memory dst src minCodeBytes maxBufferSize = .error .assertion)) ∧
    ∀ n written, relocateCode build memory dst src minCodeBytes maxBufferSize = .ok (n, written) →
      RespectsLimits build memory src minCodeBytes maxBufferSize n written := by
  have hzero : ∀ is, 0 + codeBytes is = codeBytes is := fun is => Nat.zero_add _
  refine ⟨relocateLoop_ends fun is it' hdecodes hless => ?_, fun n written h => ?_⟩
  · rw [hzero] at hless
    exact hfew is it' hdecodes hless
  · exact ⟨length_le_of_relocateCode h, result_of_relocateCode h, fun hmin =>
      relocateCode_zero_iff hmin h⟩

/-- Bytes among which there is no prefix. -/
theorem fewPrefixes_holding {start : Nat} {bytes : List UInt8}
    (h : ∀ b ∈ bytes, isPrefixByte b = false) (it : OpcodeIterator) :
    FewPrefixes (holding start bytes) it := by
  refine ⟨0, Nat.zero_le _, ?_⟩
  unfold OpcodeIterator.at holding
  split
  · rw [List.getD_eq_getElem?_getD]
    -- behind the bytes there are zeros
    rcases hbyte : bytes[it.pointer + 0 - start]? with _ | b
    · rfl
    · exact h b (List.mem_of_getElem? hbyte)
  · rfl

/-- `JE` and `MOV` are moved within the limits. -/
theorem relocateCode_limits_shortBranch :
    ∃ n written, relocateCode .release shortBranch 0x10000000 codeStart 6 256 = .ok (n, written) ∧
      RespectsLimits .release shortBranch codeStart 6 256 n written := by
  obtain ⟨hends, hlimits⟩ := relocateCode_limits .release shortBranch 0x10000000 codeStart 6 256
    fun _ it' _ _ => fewPrefixes_holding (by decide +kernel) it'
  rcases hends with ⟨⟨n, written⟩, hrun⟩ | ⟨hbuild, _⟩
  · exact ⟨n, written, hrun, hlimits n written hrun⟩
  · cases hbuild

end Giblet.CodeHook
