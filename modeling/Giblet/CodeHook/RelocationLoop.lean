import Giblet.CodeHook.Relocation

/-!
# CodeHook — the loop of `RelocateCode`

Every round of the loop does one of three things, told by the code at the
iterator: it ends with the fault that decoding ends with
(`relocateLoop_error`), it ends with 0 because the instruction is unknown or
does not fit (`relocateLoop_stop`), or it moves one instruction
(`relocateLoop_step`). What a whole run has done when it returns follows by
induction on what is missing (`relocateLoop_spec`), and it returns for every
run of instructions that decode and fit (`relocateCode_of_covers`).
-/

namespace Giblet.CodeHook

open ByteStream Effect Instruction

variable {build : Build} {memory : Memory} {dst : BitVec 64} {it it' : OpcodeIterator}
  {minCodeBytes maxBufferSize : Nat}

/-! ## Decoding one instruction after the other -/

/-- Decoding leaves no choice. -/
theorem Covers.unique {n : Nat} {is js : List Instruction} (h : Covers build memory n it is)
    (h' : Covers build memory n it js) : is = js := by
  induction h generalizing js with
  | done it =>
    cases h' with
    | done => rfl
    | next more => exact absurd more (Nat.lt_irrefl 0)
  | next more first _ ih =>
    cases h' with
    | done => exact absurd more (Nat.lt_irrefl 0)
    | next _ first' later' =>
      rw [first] at first'
      cases first'
      rw [ih later']

/-- The bytes written for some instructions. -/
def movedCode (memory : Memory) : Nat → BitVec 64 → List Instruction → List UInt8
  | _, _, [] => []
  | a, dst, i :: is =>
    i.movedBytes memory a dst ++ movedCode memory (a + i.getSize) (i.nextAt dst) is

theorem pointer_of_decode {i : Instruction}
    (h : decode build memory {} it = .ok (true, i, it')) :
    it'.pointer = it.pointer + i.getSize := by
  obtain ⟨row, hd⟩ := decoded_of_decode h
  rw [hd.takes.stop, hd.getSize_eq]

/-- From `it`, decoding finds `is` one after the other and stops at `it'`. -/
inductive DecodesTo (build : Build) (memory : Memory) :
    OpcodeIterator → List Instruction → OpcodeIterator → Prop
  | nil (it : OpcodeIterator) : DecodesTo build memory it [] it
  | cons {it it' it'' : OpcodeIterator} {i is}
      (first : decode build memory {} it = .ok (true, i, it'))
      (later : DecodesTo build memory it' is it'') : DecodesTo build memory it (i :: is) it''

/-- `total` bytes are done, and the instruction at `it` is unknown or reaches the bound. -/
def Stops (build : Build) (memory : Memory) (maxBufferSize : Nat) (it : OpcodeIterator)
    (total : Nat) : Prop :=
  (∃ i it', decode build memory {} it = .ok (false, i, it')) ∨
    ∃ i it', decode build memory {} it = .ok (true, i, it') ∧ maxBufferSize ≤ total + i.getSize

theorem codeBytes_cons (i : Instruction) (is : List Instruction) :
    codeBytes (i :: is) = i.getSize + codeBytes is := rfl

theorem codeBytes_append (is js : List Instruction) :
    codeBytes (is ++ js) = codeBytes is + codeBytes js := by
  unfold codeBytes
  rw [List.map_append, List.sum_append]

theorem codeBytes_split (is : List Instruction) (i : Instruction) (js : List Instruction) :
    codeBytes (is ++ i :: js) = codeBytes is + i.getSize + codeBytes js := by
  rw [codeBytes_append, codeBytes_cons, Nat.add_assoc]

/-- Instructions that cover `n` bytes do so with the last one, not before. -/
theorem covers_iff {n : Nat} {is : List Instruction} :
    Covers build memory n it is ↔
      (∃ it', DecodesTo build memory it is it') ∧ n ≤ codeBytes is ∧
        (is ≠ [] → codeBytes is.dropLast < n) := by
  constructor
  · intro h
    induction h with
    | done it => exact ⟨⟨it, .nil it⟩, Nat.le_refl 0, fun hne => absurd rfl hne⟩
    | next more first _ ih =>
      rename_i n it it' i is _
      obtain ⟨⟨it'', hdecodes⟩, hlow, hlast⟩ := ih
      rw [codeBytes_cons]
      refine ⟨⟨it'', .cons first hdecodes⟩, by omega, fun _ => ?_⟩
      rcases is with _ | ⟨j, is⟩
      · exact more
      · have hless := hlast (List.cons_ne_nil j is)
        rw [List.dropLast_cons_of_ne_nil (List.cons_ne_nil j is), codeBytes_cons]
        omega
  · rintro ⟨⟨it', hdecodes⟩, hlow, hlast⟩
    induction hdecodes generalizing n with
    | nil it =>
      obtain rfl : n = 0 := Nat.le_zero.mp hlow
      exact .done it
    | cons first _ ih =>
      rename_i it it' it'' i is _
      rw [codeBytes_cons] at hlow
      have hless := hlast (List.cons_ne_nil i is)
      refine .next (Nat.zero_lt_of_lt hless) first (ih (by omega) fun hne => ?_)
      rw [List.dropLast_cons_of_ne_nil hne, codeBytes_cons] at hless
      omega

theorem DecodesTo.pointer_eq {is : List Instruction} (h : DecodesTo build memory it is it') :
    it'.pointer = it.pointer + codeBytes is := by
  induction h with
  | nil => rfl
  | cons first _ ih =>
    rw [ih, pointer_of_decode first, codeBytes_cons]
    omega

/-- Decoding leaves no choice: where a longer block goes on, an instruction is decoded. -/
theorem DecodesTo.next {ks is : List Instruction} {kt : OpcodeIterator}
    (hks : DecodesTo build memory it ks kt) (his : DecodesTo build memory it is it')
    (hless : codeBytes is < codeBytes ks) :
    ∃ i jt js, decode build memory {} it' = .ok (true, i, jt) ∧ ks = is ++ i :: js ∧
      DecodesTo build memory jt js kt := by
  induction his generalizing ks with
  | nil =>
    cases hks with
    | nil => exact absurd hless (Nat.lt_irrefl _)
    | cons first later => exact ⟨_, _, _, first, rfl, later⟩
  | cons first' _ ih =>
    cases hks with
    | nil => exact absurd hless (Nat.not_lt_zero _)
    | cons first later =>
      rw [first'] at first
      cases first
      rw [codeBytes_cons, codeBytes_cons] at hless
      obtain ⟨i, jt, js, hdecode, rfl, hjs⟩ := ih later (Nat.lt_of_add_lt_add_left hless)
      exact ⟨i, jt, js, hdecode, rfl, hjs⟩

theorem length_movedCode {is : List Instruction} (dst : BitVec 64)
    (h : DecodesTo build memory it is it') :
    (movedCode memory it.pointer dst is).length = codeBytes is := by
  induction h generalizing dst with
  | nil => rfl
  | cons first _ ih =>
    rename_i i is _
    obtain ⟨row, hd⟩ := decoded_of_decode first
    have hlater := ih (i.nextAt dst)
    rw [pointer_of_decode first] at hlater
    rw [movedCode, List.length_append, hd.length_movedBytes, hlater, codeBytes_cons]

/-! ## One round -/

/-- What a round does, by what decoding finds. -/
theorem relocateLoop_round {total : Nat} {written : List UInt8}
    {r : Except Fault (Nat × List UInt8)} (hmore : total < minCodeBytes)
    (h : relocateLoop build memory minCodeBytes maxBufferSize it dst total written = r) :
    (∃ e, decode build memory {} it = .error e ∧ r = .error e) ∨
      (∃ i it', decode build memory {} it = .ok (false, i, it') ∧ r = .ok (0, written)) ∨
        ∃ i it', decode build memory {} it = .ok (true, i, it') ∧
          r = if maxBufferSize ≤ total + i.getSize then .ok (0, written)
            else i.relocate build dst >>= fun j => j.emit build >>= fun bytes =>
              relocateLoop build memory minCodeBytes maxBufferSize it' (i.nextAt dst)
                (total + i.getSize) (written ++ bytes) := by
  rw [relocateLoop, if_pos hmore] at h
  split at h
  · rename_i e hdecode
    exact .inl ⟨e, hdecode, h.symm⟩
  · rename_i i it' hdecode
    exact .inr (.inl ⟨i, it', hdecode, h.symm⟩)
  · rename_i i it' hdecode
    exact .inr (.inr ⟨i, it', hdecode, h.symm⟩)

theorem relocateLoop_error {total : Nat} {written : List UInt8} {e : Fault}
    (hmore : total < minCodeBytes) (hdecode : decode build memory {} it = .error e) :
    relocateLoop build memory minCodeBytes maxBufferSize it dst total written = .error e := by
  rcases relocateLoop_round hmore rfl with ⟨_, h, hround⟩ | ⟨_, _, h, _⟩ | ⟨_, _, h, _⟩ <;>
    rw [hdecode] at h <;> cases h
  exact hround

theorem relocateLoop_stop {total : Nat} {written : List UInt8} (hmore : total < minCodeBytes)
    (hstop : Stops build memory maxBufferSize it total) :
    relocateLoop build memory minCodeBytes maxBufferSize it dst total written =
      .ok (0, written) := by
  have hround := @relocateLoop_round build memory dst it _ maxBufferSize _ written _ hmore rfl
  rcases hstop with ⟨i, it', hdecode⟩ | ⟨i, it', hdecode, hlong⟩
  · rcases hround with ⟨_, h, _⟩ | ⟨_, _, h, hround⟩ | ⟨_, _, h, _⟩ <;>
      rw [hdecode] at h <;> cases h
    exact hround
  · rcases hround with ⟨_, h, _⟩ | ⟨_, _, h, _⟩ | ⟨_, _, h, hround⟩ <;>
      rw [hdecode] at h <;> cases h
    rw [hround, if_pos hlong]

theorem relocateLoop_done {total : Nat} {written : List UInt8} (hdone : ¬total < minCodeBytes) :
    relocateLoop build memory minCodeBytes maxBufferSize it dst total written =
      .ok (total, written) := by
  rw [relocateLoop, if_neg hdone]
  rfl

/-- **Step.** One round of the loop for an instruction that fits. -/
theorem relocateLoop_step {i : Instruction} {total : Nat} {written : List UInt8}
    (hmore : total < minCodeBytes) (hdecode : decode build memory {} it = .ok (true, i, it'))
    (hfits : total + i.getSize < maxBufferSize) :
    relocateLoop build memory minCodeBytes maxBufferSize it dst total written =
      relocateLoop build memory minCodeBytes maxBufferSize it' (i.nextAt dst)
        (total + i.getSize) (written ++ i.movedBytes memory it.pointer dst) := by
  obtain ⟨row, hd⟩ := decoded_of_decode hdecode
  obtain ⟨j, hrelocate, hemit⟩ := hd.relocate_emit build dst
  -- the other rounds contradict the decoding
  rcases relocateLoop_round hmore rfl with ⟨_, h, _⟩ | ⟨_, _, h, _⟩ | ⟨_, _, h, hround⟩ <;>
    rw [hdecode] at h <;> cases h
  rw [hround, if_neg (by omega), hrelocate, except_ok_bind, hemit, except_ok_bind]

/-- One of the three things happens in a round. -/
theorem round_cases (build : Build) (memory : Memory) (maxBufferSize : Nat) (it : OpcodeIterator)
    (total : Nat) :
    (∃ e, decode build memory {} it = .error e) ∨ Stops build memory maxBufferSize it total ∨
      ∃ i it', decode build memory {} it = .ok (true, i, it') ∧
        total + i.getSize < maxBufferSize := by
  cases hdecode : decode build memory {} it with
  | error e => exact .inl ⟨e, rfl⟩
  | ok r =>
    obtain ⟨result, i, it'⟩ := r
    cases result
    · exact .inr (.inl (.inl ⟨i, it', hdecode⟩))
    · rcases Nat.lt_or_ge (total + i.getSize) maxBufferSize with hfits | hlong
      · exact .inr (.inr ⟨i, it', rfl, hfits⟩)
      · exact .inr (.inl (.inr ⟨i, it', hdecode, hlong⟩))

/-! ## Runs -/

/-- **The loop.** However it ends without a fault, it has moved instructions one after the other,
which fitted and were needed; and it returns their length, or 0 before one that stops it. -/
theorem relocateLoop_spec {total n : Nat} {written out : List UInt8}
    (h : relocateLoop build memory minCodeBytes maxBufferSize it dst total written =
      .ok (n, out)) :
    ∃ is it', DecodesTo build memory it is it' ∧
      out = written ++ movedCode memory it.pointer dst is ∧
      (is ≠ [] → total + codeBytes is.dropLast < minCodeBytes ∧
        total + codeBytes is < maxBufferSize) ∧
      ((minCodeBytes ≤ total + codeBytes is ∧ n = total + codeBytes is) ∨
        (total + codeBytes is < minCodeBytes ∧ n = 0 ∧
          Stops build memory maxBufferSize it' (total + codeBytes is))) := by
  -- the loop's own measure: what is still missing
  induction hmeasure : minCodeBytes - total using Nat.strong_induction_on
    generalizing it dst total written with
  | _ missing ih =>
    have hnone : written = written ++ movedCode memory it.pointer dst [] :=
      (List.append_nil written).symm
    by_cases hmore : total < minCodeBytes
    · rcases round_cases build memory maxBufferSize it total with
        ⟨e, hdecode⟩ | hstop | ⟨i, it', hdecode, hfits⟩
      · rw [relocateLoop_error hmore hdecode] at h
        cases h
      · rw [relocateLoop_stop hmore hstop] at h
        cases h
        exact ⟨[], it, .nil it, hnone, fun hne => absurd rfl hne, .inr ⟨hmore, rfl, hstop⟩⟩
      · have hpos := getSize_pos_of_decode hdecode
        rw [relocateLoop_step hmore hdecode hfits] at h
        obtain ⟨is, jt, hdecodes, rfl, hlast, hresult⟩ :=
          ih (minCodeBytes - (total + i.getSize)) (by omega) h rfl
        rw [Nat.add_assoc, ← codeBytes_cons] at hresult
        refine ⟨i :: is, jt, .cons hdecode hdecodes, ?_, fun _ => ?_, hresult⟩
        · rw [movedCode, List.append_assoc, pointer_of_decode hdecode]
        · rcases is with _ | ⟨j, is⟩
          · exact ⟨hmore, hfits⟩
          · obtain ⟨hneeded, hfits⟩ := hlast (List.cons_ne_nil j is)
            rw [List.dropLast_cons_of_ne_nil (List.cons_ne_nil j is), codeBytes_cons,
              codeBytes_cons i]
            omega
    · rw [relocateLoop_done hmore] at h
      cases h
      exact ⟨[], it, .nil it, hnone, fun hne => absurd rfl hne, .inl ⟨Nat.le_of_not_lt hmore, rfl⟩⟩

/-- **Run.** Instructions that cover what is missing, and fit, are all moved. -/
theorem relocateLoop_of_covers {n : Nat} {is : List Instruction} {total : Nat}
    {written : List UInt8} (h : Covers build memory n it is) (hn : n = minCodeBytes - total)
    (hfits : is ≠ [] → total + codeBytes is < maxBufferSize) :
    relocateLoop build memory minCodeBytes maxBufferSize it dst total written =
      .ok (total + codeBytes is, written ++ movedCode memory it.pointer dst is) := by
  -- on the instructions: the loop makes one round for each
  induction h generalizing dst total written with
  | done it =>
    rw [relocateLoop, if_neg (by omega)]
    exact congrArg (fun w => Except.ok (total, w)) (List.append_nil written).symm
  | next more first later ih =>
    rename_i n it it' i is
    have hsum : codeBytes (i :: is) = i.getSize + codeBytes is := rfl
    have hfits := hfits (List.cons_ne_nil i is)
    rw [hsum] at hfits
    rw [relocateLoop_step (by omega) first (by omega),
      ih (by omega) (fun _ => by omega), hsum, movedCode, pointer_of_decode first,
      List.append_assoc, Nat.add_assoc]

theorem Copies.cons_inv {range : BitVec 32 → Prop} {a : Nat} {i : Instruction}
    {is : List Instruction} {out : List UInt8} (h : Copies memory range a dst (i :: is) out) :
    ∃ chunk rest, out = chunk ++ rest ∧ Copy memory range a dst i chunk ∧
      Copies memory range (a + i.getSize) (i.nextAt dst) is rest := by
  cases h with
  | cons first later => exact ⟨_, _, rfl, first, later⟩

/-- The code that is written is a copy if and only if every branch out of the range reaches. -/
theorem copies_movedCode_iff {n : Nat} {is : List Instruction} (range : BitVec 32 → Prop)
    (h : Covers build memory n it is) :
    Copies memory range it.pointer dst is (movedCode memory it.pointer dst is) ↔
      AllReach memory range it.pointer dst is := by
  induction h generalizing dst with
  | done it => exact ⟨fun _ => trivial, fun _ => .nil it.pointer dst⟩
  | next more first later ih =>
    rename_i n it it' i is
    obtain ⟨row, hd⟩ := decoded_of_decode first
    have hlater := @ih (i.nextAt dst)
    rw [pointer_of_decode first] at hlater
    have hfirst := hd.copy_iff range dst
    unfold AllReach
    rw [← hfirst, ← hlater]
    constructor
    · intro hcopies
      obtain ⟨chunk, rest, hout, hchunk, hrest⟩ := hcopies.cons_inv
      -- the chunks are cut at the instructions' lengths, so there is one way to cut them
      have hlength : (i.movedBytes memory it.pointer dst).length = chunk.length := by
        rw [hchunk.length, hd.length_movedBytes]
      obtain ⟨rfl, rfl⟩ := List.append_inj hout hlength
      exact ⟨hchunk, hrest⟩
    · intro ⟨hchunk, hrest⟩
      exact .cons hchunk hrest

/-- Only short branches matter. -/
theorem allReach_iff {n : Nat} {is : List Instruction} (range : BitVec 32 → Prop)
    (h : Covers build memory n it is) :
    AllReach memory range it.pointer dst is ↔
      ShortBranchesReach memory range it.pointer dst is := by
  induction h generalizing dst with
  | done it => exact Iff.rfl
  | next more first later ih =>
    rename_i n it it' i is
    obtain ⟨row, hd⟩ := decoded_of_decode first
    have hlater := @ih (i.nextAt dst)
    rw [pointer_of_decode first] at hlater
    have hfirst := hd.reaches_iff ((i.nextAt dst).setWidth 32) (i.target memory it.pointer)
    unfold AllReach ShortBranchesReach
    rw [hlater]
    refine and_congr_left fun _ => ⟨fun hreach hone hout => ?_, fun hreach hpos hout => ?_⟩
    · exact hfirst.mp (fun hpos => hreach hpos hout) hone
    · exact hfirst.mpr (fun hone => hreach hone hout) hpos

/-- `RelocateCode` moves what covers `minCodeBytes`, if that fits. -/
theorem relocateCode_of_covers {is : List Instruction}
    (h : Covers build memory minCodeBytes it is) (hfits : is ≠ [] → codeBytes is < maxBufferSize) :
    relocateCode build memory dst it minCodeBytes maxBufferSize =
      .ok (codeBytes is, movedCode memory it.pointer dst is) := by
  have hfits : is ≠ [] → 0 + codeBytes is < maxBufferSize := by rwa [Nat.zero_add]
  rw [relocateCode, relocateLoop_of_covers h rfl hfits, Nat.zero_add, List.nil_append]

/-- What `RelocateCode` has done when it returns. -/
theorem relocateCode_spec {n : Nat} {written : List UInt8}
    (h : relocateCode build memory dst it minCodeBytes maxBufferSize = .ok (n, written)) :
    ∃ is it', DecodesTo build memory it is it' ∧ written = movedCode memory it.pointer dst is ∧
      (is ≠ [] → codeBytes is.dropLast < minCodeBytes ∧ codeBytes is < maxBufferSize) ∧
      ((minCodeBytes ≤ codeBytes is ∧ n = codeBytes is) ∨
        (codeBytes is < minCodeBytes ∧ n = 0 ∧
          Stops build memory maxBufferSize it' (codeBytes is))) := by
  have hspec := relocateLoop_spec h
  simp only [Nat.zero_add, List.nil_append] at hspec
  exact hspec

/-- A positive result of `RelocateCode` comes from instructions that cover `minCodeBytes`
and fit. -/
theorem covers_of_relocateCode {n : Nat} {written : List UInt8}
    (h : relocateCode build memory dst it minCodeBytes maxBufferSize = .ok (n, written))
    (hpos : 0 < n) :
    ∃ is, Covers build memory minCodeBytes it is ∧ n = codeBytes is ∧ n < maxBufferSize ∧
      written = movedCode memory it.pointer dst is := by
  obtain ⟨is, it', hdecodes, hwritten, hlast, hresult⟩ := relocateCode_spec h
  rcases hresult with ⟨henough, hn⟩ | ⟨_, hzero, _⟩
  · -- no instruction at all would have given 0
    have hne : is ≠ [] := by
      rintro rfl
      rw [hn] at hpos
      exact absurd hpos (Nat.lt_irrefl 0)
    have hcovers := covers_iff.mpr ⟨⟨it', hdecodes⟩, henough, fun hne => (hlast hne).1⟩
    exact ⟨is, hcovers, hn, hn ▸ (hlast hne).2, hwritten⟩
  · omega

theorem codeBytes_pos {n : Nat} {is : List Instruction} (h : Covers build memory n it is)
    (hne : is ≠ []) : 0 < codeBytes is := by
  cases h with
  | done => exact absurd rfl hne
  | next _ first _ => exact Nat.lt_add_right _ (getSize_pos_of_decode first)

/-- `JE` over 16 bytes, then `MOV EAX,[ESP+8]`. -/
def shortBranch : Memory := holding 0x401000 [0x74, 0x10, 0x8b, 0x44, 0x24, 0x08]

end Giblet.CodeHook
