import Giblet.CodeHook.Decoded
import Mathlib.Data.Nat.Find

/-!
# CodeHook — the prefix array

`m_PrefixBytes` has room for four prefixes, and `ProcessPrefix` stores one
for each prefix byte it sees. `PrefixLoop` is that loop with its indices;
`processPrefix`, which decoding uses, is the loop as long as the array has
room, and undefined behaviour afterwards (`processPrefix_eq_ok_iff`,
`processPrefix_undefined_iff`).

The stores stay in the array if and only if one of the first five bytes is no
prefix (`prefixesInArray_iff`).
-/

namespace Giblet.CodeHook

open ByteStream Effect Instruction

variable {build : Build} {memory : Memory} {it it' : OpcodeIterator}

/-! ## The loop -/

/-- The stores of the loop, as index and byte, when `count` prefixes are stored already, and
where it stops. The array's size plays no part in it. -/
inductive PrefixLoop (memory : Memory) :
    Nat → OpcodeIterator → List (Nat × UInt8) → OpcodeIterator → Prop
  | stop {count it} (other : isPrefixByte (it.at memory 0) = false) :
      PrefixLoop memory count it [] it
  | store {count it stores it'} (first : isPrefixByte (it.at memory 0) = true)
      (later : PrefixLoop memory (count + 1) (it.advance 1) stores it') :
      PrefixLoop memory count it ((count, it.at memory 0) :: stores) it'

/-- What `ProcessPrefix` and `Emit` may do with the array: the loop ends at the first byte that
is no prefix, and neither stores nor reads past the array's end. -/
structure PrefixesInArray (memory : Memory) (it : OpcodeIterator) : Prop where
  ends : ∃ stores it', PrefixLoop memory 0 it stores it' ∧
    it'.pointer = it.pointer + stores.length ∧
    (∀ k < stores.length, isPrefixByte (it.at memory k) = true) ∧
    isPrefixByte (it.at memory stores.length) = false ∧
    (∀ s ∈ stores, s.1 < maxPrefixBytes) ∧ stores.length ≤ maxPrefixBytes
  reads : ∀ build i it', decode build memory {} it = .ok (true, i, it') →
    ∀ index < i.prefixBytes.length, index < maxPrefixBytes

/-- There are no more prefixes than the array holds. -/
def FewPrefixes (memory : Memory) (it : OpcodeIterator) : Prop :=
  ∃ n ≤ maxPrefixBytes, isPrefixByte (it.at memory n) = false

namespace PrefixLoop

variable {count : Nat} {stores : List (Nat × UInt8)}

/-- The rest of the loop sees the same bytes one index earlier. -/
theorem at_advance_one (k : Nat) : (it.advance 1).at memory k = it.at memory (k + 1) := by
  rw [OpcodeIterator.at_advance, Nat.add_comm]

/-- The loop stops behind what it stored, at the first byte that is no prefix. -/
theorem stops (h : PrefixLoop memory count it stores it') :
    it'.pointer = it.pointer + stores.length ∧
      (∀ k < stores.length, isPrefixByte (it.at memory k) = true) ∧
      isPrefixByte (it.at memory stores.length) = false := by
  induction h with
  | stop other => exact ⟨rfl, fun k hk => absurd hk (Nat.not_lt_zero k), other⟩
  | store first _ ih =>
    rename_i count it stores it' _
    obtain ⟨hstop, hall, hother⟩ := ih
    refine ⟨?_, ?_, ?_⟩
    · rw [hstop, OpcodeIterator.pointer_advance, List.length_cons]
      omega
    · intro k hk
      rcases k with _ | k
      · exact first
      · rw [← at_advance_one]
        exact hall k (Nat.lt_of_succ_lt_succ hk)
    · rw [List.length_cons, ← at_advance_one]
      exact hother

/-- The stores go to one index after the other. -/
theorem index_lt (h : PrefixLoop memory count it stores it') :
    ∀ s ∈ stores, s.1 < count + stores.length := by
  induction h with
  | stop => exact fun s hs => absurd hs List.not_mem_nil
  | store _ _ ih =>
    rename_i count it stores it' _ _
    intro s hs
    rw [List.length_cons]
    rcases List.mem_cons.mp hs with rfl | hs
    · show count < count + (stores.length + 1)
      omega
    · have := ih s hs
      omega

/-- Where there is no prefix, the loop stops at once. -/
theorem stop_iff (hother : isPrefixByte (it.at memory 0) = false) :
    PrefixLoop memory count it stores it' ↔ stores = [] ∧ it' = it := by
  constructor
  · intro h
    cases h with
    | stop => exact ⟨rfl, rfl⟩
    | store first => exact absurd first (Bool.eq_false_iff.mp hother)
  · rintro ⟨rfl, rfl⟩
    exact .stop hother

/-- A prefix is stored. -/
theorem store_iff (hfirst : isPrefixByte (it.at memory 0) = true) :
    PrefixLoop memory count it stores it' ↔
      ∃ later, stores = (count, it.at memory 0) :: later ∧
        PrefixLoop memory (count + 1) (it.advance 1) later it' := by
  constructor
  · intro h
    cases h with
    | stop other => exact absurd hfirst (Bool.eq_false_iff.mp other)
    | store _ later => exact ⟨_, rfl, later⟩
  · rintro ⟨later, rfl, hlater⟩
    exact .store hfirst hlater

/-- Where the prefixes end, the loop ends. -/
theorem exists_of_stop {n : Nat} (hall : ∀ k < n, isPrefixByte (it.at memory k) = true)
    (hother : isPrefixByte (it.at memory n) = false) (count : Nat) :
    ∃ stores it', PrefixLoop memory count it stores it' ∧ stores.length = n := by
  induction n generalizing it count with
  | zero => exact ⟨[], it, .stop hother, rfl⟩
  | succ n ih =>
    have hlater : ∀ k < n, isPrefixByte ((it.advance 1).at memory k) = true := by
      intro k hk
      rw [at_advance_one]
      exact hall (k + 1) (by omega)
    have hend : isPrefixByte ((it.advance 1).at memory n) = false := by
      rw [at_advance_one]
      exact hother
    obtain ⟨stores, it', hloop, hlength⟩ := ih hlater hend (count + 1)
    exact ⟨_, it', .store (hall 0 (by omega)) hloop, by rw [List.length_cons, hlength]⟩

end PrefixLoop

/-! ## Decoding's prefixes are the loop's -/

theorem processPrefix_other (hother : isPrefixByte (it.at memory 0) = false) (room : Nat) :
    processPrefix memory room it = .ok ([], it) := by
  rcases room with _ | room <;> rw [processPrefix, if_neg (Bool.eq_false_iff.mp hother)] <;> rfl

/-- As long as there is room, `processPrefix` is the loop. -/
theorem processPrefix_eq_ok_iff {room : Nat} {bytes : List UInt8} (count : Nat) :
    processPrefix memory room it = .ok (bytes, it') ↔
      ∃ stores, PrefixLoop memory count it stores it' ∧ stores.map Prod.snd = bytes ∧
        stores.length ≤ room := by
  induction room generalizing it bytes count with
  | zero =>
    cases hpre : isPrefixByte (it.at memory 0)
    · rw [processPrefix_other hpre]
      simp [PrefixLoop.stop_iff hpre, eq_comm, and_comm]
    · rw [processPrefix, if_pos hpre]
      refine iff_of_false (by simp) ?_
      -- with a prefix there, something would have been stored
      rintro ⟨stores, hloop, -, hroom⟩
      obtain ⟨later, rfl, -⟩ := (PrefixLoop.store_iff hpre).mp hloop
      exact Nat.not_succ_le_zero _ hroom
  | succ room ih =>
    cases hpre : isPrefixByte (it.at memory 0)
    · rw [processPrefix_other hpre]
      simp [PrefixLoop.stop_iff hpre, eq_comm, and_comm]
    · rw [processPrefix, if_pos hpre]
      constructor
      · intro h
        obtain ⟨⟨rest, iter⟩, hrest, h⟩ := except_bind_eq_ok h
        obtain ⟨rfl, rfl⟩ := Prod.mk.inj (Except.ok.inj h)
        obtain ⟨stores, hloop, hbytes, hroom⟩ := (ih (count + 1)).mp hrest
        refine ⟨_, .store hpre hloop, ?_, Nat.succ_le_succ hroom⟩
        rw [List.map_cons, hbytes]
      · rintro ⟨stores, hloop, rfl, hroom⟩
        obtain ⟨later, rfl, hlater⟩ := (PrefixLoop.store_iff hpre).mp hloop
        have hrest := (ih (count + 1)).mpr ⟨later, hlater, rfl, Nat.le_of_succ_le_succ hroom⟩
        rw [hrest]
        rfl

/-- It faults exactly when the prefixes fill the array and one more follows. -/
theorem processPrefix_undefined_iff {room : Nat} :
    processPrefix memory room it = .error .undefined ↔
      ∀ k ≤ room, isPrefixByte (it.at memory k) = true := by
  induction room generalizing it with
  | zero =>
    have hfirst : (∀ k ≤ 0, isPrefixByte (it.at memory k) = true) ↔
        isPrefixByte (it.at memory 0) = true :=
      ⟨fun hall => hall 0 (Nat.le_refl 0), fun h k hk => Nat.le_zero.mp hk ▸ h⟩
    rw [hfirst]
    cases hpre : isPrefixByte (it.at memory 0)
    · rw [processPrefix_other hpre]
      simp
    · rw [processPrefix, if_pos hpre]
      exact iff_of_true rfl rfl
  | succ room ih =>
    cases hpre : isPrefixByte (it.at memory 0)
    · rw [processPrefix_other hpre]
      refine iff_of_false (by simp) fun hall => ?_
      exact Bool.eq_false_iff.mp hpre (hall 0 (Nat.zero_le _))
    · rw [processPrefix, if_pos hpre]
      -- the rest of the prefixes, one index later
      have hlater : (∀ k ≤ room + 1, isPrefixByte (it.at memory k) = true) ↔
          ∀ k ≤ room, isPrefixByte ((it.advance 1).at memory k) = true := by
        constructor
        · intro hall k hk
          rw [PrefixLoop.at_advance_one]
          exact hall (k + 1) (by omega)
        · intro hall k hk
          rcases k with _ | k
          · exact hpre
          · rw [← PrefixLoop.at_advance_one]
            exact hall k (by omega)
      rw [hlater, ← ih]
      cases processPrefix memory room (it.advance 1) <;> simp [bind, Except.bind, pure, Except.pure]

/-! ## The array's bound -/

/-- The first byte that is no prefix lies behind few prefixes. -/
theorem FewPrefixes.first (h : FewPrefixes memory it) :
    ∃ n ≤ maxPrefixBytes, (∀ k < n, isPrefixByte (it.at memory k) = true) ∧
      isPrefixByte (it.at memory n) = false := by
  obtain ⟨n, hn, hother⟩ := h
  -- the least such index
  have hexists : ∃ k, isPrefixByte (it.at memory k) = false := ⟨n, hother⟩
  refine ⟨Nat.find hexists, Nat.le_trans (Nat.find_min' hexists hother) hn, ?_,
    Nat.find_spec hexists⟩
  intro k hk
  exact eq_true_of_ne_false (Nat.find_min hexists hk)

/-- Few prefixes are all stored. -/
theorem processPrefix_of_few (h : FewPrefixes memory it) :
    ∃ bytes, processPrefix memory maxPrefixBytes it = .ok (bytes, it.advance bytes.length) := by
  obtain ⟨n, hn, hall, hother⟩ := h.first
  obtain ⟨stores, it', hloop, rfl⟩ := PrefixLoop.exists_of_stop hall hother 0
  have hstop : it' = it.advance (stores.map Prod.snd).length := by
    obtain ⟨pointer, notNull⟩ := it'
    have hpointer : pointer = it.pointer + stores.length := hloop.stops.1
    subst hpointer
    rw [OpcodeIterator.mk.injEq, List.length_map]
    rfl
  refine ⟨stores.map Prod.snd, ?_⟩
  rw [← hstop]
  exact (processPrefix_eq_ok_iff 0).mpr ⟨stores, hloop, rfl, hn⟩

/-- **The prefixes stay in their array exactly when they are few.** -/
theorem prefixesInArray_iff (memory : Memory) (it : OpcodeIterator) :
    PrefixesInArray memory it ↔ FewPrefixes memory it := by
  constructor
  · intro h
    obtain ⟨stores, _, _, _, _, hother, _, hcount⟩ := h.ends
    exact ⟨stores.length, hcount, hother⟩
  · intro h
    obtain ⟨n, hn, hall, hother⟩ := h.first
    obtain ⟨stores, it', hloop, rfl⟩ := PrefixLoop.exists_of_stop hall hother 0
    refine ⟨⟨stores, it', hloop, hloop.stops.1, hall, hother, fun s hs => ?_, hn⟩, ?_⟩
    · have hindex := hloop.index_lt s hs
      omega
    · intro build i it' hdecode index hindex
      obtain ⟨row, hd⟩ := decoded_of_decode hdecode
      exact Nat.lt_of_lt_of_le hindex hd.prefixCount

/-- Five operand size prefixes and `NOP`. -/
def fivePrefixes : Memory := holding 0x401000 [0x66, 0x66, 0x66, 0x66, 0x66, 0x90]

/-- The fifth prefix has no place in the array. -/
theorem fivePrefixes_overrun : ¬PrefixesInArray fivePrefixes codeStart := by
  intro h
  obtain ⟨stores, _, _, _, hall, hother, _, hcount⟩ := h.ends
  have hfive : ∀ k ≤ maxPrefixBytes, isPrefixByte (codeStart.at fivePrefixes k) = true := by
    decide +kernel
  rw [hfive _ hcount] at hother
  cases hother

end Giblet.CodeHook
