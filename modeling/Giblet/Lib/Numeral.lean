import Mathlib.Data.Nat.Digits.Lemmas
import Mathlib.Data.List.Basic

/-!
# Numeral — decimal numerals in memory

Printing integers (`ofNat`, `ofInt`) and scanning them back the way the C
library does: skip white space, take a sign, take digits, stop at the first
other byte. `scan` reads a piece of *memory*, not a string: it answers `none`
when it runs off the end of the memory before a byte stops it.

Main results:

* `scan_ofInt` — scanning a printed integer gives it back, if a byte that is
  no digit follows it;
* `scan_append` — a scan that stops does not see what lies further on;
* `scan_terminated_isSome` — on a NUL-terminated string every scan stops.
-/

namespace Numeral

/-! ## Printing -/

/-- The ASCII digit for a number below ten. -/
def digit (d : Nat) : UInt8 := UInt8.ofNat (48 + d)

/-- The decimal numeral of a natural number. -/
def ofNat (n : Nat) : List UInt8 :=
  -- `digits` gives zero no digit at all
  if n = 0 then [digit 0] else (Nat.digits 10 n).reverse.map digit

/-- The decimal numeral of an integer, as `std::to_string` prints it. -/
def ofInt : Int → List UInt8
  | .ofNat n => ofNat n
  | .negSucc n => 45 :: ofNat (n + 1)

example : ofInt (-2147483648) = [45, 50, 49, 52, 55, 52, 56, 51, 54, 52, 56] := by decide

/-! ## Scanning -/

def isDigit (c : UInt8) : Bool := 48 ≤ c.toNat && c.toNat ≤ 57

/-- `isspace` in the C locale. -/
def isSpace (c : UInt8) : Bool := c.toNat = 32 || (9 ≤ c.toNat && c.toNat ≤ 13)

/-- What a scan found: the number, and of how many digits it was made. -/
structure Scanned where
  value : Int
  digits : Nat
  deriving DecidableEq, Repr

/-- Take digits, with the value and the number of digits so far. -/
def scanDigits (value count : Nat) : List UInt8 → Option (Nat × Nat)
  -- the end of the memory, with nothing that stopped the scan
  | [] => none
  | c :: cs =>
    if isDigit c then scanDigits (10 * value + (c.toNat - 48)) (count + 1) cs
    else some (value, count)

/-- Take an optional sign, then digits. -/
def scanSigned : List UInt8 → Option Scanned
  | [] => none
  | c :: cs =>
    if c = 45 then (scanDigits 0 0 cs).map fun (v, n) => ⟨-(v : Int), n⟩
    else if c = 43 then (scanDigits 0 0 cs).map fun (v, n) => ⟨v, n⟩
    else (scanDigits 0 0 (c :: cs)).map fun (v, n) => ⟨v, n⟩

/-- Skip white space, then take a signed number. -/
def scan : List UInt8 → Option Scanned
  | [] => none
  | c :: cs => if isSpace c then scan cs else scanSigned (c :: cs)

/-! ## Scanning a printed number -/

theorem isDigit_digit {d : Nat} (h : d < 10) : isDigit (digit d) = true := by
  simp only [isDigit, digit, UInt8.toNat_ofNat', Bool.and_eq_true, decide_eq_true_eq]
  omega

theorem toNat_digit {d : Nat} (h : d < 10) : (digit d).toNat - 48 = d := by
  simp only [digit, UInt8.toNat_ofNat']
  omega

theorem scanDigits_map_digit {ds : List Nat} (hds : ∀ d ∈ ds, d < 10) {c : UInt8}
    (hc : isDigit c = false) (rest : List UInt8) (value count : Nat) :
    scanDigits value count (ds.map digit ++ c :: rest) =
      some (ds.foldl (fun v d => 10 * v + d) value, count + ds.length) := by
  -- on the digits; the byte behind them stops the scan
  induction ds generalizing value count with
  | nil => simp [scanDigits, hc]
  | cons d ds ih =>
    have hd := hds d (List.mem_cons_self ..)
    rw [List.map_cons, List.cons_append, scanDigits, if_pos (isDigit_digit hd), toNat_digit hd,
      ih fun x hx => hds x (List.mem_cons_of_mem _ hx)]
    simp only [List.foldl_cons, List.length_cons, Option.some.injEq, Prod.mk.injEq, true_and]
    omega

theorem foldl_digits (n : Nat) :
    (Nat.digits 10 n).reverse.foldl (fun v d => 10 * v + d) 0 = n := by
  -- the digits come back in the order of printing
  rw [List.foldl_reverse]
  calc (Nat.digits 10 n).foldr (fun d v => 10 * v + d) 0
      = Nat.ofDigits 10 (Nat.digits 10 n) := by
        induction Nat.digits 10 n with
        | nil => rfl
        | cons d ds ih => rw [List.foldr_cons, ih, Nat.ofDigits_cons, Nat.add_comm]
    _ = n := Nat.ofDigits_digits 10 n

/-- The numeral of a number is a nonempty list of digits that denote it. -/
theorem ofNat_eq_map (n : Nat) :
    ∃ ds : List Nat, ofNat n = ds.map digit ∧ ds ≠ [] ∧ (∀ d ∈ ds, d < 10) ∧
      ds.foldl (fun v d => 10 * v + d) 0 = n := by
  by_cases h : n = 0
  · exact ⟨[0], by simp [ofNat, h], by simp, by simp, by simp [h]⟩
  · refine ⟨(Nat.digits 10 n).reverse, by rw [ofNat, if_neg h], ?_, ?_, foldl_digits n⟩
    · rw [ne_eq, List.reverse_eq_nil_iff, Nat.digits_eq_nil_iff_eq_zero]
      exact h
    · intro d hd
      exact Nat.digits_lt_base (by decide) (List.mem_reverse.mp hd)

theorem ofNat_ne_nil (n : Nat) : ofNat n ≠ [] := by
  obtain ⟨ds, hEq, hNe, -, -⟩ := ofNat_eq_map n
  rw [hEq, ne_eq, List.map_eq_nil_iff]
  exact hNe

theorem isDigit_of_mem_ofNat {n : Nat} {c : UInt8} (h : c ∈ ofNat n) : isDigit c = true := by
  obtain ⟨ds, hEq, -, hLt, -⟩ := ofNat_eq_map n
  rw [hEq] at h
  obtain ⟨d, hd, rfl⟩ := List.mem_map.mp h
  exact isDigit_digit (hLt d hd)

/-- A numeral is made of digits and the minus sign. -/
theorem isDigit_or_minus_of_mem_ofInt {i : Int} {c : UInt8} (h : c ∈ ofInt i) :
    isDigit c = true ∨ c = 45 := by
  cases i with
  | ofNat n => exact .inl (isDigit_of_mem_ofNat h)
  | negSucc n =>
    rcases List.mem_cons.mp h with rfl | h
    · exact .inr rfl
    · exact .inl (isDigit_of_mem_ofNat h)

theorem ofInt_ne_nil (i : Int) : ofInt i ≠ [] := by
  cases i with
  | ofNat n => exact ofNat_ne_nil n
  | negSucc n => exact List.cons_ne_nil _ _

theorem scanDigits_ofNat (n : Nat) {c : UInt8} (hc : isDigit c = false) (rest : List UInt8) :
    ∃ k, scanDigits 0 0 (ofNat n ++ c :: rest) = some (n, k) := by
  obtain ⟨ds, hEq, -, hLt, hValue⟩ := ofNat_eq_map n
  exact ⟨0 + ds.length, by rw [hEq, scanDigits_map_digit hLt hc, hValue]⟩

/-- A byte that starts a numeral is neither white space nor a sign. -/
theorem of_isDigit {c : UInt8} (h : isDigit c = true) :
    isSpace c = false ∧ c ≠ 45 ∧ c ≠ 43 := by
  simp only [isDigit, Bool.and_eq_true, decide_eq_true_eq] at h
  refine ⟨?_, ?_, ?_⟩
  · simp only [isSpace, Bool.or_eq_false_iff, decide_eq_false_iff_not, Bool.and_eq_false_iff]
    omega
  · rintro rfl
    exact absurd h.1 (by decide)
  · rintro rfl
    exact absurd h.1 (by decide)

/-- **Round trip.** Scanning a printed integer gives the integer. -/
theorem scan_ofInt (i : Int) {c : UInt8} (hc : isDigit c = false) (rest : List UInt8) :
    ∃ k, scan (ofInt i ++ c :: rest) = some ⟨i, k⟩ := by
  cases i with
  | ofNat n =>
    obtain ⟨k, hk⟩ := scanDigits_ofNat n hc rest
    obtain ⟨d, ds, hCons⟩ := List.exists_cons_of_ne_nil (ofNat_ne_nil n)
    have hd : isDigit d = true :=
      isDigit_of_mem_ofNat (n := n) (by rw [hCons]; exact List.mem_cons_self ..)
    -- the first digit is no sign and no space, so the scan gets to the digits
    obtain ⟨hSpace, hMinus, hPlus⟩ := of_isDigit hd
    rw [hCons, List.cons_append] at hk
    refine ⟨k, ?_⟩
    simp only [ofInt, hCons, List.cons_append, scan, scanSigned, hSpace, hMinus, hPlus,
      Bool.false_eq_true, if_false, hk, Option.map_some, Int.ofNat_eq_natCast]
  | negSucc n =>
    obtain ⟨k, hk⟩ := scanDigits_ofNat (n + 1) hc rest
    refine ⟨k, ?_⟩
    have hSpace : isSpace 45 = false := by decide
    simp only [ofInt, List.cons_append, scan, scanSigned, hSpace, Bool.false_eq_true, if_false,
      if_true, hk, Option.map_some, Option.some.injEq, Scanned.mk.injEq, and_true]
    rw [Int.negSucc_eq]
    push_cast
    rfl

/-- Digits are only added to those that were counted. -/
theorem scanDigits_count {value count : Nat} {mem : List UInt8} {r : Nat × Nat}
    (h : scanDigits value count mem = some r) : count ≤ r.2 := by
  induction mem generalizing value count with
  | nil => cases h
  | cons c mem ih =>
    rw [scanDigits] at h
    split at h
    · exact Nat.le_of_succ_le (ih h)
    · cases h
      exact le_refl _

/-- A printed integer has digits to scan. -/
theorem scan_ofInt_digits (i : Int) {c : UInt8} (hc : isDigit c = false) (rest : List UInt8) :
    ∃ k, 0 < k ∧ scan (ofInt i ++ c :: rest) = some ⟨i, k⟩ := by
  obtain ⟨k, hk⟩ := scan_ofInt i hc rest
  refine ⟨k, ?_, hk⟩
  have hDigits {n k v : Nat} (h : scanDigits 0 0 (ofNat n ++ c :: rest) = some (v, k)) : 0 < k := by
    obtain ⟨d, ds, hCons⟩ := List.exists_cons_of_ne_nil (ofNat_ne_nil n)
    have hd : isDigit d = true :=
      isDigit_of_mem_ofNat (n := n) (by rw [hCons]; exact List.mem_cons_self ..)
    rw [hCons, List.cons_append, scanDigits, if_pos hd] at h
    exact scanDigits_count h
  cases i with
  | ofNat n =>
    obtain ⟨d, ds, hCons⟩ := List.exists_cons_of_ne_nil (ofNat_ne_nil n)
    have hd : isDigit d = true :=
      isDigit_of_mem_ofNat (n := n) (by rw [hCons]; exact List.mem_cons_self ..)
    obtain ⟨hSpace, hMinus, hPlus⟩ := of_isDigit hd
    simp only [ofInt, hCons, List.cons_append, scan, scanSigned, hSpace, hMinus, hPlus,
      Bool.false_eq_true, if_false] at hk
    obtain ⟨⟨v, k'⟩, hScan, hSame⟩ := Option.map_eq_some_iff.mp hk
    obtain rfl : k' = k := congrArg Scanned.digits hSame
    rw [← List.cons_append, ← hCons] at hScan
    exact hDigits hScan
  | negSucc n =>
    have hSpace : isSpace 45 = false := by decide
    simp only [ofInt, List.cons_append, scan, scanSigned, hSpace, Bool.false_eq_true, if_false,
      if_true] at hk
    obtain ⟨⟨v, k'⟩, hScan, hSame⟩ := Option.map_eq_some_iff.mp hk
    obtain rfl : k' = k := congrArg Scanned.digits hSame
    exact hDigits hScan

/-- A numeral has as many digits as the number needs. -/
theorem length_ofNat_le {n k : Nat} (hk : 0 < k) (hn : n < 10 ^ k) : (ofNat n).length ≤ k := by
  unfold ofNat
  split
  · exact hk
  · rw [List.length_map, List.length_reverse]
    exact (Nat.digits_length_le_iff (by decide) n).mpr hn

theorem length_ofInt_le {i : Int} {k : Nat} (hk : 0 < k) (hi : i.natAbs < 10 ^ k) :
    (ofInt i).length ≤ k + 1 := by
  cases i with
  | ofNat n => exact Nat.le_succ_of_le (length_ofNat_le hk hi)
  | negSucc n => exact Nat.succ_le_succ (length_ofNat_le hk hi)

/-- Different numbers are printed differently. -/
theorem ofNat_injective : Function.Injective ofNat := by
  intro m n h
  have hc : isDigit 0 = false := by decide
  obtain ⟨k, hm⟩ := scanDigits_ofNat m hc []
  obtain ⟨l, hn⟩ := scanDigits_ofNat n hc []
  rw [h, hn] at hm
  cases hm
  rfl

/-! ## What a scan sees of memory -/

theorem scanDigits_append {value count : Nat} {mem : List UInt8} {r : Nat × Nat}
    (h : scanDigits value count mem = some r) (more : List UInt8) :
    scanDigits value count (mem ++ more) = some r := by
  induction mem generalizing value count with
  | nil => simp [scanDigits] at h
  | cons c cs ih =>
    rw [List.cons_append]
    simp only [scanDigits] at h ⊢
    split at h
    · rw [if_pos ‹_›]
      exact ih h
    · rw [if_neg ‹_›]
      exact h

theorem scanSigned_append {mem : List UInt8} {r : Scanned} (h : scanSigned mem = some r)
    (more : List UInt8) : scanSigned (mem ++ more) = some r := by
  cases mem with
  | nil => simp [scanSigned] at h
  | cons c cs =>
    rw [List.cons_append]
    simp only [scanSigned] at h ⊢
    split_ifs at h ⊢ with hMinus hPlus
    -- each of the three branches scans digits
    all_goals
      obtain ⟨p, hp, hr⟩ := Option.map_eq_some_iff.mp h
      refine Option.map_eq_some_iff.mpr ⟨p, ?_, hr⟩
    · exact scanDigits_append hp more
    · exact scanDigits_append hp more
    · exact scanDigits_append hp more

/-- A scan that stopped does not depend on the memory further on. -/
theorem scan_append {mem : List UInt8} {r : Scanned} (h : scan mem = some r)
    (more : List UInt8) : scan (mem ++ more) = some r := by
  induction mem with
  | nil => simp [scan] at h
  | cons c cs ih =>
    rw [List.cons_append]
    simp only [scan] at h ⊢
    split at h
    · rw [if_pos ‹_›]
      exact ih h
    · rw [if_neg ‹_›]
      exact scanSigned_append h more

theorem scanDigits_terminated_isSome (value count : Nat) (str more : List UInt8) :
    (scanDigits value count (str ++ 0 :: more)).isSome = true := by
  induction str generalizing value count with
  | nil => rfl
  | cons c cs ih =>
    rw [List.cons_append, scanDigits]
    split
    · exact ih ..
    · rfl

/-- A scan of a NUL-terminated string stops. -/
theorem scan_terminated_isSome (str more : List UInt8) :
    (scan (str ++ 0 :: more)).isSome = true := by
  induction str with
  | nil => rfl
  | cons c cs ih =>
    rw [List.cons_append, scan]
    split
    · exact ih
    · simp only [scanSigned]
      split_ifs
      · rw [Option.isSome_map]
        exact scanDigits_terminated_isSome ..
      · rw [Option.isSome_map]
        exact scanDigits_terminated_isSome ..
      · rw [Option.isSome_map, ← List.cons_append]
        exact scanDigits_terminated_isSome ..

end Numeral
