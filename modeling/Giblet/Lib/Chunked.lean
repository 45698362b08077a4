import Mathlib.Data.Nat.Digits.Lemmas
import Mathlib.Tactic.Common

/-!
# Chunked — bodies in pieces, each with its size in front

A body is written piece by piece, each one between a line with its size, in
hexadecimal digits, and an empty one; the size zero ends it. So an empty piece
ends it, too.

* `Reads.unique` — a text begins with one body at most.
* `reads_iff` — what was written is read, unless a piece is empty.
-/

namespace Chunked

/-! ## Sizes -/

/-- The digit for a number below sixteen, in upper case. -/
def hexDigit (d : Nat) : UInt8 := UInt8.ofNat (if d < 10 then 48 + d else 55 + d)

/-- What a digit stands for. -/
def hexValue (c : UInt8) : Option Nat :=
  if 48 ≤ c ∧ c ≤ 57 then some (c.toNat - 48)
  else if 65 ≤ c ∧ c ≤ 70 then some (c.toNat - 55)
  else if 97 ≤ c ∧ c ≤ 102 then some (c.toNat - 87)
  else none

/-- A number in hexadecimal digits. -/
def hex (n : Nat) : List UInt8 :=
  -- `digits` gives zero no digit at all
  if n = 0 then [hexDigit 0] else (Nat.digits 16 n).reverse.map hexDigit

/-- The number that digits denote, behind those that were read. -/
def numberFrom (value : Nat) (line : List UInt8) : Option Nat :=
  line.foldlM (fun value c => (hexValue c).map (16 * value + ·)) value

/-- The number of a line that has digits, and nothing else. -/
def number (line : List UInt8) : Option Nat := if line = [] then none else numberFrom 0 line

theorem hexValue_hexDigit {d : Nat} (h : d < 16) : hexValue (hexDigit d) = some d := by
  have hAll : ∀ d < 16, hexValue (hexDigit d) = some d := by decide +kernel
  exact hAll d h

theorem numberFrom_map_hexDigit {ds : List Nat} (h : ∀ d ∈ ds, d < 16) (value : Nat) :
    numberFrom value (ds.map hexDigit) = some (ds.foldl (fun value d => 16 * value + d) value) := by
  induction ds generalizing value with
  | nil => rfl
  | cons d ds ih =>
    obtain ⟨hFirst, hRest⟩ := List.forall_mem_cons.mp h
    rw [List.map_cons, numberFrom, List.foldlM_cons, hexValue_hexDigit hFirst]
    exact ih hRest (16 * value + d)

theorem foldl_digits (n : Nat) :
    (Nat.digits 16 n).reverse.foldl (fun value d => 16 * value + d) 0 = n := by
  rw [List.foldl_reverse]
  calc (Nat.digits 16 n).foldr (fun d value => 16 * value + d) 0
      = Nat.ofDigits 16 (Nat.digits 16 n) := by
        induction Nat.digits 16 n with
        | nil => rfl
        | cons d ds ih => rw [List.foldr_cons, ih, Nat.ofDigits_cons, Nat.add_comm]
    _ = n := Nat.ofDigits_digits 16 n

/-- **A size that was written is read.** -/
theorem number_hex (n : Nat) : number (hex n) = some n := by
  unfold hex
  split
  · rename_i hZero
    rw [hZero]
    rfl
  · rename_i hPos
    have hSome : (Nat.digits 16 n).reverse.map hexDigit ≠ [] := by
      rw [ne_eq, List.map_eq_nil_iff, List.reverse_eq_nil_iff, Nat.digits_eq_nil_iff_eq_zero]
      exact hPos
    rw [number, if_neg hSome, numberFrom_map_hexDigit, foldl_digits]
    exact fun d hd => Nat.digits_lt_base (by decide) (List.mem_reverse.mp hd)

theorem hexValue_of_numberFrom {value n : Nat} {line : List UInt8}
    (h : numberFrom value line = some n) : ∀ c ∈ line, (hexValue c).isSome = true := by
  induction line generalizing value with
  | nil => nofun
  | cons c line ih =>
    rw [numberFrom, List.foldlM_cons] at h
    obtain ⟨next, hFirst, hRest⟩ := Option.bind_eq_some_iff.mp h
    refine List.forall_mem_cons.mpr ⟨?_, ih hRest⟩
    obtain ⟨d, hd, -⟩ := Option.map_eq_some_iff.mp hFirst
    rw [hd]
    rfl

/-- The line of a size has digits, and nothing else. -/
theorem hexValue_of_number {n : Nat} {line : List UInt8} (h : number line = some n) :
    line ≠ [] ∧ ∀ c ∈ line, (hexValue c).isSome = true := by
  unfold number at h
  split at h
  · cases h
  · exact ⟨by assumption, hexValue_of_numberFrom h⟩

/-! ## Pieces -/

def endOfLine : List UInt8 := [13, 10]

/-- A piece, written. -/
def chunk (data : List UInt8) : List UInt8 := hex data.length ++ (endOfLine ++ (data ++ endOfLine))

/-- The end of a body. -/
def last : List UInt8 := hex 0 ++ (endOfLine ++ endOfLine)

/-- A text begins with a body in pieces, and goes on with a rest. -/
inductive Reads : List UInt8 → List UInt8 → List UInt8 → Prop
  | last {line rest : List UInt8} (hSize : number line = some 0) :
      Reads (line ++ (endOfLine ++ (endOfLine ++ rest))) [] rest
  | chunk {line data text body rest : List UInt8} (hSize : number line = some data.length)
      (hSome : data ≠ []) (later : Reads text body rest) :
      Reads (line ++ (endOfLine ++ (data ++ (endOfLine ++ text)))) (data ++ body) rest

/-- A size ends with its line. -/
theorem line_unique {line line' after after' : List UInt8} {n n' : Nat}
    (hSize : number line = some n) (hSize' : number line' = some n')
    (h : line ++ (endOfLine ++ after) = line' ++ (endOfLine ++ after')) :
    line = line' ∧ after = after' := by
  have hTake {line after : List UInt8} {n : Nat} (hSize : number line = some n) :
      (line ++ (endOfLine ++ after)).takeWhile (· ≠ 13) = line := by
    have hDigits : ∀ c ∈ line, decide (c ≠ 13) = true := fun c hc => decide_eq_true fun hEnd => by
      have hValue := (hexValue_of_number hSize).2 c hc
      rw [hEnd] at hValue
      cases hValue
    rw [List.takeWhile_append_of_pos hDigits, endOfLine, List.cons_append,
      List.takeWhile_cons_of_neg (by decide), List.append_nil]
  have hLine : line = line' := by rw [← hTake hSize, h, hTake hSize']
  subst hLine
  exact ⟨rfl, List.append_cancel_left (List.append_cancel_left h)⟩

/-- **A text begins with one body** at most. -/
theorem Reads.unique {text body body' rest rest' : List UInt8} (h : Reads text body rest)
    (h' : Reads text body' rest') : body = body' ∧ rest = rest' := by
  generalize hText : text = text' at h'
  induction h generalizing text' body' with
  | last hSize =>
    cases h' with
    | last hSize' =>
      obtain ⟨-, hAfter⟩ := line_unique hSize hSize' hText
      exact ⟨rfl, List.append_cancel_left hAfter⟩
    | chunk hSize' hSome =>
      obtain ⟨rfl, -⟩ := line_unique hSize hSize' hText
      exact absurd (List.length_eq_zero_iff.mp (Option.some.inj (hSize'.symm.trans hSize))) hSome
  | chunk hSize hSome _ ih =>
    cases h' with
    | last hSize' =>
      obtain ⟨rfl, -⟩ := line_unique hSize hSize' hText
      exact absurd (List.length_eq_zero_iff.mp (Option.some.inj (hSize.symm.trans hSize'))) hSome
    | chunk hSize' _ later' =>
      obtain ⟨rfl, hAfter⟩ := line_unique hSize hSize' hText
      obtain ⟨rfl, hLater⟩ :=
        List.append_inj hAfter (Option.some.inj (hSize.symm.trans hSize'))
      obtain ⟨rfl, rfl⟩ := ih _ (List.append_cancel_left hLater) later'
      exact ⟨rfl, rfl⟩

/-! ## What was written -/

/-- Pieces that are not empty are read. -/
theorem reads_chunks {pieces : List (List UInt8)} (h : [] ∉ pieces) (rest : List UInt8) :
    Reads (pieces.flatMap chunk ++ (last ++ rest)) pieces.flatten rest := by
  induction pieces with
  | nil =>
    have hLast : Reads (hex 0 ++ endOfLine ++ endOfLine ++ rest) [] rest :=
      Reads.last (number_hex 0)
    simpa only [last, List.append_assoc, List.flatMap_nil, List.nil_append, List.flatten_nil]
      using hLast
  | cons data pieces ih =>
    obtain ⟨hFirst, hRest⟩ := not_or.mp (List.mem_cons.not.mp h)
    have hChunk := Reads.chunk (number_hex data.length) (Ne.symm hFirst) (ih hRest)
    simpa only [chunk, List.append_assoc, List.flatMap_cons, List.flatten_cons] using hChunk

/-- An empty piece is the end. -/
theorem reads_cut {front back : List (List UInt8)} (h : [] ∉ front) (rest : List UInt8) :
    Reads ((front ++ [] :: back).flatMap chunk ++ (last ++ rest)) front.flatten
      (back.flatMap chunk ++ (last ++ rest)) := by
  have hEmpty : chunk [] = last := rfl
  have hFront := reads_chunks h (back.flatMap chunk ++ (last ++ rest))
  simpa only [List.flatMap_append, List.flatMap_cons, List.append_assoc, hEmpty] using hFront

/-- **What was written is read**, and nothing else of the text is, exactly when no piece is
empty. -/
theorem reads_iff (pieces : List (List UInt8)) (rest : List UInt8) :
    (∃ body, Reads (pieces.flatMap chunk ++ (last ++ rest)) body rest) ↔ [] ∉ pieces := by
  constructor
  · rintro ⟨body, hReads⟩ hEmpty
    obtain ⟨front, back, rfl, hFront⟩ := List.eq_append_cons_of_mem hEmpty
    obtain ⟨-, hRest⟩ := hReads.unique (reads_cut hFront rest)
    -- the end would be left over
    have hLength := congrArg List.length hRest
    have hLast : 0 < last.length := by decide
    simp only [List.length_append] at hLength
    omega
  · exact fun h => ⟨_, reads_chunks h rest⟩

/-- What was written begins with a digit. -/
theorem begins_hex (pieces : List (List UInt8)) (rest : List UInt8) :
    ∃ c text, pieces.flatMap chunk ++ (last ++ rest) = c :: text ∧ (hexValue c).isSome = true := by
  have hSize (n : Nat) (after : List UInt8) :
      ∃ c text, hex n ++ after = c :: text ∧ (hexValue c).isSome = true := by
    obtain ⟨hSome, hDigits⟩ := hexValue_of_number (number_hex n)
    obtain ⟨c, line, hLine⟩ := List.exists_cons_of_ne_nil hSome
    refine ⟨c, line ++ after, by rw [hLine, List.cons_append], hDigits c ?_⟩
    rw [hLine]
    exact List.mem_cons_self
  cases pieces with
  | nil =>
    rw [List.flatMap_nil, List.nil_append, last, List.append_assoc]
    exact hSize _ _
  | cons data pieces =>
    rw [List.flatMap_cons, chunk, List.append_assoc, List.append_assoc]
    exact hSize _ _

end Chunked
