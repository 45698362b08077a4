import Mathlib.Algebra.Group.Nat.Defs
import Mathlib.Data.List.Basic
import Mathlib.Tactic.Common

/-!
# ByteStream — reading a byte-addressed store

* `slice` — the bytes from an address on;
* `Takes memory a bytes b` — a reader that stands at `a` takes `bytes` and
  then stands at `b`. Readers compose by `Takes.append`;
* `write` — the store after some bytes were written; what it does to slices.
* `word`, `wordBytes` — numbers as little-endian bytes, inverse to each
  other (`wordBytes_word`, `word_wordBytes`).
-/

namespace ByteStream

variable {memory : Nat → UInt8} {a b c : Nat} {xs ys : List UInt8}

/-! ## Slices -/

/-- The `n` bytes from address `a` on. -/
def slice (memory : Nat → UInt8) (a : Nat) : Nat → List UInt8
  | 0 => []
  | n + 1 => memory a :: slice memory (a + 1) n

@[simp] theorem slice_zero (memory : Nat → UInt8) (a : Nat) : slice memory a 0 = [] := rfl

@[simp] theorem length_slice (memory : Nat → UInt8) (a n : Nat) :
    (slice memory a n).length = n := by
  induction n generalizing a with
  | zero => rfl
  | succ n ih => rw [slice, List.length_cons, ih]

theorem slice_add (memory : Nat → UInt8) (a m n : Nat) :
    slice memory a (m + n) = slice memory a m ++ slice memory (a + m) n := by
  induction m generalizing a with
  | zero => rw [Nat.zero_add, slice_zero, List.nil_append, Nat.add_zero]
  | succ m ih =>
    rw [Nat.succ_add, slice, slice, List.cons_append, ih,
      show a + 1 + m = a + (m + 1) by omega]

theorem mem_slice (memory : Nat → UInt8) (a : Nat) {k n : Nat} (hk : k < n) :
    memory (a + k) ∈ slice memory a n := by
  induction n generalizing a k with
  | zero => omega
  | succ n ih =>
    rw [slice]
    cases k with
    | zero => exact List.mem_cons_self ..
    | succ k =>
      rw [show a + (k + 1) = a + 1 + k by omega]
      exact List.mem_cons_of_mem _ (ih (a + 1) (by omega))

/-! ## Readers -/

/-- A reader at `a` takes the bytes `xs` and stands at `b` afterwards. -/
structure Takes (memory : Nat → UInt8) (a : Nat) (xs : List UInt8) (b : Nat) : Prop where
  stop : b = a + xs.length
  taken : slice memory a xs.length = xs

theorem Takes.nil (memory : Nat → UInt8) (a : Nat) : Takes memory a [] a := ⟨rfl, rfl⟩

theorem Takes.one (memory : Nat → UInt8) (a : Nat) : Takes memory a [memory a] (a + 1) :=
  ⟨rfl, rfl⟩

theorem Takes.slice (memory : Nat → UInt8) (a n : Nat) :
    Takes memory a (slice memory a n) (a + n) :=
  ⟨by rw [length_slice], by rw [length_slice]⟩

theorem Takes.append (h : Takes memory a xs b) (h' : Takes memory b ys c) :
    Takes memory a (xs ++ ys) c := by
  refine ⟨?_, ?_⟩
  · rw [h'.stop, h.stop, List.length_append, Nat.add_assoc]
  · rw [List.length_append, slice_add, h.taken, ← h.stop, h'.taken]

/-! ## Writing -/

/-- The store after the bytes `xs` were written from address `a` on. -/
def write (memory : Nat → UInt8) (a : Nat) (xs : List UInt8) : Nat → UInt8 := fun x =>
  if a ≤ x ∧ x < a + xs.length then xs.getD (x - a) 0 else memory x

theorem write_outside {x : Nat} (h : ¬(a ≤ x ∧ x < a + xs.length)) :
    write memory a xs x = memory x := if_neg h

theorem slice_congr {memory' : Nat → UInt8} {n : Nat}
    (h : ∀ x, a ≤ x → x < a + n → memory x = memory' x) :
    slice memory a n = slice memory' a n := by
  induction n generalizing a with
  | zero => rfl
  | succ n ih =>
    rw [slice, slice, h a (Nat.le_refl a) (by omega),
      ih fun x hlow hhigh => h x (by omega) (by omega)]

/-- What was written is there. -/
theorem slice_write (memory : Nat → UInt8) (a : Nat) (xs : List UInt8) :
    slice (write memory a xs) a xs.length = xs := by
  -- the first byte, and the others as a write one address further on
  induction xs generalizing a memory with
  | nil => rfl
  | cons x xs ih =>
    have hfirst : write memory a (x :: xs) a = x := by simp [write]
    have hrest : slice (write memory a (x :: xs)) (a + 1) xs.length =
        slice (write memory (a + 1) xs) (a + 1) xs.length := by
      refine slice_congr fun y hlow hhigh => ?_
      unfold write
      rw [if_pos ⟨by omega, by rw [List.length_cons]; omega⟩, if_pos ⟨hlow, hhigh⟩,
        show y - a = (y - (a + 1)) + 1 by omega, List.getD_cons_succ]
    rw [List.length_cons, slice, hfirst, hrest, ih]

/-- What lies elsewhere is still there. -/
theorem slice_write_outside (memory : Nat → UInt8) {n : Nat} (h : b + n ≤ a ∨ a + xs.length ≤ b) :
    slice (write memory a xs) b n = slice memory b n :=
  slice_congr fun x hlow hhigh => write_outside (by omega)

/-! ## Little-endian words -/

/-- The number that little-endian bytes write. -/
def word : List UInt8 → Nat
  | [] => 0
  | x :: xs => x.toNat + 256 * word xs

/-- The `n` low bytes of a number, little-endian. -/
def wordBytes : Nat → Nat → List UInt8
  | 0, _ => []
  | n + 1, v => UInt8.ofNat v :: wordBytes n (v / 256)

@[simp] theorem length_wordBytes (n v : Nat) : (wordBytes n v).length = n := by
  induction n generalizing v with
  | zero => rfl
  | succ n ih => rw [wordBytes, List.length_cons, ih]

theorem word_lt (xs : List UInt8) : word xs < 2 ^ (8 * xs.length) := by
  -- the first byte is the lowest, so it is what is left of a multiple of 256
  induction xs with
  | nil => exact Nat.one_pos
  | cons x xs ih =>
    have hx : x.toNat < 256 := x.toNat_lt
    rw [word, List.length_cons, Nat.mul_succ, Nat.pow_add]
    omega

theorem wordBytes_word (xs : List UInt8) : wordBytes xs.length (word xs) = xs := by
  -- dividing by 256 takes the first byte off
  induction xs with
  | nil => rfl
  | cons x xs ih =>
    have hx : x.toNat < 256 := x.toNat_lt
    have hlow : UInt8.ofNat (x.toNat + 256 * word xs) = x := by
      apply UInt8.toNat_inj.mp
      rw [UInt8.toNat_ofNat']
      omega
    have hrest : (x.toNat + 256 * word xs) / 256 = word xs := by omega
    rw [List.length_cons, word, wordBytes, hlow, hrest, ih]

theorem word_wordBytes (n v : Nat) : word (wordBytes n v) = v % 2 ^ (8 * n) := by
  induction n generalizing v with
  | zero => rw [Nat.mul_zero, Nat.pow_zero, Nat.mod_one]; rfl
  | succ n ih =>
    rw [wordBytes, word, ih, UInt8.toNat_ofNat', Nat.mul_succ, Nat.add_comm, Nat.pow_add,
      Nat.mul_comm (2 ^ (8 * n)), Nat.mod_mul, Nat.add_comm]

/-- Only the low bytes count. -/
theorem wordBytes_mod (n v : Nat) : wordBytes n (v % 2 ^ (8 * n)) = wordBytes n v := by
  have h := wordBytes_word (wordBytes n v)
  rwa [length_wordBytes, word_wordBytes] at h

end ByteStream
