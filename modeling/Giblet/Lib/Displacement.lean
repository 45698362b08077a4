import Mathlib.Data.BitVec
import Mathlib.Tactic.Common

/-!
# Displacement — relative addresses of a fixed width

A relative operand of `w` bits leads from the address of the next
instruction to that address plus the sign-extended displacement, modulo
`2 ^ n`. When the instruction moves, only one displacement can lead to the
old target: the old one plus the distance, cut to `w` bits. It does so if
and only if the target is reachable with `w` bits at all
(`target_moved_iff`), which for `w = n` is always so (`Reaches.of_full`).
-/

namespace Displacement

variable {n w : Nat}

/-- Where a displacement leads to. -/
def target (next : BitVec n) (d : BitVec w) : BitVec n := next + d.signExtend n

/-- The target can be written as a displacement of `w` bits. -/
def Reaches (w : Nat) (next t : BitVec n) : Prop := ∃ d : BitVec w, target next d = t

/-- The displacement after a move from `next` to `next'`. -/
def moved (next next' : BitVec n) (d : BitVec w) : BitVec w := (next - next').setWidth w + d

theorem setWidth_signExtend (h : w ≤ n) (d : BitVec w) : (d.signExtend n).setWidth w = d := by
  ext i hi
  have hin : i < n := by omega
  rw [BitVec.getElem_setWidth, BitVec.getLsbD_eq_getElem hin, BitVec.getElem_signExtend hin,
    dif_pos hi]

/-- The only displacement that can lead to a target is the distance, cut to the width. -/
theorem eq_of_target_eq (h : w ≤ n) {next t : BitVec n} {d : BitVec w} (ht : target next d = t) :
    d = (t - next).setWidth w := by
  rw [← ht, target, BitVec.add_comm, BitVec.add_sub_cancel, setWidth_signExtend h]

theorem moved_eq (h : w ≤ n) (next next' : BitVec n) (d : BitVec w) :
    moved next next' d = (target next d - next').setWidth w := by
  -- the distance to the old target, before it is cut
  have hdist : target next d - next' = (next - next') + d.signExtend n := by
    rw [target]
    simp only [BitVec.sub_eq_add_neg]
    ac_rfl
  rw [moved, hdist, BitVec.setWidth_add _ _ h, setWidth_signExtend h]

theorem target_moved_iff (h : w ≤ n) (next next' : BitVec n) (d : BitVec w) :
    target next' (moved next next' d) = target next d ↔ Reaches w next' (target next d) := by
  constructor
  · intro hSame
    exact ⟨_, hSame⟩
  -- whatever leads there is the distance cut to the width, which is what was written
  · rintro ⟨e, he⟩
    rw [moved_eq h, ← eq_of_target_eq h he, he]

/-- What can be reached is what lies in the displacement's range. -/
theorem reaches_iff_toInt (hpos : 0 < w) (h : w ≤ n) (next t : BitVec n) :
    Reaches w next t ↔
      -2 ^ (w - 1) ≤ (t - next).toInt ∧ (t - next).toInt < 2 ^ (w - 1) := by
  constructor
  · rintro ⟨d, rfl⟩
    rw [target, BitVec.add_comm, BitVec.add_sub_cancel, BitVec.toInt_signExtend_of_le h]
    exact ⟨BitVec.le_toInt d, BitVec.toInt_lt⟩
  · intro ⟨hlow, hhigh⟩
    have hpow : ((2 ^ w : Nat) : Int) = 2 ^ (w - 1) * 2 := by
      rw [Int.natCast_pow, ← Int.pow_succ, show (w - 1).succ = w by omega]
      rfl
    refine ⟨BitVec.ofInt w (t - next).toInt, ?_⟩
    -- a distance in range survives being cut and extended
    have hsame : (BitVec.ofInt w (t - next).toInt).signExtend n = t - next := by
      apply BitVec.eq_of_toInt_eq
      rw [BitVec.toInt_signExtend_of_le h, BitVec.toInt_ofInt]
      exact Int.bmod_eq_of_le_mul_two (by omega) (by omega)
    rw [target, hsame, BitVec.add_comm, BitVec.sub_add_cancel]

theorem Reaches.of_full (next t : BitVec n) : Reaches n next t :=
  ⟨t - next, by rw [target, BitVec.signExtend_eq, BitVec.add_comm, BitVec.sub_add_cancel]⟩

/-- The new displacement, when it is computed in a wider word. -/
theorem moved_setWidth {m : Nat} (hw : w ≤ n) (hn : n ≤ m) (next next' v : BitVec m) :
    (next + v - next').setWidth w =
      moved (next.setWidth n) (next'.setWidth n) (v.setWidth w) := by
  -- cutting commutes with sums, so it may come first
  have hm : w ≤ m := Nat.le_trans hw hn
  have hsub : next + v - next' = next - next' + v := by
    simp only [BitVec.sub_eq_add_neg]
    ac_rfl
  rw [moved, hsub, BitVec.setWidth_add _ _ hm]
  simp only [BitVec.sub_eq_add_neg, BitVec.setWidth_add _ _ hm, BitVec.setWidth_add _ _ hw,
    BitVec.setWidth_neg_of_le hm, BitVec.setWidth_neg_of_le hw, BitVec.setWidth_setWidth_of_le _ hw]

/-- A target that moves along with the instruction needs the same displacement: the moved one
leads there only if the distance is a multiple of `2 ^ w`. -/
theorem target_moved_shift_iff (h : w ≤ n) (next next' : BitVec n) (d : BitVec w) :
    target next' (moved next next' d) = target next d + (next' - next) ↔
      (next' - next).setWidth w = 0 := by
  have hshift : target next d + (next' - next) = target next' d := by
    rw [target, target, add_right_comm, add_sub_cancel]
  -- cutting to the width takes the extension back
  have hinj : target next' (moved next next' d) = target next' d ↔ moved next next' d = d := by
    refine ⟨fun hsame => ?_, fun hsame => by rw [hsame]⟩
    rw [eq_of_target_eq h hsame, target, BitVec.add_comm, BitVec.add_sub_cancel,
      setWidth_signExtend h]
  have hdist : (next - next').setWidth w = 0 ↔ (next' - next).setWidth w = 0 := by
    rw [← neg_sub next next', BitVec.setWidth_neg_of_le h]
    exact neg_eq_zero.symm
  rw [hshift, hinj, moved, ← hdist]
  exact add_eq_right

end Displacement
