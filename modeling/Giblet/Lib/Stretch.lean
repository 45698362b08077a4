import Mathlib.Data.List.Basic

/-!
# Lists in stretches of equal values

A stretch is a maximal run of one value. Who remembers a stretch by its first
position only and paints it over finds it again longer than it was, when the
list goes on with the new colour: `paint_back_iff`.
-/

namespace Stretch

variable {α : Type} {xs front rest : List α} {a v : α} {p n : Nat}

/-- The values from `p` to `p + n` become `v`, the others stay. -/
def paint (xs : List α) (p n : Nat) (v : α) : List α :=
  xs.mapIdx fun i x => if p ≤ i ∧ i < p + n then v else x

@[simp] theorem length_paint (xs : List α) (p n : Nat) (v : α) :
    (paint xs p n v).length = xs.length :=
  List.length_mapIdx ..

variable [DecidableEq α]

/-- How far the value at `p` goes on from there. -/
def stretch (xs : List α) (p : Nat) : Nat :=
  ((xs.drop p).takeWhile fun x => some x = xs[p]?).length

/-! ## A list that is taken apart at its stretch -/

omit [DecidableEq α] in
/-- Painting covers what it is asked for, and nothing else. -/
theorem paint_append (front mid rest : List α) (v : α) :
    paint (front ++ (mid ++ rest)) front.length mid.length v =
      front ++ (List.replicate mid.length v ++ rest) := by
  unfold paint
  rw [List.mapIdx_append, List.mapIdx_append]
  congr 1
  · -- before the stretch
    refine List.ext_getElem (List.length_mapIdx ..) fun i h _ => ?_
    have hi : i < front.length := List.length_mapIdx .. ▸ h
    rw [List.getElem_mapIdx, if_neg (by omega)]
  congr 1
  · refine List.ext_getElem (by rw [List.length_mapIdx, List.length_replicate]) fun i h _ => ?_
    have hi : i < mid.length := List.length_mapIdx .. ▸ h
    rw [List.getElem_mapIdx, if_pos (by omega), List.getElem_replicate]
  · -- and behind it
    refine List.ext_getElem (List.length_mapIdx ..) fun i h _ => ?_
    rw [List.getElem_mapIdx, if_neg (by omega)]

theorem takeWhile_replicate_append (n : Nat) (h : rest.head? ≠ some a) :
    (List.replicate n a ++ rest).takeWhile (fun x => decide (some x = some a)) =
      List.replicate n a := by
  induction n with
  | zero =>
    rcases rest with _ | ⟨x, rest⟩
    · rfl
    · -- the first value behind the stretch is another one
      exact List.takeWhile_cons_of_neg fun hx => h (of_decide_eq_true hx)
  | succ n ih =>
    rw [List.replicate_succ, List.cons_append, List.takeWhile_cons_of_pos (by simp), ih]

/-- A stretch ends where another value comes. -/
theorem stretch_append (front : List α) (n : Nat) (h : rest.head? ≠ some a) :
    stretch (front ++ (List.replicate (n + 1) a ++ rest)) front.length = n + 1 := by
  have hFirst : (front ++ (List.replicate (n + 1) a ++ rest))[front.length]? = some a := by
    rw [List.getElem?_append_right (Nat.le_refl _), Nat.sub_self]
    rfl
  unfold stretch
  rw [hFirst, List.drop_left, takeWhile_replicate_append _ h, List.length_replicate]

/-- Whatever a list begins with, it stops being `v` at some point. -/
theorem exists_replicate (v : α) (xs : List α) :
    ∃ n rest, xs = List.replicate n v ++ rest ∧ rest.head? ≠ some v := by
  induction xs with
  | nil => exact ⟨0, [], rfl, nofun⟩
  | cons x xs ih =>
    by_cases hx : x = v
    · obtain ⟨n, rest, hxs, hRest⟩ := ih
      refine ⟨n + 1, rest, ?_, hRest⟩
      rw [hx, hxs, List.replicate_succ, List.cons_append]
    · exact ⟨0, x :: xs, rfl, fun h => hx (Option.some.inj h)⟩

/-- Every position has a stretch, and a list before and behind it. -/
theorem exists_stretch (h : p < xs.length) :
    ∃ front n rest, xs = front ++ (List.replicate (n + 1) xs[p] ++ rest) ∧ front.length = p ∧
      rest.head? ≠ some xs[p] := by
  obtain ⟨n, rest, hBehind, hRest⟩ := exists_replicate xs[p] (xs.drop (p + 1))
  refine ⟨xs.take p, n, rest, ?_, List.length_take_of_le (Nat.le_of_lt h), hRest⟩
  rw [List.replicate_succ, List.cons_append, ← hBehind, ← List.drop_eq_getElem_cons h,
    List.take_append_drop]

/-- A stretch is changed by every other value. -/
theorem paint_stretch_eq_iff (h : p < xs.length) (v : α) :
    paint xs p (stretch xs p) v = xs ↔ xs[p] = v := by
  obtain ⟨front, n, rest, hxs, hFront, hRest⟩ := exists_stretch h
  generalize xs[p] = a at hxs hRest ⊢
  subst hxs hFront
  have hPainted := paint_append front (List.replicate (n + 1) a) rest v
  rw [List.length_replicate] at hPainted
  rw [stretch_append front n hRest, hPainted, List.append_cancel_left_eq,
    List.append_cancel_right_eq, List.replicate_inj]
  exact ⟨fun h => (h.2.resolve_left (Nat.succ_ne_zero n)).symm, fun h => ⟨rfl, .inr h.symm⟩⟩

/-! ## There and back -/

/-- **Painting a stretch and painting back what is then found gives the list back exactly when the
value behind the stretch was not the new one.** -/
theorem paint_back_iff (h : p < xs.length) (v : α) :
    paint (paint xs p (stretch xs p) v) p (stretch (paint xs p (stretch xs p) v) p) xs[p] = xs ↔
      xs[p] = v ∨ xs[p + stretch xs p]? ≠ some v := by
  obtain ⟨front, n, rest, hxs, hFront, hRest⟩ := exists_stretch h
  generalize xs[p] = a at hxs hRest ⊢
  subst hxs hFront
  -- what comes behind may begin with the new value
  obtain ⟨k, behind, rfl, hBehind⟩ := exists_replicate v rest
  have hPainted := paint_append front (List.replicate (n + 1) a)
    (List.replicate k v ++ behind) v
  rw [List.length_replicate] at hPainted
  rw [stretch_append front n hRest, hPainted]
  -- and then counts as part of the stretch
  have hLonger : List.replicate (n + 1) v ++ (List.replicate k v ++ behind) =
      List.replicate (n + k + 1) v ++ behind := by
    rw [← List.append_assoc, List.replicate_append_replicate]
    congr 2
    omega
  have hBack := paint_append front (List.replicate (n + k + 1) v) behind a
  rw [List.length_replicate] at hBack
  rw [hLonger, stretch_append front (n + k) hBehind, hBack]
  have hNext : (front ++ (List.replicate (n + 1) a ++ (List.replicate k v ++ behind)))[
      front.length + (n + 1)]? = (List.replicate k v ++ behind).head? := by
    rw [List.getElem?_append_right (Nat.le_add_right ..), Nat.add_sub_cancel_left,
      List.getElem?_append_right (List.length_replicate ▸ Nat.le_refl _), List.length_replicate,
      Nat.sub_self, List.head?_eq_getElem?]
  rw [hNext]
  rcases k with _ | k
  · -- nothing was added to the stretch
    exact iff_of_true rfl (.inr hBehind)
  · have hav : a ≠ v := fun hav => hRest (congrArg some hav.symm)
    refine iff_of_false (fun hSame => ?_) fun h => h.elim hav fun hOther => hOther rfl
    -- the first value behind it has changed
    have hAt := congrArg (·[front.length + (n + 1)]?) hSame
    rw [hNext, List.getElem?_append_right (Nat.le_add_right ..), Nat.add_sub_cancel_left,
      List.getElem?_append_left (by rw [List.length_replicate]; omega),
      List.getElem?_replicate_of_lt (by omega)] at hAt
    exact hav (Option.some.inj hAt)

end Stretch
