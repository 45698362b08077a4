import Mathlib.Data.List.Lex
import Mathlib.Data.List.Nodup
import Mathlib.Order.Lattice
import Mathlib.Tactic.Common

/-!
# OrderedMap — finite maps with ordered iteration

A `std::map`: a list of entries in strictly increasing order of their keys.
The order is a field, so a map with a repeated or misplaced key cannot be
built. `emplace` does not replace an entry that is there; `adjust` changes a
value in place and never touches a key.
-/

/-- A finite map; iteration visits its entries in the order of their keys. -/
structure OrderedMap (κ ν : Type) [LinearOrder κ] where
  entries : List (κ × ν)
  sorted : (entries.map Prod.fst).Pairwise (· < ·)

namespace OrderedMap

variable {κ ν : Type} [LinearOrder κ]

theorem ext {m n : OrderedMap κ ν} (h : m.entries = n.entries) : m = n := by
  cases m
  cases n
  cases h
  rfl

instance [DecidableEq ν] : DecidableEq (OrderedMap κ ν) := fun m n =>
  decidable_of_iff (m.entries = n.entries) ⟨ext, fun h => by rw [h]⟩

/-- The map without entries. -/
def empty : OrderedMap κ ν := ⟨[], List.Pairwise.nil⟩

/-- The values, in the order of their keys. -/
def values (m : OrderedMap κ ν) : List ν := m.entries.map Prod.snd

/-- `map::find`. -/
def find? (m : OrderedMap κ ν) (k : κ) : Option ν :=
  (m.entries.find? fun e => e.1 = k).map Prod.snd

/-- Does the key have an entry? -/
def contains (m : OrderedMap κ ν) (k : κ) : Bool := m.entries.any fun e => e.1 = k

theorem contains_eq_true_iff {m : OrderedMap κ ν} {k : κ} :
    m.contains k = true ↔ k ∈ m.entries.map Prod.fst := by
  rw [contains, List.any_eq_true, List.mem_map]
  simp only [decide_eq_true_eq]

/-- The entries with a new one at its place. -/
def insertEntry (k : κ) (v : ν) : List (κ × ν) → List (κ × ν)
  | [] => [(k, v)]
  | e :: rest => if k < e.1 then (k, v) :: e :: rest else e :: insertEntry k v rest

/-- Where the new entry stands matters to the order only. -/
theorem perm_insertEntry (k : κ) (v : ν) (entries : List (κ × ν)) :
    (insertEntry k v entries).Perm ((k, v) :: entries) := by
  induction entries with
  | nil => exact .refl _
  | cons e rest ih =>
    unfold insertEntry
    split
    · exact .refl _
    · exact (ih.cons e).trans (.swap _ _ _)

theorem mem_insertEntry {k : κ} {v : ν} {e : κ × ν} {entries : List (κ × ν)} :
    e ∈ insertEntry k v entries ↔ e = (k, v) ∨ e ∈ entries := by
  rw [(perm_insertEntry k v entries).mem_iff, List.mem_cons]

theorem mem_map_insertEntry {k x : κ} {v : ν} {entries : List (κ × ν)} :
    x ∈ (insertEntry k v entries).map Prod.fst ↔ x = k ∨ x ∈ entries.map Prod.fst := by
  rw [((perm_insertEntry k v entries).map Prod.fst).mem_iff, List.map_cons, List.mem_cons]

/-- A new key at its place keeps the keys in order. -/
theorem sorted_insertEntry {k : κ} {v : ν} {entries : List (κ × ν)}
    (hSorted : (entries.map Prod.fst).Pairwise (· < ·)) (hNew : k ∉ entries.map Prod.fst) :
    ((insertEntry k v entries).map Prod.fst).Pairwise (· < ·) := by
  -- before all others, or after the first of them
  induction entries with
  | nil => simp [insertEntry]
  | cons e rest ih =>
    rw [List.map_cons, List.pairwise_cons] at hSorted
    rw [List.map_cons, List.mem_cons, not_or] at hNew
    unfold insertEntry
    split
    · rename_i hLess
      rw [List.map_cons, List.map_cons, List.pairwise_cons, List.pairwise_cons]
      refine ⟨?_, hSorted⟩
      intro x hx
      rcases List.mem_cons.mp hx with rfl | hx
      · exact hLess
      · exact lt_trans hLess (hSorted.1 x hx)
    · rename_i hNotLess
      rw [List.map_cons, List.pairwise_cons]
      refine ⟨?_, ih hSorted.2 hNew.2⟩
      intro x hx
      rcases mem_map_insertEntry.mp hx with rfl | hx
      · exact lt_of_le_of_ne (not_lt.mp hNotLess) (Ne.symm hNew.1)
      · exact hSorted.1 x hx

/-- `map::emplace`; `none` when the key has an entry already. -/
def emplace (m : OrderedMap κ ν) (k : κ) (v : ν) : Option (OrderedMap κ ν) :=
  -- the order needs the key to be new
  if h : m.contains k then none
  else some ⟨insertEntry k v m.entries, sorted_insertEntry m.sorted
    fun hMem => h (contains_eq_true_iff.mpr hMem)⟩

/-- `map::erase`. -/
def erase (m : OrderedMap κ ν) (k : κ) : OrderedMap κ ν where
  entries := m.entries.filter fun e => e.1 ≠ k
  sorted := m.sorted.sublist (List.filter_sublist.map Prod.fst)

/-- The map with a function of key and value applied to every value. -/
def mapValues (m : OrderedMap κ ν) (f : κ → ν → ν) : OrderedMap κ ν where
  entries := m.entries.map fun e => (e.1, f e.1 e.2)
  sorted := by
    rw [List.map_map]
    exact m.sorted

/-- The map with one entry's value changed in place. -/
def adjust (m : OrderedMap κ ν) (k : κ) (f : ν → ν) : OrderedMap κ ν :=
  m.mapValues fun key v => if key = k then f v else v

@[simp] theorem values_mapValues {m : OrderedMap κ ν} {f : κ → ν → ν} :
    (m.mapValues f).values = m.entries.map fun e => f e.1 e.2 := by
  simp [values, mapValues, Function.comp_def]

/-- What a change in place leaves alone in every value, it leaves alone in the map. -/
theorem map_values_adjust {β : Type} {m : OrderedMap κ ν} {k : κ} {f : ν → ν} {g : ν → β}
    (h : ∀ v, g (f v) = g v) : (m.adjust k f).values.map g = m.values.map g := by
  rw [adjust, values_mapValues, values, List.map_map, List.map_map]
  refine List.map_congr_left fun e _ => ?_
  simp only [Function.comp]
  split
  · exact h e.2
  · rfl

theorem emplace_isSome_iff {m : OrderedMap κ ν} {k : κ} {v : ν} :
    (m.emplace k v).isSome = true ↔ m.contains k = false := by
  unfold emplace
  split <;> simp [*]

/-- What `emplace` leads to, when it does. -/
theorem emplace_eq_some {m m' : OrderedMap κ ν} {k : κ} {v : ν}
    (h : m.emplace k v = some m') : m'.entries = insertEntry k v m.entries := by
  unfold emplace at h
  split at h
  · cases h
  · exact (congrArg entries (Option.some.inj h)).symm

theorem perm_values_emplace {m m' : OrderedMap κ ν} {k : κ} {v : ν}
    (h : m.emplace k v = some m') : m'.values.Perm (v :: m.values) := by
  rw [values, emplace_eq_some h]
  exact (perm_insertEntry k v m.entries).map Prod.snd

theorem contains_emplace {m m' : OrderedMap κ ν} {k x : κ} {v : ν}
    (h : m.emplace k v = some m') : m'.contains x = true ↔ x = k ∨ m.contains x = true := by
  rw [contains_eq_true_iff, emplace_eq_some h, mem_map_insertEntry, contains_eq_true_iff]

/-! ## Looking up -/

theorem mem_entries_of_find? {m : OrderedMap κ ν} {k : κ} {v : ν} (h : m.find? k = some v) :
    (k, v) ∈ m.entries := by
  obtain ⟨e, hFind, rfl⟩ := Option.map_eq_some_iff.mp h
  have hKey : e.1 = k := by simpa using List.find?_some hFind
  rw [← hKey]
  exact List.mem_of_find?_eq_some hFind

theorem contains_eq_isSome (m : OrderedMap κ ν) (k : κ) : m.contains k = (m.find? k).isSome := by
  rw [find?, Option.isSome_map, List.isSome_find?]
  rfl

theorem contains_eq_false_iff {m : OrderedMap κ ν} {k : κ} :
    m.contains k = false ↔ m.find? k = none := by
  rw [contains_eq_isSome, Option.isSome_eq_false_iff, Option.isNone_iff_eq_none]

/-- Every entry is found under its key. -/
theorem find?_of_mem {m : OrderedMap κ ν} {k : κ} {v : ν} (h : (k, v) ∈ m.entries) :
    m.find? k = some v := by
  have hFound : (m.entries.find? fun e => decide (e.1 = k)).isSome = true :=
    List.find?_isSome.mpr ⟨_, h, decide_eq_true rfl⟩
  obtain ⟨e, hFind⟩ := Option.isSome_iff_exists.mp hFound
  have hKey : e.1 = k := by simpa using List.find?_some hFind
  have hSame : e = (k, v) :=
    List.inj_on_of_nodup_map (m.sorted.imp ne_of_lt) (List.mem_of_find?_eq_some hFind) h hKey
  rw [find?, hFind, hSame]
  rfl

theorem find?_eq_some_iff {m : OrderedMap κ ν} {k : κ} {v : ν} :
    m.find? k = some v ↔ (k, v) ∈ m.entries := ⟨mem_entries_of_find?, find?_of_mem⟩

/-- A new entry is found, and so are the others. -/
theorem find?_emplace {m m' : OrderedMap κ ν} {k x : κ} {v : ν} (h : m.emplace k v = some m') :
    m'.find? x = if x = k then some v else m.find? x := by
  have hEntries (w : ν) : (x, w) ∈ m'.entries ↔ (x, w) = (k, v) ∨ (x, w) ∈ m.entries := by
    rw [emplace_eq_some h, mem_insertEntry]
  by_cases hSame : x = k
  · rw [if_pos hSame, find?_eq_some_iff, hEntries, hSame]
    exact .inl rfl
  · rw [if_neg hSame]
    refine Option.ext fun w => ?_
    rw [find?_eq_some_iff, hEntries, find?_eq_some_iff, Prod.mk.injEq, or_iff_right]
    exact fun hPair => hSame hPair.1

/-- A change of values, looked up. -/
theorem find?_mapValues (m : OrderedMap κ ν) (f : κ → ν → ν) (k : κ) :
    (m.mapValues f).find? k = (m.find? k).map (f k) := by
  unfold find? mapValues
  simp only [List.find?_map, Option.map_map]
  cases h : m.entries.find? ((fun e => decide (e.1 = k)) ∘ fun e => (e.1, f e.1 e.2)) with
  | none =>
    have hNone : m.entries.find? (fun e => decide (e.1 = k)) = none := h
    rw [hNone]
    rfl
  | some e =>
    have hSome : m.entries.find? (fun e => decide (e.1 = k)) = some e := h
    have hKey : e.1 = k := by simpa using List.find?_some hSome
    rw [hSome]
    simp only [Option.map_some, Function.comp, hKey]

/-- Changing one entry in place changes what is found there, and nothing else. -/
theorem find?_adjust (m : OrderedMap κ ν) (k x : κ) (f : ν → ν) :
    (m.adjust k f).find? x = if x = k then (m.find? x).map f else m.find? x := by
  rw [adjust, find?_mapValues]
  by_cases h : x = k
  · simp only [h, if_true]
  · simp only [h, if_false]
    exact Option.map_id'

theorem contains_erase {m : OrderedMap κ ν} {k x : κ} :
    (m.erase k).contains x = true ↔ x ≠ k ∧ m.contains x = true := by
  rw [contains_eq_true_iff, contains_eq_true_iff, erase, List.mem_map, List.mem_map]
  constructor
  · intro ⟨e, hMem, hKey⟩
    obtain ⟨hMem, hOther⟩ := List.mem_filter.mp hMem
    exact ⟨fun h => absurd (hKey.trans h) (of_decide_eq_true hOther), e, hMem, hKey⟩
  · intro ⟨hOther, e, hMem, hKey⟩
    exact ⟨e, List.mem_filter.mpr ⟨hMem, decide_eq_true fun h => hOther (hKey.symm.trans h)⟩, hKey⟩

theorem find?_erase (m : OrderedMap κ ν) (k x : κ) :
    (m.erase k).find? x = if x = k then none else m.find? x := by
  have hEntries (w : ν) : (x, w) ∈ (m.erase k).entries ↔ x ≠ k ∧ (x, w) ∈ m.entries := by
    rw [erase, List.mem_filter, decide_eq_true_iff, and_comm]
  by_cases hSame : x = k
  · rw [if_pos hSame, ← contains_eq_false_iff, ← Bool.not_eq_true, contains_erase]
    exact fun h => h.1 hSame
  · rw [if_neg hSame]
    refine Option.ext fun w => ?_
    rw [find?_eq_some_iff, hEntries, find?_eq_some_iff, and_iff_right hSame]

/-- **What `emplace` does**: it leaves an entry that is there, or adds a new one. -/
theorem emplace_cases (m : OrderedMap κ ν) (k : κ) (v : ν) :
    m.contains k = true ∧ m.emplace k v = none ∨
      m.contains k = false ∧ ∃ m', m.emplace k v = some m' ∧
        ∀ x, m'.find? x = if x = k then some v else m.find? x := by
  cases hEmplace : m.emplace k v with
  | none =>
    left
    refine ⟨?_, rfl⟩
    rw [← Bool.not_eq_false, ← emplace_isSome_iff (v := v), hEmplace]
    exact Bool.false_ne_true
  | some m' =>
    right
    refine ⟨?_, m', rfl, fun x => find?_emplace hEmplace⟩
    rw [← emplace_isSome_iff (v := v), hEmplace]
    rfl

/-- `map::operator[]`, assigned to: the entry that is there, or a new one, gets the value. -/
def assign (m : OrderedMap κ ν) (k : κ) (v : ν) : OrderedMap κ ν :=
  (m.emplace k v).getD (m.adjust k fun _ => v)

theorem find?_assign (m : OrderedMap κ ν) (k x : κ) (v : ν) :
    (m.assign k v).find? x = if x = k then some v else m.find? x := by
  unfold assign
  rcases m.emplace_cases k v with ⟨hThere, hEmplace⟩ | ⟨-, m', hEmplace, hFind⟩
  · rw [hEmplace, Option.getD_none, find?_adjust]
    by_cases hSame : x = k
    · rw [contains_eq_isSome, Option.isSome_iff_exists] at hThere
      obtain ⟨w, hw⟩ := hThere
      rw [if_pos hSame, if_pos hSame, hSame, hw, Option.map_some]
    · rw [if_neg hSame, if_neg hSame]
  · rw [hEmplace, Option.getD_some, hFind]

/-- Changing values keeps the keys. -/
theorem contains_mapValues {m : OrderedMap κ ν} {f : κ → ν → ν} {x : κ} :
    (m.mapValues f).contains x = m.contains x := by
  rw [contains_eq_isSome, find?_mapValues, Option.isSome_map, contains_eq_isSome]

/-- **Of the values that a key was assigned**, the last one is there. -/
theorem find?_foldl_assign (entries : List (κ × ν)) (m : OrderedMap κ ν) (x : κ) :
    (entries.foldl (fun m e => m.assign e.1 e.2) m).find? x =
      ((entries.reverse.find? fun e => x = e.1).map Prod.snd).or (m.find? x) := by
  induction entries generalizing m with
  | nil => rfl
  | cons e entries ih =>
    rw [List.foldl_cons, ih, find?_assign, List.reverse_cons, List.find?_append]
    by_cases hSame : x = e.1
    · rw [if_pos hSame, List.find?_singleton, if_pos (by simpa using hSame)]
      cases entries.reverse.find? fun e => x = e.1 <;> rfl
    · rw [if_neg hSame, List.find?_singleton, if_neg (by simpa using hSame), Option.or_none]

end OrderedMap
