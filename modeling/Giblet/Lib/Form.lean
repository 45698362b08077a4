import Mathlib.Data.Finset.Card
import Mathlib.Data.Finset.Range
import Mathlib.Data.List.Basic
import Mathlib.Tactic.Common

/-!
# Form — pairs of names and values in one text

A form's text is made of pairs, a name and a value with one symbol between
them, and another symbol between two pairs. A lookup goes through the text
symbol by symbol and compares, at the start of each pair, the name with what
stands there; names may differ in what a function folds together.

* `lookup_text` — the value of the first pair with the name is found.
* `card_found_le` — no more names are found than the text has symbols.
-/

namespace Form

variable {α β : Type}

/-- A name stands at the start of a text, with the symbol behind it that ends a name. -/
def Begins (fold : α → β) (assign : α) (name text : List α) : Prop :=
  text[name.length]? = some assign ∧ name.map fold = (text.take name.length).map fold

/-- A pair, written. -/
def pairText (assign : α) (pair : List α × List α) : List α := pair.1 ++ assign :: pair.2

/-- Pairs, written. -/
def text (assign amp : α) : List (List α × List α) → List α
  | [] => []
  | [pair] => pairText assign pair
  | pair :: pairs => pairText assign pair ++ amp :: text assign amp pairs

/-- A pair that can be written. -/
structure Clean (assign amp : α) (pair : List α × List α) : Prop where
  name : assign ∉ pair.1 ∧ amp ∉ pair.1
  value : amp ∉ pair.2

variable {fold : α → β} {assign amp : α} {name name' : List α}

/-! ## What stands at a place -/

/-- A name that goes on where another one ends has the ending symbol. -/
theorem Begins.length_le (hFold : ∀ c, fold c = fold assign → c = assign) {here : List α}
    (h : Begins fold assign name here) (h' : name'.map fold = (here.take name'.length).map fold)
    (hName' : assign ∉ name') : name'.length ≤ name.length := by
  by_contra hLonger
  rw [Nat.not_le] at hLonger
  have hEnd : (here.take name'.length)[name.length]? = some assign := by
    rw [List.getElem?_take_of_lt hLonger, h.1]
  have hSame := congrArg (·[name.length]?) h'
  simp only [List.getElem?_map, hEnd, List.getElem?_eq_getElem hLonger, Option.map_some,
    Option.some.injEq] at hSame
  exact hName' (hFold _ hSame ▸ List.getElem_mem hLonger)

/-- One name stands at a place. -/
theorem Begins.unique (hFold : ∀ c, fold c = fold assign → c = assign) {here : List α}
    (h : Begins fold assign name here) (h' : Begins fold assign name' here) (hName : assign ∉ name)
    (hName' : assign ∉ name') : name.map fold = name'.map fold := by
  have hLength : name.length = name'.length :=
    Nat.le_antisymm (h'.length_le hFold h.2 hName) (h.length_le hFold h'.2 hName')
  rw [h.2, h'.2, hLength]

/-- At a pair stands its name. -/
theorem begins_pair (assign : α) (pair : List α × List α) (rest : List α) :
    Begins fold assign pair.1 (pairText assign pair ++ rest) := by
  have hText : pairText assign pair ++ rest = pair.1 ++ assign :: (pair.2 ++ rest) := by
    rw [pairText, List.append_assoc, List.cons_append]
  rw [hText, Begins, List.getElem?_append_right (le_refl _), Nat.sub_self, List.take_left]
  exact ⟨rfl, rfl⟩

theorem begins_pair_iff (hFold : ∀ c, fold c = fold assign → c = assign)
    {pair : List α × List α} (hPair : assign ∉ pair.1) (hName : assign ∉ name) (rest : List α) :
    Begins fold assign name (pairText assign pair ++ rest) ↔ name.map fold = pair.1.map fold := by
  have hOwn : Begins fold assign pair.1 (pairText assign pair ++ rest) :=
    begins_pair assign pair rest
  constructor
  · exact fun h => h.unique hFold hOwn hName hPair
  · intro hSame
    have hLength : name.length = pair.1.length := by
      simpa only [List.length_map] using congrArg List.length hSame
    rw [Begins, hLength, hSame]
    exact hOwn

/-! ## What is found -/

variable [DecidableEq α] [DecidableEq β]

instance (fold : α → β) (assign : α) (name text : List α) :
    Decidable (Begins fold assign name text) :=
  inferInstanceAs (Decidable (_ ∧ _))

/-- The value of the first pair with this name; `start` tells whether a pair begins here. -/
def lookup (fold : α → β) (assign amp : α) (name : List α) (start : Bool) :
    List α → Option (List α)
  | [] => none
  | c :: rest =>
    if start = true ∧ Begins fold assign name (c :: rest) then
      some (((c :: rest).drop (name.length + 1)).takeWhile (· ≠ amp))
    else lookup fold assign amp name (c == amp) rest

/-- Inside a pair, nothing is compared. -/
theorem lookup_false (name : List α) {inside : List α} (h : amp ∉ inside) (rest : List α) :
    lookup fold assign amp name false (inside ++ rest) =
      lookup fold assign amp name false rest := by
  induction inside with
  | nil => rfl
  | cons c inside ih =>
    obtain ⟨hFirst, hRest⟩ := not_or.mp (List.mem_cons.not.mp h)
    have hOther : (c == amp) = false := beq_false_of_ne (Ne.symm hFirst)
    rw [List.cons_append, lookup, if_neg (fun h => by cases h.1), hOther, ih hRest]

/-- A pair with another name is passed over. -/
theorem lookup_pair_ne (hApart : assign ≠ amp) {pair : List α × List α}
    (hPair : Clean assign amp pair) {rest : List α}
    (hOther : ¬Begins fold assign name (pairText assign pair ++ rest)) :
    lookup fold assign amp name true (pairText assign pair ++ rest) =
      lookup fold assign amp name false rest := by
  have hInside : amp ∉ pairText assign pair := by
    unfold pairText
    simp only [List.mem_append, List.mem_cons, not_or]
    exact ⟨hPair.name.2, hApart.symm, hPair.value⟩
  cases hText : pairText assign pair with
  | nil => simp [pairText] at hText
  | cons c inside =>
    rw [hText] at hInside hOther
    obtain ⟨hFirst, hRest⟩ := not_or.mp (List.mem_cons.not.mp hInside)
    rw [List.cons_append] at hOther ⊢
    rw [lookup, if_neg (fun h => hOther h.2), beq_false_of_ne (Ne.symm hFirst),
      lookup_false name hRest]

/-- The value of a pair with the name is found. -/
theorem lookup_pair_eq {pair : List α × List α} (hPair : Clean assign amp pair) {rest : List α}
    (hRest : rest.head?.all (· = amp) = true)
    (hBegins : Begins fold assign name (pairText assign pair ++ rest))
    (hLength : name.length = pair.1.length) :
    lookup fold assign amp name true (pairText assign pair ++ rest) = some pair.2 := by
  have hText : pairText assign pair ++ rest = (pair.1 ++ [assign]) ++ (pair.2 ++ rest) := by
    rw [pairText]
    simp only [List.append_assoc, List.cons_append, List.nil_append]
  have hDrop : (pairText assign pair ++ rest).drop (name.length + 1) = pair.2 ++ rest := by
    rw [hText, List.drop_left' (by rw [hLength, List.length_append]; rfl)]
  have hValue : (pair.2 ++ rest).takeWhile (· ≠ amp) = pair.2 := by
    have hAll : ∀ c ∈ pair.2, decide (c ≠ amp) = true := fun c hc =>
      decide_eq_true fun hSame => hPair.value (hSame ▸ hc)
    rw [List.takeWhile_append_of_pos hAll]
    cases rest with
    | nil => exact List.append_nil _
    | cons c rest =>
      obtain rfl : c = amp := by simpa using hRest
      rw [List.takeWhile_cons_of_neg (by simp), List.append_nil]
  cases hHere : pairText assign pair ++ rest with
  | nil => simp [pairText] at hHere
  | cons c more =>
    rw [hHere] at hBegins hDrop
    rw [lookup, if_pos ⟨rfl, hBegins⟩, hDrop, hValue]

/-- **The first pair with the name** is found. -/
theorem lookup_text (hFold : ∀ c, fold c = fold assign → c = assign) (hApart : assign ≠ amp)
    {pairs : List (List α × List α)} (hPairs : ∀ pair ∈ pairs, Clean assign amp pair)
    (hName : assign ∉ name) :
    lookup fold assign amp name true (text assign amp pairs) =
      (pairs.find? fun pair => name.map fold = pair.1.map fold).map Prod.snd := by
  have hOne {pair : List α × List α} (hPair : Clean assign amp pair) {rest : List α}
      (hRest : rest.head?.all (· = amp) = true) :
      lookup fold assign amp name true (pairText assign pair ++ rest) =
        if name.map fold = pair.1.map fold then some pair.2
        else lookup fold assign amp name false rest := by
    have hIff := begins_pair_iff hFold hPair.name.1 hName rest
    split
    · rename_i hSame
      exact lookup_pair_eq hPair hRest (hIff.mpr hSame)
        (by simpa only [List.length_map] using congrArg List.length hSame)
    · rename_i hOther
      exact lookup_pair_ne hApart hPair (hIff.not.mpr hOther)
  have hFind (pair : List α × List α) (pairs : List (List α × List α)) :
      ((pair :: pairs).find? fun pair => name.map fold = pair.1.map fold).map Prod.snd =
        if name.map fold = pair.1.map fold then some pair.2
        else (pairs.find? fun pair => name.map fold = pair.1.map fold).map Prod.snd := by
    rw [List.find?_cons]
    split <;> rename_i hSame
    · rw [if_pos (by simpa using hSame)]
      rfl
    · rw [if_neg (by simpa using hSame)]
  induction pairs with
  | nil => rfl
  | cons pair pairs ih =>
    obtain ⟨hPair, hOthers⟩ := List.forall_mem_cons.mp hPairs
    rw [hFind]
    cases pairs with
    | nil =>
      have hText : text assign amp [pair] = pairText assign pair ++ [] := (List.append_nil _).symm
      rw [hText, hOne hPair rfl]
      rfl
    | cons next pairs =>
      have hText : text assign amp (pair :: next :: pairs) =
          pairText assign pair ++ amp :: text assign amp (next :: pairs) := rfl
      have hNext : lookup fold assign amp name false (amp :: text assign amp (next :: pairs)) =
          lookup fold assign amp name true (text assign amp (next :: pairs)) := by
        rw [lookup, if_neg (fun h => by cases h.1), beq_self_eq_true]
      rw [hText, hOne hPair (by simp), hNext, ih hOthers]

/-! ## How much is found -/

/-- What is found has a place in the text. -/
theorem exists_begins_of_lookup {start : Bool} {here value : List α}
    (h : lookup fold assign amp name start here = some value) :
    ∃ i < here.length, Begins fold assign name (here.drop i) := by
  induction here generalizing start with
  | nil => cases h
  | cons c rest ih =>
    rw [lookup] at h
    split at h
    · rename_i hFound
      exact ⟨0, Nat.zero_lt_succ _, hFound.2⟩
    · obtain ⟨i, hi, hBegins⟩ := ih h
      exact ⟨i + 1, Nat.succ_lt_succ hi, hBegins⟩

/-- **No more names are found** than the text has symbols. -/
theorem card_found_le (hFold : ∀ c, fold c = fold assign → c = assign) {names : Nat → List α}
    (hNames : ∀ i, assign ∉ names i)
    (hDistinct : ∀ i j, (names i).map fold = (names j).map fold → i = j) {here : List α}
    {found : Finset Nat}
    (hFound : ∀ i ∈ found, (lookup fold assign amp (names i) true here).isSome = true) :
    found.card ≤ here.length := by
  have hPlaces : ∀ i, ∃ p, i ∈ found →
      p < here.length ∧ Begins fold assign (names i) (here.drop p) := by
    intro i
    by_cases hi : i ∈ found
    · obtain ⟨value, hValue⟩ := Option.isSome_iff_exists.mp (hFound i hi)
      obtain ⟨p, hp, hBegins⟩ := exists_begins_of_lookup hValue
      exact ⟨p, fun _ => ⟨hp, hBegins⟩⟩
    · exact ⟨0, fun h => absurd h hi⟩
  choose place hPlace using hPlaces
  rw [← Finset.card_range here.length]
  refine Finset.card_le_card_of_injOn place (fun i hi => ?_) fun i hi j hj hSame => ?_
  · exact Finset.mem_coe.mpr (Finset.mem_range.mpr (hPlace i hi).1)
  -- two names at one place are the same
  · have hBegins := (hPlace i hi).2
    rw [hSame] at hBegins
    exact hDistinct i j (hBegins.unique hFold (hPlace j hj).2 (hNames i) (hNames j))

end Form
