import Giblet.Lib.Effect
import Giblet.YMsg.Parser

/-!
# YMsg — the grammar of payloads

`PacketParser` once more, at the level of its iterators: positions in the
payload, and reads that fail outside of it. It computes what `parse` computes
(`parseFrom_eq`), so it never reads outside; that it is a total function says
that it stops.

`Reading` is what a payload means: fields, taken alternately as keys and
values, up to a NUL in a key's place. `parse_reads` relates the two.
-/

namespace Giblet.YMsg.PacketParser

open Effect

/-! ## Iterators -/

/-- `*position`, in a payload; `end` is the position of its length. -/
def fetch (payload : Bytes) (position : Nat) : Except Fault UInt8 :=
  match payload[position]? with
  | some b => .ok b
  | none => .error (.undefined .overread)

/-- The bytes between two positions. -/
def fetchRange (payload : Bytes) (first last : Nat) : Except Fault Bytes :=
  if first ≤ last ∧ last ≤ payload.length then .ok ((payload.drop first).take (last - first))
  else .error (.undefined .overread)

theorem lt_of_fetch {payload : Bytes} {position : Nat} {b : UInt8}
    (h : fetch payload position = .ok b) : position < payload.length := by
  unfold fetch at h
  split at h
  · rename_i hSome
    exact (List.getElem?_eq_some_iff.mp hSome).1
  · cases h

/-- `PacketParser::FindTerminator(begin, end)`, where `end` is the end of the payload. -/
def findTerminatorAt (payload : Bytes) (begin : Nat) : Except Fault (Nat × Nat) :=
  if begin = payload.length then .ok (begin, begin)
  else
    match hFetch : fetch payload begin with
    | .error e => .error e
    | .ok b =>
      if b = TerminatorByte1 then
        let current := begin + 1
        -- a lone first byte at the very end counts as a terminator
        if current = payload.length then .ok (begin, current)
        else
          match fetch payload current with
          | .error e => .error e
          | .ok c =>
            if c = TerminatorByte2 then .ok (begin, current + 1)
            -- the second byte is looked at again: it may start a terminator
            else findTerminatorAt payload (begin + 1)
      else findTerminatorAt payload (begin + 1)
termination_by payload.length - begin
decreasing_by
  all_goals
    have hLess := lt_of_fetch hFetch
    omega

theorem fetch_eq {payload : Bytes} {position : Nat} {b : UInt8} {bs : Bytes}
    (h : payload.drop position = b :: bs) : fetch payload position = .ok b := by
  unfold fetch
  rw [← List.head?_drop, h]
  rfl

theorem drop_of_fetch {payload : Bytes} {position : Nat} {b : UInt8}
    (h : fetch payload position = .ok b) :
    payload.drop position = b :: payload.drop (position + 1) := by
  have hLess := lt_of_fetch h
  rw [List.drop_eq_getElem_cons hLess]
  unfold fetch at h
  rw [List.getElem?_eq_getElem hLess] at h
  cases h
  rfl

/-- Inside the payload every read succeeds. -/
theorem fetch_ne_error {payload : Bytes} {position : Nat} {e : Fault}
    (h : position < payload.length) : fetch payload position ≠ .error e := by
  rw [fetch_eq (List.drop_eq_getElem_cons h)]
  intro hError
  cases hError

/-- A terminator is found where the search starts, or behind it. -/
theorem findTerminatorAt_le {payload : Bytes} {begin : Nat} {position : Nat × Nat}
    (h : findTerminatorAt payload begin = .ok position) :
    begin ≤ position.1 ∧ position.1 ≤ position.2 := by
  fun_induction findTerminatorAt payload begin with
  | case1 => cases h; exact ⟨le_rfl, le_rfl⟩
  | case2 => cases h
  | case3 => cases h; exact ⟨le_rfl, Nat.le_succ _⟩
  | case4 => cases h
  | case5 => cases h; exact ⟨le_rfl, Nat.le_add_right _ 2⟩
  | case6 begin _ _ _ _ _ _ _ ih =>
    have hRest := ih h
    omega
  | case7 begin _ _ _ _ ih =>
    have hRest := ih h
    omega

/-- **`FindTerminator` finds the end of the first field**, and reads nothing outside. -/
theorem findTerminatorAt_eq {payload : Bytes} {begin : Nat} (h : begin ≤ payload.length) :
    findTerminatorAt payload begin =
      .ok (begin + (findTerminator (payload.drop begin)).1.length,
        payload.length - (findTerminator (payload.drop begin)).2.length) := by
  fun_induction findTerminatorAt payload begin with
  -- nothing is left: an empty field
  | case1 =>
    rw [List.drop_length]
    rfl
  -- inside the payload a read does not fail
  | case2 begin hMore e hFetch =>
    have hLess : begin < payload.length := by omega
    exact absurd hFetch (fetch_ne_error hLess)
  | case3 begin hMore current hLast hFetch =>
    -- the first byte of a terminator is the very last byte
    have hRest : payload.drop (begin + 1) = [] := List.drop_eq_nil_of_le (le_of_eq hLast.symm)
    rw [drop_of_fetch hFetch, hRest]
    simp [findTerminator, Terminator.cut, hLast]
  | case4 begin hMore current hCurrent e hError hFetch =>
    have hLess : begin + 1 < payload.length := by omega
    exact absurd hError (fetch_ne_error hLess)
  -- a whole terminator
  | case5 begin hMore current hCurrent hFetch hNext =>
    rw [drop_of_fetch hFetch, drop_of_fetch hNext]
    have hLess := lt_of_fetch hNext
    simp only [findTerminator, Terminator.cut, and_self, if_true, List.length_nil, Nat.add_zero,
      List.length_drop]
    congr 2
    omega
  -- a first byte without its second belongs to the field
  | case6 begin hMore current hCurrent c hNext hOther hFetch ih =>
    have hCut : findTerminator (payload.drop begin) =
        (TerminatorByte1 :: (findTerminator (payload.drop (begin + 1))).1,
          (findTerminator (payload.drop (begin + 1))).2) := by
      rw [drop_of_fetch hFetch]
      exact Terminator.cut_cons fun _ => ⟨c, _, drop_of_fetch hNext, hOther⟩
    rw [ih (by omega), hCut, List.length_cons]
    congr 2
    omega
  -- so does any other byte
  | case7 begin hMore b hFetch hOther ih =>
    have hCut : findTerminator (payload.drop begin) =
        (b :: (findTerminator (payload.drop (begin + 1))).1,
          (findTerminator (payload.drop (begin + 1))).2) := by
      rw [drop_of_fetch hFetch]
      exact Terminator.cut_cons fun hSame => absurd hSame hOther
    rw [ih (by omega), hCut, List.length_cons]
    congr 2
    omega

variable {π : Type}

/-- The loop of `PacketParser::Parse`, from the iterator `start`. -/
def parseFrom (onKeyPair : Int32 → StringView → Action π Unit) (payload : Bytes) (start : Nat) :
    Action π Unit :=
  if start = payload.length then pure ()
  else
    match _hFetch : fetch payload start with
    | .error e => throw e
    | .ok b =>
      if b = 0 then pure ()
      else
        match _hKey : findTerminatorAt payload start with
        | .error e => throw e
        | .ok keyPosition =>
          if _hStart : start = keyPosition.1 then
            throw (.runtimeError "Empty key value. Dunno how to handle this!")
          else
            match fetchRange payload start keyPosition.1 with
            | .error e => throw e
            | .ok digits =>
              let key := strtol digits
              let start := keyPosition.2
              match _hValue : findTerminatorAt payload start with
              | .error e => throw e
              | .ok position =>
                match fetchRange payload start position.1 with
                | .error e => throw e
                | .ok chars => do
                  -- an empty value has no data pointer
                  let value := if start = position.1 then .null
                    else .view chars (payload.drop position.1)
                  onKeyPair key value
                  parseFrom onKeyPair payload position.2
termination_by payload.length - start
decreasing_by
  have hLess := lt_of_fetch _hFetch
  have hFirst := findTerminatorAt_le _hKey
  have hSecond := findTerminatorAt_le _hValue
  omega

/-- `PacketParser::Parse(payload, header, payloadBegin, payloadEnd)`. -/
def parseRange (onKeyPair : Int32 → StringView → Action π Unit) (payload : Bytes) :
    Action π Unit := parseFrom onKeyPair payload 0

/-- A field is what lies between the position of the search and that of its end. -/
theorem fetchRange_field {payload : Bytes} {start : Nat} (h : start ≤ payload.length) :
    fetchRange payload start (start + (findTerminator (payload.drop start)).1.length) =
      .ok (findTerminator (payload.drop start)).1 := by
  -- the field is a prefix of what is left
  obtain ⟨mid, hStream⟩ := Terminator.cut_eq TerminatorByte1 TerminatorByte2 (payload.drop start)
  have hLength := congrArg List.length hStream
  rw [List.length_append, List.length_drop] at hLength
  unfold fetchRange findTerminator
  rw [if_pos ⟨Nat.le_add_right _ _, by omega⟩, Nat.add_sub_cancel_left]
  generalize Terminator.cut TerminatorByte1 TerminatorByte2 (payload.drop start) = parts
    at hStream ⊢
  rw [hStream, List.take_left]

/-- `firstToken`, where there is something to read. -/
theorem firstToken_of_ne_nil {stream bs : Bytes} {b : UInt8} (h : stream = b :: bs) :
    firstToken stream =
      if b = 0 then .ok none
      else if (findTerminator stream).1 = [] then
        .error (.runtimeError "Empty key value. Dunno how to handle this!")
      else
        .ok (some (⟨strtol (findTerminator stream).1,
          .ofField (findTerminator (findTerminator stream).2).1
            ((findTerminator stream).2.drop
              (findTerminator (findTerminator stream).2).1.length)⟩,
          (findTerminator (findTerminator stream).2).2)) := by
  subst h
  rfl

/-- What follows a field lies at the position that `FindTerminator` returns. -/
theorem drop_rest (payload : Bytes) (start : Nat) :
    payload.drop (payload.length - (findTerminator (payload.drop start)).2.length) =
      (findTerminator (payload.drop start)).2 := by
  obtain ⟨mid, hStream⟩ := Terminator.cut_eq TerminatorByte1 TerminatorByte2 (payload.drop start)
  -- the rest is a suffix, so its length says where it starts
  have hSuffix : (findTerminator (payload.drop start)).2 <:+ payload := by
    refine List.IsSuffix.trans ?_ (List.drop_suffix start payload)
    exact ⟨_, by rw [List.append_assoc]; exact hStream.symm⟩
  exact (List.suffix_iff_eq_drop.mp hSuffix).symm

/-- **The iterators compute what `parse` computes**, from every position. -/
theorem parseFrom_eq (onKeyPair : Int32 → StringView → Action π Unit) (payload : Bytes)
    {start : Nat} (h : start ≤ payload.length) :
    parseFrom onKeyPair payload start =
      deliver onKeyPair (tokens (payload.drop start)).1 (tokens (payload.drop start)).2 := by
  -- on what is left of the payload; the reads succeed, so both sides make the same turn
  induction hLeft : payload.length - start using Nat.strong_induction_on generalizing start with
  | _ left ih =>
    rw [parseFrom, tokens_eq]
    by_cases hEnd : start = payload.length
    · rw [if_pos hEnd, hEnd, List.drop_length]
      rfl
    rw [if_neg hEnd]
    split
    · rename_i e hFetch
      exact absurd hFetch (fetch_ne_error (by omega))
    rename_i b hFetch
    rw [firstToken_of_ne_nil (drop_of_fetch hFetch)]
    by_cases hNul : b = 0
    · rw [if_pos hNul, if_pos hNul]
      rfl
    rw [if_neg hNul, if_neg hNul]
    -- the key
    split
    · rename_i e hKey
      rw [findTerminatorAt_eq h] at hKey
      cases hKey
    rename_i keyPosition hKey
    rw [findTerminatorAt_eq h] at hKey
    obtain rfl := Except.ok.inj hKey
    dsimp only
    rw [fetchRange_field h]
    by_cases hEmpty : (findTerminator (payload.drop start)).1 = []
    · rw [if_pos hEmpty, dif_pos (by rw [hEmpty]; rfl)]
      rfl
    have hPos := List.length_pos_of_ne_nil hEmpty
    rw [if_neg hEmpty, dif_neg (by omega)]
    -- the value
    have hRest := drop_rest payload start
    have hInside : payload.length - (findTerminator (payload.drop start)).2.length ≤
        payload.length := Nat.sub_le _ _
    have hForward := (findTerminatorAt_le (findTerminatorAt_eq h)).2
    dsimp only at hForward ⊢
    generalize payload.length - (findTerminator (payload.drop start)).2.length = next
      at hRest hInside hForward ⊢
    rw [← hRest]
    split
    · rename_i e hValue
      rw [findTerminatorAt_eq hInside] at hValue
      cases hValue
    rename_i position hValue
    have hForward' := (findTerminatorAt_le hValue).2
    rw [findTerminatorAt_eq hInside] at hValue
    obtain rfl := Except.ok.inj hValue
    dsimp only at hForward' ⊢
    rw [fetchRange_field hInside]
    dsimp only
    have hView : (if next = next + (findTerminator (payload.drop next)).1.length then .null
          else .view (findTerminator (payload.drop next)).1
            (payload.drop (next + (findTerminator (payload.drop next)).1.length))) =
        StringView.ofField (findTerminator (payload.drop next)).1
          ((payload.drop next).drop (findTerminator (payload.drop next)).1.length) := by
      unfold StringView.ofField
      rw [List.drop_drop]
      refine if_congr ?_ rfl rfl
      rw [← List.length_eq_zero_iff]
      omega
    have hTurn := ih _ (by omega) (Nat.sub_le payload.length
      (findTerminator (payload.drop next)).2.length) rfl
    rw [hView, hTurn, drop_rest]
    rfl

/-- **`Parse` reads inside the payload and stops**: it does what `parse` does. -/
theorem parseRange_eq (onKeyPair : Int32 → StringView → Action π Unit) (payload : Bytes) :
    parseRange onKeyPair payload = parse onKeyPair payload := by
  rw [parse_eq_tokens]
  exact parseFrom_eq onKeyPair payload (Nat.zero_le _)

/-! ## What a payload means -/

/-- A field ends at the first `C0 80`, at a lone `C0` that is the very last byte, or with
the payload. -/
abbrev Field : Bytes → Bytes → Bytes → Prop := Terminator.Ends TerminatorByte1 TerminatorByte2

/-- How a payload can end: properly, or with a field in a key's place that is empty. -/
inductive Ending
  | done
  | emptyKey
  deriving DecidableEq, Repr

/-- What `Parse` throws at the end. -/
def Ending.fault : Ending → Option Fault
  | .done => none
  | .emptyKey => some (.runtimeError "Empty key value. Dunno how to handle this!")

/-- **The grammar.** Fields are keys and values by turns. A NUL in a key's place ends the
payload, whatever comes after it; so does its end, and a value that is missing is empty. -/
inductive Reading : Bytes → List (Int32 × Bytes) → Ending → Prop
  | finish : Reading [] [] .done
  | nul (garbage : Bytes) : Reading (0 :: garbage) [] .done
  | emptyKey {b : UInt8} {bs rest : Bytes} :
      b ≠ 0 → Field (b :: bs) [] rest → Reading (b :: bs) [] .emptyKey
  | pair {b : UInt8} {bs key afterKey value rest : Bytes} {pairs : List (Int32 × Bytes)}
      {ending : Ending} :
      b ≠ 0 → Field (b :: bs) key afterKey → key ≠ [] → Field afterKey value rest →
        Reading rest pairs ending → Reading (b :: bs) ((strtol key, value) :: pairs) ending

/-- The pairs that tokens stand for. -/
def pairsOf (ts : List Token) : List (Int32 × Bytes) := ts.map fun t => (t.key, t.value.chars)

theorem field_findTerminator (stream : Bytes) :
    Field stream (findTerminator stream).1 (findTerminator stream).2 :=
  Terminator.ends_cut TerminatorByte1 TerminatorByte2 stream

theorem Field.eq {stream field rest : Bytes} (h : Field stream field rest) :
    findTerminator stream = (field, rest) := Terminator.Ends.cut_eq (by decide) h

/-- The tokens are a reading. -/
theorem reading_tokens (payload : Bytes) : ∃ ending : Ending,
    (tokens payload).2 = ending.fault ∧ Reading payload (pairsOf (tokens payload).1) ending := by
  -- on the length: a reading of the rest is extended by the first pair
  induction hLength : payload.length using Nat.strong_induction_on generalizing payload with
  | _ length ih =>
    rw [tokens_eq]
    cases payload with
    | nil => exact ⟨.done, rfl, .finish⟩
    | cons b bs =>
      rw [firstToken_of_ne_nil rfl]
      by_cases hNul : b = 0
      · rw [if_pos hNul, hNul]
        exact ⟨.done, rfl, .nul bs⟩
      rw [if_neg hNul]
      have hKey := field_findTerminator (b :: bs)
      by_cases hEmpty : (findTerminator (b :: bs)).1 = []
      · rw [if_pos hEmpty]
        rw [hEmpty] at hKey
        exact ⟨.emptyKey, rfl, .emptyKey hNul hKey⟩
      · have hLess := length_lt_of_firstToken
          ((firstToken_of_ne_nil rfl).trans ((if_neg hNul).trans (if_neg hEmpty)))
        rw [if_neg hEmpty]
        obtain ⟨ending, hFault, hRest⟩ := ih _ (hLength ▸ hLess) _ rfl
        refine ⟨ending, hFault, ?_⟩
        have hPair := Reading.pair hNul hKey hEmpty (field_findTerminator _) hRest
        rw [pairsOf, List.map_cons, StringView.chars_ofField]
        exact hPair

/-- There is no other reading. -/
theorem Reading.unique {payload : Bytes} {pairs : List (Int32 × Bytes)} {ending : Ending}
    (h : Reading payload pairs ending) :
    pairs = pairsOf (tokens payload).1 ∧ ending.fault = (tokens payload).2 := by
  -- on the reading: each rule fixes the first token
  induction h with
  | finish => exact ⟨rfl, rfl⟩
  | nul garbage =>
    rw [tokens_eq, firstToken_of_ne_nil rfl, if_pos rfl]
    exact ⟨rfl, rfl⟩
  | emptyKey hNul hKey =>
    rw [tokens_eq, firstToken_of_ne_nil rfl, if_neg hNul, hKey.eq, if_pos rfl]
    exact ⟨rfl, rfl⟩
  | pair hNul hKey hSome hValue _ ih =>
    rw [tokens_eq, firstToken_of_ne_nil rfl, if_neg hNul, hKey.eq, if_neg hSome]
    dsimp only
    rw [hValue.eq]
    dsimp only
    refine ⟨?_, ih.2⟩
    rw [ih.1, pairsOf, pairsOf, List.map_cons, StringView.chars_ofField]

theorem prefix_findTerminator (stream : Bytes) : (findTerminator stream).1 <+: stream := by
  obtain ⟨mid, hStream⟩ := Terminator.cut_eq TerminatorByte1 TerminatorByte2 stream
  exact ⟨_, hStream.symm⟩

theorem suffix_findTerminator (stream : Bytes) : (findTerminator stream).2 <:+ stream := by
  obtain ⟨mid, hStream⟩ := Terminator.cut_eq TerminatorByte1 TerminatorByte2 stream
  exact ⟨_, by rw [List.append_assoc]; exact hStream.symm⟩

/-- A view into the payload: null, or some of its bytes with those behind them. -/
def Within (payload : Bytes) : StringView → Prop
  | .null => True
  | .view chars beyond => chars ≠ [] ∧ chars ++ beyond <:+ payload

/-- The view of a field lies in the stream it was cut off. -/
theorem within_ofField {payload stream : Bytes} (h : stream <:+ payload) :
    Within payload (.ofField (findTerminator stream).1
      (stream.drop (findTerminator stream).1.length)) := by
  unfold StringView.ofField
  split_ifs with hEmpty
  · exact trivial
  · refine ⟨hEmpty, ?_⟩
    rw [List.prefix_iff_eq_append.mp (prefix_findTerminator stream)]
    exact h

/-- Every value lies in the payload, and is null if it is empty. -/
theorem within_tokens {payload : Bytes} {t : Token} (h : t ∈ (tokens payload).1) :
    Within payload t.value := by
  -- for every suffix of the payload, which is what the parser goes through
  suffices hAll : ∀ length stream, stream.length = length → stream <:+ payload →
      ∀ t ∈ (tokens stream).1, Within payload t.value from
    hAll _ payload rfl List.suffix_rfl t h
  intro length
  induction length using Nat.strong_induction_on with
  | _ length ih =>
    intro stream hLength hSuffix t ht
    rw [tokens_eq] at ht
    cases stream with
    | nil => exact absurd ht List.not_mem_nil
    | cons b bs =>
      rw [firstToken_of_ne_nil rfl] at ht
      by_cases hNul : b = 0
      · rw [if_pos hNul] at ht
        exact absurd ht List.not_mem_nil
      by_cases hEmpty : (findTerminator (b :: bs)).1 = []
      · rw [if_neg hNul, if_pos hEmpty] at ht
        exact absurd ht List.not_mem_nil
      have hLess := length_lt_of_firstToken
        ((firstToken_of_ne_nil rfl).trans ((if_neg hNul).trans (if_neg hEmpty)))
      have hAfterKey := (suffix_findTerminator (b :: bs)).trans hSuffix
      rw [if_neg hNul, if_neg hEmpty] at ht
      rcases List.mem_cons.mp ht with rfl | ht
      · exact within_ofField hAfterKey
      · exact ih _ (hLength ▸ hLess) _ rfl ((suffix_findTerminator _).trans hAfterKey) t ht

/-- **The parser accepts exactly its grammar, and always stops.** Every payload has one
reading. `Parse` hands its pairs to `OnKeyPair`, one after the other, as views into the
payload (null where a value is empty), and throws exactly when the reading ends with an
empty key; it reads nothing outside the payload, which would end in a fault of its own. -/
theorem parse_reads (payload : Bytes) :
    ∃ (pairs : List (Int32 × Bytes)) (ending : Ending) (ts : List Token),
      (∀ pairs' ending', Reading payload pairs' ending' ↔ pairs' = pairs ∧ ending' = ending) ∧
      pairsOf ts = pairs ∧ (∀ t ∈ ts, Within payload t.value) ∧
      ∀ (π : Type) (onKeyPair : Int32 → StringView → Action π Unit),
        parseRange onKeyPair payload = deliver onKeyPair ts ending.fault := by
  obtain ⟨ending, hFault, hReading⟩ := reading_tokens payload
  refine ⟨pairsOf (tokens payload).1, ending, (tokens payload).1, ?_, rfl,
    fun t => within_tokens, ?_⟩
  · intro pairs' ending'
    constructor
    · intro h
      obtain ⟨hPairs, hSame⟩ := h.unique
      -- two endings with the same fault are the same
      refine ⟨hPairs, ?_⟩
      have hEnding : ending'.fault = ending.fault := hSame.trans hFault
      cases ending' <;> cases ending <;> first | rfl | cases hEnding
    · intro ⟨hPairs, hEnding⟩
      rw [hPairs, hEnding]
      exact hReading
  · intro π onKeyPair
    rw [parseRange_eq, parse_eq_tokens, hFault]

/-- A truncated terminator, a missing value, and garbage behind a NUL. -/
example : tokens [0x34, 0xc0] = ([⟨4, .null⟩], none) ∧
    tokens [0x34] = ([⟨4, .null⟩], none) ∧
    tokens [0x34, 0xc0, 0x80, 0x61, 0xc0, 0x80, 0x00, 0xc0, 0x80] =
      ([⟨4, .view [0x61] [0xc0, 0x80, 0x00, 0xc0, 0x80]⟩], none) := by decide

end Giblet.YMsg.PacketParser
