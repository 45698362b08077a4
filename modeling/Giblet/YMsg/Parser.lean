import Giblet.Lib.Numeral
import Giblet.Lib.Terminator
import Giblet.YMsg.ProtocolStream

/-!
# YMsg — PacketParser

A payload is a sequence of keys and values, each followed by the bytes
`C0 80`. Values are handed on as views into the payload: a `StringView` knows
what stands behind its end there, because some of its readers do not stop
where it does.

`parse_eq_tokens` separates the two things `parse` does: `tokens` splits the
payload, and the payload object's `OnKeyPair` is called once for each token.
-/

namespace Giblet.YMsg

/-- `std::string_view` into a payload: null, or some characters with the rest of
the payload behind them. -/
inductive StringView
  | null
  | view (chars beyond : Bytes)
  deriving DecidableEq, Repr

namespace StringView

/-- The characters of a view. -/
def chars : StringView → Bytes
  | .null => []
  | .view chars _ => chars

/-- What lies from `data()` on in a receive buffer in which `following` comes
after the payload; `none` for a null pointer. -/
def memory (following : Bytes) : StringView → Option Bytes
  | .null => none
  | .view chars beyond => some (chars ++ beyond ++ following)

/-- The view the parser makes of a field: an empty one has no data pointer. -/
def ofField (field beyond : Bytes) : StringView :=
  if field = [] then .null else .view field beyond

@[simp] theorem chars_ofField (field beyond : Bytes) : (ofField field beyond).chars = field := by
  unfold ofField
  split
  · rename_i h
    rw [h]
    rfl
  · rfl

end StringView

/-- A value brought into the range of a 32-bit `long`, as `strtol` clamps it. -/
def clampLong (value : Int) : Int32 := Int32.ofInt (max (-2 ^ 31) (min value (2 ^ 31 - 1)))

/-- `std::strtol(str.c_str(), nullptr, 10)`. -/
def strtol (str : Bytes) : Int32 :=
  match Numeral.scan (str ++ [0]) with
  | none => 0
  | some scanned => clampLong scanned.value

namespace PacketParser

def TerminatorByte1 : UInt8 := 0xc0

def TerminatorByte2 : UInt8 := 0x80

/-- `PacketParser::FindTerminator`: the bytes before the terminator, and the
bytes from the position after it. -/
def findTerminator : Bytes → Bytes × Bytes :=
  Terminator.cut TerminatorByte1 TerminatorByte2

variable {π : Type}

/-- The loop of `PacketParser::Parse`, from the position `start` of the payload. -/
def parseLoop (onKeyPair : Int32 → StringView → Action π Unit) : Nat → Bytes → Action π Unit
  | 0, _ => pure ()
  | _ + 1, [] => pure ()
  | fuel + 1, b :: bs =>
    -- a zero byte where a key should start ends the payload
    if b = 0 then
      pure ()
    else
      let position := findTerminator (b :: bs)
      if position.1 = [] then
        throw (.runtimeError "Empty key value. Dunno how to handle this!")
      else do
        let key := strtol position.1
        let start := position.2
        let position := findTerminator start
        let value := position.1
        -- the view keeps what follows the value: a null terminator is not among it
        onKeyPair key (.ofField value (start.drop value.length))
        parseLoop onKeyPair fuel position.2

/-- `PacketParser::Parse`. Every turn of the loop takes at least one byte off
the payload (`length_lt_of_firstToken`), so its length is fuel enough. -/
def parse (onKeyPair : Int32 → StringView → Action π Unit) (payload : Bytes) : Action π Unit :=
  parseLoop onKeyPair payload.length payload

/-! ## Tokens -/

/-- A key and the view of its value. -/
structure Token where
  key : Int32
  value : StringView
  deriving DecidableEq, Repr

/-- The first token of a payload and what is left after it; `none` when the
payload ends here, and an error when the key is empty. -/
def firstToken : Bytes → Except Fault (Option (Token × Bytes))
  | [] => .ok none
  | b :: bs =>
    if b = 0 then .ok none
    else
      let first := findTerminator (b :: bs)
      if first.1 = [] then
        .error (.runtimeError "Empty key value. Dunno how to handle this!")
      else
        let second := findTerminator first.2
        .ok (some (⟨strtol first.1, .ofField second.1 (first.2.drop second.1.length)⟩, second.2))

theorem length_lt_of_firstToken {payload next : Bytes} {t : Token}
    (h : firstToken payload = .ok (some (t, next))) : next.length < payload.length := by
  cases payload with
  | nil => simp [firstToken] at h
  | cons b bs =>
    simp only [firstToken] at h
    split_ifs at h with hZero hKey
    · cases h
    · cases h
      -- the key is not empty, so the first cut takes at least its bytes
      have hFirst := Terminator.length_cut_snd_le TerminatorByte1 TerminatorByte2 (b :: bs)
      have hSecond := Terminator.length_cut_snd_le TerminatorByte1 TerminatorByte2
        (findTerminator (b :: bs)).2
      have hPos : 0 < (findTerminator (b :: bs)).1.length := List.length_pos_of_ne_nil hKey
      simp only [findTerminator] at hPos hSecond ⊢
      omega

/-- The tokens of a payload, and the fault that ends the parse, if any. -/
def tokensLoop : Nat → Bytes → List Token × Option Fault
  | 0, _ => ([], none)
  | fuel + 1, payload =>
    match firstToken payload with
    | .error e => ([], some e)
    | .ok none => ([], none)
    | .ok (some (t, next)) =>
      let (ts, e) := tokensLoop fuel next
      (t :: ts, e)

def tokens (payload : Bytes) : List Token × Option Fault :=
  tokensLoop payload.length payload

theorem tokensLoop_fuel {payload : Bytes} {fuel : Nat} (h : payload.length ≤ fuel) :
    tokensLoop fuel payload = tokens payload := by
  -- enough fuel for one side is enough for the other, so both are left open
  suffices hAll : ∀ fuel' payload, payload.length ≤ fuel' → ∀ fuel, payload.length ≤ fuel →
      tokensLoop fuel payload = tokensLoop fuel' payload from
    hAll payload.length payload le_rfl fuel h
  intro fuel'
  induction fuel' with
  | zero =>
    intro payload hZero fuel _
    obtain rfl := List.eq_nil_of_length_eq_zero (Nat.le_zero.mp hZero)
    cases fuel <;> rfl
  | succ n ih =>
    intro payload hLength fuel hFuel
    cases fuel with
    | zero =>
      obtain rfl := List.eq_nil_of_length_eq_zero (Nat.le_zero.mp hFuel)
      rfl
    | succ m =>
      simp only [tokensLoop]
      cases hFirst : firstToken payload with
      | error e => rfl
      | ok r =>
        cases r with
        | none => rfl
        | some p =>
          have hNext := length_lt_of_firstToken hFirst
          simp only [ih p.2 (by omega) m (by omega)]

/-- `tokens` one token at a time. -/
theorem tokens_eq (payload : Bytes) :
    tokens payload =
      match firstToken payload with
      | .error e => ([], some e)
      | .ok none => ([], none)
      | .ok (some (t, next)) => (t :: (tokens next).1, (tokens next).2) := by
  rw [← tokensLoop_fuel (Nat.le_succ payload.length), tokensLoop]
  cases hFirst : firstToken payload with
  | error e => rfl
  | ok r =>
    cases r with
    | none => rfl
    | some p =>
      have hNext := length_lt_of_firstToken hFirst
      simp only [tokensLoop_fuel (le_of_lt hNext)]

/-- **Induction on the tokens** of a payload, along the loop of `Parse`. -/
theorem tokens_induction {P : Bytes → List Token × Option Fault → Prop}
    (failed : ∀ payload e, firstToken payload = .error e → P payload ([], some e))
    (finished : ∀ payload, firstToken payload = .ok none → P payload ([], none))
    (next : ∀ payload t rest, firstToken payload = .ok (some (t, rest)) →
      P rest (tokens rest) → P payload (t :: (tokens rest).1, (tokens rest).2))
    (payload : Bytes) : P payload (tokens payload) := by
  -- the rest of a payload is no part of its structure, but it is shorter
  induction hLength : payload.length using Nat.strong_induction_on generalizing payload with
  | h n ih =>
    rw [tokens_eq]
    cases hFirst : firstToken payload with
    | error e => exact failed payload e hFirst
    | ok r =>
      cases r with
      | none => exact finished payload hFirst
      | some p =>
        have hNext := length_lt_of_firstToken hFirst
        exact next payload p.1 p.2 hFirst (ih _ (hLength ▸ hNext) p.2 rfl)

/-- Hand the tokens to `OnKeyPair` one after another, then fail or return. -/
def deliver (onKeyPair : Int32 → StringView → Action π Unit) :
    List Token → Option Fault → Action π Unit
  | [], none => pure ()
  | [], some e => throw e
  | t :: ts, e => do
    onKeyPair t.key t.value
    deliver onKeyPair ts e

/-- One turn of the loop, by its first token. -/
theorem parseLoop_succ (onKeyPair : Int32 → StringView → Action π Unit) (fuel : Nat)
    (payload : Bytes) :
    parseLoop onKeyPair (fuel + 1) payload =
      match firstToken payload with
      | .error e => throw e
      | .ok none => pure ()
      | .ok (some (t, next)) => (do
        onKeyPair t.key t.value
        parseLoop onKeyPair fuel next) := by
  cases payload with
  | nil => rfl
  | cons b bs =>
    simp only [parseLoop, firstToken]
    split_ifs <;> rfl

/-- **What parse does.** It splits the payload into tokens and hands them over. -/
theorem parse_eq_tokens (onKeyPair : Int32 → StringView → Action π Unit) (payload : Bytes) :
    parse onKeyPair payload = deliver onKeyPair (tokens payload).1 (tokens payload).2 := by
  suffices hAll : ∀ fuel payload, payload.length ≤ fuel →
      parseLoop onKeyPair fuel payload =
        deliver onKeyPair (tokens payload).1 (tokens payload).2 from
    hAll payload.length payload le_rfl
  -- on the fuel, which the first token always uses up faster than the payload
  intro fuel
  induction fuel with
  | zero =>
    intro payload hZero
    obtain rfl := List.eq_nil_of_length_eq_zero (Nat.le_zero.mp hZero)
    rfl
  | succ n ih =>
    intro payload hLength
    rw [parseLoop_succ, tokens_eq]
    cases hFirst : firstToken payload with
    | error e => rfl
    | ok r =>
      cases r with
      | none => rfl
      | some p =>
        have hNext := length_lt_of_firstToken hFirst
        simp only [deliver, ih p.2 (by omega)]

/-- The fault a parse ends in is always the same one. -/
theorem tokens_fault {payload : Bytes} {e : Fault} (h : (tokens payload).2 = some e) :
    e = .runtimeError "Empty key value. Dunno how to handle this!" := by
  refine tokens_induction (P := fun _ ts => ts.2 = some e →
    e = .runtimeError "Empty key value. Dunno how to handle this!") ?_ ?_ ?_ payload h
  · intro payload e' hFirst h
    obtain rfl := Option.some.inj h
    cases payload with
    | nil => simp [firstToken] at hFirst
    | cons b bs =>
      simp only [firstToken] at hFirst
      split_ifs at hFirst
      exact (Except.error.inj hFirst).symm
  · intro payload hFirst h
    cases h
  · intro payload t rest hFirst ih h
    exact ih h

end PacketParser

end Giblet.YMsg
