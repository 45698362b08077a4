import Giblet.Lib.Numeral
import Giblet.YMsg.Header

/-!
# YMsg — Builder

The buffer an outgoing packet is assembled in. `send` answers the one byte
string that `Send` hands to `ClientConnection::SendToClient`.

A packet built field by field either is its header, with the payload's size
filled in, followed by the encoded fields (`build_of_fits`), or, when that
reaches 64k, ends in the builder's one exception (`build_of_not_fits`).
-/

namespace Giblet.YMsg

/-- `Builder`; the capacity it reserves is left out. -/
structure Builder where
  buffer_ : Bytes
  deriving DecidableEq, Repr

namespace Builder

def PaxPayloadSize : Nat := 0x10000

/-- The terminator behind every key and every value. -/
def terminator : Bytes := [0xc0, 0x80]

/-- `Builder::Initialize(header)`. -/
def initializeHeader (header : Header) : Action Builder Unit :=
  fun _ => .ok () ⟨header.toRaw.store⟩

/-- `Builder::Append(key, string_view)`. The size check leaves out the value. -/
def append (key : Int32) (value : Bytes) : Action Builder Unit := fun b =>
  let keyString := Numeral.ofInt key.toInt
  -- two terminators are counted, the value between them is not
  if b.buffer_.length + keyString.length + terminator.length + terminator.length
      ≥ PaxPayloadSize then
    .error (.runtimeError "Payload size too large. Not handled!") b
  else
    .ok () ⟨b.buffer_ ++ keyString ++ terminator ++ value ++ terminator⟩

/-- The buffer with the header's `payloadSize` overwritten. -/
def setPayloadSize (buffer_ : Bytes) (payloadSize : UInt16) : Bytes :=
  buffer_.take 8 ++ store16 payloadSize ++ buffer_.drop 10

/-- `Builder::Send`; answers what it passes to `SendToClient`. -/
def send : Action Builder Bytes := fun b =>
  if b.buffer_.length ≥ PaxPayloadSize then
    .error (.runtimeError "Payload size too large. Not handled!") b
  else
    .ok (setPayloadSize b.buffer_ (htons (UInt16.ofNat (b.buffer_.length - RawHeader.size)))) ⟨[]⟩

/-- One `Append` for each pair, in order. -/
def appendAll : List (Int32 × Bytes) → Action Builder Unit
  | [] => pure ()
  | (key, value) :: pairs => do
    append key value
    appendAll pairs

/-- `Initialize`, the `Append`s, `Send`. -/
def build (header : Header) (pairs : List (Int32 × Bytes)) : Action Builder Bytes := do
  initializeHeader header
  appendAll pairs
  send

/-! ## What a build comes to -/

/-- A field as `Append` writes it. -/
def encodePair (pair : Int32 × Bytes) : Bytes :=
  Numeral.ofInt pair.1.toInt ++ terminator ++ pair.2 ++ terminator

/-- The payload of a packet with these fields. -/
def encode (pairs : List (Int32 × Bytes)) : Bytes := pairs.flatMap encodePair

@[simp] theorem encode_nil : encode [] = [] := rfl

@[simp] theorem encode_cons (pair : Int32 × Bytes) (pairs : List (Int32 × Bytes)) :
    encode (pair :: pairs) = encodePair pair ++ encode pairs := rfl

theorem length_encodePair (pair : Int32 × Bytes) :
    (encodePair pair).length = (Numeral.ofInt pair.1.toInt).length + 4 + pair.2.length := by
  simp only [encodePair, terminator, List.length_append, List.length_cons, List.length_nil]
  omega

/-- The exception of an oversized packet. -/
def tooLarge : Fault := .runtimeError "Payload size too large. Not handled!"

theorem append_run (key : Int32) (value : Bytes) (b : Builder) :
    append key value b =
      if b.buffer_.length + (Numeral.ofInt key.toInt).length + 4 < PaxPayloadSize then
        .ok () ⟨b.buffer_ ++ encodePair (key, value)⟩
      else .error tooLarge b := by
  have hTerminator : terminator.length = 2 := rfl
  by_cases h : b.buffer_.length + (Numeral.ofInt key.toInt).length + 4 < PaxPayloadSize
  · rw [if_pos h, append, hTerminator, if_neg (by omega)]
    simp only [encodePair, List.append_assoc]
  · rw [if_neg h, append, hTerminator, if_pos (by omega)]
    rfl

/-- Appends succeed whenever the finished packet is small enough: the checks on
the way see shorter buffers. -/
theorem appendAll_fits {pairs : List (Int32 × Bytes)} {b : Builder}
    (h : b.buffer_.length + (encode pairs).length < PaxPayloadSize) :
    appendAll pairs b = .ok () ⟨b.buffer_ ++ encode pairs⟩ := by
  -- on the fields: each check sees a buffer shorter than the finished packet
  induction pairs generalizing b with
  | nil => simp [appendAll, pure, EStateM.pure]
  | cons pair pairs ih =>
    obtain ⟨key, value⟩ := pair
    have hLength := length_encodePair (key, value)
    simp only at hLength
    rw [encode_cons, List.length_append] at h
    simp only [appendAll, bind, EStateM.bind, append_run]
    rw [if_pos (by omega)]
    simp only
    rw [ih (by rw [List.length_append]; omega), encode_cons, List.append_assoc]

/-- Appends that end in an oversized packet either all succeed or stop with `tooLarge`. -/
theorem appendAll_cases (pairs : List (Int32 × Bytes)) (b : Builder) :
    appendAll pairs b = .ok () ⟨b.buffer_ ++ encode pairs⟩ ∨
      ∃ b', appendAll pairs b = .error tooLarge b' := by
  -- on the fields again; the first check that fails ends it
  induction pairs generalizing b with
  | nil =>
    left
    simp [appendAll, pure, EStateM.pure]
  | cons pair pairs ih =>
    obtain ⟨key, value⟩ := pair
    simp only [appendAll, bind, EStateM.bind, append_run]
    split
    · rename_i hOk
      split at hOk
      · cases hOk
        rcases ih ⟨b.buffer_ ++ encodePair (key, value)⟩ with h | ⟨b', h⟩
        · left
          rw [h, encode_cons, List.append_assoc]
        · exact .inr ⟨b', h⟩
      · cases hOk
    · rename_i hError
      split at hError
      · cases hError
      · cases hError
        exact .inr ⟨_, rfl⟩

/-- The header of a packet of the given payload size. -/
def sized (header : Header) (payload : Bytes) : Header :=
  { header with payloadSize := UInt16.ofNat payload.length }

theorem setPayloadSize_store (header : Header) (payload : Bytes) :
    setPayloadSize (header.toRaw.store ++ payload)
        (htons (UInt16.ofNat ((header.toRaw.store ++ payload).length - RawHeader.size))) =
      (sized header payload).toRaw.store ++ payload := by
  rw [List.length_append, RawHeader.length_store, Nat.add_sub_cancel_left]
  rfl

theorem send_run (buffer_ : Bytes) :
    send ⟨buffer_⟩ =
      if buffer_.length < PaxPayloadSize then
        .ok (setPayloadSize buffer_ (htons (UInt16.ofNat (buffer_.length - RawHeader.size)))) ⟨[]⟩
      else .error tooLarge ⟨buffer_⟩ := by
  by_cases h : buffer_.length < PaxPayloadSize
  · rw [if_pos h, send, if_neg (Nat.not_le.mpr h)]
  · rw [if_neg h, send, if_pos (Nat.not_lt.mp h)]
    rfl

theorem build_run (header : Header) (pairs : List (Int32 × Bytes)) (b : Builder) :
    build header pairs b = (appendAll pairs >>= fun _ => send) ⟨header.toRaw.store⟩ := rfl

/-- **A packet that stays below 64k** is its header, with the payload's size
filled in, followed by the encoded fields. -/
theorem build_of_fits (header : Header) {pairs : List (Int32 × Bytes)} (b : Builder)
    (h : RawHeader.size + (encode pairs).length < PaxPayloadSize) :
    build header pairs b =
      .ok ((sized header (encode pairs)).toRaw.store ++ encode pairs) ⟨[]⟩ := by
  have hAppend : appendAll pairs ⟨header.toRaw.store⟩ =
      .ok () ⟨header.toRaw.store ++ encode pairs⟩ :=
    appendAll_fits (by rw [RawHeader.length_store]; exact h)
  simp only [build_run, bind, EStateM.bind, hAppend, send_run]
  rw [if_pos (by rw [List.length_append, RawHeader.length_store]; exact h), setPayloadSize_store]

/-- **A packet that does not** is never sent: an `Append` or `Send` throws. -/
theorem build_of_not_fits (header : Header) {pairs : List (Int32 × Bytes)} (b : Builder)
    (h : ¬ RawHeader.size + (encode pairs).length < PaxPayloadSize) :
    ∃ b', build header pairs b = .error tooLarge b' := by
  simp only [build_run, bind, EStateM.bind]
  rcases appendAll_cases pairs ⟨header.toRaw.store⟩ with hAppend | ⟨b', hAppend⟩
  -- the appends may all succeed: then `Send` throws
  · refine ⟨⟨header.toRaw.store ++ encode pairs⟩, ?_⟩
    rw [hAppend]
    simp only [send_run]
    rw [if_neg (by rw [List.length_append, RawHeader.length_store]; exact h)]
  · exact ⟨b', by rw [hAppend]⟩

end Builder

end Giblet.YMsg
