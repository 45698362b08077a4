import Giblet.YMsg.Header

/-!
# YMsg — ProtocolStream

The receive buffer of one connection. `processPendingData` is handed the
outcome of `recv`: `none` for `SOCKET_ERROR`, otherwise the bytes delivered.
The iterators a dispatcher receives are rendered as the payload bytes and
the bytes of the buffer that follow the payload.
-/

namespace Giblet.YMsg

/-- `ProtocolStream`, less its dispatcher, which is passed to the operations. -/
structure ProtocolStream where
  data_ : Bytes
  deriving DecidableEq, Repr

/-- `ProtocolStream::DispatcherFunction`: stream, header, payload, what follows it. -/
abbrev DispatcherFunction (σ : Type) :=
  ProtocolStream → Header → Bytes → Bytes → Action σ Unit

namespace ProtocolStream

/-- `ProtocolStream::HasHeader`. -/
def hasHeader (s : ProtocolStream) : Bool := RawHeader.size ≤ s.data_.length

/-- `ProtocolStream::GetRawHeader`; `none` is the null pointer. -/
def getRawHeader (s : ProtocolStream) : Option RawHeader :=
  if s.hasHeader then some (RawHeader.load s.data_) else none

/-- `ProtocolStream::HasPacket`. -/
def hasPacket (s : ProtocolStream) : Bool :=
  match s.getRawHeader with
  | none => false
  | some header => (ntohs header.payloadSize).toNat + RawHeader.size ≤ s.data_.length

variable {σ : Type}

/-- `ProtocolStream::Consume`. A dispatcher that throws leaves the packet in
the buffer: the `erase` is not reached. -/
def consume (dispatcher : DispatcherFunction σ) : Action (ProtocolStream × σ) Unit :=
  fun (s, w) =>
    if !s.hasPacket then
      .error (.runtimeError "Unable to consume data") (s, w)
    else
      -- the header is copied out, the payload is handed on where it lies
      let header := Header.ofRaw (RawHeader.load s.data_)
      let rest := s.data_.drop RawHeader.size
      let payload := rest.take header.payloadSize.toNat
      let following := rest.drop header.payloadSize.toNat
      match dispatcher s header payload following w with
      | .ok _ w' => .ok () (⟨following⟩, w')
      | .error e w' => .error e (s, w')

/-- The buffer after `recv` into its last `incomingSize` bytes; `resize` has
filled with zeros what a short `recv` does not reach. -/
def fill (data : Bytes) (incomingSize : Nat) (received : Bytes) : Bytes :=
  data ++ received.take incomingSize ++ List.replicate (incomingSize - received.length) 0

/-- `ProtocolStream::ProcessPendingData`. -/
def processPendingData (dispatcher : DispatcherFunction σ) (incomingSize : Nat)
    (received : Option Bytes) : Action (ProtocolStream × σ) Bool :=
  fun (s, w) =>
    -- the other side has closed the connection
    if incomingSize = 0 then
      .ok false (s, w)
    else
      match received with
      | none => .ok false (s, w)
      | some bytes =>
        let s' : ProtocolStream := ⟨fill s.data_ incomingSize bytes⟩
        -- one packet at most, whatever else is complete
        if s'.hasPacket then
          match consume dispatcher (s', w) with
          | .ok _ r => .ok true r
          | .error e r => .error e r
        else
          .ok true (s', w)

/-! ## Facts about one call -/

@[simp] theorem fill_full (data received : Bytes) :
    fill data received.length received = data ++ received := by
  simp [fill]

/-- A call whose `recv` fails changes nothing. -/
theorem processPendingData_none (dispatcher : DispatcherFunction σ) (incomingSize : Nat)
    (s : ProtocolStream) (w : σ) :
    processPendingData dispatcher incomingSize none (s, w) = .ok false (s, w) := by
  simp only [processPendingData]
  split <;> rfl

end ProtocolStream

end Giblet.YMsg
