import Giblet.Lib.EventLoop
import Giblet.YMsg.Login

/-!
# YMsg — ConnectionPump

One thread serves all sockets. The callback of a socket is its stream's
`ProcessPendingData`; a callback that answers `false` costs its own socket
only, but an exception leaves `Pump` altogether, and so does, at the end of
the turn, an `ioctlsocket` that fails. The C runtime's `rand()` is shared as
well: it numbers the sessions.

* `Client.onReady_quiet`, `Client.onReady_arrival` — what comes of a socket that is ready,
  without and with a packet to dispatch.
* `Client.onReady_ignores` — only an accepted `Authentication` looks at what is shared.
-/

namespace Giblet.YMsg

open Effect EventLoop

variable {σ : Type}

/-- The objects behind one socket, and the packets its dispatcher was handed. -/
structure Client (σ : Type) where
  stream : ProtocolStream
  endpoint : Endpoint σ
  dispatched : List (Header × Bytes)
  deriving DecidableEq

/-- What a ready socket answers: the size from `ioctlsocket` (`none` for
`SOCKET_ERROR`) and the outcome of `recv`. -/
structure Readiness where
  env : Env
  incomingSize : Option Nat
  received : Option Bytes

namespace Client

/-- A client that has just connected. -/
def new (connection : ClientConnection) : Client σ := ⟨⟨[]⟩, .new connection, []⟩

/-- The dispatcher of a client's stream. -/
def dispatcher (derived : Derived σ) (env : Env) :
    DispatcherFunction (Nat × Endpoint σ × List (Header × Bytes)) :=
  fun _ header payload following (draws, endpoint, dispatched) =>
    mapState (fun s => (s.1, s.2, dispatched ++ [(header, payload)]))
      (Endpoint.dispatchPacket derived env header payload following (draws, endpoint))

/-- The callback of a client's socket. -/
def onData (derived : Derived σ) (env : Env) (incomingSize : Nat) (received : Option Bytes) :
    Action (Nat × Client σ) Bool :=
  zoom (fun s => (s.2.stream, s.1, s.2.endpoint, s.2.dispatched))
    (fun t _ => (t.2.1, ⟨t.1, t.2.2.1, t.2.2.2⟩))
    (ProtocolStream.processPendingData (dispatcher derived env) incomingSize received)

/-- What `Pump` does with a socket that is ready. -/
def onReady (derived : Derived σ) (readiness : Readiness) : Action (Nat × Client σ) Verdict :=
  match readiness.incomingSize with
  -- an error of `ioctlsocket` ends the pump, a closed connection just its socket
  | none => pure .stop
  | some incomingSize => do
    if ← onData derived readiness.env incomingSize readiness.received then pure .keep
    else pure .drop

end Client

/-- `ConnectionPump` with the clients behind its sockets; what they share is the
number of calls of `rand()`. -/
abbrev ConnectionPump (σ : Type) := EventLoop Nat (Client σ) Nat

namespace ConnectionPump

/-- The number of sockets an `fd_set` holds; `FD_SET` ignores the others. -/
def FD_SETSIZE : Nat := 64

def unableToFind : Fault := .runtimeError "Unable to find socket callback"

/-- `ConnectionPump::AttachSocket`. -/
def attachSocket (pump : ConnectionPump σ) (socket : Nat) (client : Client σ) :
    ConnectionPump σ where
  members := (pump.members.emplace socket ()).getD pump.members
  component := fun x => if x = socket then client else pump.component x
  shared := pump.shared

/-- `ConnectionPump::Pump`, for the given answers of `select`. -/
def pump (derived : Derived σ) (selects : List (Nat → Option Readiness)) :
    Action (ConnectionPump σ) Unit :=
  run FD_SETSIZE unableToFind (Client.onReady derived) selects

end ConnectionPump

/-! ## A socket that is ready -/

/-- The packet at the front of the buffer, once it is complete. -/
def ProtocolStream.front (s : ProtocolStream) (env : Env) : Option Arrival :=
  if s.hasPacket then
    let header := Header.ofRaw (RawHeader.load s.data_)
    let rest := s.data_.drop RawHeader.size
    some ⟨env, header, rest.take header.payloadSize.toNat, rest.drop header.payloadSize.toNat⟩
  else none

/-- The stream when the data has been received; none if the other side has closed the
connection, or `recv` fails. -/
def Readiness.filled (readiness : Readiness) (s : ProtocolStream) : Option ProtocolStream :=
  match readiness.incomingSize, readiness.received with
  | some incomingSize, some bytes =>
    if incomingSize = 0 then none else some ⟨ProtocolStream.fill s.data_ incomingSize bytes⟩
  | _, _ => none

/-- The other side has closed the connection, or `recv` fails. -/
def Readiness.Closes (readiness : Readiness) : Prop :=
  readiness.incomingSize = some 0 ∨ readiness.received = none

theorem Readiness.closes_of_filled {readiness : Readiness} {s : ProtocolStream}
    (hSize : readiness.incomingSize ≠ none) (h : readiness.filled s = none) :
    readiness.Closes := by
  obtain ⟨env, incomingSize, received⟩ := readiness
  cases incomingSize with
  | none => exact absurd rfl hSize
  | some incomingSize =>
    cases received with
    | none => exact .inr rfl
    | some bytes =>
      unfold filled at h
      dsimp only at h
      split_ifs at h with hZero
      exact .inl (congrArg some hZero)

/-- The packet that is dispatched for the client. -/
def Client.arrival (client : Client σ) (readiness : Readiness) : Option Arrival :=
  (readiness.filled client.stream).bind fun s => s.front readiness.env

/-- The client after a packet was handed to its dispatcher. -/
def Client.handed (client : Client σ) (stream : ProtocolStream) (endpoint : Endpoint σ)
    (a : Arrival) : Client σ :=
  ⟨stream, endpoint, client.dispatched ++ [(a.header, a.payload)]⟩

/-- **What comes of a socket that is ready.** -/
theorem Client.onReady_run (derived : Derived σ) (readiness : Readiness) (draws : Nat)
    (client : Client σ) :
    onReady derived readiness (draws, client) =
      if readiness.incomingSize = none then .ok .stop (draws, client)
      else
        match readiness.filled client.stream with
        | none => .ok .drop (draws, client)
        | some stream =>
          match stream.front readiness.env with
          | none => .ok .keep (draws, { client with stream := stream })
          | some a =>
            match Endpoint.dispatchPacket derived a.env a.header a.payload a.following
              (draws, client.endpoint) with
            | .ok _ t => .ok .keep (t.1, client.handed ⟨a.following⟩ t.2 a)
            -- the packet stays in the buffer
            | .error e t => .error e (t.1, client.handed stream t.2 a) := by
  obtain ⟨env, incomingSize, received⟩ := readiness
  cases incomingSize with
  | none => rfl
  | some incomingSize =>
    rw [if_neg (by simp)]
    show (onData derived env incomingSize received >>= fun goesOn =>
      if goesOn then pure Verdict.keep else pure Verdict.drop) (draws, client) = _
    rw [bind_run]
    unfold onData zoom ProtocolStream.processPendingData Readiness.filled ProtocolStream.front
    by_cases hZero : incomingSize = 0
    · cases received <;> simp only [hZero, if_true] <;> rfl
    cases received with
    | none =>
      simp only [if_neg hZero]
      rfl
    | some bytes =>
      simp only [if_neg hZero]
      generalize ProtocolStream.fill client.stream.data_ incomingSize bytes = data
      cases hPacket : (⟨data⟩ : ProtocolStream).hasPacket with
      | false => rfl
      | true =>
        simp only [if_true, ProtocolStream.consume, hPacket, Bool.not_true, Bool.false_eq_true,
          if_false, dispatcher]
        cases Endpoint.dispatchPacket derived env _ _ _ (draws, client.endpoint) <;> rfl

/-- Without a packet to dispatch, the endpoint is left alone. -/
theorem Client.onReady_quiet (derived : Derived σ) {readiness : Readiness} {client : Client σ}
    (h : client.arrival readiness = none) :
    ∃ verdict stream, (verdict = .stop ↔ readiness.incomingSize = none) ∧
      (verdict = .drop → readiness.Closes) ∧
      ∀ draws, onReady derived readiness (draws, client) =
        .ok verdict (draws, { client with stream := stream }) := by
  unfold arrival at h
  simp only [onReady_run]
  by_cases hSize : readiness.incomingSize = none
  · refine ⟨.stop, client.stream, iff_of_true rfl hSize, by simp, fun draws => ?_⟩
    rw [if_pos hSize]
  cases hFilled : readiness.filled client.stream with
  | none =>
    refine ⟨.drop, client.stream, iff_of_false (by simp) hSize, fun _ =>
      Readiness.closes_of_filled hSize hFilled, fun draws => ?_⟩
    rw [if_neg hSize]
  | some stream =>
    rw [hFilled] at h
    have hFront : stream.front readiness.env = none := h
    refine ⟨.keep, stream, iff_of_false (by simp) hSize, by simp, fun draws => ?_⟩
    rw [if_neg hSize]
    simp only [hFront]

/-- A packet that arrives is handed to the dispatcher. -/
theorem Client.onReady_arrival (derived : Derived σ) {readiness : Readiness} {client : Client σ}
    {a : Arrival} (h : client.arrival readiness = some a) :
    readiness.incomingSize ≠ none ∧ ∃ stream, ∀ draws,
      onReady derived readiness (draws, client) =
        match Endpoint.dispatchPacket derived a.env a.header a.payload a.following
          (draws, client.endpoint) with
        | .ok _ t => .ok .keep (t.1, client.handed ⟨a.following⟩ t.2 a)
        | .error e t => .error e (t.1, client.handed stream t.2 a) := by
  unfold arrival at h
  simp only [onReady_run]
  cases hFilled : readiness.filled client.stream with
  | none =>
    rw [hFilled] at h
    cases h
  | some stream =>
    rw [hFilled] at h
    have hFront : stream.front readiness.env = some a := h
    have hSize : readiness.incomingSize ≠ none := by
      intro hNone
      unfold Readiness.filled at hFilled
      rw [hNone] at hFilled
      cases hFilled
    refine ⟨hSize, stream, fun draws => ?_⟩
    rw [if_neg hSize]
    simp only [hFront]

/-! ## Who looks at what is shared -/

/-- The client is logged in. -/
def Client.HasSession (client : Client σ) : Prop :=
  ∃ session, client.endpoint.processors_ = .session session

/-- The packet logs the client in, as far as it can be read. -/
def Client.LogsIn (client : Client σ) (a : Arrival) : Prop :=
  ∃ fields, Authenticates client.endpoint a fields

/-- **Only an `Authentication`** that can be read has a number drawn. -/
theorem dispatchPacket_ignores (derived : Derived σ) {e : Endpoint σ} {a : Arrival}
    (h : ∀ fields, ¬ Authenticates e a fields) :
    Ignores (Endpoint.dispatchPacket derived a.env a.header a.payload a.following) e := by
  -- an answer works on the connection alone
  have hTransmit (m : Message) (e : Endpoint σ) : Ignores (AuthenticationHandler.transmit m) e := by
    refine ⟨mapState (fun c => { e with connection_ := c })
      (ClientConnection.transmit m e.connection_), fun draws => ?_⟩
    unfold AuthenticationHandler.transmit zoom
    dsimp only
    cases ClientConnection.transmit m e.connection_ <;> rfl
  unfold Endpoint.dispatchPacket
  cases hMap : e.processors_ with
  | session session =>
    refine ⟨mapState (fun t => { e with connection_ := t.1, processors_ := .session t.2 })
      (dispatch (derived.find a.env a.header.serviceId) a.payload a.following
        (e.connection_, session)), fun draws => ?_⟩
    simp only [hMap, Endpoint.onSession, zoom]
    cases dispatch (derived.find a.env a.header.serviceId) a.payload a.following
      (e.connection_, session) <;> rfl
  | login =>
    simp only [Ignores, hMap, AuthenticationHandler.dispatch_find]
    split_ifs with hSync hChallenge hAuthenticate
    · unfold AuthenticationHandler.onProtocolSync
      cases PacketParser.parse (fun _ _ => pure ()) a.payload () with
      | ok _ fields =>
        exact hTransmit .protocolAck
          { e with connection_ := e.connection_.setProtocolVersion a.header.protoVersion }
      | error f fields => exact ⟨.error f e, fun draws => rfl⟩
    · unfold AuthenticationHandler.onChallengeRequest
      cases PacketParser.parse Payloads.ChallengeRequest.onKeyPair a.payload {} with
      | ok _ fields =>
        exact hTransmit (.challengeResponse fields.clientId.chars)
          { e with handler := { e.handler with clientId_ := fields.clientId.chars } }
      | error f fields => exact ⟨.error f e, fun draws => rfl⟩
    · unfold AuthenticationHandler.onAuthenticate
      cases hParse : PacketParser.parse Payloads.Authentication.onKeyPair a.payload {} with
      | ok _ fields => exact absurd ⟨hMap, hAuthenticate, hParse⟩ (h fields)
      | error f fields => exact ⟨.error f e, fun draws => rfl⟩
    · unfold dispatch
      cases PacketParser.parse (fun _ _ => pure ()) a.payload () with
      | ok _ fields => exact ⟨.ok () e, fun draws => rfl⟩
      | error f fields => exact ⟨.error f e, fun draws => rfl⟩

/-- A client that does not log in is served alike whatever was drawn before. -/
theorem Client.onReady_ignores (derived : Derived σ) {readiness : Readiness} {client : Client σ}
    (h : ∀ a, client.arrival readiness = some a → ¬ client.LogsIn a) :
    Ignores (onReady derived readiness) client := by
  cases hArrival : client.arrival readiness with
  | none =>
    obtain ⟨verdict, stream, -, -, hRun⟩ := onReady_quiet derived hArrival
    exact ⟨.ok verdict { client with stream := stream }, hRun⟩
  | some a =>
    obtain ⟨-, stream, hRun⟩ := onReady_arrival derived hArrival
    obtain ⟨x, hEvery⟩ := dispatchPacket_ignores derived (not_exists.mp (h a hArrival))
    cases x with
    | ok _ e =>
      refine ⟨.ok .keep (client.handed ⟨a.following⟩ e a), fun draws => ?_⟩
      rw [hRun, hEvery]
      rfl
    | error f e =>
      refine ⟨.error f (client.handed stream e a), fun draws => ?_⟩
      rw [hRun, hEvery]
      rfl

/-- A session does not end. -/
theorem Client.HasSession.onReady {client : Client σ} (h : client.HasSession)
    (derived : Derived σ) (readiness : Readiness) (draws : Nat) :
    (finalState (Client.onReady derived readiness (draws, client))).2.HasSession := by
  -- a session's map works on the connection and the session alone
  have hDispatch (a : Arrival) : ∃ session, (finalState (Endpoint.dispatchPacket derived a.env
      a.header a.payload a.following (draws, client.endpoint))).2.processors_ =
        .session session := by
    obtain ⟨session, hSession⟩ := h
    unfold Endpoint.dispatchPacket
    simp only [hSession, Endpoint.onSession, finalState_zoom]
    exact ⟨_, rfl⟩
  cases hArrival : client.arrival readiness with
  | none =>
    obtain ⟨verdict, stream, -, -, hRun⟩ := Client.onReady_quiet derived hArrival
    rw [hRun]
    exact h
  | some a =>
    obtain ⟨-, stream, hRun⟩ := Client.onReady_arrival derived hArrival
    have hAfter := hDispatch a
    rw [hRun]
    revert hAfter
    cases Endpoint.dispatchPacket derived a.env a.header a.payload a.following
      (draws, client.endpoint) with
    | ok _ t => exact id
    | error f t => exact id

end Giblet.YMsg
