import Giblet.YMsg.Acceptance
import Giblet.YMsg.ConnectionPump

/-!
# YMsg — what one client does to the others

All sockets of a pump are served by one thread, so that a packet of one client can
end the service of all. `Orderly` says of an event when it does not, by the
packet that it brings and the state that it finds.

* `Client.onReady_goesOn_iff` — the events after which the pump goes on.
* `pump_isolates` — a client whose events are orderly does not disturb the others.
* `pump_disturbed` — a packet with an empty key does.
-/

namespace Giblet.YMsg

open Effect EventLoop MockAuthenticationHandler

/-- **The pump goes on** after a socket was served exactly when `ioctlsocket` succeeds and the
packet that is dispatched, if any, is accepted. -/
theorem Client.onReady_goesOn_iff (readiness : Readiness) (draws : Nat)
    (client : Client Managers) :
    (∃ verdict r, onReady mock readiness (draws, client) = .ok verdict r ∧ verdict ≠ .stop) ↔
      readiness.incomingSize ≠ none ∧
        ∀ p, client.arrival readiness = some p → Accepts (draws, client.endpoint) p := by
  cases hArrival : client.arrival readiness with
  | none =>
    obtain ⟨verdict, stream, hStop, -, hRun⟩ := onReady_quiet mock hArrival
    rw [hRun]
    constructor
    · rintro ⟨verdict', r, hOk, hGoesOn⟩
      cases hOk
      exact ⟨mt hStop.mpr hGoesOn, fun p hNone => by cases hNone⟩
    · exact fun h => ⟨verdict, _, rfl, mt hStop.mp h.1⟩
  | some p =>
    obtain ⟨hSize, stream, hRun⟩ := onReady_arrival mock hArrival
    rw [hRun, and_iff_right hSize]
    simp only [Option.some.injEq, forall_eq']
    rw [← dispatchPacket_returned_iff]
    cases Endpoint.dispatchPacket mock p.env p.header p.payload p.following
      (draws, client.endpoint) with
    | ok _ t => exact iff_of_true ⟨_, _, rfl, by simp⟩ rfl
    | error e t => exact iff_of_false (fun ⟨_, _, h, _⟩ => by cases h) fun h => by cases h

/-! ## Who has used what is shared -/

/-- A number is drawn only for a client that gets its session by it. -/
theorem Client.onReady_draws {readiness : Readiness} {draws : Nat} {client : Client Managers}
    {verdict : Verdict} {r : Nat × Client Managers}
    (hOk : onReady mock readiness (draws, client) = .ok verdict r) (hDraws : r.1 ≠ draws) :
    ¬ client.HasSession ∧ r.2.HasSession := by
  -- otherwise the packet would not have looked at the number
  have hLogsIn : ∃ p, client.arrival readiness = some p ∧ client.LogsIn p := by
    by_contra hNone
    have hIgnores : Ignores (onReady mock readiness) client :=
      onReady_ignores mock fun p hp hLogsIn => hNone ⟨p, hp, hLogsIn⟩
    obtain ⟨x, hEvery⟩ := hIgnores
    rw [hEvery] at hOk
    cases x with
    | ok v c =>
      cases hOk
      exact hDraws rfl
    | error e c => cases hOk
  obtain ⟨p, hArrival, fields, hAuthenticates⟩ := hLogsIn
  have hNoSession : ¬ client.HasSession := by
    intro ⟨session, hSession⟩
    cases hAuthenticates.1.symm.trans hSession
  refine ⟨hNoSession, ?_⟩
  obtain ⟨-, stream, hRun⟩ := onReady_arrival mock hArrival
  rw [hRun] at hOk
  -- the authentication completes, and the map is the session's
  cases hDispatch : Endpoint.dispatchPacket mock p.env p.header p.payload p.following
      (draws, client.endpoint) with
  | error e t =>
    rw [hDispatch] at hOk
    cases hOk
  | ok _ t =>
    rw [hDispatch] at hOk
    cases hOk
    have hStep : Endpoint.Step mock (draws, client.endpoint) p t := by
      unfold Endpoint.Step
      rw [hDispatch]
      exact ⟨.ok _ _, rfl⟩
    have hReturned : returned (Endpoint.dispatchPacket mock p.env p.header p.payload p.following
        (draws, client.endpoint)) = true := by rw [hDispatch]; rfl
    have hMap : t.2.processors_ ≠ .login :=
      (login_to_session hStep hAuthenticates.1).mpr ⟨⟨fields, hAuthenticates⟩, hReturned⟩
    unfold HasSession handed
    cases hNow : t.2.processors_ with
    | login => exact absurd hNow hMap
    | session session => exact ⟨session, rfl⟩

/-! ## Result -/

/-- An event of a run from `start`, by which the socket `a` leaves the others in peace: it is
another socket's that does not log in after `a` did; or it is one of `a`, `ioctlsocket`
succeeds, everybody is watched if the connection ends, and the packet that is dispatched
is accepted. -/
structure Orderly (start : ConnectionPump Managers) (a : Nat) (pump : ConnectionPump Managers)
    (socket : Nat) (readiness : Readiness) : Prop where
  answers : socket = a → readiness.incomingSize ≠ none
  leaves : socket = a → readiness.Closes → pump.keys.length ≤ ConnectionPump.FD_SETSIZE
  accepted : socket = a → ∀ p, (pump.component a).arrival readiness = some p →
    Accepts (pump.shared, (pump.component a).endpoint) p
  logins : socket ≠ a → (pump.component a).HasSession → ¬ (start.component a).HasSession →
    ∀ p, (pump.component socket).arrival readiness = some p → ¬ (pump.component socket).LogsIn p

/-- A client that has begun its session in the run has used what is shared. -/
theorem Orderly.harmless {start pump : ConnectionPump Managers} {a socket : Nat}
    {readiness : Readiness} (h : Orderly start a pump socket readiness)
    (hStart : (start.component a).HasSession → (pump.component a).HasSession) :
    Harmless (fun c => c.HasSession ∧ ¬ (start.component a).HasSession)
      ConnectionPump.FD_SETSIZE (Client.onReady mock) a pump socket readiness where
  own hSocket := by
    obtain ⟨verdict, r, hOk, hGoesOn⟩ :=
      (Client.onReady_goesOn_iff readiness pump.shared (pump.component a)).mpr
        ⟨h.answers hSocket, h.accepted hSocket⟩
    refine ⟨verdict, r, hOk, hGoesOn, fun hDrop => h.leaves hSocket ?_, ?_⟩
    · -- only a socket that closes is taken off
      cases hArrival : (pump.component a).arrival readiness with
      | none =>
        obtain ⟨verdict', stream, -, hCloses, hRun⟩ := Client.onReady_quiet mock hArrival
        rw [hRun] at hOk
        cases hOk
        exact hCloses hDrop
      | some p =>
        obtain ⟨-, stream, hRun⟩ := Client.onReady_arrival mock hArrival
        rw [hRun, hDrop] at hOk
        split at hOk <;> cases hOk
    · intro hUses
      cases hUses with
      | inl hDraws =>
        obtain ⟨hBefore, hAfter⟩ := Client.onReady_draws hOk hDraws
        exact ⟨hAfter, fun hHad => hBefore (hStart hHad)⟩
      | inr hUsed =>
        have hStays := hUsed.1.onReady mock readiness pump.shared
        rw [hOk] at hStays
        exact ⟨hStays, hUsed.2⟩
  others hSocket hUsed :=
    Client.onReady_ignores mock (h.logins hSocket hUsed.1 hUsed.2)

/-- A session that was there at the start is still there. -/
theorem hasSession_serve {start l l' : ConnectionPump Managers} {a k : Nat} {e : Readiness}
    {running : Bool} (h : (start.component a).HasSession → (l.component a).HasSession)
    (hServe : serve ConnectionPump.unableToFind (Client.onReady mock) k e l = .ok running l') :
    (start.component a).HasSession → (l'.component a).HasSession := by
  intro hStart
  rw [component_of_serve hServe]
  split_ifs with hSame
  · subst hSame
    exact (h hStart).onReady mock e l.shared
  · exact h hStart

/-- **Separation of the sockets.** In every run of the pump whose events are orderly, everybody
else's dispatcher is handed the same packets, and everybody else is sent the same packets, as in
the run in which `a` is never ready. -/
theorem pump_isolates (pump : ConnectionPump Managers)
    (selects : List (Nat → Option Readiness)) {a : Nat}
    (hOrderly : AlwaysServed ConnectionPump.FD_SETSIZE ConnectionPump.unableToFind
      (Client.onReady mock) (Orderly pump a) selects pump) :
    ∀ b, b ≠ a →
      ((finalState (ConnectionPump.pump mock selects pump)).component b).dispatched =
        ((finalState (ConnectionPump.pump mock (selects.map (without a)) pump)).component
          b).dispatched ∧
      ((finalState (ConnectionPump.pump mock selects pump)).component
          b).endpoint.connection_.sent =
        ((finalState (ConnectionPump.pump mock (selects.map (without a)) pump)).component
          b).endpoint.connection_.sent := by
  intro b hb
  have hSessions := AlwaysServed.and_invariant
    (I := fun l => (pump.component a).HasSession → (l.component a).HasSession)
    (fun _ _ _ _ _ h hServe => hasSession_serve h hServe) id hOrderly
  have hSame := run_without (hSessions.imp fun _ _ _ h => h.2.harmless h.1) hb
  unfold ConnectionPump.pump
  rw [hSame]
  exact ⟨rfl, rfl⟩

/-- A pump with two clients that have just connected. -/
def twoClients : ConnectionPump Managers :=
  ConnectionPump.attachSocket
    (ConnectionPump.attachSocket ⟨.empty, fun _ => .new (.new 0 0), 0⟩ 1 (.new (.new 0 0)))
    2 (.new (.new 0 0))

/-- A `ProtocolSync` packet with the given payload, on the wire. -/
def syncBytes (payload : Bytes) : Bytes :=
  (Builder.sized (.new 0 11 76 0) payload).toRaw.store ++ payload

/-- Bytes that arrive on one of the sockets. -/
def arriving (socket : Nat) (bytes : Bytes) : Nat → Option Readiness :=
  fun x => if x = socket then some ⟨.zeros, some bytes.length, some bytes⟩ else none

/-- Bytes that arrive on both sockets at once. -/
def arrivingBoth (bytes₁ bytes₂ : Bytes) : Nat → Option Readiness :=
  fun x => (arriving 1 bytes₁ x).or (arriving 2 bytes₂ x)

/-- The first client's `ProtocolSync` leaves the second one's in peace. -/
theorem pump_isolates_sync :
    ((finalState (ConnectionPump.pump mock
        [arrivingBoth (syncBytes []) (syncBytes [])] twoClients)).component 2).dispatched =
      ((finalState (ConnectionPump.pump mock
        ([arrivingBoth (syncBytes []) (syncBytes [])].map (without 1)) twoClients)).component
        2).dispatched ∧
    ((finalState (ConnectionPump.pump mock
        [arrivingBoth (syncBytes []) (syncBytes [])] twoClients)).component
        2).endpoint.connection_.sent =
      ((finalState (ConnectionPump.pump mock
        ([arrivingBoth (syncBytes []) (syncBytes [])].map (without 1)) twoClients)).component
        2).endpoint.connection_.sent := by
  -- the packet is the same on both sockets
  have hPacket : ∀ p ∈ (Client.new (.new 0 0) : Client Managers).arrival
      ⟨.zeros, some (syncBytes []).length, some (syncBytes [])⟩,
      p.header.serviceId = 76 ∧ (PacketParser.tokens p.payload).2 = none := by
    decide +kernel
  have hOpen : ¬ Readiness.Closes ⟨.zeros, some (syncBytes []).length, some (syncBytes [])⟩ := by
    unfold Readiness.Closes
    decide
  have hFirst : Orderly twoClients 1 twoClients 1
      ⟨.zeros, some (syncBytes []).length, some (syncBytes [])⟩ := by
    refine ⟨fun _ => by simp, fun _ h => absurd h hOpen, fun _ p hp => ?_, fun h => absurd rfl h⟩
    obtain ⟨hService, hReadable⟩ := hPacket p hp
    refine ⟨hReadable, fun h => ?_, fun h => ?_⟩
    · exact absurd (hService.symm.trans h) (by decide)
    · exact absurd (hService.symm.trans h) (by decide)
  have hSecond {pump : ConnectionPump Managers} (hNew : pump.component 2 = .new (.new 0 0)) :
      Orderly twoClients 1 pump 2
        ⟨.zeros, some (syncBytes []).length, some (syncBytes [])⟩ := by
    refine ⟨fun h => absurd h (by decide), fun h => absurd h (by decide),
      fun h => absurd h (by decide), fun _ _ _ p hp hLogsIn => ?_⟩
    rw [hNew] at hp
    obtain ⟨fields, -, hAuthentication, -⟩ := hLogsIn
    exact absurd ((hPacket p hp).1.symm.trans hAuthentication) (by decide)
  refine pump_isolates twoClients [arrivingBoth (syncBytes []) (syncBytes [])] (a := 1)
    ⟨⟨hFirst, fun running l' hServe => ⟨hSecond ?_, fun _ _ _ => trivial⟩⟩,
      fun _ _ => trivial⟩ 2 (by decide)
  rw [component_of_serve hServe]
  rfl

/-- A packet with an empty key on socket 1 ends the pump: the packet that arrives on
socket 2 afterwards is never dispatched. -/
theorem pump_disturbed :
    ¬ ∀ (pump : ConnectionPump Managers) (selects : List (Nat → Option Readiness)) (a b : Nat),
      b ≠ a →
      ((finalState (ConnectionPump.pump mock selects pump)).component b).dispatched =
        ((finalState (ConnectionPump.pump mock (selects.map (without a)) pump)).component
          b).dispatched ∧
      ((finalState (ConnectionPump.pump mock selects pump)).component
          b).endpoint.connection_.sent =
        ((finalState (ConnectionPump.pump mock (selects.map (without a)) pump)).component
          b).endpoint.connection_.sent := by
  intro hEvery
  have hSame := hEvery twoClients
    [arriving 1 (syncBytes [0xc0, 0x80]), arriving 2 (syncBytes [])] 1 2 (by decide)
  -- without socket 1 the packet on socket 2 is dispatched
  have hDiffers : ((finalState (ConnectionPump.pump mock
        [arriving 1 (syncBytes [0xc0, 0x80]), arriving 2 (syncBytes [])] twoClients)).component
          2).dispatched ≠
      ((finalState (ConnectionPump.pump mock
        ([arriving 1 (syncBytes [0xc0, 0x80]), arriving 2 (syncBytes [])].map (without 1))
          twoClients)).component 2).dispatched := by
    decide +kernel
  exact hDiffers hSame.1

end Giblet.YMsg
