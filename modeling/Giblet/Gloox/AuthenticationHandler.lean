import Giblet.Gloox.PresenceHandler
import Giblet.YMsg.Phases

/-!
# Gloox — authentication through an XMPP server

`OnClientAuthenticated` opens an XMPP connection to the server in the
challenged id and returns; the session begins in `OnSessionAuthenticated`,
when that connection reports `onConnect`.
Until then the login map is in place, and every further `Authentication`
packet opens another connection.

An exception leaves `Pump`, and nobody catches it: a run goes on only from
events whose handling returns.

* `dispatchPacket_endpoint` — a packet does to the endpoint what the base class says.
* `bridge_step` — the session's map is only installed by `OnSessionAuthenticated`.
* `beginsOnce_iff` — the runs in which it runs at most once.
-/

namespace Giblet.Gloox

open Effect Run YMsg SessionContext

/-! ## The objects behind one socket -/

/-- `ExtendedClient`: the JID it logs in with, and the handler it was given. -/
structure ExtendedClient where
  jid : Bytes
  presenceHandler_ : Option PresenceHandler := none
  deriving DecidableEq, Repr

/-- The most bytes of a part of a JID. -/
def JID_PORTION_SIZE : Nat := 1023

/-- `JID::serverRaw` of the JID that `JID::setJID` makes of a text. -/
def JID.serverRaw (jid : Bytes) : Bytes :=
  if jid.contains 64 then
    -- a user name that is too long ends the parsing before there is a server
    if (jid.takeWhile (· != 64)).length > JID_PORTION_SIZE then []
    else ((jid.dropWhile (· != 64)).drop 1).takeWhile (· != 47)
  else jid.takeWhile (· != 47)

/-- How opening an XMPP connection goes: what the network answers to `connect(false)`, and
whether there is a socket then. -/
inductive Opening
  | refused
  | noSocket
  | attached
  deriving DecidableEq, Repr

/-- `ClientBase::connect`: without a server the network is not asked. -/
def Opening.connect (server : Bytes) (opening : Opening) : Opening :=
  if server.isEmpty then .refused else opening

/-- The endpoint of a client, with the XMPP connections that were attached to its pump;
`draws` is the number of `rand()` calls the thread has made. -/
structure Bridge where
  draws : Nat
  endpoint : Endpoint Managers
  clients : List ExtendedClient
  deriving DecidableEq

/-- The bridge of a new connection. -/
def Bridge.new (draws : Nat) (connection : ClientConnection) : Bridge :=
  ⟨draws, .new connection, []⟩

/-- An operation of a bridge. -/
abbrev BridgeAction := Action Bridge Unit

/-- Run an action of the endpoint. -/
def onEndpoint (x : EndpointAction Managers) : BridgeAction :=
  zoom (fun s => (s.draws, s.endpoint)) (fun t s => { s with draws := t.1, endpoint := t.2 }) x

/-- What is used of a `gloox::RosterItem`: `jidJID().full()` and `groups()`. -/
structure RosterItem where
  jid : Bytes
  groups : List Bytes
  deriving DecidableEq, Repr

/-- What `rosterManager()` and its `roster()` answer: either may be null. -/
abbrev Roster := Option (Option (List RosterItem))

namespace AuthenticationHandler

/-- `AuthenticationHandler::OnClientAuthenticated`. -/
def onClientAuthenticated (opening : Opening) : BridgeAction := fun s =>
  let jid := s.endpoint.handler.clientId_ ++ ascii "/giblet"
  match opening.connect (JID.serverRaw jid) with
  | .refused => .error (.runtimeError "Connection failed") s
  | .noSocket => .error (.runtimeError "Invalid socket handle") s
  -- the connection is only opened here: nothing else is waited for
  | .attached => .ok () { s with clients := s.clients ++ [{ jid := jid }] }

/-- `OnAuthenticate` of the base class, with the call above. -/
def onAuthenticate (opening : Opening) (header : Header) (payload : Bytes) :
    BridgeAction := fun s =>
  match PacketParser.parse Payloads.Authentication.onKeyPair payload {} with
  | .error e _ => .error e s
  | .ok _ fields =>
    -- the handler keeps the client's availability from the header before it opens anything
    let endpoint :=
      { s.endpoint with
        handler := s.endpoint.handler.authenticated header
        authenticatedIds := s.endpoint.authenticatedIds ++ [fields.clientId1_.chars] }
    onClientAuthenticated opening { s with endpoint := endpoint }

/-- `CreateDispatchMap` of the base class. -/
def find (opening : Opening) (header : Header) : Option (Bytes → Bytes → BridgeAction) :=
  if header.serviceId = 76 then
    some fun payload _ => onEndpoint (YMsg.AuthenticationHandler.onProtocolSync header payload)
  else if header.serviceId = 87 then
    some fun payload _ => onEndpoint (YMsg.AuthenticationHandler.onChallengeRequest payload)
  else if header.serviceId = 84 then some fun payload _ => onAuthenticate opening header payload
  else none

/-- One item of the roster, in all of its groups. -/
def populateItem (env : Env) (contactManager : ContactManager) (item : RosterItem) :
    Except Fault ContactManager :=
  if item.groups = [] then
    .error (.runtimeError "Don't know how to handle empty groups yet")
  else
    item.groups.foldlM (fun m group =>
      m.loadContact (.new (env.isInChat item.jid) item.jid group .Linked)) contactManager

/-- `AuthenticationHandler::Populate`. -/
def populate (env : Env) (roster : Roster) (contactManager : ContactManager) :
    Except Fault ContactManager :=
  match roster with
  | none => .error (.runtimeError "No roaster manager available")
  | some none => .error (.runtimeError "roster cannot be null")
  | some (some items) => items.foldlM (populateItem env) contactManager

/-- The session that is set up for a client: its managers are loaded, and the
connection is given the id `sessionId`. -/
def newSession (handler : YMsg.AuthenticationHandler) (contactManager : ContactManager)
    (connection : ClientConnection) (sessionId : UInt32) : SessionContext where
  profileManager_ := ⟨handler.clientId_, []⟩
  contactManager_ := contactManager
  blockedContactManager_ := ⟨["wierdo", "jerk", "germinator"].map ascii⟩
  properties_ := .new handler.initialAvailability_
  connection_ := connection.setSessionId sessionId

/-- `AuthenticationHandler::OnSessionAuthenticated`; `timestamp` is the time at which the
presence handler is made. -/
def onSessionAuthenticated (env : Env) (timestamp : Int) (client : Nat) (roster : Roster) :
    BridgeAction := fun s =>
  -- the client's managers are filled first: a roster that cannot be read ends it here
  match populate env roster ⟨.empty⟩ with
  | .error e => .error e s
  | .ok contactManager =>
    let clients := s.clients.modify client fun c => { c with presenceHandler_ := some ⟨timestamp⟩ }
    match mockBeginSession (newSession s.endpoint.handler contactManager s.endpoint.connection_
        (env.rand s.draws)) with
    -- the session id is drawn although the session then fails to begin
    | .error e session =>
      .error e ⟨s.draws + 1, { s.endpoint with connection_ := session.connection_ }, clients⟩
    | .ok _ session =>
      -- only now does the session's map take the place of the login map
      let endpoint :=
        { s.endpoint with
          connection_ := session.connection_
          processors_ := .session session.toManagers }
      .ok () ⟨s.draws + 1, endpoint, clients⟩

end AuthenticationHandler

namespace Bridge

/-- `PacketDispatcher::Dispatch` with the map in place; a session's map is that of
`V11::Create`, as for the mock server. -/
def dispatchPacket (opening : Opening) (a : Arrival) : BridgeAction := fun s =>
  -- the dispatcher's two maps: which one is in place decides about every service
  match s.endpoint.processors_ with
  | .login =>
    dispatch (AuthenticationHandler.find opening a.header) a.payload a.following s
  | .session _ =>
    onEndpoint (Endpoint.onSession
      (dispatch (MockAuthenticationHandler.mock.find a.env a.header.serviceId) a.payload
        a.following)) s

end Bridge

/-! ## Packets, as the base class has them -/

/-- What `OnClientAuthenticated` does to an endpoint: it leaves it alone. -/
def derived (opening : Opening) : Derived Managers where
  onClientAuthenticated _ handler :=
    match opening.connect (JID.serverRaw (handler.clientId_ ++ ascii "/giblet")) with
    | .refused => throw (.runtimeError "Connection failed")
    | .noSocket => throw (.runtimeError "Invalid socket handle")
    | .attached => pure ()
  find := MockAuthenticationHandler.mock.find

theorem derived_find (opening : Opening) :
    (derived opening).find = MockAuthenticationHandler.mock.find := by
  unfold derived
  rfl

/-- The endpoint's part of an outcome. -/
def endpointPart :
    EStateM.Result Fault Bridge Unit → EStateM.Result Fault (Nat × Endpoint Managers) Unit :=
  mapState fun s => (s.draws, s.endpoint)

theorem endpointPart_onEndpoint (x : EndpointAction Managers) (s : Bridge) :
    endpointPart (onEndpoint x s) = x (s.draws, s.endpoint) := by
  unfold endpointPart onEndpoint zoom
  cases x (s.draws, s.endpoint) <;> rfl

/-- Opening a connection is no matter of the endpoint, except when it fails. -/
theorem onClientAuthenticated_endpoint (opening : Opening) (env : Env) (s : Bridge) :
    endpointPart (AuthenticationHandler.onClientAuthenticated opening s) =
      YMsg.AuthenticationHandler.startup
        ((derived opening).onClientAuthenticated env s.endpoint.handler) (s.draws, s.endpoint) := by
  unfold AuthenticationHandler.onClientAuthenticated derived
  dsimp only
  cases opening.connect (JID.serverRaw (s.endpoint.handler.clientId_ ++ ascii "/giblet")) <;> rfl

/-- **Packets.** A packet does to the endpoint what the base class says it does. -/
theorem dispatchPacket_endpoint (opening : Opening) (a : Arrival) (s : Bridge) :
    endpointPart (Bridge.dispatchPacket opening a s) =
      Endpoint.dispatchPacket (derived opening) a.env a.header a.payload a.following
        (s.draws, s.endpoint) := by
  unfold Bridge.dispatchPacket Endpoint.dispatchPacket
  cases hMap : s.endpoint.processors_ with
  | session managers =>
    exact endpointPart_onEndpoint _ s
  | login =>
    -- in the login phase the two dispatch maps are compared service by service
    dsimp only
    rw [YMsg.AuthenticationHandler.dispatch_find]
    unfold AuthenticationHandler.find
    split_ifs with hSync hChallenge hAuthenticate
    · exact endpointPart_onEndpoint _ s
    · exact endpointPart_onEndpoint _ s
    -- the opened connection is no part of the endpoint
    · show endpointPart (AuthenticationHandler.onAuthenticate opening a.header a.payload s) = _
      unfold AuthenticationHandler.onAuthenticate YMsg.AuthenticationHandler.onAuthenticate
      cases PacketParser.parse Payloads.Authentication.onKeyPair a.payload {} with
      | error e fields => rfl
      | ok _ fields =>
        simp only [ite_self]
        exact onClientAuthenticated_endpoint opening a.env _
    · unfold dispatch
      dsimp only
      cases PacketParser.parse (fun _ _ => (pure () : EStateM Fault Unit Unit)) a.payload () <;> rfl

/-! ## Events -/

/-- What can happen to a bridge: a packet arrives, or an XMPP connection reports `onConnect`. -/
inductive BridgeEvent
  | packet (opening : Opening) (arrival : Arrival)
  | onConnect (env : Env) (timestamp : Int) (client : Nat) (roster : Roster)

namespace BridgeEvent

/-- What is done about it; `ExtendedClient::onConnect` calls `OnSessionAuthenticated`. -/
def handle : BridgeEvent → BridgeAction
  | packet opening arrival => Bridge.dispatchPacket opening arrival
  | onConnect env timestamp client roster =>
    AuthenticationHandler.onSessionAuthenticated env timestamp client roster

/-- The event runs `OnSessionAuthenticated`: one of the connections that were opened reports
`onConnect`. -/
def BeginsSession (s : Bridge) : BridgeEvent → Prop
  | packet _ _ => False
  | onConnect _ _ client _ => client < s.clients.length

instance (s : Bridge) : DecidablePred (BeginsSession s)
  | packet _ _ => inferInstanceAs (Decidable False)
  | onConnect _ _ client _ => inferInstanceAs (Decidable (client < s.clients.length))

/-- Packets can arrive at any time; only connections that were opened report anything. -/
def Possible (s : Bridge) : BridgeEvent → Prop
  | packet _ _ => True
  | onConnect _ _ client _ => client < s.clients.length

end BridgeEvent

open BridgeEvent

/-- An event happens, and its handling returns. -/
def BridgeStep (s : Bridge) (event : BridgeEvent) (s' : Bridge) : Prop :=
  event.Possible s ∧ event.handle s = .ok () s'

theorem BridgeStep.unique (s : Bridge) (event : BridgeEvent) (t u : Bridge)
    (ht : BridgeStep s event t) (hu : BridgeStep s event u) : t = u := by
  have hSame := ht.2.symm.trans hu.2
  cases hSame
  rfl

/-! ## One step -/

/-- The login map stays in place, or a session's map does; and the session id is kept. -/
def SamePhase (e e' : Endpoint Managers) : Prop :=
  (e'.processors_ = .login ↔ e.processors_ = .login) ∧
    e'.connection_.sessionId_ = e.connection_.sessionId_

theorem transmit_sessionId (m : Message) (c : ClientConnection) :
    (finalState (ClientConnection.transmit m c)).sessionId_ = c.sessionId_ := by
  rw [ClientConnection.transmit_eq]
  split <;> rfl

/-- The login map's packets, as long as they do not authenticate. -/
theorem login_samePhase {s : Nat × Endpoint Managers} {a : Arrival}
    (hLogin : s.2.processors_ = .login) (h : ∀ fields, ¬ Authenticates s.2 a fields) :
    SamePhase s.2 (finalState (Endpoint.dispatchPacket MockAuthenticationHandler.mock a.env a.header
      a.payload a.following s)).2 := by
  refine ⟨iff_of_true (login_stays hLogin h) hLogin, ?_⟩
  unfold Endpoint.dispatchPacket
  rw [hLogin]
  dsimp only
  rw [YMsg.AuthenticationHandler.dispatch_find]
  -- the answers of the two services are sent without touching the session id
  split_ifs with hSync hChallenge hAuthenticate
  · unfold YMsg.AuthenticationHandler.onProtocolSync
    split
    · rfl
    · rw [YMsg.AuthenticationHandler.transmit, finalState_zoom]
      exact transmit_sessionId _ _
  · unfold YMsg.AuthenticationHandler.onChallengeRequest
    split
    · rfl
    · rw [YMsg.AuthenticationHandler.transmit, finalState_zoom]
      exact transmit_sessionId _ _
  · unfold YMsg.AuthenticationHandler.onAuthenticate
    cases hParse : PacketParser.parse Payloads.Authentication.onKeyPair a.payload {} with
    | error e fields => rfl
    | ok _ fields => exact absurd ⟨hLogin, hAuthenticate, hParse⟩ (h fields)
  · rw [dispatch_none]

theorem session_connection {e : Endpoint Managers} {s : SessionContext} (h : e.session = some s) :
    s.connection_ = e.connection_ := by
  unfold Endpoint.session at h
  cases hMap : e.processors_ with
  | login =>
    rw [hMap] at h
    cases h
  | session managers =>
    rw [hMap] at h
    cases h
    rfl

/-- The packets of a session. -/
theorem session_samePhase {s : Nat × Endpoint Managers} {a : Arrival}
    (hSome : s.2.processors_ ≠ .login) :
    SamePhase s.2 (finalState (Endpoint.dispatchPacket MockAuthenticationHandler.mock a.env a.header
      a.payload a.following s)).2 := by
  obtain ⟨session, hSession⟩ := Endpoint.exists_session hSome
  have hSame : SameClient session (finalState (V11.dispatchPacket a.env a.header a.payload
      a.following session)) :=
    dispatchPacket_frame sameClient_basic (fun _ _ => ⟨rfl, rfl, rfl⟩) a.env a.header a.payload
      a.following session
  rw [dispatchPacket_session hSession, finalState_mapState]
  generalize finalState (V11.dispatchPacket a.env a.header a.payload a.following session) = next
    at hSame
  refine ⟨iff_of_false (fun h => by cases h) hSome, ?_⟩
  show next.connection_.sessionId_ = s.2.connection_.sessionId_
  rw [hSame.1, session_connection hSession]

/-- A packet neither installs a session's map nor gives the connection a session id. -/
theorem packet_samePhase (opening : Opening) (a : Arrival) (s : Bridge) :
    SamePhase s.endpoint (finalState (Bridge.dispatchPacket opening a s)).endpoint := by
  have hPart : (finalState (Bridge.dispatchPacket opening a s)).endpoint =
      (finalState (endpointPart (Bridge.dispatchPacket opening a s))).2 := by
    rw [endpointPart, finalState_mapState]
  rw [hPart, dispatchPacket_endpoint]
  -- an authentication changes the handler, and opens a connection
  by_cases hAuthenticates : ∃ fields, Authenticates s.endpoint a fields
  · obtain ⟨fields, hFields⟩ := hAuthenticates
    rw [dispatchPacket_authenticates (derived opening) (s := (s.draws, s.endpoint)) hFields]
    unfold derived
    dsimp only
    cases opening.connect
      (JID.serverRaw ((s.endpoint.handler.authenticated a.header).clientId_ ++ ascii "/giblet")) <;>
      exact ⟨Iff.rfl, rfl⟩
  -- any other packet is treated as the mock server's endpoint treats it
  have hNone : ∀ fields, ¬ Authenticates s.endpoint a fields := not_exists.mp hAuthenticates
  have hMock : Endpoint.dispatchPacket (derived opening) a.env a.header a.payload a.following
      (s.draws, s.endpoint) = Endpoint.dispatchPacket MockAuthenticationHandler.mock a.env a.header
        a.payload a.following (s.draws, s.endpoint) :=
    dispatchPacket_not_authenticates (derived_find opening) hNone
  rw [hMock]
  -- which map is in place decides what the packet can do
  by_cases hLogin : s.endpoint.processors_ = .login
  · exact login_samePhase (s := (s.draws, s.endpoint)) hLogin hNone
  · exact session_samePhase (s := (s.draws, s.endpoint)) hLogin

/-- `OnSessionAuthenticated` installs a session's map if it returns. -/
theorem onSessionAuthenticated_installs {env : Env} {timestamp : Int} {client : Nat}
    {roster : Roster} {s s' : Bridge}
    (h : AuthenticationHandler.onSessionAuthenticated env timestamp client roster s = .ok () s') :
    s'.endpoint.processors_ ≠ .login := by
  unfold AuthenticationHandler.onSessionAuthenticated at h
  cases hPopulate : AuthenticationHandler.populate env roster ⟨.empty⟩ with
  | error e =>
    rw [hPopulate] at h
    cases h
  | ok contactManager =>
    rw [hPopulate] at h
    dsimp only at h
    -- what the session sends when it begins plays no role
    generalize mockBeginSession = beginSession at h
    split at h
    · cases h
    · cases h
      exact fun hLogin => by cases hLogin

/-- **One step.** The login map is left by the events that run `OnSessionAuthenticated`, and
is never put back. -/
theorem bridge_step {s s' : Bridge} {event : BridgeEvent} (hStep : BridgeStep s event s') :
    s'.endpoint.processors_ = .login ↔
      s.endpoint.processors_ = .login ∧ ¬ event.BeginsSession s := by
  obtain ⟨hPossible, hHandle⟩ := hStep
  cases event with
  | packet opening a =>
    have hSame := (packet_samePhase opening a s).1
    rw [show Bridge.dispatchPacket opening a s = .ok () s' from hHandle] at hSame
    exact hSame.trans (and_iff_left id).symm
  | onConnect env timestamp client roster =>
    exact iff_of_false (onSessionAuthenticated_installs hHandle) fun h => h.2 hPossible

/-! ## Runs -/

/-- Without the login map there was an event that ran `OnSessionAuthenticated`. -/
theorem begins_of_session {draws : Nat} {connection : ClientConnection}
    {events : List BridgeEvent} {s : Bridge}
    (hRun : Runs BridgeStep (.new draws connection) events s) :
    s.endpoint.processors_ ≠ .login → ∃ before event after t,
      events = before ++ event :: after ∧ Runs BridgeStep (.new draws connection) before t ∧
        event.BeginsSession t := by
  refine hRun.exists_cause (P := fun s => s.endpoint.processors_ = .login)
    (C := fun s event => event.BeginsSession s) rfl ?_
  intro t event u hStep hLogin hNow
  by_contra hNot
  exact hNow ((bridge_step hStep).mpr ⟨hLogin, hNot⟩)

/-- Once `OnSessionAuthenticated` returned, the login map is gone. -/
theorem no_login_after {draws : Nat} {connection : ClientConnection}
    {before after : List BridgeEvent} {event : BridgeEvent} {t s : Bridge}
    (ht : Runs BridgeStep (.new draws connection) before t) (hBegins : event.BeginsSession t)
    (hRun : Runs BridgeStep (.new draws connection) (before ++ event :: after) s) :
    s.endpoint.processors_ ≠ .login := by
  obtain ⟨u, hStep, -, hLater⟩ := hRun.resume BridgeStep.unique ht
  refine hLater.invariant (I := fun _ s => s.endpoint.processors_ ≠ .login) ?_ ?_
  · exact fun h => ((bridge_step hStep).mp h).2 hBegins
  · exact fun _ v b w _ ih hNext h => ih ((bridge_step hNext).mp h).1

/-- **`OnSessionAuthenticated` runs at most once** exactly in the runs in which it finds the
login map in place whenever it runs. -/
theorem beginsOnce_iff (draws : Nat) (connection : ClientConnection) (events : List BridgeEvent) :
    (∀ before event after s before' event' after' s',
        events = before ++ event :: after → events = before' ++ event' :: after' →
        Runs BridgeStep (.new draws connection) before s →
        Runs BridgeStep (.new draws connection) before' s' →
        event.BeginsSession s → event'.BeginsSession s' → before = before') ↔
      ∀ before event after s, events = before ++ event :: after →
        Runs BridgeStep (.new draws connection) before s → event.BeginsSession s →
        s.endpoint.processors_ = .login := by
  constructor
  · intro hOnce before event after s hSplit hRun hBegins
    by_contra hSession
    -- the map in place was installed by an earlier event
    obtain ⟨early, first, late, t, hBefore, ht, hFirst⟩ := begins_of_session hRun hSession
    have hSplit' : events = early ++ first :: (late ++ event :: after) := by
      rw [hSplit, hBefore]
      simp
    have hSame := hOnce early first _ t before event after s hSplit' hSplit ht hRun hFirst hBegins
    rw [hBefore] at hSame
    simp at hSame
  · intro hLogin before event after s before' event' after' s' hSplit hSplit' hs hs' hBegins
      hBegins'
    -- at the later one of two events the login map would have to be in place again
    refine Runs.at_most_once (C := fun s event => event.BeginsSession s) ?_ hSplit hSplit' hs hs'
      hBegins hBegins'
    intro early first between second late t t' hEvents ht hFirst ht' hSecond
    have hLater := no_login_after ht hFirst ht'
    refine hLater (hLogin (early ++ first :: between) second late t' ?_ ht' hSecond)
    rw [hEvents, List.append_assoc, List.cons_append]

/-- A client asks for its challenge; its id is `a`. -/
def asksChallenge : BridgeEvent :=
  .packet .attached
    { env := .zeros
      header := .new 0 11 87 0
      payload := ascii "1" ++ [0xc0, 0x80] ++ ascii "a" ++ [0xc0, 0x80]
      following := [] }

/-- It sends its `Authentication` packet, and a connection is opened. -/
def authenticates : BridgeEvent := .packet .attached authenticationPacket

/-- A connection reports `onConnect`, for an account without contacts. -/
def connects (client : Nat) : BridgeEvent := .onConnect .zeros 0 client (some (some []))

/-- The bridge of a client that was challenged. -/
def challenged : Bridge := finalState (asksChallenge.handle (.new 0 (.new 0 0)))

theorem challenged_run : Runs BridgeStep (.new 0 (.new 0 0)) [asksChallenge] challenged :=
  .one ⟨trivial, eq_ok_of_returned (by decide +kernel)⟩

/-- The bridge of a client that sent its packet twice. -/
def twoOpened : Bridge :=
  finalState (authenticates.handle (finalState (authenticates.handle challenged)))

theorem twoOpened_run :
    Runs BridgeStep (.new 0 (.new 0 0)) [asksChallenge, authenticates, authenticates]
      twoOpened := by
  have hFirst : Runs BridgeStep (.new 0 (.new 0 0)) [asksChallenge, authenticates] _ :=
    challenged_run.snoc (l := authenticates) ⟨trivial, eq_ok_of_returned (by decide +kernel)⟩
  have hRun := hFirst.snoc (l := authenticates) ⟨trivial, eq_ok_of_returned (by decide +kernel)⟩
  exact hRun

/-- Both connections report `onConnect`, and the session begins twice. -/
theorem session_begins_twice :
    ¬ ∀ (draws : Nat) (connection : ClientConnection) (events : List BridgeEvent),
      ∀ before event after s before' event' after' s',
        events = before ++ event :: after → events = before' ++ event' :: after' →
        Runs BridgeStep (.new draws connection) before s →
        Runs BridgeStep (.new draws connection) before' s' →
        event.BeginsSession s → event'.BeginsSession s' → before = before' := by
  intro hEvery
  -- both connections were opened in the login phase, and each of them reports
  have hFirst : (connects 0).BeginsSession twoOpened := by decide +kernel
  have hBegun : Runs BridgeStep (.new 0 (.new 0 0))
      [asksChallenge, authenticates, authenticates, connects 0]
      (finalState ((connects 0).handle twoOpened)) := by
    have hRun := twoOpened_run.snoc (l := connects 0)
      ⟨hFirst, eq_ok_of_returned (by decide +kernel)⟩
    exact hRun
  have hSame := hEvery 0 (.new 0 0)
    [asksChallenge, authenticates, authenticates, connects 0, connects 1]
    [asksChallenge, authenticates, authenticates] (connects 0) [connects 1] twoOpened
    [asksChallenge, authenticates, authenticates, connects 0] (connects 1) [] _ rfl rfl
    twoOpened_run hBegun hFirst (by decide +kernel)
  simpa using congrArg List.length hSame

end Giblet.Gloox
