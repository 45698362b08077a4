import Giblet.Lib.Run
import Giblet.YMsg.Processors

/-!
# YMsg — authentication, and the objects behind one socket

`Endpoint` is what serves one socket: the connection, the authentication
handler and the dispatch map in place. The map starts as the one of
`AuthenticationHandler::CreateDispatchMap`; `OnClientAuthenticated` is
virtual, so what it does, and the map it installs, are a parameter
(`Derived`). `mock` is the derived class of the mock server.
-/

namespace Giblet.YMsg

open Effect

/-- `AuthenticationHandler`; its password is never read. -/
structure AuthenticationHandler where
  clientId_ : Bytes
  initialAvailability_ : Availability
  deriving DecidableEq, Repr

/-- `AuthenticationHandler::AuthenticationHandler`. -/
def AuthenticationHandler.new : AuthenticationHandler := ⟨[], .Offline⟩

/-- The dispatch map in place: the login map, or one that was installed for a session. -/
inductive DispatchMap (σ : Type)
  | login
  | session (s : σ)
  deriving DecidableEq

/-- The objects that serve one socket. Beside them it is noted, for every call of
`OnClientAuthenticated`, which id the `Authentication` packet gave. -/
structure Endpoint (σ : Type) where
  connection_ : ClientConnection
  handler : AuthenticationHandler
  processors_ : DispatchMap σ
  authenticatedIds : List Bytes := []
  deriving DecidableEq

/-- What starting a session works on: the number of `rand()` calls the thread has
made, the connection, and the dispatcher's map. -/
structure Startup (σ : Type) where
  draws : Nat
  connection_ : ClientConnection
  processors_ : DispatchMap σ

/-- A class derived from `AuthenticationHandler`: its `OnClientAuthenticated`,
which reads the handler but cannot change it, and the processors of the
dispatch map it installs. -/
structure Derived (σ : Type) where
  onClientAuthenticated : Env → AuthenticationHandler → Action (Startup σ) Unit
  find : Env → UInt16 → Option (Bytes → Bytes → Action (ClientConnection × σ) Unit)

/-- An action of an endpoint; the number is that of the thread's calls of `rand()`. -/
abbrev EndpointAction (σ : Type) := Action (Nat × Endpoint σ) Unit

namespace Payloads

/-- `Payloads::ChallengeRequest`. -/
structure ChallengeRequest where
  clientId : StringView := .null

def ChallengeRequest.onKeyPair : Int32 → StringView → Action ChallengeRequest Unit :=
  assignMember [(1, fun value f => { f with clientId := value })]

/-- `Payloads::Authentication`. -/
structure Authentication where
  clientId1_ : StringView := .null
  clientId2_ : StringView := .null
  authResponse1_ : StringView := .null
  authResponse2_ : StringView := .null
  clientVersion_ : StringView := .null
  unknown148_ : StringView := .null
  profileIds_ : List StringView := []

def Authentication.onKeyPair : Int32 → StringView → Action Authentication Unit :=
  assignMember
    [(6, fun value f => { f with authResponse1_ := value }),
      (96, fun value f => { f with authResponse2_ := value }),
      (135, fun value f => { f with clientVersion_ := value }),
      (148, fun value f => { f with unknown148_ := value }),
      (0, fun value f => { f with clientId1_ := value }),
      (1, fun value f => { f with clientId2_ := value }),
      (2, fun value f => { f with profileIds_ := f.profileIds_ ++ [value] })]

end Payloads

/-! ## The login map -/

namespace AuthenticationHandler

variable {σ : Type}

/-- Send a packet on the endpoint's connection. -/
def transmit (m : Message) : EndpointAction σ :=
  zoom (fun s => s.2.connection_) (fun c s => (s.1, { s.2 with connection_ := c }))
    (ClientConnection.transmit m)

/-- `AuthenticationHandler::OnProtocolSync`. -/
def onProtocolSync (header : Header) (payload : Bytes) : EndpointAction σ := fun s =>
  -- the base payload stores nothing
  match PacketParser.parse (fun _ _ => pure ()) payload () with
  | .error e _ => .error e s
  | .ok _ _ =>
    transmit .protocolAck
      (s.1, { s.2 with connection_ := s.2.connection_.setProtocolVersion header.protoVersion })

/-- `AuthenticationHandler::OnChallengeRequest`. -/
def onChallengeRequest (payload : Bytes) : EndpointAction σ := fun s =>
  match PacketParser.parse Payloads.ChallengeRequest.onKeyPair payload {} with
  | .error e _ => .error e s
  | .ok _ fields =>
    transmit (.challengeResponse fields.clientId.chars)
      (s.1, { s.2 with handler := { s.2.handler with clientId_ := fields.clientId.chars } })

/-- An answer leaves the dispatcher's map alone. -/
theorem onProtocolSync_processors (header : Header) (payload : Bytes) (s : Nat × Endpoint σ) :
    (finalState (onProtocolSync header payload s)).2.processors_ = s.2.processors_ := by
  unfold onProtocolSync
  split
  · rfl
  · rw [transmit, finalState_zoom]

theorem onChallengeRequest_processors (payload : Bytes) (s : Nat × Endpoint σ) :
    (finalState (onChallengeRequest payload s)).2.processors_ = s.2.processors_ := by
  unfold onChallengeRequest
  split
  · rfl
  · rw [transmit, finalState_zoom]

/-- Let the derived class act on the connection and the dispatcher's map. -/
def startup (x : Action (Startup σ) Unit) : EndpointAction σ :=
  zoom (fun s => ⟨s.1, s.2.connection_, s.2.processors_⟩)
    (fun t s => (t.draws, { s.2 with connection_ := t.connection_, processors_ := t.processors_ }))
    x

/-- `AuthenticationHandler::OnAuthenticate`. -/
def onAuthenticate (derived : Derived σ) (env : Env) (header : Header) (payload : Bytes) :
    EndpointAction σ := fun s =>
  match PacketParser.parse Payloads.Authentication.onKeyPair payload {} with
  | .error e _ => .error e s
  | .ok _ fields =>
    -- the source has an empty block here, with a note to send an error and disconnect
    let s := if fields.clientId1_.chars ≠ s.2.handler.clientId_ then s else s
    -- attribute 12 is the client's wish to appear offline
    let initialAvailability_ : Availability :=
      if header.attributeId = 12 then .Offline else .Available
    let handler := { s.2.handler with initialAvailability_ := initialAvailability_ }
    startup (derived.onClientAuthenticated env handler)
      (s.1, { s.2 with
        handler := handler, authenticatedIds := s.2.authenticatedIds ++ [fields.clientId1_.chars] })

/-- `AuthenticationHandler::CreateDispatchMap`. -/
def find (derived : Derived σ) (env : Env) (header : Header) :
    Option (Bytes → Bytes → EndpointAction σ) :=
  if header.serviceId = 76 then some fun payload _ => onProtocolSync header payload
  else if header.serviceId = 87 then some fun payload _ => onChallengeRequest payload
  else if header.serviceId = 84 then some fun payload _ => onAuthenticate derived env header payload
  else none

/-- What the login map does with a packet, by its service. -/
theorem dispatch_find (derived : Derived σ) (env : Env) (header : Header)
    (payload following : Bytes) :
    dispatch (find derived env header) payload following =
      if header.serviceId = 76 then onProtocolSync header payload
      else if header.serviceId = 87 then onChallengeRequest payload
      else if header.serviceId = 84 then onAuthenticate derived env header payload
      else dispatch none payload following := by
  unfold find
  split_ifs <;> rfl

end AuthenticationHandler

namespace Endpoint

variable {σ : Type}

/-- The endpoint of a new connection. -/
def new (connection : ClientConnection) : Endpoint σ := ⟨connection, .new, .login, []⟩

/-- Let a processor of the session's map act on the connection and the session. -/
def onSession (x : Action (ClientConnection × σ) Unit) : EndpointAction σ := fun s =>
  match s.2.processors_ with
  -- never reached: the login map is handled by `dispatchPacket`
  | .login => .ok () s
  | .session session =>
    zoom (fun s => (s.2.connection_, session))
      (fun t s => (s.1, { s.2 with connection_ := t.1, processors_ := .session t.2 })) x s

/-- `PacketDispatcher::Dispatch` with the map in place. -/
def dispatchPacket (derived : Derived σ) (env : Env) (header : Header)
    (payload following : Bytes) : EndpointAction σ := fun s =>
  match s.2.processors_ with
  | .login => dispatch (AuthenticationHandler.find derived env header) payload following s
  | .session _ => onSession (dispatch (derived.find env header.serviceId) payload following) s

end Endpoint

/-! ## The mock server -/

namespace MockAuthenticationHandler

/-- A linked contact. -/
def linked (env : Env) (id group : String) (availability : Availability := .Offline)
    (isBusy : Bool := false) (customMessage : String := "") : ContactInfo :=
  .new (env.isInChat (ascii id)) (ascii id) (ascii group) .Linked availability isBusy
    (ascii customMessage)

/-- The contacts every client has. -/
def initialContacts (env : Env) (initialAvailability : Availability) : List ContactInfo :=
  [linked env "jay" "Friends",
    linked env "donna" "Friends" .Custom false "Listening to Bewiz - Booters Paradise",
    linked env "david" "Friends" .Busy true,
    linked env "winky" "Myself" initialAvailability,
    linked env "dinky" "Myself" initialAvailability,
    linked env "blinky" "Myself" initialAvailability,
    linked env "brad" "Myself" initialAvailability]

/-- `LoadContact`, one contact after another. -/
def loadContacts (contacts : List ContactInfo) : Except Fault ContactManager :=
  contacts.foldlM ContactManager.loadContact ⟨.empty⟩

def initialProfiles : List Bytes := ["winky", "dinky", "blinky", "brad", "greg"].map ascii

def initialBlocked : List Bytes := ["wierdo", "jerk", "germinator"].map ascii

/-- The session that is set up for a client: its managers are loaded, and the
connection is given the id `sessionId`. -/
def newSession (handler : AuthenticationHandler) (contactManager : ContactManager)
    (connection : ClientConnection) (sessionId : UInt32) : SessionContext where
  profileManager_ := ⟨handler.clientId_, initialProfiles⟩
  contactManager_ := contactManager
  blockedContactManager_ := ⟨initialBlocked⟩
  properties_ := .new handler.initialAvailability_
  connection_ := connection.setSessionId sessionId

/-- `MockAuthenticationHandler::OnClientAuthenticated`. -/
def onClientAuthenticated (env : Env) (handler : AuthenticationHandler) :
    Action (Startup Managers) Unit := fun s =>
  match loadContacts (initialContacts env handler.initialAvailability_) with
  | .error e => .error e s
  | .ok contactManager =>
    -- the id is drawn and set before the first packet
    match SessionContext.mockBeginSession
        (newSession handler contactManager s.connection_ (env.rand s.draws)) with
    | .error e session =>
      -- the map goes in last: after an error it is still the login map
      .error e { s with draws := s.draws + 1, connection_ := session.connection_ }
    | .ok _ session =>
      .ok () ⟨s.draws + 1, session.connection_, .session session.toManagers⟩

/-- Contacts with different ids can all be loaded, and are then there. -/
theorem loadContacts_ok {contacts : List ContactInfo}
    (hNodup : (contacts.map ContactInfo.id).Nodup) :
    ∃ m, loadContacts contacts = .ok m ∧ ∀ c, c ∈ m.contacts ↔ c ∈ contacts := by
  obtain ⟨m, hLoad⟩ := ContactManager.foldlM_loadContact_ok (m := ⟨.empty⟩) hNodup fun _ _ => rfl
  have hPerm : m.contacts.Perm (contacts ++ []) := ContactManager.perm_contacts_foldlM hLoad
  rw [List.append_nil] at hPerm
  exact ⟨m, hLoad, fun c => hPerm.mem_iff⟩

/-- The initial contacts can be loaded. -/
theorem loadContacts_initialContacts (env : Env) (availability : Availability) :
    ∃ m, loadContacts (initialContacts env availability) = .ok m ∧
      ∀ c, c ∈ m.contacts ↔ c ∈ initialContacts env availability :=
  loadContacts_ok <|
    show (["jay", "donna", "david", "winky", "dinky", "blinky", "brad"].map ascii).Nodup by decide

/-- Loaded contacts are kept under their ids. -/
theorem loadContacts_keyed {contacts : List ContactInfo} {m : ContactManager}
    (hLoad : loadContacts contacts = .ok m) : m.Keyed := ContactManager.Keyed.empty.foldlM hLoad

/-- Let a session processor act on the connection and the managers. -/
def onManagers (x : SessionAction) : Action (ClientConnection × Managers) Unit :=
  zoom (fun s => { s.2 with connection_ := s.1 }) (fun t _ => (t.connection_, t.toManagers)) x

/-- The mock server. -/
def mock : Derived Managers where
  onClientAuthenticated := onClientAuthenticated
  find env serviceId := (V11.find serviceId).map fun service payload following =>
    onManagers (V11.parse env service payload following)

theorem mock_onClientAuthenticated : mock.onClientAuthenticated = onClientAuthenticated := by
  rw [mock]

end MockAuthenticationHandler

/-! ## Runs -/

/-- A packet arriving in some environment; `following` is what the receive
buffer holds behind it. -/
structure Arrival where
  env : Env
  header : Header
  payload : Bytes
  following : Bytes

/-- One packet is handled: its processing returns, or throws. Nothing is said
about what comes after undefined behaviour. -/
def Endpoint.Step {σ : Type} (derived : Derived σ) (s : Nat × Endpoint σ) (a : Arrival)
    (s' : Nat × Endpoint σ) : Prop :=
  Defined (dispatchPacket derived a.env a.header a.payload a.following s) ∧
    s' = finalState (dispatchPacket derived a.env a.header a.payload a.following s)

/-- The session of an endpoint of the mock server, once it has one. -/
def Endpoint.session (e : Endpoint Managers) : Option SessionContext :=
  match e.processors_ with
  | .login => none
  | .session managers => some { managers with connection_ := e.connection_ }

/-- An `Authentication` packet whose key 0 has the value `a`. -/
def authenticationPacket : Arrival where
  env := .zeros
  header := .new 0 11 84 0
  payload := ascii "0" ++ [0xc0, 0x80] ++ ascii "a" ++ [0xc0, 0x80]
  following := []

/-- The mock server's endpoint after such a packet. -/
def authenticated : Nat × Endpoint Managers :=
  finalState (Endpoint.dispatchPacket MockAuthenticationHandler.mock authenticationPacket.env
    authenticationPacket.header authenticationPacket.payload authenticationPacket.following
    (0, .new (.new 0 0)))

theorem authenticated_returned :
    returned (Endpoint.dispatchPacket MockAuthenticationHandler.mock authenticationPacket.env
      authenticationPacket.header authenticationPacket.payload authenticationPacket.following
      (0, .new (.new 0 0))) = true ∧
    authenticated.2.session.isSome = true := by
  -- both facts from one evaluation
  decide +kernel

/-- The packet starts a session. -/
theorem authenticated_run : Run.Runs (Endpoint.Step MockAuthenticationHandler.mock)
    (0, .new (.new 0 0)) [authenticationPacket] authenticated ∧
      authenticated.2.session.isSome = true := by
  obtain ⟨hReturned, hSession⟩ := authenticated_returned
  refine ⟨.one ⟨?_, rfl⟩, hSession⟩
  rw [eq_ok_of_returned hReturned]
  exact .ok _ _

end Giblet.YMsg
