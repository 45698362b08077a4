import Giblet.YMsg.Frames
import Giblet.YMsg.Login

/-!
# YMsg — login phase and session phase

An endpoint of the mock server starts with the login map. An `Authentication`
packet whose handling returns installs a session's map; one whose handling
throws leaves the login map where it is, whatever it sent before.

* `dispatchPacket_not_processes` — where no processor of a session runs, none matters.
* `login_to_session` — the login map is only left by such a packet.
* `session_step` — a packet of a session leaves the phase, the connection's
  header fields and the client alone.
* `phases_separate` — the result, for every run.
-/

namespace Giblet.YMsg

open Effect Run SessionContext MockAuthenticationHandler

/-! ## Events -/

/-- A V11 processor runs for this packet: a session's map is in place, and has one
for its service. -/
def Processes (e : Endpoint Managers) (a : Arrival) (service : V11.Service) : Prop :=
  (∃ managers, e.processors_ = .session managers) ∧ V11.find a.header.serviceId = some service

/-- An `Authentication` packet whose handling completes. -/
def Completes (s : Nat × Endpoint Managers) (a : Arrival) : Prop :=
  (∃ fields, Authenticates s.2 a fields) ∧
    returned (Endpoint.dispatchPacket mock a.env a.header a.payload a.following s) = true

/-- What a packet leads to is decided by `OnClientAuthenticated` in the login phase, and
by the processors of the map in the session phase. -/
theorem dispatchPacket_congr {derived derived' : Derived Managers}
    (hAuthenticated : derived.onClientAuthenticated = derived'.onClientAuthenticated)
    {s : Nat × Endpoint Managers} {a : Arrival}
    (hFind : s.2.processors_ ≠ .login →
      derived.find a.env a.header.serviceId = derived'.find a.env a.header.serviceId) :
    Endpoint.dispatchPacket derived a.env a.header a.payload a.following s =
      Endpoint.dispatchPacket derived' a.env a.header a.payload a.following s := by
  have hSame : AuthenticationHandler.onAuthenticate derived a.env a.header a.payload =
      AuthenticationHandler.onAuthenticate derived' a.env a.header a.payload := by
    unfold AuthenticationHandler.onAuthenticate
    rw [hAuthenticated]
  unfold Endpoint.dispatchPacket
  cases hMap : s.2.processors_ with
  | login => simp only [AuthenticationHandler.dispatch_find, hSame]
  | session managers => simp only [hFind (by rw [hMap]; simp)]

/-- Packets for which no V11 processor runs do the same whatever these processors are. -/
theorem dispatchPacket_not_processes {derived : Derived Managers}
    (hAuthenticated : mock.onClientAuthenticated = derived.onClientAuthenticated)
    (hFind : ∀ env serviceId, V11.find serviceId = none → derived.find env serviceId = none)
    {s : Nat × Endpoint Managers} {a : Arrival} (h : ∀ service, ¬ Processes s.2 a service) :
    Endpoint.dispatchPacket mock a.env a.header a.payload a.following s =
      Endpoint.dispatchPacket derived a.env a.header a.payload a.following s := by
  refine dispatchPacket_congr hAuthenticated fun hSession => ?_
  cases hService : V11.find a.header.serviceId with
  | some service =>
    cases hMap : s.2.processors_ with
    | login => exact absurd hMap hSession
    | session managers => exact absurd ⟨⟨managers, hMap⟩, hService⟩ (h service)
  | none =>
    rw [hFind _ _ hService]
    show (V11.find a.header.serviceId).map _ = none
    rw [hService, Option.map_none]

/-! ## The login phase -/

/-- `OnClientAuthenticated` installs a map exactly when it returns. -/
theorem onClientAuthenticated_installs (env : Env) (handler : AuthenticationHandler)
    {s : Startup Managers} (hLogin : s.processors_ = .login) :
    (finalState (onClientAuthenticated env handler s)).processors_ ≠ .login ↔
      returned (onClientAuthenticated env handler s) = true := by
  unfold onClientAuthenticated
  -- the mock server's contacts always load; only sending can fail
  obtain ⟨m, hLoad, -⟩ := loadContacts_initialContacts env handler.initialAvailability_
  rw [hLoad]
  dsimp only
  generalize mockBeginSession = beginSession
  cases beginSession (newSession handler m s.connection_ (env.rand s.draws)) with
  | error e session => exact iff_of_false (fun h => h hLogin) fun h => by cases h
  | ok _ session => exact iff_of_true (fun h => by cases h) rfl

/-- The other packets of the login map keep it. -/
theorem login_stays {derived : Derived Managers} {s : Nat × Endpoint Managers} {a : Arrival}
    (hLogin : s.2.processors_ = .login) (h : ∀ fields, ¬ Authenticates s.2 a fields) :
    (finalState (Endpoint.dispatchPacket derived a.env a.header a.payload a.following
      s)).2.processors_ = .login := by
  unfold Endpoint.dispatchPacket
  rw [hLogin]
  dsimp only
  rw [AuthenticationHandler.dispatch_find]
  -- three services are in the map, and the two that do not authenticate only answer
  split_ifs with hSync hChallenge hAuthenticate
  · exact (AuthenticationHandler.onProtocolSync_processors _ _ _).trans hLogin
  · exact (AuthenticationHandler.onChallengeRequest_processors _ _).trans hLogin
  · unfold AuthenticationHandler.onAuthenticate
    cases hParse : PacketParser.parse Payloads.Authentication.onKeyPair a.payload {} with
    | error e fields => exact hLogin
    | ok _ fields => exact absurd ⟨hLogin, hAuthenticate, hParse⟩ (h fields)
  · rw [dispatch_none]
    exact hLogin

/-- **The login map is left** by the packets whose authentication completes, and by no others. -/
theorem login_to_session {s s' : Nat × Endpoint Managers} {a : Arrival}
    (hStep : Endpoint.Step mock s a s') (hLogin : s.2.processors_ = .login) :
    s'.2.processors_ ≠ .login ↔ Completes s a := by
  obtain ⟨-, rfl⟩ := hStep
  by_cases hAuthenticates : ∃ fields, Authenticates s.2 a fields
  -- the packet authenticates: what it starts returns, or the map is kept
  · obtain ⟨fields, hFields⟩ := hAuthenticates
    unfold Completes
    rw [dispatchPacket_authenticates mock hFields, mock_onClientAuthenticated]
    have hInstalls := onClientAuthenticated_installs a.env (s.2.handler.authenticated a.header)
      (s := ⟨s.1, s.2.connection_, s.2.processors_⟩) hLogin
    generalize onClientAuthenticated a.env (s.2.handler.authenticated a.header) = start
      at hInstalls ⊢
    rw [and_iff_right ⟨fields, hFields⟩]
    unfold AuthenticationHandler.startup zoom
    dsimp only
    cases hStart : start ⟨s.1, s.2.connection_, s.2.processors_⟩ with
    | ok _ t =>
      rw [hStart] at hInstalls
      exact hInstalls
    | error e t =>
      rw [hStart] at hInstalls
      exact hInstalls
  -- it does not, and the map is kept
  · refine iff_of_false (fun h => h ?_) fun h => hAuthenticates h.1
    exact login_stays hLogin fun fields hFields => hAuthenticates ⟨fields, hFields⟩

/-! ## The session phase -/

/-- The header fields of the connection and the client of the session are the same. -/
def SameClient (s s' : SessionContext) : Prop :=
  s'.connection_.sessionId_ = s.connection_.sessionId_ ∧
    s'.connection_.protocolVersion_ = s.connection_.protocolVersion_ ∧
    s'.profileManager_ = s.profileManager_

instance : IsPreorder SessionContext SameClient where
  refl _ := ⟨rfl, rfl, rfl⟩
  trans _ _ _ h h' := ⟨h'.1.trans h.1, h'.2.1.trans h.2.1, h'.2.2.trans h.2.2⟩

theorem sameClient_basic : Basic SameClient where
  sent _ _ := ⟨rfl, rfl, rfl⟩
  noted _ _ := ⟨rfl, rfl, rfl⟩
  pending _ _ _ _ _ _ _ := ⟨rfl, rfl, rfl⟩
  removed _ _ := ⟨rfl, rfl, rfl⟩
  renamed _ _ _ := ⟨rfl, rfl, rfl⟩
  changed _ _ _ _ _ _ _ := ⟨rfl, rfl, rfl⟩
  unblocked _ _ := ⟨rfl, rfl, rfl⟩

/-- The endpoint with a session in it. -/
def Endpoint.withSession (e : Endpoint Managers) (s : SessionContext) : Endpoint Managers :=
  { e with connection_ := s.connection_, processors_ := .session s.toManagers }

theorem Endpoint.withSession_self {e : Endpoint Managers} {s : SessionContext}
    (h : e.session = some s) : e.withSession s = e := by
  obtain ⟨connection, handler, map⟩ := e
  cases map with
  | login => cases h
  | session managers =>
    cases h
    rfl

theorem Endpoint.exists_session {e : Endpoint Managers} (h : e.processors_ ≠ .login) :
    ∃ s, e.session = some s := by
  unfold Endpoint.session
  cases hMap : e.processors_ with
  | login => exact absurd hMap h
  | session managers => exact ⟨_, rfl⟩

theorem Endpoint.not_login {e : Endpoint Managers} {s : SessionContext}
    (h : e.session = some s) : e.processors_ ≠ .login := by
  intro hLogin
  rw [Endpoint.session, hLogin] at h
  cases h

/-- A packet of a session acts on the session, and on nothing else. -/
theorem dispatchPacket_session {s : Nat × Endpoint Managers} {session : SessionContext}
    (hSession : s.2.session = some session) (a : Arrival) :
    Endpoint.dispatchPacket mock a.env a.header a.payload a.following s =
      mapState (fun t => (s.1, s.2.withSession t))
        (V11.dispatchPacket a.env a.header a.payload a.following session) := by
  unfold Endpoint.dispatchPacket
  unfold Endpoint.session at hSession
  cases hMap : s.2.processors_ with
  | login =>
    rw [hMap] at hSession
    cases hSession
  | session managers =>
    rw [hMap] at hSession
    cases hSession
    -- the processor works on the managers of the map, and on the connection
    have hFind : mock.find a.env a.header.serviceId = (V11.find a.header.serviceId).map
        fun service payload following => onManagers (V11.parse a.env service payload following) :=
      rfl
    simp only [Endpoint.onSession, hMap]
    rw [hFind, V11.dispatchPacket]
    cases V11.find a.header.serviceId with
    | none =>
      simp only [Option.map_none, dispatch, zoom]
      cases PacketParser.parse (fun _ _ => pure ()) a.payload () <;> rfl
    | some service =>
      simp only [Option.map_some, dispatch, onManagers, zoom]
      cases V11.parse a.env service a.payload a.following
        { managers with connection_ := s.2.connection_ } <;> rfl

/-- **One packet of a session.** The session goes on, with the same header fields and
the same client; a packet of a service that is not in the map changes nothing. -/
theorem session_step {s s' : Nat × Endpoint Managers} {a : Arrival} {session : SessionContext}
    (hSession : s.2.session = some session) (hStep : Endpoint.Step mock s a s') :
    ∃ session', s'.2.session = some session' ∧ SameClient session session' ∧ s'.1 = s.1 ∧
      s'.2.handler = s.2.handler ∧ (V11.find a.header.serviceId = none → s' = s) := by
  obtain ⟨-, rfl⟩ := hStep
  rw [dispatchPacket_session hSession, finalState_mapState]
  refine ⟨_, rfl, dispatchPacket_frame sameClient_basic (fun _ _ => ⟨rfl, rfl, rfl⟩) a.env
    a.header a.payload a.following session, rfl, rfl, ?_⟩
  intro hNone
  rw [V11.dispatchPacket, hNone, Option.map_none, dispatch_none, Endpoint.withSession_self hSession]

/-! ## Runs -/

/-- Once a session is in place it stays, for the same client on the same connection. -/
theorem session_run {s s' : Nat × Endpoint Managers} {session : SessionContext}
    (hSession : s.2.session = some session) {arrivals : List Arrival}
    (hRun : Runs (Endpoint.Step mock) s arrivals s') :
    ∃ session', s'.2.session = some session' ∧ SameClient session session' ∧ s'.1 = s.1 ∧
      s'.2.handler = s.2.handler := by
  refine hRun.invariant (I := fun _ s' => ∃ session', s'.2.session = some session' ∧
    SameClient session session' ∧ s'.1 = s.1 ∧ s'.2.handler = s.2.handler)
    ⟨session, hSession, refl_of SameClient _, rfl, rfl⟩ ?_
  -- every step keeps what is said here of the state before it
  intro _ t a u _ ih hStep
  obtain ⟨now, hNow, hSame, hDraws, hHandler⟩ := ih
  obtain ⟨next, hNext, hSame', hDraws', hHandler', -⟩ := session_step hNow hStep
  exact ⟨next, hNext, trans_of SameClient hSame hSame', hDraws'.trans hDraws,
    hHandler'.trans hHandler⟩

/-- A session was begun by a packet of the run whose authentication completed. -/
theorem completes_of_session {draws : Nat} {connection : ClientConnection}
    {arrivals : List Arrival} {s : Nat × Endpoint Managers}
    (hRun : Runs (Endpoint.Step mock) (draws, .new connection) arrivals s) :
    s.2.processors_ ≠ .login → ∃ before a after t, arrivals = before ++ a :: after ∧
      Runs (Endpoint.Step mock) (draws, .new connection) before t ∧ Completes t a := by
  refine hRun.exists_cause (P := fun s => s.2.processors_ = .login) rfl ?_
  intro t b u hStep hLogin hNow
  exact (login_to_session hStep hLogin).mp hNow

/-- What a packet leads to is determined. -/
theorem Endpoint.step_unique {σ : Type} {derived : Derived σ} (s : Nat × Endpoint σ) (a : Arrival)
    (t u : Nat × Endpoint σ) (ht : Endpoint.Step derived s a t) (hu : Endpoint.Step derived s a u) :
    t = u := ht.2.trans hu.2.symm

/-- The session begun by a packet whose authentication completes is still there afterwards. -/
theorem session_after_completes {draws : Nat} {connection : ClientConnection}
    {before after : List Arrival} {a : Arrival} {t s : Nat × Endpoint Managers}
    (ht : Runs (Endpoint.Step mock) (draws, .new connection) before t) (hCompletes : Completes t a)
    (hRun : Runs (Endpoint.Step mock) (draws, .new connection) (before ++ a :: after) s) :
    ∃ u session session', Runs (Endpoint.Step mock) (draws, .new connection) (before ++ [a]) u ∧
      u.2.session = some session ∧ s.2.session = some session' ∧ SameClient session session' ∧
        s.1 = u.1 ∧ s.2.handler = u.2.handler := by
  obtain ⟨u, hStep, hu, hLater⟩ := hRun.resume Endpoint.step_unique ht
  obtain ⟨fields, hLogin, -⟩ := hCompletes.1
  obtain ⟨session, hSession⟩ :=
    Endpoint.exists_session ((login_to_session hStep hLogin).mpr hCompletes)
  obtain ⟨session', hSession', hSame, hDraws, hHandler⟩ := session_run hSession hLater
  exact ⟨u, session, session', hu, hSession, hSession', hSame, hDraws, hHandler⟩

/-- Of two packets of a run, the later one does not complete an authentication if the
earlier one did. -/
theorem not_completes_again {draws : Nat} {connection : ClientConnection}
    {before between : List Arrival} {a a' : Arrival} {t t' : Nat × Endpoint Managers}
    (ht : Runs (Endpoint.Step mock) (draws, .new connection) before t) (hCompletes : Completes t a)
    (ht' : Runs (Endpoint.Step mock) (draws, .new connection) (before ++ a :: between) t') :
    ¬ Completes t' a' := by
  intro hAgain
  obtain ⟨-, -, session, -, -, hSession, -⟩ := session_after_completes ht hCompletes ht'
  obtain ⟨fields, hLogin, -⟩ := hAgain.1
  exact Endpoint.not_login hSession hLogin

/-- **Login phase and session phase do not mix.** In every run of an endpoint of the mock
server, a V11 processor only runs after a packet whose authentication completed; there is
at most one such packet; and from then on the map, the connection's header fields, the
client and the handler stay what they are, nothing authenticates, and packets of services
the map does not have change nothing. -/
theorem phases_separate {draws : Nat} {connection : ClientConnection} {arrivals : List Arrival}
    {s : Nat × Endpoint Managers}
    (hRun : Runs (Endpoint.Step mock) (draws, .new connection) arrivals s) :
    (∀ before a after t service, arrivals = before ++ a :: after →
        Runs (Endpoint.Step mock) (draws, .new connection) before t →
        Processes t.2 a service →
        ∃ early b late u, before = early ++ b :: late ∧
          Runs (Endpoint.Step mock) (draws, .new connection) early u ∧ Completes u b) ∧
      (∀ before a after t before' a' after' t',
        arrivals = before ++ a :: after → arrivals = before' ++ a' :: after' →
        Runs (Endpoint.Step mock) (draws, .new connection) before t →
        Runs (Endpoint.Step mock) (draws, .new connection) before' t' →
        Completes t a → Completes t' a' → before = before') ∧
      ∀ before a after t, arrivals = before ++ a :: after →
        Runs (Endpoint.Step mock) (draws, .new connection) before t → Completes t a →
        ∃ u session session',
          Runs (Endpoint.Step mock) (draws, .new connection) (before ++ [a]) u ∧
            u.2.session = some session ∧ s.2.session = some session' ∧
            SameClient session session' ∧ s.1 = u.1 ∧ s.2.handler = u.2.handler ∧
            ∀ b, (∀ fields, ¬ Authenticates s.2 b fields) ∧
              ∀ s', Endpoint.Step mock s b s' →
                s'.2.processors_ ≠ .login ∧ (V11.find b.header.serviceId = none → s' = s) := by
  refine ⟨?_, ?_, ?_⟩
  -- a processor runs only when a session's map is in place, and something installed it
  · intro before a after t service _ ht hProcesses
    obtain ⟨⟨managers, hMap⟩, -⟩ := hProcesses
    exact completes_of_session ht (by rw [hMap]; simp)
  · intro before a after t before' a' after' t' hSplit hSplit' ht ht' hCompletes hCompletes'
    -- the later one of two such packets would authenticate in the session of the earlier one
    refine Runs.at_most_once ?_ hSplit hSplit' ht ht' hCompletes hCompletes'
    intro early b between b' late u u' _ hu hFirst hu'
    exact not_completes_again hu hFirst hu'
  · intro before a after t hSplit ht hCompletes
    rw [hSplit] at hRun
    obtain ⟨u, session, session', hu, hSession, hSession', hSame, hDraws, hHandler⟩ :=
      session_after_completes ht hCompletes hRun
    refine ⟨u, session, session', hu, hSession, hSession', hSame, hDraws, hHandler, fun b => ?_⟩
    refine ⟨fun fields h => Endpoint.not_login hSession' h.1, fun s' hStep => ?_⟩
    obtain ⟨next, hNext, -, -, -, hNone⟩ := session_step hSession' hStep
    exact ⟨Endpoint.not_login hNext, hNone⟩

/-- In the session of a client that just logged in, the packet that it logged in with does not
go back to the login map, and does not start another session. -/
theorem phases_separate_authenticated :
    (∀ fields, ¬ Authenticates authenticated.2 authenticationPacket fields) ∧
      ∀ s', Endpoint.Step mock authenticated authenticationPacket s' →
      s'.2.processors_ ≠ .login := by
  have hCompletes : Completes (0, .new (.new 0 0)) authenticationPacket :=
    ⟨⟨{ clientId1_ := .view (ascii "a") [0xc0, 0x80] }, rfl, rfl, by rfl⟩, authenticated_returned.1⟩
  obtain ⟨-, -, -, -, -, -, -, -, -, hLater⟩ :=
    (phases_separate authenticated_run.1).2.2 [] authenticationPacket [] _ rfl (.nil _) hCompletes
  obtain ⟨hNone, hStays⟩ := hLater authenticationPacket
  exact ⟨hNone, fun s' hStep => (hStays s' hStep).1⟩

/-- The services of the login phase are not in the map. -/
example : V11.find 76 = none ∧ V11.find 84 = none ∧ V11.find 87 = none := by decide

end Giblet.YMsg
