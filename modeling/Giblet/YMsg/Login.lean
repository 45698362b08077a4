import Giblet.YMsg.Authentication

/-!
# YMsg — who gets a session

`OnAuthenticate` compares the id of an `Authentication` packet with the one
that was challenged, and then goes on whatever the outcome: the block that
should refuse the client is empty. A session therefore belongs to the
identity that was challenged exactly in the runs that never take that branch
and never authenticate before a challenge.

* `callsFor_iff` — which packets have `OnClientAuthenticated` called.
* `login_step` — what a packet does to the login map and the recorded id.
* `recorded_of_login` — while the login map is in place, the recorded id is
  that of the latest `ChallengeRequest`.
* `authenticated_challenged_iff` — the result, about the calls of a run.
-/

namespace Giblet.YMsg

open Effect Run

variable {σ : Type}

/-! ## Events -/

/-- The client id that a packet records: it is a `ChallengeRequest`, and its
payload is accepted. -/
def Arrival.recorded (a : Arrival) : Option Bytes :=
  if a.header.serviceId = 87 then
    match PacketParser.parse Payloads.ChallengeRequest.onKeyPair a.payload {} with
    | .ok _ fields => some fields.clientId.chars
    | .error _ _ => none
  else none

/-- The client id recorded by the latest `ChallengeRequest` of a history. -/
def latestChallenge (history : List Arrival) : Option Bytes :=
  history.foldl (fun latest a => a.recorded.or latest) none

@[simp] theorem latestChallenge_nil : latestChallenge [] = none := rfl

@[simp] theorem latestChallenge_snoc (history : List Arrival) (a : Arrival) :
    latestChallenge (history ++ [a]) = a.recorded.or (latestChallenge history) := by
  simp [latestChallenge]

/-- A challenge is on record when some packet recorded one. -/
theorem latestChallenge_isSome_iff (history : List Arrival) :
    (latestChallenge history).isSome = true ↔ ∃ a ∈ history, a.recorded.isSome = true := by
  -- on the history, from its end
  induction history using List.reverseRecOn with
  | nil => simp
  | append_singleton history a ih =>
    rw [latestChallenge_snoc, Option.isSome_or, Bool.or_eq_true, ih]
    simp only [List.mem_append, List.mem_singleton]
    constructor
    · intro h
      cases h with
      | inl hLast => exact ⟨a, .inr rfl, hLast⟩
      | inr hEarlier =>
        obtain ⟨b, hMem, hb⟩ := hEarlier
        exact ⟨b, .inl hMem, hb⟩
    · intro ⟨b, hMem, hb⟩
      cases hMem with
      | inl hEarlier => exact .inr ⟨b, hEarlier, hb⟩
      | inr hLast => exact .inl (hLast ▸ hb)

/-- An `Authentication` packet that the handler gets and accepts: the login map
is in place, and the payload can be read. -/
def Authenticates (e : Endpoint σ) (a : Arrival) (fields : Payloads.Authentication) : Prop :=
  e.processors_ = .login ∧ a.header.serviceId = 84 ∧
    PacketParser.parse Payloads.Authentication.onKeyPair a.payload {} = .ok () fields

/-- The handler as `OnClientAuthenticated` finds it. -/
def AuthenticationHandler.authenticated (handler : AuthenticationHandler) (header : Header) :
    AuthenticationHandler :=
  { handler with
    initialAvailability_ := if header.attributeId = 12 then .Offline else .Available }

/-- Handling the packet calls `OnClientAuthenticated`, for a client that gave the id. -/
def CallsFor (derived : Derived σ) (s : Nat × Endpoint σ) (a : Arrival) (id : Bytes) : Prop :=
  ∃ ids, (finalState (Endpoint.dispatchPacket derived a.env a.header a.payload a.following
    s)).2.authenticatedIds = s.2.authenticatedIds ++ ids ∧ id ∈ ids

/-- What such a packet does is up to the derived class. -/
theorem dispatchPacket_authenticates (derived : Derived σ) {s : Nat × Endpoint σ} {a : Arrival}
    {fields : Payloads.Authentication} (h : Authenticates s.2 a fields) :
    Endpoint.dispatchPacket derived a.env a.header a.payload a.following s =
      AuthenticationHandler.startup
        (derived.onClientAuthenticated a.env (s.2.handler.authenticated a.header))
        (s.1, { s.2 with
          handler := s.2.handler.authenticated a.header
          authenticatedIds := s.2.authenticatedIds ++ [fields.clientId1_.chars] }) := by
  obtain ⟨hLogin, hService, hParse⟩ := h
  unfold Endpoint.dispatchPacket
  rw [hLogin]
  show dispatch (AuthenticationHandler.find derived a.env a.header) a.payload a.following s = _
  rw [AuthenticationHandler.dispatch_find, hService]
  show AuthenticationHandler.onAuthenticate derived a.env a.header a.payload s = _
  unfold AuthenticationHandler.onAuthenticate
  rw [hParse]
  -- both branches of the comparison go on with the same endpoint
  simp only [ite_self]
  rfl

/-- No other packet does: what it leads to is the same for every derived class
with the same processors. -/
theorem dispatchPacket_not_authenticates {derived derived' : Derived σ}
    (hFind : derived.find = derived'.find) {s : Nat × Endpoint σ} {a : Arrival}
    (h : ∀ fields, ¬ Authenticates s.2 a fields) :
    Endpoint.dispatchPacket derived a.env a.header a.payload a.following s =
      Endpoint.dispatchPacket derived' a.env a.header a.payload a.following s := by
  unfold Endpoint.dispatchPacket
  cases hMap : s.2.processors_ with
  | session session => simp only [hFind]
  | login =>
    simp only [AuthenticationHandler.dispatch_find]
    split_ifs with hSync hChallenge hAuthenticate
    · rfl
    · rfl
    · unfold AuthenticationHandler.onAuthenticate
      cases hParse : PacketParser.parse Payloads.Authentication.onKeyPair a.payload {} with
      | ok _ fields => exact absurd ⟨hMap, hAuthenticate, hParse⟩ (h fields)
      | error e fields => rfl
    · rfl

/-- It notes one call. -/
theorem authenticatedIds_authenticates (derived : Derived σ) {s : Nat × Endpoint σ} {a : Arrival}
    {fields : Payloads.Authentication} (h : Authenticates s.2 a fields) :
    (finalState (Endpoint.dispatchPacket derived a.env a.header a.payload a.following
      s)).2.authenticatedIds = s.2.authenticatedIds ++ [fields.clientId1_.chars] := by
  rw [dispatchPacket_authenticates derived h, AuthenticationHandler.startup, finalState_zoom]

/-- Every other packet notes none. -/
theorem authenticatedIds_not_authenticates (derived : Derived σ) {s : Nat × Endpoint σ}
    {a : Arrival} (h : ∀ fields, ¬ Authenticates s.2 a fields) :
    (finalState (Endpoint.dispatchPacket derived a.env a.header a.payload a.following
      s)).2.authenticatedIds = s.2.authenticatedIds := by
  unfold Endpoint.dispatchPacket
  cases hMap : s.2.processors_ with
  | session session => simp only [Endpoint.onSession, hMap, finalState_zoom]
  | login =>
    simp only [AuthenticationHandler.dispatch_find]
    -- service by service
    split_ifs with hSync hChallenge hAuthenticate
    · unfold AuthenticationHandler.onProtocolSync
      split
      · rfl
      · rw [AuthenticationHandler.transmit, finalState_zoom]
    · unfold AuthenticationHandler.onChallengeRequest
      split
      · rfl
      · rw [AuthenticationHandler.transmit, finalState_zoom]
    · unfold AuthenticationHandler.onAuthenticate
      cases hParse : PacketParser.parse Payloads.Authentication.onKeyPair a.payload {} with
      | ok _ fields => exact absurd ⟨hMap, hAuthenticate, hParse⟩ (h fields)
      | error e fields => rfl
    · unfold dispatch
      split <;> rfl

/-- **`OnClientAuthenticated` is called for an id** exactly by an accepted
`Authentication` packet that gives this id. -/
theorem callsFor_iff (derived : Derived σ) (s : Nat × Endpoint σ) (a : Arrival) (id : Bytes) :
    CallsFor derived s a id ↔
      ∃ fields, Authenticates s.2 a fields ∧ fields.clientId1_.chars = id := by
  constructor
  · rintro ⟨ids, hIds, hMem⟩
    by_cases hNone : ∀ fields, ¬ Authenticates s.2 a fields
    · rw [authenticatedIds_not_authenticates derived hNone, List.self_eq_append_right] at hIds
      rw [hIds] at hMem
      cases hMem
    · obtain ⟨fields, hAuthenticates⟩ := not_forall_not.mp hNone
      rw [authenticatedIds_authenticates derived hAuthenticates, List.append_cancel_left_eq] at hIds
      rw [← hIds] at hMem
      exact ⟨fields, hAuthenticates, (List.mem_singleton.mp hMem).symm⟩
  · rintro ⟨fields, hAuthenticates, rfl⟩
    exact ⟨_, authenticatedIds_authenticates derived hAuthenticates, List.mem_cons_self⟩

/-! ## The recorded id -/

/-- Packets handled by the login map change the recorded id only when they record one. -/
theorem login_dispatch_clientId (derived : Derived σ) (a : Arrival) (s : Nat × Endpoint σ) :
    (finalState (dispatch (AuthenticationHandler.find derived a.env a.header) a.payload a.following
      s)).2.handler.clientId_ = a.recorded.getD s.2.handler.clientId_ := by
  rw [AuthenticationHandler.dispatch_find]
  unfold Arrival.recorded
  -- service by service; 76 is not 87
  split_ifs with hSync hChallenge hChallenge hAuthenticate
  · rw [hSync] at hChallenge
    cases hChallenge
  · unfold AuthenticationHandler.onProtocolSync
    split
    · rfl
    · rw [AuthenticationHandler.transmit, finalState_zoom]
      rfl
  · unfold AuthenticationHandler.onChallengeRequest
    cases PacketParser.parse Payloads.ChallengeRequest.onKeyPair a.payload {} with
    | error e fields => rfl
    | ok _ fields =>
      simp only [AuthenticationHandler.transmit, finalState_zoom]
      rfl
  · unfold AuthenticationHandler.onAuthenticate
    split
    · rfl
    · simp only [AuthenticationHandler.startup, finalState_zoom, ite_self]
      rfl
  · unfold dispatch
    split <;> rfl

/-- **One packet.** The login map is never put back; as long as it is in place,
the recorded id is kept unless the packet records another one. -/
theorem login_step {derived : Derived σ} {s s' : Nat × Endpoint σ} {a : Arrival}
    (h : Endpoint.Step derived s a s') (hLogin : s'.2.processors_ = .login) :
    s.2.processors_ = .login ∧
      s'.2.handler.clientId_ = a.recorded.getD s.2.handler.clientId_ := by
  have hFinal := h.2
  unfold Endpoint.dispatchPacket at hFinal
  cases hMap : s.2.processors_ with
  | login =>
    rw [hMap] at hFinal
    rw [hFinal]
    exact ⟨rfl, login_dispatch_clientId derived a s⟩
  | session session =>
    -- a session's processors act on the session inside the map
    rw [hMap] at hFinal
    simp only [Endpoint.onSession, hMap, finalState_zoom] at hFinal
    rw [hFinal] at hLogin
    cases hLogin

/-- **A whole run.** While the login map is in place, the recorded id is that of
the latest `ChallengeRequest`, and empty when there was none. -/
theorem recorded_of_login {derived : Derived σ} {draws : Nat} {connection : ClientConnection}
    {history : List Arrival} {s : Nat × Endpoint σ}
    (hRun : Runs (Endpoint.Step derived) (draws, .new connection) history s) :
    s.2.processors_ = .login →
      s.2.handler.clientId_ = (latestChallenge history).getD [] := by
  -- one packet replaces the latest challenge exactly when it replaces the id
  refine hRun.invariant (I := fun history s => s.2.processors_ = .login →
    s.2.handler.clientId_ = (latestChallenge history).getD []) (fun _ => rfl) ?_
  intro history t a u _ ih hStep hLogin
  obtain ⟨hBefore, hRecorded⟩ := login_step hStep hLogin
  rw [hRecorded, ih hBefore, latestChallenge_snoc]
  cases a.recorded <;> rfl

/-! ## Result -/

/-- **`OnClientAuthenticated` is only called for the challenged identity** in
exactly the runs in which every accepted `Authentication` packet comes after
some challenge, and does not take the empty branch in `OnAuthenticate`. -/
theorem authenticated_challenged_iff (derived : Derived σ) (draws : Nat)
    (connection : ClientConnection) (arrivals : List Arrival) :
    (∀ history a rest s id, arrivals = history ++ a :: rest →
        Runs (Endpoint.Step derived) (draws, .new connection) history s →
        CallsFor derived s a id → latestChallenge history = some id) ↔
      ∀ history a rest s fields, arrivals = history ++ a :: rest →
        Runs (Endpoint.Step derived) (draws, .new connection) history s →
        Authenticates s.2 a fields →
        (∃ c ∈ history, c.recorded.isSome = true) ∧
          fields.clientId1_.chars = s.2.handler.clientId_ := by
  -- the handler's id is the latest challenge, so comparing the two is the same
  constructor
  · intro hEvery history a rest s fields hSplit hRun hAuthenticates
    have hLatest := hEvery history a rest s _ hSplit hRun
      ((callsFor_iff derived s a _).mpr ⟨fields, hAuthenticates, rfl⟩)
    refine ⟨(latestChallenge_isSome_iff history).mp (by rw [hLatest]; rfl), ?_⟩
    rw [recorded_of_login hRun hAuthenticates.1, hLatest, Option.getD_some]
  · intro hCondition history a rest s id hSplit hRun hCalls
    obtain ⟨fields, hAuthenticates, rfl⟩ := (callsFor_iff derived s a id).mp hCalls
    obtain ⟨hSome, hSame⟩ := hCondition history a rest s fields hSplit hRun hAuthenticates
    have hLatest := recorded_of_login hRun hAuthenticates.1
    obtain ⟨id, hId⟩ := Option.isSome_iff_exists.mp ((latestChallenge_isSome_iff history).mpr hSome)
    rw [hSame, hLatest, hId, Option.getD_some]

/-- A server that sets up a session for whoever sends an `Authentication` packet
first: nobody was challenged. -/
theorem authenticated_unchallenged :
    ¬ ∀ (derived : Derived Managers) (draws : Nat) (connection : ClientConnection)
      (arrivals : List Arrival),
      ∀ history a rest s id, arrivals = history ++ a :: rest →
        Runs (Endpoint.Step derived) (draws, .new connection) history s →
        CallsFor derived s a id → latestChallenge history = some id := by
  intro hEvery
  have hAuthenticates : Authenticates (Endpoint.new (.new 0 0) : Endpoint Managers)
      authenticationPacket { clientId1_ := .view (ascii "a") [0xc0, 0x80] } := ⟨rfl, rfl, by rfl⟩
  -- nothing was recorded before the first packet
  have hLatest := hEvery MockAuthenticationHandler.mock 0 (.new 0 0) [authenticationPacket] []
    authenticationPacket [] (0, .new (.new 0 0)) (ascii "a") rfl (.nil _)
    ((callsFor_iff _ _ _ _).mpr ⟨_, hAuthenticates, rfl⟩)
  cases hLatest

end Giblet.YMsg
