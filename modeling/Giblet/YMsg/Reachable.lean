import Giblet.YMsg.Decisions
import Giblet.YMsg.Phases

/-!
# YMsg — the sessions of the mock server

A session is installed by the packet whose authentication completes, and
packets are handled in it from then on.

* `LoggedIn.begun` — what a session is when it is installed.
* `Reachable.clientId_clean` — what stays of that for the rest of the connection.
-/

namespace Giblet.YMsg

open Effect Run SessionContext MockAuthenticationHandler

/-- A session as a login of the mock server leaves it. -/
def LoggedIn (s : SessionContext) : Prop :=
  ∃ draws connection history a t u,
    Runs (Endpoint.Step mock) (draws, .new connection) history t ∧ t.2.processors_ = .login ∧
      Endpoint.Step mock t a u ∧ u.2.session = some s

/-- A session of the mock server, after any packets of its connection. -/
def Reachable (s : SessionContext) : Prop :=
  ∃ draws connection arrivals e,
    Runs (Endpoint.Step mock) (draws, .new connection) arrivals e ∧ e.2.session = some s

/-! ## Values of a payload object -/

/-- What storing a value cut out of a payload preserves, holds of the payload object that a
parse leaves. -/
theorem parse_assignMember_invariant {π : Type} {P : π → Prop}
    {members : List (Int32 × (StringView → π → π))} {fields fields' : π} {payload : Bytes}
    (hStore : ∀ member ∈ members, ∀ value f, Unterminated value.chars → P f → P (member.2 value f))
    (hStart : P fields)
    (hParse : PacketParser.parse (assignMember members) payload fields = .ok () fields') :
    P fields' := by
  have hClean : ∀ t ∈ (PacketParser.tokens payload).1, Unterminated t.value.chars :=
    fun t ht => clean_of_mem_tokens ht
  rw [parse_assignMember] at hParse
  -- the payload was read to its end, so the object is what its tokens stored
  have hFields : fields' = storeTokens members fields (PacketParser.tokens payload).1 := by
    split at hParse
    · cases hParse
      rfl
    · cases hParse
  rw [hFields]
  clear hFields hParse
  generalize (PacketParser.tokens payload).1 = ts at hClean ⊢
  unfold storeTokens
  induction ts generalizing fields with
  | nil => exact hStart
  | cons t ts ih =>
    obtain ⟨hFirst, hRest⟩ := List.forall_mem_cons.mp hClean
    refine ih ?_ hRest
    dsimp only
    cases hLookup : members.lookup t.key with
    | none => exact hStart
    | some member =>
      obtain ⟨before, after, hMembers, -⟩ := List.lookup_eq_some_iff.mp hLookup
      have hMember : (t.key, member) ∈ members := by simp [hMembers]
      exact hStore _ hMember _ _ hFirst hStart

/-- The client ids on record were cut out of a payload. -/
theorem latestChallenge_clean (history : List Arrival) :
    Unterminated ((latestChallenge history).getD []) := by
  -- on the history: only an accepted `ChallengeRequest` replaces the id
  induction history using List.reverseRecOn with
  | nil => exact Terminator.clean_nil _ _
  | append_singleton history a ih =>
    rw [latestChallenge_snoc]
    cases hRecorded : a.recorded with
    | none => exact ih
    | some id =>
      unfold Arrival.recorded at hRecorded
      split_ifs at hRecorded
      split at hRecorded
      · rename_i fields hParse
        cases hRecorded
        refine parse_assignMember_invariant
          (P := fun f : Payloads.ChallengeRequest => Unterminated f.clientId.chars) ?_
          (Terminator.clean_nil _ _) hParse
        intro member hMember value f hValue _
        obtain rfl := List.mem_singleton.mp hMember
        exact hValue
      · cases hRecorded

/-! ## The session of a login -/

/-- **A login** begins a session for the client id on record, with the mock server's contacts. -/
theorem LoggedIn.begun {s : SessionContext} (h : LoggedIn s) :
    ∃ env handler contactManager connection sessionId,
      loadContacts (initialContacts env handler.initialAvailability_) = .ok contactManager ∧
        mockBeginSession (newSession handler contactManager connection sessionId) = .ok () s ∧
        Unterminated handler.clientId_ ∧
        (handler.initialAvailability_ = .Offline ∨ handler.initialAvailability_ = .Available) := by
  obtain ⟨draws, connection, history, a, t, u, hRun, hLogin, hStep, hSession⟩ := h
  obtain ⟨⟨fields, hAuthenticates⟩, hReturned⟩ :=
    (login_to_session hStep hLogin).mp (Endpoint.not_login hSession)
  obtain ⟨contactManager, hLoad, -⟩ := loadContacts_initialContacts a.env
    (t.2.handler.authenticated a.header).initialAvailability_
  refine ⟨a.env, t.2.handler.authenticated a.header, contactManager, t.2.connection_,
    a.env.rand t.1, hLoad, ?_, ?_, ?_⟩
  · -- what the packet led to is what `OnClientAuthenticated` installed
    have hLast := hStep.2
    rw [dispatchPacket_authenticates mock hAuthenticates, mock_onClientAuthenticated] at hReturned hLast
    unfold AuthenticationHandler.startup zoom onClientAuthenticated at hReturned hLast
    rw [hLoad] at hReturned hLast
    dsimp only at hReturned hLast
    generalize hBegin : mockBeginSession (newSession (t.2.handler.authenticated a.header)
      contactManager t.2.connection_ (a.env.rand t.1)) = r at hReturned hLast ⊢
    cases r with
    | error e session => cases hReturned
    | ok _ session =>
      rw [hLast] at hSession
      cases hSession
      rfl
  · show Unterminated t.2.handler.clientId_
    rw [recorded_of_login hRun hLogin]
    exact latestChallenge_clean history
  · show (if a.header.attributeId = 12 then Availability.Offline else Availability.Available) = _ ∨
      (if a.header.attributeId = 12 then Availability.Offline else Availability.Available) = _
    split_ifs
    · exact .inl rfl
    · exact .inr rfl

/-- Its managers are those that were loaded. -/
theorem toManagers_of_begins {s₀ s₁ : SessionContext} (h : Begins s₀ s₁) :
    s₁.toManagers = s₀.toManagers := by
  obtain ⟨more, -, rfl⟩ := h.pushAll
  exact toManagers_pushAll _ _

theorem LoggedIn.clientId_clean {s : SessionContext} (h : LoggedIn s) :
    Unterminated s.profileManager_.clientId_ := by
  obtain ⟨env, handler, contactManager, connection, sessionId, -, hBegin, hClean, -⟩ := h.begun
  rw [congrArg Managers.profileManager_ (toManagers_of_begins (.inr hBegin))]
  exact hClean

/-! ## Sessions of a connection -/

/-- A session goes back to a login, and still has its client. -/
theorem Reachable.loggedIn {s : SessionContext} (h : Reachable s) :
    ∃ s₁, LoggedIn s₁ ∧ SameClient s₁ s := by
  obtain ⟨draws, connection, arrivals, e, hRun, hSession⟩ := h
  obtain ⟨before, a, after, t, hSplit, ht, hCompletes⟩ :=
    completes_of_session hRun (Endpoint.not_login hSession)
  rw [hSplit] at hRun
  obtain ⟨u, session, session', hu, hFirst, hLast, hSame, -, -⟩ :=
    session_after_completes ht hCompletes hRun
  obtain ⟨w, hw, hStep⟩ := hu.snoc_inv
  obtain rfl := hw.unique Endpoint.step_unique ht
  obtain rfl := Option.some.inj (hSession.symm.trans hLast)
  obtain ⟨fields, hLogin, -⟩ := hCompletes.1
  exact ⟨session, ⟨draws, connection, before, a, w, u, hw, hLogin, hStep, hFirst⟩, hSame⟩

/-- **The client id of a session** has no terminator in it. -/
theorem Reachable.clientId_clean {s : SessionContext} (h : Reachable s) :
    Unterminated s.profileManager_.clientId_ := by
  obtain ⟨s₁, hLoggedIn, -, -, hSame⟩ := h.loggedIn
  rw [hSame]
  exact hLoggedIn.clientId_clean

/-- The session of a client that just logged in. -/
theorem loggedIn_authenticated : ∃ s ∈ authenticated.2.session, LoggedIn s ∧ Reachable s := by
  obtain ⟨hRun, hSome⟩ := authenticated_run
  obtain ⟨s, hSession⟩ := Option.isSome_iff_exists.mp hSome
  have hLast : Runs (Endpoint.Step mock) _ ([] ++ [authenticationPacket]) authenticated := hRun
  obtain ⟨t, hStart, hStep⟩ := hLast.snoc_inv
  obtain rfl := hStart.nil_inv
  exact ⟨s, hSession, ⟨0, _, [], authenticationPacket, _, authenticated, hStart, rfl, hStep,
    hSession⟩, ⟨0, _, _, authenticated, hRun, hSession⟩⟩

end Giblet.YMsg
