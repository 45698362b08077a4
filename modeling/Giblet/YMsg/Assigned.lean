import Giblet.YMsg.Login

/-!
# YMsg — what is sent was assigned

`ClientConnection` gives neither the session id nor the protocol version an
initialiser, `ContactInfo` leaves `isInChat` alone in both constructors, and
a `PrivateMessage` payload without key 97 has no encoding. All of these are
copied into packets.

* `Message.assigned_iff` — the messages that can carry a value nobody assigned.
* `contactStatus_not_assigned` — a session begins with such a message.
* `sent_assigned_iff` — the runs in which everything sent was assigned: those
  that never answer before both header fields are there, and never get as far
  as the contact list of a session.
-/

namespace Giblet.YMsg

open Effect Run SessionContext MockAuthenticationHandler

/-! ## Messages -/

/-- For each variable without an initialiser that is copied into a message:
whether it was assigned. -/
def Message.uncertain : Message → List Bool
  | setContactStatus _ contacts => contacts.map fun contact => contact.isInChat.assigned
  | setSingleContactStatus _ contact => [contact.isInChat.assigned]
  | updateContactStatus contact => [contact.isInChat.assigned]
  | privateMessage _ _ _ encoding => [encoding.assigned]
  | _ => []

/-- A contact's entry is assigned when its flag is. -/
theorem Builders.appendContact_assigned_iff (contact : ContactInfo) :
    (∀ f ∈ appendContact contact, f.2.assigned = true) ↔ contact.isInChat.assigned = true := by
  unfold appendContact
  simp only [List.forall_mem_append, List.forall_mem_cons, assigned_text, assigned_number,
    assigned_flag, Cell.assigned_of]
  split_ifs <;> simp

/-- **The values nobody may have assigned** are the flags of contacts, and the
encoding of a private message. -/
theorem Message.assigned_iff (m : Message) : m.Assigned ↔ ∀ b ∈ m.uncertain, b = true := by
  unfold Assigned
  cases m with
  | setContactStatus clientId contacts =>
    simp only [layout, Builders.appendContacts, uncertain, List.forall_mem_cons, assigned_text,
      assigned_number, true_and, List.forall_mem_map, List.forall_mem_flatMap,
      Builders.appendContact_assigned_iff]
  | setSingleContactStatus clientId contact =>
    simp only [layout, uncertain, List.forall_mem_cons, assigned_text, true_and,
      Builders.appendContact_assigned_iff, List.not_mem_nil, false_implies, implies_true, and_true]
  | updateContactStatus contact =>
    simp only [layout, uncertain, List.forall_mem_cons, assigned_number, true_and,
      Builders.appendContact_assigned_iff, List.not_mem_nil, false_implies, implies_true, and_true]
  | clientProfile clientId profiles contacts blocked =>
    simp [layout, Builders.clientProfile, uncertain]
  | privateMessage clientId contactId message encoding => simp [layout, uncertain]
  | chatroomJoined category roomName topic voiceCookie otherCookie participants =>
    simp [layout, uncertain, text, number]
  | _ => simp [layout, uncertain]

/-- Every header field and every value of the packet was assigned. -/
def Sent.Assigned (p : Sent) : Prop :=
  p.sessionId.assigned = true ∧ p.protocolVersion.assigned = true ∧ p.message.Assigned

namespace ClientConnection

/-- Nothing that was sent was left unassigned. -/
def AllAssigned (c : ClientConnection) : Prop := ∀ p ∈ c.sent, p.Assigned

theorem allAssigned_push (c : ClientConnection) (m : Message) :
    (c.push m).AllAssigned ↔
      c.AllAssigned ∧ c.sessionId_.assigned = true ∧ c.protocolVersion_.assigned = true ∧
        m.Assigned := by
  unfold AllAssigned push
  rw [List.forall_mem_append, List.forall_mem_singleton]
  rfl

/-- After `transmit`, and whether it returned or threw. -/
theorem allAssigned_transmit (c : ClientConnection) (m : Message) :
    (finalState (transmit m c)).AllAssigned ↔
      c.AllAssigned ∧ (m.Fits → c.sessionId_.assigned = true ∧
        c.protocolVersion_.assigned = true ∧ m.Assigned) := by
  rw [transmit_eq]
  by_cases hFits : m.Fits
  · rw [if_pos hFits, finalState_ok, allAssigned_push]
    exact and_congr_right fun _ => ⟨fun h _ => h, fun h => h hFits⟩
  · rw [if_neg hFits, finalState_error]
    exact (and_iff_left fun h => absurd h hFits).symm

end ClientConnection

/-! ## The beginning of a session -/

/-- What was sent stays sent. -/
def Grows (s s' : SessionContext) : Prop :=
  ∀ p ∈ s.connection_.sent, p ∈ s'.connection_.sent

instance : IsPreorder SessionContext Grows where
  refl _ _ h := h
  trans _ _ _ h h' p hp := h' p (h p hp)

theorem send_grows (m : Message) : Frame Grows (send m) := by
  intro s
  rw [send_run]
  split
  · exact fun p hp => List.mem_append_left _ hp
  · exact fun p hp => hp

/-- What a session sends after its contact list. -/
def afterContacts : SessionAction := do
  send .pingConfiguration
  mockExtras

theorem afterContacts_grows : Frame Grows afterContacts := by
  unfold afterContacts mockExtras
  have hExtra (condition : Bool) (m : Message) : Frame Grows (sendIf condition m) :=
    sendIf_frame condition (send_grows m)
  exact .bind (send_grows _) fun _ => .bind .get fun _ => .bind (hExtra _ _) fun _ =>
    .bind (hExtra _ _) fun _ => .bind (hExtra _ _) fun _ => hExtra _ _

/-- A session begins with its profile and its contact list; either of them can
turn out too large. -/
theorem mockBeginSession_run (s : SessionContext) :
    mockBeginSession s =
      if s.clientProfile.Fits then
        if s.contactStatus.Fits then
          afterContacts ((s.push s.clientProfile).push s.contactStatus)
        else .error Builder.tooLarge (s.push s.clientProfile)
      else .error Builder.tooLarge s := by
  -- the first two packets, and the rest
  have hOrder : mockBeginSession = (do
      send (← get).clientProfile
      send (← get).contactStatus
      afterContacts) := by
    simp only [mockBeginSession, beginSession, requestClientProfile, afterContacts, bind_assoc]
  rw [hOrder, bind_run, get_run]
  simp only [bind_run]
  rw [send_run]
  split_ifs with hProfile hStatus
  · simp only [get_run]
    rw [send_run, if_pos (show (s.push s.clientProfile).contactStatus.Fits from hStatus)]
    rfl
  · simp only [get_run]
    rw [send_run, if_neg (show ¬ (s.push s.clientProfile).contactStatus.Fits from hStatus)]
  · rfl

/-- **The contact list of a session is never assigned**: it has an entry for
donna, and no contact's flag is assigned by anybody. -/
theorem contactStatus_not_assigned {env : Env} {handler : AuthenticationHandler}
    {contactManager : ContactManager}
    (hLoad : loadContacts (initialContacts env handler.initialAvailability_) = .ok contactManager)
    (connection : ClientConnection) (sessionId : UInt32) :
    ¬ (newSession handler contactManager connection sessionId).contactStatus.Assigned := by
  intro hAssigned
  obtain ⟨m, hLoad', hMem⟩ := loadContacts_initialContacts env handler.initialAvailability_
  obtain rfl : contactManager = m := Except.ok.inj (hLoad.symm.trans hLoad')
  -- she has an entry whatever the client's own availability is
  have hDonna : linked env "donna" "Friends" .Custom false "Listening to Bewiz - Booters Paradise" ∈
      (newSession handler contactManager connection sessionId).onlineContacts := by
    refine List.mem_filter.mpr ⟨(hMem _).mpr ?_, rfl⟩
    simp [initialContacts]
  have hFlag := (Message.assigned_iff _).mp hAssigned false (List.mem_map.mpr ⟨_, hDonna, rfl⟩)
  cases hFlag

/-- The connection after an attempt to begin a session. -/
theorem allAssigned_mockBeginSession {s : SessionContext}
    (hStatus : ¬ s.contactStatus.Assigned) (hSessionId : s.connection_.sessionId_.assigned = true) :
    (finalState (mockBeginSession s)).connection_.AllAssigned ↔
      s.connection_.AllAssigned ∧ (s.clientProfile.Fits →
        s.connection_.protocolVersion_.assigned = true ∧ ¬ s.contactStatus.Fits) := by
  -- nothing in the profile is unassigned, so the header decides
  have hProfileAssigned : s.clientProfile.Assigned :=
    (Message.assigned_iff _).mpr fun b hb => absurd hb List.not_mem_nil
  have hPush : (s.push s.clientProfile).connection_.AllAssigned ↔
      s.connection_.AllAssigned ∧ s.connection_.protocolVersion_.assigned = true := by
    refine (ClientConnection.allAssigned_push _ _).trans (and_congr_right fun _ => ?_)
    exact ⟨fun h => h.2.1, fun h => ⟨hSessionId, h, hProfileAssigned⟩⟩
  rw [mockBeginSession_run]
  split_ifs with hProfile hFits
  · -- the contact list goes out, and stays among what was sent
    refine iff_of_false (fun hAll => ?_) fun h => (h.2 hProfile).2 hFits
    have hSent : (s.push s.clientProfile).connection_.packet s.contactStatus ∈
        ((s.push s.clientProfile).push s.contactStatus).connection_.sent :=
      List.mem_append_right _ List.mem_cons_self
    exact hStatus (hAll _ (afterContacts_grows _ _ hSent)).2.2
  -- the list does not fit: the profile was sent, and no more
  · rw [finalState_error, hPush]
    exact and_congr_right fun _ => ⟨fun h _ => ⟨h, hFits⟩, fun h => (h hProfile).1⟩
  -- not even the profile fits
  · exact (and_iff_left fun h => absurd h hProfile).symm

/-! ## Logging in is defined -/

theorem mockBeginSession_thrown : Faults Fault.Thrown mockBeginSession := by
  have hSendIf (condition : Bool) (m : Message) :
      Faults Fault.Thrown (sendIf condition m) := by
    unfold sendIf
    split
    · exact send_thrown m
    · exact .pure _
  unfold mockBeginSession beginSession requestClientProfile mockExtras
  refine .bind (.bind (.bind .get fun _ => send_thrown _) fun _ =>
    .bind .get fun _ => .bind (send_thrown _) fun _ => send_thrown _) fun _ => ?_
  exact .bind .get fun _ => .bind (hSendIf _ _) fun _ => .bind (hSendIf _ _) fun _ =>
    .bind (hSendIf _ _) fun _ => hSendIf _ _

/-- What throws or returns has a defined outcome. -/
theorem Defined.of_thrown {τ : Type} {x : Action τ Unit} (h : Faults Fault.Thrown x) (s : τ) :
    Defined (x s) := by
  intro why s' hRun
  exact h s _ s' hRun

theorem Defined.zoom {τ τ' : Type} {get : τ → τ'} {set : τ' → τ → τ} {x : Action τ' Unit} {s : τ}
    (h : Defined (x (get s))) : Defined (Effect.zoom get set x s) := by
  intro why s' hRun
  unfold Effect.zoom at hRun
  split at hRun
  · cases hRun
  · rename_i hError
    cases hRun
    exact h why _ hError

theorem ClientConnection.transmit_thrown (m : Message) : Faults Fault.Thrown (transmit m) := by
  intro s e s' h
  rw [transmit_eq] at h
  split at h
  · cases h
  · cases h
    exact trivial

theorem onClientAuthenticated_defined (env : Env) (handler : AuthenticationHandler)
    (s : Startup Managers) : Defined (onClientAuthenticated env handler s) := by
  obtain ⟨contactManager, hInitial⟩ :=
    loadContacts_initialContacts env handler.initialAvailability_
  have hThrown := mockBeginSession_thrown
  unfold onClientAuthenticated
  rw [hInitial.1]
  generalize mockBeginSession = beginSession at hThrown ⊢
  intro why s' h
  simp only at h
  split at h
  · rename_i e session hError
    cases h
    exact hThrown _ _ _ hError
  · cases h

theorem mock_defined (env : Env) (handler : AuthenticationHandler) (s : Startup Managers) :
    Defined (mock.onClientAuthenticated env handler s) := by
  rw [mock_onClientAuthenticated]
  exact onClientAuthenticated_defined env handler s

/-- Before a session begins, packets lead to no undefined behaviour of their own. -/
theorem login_defined {σ : Type} (derived : Derived σ)
    (hDerived : ∀ env handler s, Defined (derived.onClientAuthenticated env handler s))
    {s : Nat × Endpoint σ} (hLogin : s.2.processors_ = .login) (a : Arrival) :
    Defined (Endpoint.dispatchPacket derived a.env a.header a.payload a.following s) := by
  unfold Endpoint.dispatchPacket
  rw [hLogin]
  simp only
  rw [AuthenticationHandler.dispatch_find]
  -- an answer is sent, or found too large
  have hTransmit (m : Message) (s : Nat × Endpoint σ) :
      Defined (AuthenticationHandler.transmit m s) :=
    .zoom (.of_thrown (ClientConnection.transmit_thrown m) _)
  split_ifs
  · unfold AuthenticationHandler.onProtocolSync
    cases hParse : PacketParser.parse (fun _ _ => pure ()) a.payload () with
    | ok _ fields => exact hTransmit _ _
    | error e fields =>
      exact defined_error_iff.mpr <| parse_thrown (fun _ _ => .pure _) a.payload _ e fields hParse
  · unfold AuthenticationHandler.onChallengeRequest
    cases hParse : PacketParser.parse Payloads.ChallengeRequest.onKeyPair a.payload {} with
    | ok _ fields => exact hTransmit _ _
    | error e fields =>
      exact defined_error_iff.mpr <|
        parse_thrown (assignMember_thrown _) a.payload _ e fields hParse
  · unfold AuthenticationHandler.onAuthenticate
    cases hParse : PacketParser.parse Payloads.Authentication.onKeyPair a.payload {} with
    | ok _ fields => exact Defined.zoom (hDerived a.env _ _)
    | error e fields =>
      exact defined_error_iff.mpr <|
        parse_thrown (assignMember_thrown _) a.payload _ e fields hParse
  · unfold dispatch
    cases hParse : PacketParser.parse (fun _ _ => pure ()) a.payload () with
    | ok _ fields => exact .ok _ _
    | error e fields =>
      exact defined_error_iff.mpr <| parse_thrown (fun _ _ => .pure _) a.payload _ e fields hParse

/-! ## Safe packets -/

/-- The session that an `Authentication` packet is about to begin. -/
def upcomingSession (s : Nat × Endpoint Managers) (a : Arrival) (contactManager : ContactManager) :
    SessionContext :=
  newSession (s.2.handler.authenticated a.header) contactManager s.2.connection_ (a.env.rand s.1)

/-- A packet that has nothing unassigned sent: no session has begun, and an answer
that fits finds both header fields assigned. Only `ProtocolAck` finds the
version assigned by its own handler, and only a session finds the session id
assigned by its own set-up; the contact list of a session must not fit. -/
structure Safe (s : Nat × Endpoint Managers) (a : Arrival) : Prop where
  login : s.2.processors_ = .login
  protocolSync : a.header.serviceId = 76 →
    PacketParser.parse (fun _ _ => pure ()) a.payload () = .ok () () →
      s.2.connection_.sessionId_.assigned = true
  challengeRequest : a.header.serviceId = 87 → ∀ fields,
    PacketParser.parse Payloads.ChallengeRequest.onKeyPair a.payload {} = .ok () fields →
      (Message.challengeResponse fields.clientId.chars).Fits →
        s.2.connection_.sessionId_.assigned = true ∧
          s.2.connection_.protocolVersion_.assigned = true
  authentication : a.header.serviceId = 84 → ∀ fields,
    PacketParser.parse Payloads.Authentication.onKeyPair a.payload {} = .ok () fields →
      ∀ contactManager,
        loadContacts
            (initialContacts a.env (s.2.handler.authenticated a.header).initialAvailability_)
          = .ok contactManager →
        (upcomingSession s a contactManager).clientProfile.Fits →
          s.2.connection_.protocolVersion_.assigned = true ∧
            ¬ (upcomingSession s a contactManager).contactStatus.Fits

/-- The answer to a `ProtocolSync`. -/
theorem allAssigned_onProtocolSync (header : Header) (payload : Bytes)
    (s : Nat × Endpoint Managers) :
    (finalState (AuthenticationHandler.onProtocolSync header payload s)).2.connection_.AllAssigned ↔
      s.2.connection_.AllAssigned ∧
        (PacketParser.parse (fun _ _ => pure ()) payload () = .ok () () →
          s.2.connection_.sessionId_.assigned = true) := by
  unfold AuthenticationHandler.onProtocolSync
  cases PacketParser.parse (fun _ _ => pure ()) payload () with
  | error e fields => simp
  | ok _ fields =>
    simp only [AuthenticationHandler.transmit, finalState_zoom,
      ClientConnection.allAssigned_transmit, true_implies]
    refine and_congr_right fun _ => ?_
    have hFits : Message.protocolAck.Fits := by decide
    have hAssigned : Message.protocolAck.Assigned :=
      (Message.assigned_iff _).mpr fun b hb => absurd hb List.not_mem_nil
    -- the handler has just assigned the version
    exact ⟨fun h => (h hFits).1, fun h _ => ⟨h, rfl, hAssigned⟩⟩

/-- The answer to a `ChallengeRequest`. -/
theorem allAssigned_onChallengeRequest (payload : Bytes) (s : Nat × Endpoint Managers) :
    (finalState (AuthenticationHandler.onChallengeRequest payload s)).2.connection_.AllAssigned ↔
      s.2.connection_.AllAssigned ∧ ∀ fields,
        PacketParser.parse Payloads.ChallengeRequest.onKeyPair payload {} = .ok () fields →
          (Message.challengeResponse fields.clientId.chars).Fits →
            s.2.connection_.sessionId_.assigned = true ∧
              s.2.connection_.protocolVersion_.assigned = true := by
  unfold AuthenticationHandler.onChallengeRequest
  cases PacketParser.parse Payloads.ChallengeRequest.onKeyPair payload {} with
  | error e fields => simp
  | ok _ fields =>
    simp only [AuthenticationHandler.transmit, finalState_zoom,
      ClientConnection.allAssigned_transmit, EStateM.Result.ok.injEq, true_and, forall_eq']
    refine and_congr_right fun _ => forall_congr' fun _ => and_congr_right fun _ => ?_
    exact and_iff_left ((Message.assigned_iff _).mpr fun b hb => absurd hb List.not_mem_nil)

/-- What setting up a session sends; when nothing in it is unassigned, it threw
before the map was installed. -/
theorem allAssigned_onClientAuthenticated {env : Env} {handler : AuthenticationHandler}
    {contactManager : ContactManager}
    (hLoad : loadContacts (initialContacts env handler.initialAvailability_) = .ok contactManager)
    (s : Startup Managers) :
    ((finalState (onClientAuthenticated env handler s)).connection_.AllAssigned ↔
      s.connection_.AllAssigned ∧
        ((newSession handler contactManager s.connection_ (env.rand s.draws)).clientProfile.Fits →
          s.connection_.protocolVersion_.assigned = true ∧
            ¬ (newSession handler contactManager s.connection_
              (env.rand s.draws)).contactStatus.Fits)) ∧
      ((finalState (onClientAuthenticated env handler s)).connection_.AllAssigned →
        (finalState (onClientAuthenticated env handler s)).processors_ = s.processors_) := by
  have hBegin := allAssigned_mockBeginSession
    (contactStatus_not_assigned hLoad s.connection_ (env.rand s.draws)) rfl
  have hRun := mockBeginSession_run
    (newSession handler contactManager s.connection_ (env.rand s.draws))
  unfold onClientAuthenticated
  rw [hLoad]
  dsimp only
  generalize hSession : newSession handler contactManager s.connection_ (env.rand s.draws) = session
    at hBegin hRun ⊢
  have hVersion : session.connection_.protocolVersion_ = s.connection_.protocolVersion_ := by
    rw [← hSession]
    rfl
  have hSent : session.connection_.AllAssigned ↔ s.connection_.AllAssigned := by
    rw [← hSession]
    rfl
  rw [hVersion, hSent] at hBegin
  generalize mockBeginSession = beginSession at hBegin hRun ⊢
  cases hOutcome : beginSession session with
  -- the map goes in last, so an error leaves the login map
  | error e session' =>
    rw [hOutcome] at hBegin
    exact ⟨hBegin, fun _ => rfl⟩
  | ok _ session' =>
    rw [hOutcome] at hBegin
    refine ⟨hBegin, fun hAll => ?_⟩
    -- a session that began has sent its contact list
    have hSafe := (hBegin.mp hAll).2
    rw [hOutcome] at hRun
    split_ifs at hRun with hProfile hStatus
    exact absurd hStatus (hSafe hProfile).2

/-- The connection and the map after an `Authentication` that is accepted. -/
theorem onAuthenticate_final {σ : Type} (derived : Derived σ) (a : Arrival) (s : Nat × Endpoint σ)
    {fields : Payloads.Authentication}
    (hParse : PacketParser.parse Payloads.Authentication.onKeyPair a.payload {} = .ok () fields) :
    let after := finalState (derived.onClientAuthenticated a.env
      (s.2.handler.authenticated a.header) ⟨s.1, s.2.connection_, s.2.processors_⟩)
    let endpoint := (finalState (AuthenticationHandler.onAuthenticate derived a.env a.header
      a.payload s)).2
    endpoint.connection_ = after.connection_ ∧ endpoint.processors_ = after.processors_ := by
  unfold AuthenticationHandler.onAuthenticate
  rw [hParse]
  simp only [ite_self, AuthenticationHandler.startup, finalState_zoom]
  exact ⟨rfl, rfl⟩

/-- The answer to an `Authentication`. -/
theorem allAssigned_onAuthenticate (a : Arrival) (s : Nat × Endpoint Managers) :
    ((finalState (AuthenticationHandler.onAuthenticate mock a.env a.header a.payload
        s)).2.connection_.AllAssigned ↔
      s.2.connection_.AllAssigned ∧ ∀ fields,
        PacketParser.parse Payloads.Authentication.onKeyPair a.payload {} = .ok () fields →
          ∀ contactManager,
            loadContacts
                (initialContacts a.env (s.2.handler.authenticated a.header).initialAvailability_)
              = .ok contactManager →
            (upcomingSession s a contactManager).clientProfile.Fits →
              s.2.connection_.protocolVersion_.assigned = true ∧
                ¬ (upcomingSession s a contactManager).contactStatus.Fits) ∧
      ((finalState (AuthenticationHandler.onAuthenticate mock a.env a.header a.payload
          s)).2.connection_.AllAssigned →
        (finalState (AuthenticationHandler.onAuthenticate mock a.env a.header a.payload
          s)).2.processors_ = s.2.processors_) := by
  obtain ⟨contactManager, hInitial⟩ :=
    loadContacts_initialContacts a.env (s.2.handler.authenticated a.header).initialAvailability_
  have hLoad := hInitial.1
  unfold upcomingSession
  cases hParse : PacketParser.parse Payloads.Authentication.onKeyPair a.payload {} with
  | error e fields =>
    unfold AuthenticationHandler.onAuthenticate
    rw [hParse]
    simp
  | ok _ fields =>
    obtain ⟨hConnection, hProcessors⟩ := onAuthenticate_final mock a s hParse
    rw [hConnection, hProcessors, mock_onClientAuthenticated]
    have hStartup := allAssigned_onClientAuthenticated hLoad
      ⟨s.1, s.2.connection_, s.2.processors_⟩
    constructor
    · rw [hStartup.1]
      refine and_congr_right fun _ => ?_
      constructor
      · intro h fields' hFields contactManager' hLoad'
        rw [hLoad] at hLoad'
        cases hLoad'
        exact h
      · intro h
        exact h fields rfl contactManager hLoad
    · exact hStartup.2

/-- **One packet of the login phase.** Nothing unassigned is among what was sent
after it exactly when that was so before, and the packet is safe. -/
theorem allAssigned_login {s : Nat × Endpoint Managers} (hLogin : s.2.processors_ = .login)
    (a : Arrival) :
    (finalState (Endpoint.dispatchPacket mock a.env a.header a.payload a.following
        s)).2.connection_.AllAssigned ↔ s.2.connection_.AllAssigned ∧ Safe s a := by
  unfold Endpoint.dispatchPacket
  rw [hLogin]
  dsimp only
  rw [AuthenticationHandler.dispatch_find]
  -- one packet is asked for one thing: the services are different numbers
  split_ifs with hSync hChallenge hAuthenticate
  · have hNot87 : a.header.serviceId ≠ 87 := by
      rw [hSync]
      decide
    have hNot84 : a.header.serviceId ≠ 84 := by
      rw [hSync]
      decide
    rw [allAssigned_onProtocolSync]
    exact and_congr_right fun _ => ⟨fun h => ⟨hLogin, fun _ => h, fun h87 => absurd h87 hNot87,
      fun h84 => absurd h84 hNot84⟩, fun h => h.protocolSync hSync⟩
  · have hNot84 : a.header.serviceId ≠ 84 := by
      rw [hChallenge]
      decide
    rw [allAssigned_onChallengeRequest]
    exact and_congr_right fun _ => ⟨fun h => ⟨hLogin, fun h76 => absurd h76 hSync, fun _ => h,
      fun h84 => absurd h84 hNot84⟩, fun h => h.challengeRequest hChallenge⟩
  · rw [(allAssigned_onAuthenticate a s).1]
    exact and_congr_right fun _ => ⟨fun h => ⟨hLogin, fun h76 => absurd h76 hSync,
      fun h87 => absurd h87 hChallenge, fun _ => h⟩, fun h => h.authentication hAuthenticate⟩
  · -- a packet nobody handles is parsed, and that is all
    have hSame : finalState (dispatch none a.payload a.following s) = s := by
      unfold dispatch
      dsimp only
      split <;> rfl
    rw [hSame]
    exact (and_iff_left ⟨hLogin, fun h76 => absurd h76 hSync, fun h87 => absurd h87 hChallenge,
      fun h84 => absurd h84 hAuthenticate⟩).symm

/-- A packet that is safe does not begin a session. -/
theorem login_of_allAssigned {s : Nat × Endpoint Managers} (hLogin : s.2.processors_ = .login)
    (a : Arrival)
    (hAll : (finalState (Endpoint.dispatchPacket mock a.env a.header a.payload a.following
      s)).2.connection_.AllAssigned) :
    (finalState (Endpoint.dispatchPacket mock a.env a.header a.payload a.following
      s)).2.processors_ = .login := by
  unfold Endpoint.dispatchPacket at hAll ⊢
  rw [hLogin] at hAll ⊢
  dsimp only at hAll ⊢
  rw [AuthenticationHandler.dispatch_find] at hAll ⊢
  -- only the third could install a map, and it has not
  split_ifs with hSync hChallenge hAuthenticate
  · exact (AuthenticationHandler.onProtocolSync_processors _ _ _).trans hLogin
  · exact (AuthenticationHandler.onChallengeRequest_processors _ _).trans hLogin
  · rw [if_neg hSync, if_neg hChallenge, if_pos hAuthenticate] at hAll
    exact ((allAssigned_onAuthenticate a s).2 hAll).trans hLogin
  · unfold dispatch
    dsimp only
    split <;> exact hLogin

/-! ## Result -/

/-- **Nothing unassigned is ever sent** exactly in the runs all of whose packets
are safe. The arguments of the connection are what its memory held. -/
theorem sent_assigned_iff (draws : Nat) (sessionId : UInt32) (protocolVersion : UInt16)
    (arrivals : List Arrival) :
    (∀ history rest s, arrivals = history ++ rest →
        Runs (Endpoint.Step mock) (draws, .new (.new sessionId protocolVersion)) history s →
        s.2.connection_.AllAssigned) ↔
      ∀ history a rest s, arrivals = history ++ a :: rest →
        Runs (Endpoint.Step mock) (draws, .new (.new sessionId protocolVersion)) history s →
        Safe s a := by
  have hSplit {history rest : List Arrival} {a : Arrival}
      (h : arrivals = (history ++ [a]) ++ rest) : arrivals = history ++ a :: rest := by
    rw [h, List.append_assoc, List.singleton_append]
  constructor
  · intro hEvery
    -- as long as nothing unassigned was sent, no session has begun
    have hLogin : ∀ history s,
        Runs (Endpoint.Step mock) (draws, .new (.new sessionId protocolVersion)) history s →
        (∃ rest, arrivals = history ++ rest) → s.2.processors_ = .login := by
      intro history s hRun
      refine hRun.invariant (I := fun history s => (∃ rest, arrivals = history ++ rest) →
        s.2.processors_ = .login) (fun _ => rfl) ?_
      intro history t a u hRun ih hStep hRest
      obtain ⟨rest, hRest⟩ := hRest
      have hAll := hEvery _ _ u hRest (.snoc hRun hStep)
      rw [hStep.2] at hAll ⊢
      exact login_of_allAssigned (ih ⟨a :: rest, hSplit hRest⟩) a hAll
    intro history a rest s hRest hRun
    have hStep : Endpoint.Step mock s a (finalState
        (Endpoint.dispatchPacket mock a.env a.header a.payload a.following s)) :=
      ⟨login_defined mock mock_defined (hLogin _ _ hRun ⟨_, hRest⟩) a, rfl⟩
    -- the packet is safe because what it sent is assigned
    have hAll := hEvery (history ++ [a]) rest _ (by rw [hRest]; simp) (.snoc hRun hStep)
    exact ((allAssigned_login (hLogin _ _ hRun ⟨_, hRest⟩) a).mp hAll).2
  · intro hSafe history rest s hRest hRun
    -- the run's invariant, one safe packet after another
    refine hRun.invariant (I := fun history s => (∃ rest, arrivals = history ++ rest) →
      s.2.connection_.AllAssigned) (fun _ p hp => absurd hp List.not_mem_nil) ?_ ⟨rest, hRest⟩
    intro history t a u hRun ih hStep hRest
    obtain ⟨rest, hRest⟩ := hRest
    have hStepSafe := hSafe history a rest t (hSplit hRest) hRun
    rw [hStep.2]
    exact (allAssigned_login hStepSafe.login a).mpr ⟨ih ⟨a :: rest, hSplit hRest⟩, hStepSafe⟩

/-- A `ProtocolSync` packet. -/
def protocolSyncPacket : Arrival where
  env := .zeros
  header := .new 0 11 76 0
  payload := []
  following := []

/-- The answer to the first packet of every connection carries a session id that
nobody assigned. -/
theorem sent_unassigned :
    ¬ ∀ (draws : Nat) (sessionId : UInt32) (protocolVersion : UInt16) (arrivals : List Arrival),
      ∀ history rest s, arrivals = history ++ rest →
        Runs (Endpoint.Step mock) (draws, .new (.new sessionId protocolVersion)) history s →
        s.2.connection_.AllAssigned := by
  intro hEvery
  have hSent := hEvery 0 0 0 [protocolSyncPacket] [protocolSyncPacket] [] _ rfl
    (.one ⟨by decide, rfl⟩)
  have hAck := hSent (((ClientConnection.new 0 0).setProtocolVersion 11).packet .protocolAck)
    (by decide)
  cases hAck.1

end Giblet.YMsg
