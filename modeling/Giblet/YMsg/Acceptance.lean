import Giblet.YMsg.Assigned
import Giblet.YMsg.NullViews
import Giblet.YMsg.Reachable

/-!
# YMsg — which packets are accepted

Nothing between a processor and the pump catches an exception. This module says
which packets lead to none, by the bytes of the packet, the bytes behind it in
the buffer, and the state that it finds.

In a session a packet is not accepted for one of four reasons: a key is empty; a
value that is converted is no number; the mock server's managers do not do what
is asked; a packet that is to be sent is too large. In the login phase the
first and the last are left.

* `handled_iff` — the packets of a session.
* `mockBeginSession_returned_iff` — the sessions that can begin.
* `dispatchPacket_returned_iff` — the packets of an endpoint of the mock server.
-/

namespace Giblet.YMsg

open Effect PacketParser SessionContext MockAuthenticationHandler

variable {π : Type}

/-! ## Conversions that succeed -/

/-- `atoi` is handed a value, and a byte of the buffer ends the number. -/
def AtoiReads (following : Bytes) : StringView → Prop
  | .null => False
  | .view chars beyond => (Numeral.scan (chars ++ beyond ++ following)).isSome = true

/-- `stol` is handed a value, the buffer has a NUL behind it, and what comes before that begins
with a number for which a `long` is large enough. -/
def StolReads (following : Bytes) : StringView → Prop
  | .null => False
  | .view chars beyond =>
    0 ∈ chars ++ beyond ++ following ∧ ∃ scanned,
      Numeral.scan ((chars ++ beyond ++ following).takeWhile (· ≠ 0) ++ [0]) = some scanned ∧
        scanned.digits ≠ 0 ∧ -2 ^ 31 ≤ scanned.value ∧ scanned.value < 2 ^ 31

/-- A conversion that fails gives nothing. -/
theorem not_exists_ok {α : Type} (e : Fault) : ¬ ∃ a, (Except.error e : Except Fault α) = .ok a := by
  rintro ⟨a, h⟩
  cases h

theorem toEnum_reads_iff (following : Bytes) (value : StringView) :
    (∃ code, toEnum following value = .ok code) ↔ AtoiReads following value := by
  cases value with
  | null => exact iff_of_false (not_exists_ok _) id
  | view chars beyond =>
    simp only [toEnum, atoi, StringView.memory, AtoiReads]
    cases Numeral.scan (chars ++ beyond ++ following) with
    | none => simp
    | some scanned => simp

theorem stol_reads_iff (following : Bytes) (value : StringView) :
    (∃ n, stol following value = .ok n) ↔ StolReads following value := by
  cases value with
  | null => exact iff_of_false (not_exists_ok _) id
  | view chars beyond =>
    simp only [stol, StringView.memory, StolReads]
    by_cases hEnds : 0 ∈ chars ++ beyond ++ following
    · rw [if_pos hEnds, and_iff_right hEnds]
      cases Numeral.scan ((chars ++ beyond ++ following).takeWhile (· ≠ 0) ++ [0]) with
      | none => simp
      | some scanned =>
        simp only [Option.some.injEq, exists_eq_left']
        split_ifs with hDigits hRange
        · simp [hDigits]
        · refine iff_of_false (by simp) fun h => ?_
          omega
        · refine iff_of_true ⟨_, rfl⟩ ⟨hDigits, ?_⟩
          omega
    · rw [if_neg hEnds]
      exact iff_of_false (not_exists_ok _) fun h => hEnds h.1

/-- The busy state is converted if it is not empty. -/
theorem busyFlag_reads_iff (following : Bytes) (busyState : StringView) :
    (∃ isBusy, Processors.busyFlag following busyState = .ok isBusy) ↔
      (busyState.chars ≠ [] → StolReads following busyState) := by
  unfold Processors.busyFlag
  split_ifs with hEmpty
  · exact iff_of_true ⟨_, rfl⟩ fun h => absurd hEmpty h
  · rw [← stol_reads_iff, forall_prop_of_true hEmpty]
    cases stol following busyState with
    | error e => exact iff_of_false (not_exists_ok e) (not_exists_ok e)
    | ok n => exact iff_of_true ⟨_, rfl⟩ ⟨_, rfl⟩

/-- The values that a packet of this service has converted are numbers. -/
def Converts (following : Bytes) : V11.Service → Bytes → Prop
  | .privateMessage, payload =>
    ∀ t ∈ (tokens payload).1, t.key = 97 → AtoiReads following t.value
  | .massPrivateMessage, payload =>
    ∀ t ∈ (tokens payload).1, t.key = 97 → AtoiReads following t.value
  | .serviceOperation, payload =>
    (serviceOperationFields payload).operation.chars = ascii "TYPING" →
      AtoiReads following (serviceOperationFields payload).action
  | .setAway, payload =>
    AtoiReads following (setAwayFields payload).statusId ∧
      ∀ code, toEnum following (setAwayFields payload).statusId = .ok code →
        -- an invisible client's busy state is not looked at
        (⟨code⟩ : Availability) ≠ .Invisible → (setAwayFields payload).busyState.chars ≠ [] →
          StolReads following (setAwayFields payload).busyState
  | _, _ => True

/-- The payload object of an `ActivateProfile` or a `DeactivateProfile` packet. -/
def activateProfileFields (payload : Bytes) : Payloads.ActivateProfile :=
  finalState (parse Payloads.ActivateProfile.onKeyPair payload {})

/-- The payload object of a `ChangeBlockedUser` packet. -/
def changeBlockedUserFields (payload : Bytes) : Payloads.ChangeBlockedUser :=
  finalState (parse Payloads.ChangeBlockedUser.onKeyPair payload {})

/-- The managers do what a packet of this service asks for: a profile is the client's own, a user
to be blocked is not blocked yet, and one to be unblocked is. -/
def SessionContext.Permits (s : SessionContext) : V11.Service → Bytes → Prop
  | .activateProfile, payload =>
    s.profileManager_.isClientOrProfileId (activateProfileFields payload).clientId.chars = true
  | .deactivateProfile, payload =>
    s.profileManager_.isClientOrProfileId (activateProfileFields payload).clientId.chars = true
  | .changeBlockedUser, payload =>
    ((changeBlockedUserFields payload).mode.chars = ascii "1" →
        s.blockedContactManager_.isBlocked
          (changeBlockedUserFields payload).contactId.chars = false) ∧
      ((changeBlockedUserFields payload).mode.chars = ascii "2" →
        s.blockedContactManager_.isBlocked
          (changeBlockedUserFields payload).contactId.chars = true)
  | _, _ => True

/-! ## Decisions that stand -/

/-- The packet is not refused. -/
def Decision.Stands : Decision → Prop
  | refused _ => False
  | _ => True

/-- The packets that are to be sent. -/
def Decision.messages (s : SessionContext) : Decision → List Message
  | refused _ => []
  | announced _ messages => messages
  | presence call => call.notices s.contactManager_ s.profileManager_.profiles_

/-- **A decision is carried out** without an exception if it is no refusal, and every packet fits. -/
theorem Decision.carryOut_returned_iff (d : Decision) (s : SessionContext) :
    returned (d.carryOut s) = true ↔ d.Stands ∧ ∀ m ∈ d.messages s, m.Fits := by
  cases d with
  | refused e => exact iff_of_false (fun h => by cases h) fun h => h.1
  | announced managers messages =>
    show returned ((messages.forM send : SessionAction) (s.withManagers managers)) = true ↔
      True ∧ ∀ m ∈ messages, m.Fits
    rw [forM_send_run, true_and]
    split_ifs with hFits
    · exact iff_of_true rfl hFits
    · exact iff_of_false (fun h => by cases h) hFits
  | presence call => exact (call.run_sends s).2.trans (and_iff_right trivial).symm

/-- A payload object with a table of members is filled if no key is empty. -/
theorem decideOn_stands_iff (members : List (Int32 × (StringView → π → π))) (fields : π)
    (payload : Bytes) (decision : π → Decision) :
    (decideOn fields (assignMember members) payload decision).Stands ↔
      (tokens payload).2 = none ∧
        (decision (finalState (parse (assignMember members) payload fields))).Stands := by
  unfold decideOn
  rw [parse_assignMember]
  cases (tokens payload).2 with
  | none => exact (and_iff_right rfl).symm
  | some e => exact iff_of_false id fun h => by cases h.1

/-- The two message services convert while they parse. -/
theorem deliver_assignEncoding_returned_iff (setEncoding : TextEncoding → π → π)
    (members : List (Int32 × (StringView → π → π))) (following : Bytes) (ts : List Token)
    (e : Option Fault) (fields : π) :
    returned (deliver (assignEncoding setEncoding members following) ts e fields) = true ↔
      e = none ∧ ∀ t ∈ ts, t.key = 97 → AtoiReads following t.value := by
  induction ts generalizing fields with
  | nil =>
    cases e with
    | none => exact iff_of_true rfl ⟨rfl, fun _ h => absurd h List.not_mem_nil⟩
    | some fault => exact iff_of_false (fun h => by cases h) fun h => by cases h.1
  | cons t ts ih =>
    simp only [deliver, bind_run, assignEncoding, List.forall_mem_cons]
    by_cases hKey : t.key = 97
    · have hReads := toEnum_reads_iff following t.value
      rw [if_pos hKey]
      cases hCode : toEnum following t.value with
      | error fault =>
        rw [hCode] at hReads
        refine iff_of_false (fun h => by cases h) fun h => ?_
        obtain ⟨code, hNone⟩ := hReads.mpr (h.2.1 hKey)
        cases hNone
      | ok code =>
        rw [hCode] at hReads
        simp only [hReads.mp ⟨code, rfl⟩, implies_true, true_and]
        exact ih _
    · simp only [if_neg hKey, assignMember, modify_run, hKey, false_implies, true_and]
      exact ih _

theorem decideOn_message_stands_iff (setEncoding : TextEncoding → π → π)
    (members : List (Int32 × (StringView → π → π))) (fields : π) (following payload : Bytes)
    {decision : π → Decision} (hStands : ∀ f, (decision f).Stands) :
    (decideOn fields (assignEncoding setEncoding members following) payload decision).Stands ↔
      (tokens payload).2 = none ∧
        ∀ t ∈ (tokens payload).1, t.key = 97 → AtoiReads following t.value := by
  rw [← deliver_assignEncoding_returned_iff setEncoding members following _ _ fields,
    ← parse_eq_tokens]
  unfold decideOn
  cases parse (assignEncoding setEncoding members following) payload fields with
  | error e f => exact iff_of_false id fun h => by cases h
  | ok _ f => exact iff_of_true (hStands f) rfl

theorem decideAdd_stands (s : SessionContext) (env : Env)
    (clientId contactId group message : Bytes) :
    (decideAdd s env clientId contactId group message).Stands := by
  by_cases hRefuses : s.Refuses contactId group
  · obtain ⟨status, -, hDecision⟩ := decideAdd_refused hRefuses env clientId message
    rw [hDecision]
    trivial
  · obtain ⟨contactManager, -, hDecision⟩ := decideAdd_accepted hRefuses env clientId message
    rw [hDecision]
    trivial

theorem decideConfirm_stands_iff (s : SessionContext) (m : Message) (profileId : Bytes) :
    (decideConfirm s m profileId).Stands ↔
      s.profileManager_.isClientOrProfileId profileId = true := by
  unfold decideConfirm
  split_ifs with hOwn
  · exact iff_of_true trivial hOwn
  · exact iff_of_false id hOwn

theorem decideBlocked_stands_iff (s : SessionContext) (payload : Payloads.ChangeBlockedUser) :
    (decideBlocked s payload).Stands ↔
      (payload.mode.chars = ascii "1" →
          s.blockedContactManager_.isBlocked payload.contactId.chars = false) ∧
        (payload.mode.chars = ascii "2" →
          s.blockedContactManager_.isBlocked payload.contactId.chars = true) := by
  have hOther : ascii "1" ≠ ascii "2" := by decide
  unfold decideBlocked
  split_ifs with hAdd hIs hRemove hIs
  · exact iff_of_false id fun h => by cases (h.1 hAdd).symm.trans hIs
  · exact iff_of_true trivial
      ⟨fun _ => Bool.eq_false_iff.mpr hIs, fun h => absurd (hAdd.symm.trans h) hOther⟩
  · exact iff_of_true trivial ⟨fun h => absurd h hAdd, fun _ => hIs⟩
  · exact iff_of_false id fun h => hIs (h.2 hRemove)
  · exact iff_of_true trivial ⟨fun h => absurd h hAdd, fun h => absurd h hRemove⟩

theorem decideOperation_stands_iff (s : SessionContext) (following : Bytes)
    (payload : Payloads.ServiceOperation) :
    (decideOperation s following payload).Stands ↔
      (payload.operation.chars = ascii "TYPING" → AtoiReads following payload.action) := by
  unfold decideOperation
  rw [← toEnum_reads_iff]
  split_ifs with hTyping
  · rw [forall_prop_of_true hTyping]
    cases toEnum following payload.action with
    | error e => exact iff_of_false id (not_exists_ok e)
    | ok code => exact iff_of_true trivial ⟨code, rfl⟩
  · exact iff_of_true trivial fun h => absurd h hTyping

theorem decideAway_stands_iff (following : Bytes) (payload : Payloads.SetAway) :
    (decideAway following payload).Stands ↔
      AtoiReads following payload.statusId ∧
        ∀ code, toEnum following payload.statusId = .ok code →
          (⟨code⟩ : Availability) ≠ .Invisible → payload.busyState.chars ≠ [] →
            StolReads following payload.busyState := by
  have hBusy := busyFlag_reads_iff following payload.busyState
  unfold decideAway awayCall
  rw [← toEnum_reads_iff]
  cases toEnum following payload.statusId with
  | error e => exact iff_of_false id fun h => not_exists_ok e h.1
  | ok code =>
    rw [and_iff_right ⟨code, rfl⟩]
    simp only [Except.ok.injEq, forall_eq']
    by_cases hInvisible : (⟨code⟩ : Availability) = .Invisible
    · rw [if_pos hInvisible]
      exact iff_of_true trivial fun h => absurd hInvisible h
    · rw [if_neg hInvisible, forall_prop_of_true hInvisible, ← hBusy]
      cases Processors.busyFlag following payload.busyState with
      | error e => exact iff_of_false id (not_exists_ok e)
      | ok isBusy => exact iff_of_true trivial ⟨isBusy, rfl⟩

/-- **A packet of a session is refused** for an empty key, a value that is no number, or
something that the managers do not do. -/
theorem serviceDecision_stands_iff (s : SessionContext) (env : Env) (payload following : Bytes)
    (service : V11.Service) :
    (serviceDecision s env payload following service).Stands ↔
      (tokens payload).2 = none ∧ Converts following service payload ∧
        s.Permits service payload := by
  cases service with
  | privateMessage =>
    refine (decideOn_message_stands_iff _ _ _ following payload ?_).trans
      (and_congr_right fun _ => (and_iff_left trivial).symm)
    exact fun _ => trivial
  | massPrivateMessage =>
    refine (decideOn_message_stands_iff _ _ _ following payload ?_).trans
      (and_congr_right fun _ => (and_iff_left trivial).symm)
    exact fun _ => trivial
  | serviceOperation =>
    refine (decideOn_stands_iff _ _ _ _).trans (and_congr_right fun _ => ?_)
    exact (decideOperation_stands_iff s following _).trans (and_iff_left trivial).symm
  | setAway =>
    refine (decideOn_stands_iff _ _ _ _).trans (and_congr_right fun _ => ?_)
    exact (decideAway_stands_iff following _).trans (and_iff_left trivial).symm
  | activateProfile | deactivateProfile =>
    refine (decideOn_stands_iff _ _ _ _).trans (and_congr_right fun _ => ?_)
    exact (decideConfirm_stands_iff s _ _).trans (and_iff_right trivial).symm
  | changeBlockedUser =>
    refine (decideOn_stands_iff _ _ _ _).trans (and_congr_right fun _ => ?_)
    exact (decideBlocked_stands_iff s _).trans (and_iff_right trivial).symm
  -- whatever the other services ask for is answered
  | addContact =>
    refine (decideOn_stands_iff _ _ _ _).trans (and_congr_right fun _ => ?_)
    exact iff_of_true (decideAdd_stands s env _ _ _ _) ⟨trivial, trivial⟩
  | removeContact =>
    refine (decideOn_stands_iff _ _ _ _).trans (and_congr_right fun _ => ?_)
    refine iff_of_true ?_ ⟨trivial, trivial⟩
    unfold decideRemove
    split_ifs <;> trivial
  | renameContactGroup =>
    refine (decideOn_stands_iff _ _ _ _).trans (and_congr_right fun _ => ?_)
    refine iff_of_true ?_ ⟨trivial, trivial⟩
    unfold decideRename
    split_ifs <;> trivial
  | requestProfile | setAvailable | denyContactAddRequest | chatLogin | chatJoin =>
    refine (decideOn_stands_iff _ _ _ _).trans (and_congr_right fun _ => ?_)
    exact iff_of_true trivial ⟨trivial, trivial⟩

/-! ## The packets of a session -/

/-- A packet that a session accepts: no key is empty, what is converted are numbers, the managers
do what is asked, and what is to be sent fits. -/
structure SessionContext.Accepts (s : SessionContext) (a : Arrival) : Prop where
  readable : (tokens a.payload).2 = none
  converts : ∀ service, V11.find a.header.serviceId = some service →
    Converts a.following service a.payload
  permits : ∀ service, V11.find a.header.serviceId = some service → s.Permits service a.payload
  fits : ∀ m ∈ (decision s a).messages s, m.Fits

/-- **A packet of a session** leads to no exception and no undefined behaviour exactly when it is
accepted. -/
theorem handled_iff (s : SessionContext) (a : Arrival) :
    returned (handle s a) = true ↔ s.Accepts a := by
  have hStands : (decision s a).Stands ↔ (tokens a.payload).2 = none ∧
      ∀ service, V11.find a.header.serviceId = some service →
        Converts a.following service a.payload ∧ s.Permits service a.payload := by
    unfold decision
    cases V11.find a.header.serviceId with
    | some service =>
      simp only [Option.some.injEq, forall_eq']
      exact serviceDecision_stands_iff s a.env a.payload a.following service
    -- a packet that nobody handles is parsed all the same
    | none =>
      refine (decideOn_stands_iff [] () _ _).trans (and_congr_right fun _ => ?_)
      exact iff_of_true trivial fun service h => by cases h
  rw [handle_eq, Decision.carryOut_returned_iff, hStands]
  constructor
  · intro ⟨⟨hReadable, hService⟩, hFits⟩
    exact ⟨hReadable, fun service h => (hService service h).1,
      fun service h => (hService service h).2, hFits⟩
  · intro h
    exact ⟨⟨h.readable, fun service hFind => ⟨h.converts service hFind, h.permits service hFind⟩⟩,
      h.fits⟩

/-! ## Logging in -/

/-- The packets with which the mock server begins a session. -/
def SessionContext.firstMessages (s : SessionContext) : List Message :=
  [s.clientProfile, s.contactStatus, .pingConfiguration] ++ extras s.profileManager_.clientId_

theorem mockBeginSession_eq (s : SessionContext) :
    mockBeginSession s = (s.firstMessages.forM send : SessionAction) s := by
  have hBoth (ms more : List Message) : ((ms ++ more).forM send : SessionAction) =
      (do ms.forM send; more.forM send) := by
    simp only [List.forM_eq_forM, List.forM_append]
  unfold mockBeginSession firstMessages
  rw [hBoth, bind_run, bind_run, beginSession_eq, forM_send_run]
  split_ifs
  -- sending changes nothing that the further packets depend on
  · exact mockExtras_eq (s.pushAll _)
  · rfl

/-- **A session begins** exactly when its first packets fit. -/
theorem mockBeginSession_returned_iff (s : SessionContext) :
    returned (mockBeginSession s) = true ↔ ∀ m ∈ s.firstMessages, m.Fits := by
  rw [mockBeginSession_eq, forM_send_run]
  split_ifs with hFits
  · exact iff_of_true rfl hFits
  · exact iff_of_false (fun h => by cases h) hFits

/-- The payload object of a `ChallengeRequest` packet. -/
def challengeRequestFields (payload : Bytes) : Payloads.ChallengeRequest :=
  finalState (parse Payloads.ChallengeRequest.onKeyPair payload {})

/-- A packet that the login map accepts: no key is empty, and the answer to it fits, or
every packet with which the session begins. -/
structure LoginAccepts (s : Nat × Endpoint Managers) (a : Arrival) : Prop where
  readable : (tokens a.payload).2 = none
  challenge : a.header.serviceId = 87 →
    (Message.challengeResponse (challengeRequestFields a.payload).clientId.chars).Fits
  session : a.header.serviceId = 84 → ∀ contactManager,
    loadContacts (initialContacts a.env (s.2.handler.authenticated a.header).initialAvailability_)
        = .ok contactManager →
      ∀ m ∈ (upcomingSession s a contactManager).firstMessages, m.Fits

/-- An answer of the login map. -/
theorem transmit_returned_iff (m : Message) (s : Nat × Endpoint Managers) :
    returned (AuthenticationHandler.transmit m s) = true ↔ m.Fits := by
  unfold AuthenticationHandler.transmit
  rw [returned_zoom, ClientConnection.transmit_eq]
  split_ifs with hFits
  · exact iff_of_true rfl hFits
  · exact iff_of_false (fun h => by cases h) hFits

/-- The contacts always load; what can fail is sending. -/
theorem onClientAuthenticated_returned_iff (env : Env) (handler : AuthenticationHandler)
    (s : Startup Managers) :
    returned (onClientAuthenticated env handler s) = true ↔ ∀ contactManager,
      loadContacts (initialContacts env handler.initialAvailability_) = .ok contactManager →
        ∀ m ∈ (newSession handler contactManager s.connection_ (env.rand s.draws)).firstMessages,
          m.Fits := by
  obtain ⟨contactManager, hLoad, -⟩ :=
    loadContacts_initialContacts env handler.initialAvailability_
  unfold onClientAuthenticated
  simp only [hLoad, Except.ok.injEq, forall_eq', ← mockBeginSession_returned_iff]
  generalize mockBeginSession = begin
  cases begin (newSession handler contactManager s.connection_ (env.rand s.draws)) with
  | ok _ session => exact iff_of_true rfl rfl
  | error e session => exact iff_of_false (fun h => by cases h) fun h => by cases h

theorem onAuthenticate_returned_iff (s : Nat × Endpoint Managers) (a : Arrival) :
    returned (AuthenticationHandler.onAuthenticate mock a.env a.header a.payload s) = true ↔
      (tokens a.payload).2 = none ∧ ∀ contactManager,
        loadContacts
            (initialContacts a.env (s.2.handler.authenticated a.header).initialAvailability_)
            = .ok contactManager →
          ∀ m ∈ (upcomingSession s a contactManager).firstMessages, m.Fits := by
  unfold AuthenticationHandler.onAuthenticate Payloads.Authentication.onKeyPair
  rw [parse_assignMember, mock_onClientAuthenticated]
  cases (tokens a.payload).2 with
  | some e => exact iff_of_false (fun h => by cases h) fun h => by cases h.1
  | none =>
    rw [and_iff_right rfl]
    simp only [ite_self, AuthenticationHandler.startup, returned_zoom]
    exact onClientAuthenticated_returned_iff a.env (s.2.handler.authenticated a.header)
      ⟨s.1, s.2.connection_, s.2.processors_⟩

theorem LoginAccepts.not_of_empty {s : Nat × Endpoint Managers} {a : Arrival} {e : Fault}
    (hKeys : (tokens a.payload).2 = some e) : ¬ LoginAccepts s a := by
  intro h
  cases hKeys.symm.trans h.readable

/-- **A packet of the login phase.** -/
theorem login_returned_iff {s : Nat × Endpoint Managers} (hLogin : s.2.processors_ = .login)
    (a : Arrival) :
    returned (Endpoint.dispatchPacket mock a.env a.header a.payload a.following s) = true ↔
      LoginAccepts s a := by
  -- a payload object that stores nothing is filled alike
  have hIgnored : PacketParser.parse (fun _ _ => pure ()) a.payload () =
      PacketParser.parse (assignMember (π := Unit) []) a.payload () := rfl
  have hOnly {x y : UInt16} (hNe : x ≠ y) {P : Prop} (h : a.header.serviceId = x) :
      a.header.serviceId = y → P := fun h' => absurd (h.symm.trans h') hNe
  unfold Endpoint.dispatchPacket
  rw [hLogin]
  dsimp only
  rw [AuthenticationHandler.dispatch_find]
  split_ifs with hSync hChallenge hAuthenticate
  · unfold AuthenticationHandler.onProtocolSync
    rw [hIgnored, parse_assignMember]
    cases hKeys : (tokens a.payload).2 with
    | some e => exact iff_of_false (fun h => by cases h) (LoginAccepts.not_of_empty hKeys)
    | none =>
      refine (transmit_returned_iff _ _).trans (iff_of_true (by decide) ?_)
      exact ⟨hKeys, hOnly (by decide) hSync, hOnly (by decide) hSync⟩
  · unfold AuthenticationHandler.onChallengeRequest Payloads.ChallengeRequest.onKeyPair
    have hFields := parse_assignMember
      [(1, fun value (f : Payloads.ChallengeRequest) => { f with clientId := value })] {} a.payload
    have hObject : challengeRequestFields a.payload = _ := congrArg finalState hFields
    rw [hFields]
    cases hKeys : (tokens a.payload).2 with
    | some e => exact iff_of_false (fun h => by cases h) (LoginAccepts.not_of_empty hKeys)
    | none =>
      rw [hKeys] at hObject
      refine (transmit_returned_iff _ _).trans ⟨fun hFits => ?_, fun h => ?_⟩
      · exact ⟨hKeys, fun _ => hObject ▸ hFits, hOnly (by decide) hChallenge⟩
      · have hFits := h.challenge hChallenge
        rw [hObject] at hFits
        exact hFits
  · rw [onAuthenticate_returned_iff]
    constructor
    · intro ⟨hKeys, hFits⟩
      exact ⟨hKeys, hOnly (by decide) hAuthenticate, fun _ => hFits⟩
    · exact fun h => ⟨h.readable, h.session hAuthenticate⟩
  · unfold dispatch
    dsimp only
    rw [hIgnored, parse_assignMember]
    cases hKeys : (tokens a.payload).2 with
    | some e => exact iff_of_false (fun h => by cases h) (LoginAccepts.not_of_empty hKeys)
    | none =>
      exact iff_of_true rfl ⟨hKeys, fun h => absurd h hChallenge, fun h => absurd h hAuthenticate⟩

/-! ## An endpoint -/

/-- A packet that an endpoint of the mock server accepts, in the phase that it is in. -/
def Accepts (s : Nat × Endpoint Managers) (a : Arrival) : Prop :=
  match s.2.session with
  | none => LoginAccepts s a
  | some session => session.Accepts a

/-- **A packet is handled** without an exception and without undefined behaviour exactly when
it is accepted. -/
theorem dispatchPacket_returned_iff (s : Nat × Endpoint Managers) (a : Arrival) :
    returned (Endpoint.dispatchPacket mock a.env a.header a.payload a.following s) = true ↔
      Accepts s a := by
  unfold Accepts
  cases hSession : s.2.session with
  | none =>
    refine login_returned_iff ?_ a
    by_contra hMap
    obtain ⟨session, hSome⟩ := Endpoint.exists_session hMap
    cases hSession.symm.trans hSome
  | some session =>
    rw [dispatchPacket_session hSession, returned_mapState]
    exact handled_iff session a

end Giblet.YMsg
