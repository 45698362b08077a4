import Giblet.YMsg.Reachable

/-!
# YMsg — enumerators that nobody declared

`to_enum` makes an enumeration of any number; its validator is a stub. What a
`SetAway` says is kept as an availability, and what a `PrivateMessage` and a
`TYPING` operation say is passed on.

* `declared_carryOut_iff` — what carrying out a decision leaves.
* `declared_decision_iff` — the packets that bring an undeclared enumerator.
* `onlyDeclared_iff` — the runs in which none circulates: those without such packets.
-/

namespace Giblet.YMsg

open Effect PacketParser Run SessionContext MockAuthenticationHandler

/-! ## Declared enumerators -/

/-- The enumerators of `detail::Availability`. -/
def Availability.enumerators : List Availability :=
  [⟨-1⟩, ⟨0⟩, ⟨1⟩, ⟨2⟩, ⟨3⟩, ⟨4⟩, ⟨5⟩, ⟨6⟩, ⟨7⟩, ⟨8⟩, ⟨9⟩, ⟨12⟩, ⟨99⟩, ⟨999⟩]

/-- The enumerators of `detail::TextEncoding`. -/
def TextEncoding.enumerators : List TextEncoding := [⟨1⟩, ⟨2⟩]

/-- The enumerators of `detail::TypingStatus`. -/
def TypingStatus.enumerators : List TypingStatus := [⟨0⟩, ⟨1⟩]

/-- The text encoding or typing status that is appended to a packet is declared. -/
def Message.Declared : Message → Prop
  | offlineMessage _ _ _ encoding => encoding ∈ TextEncoding.enumerators
  -- whatever is in the variable is appended
  | privateMessage _ _ _ encoding => encoding.value ∈ TextEncoding.enumerators
  | typingNotification _ _ status => status ∈ TypingStatus.enumerators
  | _ => True

/-- Every availability that is kept is declared. -/
structure Managers.Declared (m : Managers) : Prop where
  contacts : ∀ c ∈ m.contactManager_.contacts, c.availability ∈ Availability.enumerators
  properties : m.properties_.availability_ ∈ Availability.enumerators

/-- Everything that was sent since the session began is declared. -/
def SentDeclared (s₁ s : SessionContext) : Prop :=
  ∃ new, s.connection_.sent = s₁.connection_.sent ++ new ∧ ∀ p ∈ new, p.message.Declared

/-- Only declared enumerators circulate in a session that began as `s₁`. -/
structure OnlyDeclared (s₁ s : SessionContext) : Prop where
  managers : s.toManagers.Declared
  sent : SentDeclared s₁ s

/-! ## Decisions -/

/-- A decision that brings no undeclared enumerator. -/
def Decision.Declared : Decision → Prop
  | refused _ => True
  -- the messages that are sent: those before the first one that is too large
  | announced managers messages =>
    managers.Declared ∧ ∀ m ∈ messages.takeWhile fun m => decide m.Fits, m.Declared
  | presence call => call.properties.availability_ ∈ Availability.enumerators

theorem sentDeclared_pushAll {s₁ s t : SessionContext} (h : SentDeclared s₁ s) {ms : List Message}
    (hSent : t.connection_ = (s.pushAll ms).connection_) :
    SentDeclared s₁ t ↔ ∀ m ∈ ms, m.Declared := by
  obtain ⟨new, hNew, hDeclared⟩ := h
  unfold SentDeclared
  rw [hSent, sent_pushAll, hNew, List.append_assoc]
  constructor
  · intro ⟨new', hNew', hDeclared'⟩ m hm
    obtain rfl := List.append_cancel_left hNew'
    exact hDeclared' _ (List.mem_append_right _ (List.mem_map_of_mem hm))
  · intro hAll
    exact ⟨_, rfl, List.forall_mem_append.mpr ⟨hDeclared, List.forall_mem_map.mpr hAll⟩⟩

/-- What a presence call says is no text encoding and no typing status. -/
theorem notices_declared (call : PresenceCall) (m : ContactManager) (profiles : List Bytes) :
    ∀ notice ∈ call.notices m profiles, notice.Declared := by
  intro notice hNotice
  obtain ⟨profile, -, hSome⟩ := List.mem_filterMap.mp hNotice
  obtain ⟨c, -, rfl⟩ := Option.map_eq_some_iff.mp hSome
  cases call <;> exact trivial

/-- A call shows its contacts a declared availability if its own is declared. -/
theorem PresenceCall.change_declared {call : PresenceCall}
    (h : call.properties.availability_ ∈ Availability.enumerators) (c : ContactInfo) :
    (call.change c).availability ∈ Availability.enumerators := by
  cases call with
  | setAvailable => exact (by decide : Availability.Available ∈ Availability.enumerators)
  | setIdle message isBusy idleUnknown =>
    exact (by decide : Availability.Idle ∈ Availability.enumerators)
  | setAway availability isBusy => exact h
  | setCustomStatus message isBusy =>
    exact (by decide : Availability.Custom ∈ Availability.enumerators)
  -- the contacts of an invisible client look offline
  | setInvisible => exact (by decide : Availability.Offline ∈ Availability.enumerators)

theorem managers_declared_presence (call : PresenceCall) {s : SessionContext}
    (h : s.toManagers.Declared) :
    (finalState (call.run s)).toManagers.Declared ↔
      call.properties.availability_ ∈ Availability.enumerators := by
  obtain ⟨hProperties, -, hContacts⟩ := call.run_spec s
  constructor
  · intro hAfter
    have hNoted := hAfter.properties
    rw [hProperties] at hNoted
    exact hNoted
  · intro hDeclared
    refine ⟨fun c hc => ?_, by rw [hProperties]; exact hDeclared⟩
    obtain ⟨id, hFind⟩ := ContactManager.mem_contacts_iff.mp hc
    rw [hContacts] at hFind
    split at hFind
    · obtain ⟨c₀, -, rfl⟩ := Option.map_eq_some_iff.mp hFind
      exact PresenceCall.change_declared hDeclared c₀
    · exact h.contacts c (ContactManager.mem_contacts_iff.mpr ⟨id, hFind⟩)

/-- **Carrying out a decision** keeps undeclared enumerators out exactly when it brings none. -/
theorem declared_carryOut_iff (d : Decision) {s₁ s : SessionContext} (h : OnlyDeclared s₁ s) :
    OnlyDeclared s₁ (finalState (d.carryOut s)) ↔ d.Declared := by
  cases d with
  | refused e => exact iff_of_true h trivial
  | announced managers ms =>
    generalize hAfter : finalState ((Decision.announced managers ms).carryOut s) = t
    rw [finalState_announced] at hAfter
    have hManagers : t.toManagers = managers := by
      rw [← hAfter]
      exact toManagers_pushAll _ _
    have hSent : SentDeclared s₁ t ↔ ∀ m ∈ ms.takeWhile fun m => decide m.Fits, m.Declared :=
      sentDeclared_pushAll (s := s.withManagers managers) h.sent (congrArg _ hAfter.symm)
    constructor
    · intro hOnly
      exact ⟨hManagers ▸ hOnly.managers, hSent.mp hOnly.sent⟩
    · intro hDeclared
      exact ⟨hManagers.symm ▸ hDeclared.1, hSent.mpr hDeclared.2⟩
  | presence call =>
    have hSent : SentDeclared s₁ (finalState (call.run s)) := by
      have hConnection : (finalState (call.run s)).connection_ =
          (s.pushAll ((call.notices s.contactManager_ s.profileManager_.profiles_).takeWhile
            fun m => decide m.Fits)).connection_ := by
        rw [connection_pushAll]
        exact (call.run_sends s).1
      refine (sentDeclared_pushAll h.sent hConnection).mpr fun m hm => ?_
      exact notices_declared call _ _ m (List.takeWhile_subset _ hm)
    constructor
    · intro hAfter
      exact (managers_declared_presence call h.managers).mp hAfter.managers
    · intro hDeclared
      exact ⟨(managers_declared_presence call h.managers).mpr hDeclared, hSent⟩

/-! ## Packets -/

/-- A `SetAway` whose status is no declared availability; its busy flag can be read. -/
def UndeclaredStatus (following payload : Bytes) : Prop :=
  ∃ request code isBusy, parse Payloads.SetAway.onKeyPair payload {} = .ok () request ∧
    toEnum following request.statusId = .ok code ∧
    Processors.busyFlag following request.busyState = .ok isBusy ∧
    (⟨code⟩ : Availability) ∉ Availability.enumerators

/-- A `PrivateMessage` that is passed on with an encoding that is not declared. -/
def UndeclaredEncoding (env : Env) (following payload : Bytes) : Prop :=
  ∃ request, parse (Payloads.PrivateMessage.onKeyPair following) payload
      { encoding := .unset env.encoding } = .ok () request ∧
    (Message.privateMessage request.clientId.chars request.contactId.chars request.message.chars
      request.encoding).Fits ∧
    request.encoding.value ∉ TextEncoding.enumerators

/-- A `TYPING` operation that is passed on with a status that is not declared. -/
def UndeclaredTyping (following payload : Bytes) : Prop :=
  ∃ request code, parse Payloads.ServiceOperation.onKeyPair payload {} = .ok () request ∧
    request.operation.chars = ascii "TYPING" ∧ toEnum following request.action = .ok code ∧
    (Message.typingNotification request.contactId.chars request.clientId.chars ⟨code⟩).Fits ∧
    (⟨code⟩ : TypingStatus) ∉ TypingStatus.enumerators

/-- A packet that brings an undeclared enumerator. -/
def BringsUndeclared (a : Arrival) : Prop :=
  match V11.find a.header.serviceId with
  | some .setAway => UndeclaredStatus a.following a.payload
  | some .privateMessage => UndeclaredEncoding a.env a.following a.payload
  | some .serviceOperation => UndeclaredTyping a.following a.payload
  | _ => False

theorem declared_decideOn_iff {π : Type} {fields : π}
    {onKeyPair : Int32 → StringView → Action π Unit} {payload : Bytes} {decision : π → Decision} :
    (decideOn fields onKeyPair payload decision).Declared ↔
      ∀ request, parse onKeyPair payload fields = .ok () request → (decision request).Declared :=
  decideOn_iff fun _ => trivial

/-- An announcement of messages without text encoding or typing status. -/
theorem declared_announced {managers : Managers} (h : managers.Declared) {ms : List Message}
    (hMessages : ∀ m ∈ ms, m.Declared) : (Decision.announced managers ms).Declared :=
  ⟨h, fun m hm => hMessages m (List.takeWhile_subset _ hm)⟩

/-- One message is sent if it fits. -/
theorem declared_answer_iff {s : SessionContext} (h : s.toManagers.Declared) (m : Message) :
    (s.answers [m]).Declared ↔ (m.Fits → m.Declared) := by
  show _ ∧ (∀ m' ∈ [m].takeWhile fun m => decide m.Fits, m'.Declared) ↔ _
  rw [and_iff_right h, List.takeWhile_cons, List.takeWhile_nil]
  by_cases hFits : m.Fits
  · simp [hFits]
  · simp [hFits]

/-- Contacts that are declared make managers that are. -/
theorem Managers.Declared.withContacts {s : SessionContext} (h : s.toManagers.Declared)
    {contactManager : ContactManager}
    (hContacts : ∀ c ∈ contactManager.contacts, c.availability ∈ Availability.enumerators) :
    (s.withContacts contactManager).toManagers.Declared := ⟨hContacts, h.properties⟩

theorem declared_decideAdd {s : SessionContext} (h : s.toManagers.Declared) (env : Env)
    (clientId contactId group message : Bytes) :
    (decideAdd s env clientId contactId group message).Declared := by
  by_cases hRefuses : s.Refuses contactId group
  · obtain ⟨status, -, hDecision⟩ := decideAdd_refused hRefuses env clientId message
    rw [hDecision]
    exact (declared_answer_iff h _).mpr fun _ => trivial
  obtain ⟨contactManager, hAdd, hDecision⟩ := decideAdd_accepted hRefuses env clientId message
  rw [hDecision]
  refine declared_announced (h.withContacts fun c hc => ?_) ?_
  · -- the new contact is offline
    rcases (ContactManager.mem_contacts_addPendingContact hAdd).mp hc with rfl | hOld
    · exact (by decide : Availability.Offline ∈ Availability.enumerators)
    · exact h.contacts c hOld
  · refine List.forall_mem_cons.mpr ⟨trivial, List.forall_mem_cons.mpr ⟨trivial, ?_⟩⟩
    intro m hm
    obtain rfl := List.mem_singleton.mp (List.mem_ite_nil_right.mp hm).2
    exact trivial

theorem declared_decideRemove {s : SessionContext} (h : s.toManagers.Declared)
    (clientId contactId group : Bytes) : (decideRemove s clientId contactId group).Declared := by
  unfold decideRemove
  split
  · refine declared_announced (h.withContacts fun c hc => ?_)
      (List.forall_mem_cons.mpr ⟨trivial, List.forall_mem_singleton.mpr trivial⟩)
    obtain ⟨e, he, rfl⟩ := List.mem_map.mp hc
    exact h.contacts _ (List.mem_map_of_mem (List.mem_of_mem_filter he))
  · exact (declared_answer_iff h _).mpr fun _ => trivial

theorem declared_decideRename {s : SessionContext} (h : s.toManagers.Declared)
    (currentName newName : Bytes) : (decideRename s currentName newName).Declared := by
  unfold decideRename
  split
  · exact declared_announced h fun m hm => absurd hm List.not_mem_nil
  · refine declared_announced (h.withContacts fun c hc => ?_)
      (List.forall_mem_cons.mpr ⟨trivial, List.forall_mem_singleton.mpr trivial⟩)
    -- only the group is written
    unfold ContactManager.contacts ContactManager.renameGroup at hc
    rw [OrderedMap.values_mapValues] at hc
    obtain ⟨e, he, rfl⟩ := List.mem_map.mp hc
    have hOld := h.contacts _ (List.mem_map_of_mem he)
    split
    · exact hOld
    · exact hOld

theorem declared_decideBlocked {s : SessionContext} (h : s.toManagers.Declared)
    (payload : Payloads.ChangeBlockedUser) : (decideBlocked s payload).Declared := by
  have hBlocked : ∀ blockedContactManager m, Message.Declared m →
      (Decision.announced (s.withBlocked blockedContactManager).toManagers [m]).Declared := by
    intro blockedContactManager m hm
    have hManagers : (s.withBlocked blockedContactManager).toManagers.Declared :=
      ⟨h.contacts, h.properties⟩
    exact declared_announced hManagers (List.forall_mem_singleton.mpr hm)
  unfold decideBlocked
  split_ifs
  · exact trivial
  · exact hBlocked _ _ trivial
  · exact hBlocked _ _ trivial
  · exact trivial
  · exact declared_announced h fun m hm => absurd hm List.not_mem_nil

theorem declared_decideAway_iff (following : Bytes) (payload : Payloads.SetAway) :
    (decideAway following payload).Declared ↔
      ∀ code, toEnum following payload.statusId = .ok code →
        ∀ isBusy, Processors.busyFlag following payload.busyState = .ok isBusy →
          (⟨code⟩ : Availability) ∈ Availability.enumerators := by
  unfold decideAway awayCall
  cases toEnum following payload.statusId with
  | error e => exact iff_of_true trivial fun code h => by cases h
  | ok code =>
    simp only [Except.ok.injEq, forall_eq']
    by_cases hInvisible : (⟨code⟩ : Availability) = .Invisible
    · have hDeclared : Availability.Invisible ∈ Availability.enumerators := by decide
      rw [hInvisible, if_pos rfl]
      exact iff_of_true hDeclared fun _ _ => hDeclared
    rw [if_neg hInvisible]
    cases Processors.busyFlag following payload.busyState with
    | error e => exact iff_of_true trivial fun isBusy h => by cases h
    | ok isBusy =>
      simp only [Except.ok.injEq, forall_eq']
      -- the status itself is noted, under whatever name
      split_ifs with hIdle hCustom
      · rw [hIdle]
        exact Iff.rfl
      · rw [hCustom]
        exact Iff.rfl
      · exact Iff.rfl

theorem declared_decideConfirm {s : SessionContext} (h : s.toManagers.Declared) {m : Message}
    (hm : m.Declared) (profileId : Bytes) : (decideConfirm s m profileId).Declared := by
  unfold decideConfirm
  split
  · exact (declared_answer_iff h _).mpr fun _ => hm
  · exact trivial

theorem declared_decideDeny {s : SessionContext} (h : s.toManagers.Declared)
    (clientId contactId message : Bytes) :
    (decideDeny s clientId contactId message).Declared := by
  unfold decideDeny
  split
  · exact (declared_answer_iff h _).mpr fun _ => trivial
  · exact declared_announced h fun m hm => absurd hm List.not_mem_nil

theorem declared_decideOperation_iff {s : SessionContext} (h : s.toManagers.Declared)
    (following : Bytes) (payload : Payloads.ServiceOperation) :
    (decideOperation s following payload).Declared ↔
      (payload.operation.chars = ascii "TYPING" → ∀ code, toEnum following payload.action = .ok code →
        (Message.typingNotification payload.contactId.chars payload.clientId.chars ⟨code⟩).Fits →
        (⟨code⟩ : TypingStatus) ∈ TypingStatus.enumerators) := by
  unfold decideOperation
  split_ifs with hTyping
  · rw [forall_prop_of_true hTyping]
    cases toEnum following payload.action with
    | error e => exact iff_of_true trivial fun code h => by cases h
    | ok code =>
      simp only [Except.ok.injEq, forall_eq']
      exact declared_answer_iff h _
  · refine iff_of_true (declared_announced h fun m hm => absurd hm List.not_mem_nil) ?_
    exact fun hSame => absurd hSame hTyping

/-- **A packet** is decided about without an undeclared enumerator exactly when it brings none. -/
theorem declared_decision_iff {s : SessionContext} (h : s.toManagers.Declared) (a : Arrival) :
    (decision s a).Declared ↔ ¬ BringsUndeclared a := by
  have hNothing : (s.answers []).Declared :=
    declared_announced h fun m hm => absurd hm List.not_mem_nil
  have hAnswer : ∀ m : Message, m.Declared → (s.answers [m]).Declared :=
    fun m hm => (declared_answer_iff h m).mpr fun _ => hm
  have hOther {π : Type} {fields : π} {onKeyPair : Int32 → StringView → Action π Unit}
      {decision : π → Decision} (hDeclared : ∀ request, (decision request).Declared) :
      (decideOn fields onKeyPair a.payload decision).Declared ↔ ¬ False :=
    iff_of_true (declared_decideOn_iff.mpr fun request _ => hDeclared request) id
  unfold decision BringsUndeclared
  cases V11.find a.header.serviceId with
  | none => exact hOther fun _ => hNothing
  | some service =>
    cases service with
    -- the three services that convert
    | setAway =>
      simp only [serviceDecision, declared_decideOn_iff, declared_decideAway_iff, UndeclaredStatus,
        not_exists, not_and, not_not]
      exact ⟨fun h request code isBusy hParse hCode hBusy => h request hParse code hCode isBusy hBusy,
        fun h request hParse code hCode isBusy hBusy => h request code isBusy hParse hCode hBusy⟩
    | privateMessage =>
      simp only [serviceDecision, declared_decideOn_iff, declared_answer_iff h,
        UndeclaredEncoding, not_exists, not_and, not_not]
      exact Iff.rfl
    | serviceOperation =>
      simp only [serviceDecision, declared_decideOn_iff, declared_decideOperation_iff h,
        UndeclaredTyping, not_exists, not_and, not_not]
      exact ⟨fun h request code hParse hTyping hCode hFits =>
          h request hParse hTyping code hCode hFits,
        fun h request hParse hTyping code hCode hFits =>
          h request code hParse hTyping hCode hFits⟩
    -- the others, which say nothing that could be undeclared
    | setAvailable =>
      exact hOther fun _ => (by decide : Availability.Available ∈ Availability.enumerators)
    | activateProfile | deactivateProfile =>
      exact hOther fun _ => declared_decideConfirm h (by exact trivial) _
    | addContact => exact hOther fun _ => declared_decideAdd h ..
    | renameContactGroup => exact hOther fun _ => declared_decideRename h ..
    | removeContact => exact hOther fun _ => declared_decideRemove h ..
    | denyContactAddRequest => exact hOther fun _ => declared_decideDeny h ..
    | changeBlockedUser => exact hOther fun _ => declared_decideBlocked h _
    | requestProfile | massPrivateMessage | chatLogin | chatJoin =>
      exact hOther fun _ => hAnswer _ trivial

/-! ## Runs -/

/-- A login leaves declared enumerators. -/
theorem LoggedIn.onlyDeclared {s : SessionContext} (h : LoggedIn s) : OnlyDeclared s s := by
  refine ⟨?_, [], (List.append_nil _).symm, fun p hp => absurd hp List.not_mem_nil⟩
  obtain ⟨env, handler, contactManager, connection, sessionId, hLoad, hBegin, -, hInitial⟩ := h.begun
  rw [toManagers_of_begins (.inr hBegin)]
  have hDeclared : handler.initialAvailability_ ∈ Availability.enumerators := by
    rcases hInitial with hOffline | hAvailable
    · rw [hOffline]
      decide
    · rw [hAvailable]
      decide
  refine ⟨fun c hc => ?_, hDeclared⟩
  obtain ⟨m, hLoad', hMem⟩ := loadContacts_initialContacts env handler.initialAvailability_
  obtain rfl : contactManager = m := Except.ok.inj (hLoad.symm.trans hLoad')
  have hContact := (hMem c).mp hc
  simp only [initialContacts, List.mem_cons, List.not_mem_nil, or_false] at hContact
  rcases hContact with rfl | rfl | rfl | rfl | rfl | rfl | rfl
  · exact (by decide : Availability.Offline ∈ Availability.enumerators)
  · exact (by decide : Availability.Custom ∈ Availability.enumerators)
  · exact (by decide : Availability.Busy ∈ Availability.enumerators)
  -- our own ids are as the client logged in
  all_goals exact hDeclared

/-- **Only declared enumerators circulate** in every state of a session exactly when none of
its packets brings an undeclared one. -/
theorem onlyDeclared_iff {s₁ s : SessionContext} {arrivals : List Arrival} (hLogin : LoggedIn s₁)
    (hRun : Runs SessionStep s₁ arrivals s) :
    (∀ history rest t, arrivals = history ++ rest → Runs SessionStep s₁ history t →
        OnlyDeclared s₁ t) ↔
      ∀ history a rest t, arrivals = history ++ a :: rest → Runs SessionStep s₁ history t →
        ¬ BringsUndeclared a :=
  SessionStep.always_iff (C := fun _ => BringsUndeclared) hLogin.onlyDeclared (fun t a ht => by
    rw [handle_eq, declared_carryOut_iff _ ht, declared_decision_iff ht.managers]) hRun

/-- A `SetAway` with the status 5000. -/
def statusPacket : Arrival where
  env := .zeros
  header := .new 0 11 3 0
  payload := Builder.encode [(10, ascii "5000")]
  following := []

theorem statusPacket_step : ∃ s₁ ∈ authenticated.2.session, LoggedIn s₁ ∧
    SessionStep s₁ statusPacket (finalState (handle s₁ statusPacket)) := by
  obtain ⟨s₁, hSession, hLogin, -⟩ := loggedIn_authenticated
  have hDefined : ∀ s ∈ authenticated.2.session, Defined (handle s statusPacket) := by
    decide +kernel
  exact ⟨s₁, hSession, hLogin, hDefined s₁ hSession, rfl⟩

theorem bringsUndeclared_statusPacket : BringsUndeclared statusPacket := by
  have hParse : returned (parse Payloads.SetAway.onKeyPair statusPacket.payload {}) = true := by
    decide +kernel
  exact ⟨_, 5000, false, eq_ok_of_returned hParse, by decide +kernel, by decide +kernel,
    by decide +kernel⟩

theorem onlyDeclared_iff_statusPacket : ∃ s₁ ∈ authenticated.2.session,
    (∀ history rest t, [statusPacket] = history ++ rest → Runs SessionStep s₁ history t →
        OnlyDeclared s₁ t) ↔
      ∀ history a rest t, [statusPacket] = history ++ a :: rest →
        Runs SessionStep s₁ history t → ¬ BringsUndeclared a := by
  obtain ⟨s₁, hSession, hLogin, hStep⟩ := statusPacket_step
  exact ⟨s₁, hSession, onlyDeclared_iff hLogin (.one hStep)⟩

/-- Status 5000 is kept. -/
theorem undeclared_kept :
    ¬ ∀ (s₁ s : SessionContext) (arrivals : List Arrival), LoggedIn s₁ →
      Runs SessionStep s₁ arrivals s → OnlyDeclared s₁ s := by
  intro hEvery
  obtain ⟨s₁, -, hLogin, hStep⟩ := statusPacket_step
  have hOnly := hEvery s₁ _ _ hLogin (.one hStep)
  rw [handle_eq, declared_carryOut_iff _ hLogin.onlyDeclared,
    declared_decision_iff hLogin.onlyDeclared.managers] at hOnly
  exact hOnly bringsUndeclared_statusPacket

end Giblet.YMsg
