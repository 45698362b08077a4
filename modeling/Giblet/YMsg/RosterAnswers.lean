import Giblet.YMsg.Reachable

/-!
# YMsg — answers to roster requests

`AddContact`, `RemoveContact` and `RenameContactGroup` are answered by a
packet of the same service. The values it names went through payload, link,
event and builder on the way.

* `addContact_answered` — an `AddContact` is answered once, by what was done.
* `acknowledged_iff` — the requests whose answer carries their own values: all
  but the renamings, whose two names are exchanged.
-/

namespace Giblet.YMsg

open Effect PacketParser Run SessionContext

namespace SessionContext

/-- **What was announced**, when no packet was too large: these managers, these messages. -/
theorem announced_effect {s s' : SessionContext} {managers : Managers} {ms : List Message}
    (h : (Decision.announced managers ms).carryOut s = .ok () s') :
    s'.toManagers = managers ∧ s.sentSince s' = ms := by
  obtain ⟨-, rfl⟩ := announced_returned h
  exact ⟨toManagers_pushAll _ _, sentSince_pushAll s managers ms⟩

end SessionContext

/-! ## One answer to a request -/

/-- The status of an `AddContactRequestResult`. -/
def Message.addResult? : Message → Option AddContactRequestResultStatus
  | addContactRequestResult _ _ _ status => some status
  | _ => none

/-- Is it an `AddContactRequest`? -/
def Message.isAddRequest : Message → Bool
  | addContactRequest .. => true
  | _ => false

/-- A contact that waits to be accepted was added, and nothing else changed in the contacts. -/
def AddedPending (m m' : ContactManager) (contactId group : Bytes) : Prop :=
  group ≠ [] ∧ m.contacts_.find? contactId = none ∧
    ∃ c : ContactInfo, c.id = contactId ∧ c.group = group ∧ c.state = .AddPending ∧
      c.availability = .Offline ∧
      ∀ id, m'.contacts_.find? id = if id = contactId then some c else m.contacts_.find? id

/-- An `AddContact` was answered once, by what was done. -/
structure AnsweredOnce (s s' : SessionContext) (contactId group : Bytes) : Prop where
  answer : ∃ status, (s.sentSince s').filterMap Message.addResult? = [status] ∧
    (s'.contactManager_ ≠ s.contactManager_ ↔ status = .AddPending)
  added : s'.contactManager_ ≠ s.contactManager_ →
    AddedPending s.contactManager_ s'.contactManager_ contactId group
  profile : (∃ m ∈ s.sentSince s', m.isProfile = true) ↔ s'.contactManager_ ≠ s.contactManager_
  echo : (∃ m ∈ s.sentSince s', m.isAddRequest = true) ↔
    s'.contactManager_ ≠ s.contactManager_ ∧
      (contactId = s.profileManager_.clientId_ ∨ contactId ∈ s.profileManager_.profiles_)
  profiles : s'.profileManager_ = s.profileManager_
  blocked : s'.blockedContactManager_ = s.blockedContactManager_
  properties : s'.properties_ = s.properties_

theorem ProfileManager.isClientOrProfileId_iff {m : ProfileManager} {id : Bytes} :
    m.isClientOrProfileId id = true ↔ id = m.clientId_ ∨ id ∈ m.profiles_ := by
  unfold isClientOrProfileId isProfileId
  rw [Bool.or_eq_true, beq_iff_eq, List.contains_iff_mem]

/-- A request that is refused is answered by the reason, and nothing changes. -/
theorem AnsweredOnce.refused {s s' : SessionContext} {contactId group id id' group' : Bytes}
    {status : AddContactRequestResultStatus} (hStatus : status ≠ .AddPending)
    (h : (s.answers [.addContactRequestResult id id' group' status]).carryOut s = .ok () s') :
    AnsweredOnce s s' contactId group := by
  obtain ⟨hSame, hSent⟩ := announced_effect h
  have hUnchanged : ¬ s'.contactManager_ ≠ s.contactManager_ :=
    not_not.mpr (congrArg Managers.contactManager_ hSame)
  refine ⟨⟨status, ?_, iff_of_false hUnchanged hStatus⟩, fun h => absurd h hUnchanged,
    iff_of_false ?_ hUnchanged, iff_of_false ?_ fun h => hUnchanged h.1,
    congrArg Managers.profileManager_ hSame, congrArg Managers.blockedContactManager_ hSame,
    congrArg Managers.properties_ hSame⟩
  · rw [hSent]
    rfl
  · simp [hSent, Message.isProfile]
  · simp [hSent, Message.isAddRequest]

/-- A request that is accepted adds a contact; an id of our own gets an echo. -/
theorem AnsweredOnce.accepted {s s' : SessionContext} {env : Env}
    {clientId contactId group message : Bytes} {contactManager : ContactManager}
    (hGroup : group ≠ [])
    (hAdd : s.contactManager_.addPendingContact (env.isInChat contactId) contactId group =
      .ok contactManager)
    (h : (s.announces contactManager (.addContactRequestResult contactId clientId group .AddPending)
      (if s.profileManager_.isClientOrProfileId contactId then
        [.addContactRequest clientId contactId message env.time]
      else [])).carryOut s = .ok () s') :
    AnsweredOnce s s' contactId group := by
  obtain ⟨hManagers, hSent⟩ := announced_effect h
  have hContacts : s'.contactManager_ = contactManager :=
    congrArg Managers.contactManager_ hManagers
  obtain ⟨hNew, hFind⟩ := ContactManager.find?_addPendingContact hAdd
  -- the contact was not there, and now it is
  have hChanged : s'.contactManager_ ≠ s.contactManager_ := by
    intro hSame
    have hThere := hFind contactId
    rw [← hContacts, hSame, hNew, if_pos rfl] at hThere
    cases hThere
  generalize hMore : (if s.profileManager_.isClientOrProfileId contactId then
    [Message.addContactRequest clientId contactId message env.time] else []) = more at hSent
  have hEcho : (∃ m ∈ more, m.isAddRequest = true) ↔
      contactId = s.profileManager_.clientId_ ∨ contactId ∈ s.profileManager_.profiles_ := by
    rw [← ProfileManager.isClientOrProfileId_iff, ← hMore]
    split_ifs with hOwn
    · exact iff_of_true ⟨_, List.mem_cons_self, rfl⟩ hOwn
    · exact iff_of_false (fun ⟨m, hm, _⟩ => absurd hm List.not_mem_nil) hOwn
  have hNoResult : more.filterMap Message.addResult? = [] := by
    rw [← hMore]
    split_ifs <;> rfl
  have hProfiles := congrArg Managers.profileManager_ hManagers
  have hBlocked := congrArg Managers.blockedContactManager_ hManagers
  have hProperties := congrArg Managers.properties_ hManagers
  refine ⟨⟨.AddPending, ?_, iff_of_true hChanged rfl⟩, fun _ => ?_, iff_of_true ?_ hChanged, ?_,
    hProfiles, hBlocked, hProperties⟩
  · rw [hSent]
    show AddContactRequestResultStatus.AddPending :: more.filterMap Message.addResult? = _
    rw [hNoResult]
  · rw [hContacts]
    exact ⟨hGroup, hNew, _, rfl, rfl, rfl, rfl, hFind⟩
  · rw [hSent]
    exact ⟨_, List.mem_cons_of_mem _ List.mem_cons_self, rfl⟩
  · rw [and_iff_right hChanged, ← hEcho, hSent]
    simp [Message.isAddRequest, clientProfile]

theorem decideAdd_answered {s s' : SessionContext} {env : Env}
    {clientId contactId group message : Bytes}
    (h : (decideAdd s env clientId contactId group message).carryOut s = .ok () s') :
    AnsweredOnce s s' contactId group := by
  by_cases hRefuses : s.Refuses contactId group
  · obtain ⟨status, hStatus, hDecision⟩ := decideAdd_refused hRefuses env clientId message
    rw [hDecision] at h
    exact .refused hStatus h
  · obtain ⟨contactManager, hAdd, hDecision⟩ := decideAdd_accepted hRefuses env clientId message
    rw [hDecision] at h
    exact .accepted (not_or.mp hRefuses).1 hAdd h

/-- What was handled without an exception was decided about a payload that can be read. -/
theorem returned_decideOn {π : Type} {fields : π} {onKeyPair : Int32 → StringView → Action π Unit}
    {payload : Bytes} {decision : π → Decision} {s s' : SessionContext}
    (h : (decideOn fields onKeyPair payload decision).carryOut s = .ok () s') :
    ∃ fields', parse onKeyPair payload fields = .ok () fields' ∧
      (decision fields').carryOut s = .ok () s' := by
  unfold decideOn at h
  split at h
  · cases h
  · rename_i fields' hParse
    exact ⟨fields', hParse, h⟩

/-- **Every add request gets one answer that matches its effect**, in whatever session it is
handled without an exception. -/
theorem addContact_answered {s s' : SessionContext} {a : Arrival}
    (hService : V11.find a.header.serviceId = some .addContact) (hReturns : handle s a = .ok () s') :
    ∃ fields, parse Payloads.AddContact.onKeyPair a.payload {} = .ok () fields ∧
      AnsweredOnce s s' fields.contactId.chars fields.group.chars := by
  rw [handle_eq, decision, hService] at hReturns
  obtain ⟨fields, hParse, hDecision⟩ := returned_decideOn hReturns
  exact ⟨fields, hParse, decideAdd_answered hDecision⟩

/-- A contact that is added to a session just begun. -/
theorem addContact_answered_begunSession :
    ∃ fields, parse Payloads.AddContact.onKeyPair (addContactPacket (ascii "g")).payload {} =
        .ok () fields ∧
      AnsweredOnce begunSession
        (finalState (handle begunSession (addContactPacket (ascii "g"))))
        fields.contactId.chars fields.group.chars :=
  addContact_answered rfl (eq_ok_of_returned (by rw [begunSession_eq]; decide +kernel))

/-! ## Answers that carry the request's values -/

/-- Two payload objects have the same value in a member. -/
def Same {π : Type} (member : π → StringView) (answer request : π) : Prop :=
  (member answer).chars = (member request).chars

/-- What a packet says under a request's own keys are the request's values: `names` compares
the two payload objects. -/
def Carries {π : Type} (fields : π) (onKeyPair : Int32 → StringView → Action π Unit)
    (names : π → π → Prop) (a : Arrival) (p : Sent) : Prop :=
  ∃ request answer, parse onKeyPair a.payload fields = .ok () request ∧
    parse onKeyPair (p.bytes.drop RawHeader.size) fields = .ok () answer ∧ names answer request

/-- An answer to a roster request names what was asked. -/
def Acknowledges (a : Arrival) (p : Sent) : V11.Service → Prop
  | .addContact =>
    Carries {} Payloads.AddContact.onKeyPair (fun answer request =>
      Same (·.clientId) answer request ∧ Same (·.contactId) answer request ∧
        Same (·.group) answer request) a p
  | .removeContact =>
    Carries {} Payloads.RemoveContact.onKeyPair (fun answer request =>
      Same (·.clientId) answer request ∧ Same (·.contactId) answer request ∧
        Same (·.group) answer request) a p
  | .renameContactGroup =>
    Carries {} Payloads.RenameContactGroup.onKeyPair (fun answer request =>
      Same (·.currentGroupName) answer request ∧ Same (·.newGroupName) answer request) a p
  | _ => True

/-- A payload that was built is read into what its pairs store. -/
theorem parse_packet {π : Type} (members : List (Int32 × (StringView → π → π))) (fields : π)
    (c : ClientConnection) {m : Message} (hClean : ∀ p ∈ m.pairs, Unterminated p.2) :
    parse (assignMember members) ((c.packet m).bytes.drop RawHeader.size) fields =
      .ok () (storeTokens members fields (tokensOf m.pairs)) := by
  rw [c.payload_packet, parse_assignMember, tokens_encode hClean]

/-- What a parse leaves in a member is nothing, or a value that was cut out of the payload. -/
theorem clean_of_parse {π : Type} {members : List (Int32 × (StringView → π → π))}
    {fields fields' : π} {payload : Bytes} (member : π → StringView)
    (hStore : ∀ m ∈ members, ∀ value f, member (m.2 value f) = value ∨
      member (m.2 value f) = member f)
    (hStart : member fields = .null)
    (hParse : parse (assignMember members) payload fields = .ok () fields') :
    Unterminated (member fields').chars := by
  refine parse_assignMember_invariant (P := fun f => Unterminated (member f).chars) ?_ ?_ hParse
  · intro m hm value f hValue hOld
    cases hStore m hm value f with
    | inl hNew =>
      rw [hNew]
      exact hValue
    | inr hSame =>
      rw [hSame]
      exact hOld
  · rw [hStart]
    exact Terminator.clean_nil _ _

/-- The answers to an `AddContact`. -/
theorem acknowledges_addContact {a : Arrival} {request : Payloads.AddContact}
    (hParse : parse Payloads.AddContact.onKeyPair a.payload {} = .ok () request)
    (c : ClientConnection) (status : AddContactRequestResultStatus) :
    Acknowledges a (c.packet (.addContactRequestResult request.contactId.chars
      request.clientId.chars request.group.chars status)) .addContact := by
  have hClient := clean_of_parse Payloads.AddContact.clientId (by simp) rfl hParse
  have hContact := clean_of_parse Payloads.AddContact.contactId (by simp) rfl hParse
  have hGroup := clean_of_parse Payloads.AddContact.group (by simp) rfl hParse
  have hClean : ∀ p ∈ (Message.addContactRequestResult request.contactId.chars
      request.clientId.chars request.group.chars status).pairs, Unterminated p.2 := by
    simp only [Message.pairs, Message.layout, text, number, List.map_cons, List.map_nil,
      List.forall_mem_cons, Cell.value_of]
    exact ⟨hClient, hContact, hGroup, ofInt_clean _, fun _ h => absurd h List.not_mem_nil⟩
  refine ⟨request, _, hParse, parse_packet _ _ c hClean, ?_⟩
  -- two exchanges on the way, which undo each other
  exact ⟨StringView.chars_ofField .., StringView.chars_ofField .., StringView.chars_ofField ..⟩

/-- The answers to a `RemoveContact`. -/
theorem acknowledges_removeContact {a : Arrival} {request : Payloads.RemoveContact}
    (hParse : parse Payloads.RemoveContact.onKeyPair a.payload {} = .ok () request)
    (c : ClientConnection) (status : RemoveContactStatus) :
    Acknowledges a (c.packet (.contactRemoved request.clientId.chars request.contactId.chars
      request.group.chars status)) .removeContact := by
  have hClient := clean_of_parse Payloads.RemoveContact.clientId (by simp) rfl hParse
  have hContact := clean_of_parse Payloads.RemoveContact.contactId (by simp) rfl hParse
  have hGroup := clean_of_parse Payloads.RemoveContact.group (by simp) rfl hParse
  have hClean : ∀ p ∈ (Message.contactRemoved request.clientId.chars request.contactId.chars
      request.group.chars status).pairs, Unterminated p.2 := by
    simp only [Message.pairs, Message.layout, text, number, List.map_cons, List.map_nil,
      List.forall_mem_cons, Cell.value_of]
    exact ⟨hClient, ofInt_clean _, hContact, hGroup, fun _ h => absurd h List.not_mem_nil⟩
  refine ⟨request, _, hParse, parse_packet _ _ c hClean, ?_⟩
  exact ⟨StringView.chars_ofField .., StringView.chars_ofField .., StringView.chars_ofField ..⟩

/-- The answer to a `RenameContactGroup` has the new name where the request had the current
one, and the other way round. -/
theorem acknowledges_renameContactGroup_iff {a : Arrival} {request : Payloads.RenameContactGroup}
    (hParse : parse Payloads.RenameContactGroup.onKeyPair a.payload {} = .ok () request)
    (c : ClientConnection) {clientId : Bytes} (hClient : Unterminated clientId) :
    Acknowledges a (c.packet (.contactGroupRenamed clientId request.newGroupName.chars
      request.currentGroupName.chars)) .renameContactGroup ↔
        request.currentGroupName.chars = request.newGroupName.chars := by
  have hCurrent :=
    clean_of_parse Payloads.RenameContactGroup.currentGroupName (by simp) rfl hParse
  have hNew := clean_of_parse Payloads.RenameContactGroup.newGroupName (by simp) rfl hParse
  have hClean : ∀ p ∈ (Message.contactGroupRenamed clientId request.newGroupName.chars
      request.currentGroupName.chars).pairs, Unterminated p.2 := by
    simp only [Message.pairs, Message.layout, text, List.map_cons, List.map_nil,
      List.forall_mem_cons, Cell.value_of]
    exact ⟨hClient, Terminator.clean_singleton _ _ _, hCurrent, hNew,
      fun _ h => absurd h List.not_mem_nil⟩
  obtain ⟨answer, hAnswer, hFirst, hSecond⟩ : ∃ answer : Payloads.RenameContactGroup,
      parse Payloads.RenameContactGroup.onKeyPair ((c.packet (.contactGroupRenamed clientId
        request.newGroupName.chars request.currentGroupName.chars)).bytes.drop RawHeader.size) {} =
          .ok () answer ∧
        answer.currentGroupName.chars = request.newGroupName.chars ∧
        answer.newGroupName.chars = request.currentGroupName.chars :=
    ⟨_, parse_packet _ _ c hClean, StringView.chars_ofField .., StringView.chars_ofField ..⟩
  constructor
  · rintro ⟨request', answer', hRequest', hAnswer', hNames, -⟩
    obtain rfl : request = request' := (EStateM.Result.ok.inj (hParse.symm.trans hRequest')).2
    obtain rfl : answer = answer' := (EStateM.Result.ok.inj (hAnswer.symm.trans hAnswer')).2
    exact hNames.symm.trans hFirst
  · intro hNames
    exact ⟨request, answer, hParse, hAnswer, hFirst.trans hNames.symm, hSecond.trans hNames⟩

/-! ## Which answers are sent -/

/-- A decision that leads to nothing but messages of a kind. -/
def Decision.Answers (P : Message → Prop) : Decision → Prop
  | refused _ => True
  | announced _ messages => ∀ m ∈ messages, P m
  | presence _ => False

/-- The packets of an announcement that were sent: those before the first one too large. -/
theorem packetsSince_announced (s : SessionContext) (managers : Managers) (ms : List Message) :
    s.packetsSince (finalState ((Decision.announced managers ms).carryOut s)) =
      (ms.takeWhile fun m => decide m.Fits).map s.connection_.packet := by
  rw [finalState_announced, packetsSince_pushAll]

/-- What was sent is a message of the kind, and it fits. -/
theorem Decision.Answers.packetsSince {P : Message → Prop} {d : Decision} (h : d.Answers P)
    {s : SessionContext} {p : Sent} (hp : p ∈ s.packetsSince (finalState (d.carryOut s))) :
    ∃ m, P m ∧ m.Fits ∧ p = s.connection_.packet m := by
  cases d with
  | refused e =>
    have hNone : s.packetsSince s = [] := List.drop_length
    change p ∈ s.packetsSince s at hp
    rw [hNone] at hp
    cases hp
  | announced managers ms =>
    rw [packetsSince_announced] at hp
    obtain ⟨m, hm, rfl⟩ := List.mem_map.mp hp
    have hFits : m.Fits := by simpa using List.mem_takeWhile_imp hm
    exact ⟨m, h m (List.takeWhile_subset _ hm), hFits, rfl⟩
  | presence call => exact h.elim

theorem decideAdd_answers (s : SessionContext) (env : Env)
    (clientId contactId group message : Bytes) :
    (decideAdd s env clientId contactId group message).Answers fun m =>
      m.layout.serviceId = 131 → ∃ status, m = .addContactRequestResult contactId clientId group
        status := by
  by_cases hRefuses : s.Refuses contactId group
  · obtain ⟨status, -, hDecision⟩ := decideAdd_refused hRefuses env clientId message
    rw [hDecision]
    exact List.forall_mem_singleton.mpr fun _ => ⟨status, rfl⟩
  obtain ⟨contactManager, -, hDecision⟩ := decideAdd_accepted hRefuses env clientId message
  rw [hDecision]
  refine List.forall_mem_cons.mpr ⟨fun _ => ⟨_, rfl⟩, List.forall_mem_cons.mpr ⟨?_, ?_⟩⟩
  · intro hService
    cases hService
  -- the echo is a packet of another service
  · intro m hm hService
    obtain rfl := List.mem_singleton.mp (List.mem_ite_nil_right.mp hm).2
    cases hService

theorem decideRemove_answers (s : SessionContext) (clientId contactId group : Bytes) :
    (decideRemove s clientId contactId group).Answers fun m =>
      m.layout.serviceId = 132 → ∃ status, m = .contactRemoved clientId contactId group status := by
  unfold decideRemove
  split
  · refine List.forall_mem_cons.mpr ⟨fun _ => ⟨_, rfl⟩, List.forall_mem_singleton.mpr ?_⟩
    intro hService
    cases hService
  · exact List.forall_mem_singleton.mpr fun _ => ⟨_, rfl⟩

theorem decideRename_answers (s : SessionContext) (currentName newName : Bytes) :
    (decideRename s currentName newName).Answers fun m =>
      m.layout.serviceId = 137 → currentName ≠ newName ∧
        m = .contactGroupRenamed s.profileManager_.clientId_ newName currentName := by
  unfold decideRename
  split
  · exact fun m hm => absurd hm List.not_mem_nil
  · rename_i hNames
    refine List.forall_mem_cons.mpr ⟨fun _ => ⟨hNames, rfl⟩, List.forall_mem_singleton.mpr ?_⟩
    intro hService
    cases hService

/-- What is sent for a request goes back to a payload that can be read. -/
theorem sent_decideOn {π : Type} {fields : π} {onKeyPair : Int32 → StringView → Action π Unit}
    {payload : Bytes} {decision : π → Decision} {P : π → Message → Prop} {s : SessionContext}
    (h : ∀ request, (decision request).Answers (P request)) {p : Sent}
    (hp : p ∈ s.packetsSince (finalState ((decideOn fields onKeyPair payload decision).carryOut s))) :
    ∃ request m, parse onKeyPair payload fields = .ok () request ∧ P request m ∧ m.Fits ∧
      p = s.connection_.packet m := by
  unfold decideOn at hp
  split at hp
  · obtain ⟨m, hFalse, -⟩ :=
      Decision.Answers.packetsSince (P := fun _ => False) (d := .refused _) trivial hp
    exact hFalse.elim
  · rename_i request hParse
    obtain ⟨m, hm, hFits, rfl⟩ := (h request).packetsSince hp
    exact ⟨request, m, hParse, hm, hFits, rfl⟩

/-- A renaming that is acknowledged: the payload can be read, its names differ, and the
acknowledgement is not too large. -/
def AcknowledgesRenaming (s : SessionContext) (a : Arrival) : Prop :=
  V11.find a.header.serviceId = some .renameContactGroup ∧
    ∃ request, parse Payloads.RenameContactGroup.onKeyPair a.payload {} = .ok () request ∧
      request.currentGroupName.chars ≠ request.newGroupName.chars ∧
      (Message.contactGroupRenamed s.profileManager_.clientId_ request.newGroupName.chars
        request.currentGroupName.chars).Fits

/-- The acknowledgement of a renaming has the names exchanged, so it names something else. -/
theorem AcknowledgesRenaming.exchanged {s : SessionContext} {a : Arrival}
    (hReachable : Reachable s) (h : AcknowledgesRenaming s a) :
    ∃ p ∈ s.packetsSince (finalState (handle s a)),
      p.message.layout.serviceId = V11.Service.renameContactGroup.id ∧
        ¬ Acknowledges a p .renameContactGroup := by
  obtain ⟨hService, request, hParse, hNames, hFits⟩ := h
  refine ⟨s.connection_.packet (.contactGroupRenamed s.profileManager_.clientId_
    request.newGroupName.chars request.currentGroupName.chars), ?_, rfl, fun hAcknowledges =>
    hNames ((acknowledges_renameContactGroup_iff hParse s.connection_
      hReachable.clientId_clean).mp hAcknowledges)⟩
  rw [handle_eq, decision, hService]
  simp only [serviceDecision, decideOn, hParse, decideRename, if_neg hNames, announces,
    packetsSince_announced]
  refine List.mem_map_of_mem ?_
  rw [List.takeWhile_cons, if_pos (decide_eq_true hFits)]
  exact List.mem_cons_self

/-- **Acknowledgements name what was asked**, unless they acknowledge a renaming. -/
theorem acknowledged_iff {s : SessionContext} {a : Arrival} {service : V11.Service}
    (hReachable : Reachable s) (hService : V11.find a.header.serviceId = some service) :
    (∀ p ∈ s.packetsSince (finalState (handle s a)),
        p.message.layout.serviceId = service.id → Acknowledges a p service) ↔
      ¬ AcknowledgesRenaming s a := by
  by_cases hRenaming : AcknowledgesRenaming s a
  · refine iff_of_false (fun hEvery => ?_) (not_not_intro hRenaming)
    obtain ⟨p, hp, hSame, hNot⟩ := hRenaming.exchanged hReachable
    obtain rfl : service = .renameContactGroup :=
      Option.some.inj (hService.symm.trans hRenaming.1)
    exact hNot (hEvery p hp hSame)
  refine iff_of_true (fun p hp hSame => ?_) hRenaming
  rw [handle_eq, decision, hService] at hp
  cases service with
  | addContact =>
    obtain ⟨request, m, hParse, hm, -, rfl⟩ :=
      sent_decideOn (fun _ => decideAdd_answers s a.env _ _ _ _) hp
    obtain ⟨status, rfl⟩ := hm hSame
    exact acknowledges_addContact hParse s.connection_ status
  | removeContact =>
    obtain ⟨request, m, hParse, hm, -, rfl⟩ :=
      sent_decideOn (fun _ => decideRemove_answers s _ _ _) hp
    obtain ⟨status, rfl⟩ := hm hSame
    exact acknowledges_removeContact hParse s.connection_ status
  | renameContactGroup =>
    obtain ⟨request, m, hParse, hm, hFits, rfl⟩ :=
      sent_decideOn (fun _ => decideRename_answers s _ _) hp
    obtain ⟨hNames, rfl⟩ := hm hSame
    exact absurd ⟨hService, request, hParse, hNames, hFits⟩ hRenaming
  | _ => trivial

/-- A request to rename a group. -/
def renamePacket (currentName newName : Bytes) : Arrival where
  env := .zeros
  header := .new 0 11 137 0
  payload := Builder.encode [(1, ascii "a"), (65, currentName), (67, newName)]
  following := []

theorem parse_renamePacket {currentName newName : Bytes} (hCurrent : Unterminated currentName)
    (hNew : Unterminated newName) :
    ∃ request, parse Payloads.RenameContactGroup.onKeyPair
        (renamePacket currentName newName).payload {} = .ok () request ∧
      request.currentGroupName.chars = currentName ∧ request.newGroupName.chars = newName := by
  have hPairs : ∀ p ∈ [((1 : Int32), ascii "a"), (65, currentName), (67, newName)],
      Unterminated p.2 := by
    simp only [List.forall_mem_cons]
    exact ⟨Terminator.clean_singleton _ _ _, hCurrent, hNew, fun _ h => absurd h List.not_mem_nil⟩
  show ∃ request, parse (assignMember _)
    (Builder.encode [(1, ascii "a"), (65, currentName), (67, newName)]) _ = .ok () request ∧ _
  rw [parse_assignMember, tokens_encode hPairs]
  exact ⟨_, rfl, StringView.chars_ofField .., StringView.chars_ofField ..⟩

theorem acknowledged_iff_authenticated : ∃ s ∈ authenticated.2.session,
    (∀ p ∈ s.packetsSince (finalState (handle s (renamePacket (ascii "Friends") (ascii "Mates")))),
        p.message.layout.serviceId = V11.Service.renameContactGroup.id →
          Acknowledges (renamePacket (ascii "Friends") (ascii "Mates")) p .renameContactGroup) ↔
      ¬ AcknowledgesRenaming s (renamePacket (ascii "Friends") (ascii "Mates")) := by
  obtain ⟨s, hSession, -, hReachable⟩ := loggedIn_authenticated
  exact ⟨s, hSession, acknowledged_iff hReachable rfl⟩

/-- The answer to a renaming has the names exchanged. -/
theorem renaming_acknowledged_reversed :
    ¬ ∀ (s : SessionContext) (a : Arrival) (service : V11.Service), Reachable s →
      V11.find a.header.serviceId = some service →
      ∀ p ∈ s.packetsSince (finalState (handle s a)),
        p.message.layout.serviceId = service.id → Acknowledges a p service := by
  intro hEvery
  obtain ⟨s, hSession, -, hReachable⟩ := loggedIn_authenticated
  have hClient : ∀ s ∈ authenticated.2.session, s.profileManager_.clientId_ = [] := by
    decide +kernel
  obtain ⟨request, hParse, hCurrent, hNew⟩ := @parse_renamePacket (ascii "Friends")
    (ascii "Mates") (by decide) (by decide)
  obtain ⟨p, hp, hSame, hNot⟩ := AcknowledgesRenaming.exchanged
    (a := renamePacket (ascii "Friends") (ascii "Mates")) hReachable
    ⟨rfl, request, hParse, by rw [hCurrent, hNew]; decide,
      by rw [hClient s hSession, hCurrent, hNew]; decide +kernel⟩
  exact hNot (hEvery s _ _ hReachable rfl p hp hSame)

end Giblet.YMsg
