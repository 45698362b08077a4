import Giblet.YMsg.Picture
import Giblet.YMsg.Presence

/-!
# YMsg — what a packet of a session leads to

Handling a packet is a decision and its execution. The decision depends on the
session and the packet alone: the packet is refused, or the managers change and
some messages are announced, or the client's presence changes. It is carried
out managers first; the first message that is too large ends it.

* `handle_eq` — handling a packet is carrying out the decision about it.
* `announced_returned` — when that returns, everything was announced.
-/

namespace Giblet.YMsg

open Effect SessionContext

/-- What handling a packet leads to. -/
inductive Decision
  | refused (e : Fault)
  | announced (managers : Managers) (messages : List Message)
  | presence (call : PresenceCall)

namespace SessionContext

/-- The session with other managers. -/
def withManagers (s : SessionContext) (managers : Managers) : SessionContext :=
  { managers with connection_ := s.connection_ }

/-- The session with other contacts. -/
def withContacts (s : SessionContext) (contactManager : ContactManager) : SessionContext :=
  { s with contactManager_ := contactManager }

/-- The session with other blocked users. -/
def withBlocked (s : SessionContext) (blockedContactManager : BlockedContactManager) :
    SessionContext :=
  { s with blockedContactManager_ := blockedContactManager }

/-- The session after packets were handed to its connection. -/
def pushAll (s : SessionContext) (messages : List Message) : SessionContext :=
  messages.foldl push s

/-- Nothing changes, and these messages are the answer. -/
def answers (s : SessionContext) (messages : List Message) : Decision :=
  .announced s.toManagers messages

/-- New contacts are announced by an acknowledgement, the profile that shows them, and more. -/
def announces (s : SessionContext) (contactManager : ContactManager) (acknowledgement : Message)
    (more : List Message) : Decision :=
  .announced (s.withContacts contactManager).toManagers
    (acknowledgement :: (s.withContacts contactManager).clientProfile :: more)

end SessionContext

/-- Carry out a decision. -/
def Decision.carryOut : Decision → SessionAction
  | refused e => throw e
  | announced managers messages => do
    modify fun s => s.withManagers managers
    messages.forM send
  | presence call => call.run

/-! ## Decisions -/

/-- An `AddContact` request; the first check that fails decides the answer. -/
def decideAdd (s : SessionContext) (env : Env) (clientId contactId group message : Bytes) :
    Decision :=
  if group = [] then
    s.answers [.addContactRequestResult contactId clientId [] .GroupAlreadyExists]
  else if s.contactManager_.isContact contactId then
    s.answers [.addContactRequestResult contactId clientId group .DuplicateContact]
  else if s.blockedContactManager_.isBlocked contactId then
    s.answers [.addContactRequestResult contactId clientId group .GeneralFailure]
  else if contactId = ascii "grag" then
    s.answers [.addContactRequestResult contactId clientId group .ContactDoesNotExist]
  else
    match s.contactManager_.addPendingContact (env.isInChat contactId) contactId group with
    | .error e => .refused e
    | .ok contactManager =>
      s.announces contactManager (.addContactRequestResult contactId clientId group .AddPending)
        -- an id of our own gets the request it made
        (if s.profileManager_.isClientOrProfileId contactId then
          [.addContactRequest clientId contactId message env.time]
        else [])

/-- A `RemoveContact` request. -/
def decideRemove (s : SessionContext) (clientId contactId group : Bytes) : Decision :=
  if s.contactManager_.isContact contactId then
    s.announces (s.contactManager_.removeContact contactId)
      (.contactRemoved clientId contactId group .Success) []
  else s.answers [.contactRemoved clientId contactId group .GeneralFailure]

/-- A `RenameContactGroup` request. -/
def decideRename (s : SessionContext) (currentName newName : Bytes) : Decision :=
  if currentName = newName then s.answers []
  else
    s.announces (s.contactManager_.renameGroup currentName newName)
      (.contactGroupRenamed s.profileManager_.clientId_ newName currentName) []

/-- A `DenyContactAddRequest`. -/
def decideDeny (s : SessionContext) (clientId contactId message : Bytes) : Decision :=
  s.answers (if s.profileManager_.isClientOrProfileId contactId then
    [.denyContactAddRequest contactId clientId message]
  else [])

/-- An `ActivateProfile` or a `DeactivateProfile`. -/
def decideConfirm (s : SessionContext) (m : Message) (profileId : Bytes) : Decision :=
  if s.profileManager_.isClientOrProfileId profileId then s.answers [m]
  else .refused (.invalidArgument "FIXME: Profile does not exist")

/-- A `ChangeBlockedUser`. -/
def decideBlocked (s : SessionContext) (payload : Payloads.ChangeBlockedUser) : Decision :=
  if payload.mode.chars = ascii "1" then
    if s.blockedContactManager_.isBlocked payload.contactId.chars then
      .refused (.invalidArgument
        "[WIP] Adding duplicate contacts to blocked list not supported yet")
    else
      .announced (s.withBlocked (s.blockedContactManager_.add payload.contactId.chars)).toManagers
        [.contactBlocked payload.clientId.chars payload.contactId.chars]
  else if payload.mode.chars = ascii "2" then
    if s.blockedContactManager_.isBlocked payload.contactId.chars then
      .announced
        (s.withBlocked (s.blockedContactManager_.remove payload.contactId.chars)).toManagers
        [.contactUnblocked payload.clientId.chars payload.contactId.chars]
    else
      .refused (.invalidArgument
        "[WIP] Removing contacts that do not exist in blocked list not supported yet")
  else s.answers []

/-- The presence a `SetAway` asks for. -/
def awayCall (following : Bytes) (payload : Payloads.SetAway) : Except Fault PresenceCall :=
  match toEnum following payload.statusId with
  | .error e => .error e
  | .ok code =>
    if (⟨code⟩ : Availability) = .Invisible then .ok .setInvisible
    else
      match Processors.busyFlag following payload.busyState with
      | .error e => .error e
      | .ok isBusy =>
        .ok <|
          if (⟨code⟩ : Availability) = .Idle then
            .setIdle payload.customMessage.chars isBusy payload.idleUnknown.chars
          else if (⟨code⟩ : Availability) = .Custom then
            .setCustomStatus payload.customMessage.chars isBusy
          else .setAway ⟨code⟩ isBusy

/-- A `SetAway`. -/
def decideAway (following : Bytes) (payload : Payloads.SetAway) : Decision :=
  match awayCall following payload with
  | .error e => .refused e
  | .ok call => .presence call

/-- A `ServiceOperation`; `TYPING` is the only one that is served. -/
def decideOperation (s : SessionContext) (following : Bytes)
    (payload : Payloads.ServiceOperation) : Decision :=
  if payload.operation.chars = ascii "TYPING" then
    match toEnum following payload.action with
    | .error e => .refused e
    | .ok code =>
      s.answers [.typingNotification payload.contactId.chars payload.clientId.chars ⟨code⟩]
  else s.answers []

/-- The decision about a payload object, once it is filled. -/
def decideOn {π : Type} (fields : π) (onKeyPair : Int32 → StringView → Action π Unit)
    (payload : Bytes) (decision : π → Decision) : Decision :=
  match PacketParser.parse onKeyPair payload fields with
  | .error e _ => .refused e
  | .ok _ fields => decision fields

/-- The decision about a packet of a service. -/
def serviceDecision (s : SessionContext) (env : Env) (payload following : Bytes) :
    V11.Service → Decision
  | .requestProfile =>
    decideOn {} Payloads.RequestProfile.onKeyPair payload fun _ => s.answers [s.clientProfile]
  | .setAway => decideOn {} Payloads.SetAway.onKeyPair payload (decideAway following)
  | .setAvailable => decideOn () (assignMember []) payload fun _ => .presence .setAvailable
  | .activateProfile =>
    decideOn {} Payloads.ActivateProfile.onKeyPair payload fun fields =>
      decideConfirm s (.profileActivated fields.clientId.chars) fields.clientId.chars
  | .deactivateProfile =>
    decideOn {} Payloads.ActivateProfile.onKeyPair payload fun fields =>
      decideConfirm s (.profileDeactivated fields.clientId.chars) fields.clientId.chars
  | .addContact =>
    decideOn {} Payloads.AddContact.onKeyPair payload fun fields =>
      decideAdd s env fields.clientId.chars fields.contactId.chars fields.group.chars
        fields.message.chars
  | .renameContactGroup =>
    decideOn {} Payloads.RenameContactGroup.onKeyPair payload fun fields =>
      decideRename s fields.currentGroupName.chars fields.newGroupName.chars
  | .removeContact =>
    decideOn {} Payloads.RemoveContact.onKeyPair payload fun fields =>
      decideRemove s fields.clientId.chars fields.contactId.chars fields.group.chars
  | .denyContactAddRequest =>
    decideOn {} Payloads.DenyContactAddRequest.onKeyPair payload fun fields =>
      decideDeny s fields.clientId.chars fields.contactId.chars fields.message.chars
  | .changeBlockedUser =>
    decideOn {} Payloads.ChangeBlockedUser.onKeyPair payload (decideBlocked s)
  | .privateMessage =>
    decideOn { encoding := .unset env.encoding } (Payloads.PrivateMessage.onKeyPair following)
      payload fun fields => s.answers [.privateMessage fields.clientId.chars
        fields.contactId.chars fields.message.chars fields.encoding]
  | .massPrivateMessage =>
    decideOn { encoding := .unset env.encoding } (Payloads.MassPrivateMessage.onKeyPair following)
      payload fun _ => s.answers
        [.systemMessage (ascii "Sending mass private messages is not supported.") env.time]
  | .serviceOperation =>
    decideOn {} Payloads.ServiceOperation.onKeyPair payload (decideOperation s following)
  | .chatLogin =>
    decideOn {} Payloads.ChatLogin.onKeyPair payload fun fields =>
      s.answers [.chatLoginResponse fields.clientId2.chars]
  | .chatJoin =>
    decideOn {} Payloads.ChatJoin.onKeyPair payload fun fields =>
      s.answers [.chatroomJoined fields.category.chars fields.room.chars (ascii "topic")
        (ascii "voicecookie--") (ascii "othercookie--") Processors.participants]

/-- The decision about a packet. -/
def decision (s : SessionContext) (a : Arrival) : Decision :=
  match V11.find a.header.serviceId with
  | some service => serviceDecision s a.env a.payload a.following service
  -- a packet that nobody handles is parsed all the same
  | none => decideOn () (fun _ _ => pure ()) a.payload fun _ => s.answers []

/-- The reasons not to add a contact. -/
def SessionContext.Refuses (s : SessionContext) (contactId group : Bytes) : Prop :=
  group = [] ∨ s.contactManager_.isContact contactId = true ∨
    s.blockedContactManager_.isBlocked contactId = true ∨ contactId = ascii "grag"

/-- A request that is refused is answered by one packet. -/
theorem decideAdd_refused {s : SessionContext} {contactId group : Bytes}
    (h : s.Refuses contactId group) (env : Env) (clientId message : Bytes) :
    ∃ status, status ≠ .AddPending ∧ decideAdd s env clientId contactId group message =
      s.answers [.addContactRequestResult contactId clientId group status] := by
  unfold decideAdd
  -- the checks in their order; an empty group is answered as an empty group
  by_cases hGroup : group = []
  · exact ⟨.GroupAlreadyExists, by decide, by rw [if_pos hGroup, hGroup]⟩
  rw [if_neg hGroup]
  by_cases hContact : s.contactManager_.isContact contactId = true
  · exact ⟨.DuplicateContact, by decide, if_pos hContact⟩
  rw [if_neg hContact]
  by_cases hBlocked : s.blockedContactManager_.isBlocked contactId = true
  · exact ⟨.GeneralFailure, by decide, if_pos hBlocked⟩
  rw [if_neg hBlocked]
  by_cases hUnknown : contactId = ascii "grag"
  · exact ⟨.ContactDoesNotExist, by decide, if_pos hUnknown⟩
  · exact absurd h (not_or.mpr ⟨hGroup, not_or.mpr ⟨hContact, not_or.mpr ⟨hBlocked, hUnknown⟩⟩⟩)

/-- Any other request adds a contact: one that is none yet can be added. -/
theorem decideAdd_accepted {s : SessionContext} {contactId group : Bytes}
    (h : ¬ s.Refuses contactId group) (env : Env) (clientId message : Bytes) :
    ∃ contactManager,
      s.contactManager_.addPendingContact (env.isInChat contactId) contactId group =
        .ok contactManager ∧
      decideAdd s env clientId contactId group message =
        s.announces contactManager (.addContactRequestResult contactId clientId group .AddPending)
          (if s.profileManager_.isClientOrProfileId contactId then
            [.addContactRequest clientId contactId message env.time]
          else []) := by
  obtain ⟨hGroup, hRest⟩ := not_or.mp h
  obtain ⟨hContact, hRest⟩ := not_or.mp hRest
  obtain ⟨hBlocked, hUnknown⟩ := not_or.mp hRest
  obtain ⟨contactManager, hAdd⟩ := ContactManager.addPendingContact_ok
    (Bool.eq_false_iff.mpr hContact) (env.isInChat contactId) group
  refine ⟨contactManager, hAdd, ?_⟩
  rw [decideAdd, if_neg hGroup, if_neg hContact, if_neg hBlocked, if_neg hUnknown, hAdd]

/-- What is decided about a payload, where refusing is all right. -/
theorem decideOn_iff {P : Decision → Prop} (hRefused : ∀ e, P (.refused e)) {π : Type} {fields : π}
    {onKeyPair : Int32 → StringView → Action π Unit} {payload : Bytes} {decision : π → Decision} :
    P (decideOn fields onKeyPair payload decision) ↔
      ∀ request, PacketParser.parse onKeyPair payload fields = .ok () request →
        P (decision request) := by
  unfold decideOn
  cases PacketParser.parse onKeyPair payload fields with
  | error e fields => exact iff_of_true (hRefused e) fun request h => by cases h
  | ok _ fields =>
    exact ⟨fun h request hParse => (EStateM.Result.ok.inj hParse).2 ▸ h, fun h => h fields rfl⟩

/-! ## Carrying out -/

/-- Answering with messages is sending them. -/
theorem answers_carryOut (s : SessionContext) (ms : List Message) :
    (s.answers ms).carryOut s = (ms.forM send : SessionAction) s := rfl

theorem forM_singleton (m : Message) : ([m].forM send : SessionAction) = send m := bind_pure_unit

/-- Answering with one message is sending it. -/
theorem answer_carryOut (s : SessionContext) (m : Message) :
    (s.answers [m]).carryOut s = send m s := by
  rw [answers_carryOut, forM_singleton]

/-- New contacts, announced: the change, the acknowledgement, the profile, and the rest. -/
theorem announces_carryOut (s : SessionContext) (contactManager : ContactManager) (m : Message)
    (more : List Message) :
    (s.announces contactManager m more).carryOut s = (do
      setContacts contactManager
      send m
      requestClientProfile
      more.forM send : SessionAction) s := by
  -- both sides from the state in which the contacts have changed
  show (do send m; send _; more.forM send : SessionAction) (s.withContacts contactManager) =
    (do send m; requestClientProfile; more.forM send : SessionAction)
      (s.withContacts contactManager)
  generalize s.withContacts contactManager = t
  rw [bind_run, bind_run, send_run]
  by_cases hFits : m.Fits
  · rw [if_pos hFits]
    -- the profile does not depend on what was sent before it
    have hProfile : (t.push m).clientProfile = t.clientProfile := rfl
    dsimp only
    rw [bind_run, bind_run, requestClientProfile_run, send_run, hProfile]
  · rw [if_neg hFits]

/-- The same without a rest. -/
theorem announces_nil_carryOut (s : SessionContext) (contactManager : ContactManager)
    (m : Message) :
    (s.announces contactManager m []).carryOut s =
      (do setContacts contactManager; send m; requestClientProfile : SessionAction) s := by
  rw [announces_carryOut]
  have hNothing : (do requestClientProfile; ([] : List Message).forM send : SessionAction) =
      requestClientProfile := bind_pure_unit
  rw [hNothing]

theorem addContact_eq (s : SessionContext) (env : Env)
    (clientId contactId group message : Bytes) :
    MockContactManagementLink.addContact env clientId contactId group message s =
      (decideAdd s env clientId contactId group message).carryOut s := by
  unfold MockContactManagementLink.addContact decideAdd
  rw [bind_run, get_run]
  dsimp only
  -- the four refusals send one packet each
  split_ifs with hGroup hContact hBlocked hUnknown hOwn
  · rw [answer_carryOut]
    rfl
  · rw [answer_carryOut]
    rfl
  · rw [answer_carryOut]
    rfl
  · rw [answer_carryOut]
    rfl
  -- accepted, unless the manager refuses; with the echo, and without
  all_goals
    unfold ContactManagementEvents.onAddRequestPending
    rw [bind_run, bind_run, get_run]
    dsimp only
    cases s.contactManager_.addPendingContact (env.isInChat contactId) contactId group with
    | error e => rfl
    | ok contactManager => ?_
    dsimp only
    rw [announces_carryOut]
  · simp only [forM_singleton, ContactManagementEvents.onAddContactRequest, ← bind_run, bind_assoc]
  · simp only [← bind_run, bind_assoc]
    rfl

theorem removeContact_eq (s : SessionContext) (clientId contactId group : Bytes) :
    MockContactManagementLink.removeContact clientId contactId group s =
      (decideRemove s clientId contactId group).carryOut s := by
  unfold MockContactManagementLink.removeContact decideRemove
  rw [bind_run, get_run]
  dsimp only
  cases s.contactManager_.isContact contactId with
  | false =>
    simp only [Bool.not_false, if_true, Bool.false_eq_true, if_false, answer_carryOut]
    rfl
  | true =>
    simp only [Bool.not_true, Bool.false_eq_true, if_false, if_true, announces_nil_carryOut]
    unfold ContactManagementEvents.onContactRemoved
    rw [bind_run, get_run]

theorem renameGroup_eq (s : SessionContext) (currentName newName : Bytes) :
    MockContactManagementLink.renameGroup currentName newName s =
      (decideRename s currentName newName).carryOut s := by
  unfold MockContactManagementLink.renameGroup decideRename
  split_ifs
  · rfl
  · rw [announces_nil_carryOut]
    unfold ContactManagementEvents.onGroupRenamed
    rw [bind_run, get_run]

theorem denyRequest_eq (s : SessionContext) (clientId contactId message : Bytes) :
    MockContactManagementLink.denyRequest clientId contactId message s =
      (decideDeny s clientId contactId message).carryOut s := by
  unfold MockContactManagementLink.denyRequest decideDeny
  rw [bind_run, get_run]
  dsimp only
  split_ifs
  · exact (answer_carryOut ..).symm
  · rfl

theorem confirm_eq (s : SessionContext) (m : Message) (profileId : Bytes) :
    MockProfileManagementLink.confirm m profileId s =
      (decideConfirm s m profileId).carryOut s := by
  unfold MockProfileManagementLink.confirm decideConfirm
  rw [bind_run, get_run]
  dsimp only
  cases s.profileManager_.isClientOrProfileId profileId with
  | false => rfl
  | true => exact (answer_carryOut ..).symm

theorem changeBlockedUser_eq (s : SessionContext) (payload : Payloads.ChangeBlockedUser) :
    Processors.changeBlockedUser payload s = (decideBlocked s payload).carryOut s := by
  unfold Processors.changeBlockedUser decideBlocked
  -- one message goes out after the change, whichever direction
  have hChange (blockedContactManager : BlockedContactManager) (m : Message) :
      (do setBlocked blockedContactManager; send m : SessionAction) s =
        (Decision.announced (s.withBlocked blockedContactManager).toManagers [m]).carryOut s := by
    show _ = ([m].forM send : SessionAction) _
    rw [forM_singleton]
    rfl
  split_ifs with hAdd hIs hRemove hIs
  · unfold MockBlockedContactManagementLink.add
    rw [bind_run, get_run]
    dsimp only
    rw [if_pos hIs]
    rfl
  · unfold MockBlockedContactManagementLink.add
    rw [bind_run, get_run]
    dsimp only
    rw [if_neg hIs, ← hChange]
    unfold BlockedContactManagementEvents.onBlocked
    rw [bind_run, get_run]
  · unfold MockBlockedContactManagementLink.remove
    rw [bind_run, get_run]
    dsimp only
    rw [← hChange]
    simp only [hIs, Bool.not_true, Bool.false_eq_true, if_false]
    unfold BlockedContactManagementEvents.onUnblocked
    rw [bind_run, get_run]
  · unfold MockBlockedContactManagementLink.remove
    rw [bind_run, get_run]
    dsimp only
    rw [Bool.eq_false_iff.mpr hIs]
    rfl
  · rfl

theorem setAway_eq (s : SessionContext) (following : Bytes) (payload : Payloads.SetAway) :
    Processors.setAway following payload s = (decideAway following payload).carryOut s := by
  unfold Processors.setAway decideAway awayCall
  cases toEnum following payload.statusId with
  | error e => rfl
  | ok code =>
    dsimp only
    split_ifs
    · rfl
    all_goals
      cases Processors.busyFlag following payload.busyState with
      | error e => rfl
      | ok isBusy => rfl

theorem serviceOperation_eq (s : SessionContext) (following : Bytes)
    (payload : Payloads.ServiceOperation) :
    Processors.serviceOperation following payload s =
      (decideOperation s following payload).carryOut s := by
  unfold Processors.serviceOperation decideOperation
  split_ifs
  · cases toEnum following payload.action with
    | error e => rfl
    | ok code => exact (answer_carryOut ..).symm
  · rfl

/-- The processor of a service decides once the payload object is filled. -/
theorem processPacket_eq {π : Type} {fields : π} {onKeyPair : Int32 → StringView → Action π Unit}
    {process : π → SessionAction} {decision : π → Decision} {s : SessionContext} (payload : Bytes)
    (h : ∀ fields, process fields s = (decision fields).carryOut s) :
    processPacket fields onKeyPair process payload s =
      (decideOn fields onKeyPair payload decision).carryOut s := by
  unfold processPacket decideOn
  cases PacketParser.parse onKeyPair payload fields with
  -- a payload that cannot be read is refused
  | error e fields => rfl
  | ok _ fields => exact h fields

theorem parse_eq (s : SessionContext) (env : Env) (service : V11.Service)
    (payload following : Bytes) :
    V11.parse env service payload following s =
      (serviceDecision s env payload following service).carryOut s := by
  cases service with
  | requestProfile =>
    refine processPacket_eq payload fun _ => ?_
    rw [answer_carryOut]
    exact requestClientProfile_run s |>.trans (send_run s.clientProfile s).symm
  | setAway => exact processPacket_eq payload fun fields => setAway_eq s following fields
  | setAvailable => exact processPacket_eq payload fun _ => rfl
  | activateProfile => exact processPacket_eq payload fun _ => confirm_eq s _ _
  | deactivateProfile => exact processPacket_eq payload fun _ => confirm_eq s _ _
  | addContact => exact processPacket_eq payload fun _ => addContact_eq s env _ _ _ _
  | renameContactGroup => exact processPacket_eq payload fun _ => renameGroup_eq s _ _
  | removeContact => exact processPacket_eq payload fun _ => removeContact_eq s _ _ _
  | denyContactAddRequest => exact processPacket_eq payload fun _ => denyRequest_eq s _ _ _
  | changeBlockedUser => exact processPacket_eq payload fun fields => changeBlockedUser_eq s fields
  | serviceOperation =>
    exact processPacket_eq payload fun fields => serviceOperation_eq s following fields
  | _ => exact processPacket_eq payload fun _ => (answer_carryOut ..).symm

/-- **Handling a packet** is carrying out the decision about it. -/
theorem handle_eq (s : SessionContext) (a : Arrival) :
    handle s a = (decision s a).carryOut s := by
  unfold handle V11.dispatchPacket decision
  cases V11.find a.header.serviceId with
  | some service => exact parse_eq s a.env service a.payload a.following
  | none =>
    show dispatch none a.payload a.following s = _
    unfold dispatch decideOn
    dsimp only
    cases PacketParser.parse (fun _ _ => pure ()) a.payload () with
    | error e fields => rfl
    | ok _ fields => rfl

/-! ## Announcing -/

@[simp] theorem toManagers_push (s : SessionContext) (m : Message) :
    (s.push m).toManagers = s.toManagers := rfl

/-- Sending does not change the managers. -/
@[simp] theorem toManagers_pushAll (s : SessionContext) (ms : List Message) :
    (s.pushAll ms).toManagers = s.toManagers := by
  unfold pushAll
  induction ms generalizing s with
  | nil => rfl
  | cons m rest ih => exact (ih (s.push m)).trans (toManagers_push s m)

/-- What was sent is logged behind what had been. -/
theorem sent_pushAll (s : SessionContext) (ms : List Message) :
    (s.pushAll ms).connection_.sent = s.connection_.sent ++ ms.map s.connection_.packet := by
  unfold pushAll
  induction ms generalizing s with
  | nil => exact (List.append_nil _).symm
  | cons m rest ih =>
    rw [List.foldl_cons, ih, List.map_cons, List.append_cons]
    rfl

namespace SessionContext

/-- The packets that were sent since an earlier state. -/
def packetsSince (s s' : SessionContext) : List Sent :=
  s'.connection_.sent.drop s.connection_.sent.length

/-- What they were built from. -/
def sentSince (s s' : SessionContext) : List Message := (s.packetsSince s').map Sent.message

theorem packetsSince_pushAll (s : SessionContext) (managers : Managers) (ms : List Message) :
    s.packetsSince ((s.withManagers managers).pushAll ms) = ms.map s.connection_.packet := by
  unfold packetsSince
  rw [sent_pushAll]
  exact List.drop_left

@[simp] theorem sentSince_pushAll (s : SessionContext) (managers : Managers) (ms : List Message) :
    s.sentSince ((s.withManagers managers).pushAll ms) = ms := by
  rw [sentSince, packetsSince_pushAll, List.map_map]
  exact List.map_id' _

end SessionContext

theorem connection_pushAll (s : SessionContext) (ms : List Message) :
    (s.pushAll ms).connection_ = ms.foldl ClientConnection.push s.connection_ := by
  unfold pushAll
  induction ms generalizing s with
  | nil => rfl
  | cons m rest ih => exact ih (s.push m)

/-- **Packets sent one after the other**: those before the first one that is too large. -/
theorem forM_send_run (ms : List Message) (s : SessionContext) :
    (ms.forM send : SessionAction) s =
      if ∀ m ∈ ms, m.Fits then .ok () (s.pushAll ms)
      else .error Builder.tooLarge (s.pushAll (ms.takeWhile fun m => decide m.Fits)) := by
  -- on the packets: the first that is too large ends it
  induction ms generalizing s with
  | nil => exact (if_pos fun _ h => absurd h List.not_mem_nil).symm
  | cons m rest ih =>
    show (do send m; rest.forM send : SessionAction) s = _
    rw [bind_run, send_run]
    by_cases hFits : m.Fits
    · rw [if_pos hFits]
      dsimp only
      have hMore : List.takeWhile (fun m => decide (Message.Fits m)) (m :: rest) =
          m :: rest.takeWhile fun m => decide m.Fits :=
        List.takeWhile_cons_of_pos (decide_eq_true hFits)
      rw [ih, hMore]
      simp only [List.forall_mem_cons, hFits, true_and]
      rfl
    · have hNone : List.takeWhile (fun m => decide (Message.Fits m)) (m :: rest) = [] :=
        List.takeWhile_cons_of_neg (by simpa using hFits)
      rw [if_neg hFits, if_neg fun h => hFits (h m List.mem_cons_self), hNone]
      rfl

/-- The session after an announcement, however it ends. -/
theorem finalState_announced (s : SessionContext) (managers : Managers) (ms : List Message) :
    finalState ((Decision.announced managers ms).carryOut s) =
      (s.withManagers managers).pushAll (ms.takeWhile fun m => decide m.Fits) := by
  show finalState ((ms.forM send : SessionAction) (s.withManagers managers)) = _
  rw [forM_send_run]
  split_ifs with hFits
  · rw [finalState_ok, List.takeWhile_eq_self_iff.mpr]
    exact fun m hm => decide_eq_true (hFits m hm)
  · rfl

/-- **When a packet was handled without an exception**, everything it led to was announced. -/
theorem announced_returned {s s' : SessionContext} {managers : Managers} {ms : List Message}
    (h : (Decision.announced managers ms).carryOut s = .ok () s') :
    (∀ m ∈ ms, m.Fits) ∧ s' = (s.withManagers managers).pushAll ms := by
  change (ms.forM send : SessionAction) (s.withManagers managers) = .ok () s' at h
  rw [forM_send_run] at h
  split_ifs at h with hFits
  cases h
  exact ⟨hFits, rfl⟩

/-! ## Beginning -/

/-- A packet that is sent under a condition. -/
def extra (condition : Bool) (m : Message) : List Message := if condition then [m] else []

/-- The packets the mock server adds for a client id. -/
def extras (clientId : Bytes) : List Message :=
  extra (clientId.contains '*'.toNat.toUInt8) (yahooAlert clientId) ++
    extra (clientId.contains '-'.toNat.toUInt8) (.newMailCount 5) ++
    extra (clientId.contains '_'.toNat.toUInt8)
      (.newMailNotification (ascii "me@yahoo.com") (ascii "Some Guy") (ascii "Some subject")) ++
    extra (clientId.contains '.'.toNat.toUInt8)
      (.offlineMessage clientId (ascii "Ed_") (ascii "Hello!") .None)

theorem sendIf_eq (condition : Bool) (m : Message) :
    sendIf condition m = ((extra condition m).forM send : SessionAction) := by
  unfold sendIf extra
  split
  · exact (forM_singleton m).symm
  · rfl

theorem mockExtras_eq (s : SessionContext) :
    mockExtras s = ((extras s.profileManager_.clientId_).forM send : SessionAction) s := by
  unfold mockExtras extras
  rw [bind_run, get_run]
  simp only [sendIf_eq, List.forM_eq_forM, List.forM_append, bind_assoc]

theorem beginSession_eq (s : SessionContext) :
    beginSession s =
      ([s.clientProfile, s.contactStatus, .pingConfiguration].forM send : SessionAction) s := by
  show _ = (do send s.clientProfile; send s.contactStatus; [Message.pingConfiguration].forM send :
    SessionAction) s
  unfold beginSession
  rw [forM_singleton, bind_run, requestClientProfile_run, bind_run, send_run]
  by_cases hFits : s.clientProfile.Fits
  -- the contacts are still the same when they are listed
  · rw [if_pos hFits]
    dsimp only
    have hStatus : (s.push s.clientProfile).contactStatus = s.contactStatus := rfl
    rw [bind_run, get_run]
    dsimp only
    rw [hStatus]
  · rw [if_neg hFits]

/-- **A session begins** with its profile, its contacts and a ping configuration. -/
theorem Begins.pushAll {s₀ s₁ : SessionContext} (h : Begins s₀ s₁) :
    ∃ more, (∀ m ∈ more, m ∈ extras s₀.profileManager_.clientId_) ∧
      s₁ = s₀.pushAll (s₀.clientProfile :: s₀.contactStatus :: .pingConfiguration :: more) := by
  have hSent : ∀ {ms : List Message} {s s' : SessionContext},
      (ms.forM send : SessionAction) s = .ok () s' → s' = s.pushAll ms := by
    intro ms s s' hRun
    rw [forM_send_run] at hRun
    split_ifs at hRun
    cases hRun
    rfl
  cases h with
  | inl hBase =>
    rw [beginSession_eq] at hBase
    exact ⟨[], fun _ h => absurd h List.not_mem_nil, hSent hBase⟩
  | inr hMock =>
    obtain ⟨_, t, hBegin, hExtras⟩ := bind_eq_ok hMock
    rw [beginSession_eq] at hBegin
    rw [mockExtras_eq] at hExtras
    obtain rfl := hSent hBegin
    refine ⟨_, fun m hm => hm, ?_⟩
    rw [hSent hExtras]
    rfl

end Giblet.YMsg
