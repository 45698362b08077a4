import Giblet.YMsg.Session

/-!
# YMsg — payloads and processors

For each service of the V11 dispatch map, the payload object the parser fills
and the processor that acts on it. Most `OnKeyPair`s are a table of keys and
the members they are stored in (`assignMember`); the two message payloads
convert their encoding on the spot. `V11.parse` is the processor of a
service, `processPacket` what all of them do.
-/

namespace Giblet.YMsg

open SessionContext

variable {π : Type}

/-- A `switch` over keys that stores the value in a member; other keys are ignored. -/
def assignMember (members : List (Int32 × (StringView → π → π))) (key : Int32)
    (value : StringView) : Action π Unit :=
  modify fun fields =>
    match members.lookup key with
    | none => fields
    | some member => member value fields

/-- `to_enum<Type_>(value)`: `validate_enum_conversion` lets every value pass. -/
def toEnum (following : Bytes) (value : StringView) : Except Fault Int32 := atoi following value

/-- The `switch` of the two message payloads: key 97 is converted, the others are stored. -/
def assignEncoding (setEncoding : TextEncoding → π → π)
    (members : List (Int32 × (StringView → π → π))) (following : Bytes) (key : Int32)
    (value : StringView) : Action π Unit :=
  -- this one is not kept for later: a bad number throws in the middle of the parse
  if key = 97 then
    match toEnum following value with
    | .error e => throw e
    | .ok code => modify (setEncoding ⟨code⟩)
  else
    assignMember members key value

/-- `PacketProcessor::Parse`: fill a payload object, then let the processor act. -/
def processPacket (fields : π) (onKeyPair : Int32 → StringView → Action π Unit)
    (process : π → SessionAction) (payload : Bytes) : SessionAction := fun s =>
  match PacketParser.parse onKeyPair payload fields with
  -- what was parsed before the error is lost: the payload object is a local
  | .error e _ => .error e s
  | .ok _ fields => process fields s

/-! ## Payloads -/

namespace Payloads

/-- `Payloads::ActivateProfile`; also the shape of `DeactivateProfile`. -/
structure ActivateProfile where
  clientId : StringView := .null

def ActivateProfile.onKeyPair : Int32 → StringView → Action ActivateProfile Unit :=
  assignMember [(3, fun value f => { f with clientId := value })]

/-- `Payloads::RequestProfile`. -/
structure RequestProfile where
  clientId : StringView := .null

def RequestProfile.onKeyPair : Int32 → StringView → Action RequestProfile Unit :=
  assignMember [(1, fun value f => { f with clientId := value })]

/-- `Payloads::AddContact`. -/
structure AddContact where
  clientId : StringView := .null
  contactId : StringView := .null
  group : StringView := .null
  message : StringView := .null

def AddContact.onKeyPair : Int32 → StringView → Action AddContact Unit :=
  assignMember
    [(1, fun value f => { f with clientId := value }),
      (7, fun value f => { f with contactId := value }),
      (65, fun value f => { f with group := value }),
      (14, fun value f => { f with message := value })]

/-- `Payloads::RemoveContact`. -/
structure RemoveContact where
  clientId : StringView := .null
  contactId : StringView := .null
  group : StringView := .null

def RemoveContact.onKeyPair : Int32 → StringView → Action RemoveContact Unit :=
  assignMember
    [(1, fun value f => { f with clientId := value }),
      (7, fun value f => { f with contactId := value }),
      (65, fun value f => { f with group := value })]

/-- `Payloads::RenameContactGroup`. -/
structure RenameContactGroup where
  clientId : StringView := .null
  currentGroupName : StringView := .null
  newGroupName : StringView := .null

def RenameContactGroup.onKeyPair : Int32 → StringView → Action RenameContactGroup Unit :=
  assignMember
    [(1, fun value f => { f with clientId := value }),
      (65, fun value f => { f with currentGroupName := value }),
      (67, fun value f => { f with newGroupName := value })]

/-- `Payloads::DenyContactAddRequest`. -/
structure DenyContactAddRequest where
  clientId : StringView := .null
  contactId : StringView := .null
  message : StringView := .null

def DenyContactAddRequest.onKeyPair :
    Int32 → StringView → Action DenyContactAddRequest Unit :=
  assignMember
    [(1, fun value f => { f with clientId := value }),
      (7, fun value f => { f with contactId := value }),
      (14, fun value f => { f with message := value })]

/-- `Payloads::ChangeBlockedUser`. -/
structure ChangeBlockedUser where
  clientId : StringView := .null
  contactId : StringView := .null
  mode : StringView := .null

def ChangeBlockedUser.onKeyPair : Int32 → StringView → Action ChangeBlockedUser Unit :=
  assignMember
    [(1, fun value f => { f with clientId := value }),
      (7, fun value f => { f with contactId := value }),
      (13, fun value f => { f with mode := value })]

/-- `Payloads::SetAway`. -/
structure SetAway where
  statusId : StringView := .null
  customMessage : StringView := .null
  idleUnknown : StringView := .null
  busyState : StringView := .null

def SetAway.onKeyPair : Int32 → StringView → Action SetAway Unit :=
  assignMember
    [(10, fun value f => { f with statusId := value }),
      (19, fun value f => { f with customMessage := value }),
      (47, fun value f => { f with busyState := value }),
      (138, fun value f => { f with idleUnknown := value })]

/-- `Payloads::ServiceOperation`. -/
structure ServiceOperation where
  operation : StringView := .null
  clientId : StringView := .null
  status : StringView := .null
  action : StringView := .null
  contactId : StringView := .null

def ServiceOperation.onKeyPair : Int32 → StringView → Action ServiceOperation Unit :=
  assignMember
    [(49, fun value f => { f with operation := value }),
      (1, fun value f => { f with clientId := value }),
      (14, fun value f => { f with status := value }),
      (13, fun value f => { f with action := value }),
      (5, fun value f => { f with contactId := value })]

/-- `Payloads::ChatLogin`. -/
structure ChatLogin where
  clientId1 : StringView := .null
  clientId2 : StringView := .null

def ChatLogin.onKeyPair : Int32 → StringView → Action ChatLogin Unit :=
  assignMember
    [(109, fun value f => { f with clientId1 := value }),
      (1, fun value f => { f with clientId2 := value })]

/-- `Payloads::ChatJoin`. -/
structure ChatJoin where
  clientId : StringView := .null
  category : StringView := .null
  room : StringView := .null

def ChatJoin.onKeyPair : Int32 → StringView → Action ChatJoin Unit :=
  assignMember
    [(1, fun value f => { f with clientId := value }),
      (129, fun value f => { f with category := value }),
      (104, fun value f => { f with room := value })]

/-- `Payloads::PrivateMessage`; `encoding` has no initialiser. -/
structure PrivateMessage where
  clientId : StringView := .null
  contactId : StringView := .null
  message : StringView := .null
  encoding : Cell TextEncoding

def PrivateMessage.onKeyPair : Bytes → Int32 → StringView → Action PrivateMessage Unit :=
  assignEncoding (fun encoding f => { f with encoding := .of encoding })
    [(1, fun value f => { f with clientId := value }),
      (5, fun value f => { f with contactId := value }),
      (14, fun value f => { f with message := value })]

/-- `Payloads::MassPrivateMessage`; `encoding` has no initialiser. -/
structure MassPrivateMessage where
  clientId : StringView := .null
  contactIds : List StringView := []
  message : StringView := .null
  encoding : Cell TextEncoding

def MassPrivateMessage.onKeyPair : Bytes → Int32 → StringView → Action MassPrivateMessage Unit :=
  assignEncoding (fun encoding f => { f with encoding := .of encoding })
    [(1, fun value f => { f with clientId := value }),
      (5, fun value f => { f with contactIds := f.contactIds ++ [value] }),
      (14, fun value f => { f with message := value })]

end Payloads

/-! ## Processors -/

namespace Processors

/-- `Processors::RequestProfile::Process`. -/
def requestProfile (_ : Payloads.RequestProfile) : SessionAction := requestClientProfile

/-- `Processors::ActivateProfile::Process`. -/
def activateProfile (payload : Payloads.ActivateProfile) : SessionAction :=
  MockProfileManagementLink.activate payload.clientId.chars

/-- `Processors::DeactivateProfile::Process`. -/
def deactivateProfile (payload : Payloads.ActivateProfile) : SessionAction :=
  MockProfileManagementLink.deactivate payload.clientId.chars

/-- `Processors::AddContact::Process`. -/
def addContact (env : Env) (payload : Payloads.AddContact) : SessionAction :=
  MockContactManagementLink.addContact env payload.clientId.chars payload.contactId.chars
    payload.group.chars payload.message.chars

/-- `Processors::RemoveContact::Process`. -/
def removeContact (payload : Payloads.RemoveContact) : SessionAction :=
  MockContactManagementLink.removeContact payload.clientId.chars payload.contactId.chars
    payload.group.chars

/-- `Processors::RenameContactGroup::Process`. -/
def renameContactGroup (payload : Payloads.RenameContactGroup) : SessionAction :=
  MockContactManagementLink.renameGroup payload.currentGroupName.chars payload.newGroupName.chars

/-- `Processors::DenyContactAddRequest::Process`. -/
def denyContactAddRequest (payload : Payloads.DenyContactAddRequest) : SessionAction :=
  MockContactManagementLink.denyRequest payload.clientId.chars payload.contactId.chars
    payload.message.chars

/-- `Processors::ChangeBlockedUser::Process`. -/
def changeBlockedUser (payload : Payloads.ChangeBlockedUser) : SessionAction :=
  if payload.mode.chars = ascii "1" then
    MockBlockedContactManagementLink.add payload.clientId.chars payload.contactId.chars
  else if payload.mode.chars = ascii "2" then
    MockBlockedContactManagementLink.remove payload.clientId.chars payload.contactId.chars
  else
    -- any other mode, a missing one too, changes nothing
    pure ()

/-- `Processors::SetAvailable::Process`. -/
def setAvailable (_ : Unit) : SessionAction := MockPresenceManagementLink.setAvailable

/-- Whether a busy state is set: an empty one is not, another one is converted by `stol`. -/
def busyFlag (following : Bytes) (busyState : StringView) : Except Fault Bool :=
  if busyState.chars = [] then .ok false
  else
    match stol following busyState with
    | .error e => .error e
    | .ok n => .ok (n ≠ 0)

/-- `Processors::SetAway::Process`. -/
def setAway (following : Bytes) (payload : Payloads.SetAway) : SessionAction :=
  match toEnum following payload.statusId with
  | .error e => throw e
  | .ok code =>
    let onlineStatus : Availability := ⟨code⟩
    -- an invisible client's busy state is not looked at
    if onlineStatus = .Invisible then
      MockPresenceManagementLink.setInvisible
    else
      match busyFlag following payload.busyState with
      | .error e => throw e
      | .ok isBusy =>
        if onlineStatus = .Idle then
          MockPresenceManagementLink.setIdle payload.customMessage.chars isBusy
            payload.idleUnknown.chars
        else if onlineStatus = .Custom then
          MockPresenceManagementLink.setCustomStatus payload.customMessage.chars isBusy
        else
          MockPresenceManagementLink.setAway onlineStatus isBusy

/-- `Processors::PrivateMessage::Process`. -/
def privateMessage (payload : Payloads.PrivateMessage) : SessionAction :=
  send (.privateMessage payload.clientId.chars payload.contactId.chars payload.message.chars
    payload.encoding)

/-- `Processors::MassPrivateMessage::Process`. -/
def massPrivateMessage (env : Env) (_ : Payloads.MassPrivateMessage) : SessionAction :=
  send (.systemMessage (ascii "Sending mass private messages is not supported.") env.time)

/-- `Processors::ServiceOperation::Process`. -/
def serviceOperation (following : Bytes) (payload : Payloads.ServiceOperation) : SessionAction :=
  if payload.operation.chars = ascii "TYPING" then
    match toEnum following payload.action with
    | .error e => throw e
    | .ok code =>
      send (.typingNotification payload.contactId.chars payload.clientId.chars ⟨code⟩)
  else
    -- `TYPING` is the only operation that is served
    pure ()

/-- `Processors::ChatLogin::Process`. -/
def chatLogin (payload : Payloads.ChatLogin) : SessionAction :=
  send (.chatLoginResponse payload.clientId2.chars)

/-- The people every chat room has. -/
def participants : List Bytes :=
  ["donna", "dave", "jay", "martin", "joe", "barry", "greg"].map ascii

/-- `Processors::ChatJoin::Process`. -/
def chatJoin (payload : Payloads.ChatJoin) : SessionAction :=
  send (.chatroomJoined payload.category.chars payload.room.chars (ascii "topic")
    (ascii "voicecookie--") (ascii "othercookie--") participants)

end Processors

/-! ## The V11 dispatch map -/

namespace V11

/-- The services of `DispatchMaps::V11`. -/
inductive Service
  | requestProfile
  | setAway
  | setAvailable
  | activateProfile
  | deactivateProfile
  | addContact
  | renameContactGroup
  | removeContact
  | denyContactAddRequest
  | changeBlockedUser
  | privateMessage
  | massPrivateMessage
  | serviceOperation
  | chatLogin
  | chatJoin
  deriving DecidableEq, Repr

/-- The `ServiceId` of a service's payload. -/
def Service.id : Service → UInt16
  | requestProfile => 85
  | setAway => 3
  | setAvailable => 4
  | activateProfile => 7
  | deactivateProfile => 8
  | addContact => 131
  | renameContactGroup => 137
  | removeContact => 132
  | denyContactAddRequest => 134
  | changeBlockedUser => 133
  | privateMessage => 6
  | massPrivateMessage => 23
  | serviceOperation => 75
  | chatLogin => 150
  | chatJoin => 152

/-- The services, in the order in which `V11::Create` adds their processors. -/
def services : List Service :=
  [.requestProfile, .setAway, .setAvailable, .activateProfile, .deactivateProfile, .addContact,
    .renameContactGroup, .removeContact, .denyContactAddRequest, .changeBlockedUser,
    .privateMessage, .massPrivateMessage, .serviceOperation, .chatLogin, .chatJoin]

/-- `processors_.find(serviceId)`. -/
def find (serviceId : UInt16) : Option Service := services.find? fun service =>
  service.id = serviceId

/-- The processor that `V11::Create` binds to a service: `PacketProcessor::Parse`. -/
def parse (env : Env) : Service → Bytes → Bytes → SessionAction
  | .requestProfile, payload, _ =>
    processPacket {} Payloads.RequestProfile.onKeyPair Processors.requestProfile payload
  | .setAway, payload, following =>
    processPacket {} Payloads.SetAway.onKeyPair (Processors.setAway following) payload
  | .setAvailable, payload, _ =>
    processPacket () (assignMember []) Processors.setAvailable payload
  | .activateProfile, payload, _ =>
    processPacket {} Payloads.ActivateProfile.onKeyPair Processors.activateProfile payload
  | .deactivateProfile, payload, _ =>
    processPacket {} Payloads.ActivateProfile.onKeyPair Processors.deactivateProfile payload
  | .addContact, payload, _ =>
    processPacket {} Payloads.AddContact.onKeyPair (Processors.addContact env) payload
  | .renameContactGroup, payload, _ =>
    processPacket {} Payloads.RenameContactGroup.onKeyPair Processors.renameContactGroup payload
  | .removeContact, payload, _ =>
    processPacket {} Payloads.RemoveContact.onKeyPair Processors.removeContact payload
  | .denyContactAddRequest, payload, _ =>
    processPacket {} Payloads.DenyContactAddRequest.onKeyPair Processors.denyContactAddRequest
      payload
  | .changeBlockedUser, payload, _ =>
    processPacket {} Payloads.ChangeBlockedUser.onKeyPair Processors.changeBlockedUser payload
  | .privateMessage, payload, following =>
    processPacket { encoding := .unset env.encoding } (Payloads.PrivateMessage.onKeyPair following)
      Processors.privateMessage payload
  | .massPrivateMessage, payload, following =>
    processPacket { encoding := .unset env.encoding }
      (Payloads.MassPrivateMessage.onKeyPair following) (Processors.massPrivateMessage env) payload
  | .serviceOperation, payload, following =>
    processPacket {} Payloads.ServiceOperation.onKeyPair (Processors.serviceOperation following)
      payload
  | .chatLogin, payload, _ =>
    processPacket {} Payloads.ChatLogin.onKeyPair Processors.chatLogin payload
  | .chatJoin, payload, _ =>
    processPacket {} Payloads.ChatJoin.onKeyPair Processors.chatJoin payload

end V11

/-! ## The dispatcher -/

/-- `PacketDispatcher::Dispatch` for a map that finds a processor, or none. A
packet nobody handles is parsed with the base payload, which takes nothing. -/
def dispatch {σ : Type} (processor : Option (Bytes → Bytes → Action σ Unit))
    (payload following : Bytes) : Action σ Unit :=
  match processor with
  | some process => process payload following
  -- the base payload stores nothing, but an empty key still throws
  | none => fun s =>
    match PacketParser.parse (fun _ _ => pure ()) payload () with
    | .error e _ => .error e s
    | .ok _ _ => .ok () s

/-- `Dispatch` in a session: the V11 map is in place. No V11 processor looks at
more of the header than its service. -/
def V11.dispatchPacket (env : Env) (header : Header) (payload following : Bytes) :
    SessionAction :=
  dispatch ((V11.find header.serviceId).map (V11.parse env)) payload following

/-- The tokens of a payload, stored in a payload object. -/
def storeTokens (members : List (Int32 × (StringView → π → π))) (fields : π)
    (ts : List PacketParser.Token) : π :=
  ts.foldl (fun f t => match members.lookup t.key with | none => f | some m => m t.value f) fields

/-- A payload object with a table of members holds what the tokens store in it. -/
theorem parse_assignMember (members : List (Int32 × (StringView → π → π))) (fields : π)
    (payload : Bytes) :
    PacketParser.parse (assignMember members) payload fields =
      match (PacketParser.tokens payload).2 with
      | none => .ok () (storeTokens members fields (PacketParser.tokens payload).1)
      | some e => .error e (storeTokens members fields (PacketParser.tokens payload).1) := by
  rw [PacketParser.parse_eq_tokens]
  generalize (PacketParser.tokens payload).1 = ts, (PacketParser.tokens payload).2 = e
  -- on the tokens: each stores what `assignMember` stores
  induction ts generalizing fields with
  | nil => cases e <;> rfl
  | cons t ts ih =>
    simp only [PacketParser.deliver, Effect.bind_run, assignMember, Effect.modify_run, storeTokens,
      List.foldl_cons]
    exact ih _

/-- A payload whose `OnKeyPair` only throws is parsed, or the parse throws. -/
theorem parse_thrown {onKeyPair : Int32 → StringView → Action π Unit}
    (h : ∀ key value, Effect.Faults Fault.Thrown (onKeyPair key value)) (payload : Bytes) :
    Effect.Faults Fault.Thrown (PacketParser.parse onKeyPair payload) := by
  rw [PacketParser.parse_eq_tokens]
  -- the parser itself only ever throws its empty-key error
  have hEnd : ∀ e ∈ (PacketParser.tokens payload).2, e.Thrown := by
    intro e he
    rw [PacketParser.tokens_fault he]
    exact trivial
  generalize (PacketParser.tokens payload).1 = ts, (PacketParser.tokens payload).2 = e at hEnd
  induction ts with
  | nil =>
    cases e with
    | none => exact .pure _
    | some e => exact .throw (hEnd e rfl)
  | cons t ts ih => exact .bind (h t.key t.value) fun _ => ih

theorem assignMember_thrown (members : List (Int32 × (StringView → π → π))) (key : Int32)
    (value : StringView) : Effect.Faults Fault.Thrown (assignMember members key value) :=
  .modify _

end Giblet.YMsg
