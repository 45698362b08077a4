import Giblet.YMsg.Builder
import Giblet.YMsg.Managers

/-!
# YMsg — outgoing packets

One constructor of `Message` for each builder class the server uses, with
the arguments of its `Build`; `Message.layout` is the service, the attribute
and the sequence of `Append`s. Values are cells: `Append` copies whatever is
in a variable, assigned or not.

`ClientConnection.transmit` is `Build` followed by `Send`. The connection
keeps a log of what it was handed, with the message each packet was built
from.
-/

namespace Giblet.YMsg

/-- The packets the server sends. -/
inductive Message
  | protocolAck
  | challengeResponse (clientId : Bytes)
  | clientProfile (clientId : Bytes) (profiles : ProfileManager) (contacts : List ContactInfo)
      (blocked : BlockedContactManager)
  | setContactStatus (clientId : Bytes) (contacts : List ContactInfo)
  | setSingleContactStatus (clientId : Bytes) (contact : ContactInfo)
  | updateContactStatus (contact : ContactInfo)
  | contactOffline (contactId : Bytes)
  | pingConfiguration
  | yahooAlert (clientId publisher url articleMeta title content : Bytes)
  | newMailCount (count : Nat)
  | newMailNotification (address name subject : Bytes)
  | offlineMessage (clientId contactId message : Bytes) (encoding : TextEncoding)
  | addContactRequest (clientId contactId message : Bytes) (timestamp : Int)
  | addContactRequestResult (clientId contactId contactGroup : Bytes)
      (status : AddContactRequestResultStatus)
  | contactRemoved (clientId contactId group : Bytes) (status : RemoveContactStatus)
  | contactGroupRenamed (clientId oldGroupName newGroupName : Bytes)
  | denyContactAddRequest (clientId contactId message : Bytes)
  | contactBlockedOrUnblocked (clientId contactId : Bytes) (status : ContactBlockedStatus)
  | profileActivated (profileId : Bytes)
  | profileDeactivated (profileId : Bytes)
  | systemMessage (message : Bytes) (timestamp : Int)
  | privateMessage (clientId contactId message : Bytes) (encoding : Cell TextEncoding)
  | typingNotification (clientId contactId : Bytes) (status : TypingStatus)
  | chatLoginResponse (clientId : Bytes)
  | chatroomJoined (category roomName topic voiceCookie otherCookie : Bytes)
      (participants : List Bytes)
  deriving DecidableEq

/-- A field of an outgoing packet: its key, and the variable its value is copied from. -/
abbrev Field := Int32 × Cell Bytes

/-- `Append(key, string)`. -/
def text (key : Int32) (value : Bytes) : Field := (key, .of value)

/-- `Append(key, integral)` and `Append(key, enumeration)`: `to_string` of the number. -/
def number (key : Int32) (value : Int) : Field := (key, .of (Numeral.ofInt value))

/-- `Append(key, bool)`: an integral, printed as `0` or `1`. -/
def flag (key : Int32) (value : Cell Bool) : Field :=
  (key, value.map fun b => Numeral.ofInt (if b then 1 else 0))

@[simp] theorem assigned_text (key : Int32) (value : Bytes) :
    (text key value).2.assigned = true := rfl

@[simp] theorem assigned_number (key : Int32) (value : Int) :
    (number key value).2.assigned = true := rfl

@[simp] theorem assigned_flag (key : Int32) (value : Cell Bool) :
    (flag key value).2.assigned = value.assigned := rfl

/-- What a builder's `Build` passes to `Initialize` and, in order, to `Append`. -/
structure Layout where
  serviceId : UInt16
  attributeId : UInt32
  fields : List Field
  deriving DecidableEq

namespace Builders

/-- Pieces joined by `separator`: each is followed by one, and the last one is popped. -/
def joined (separator : Bytes) (pieces : List Bytes) : Bytes :=
  -- without a piece there is no separator to pop
  if pieces = [] then [] else (pieces.flatMap fun p => p ++ separator).dropLast

/-- `contactList[group].push_back(id)`. -/
def pushContact (contactList : OrderedMap Bytes (List Bytes)) (contact : ContactInfo) :
    OrderedMap Bytes (List Bytes) :=
  match contactList.emplace contact.group [contact.id] with
  -- the group is there already
  | none => contactList.adjust contact.group fun ids => ids ++ [contact.id]
  | some withGroup => withGroup

/-- The contact list of `ClientProfile::Build`, grouped. -/
def contactList (contacts : List ContactInfo) : OrderedMap Bytes (List Bytes) :=
  contacts.foldl pushContact .empty

/-- One line of the contact list: `group:id,id` and a line feed. -/
def contactLine (group : Bytes × List Bytes) : Bytes :=
  group.1 ++ ascii ":" ++ joined (ascii ",") group.2 ++ ascii "\n"

/-- `ClientProfile::Build`. -/
def clientProfile (clientId : Bytes) (profiles : ProfileManager) (contacts : List ContactInfo)
    (blocked : BlockedContactManager) : Layout where
  serviceId := 85
  attributeId := 0
  fields :=
    [text 87 ((contactList contacts).entries.flatMap contactLine),
      text 88 (joined (ascii ",") blocked.blockedUsers_),
      text 89 (clientId ++ profiles.profiles_.flatMap fun p => ascii "," ++ p),
      text 59 [], text 59 [], text 59 [],
      text 90 (ascii "0"),
      text 3 clientId,
      text 100 (ascii "0"),
      text 101 [], text 102 [],
      text 93 (ascii "1440"),
      text 149 (ascii "zyeAQ1BXFCy3bxoFj6jgTg--"),
      text 150 (ascii "78zL3ked8mbTjdBp8tCDCw--"),
      text 151 (ascii "u301TRymraydeTDywSe_7Q--")]

/-- `SetContactStatusBase::AppendContact`. -/
def appendContact (contact : ContactInfo) : List Field :=
  [text 7 contact.id, number 10 contact.availability.code.toInt] ++
    -- these two are left out when they are empty, or do not apply
    (if contact.idleUnknown = [] then [] else [text 138 contact.idleUnknown]) ++
    (if contact.availability = .Idle then [text 137 (ascii "0")] else []) ++
    [flag 17 contact.isInChat] ++
    (if contact.availability = .Custom then [text 19 contact.customMessage] else []) ++
    [flag 47 (.of contact.isBusy), text 13 (ascii "1")]

/-- `SetContactStatusBase::AppendContacts`. -/
def appendContacts (contacts : List ContactInfo) : List Field :=
  number 8 contacts.length :: contacts.flatMap appendContact

end Builders

open Builders in
/-- The `Build` functions of the builder classes. -/
def Message.layout : Message → Layout
  | protocolAck => ⟨76, 0, []⟩
  | challengeResponse clientId =>
    ⟨87, 1, [text 1 clientId, number 13 AuthenticationMethod.None.code]⟩
  | clientProfile clientId profiles contacts blocked =>
    Builders.clientProfile clientId profiles contacts blocked
  | setContactStatus clientId contacts =>
    ⟨1, 0, text 0 clientId :: text 1 clientId :: appendContacts contacts⟩
  | setSingleContactStatus clientId contact =>
    ⟨1, 0, text 0 clientId :: text 1 clientId :: appendContact contact⟩
  | updateContactStatus contact => ⟨1, 1, number 8 1 :: appendContact contact⟩
  | contactOffline contactId =>
    ⟨2, 1, [text 10 (ascii "0"), text 13 (ascii "0"), text 47 (ascii "2"), text 7 contactId]⟩
  | pingConfiguration => ⟨18, 0, [text 143 (ascii "60"), text 144 (ascii "13")]⟩
  | yahooAlert clientId publisher url articleMeta title content =>
    ⟨300, 1, [text 5 clientId, text 132 url, text 4 publisher, text 14 articleMeta,
      text 83 title, text 20 content]⟩
  | newMailCount count => ⟨11, 1, [number 9 count]⟩
  | newMailNotification address name subject =>
    ⟨11, 1, [number 9 1, text 43 name, text 42 address, text 18 subject]⟩
  | offlineMessage clientId contactId message encoding =>
    ⟨6, 5, [text 31 (ascii "6"), text 32 (ascii "6"), text 1 contactId, text 5 clientId,
      text 4 contactId, text 14 message, number 97 encoding.code.toInt]⟩
  | addContactRequest clientId contactId message timestamp =>
    ⟨15, 3, [text 1 contactId, text 3 clientId, text 14 message, number 15 timestamp]⟩
  | addContactRequestResult clientId contactId contactGroup status =>
    ⟨131, 1, [text 1 contactId, text 7 clientId, text 65 contactGroup, number 66 status.code]⟩
  | contactRemoved clientId contactId group status =>
    ⟨132, 1, [text 1 clientId, number 66 status.code, text 7 contactId, text 65 group]⟩
  | contactGroupRenamed clientId oldGroupName newGroupName =>
    ⟨137, 1, [text 1 clientId, text 66 (ascii "0"), text 67 newGroupName,
      text 65 oldGroupName]⟩
  | denyContactAddRequest clientId contactId message =>
    ⟨15, 7, [text 1 contactId, text 3 clientId, text 14 message]⟩
  | contactBlockedOrUnblocked clientId contactId status =>
    ⟨133, 1, [text 1 clientId, text 5 contactId, number 4 status.code, text 66 (ascii " ")]⟩
  | profileActivated profileId => ⟨7, 1, [text 3 profileId]⟩
  | profileDeactivated profileId => ⟨8, 1, [text 3 profileId]⟩
  | systemMessage message timestamp => ⟨20, 1, [text 14 message, number 15 timestamp]⟩
  | privateMessage clientId contactId message encoding =>
    ⟨6, 1, [text 1 clientId, text 5 contactId, text 4 clientId, text 14 message,
      (97, encoding.map fun e => Numeral.ofInt e.code.toInt)]⟩
  | typingNotification clientId contactId status =>
    ⟨75, 1, [text 49 (ascii "TYPING"), text 5 clientId, text 4 contactId, text 14 (ascii " "),
      number 13 status.code.toInt]⟩
  | chatLoginResponse clientId => ⟨150, 1, [text 1 clientId]⟩
  | chatroomJoined category roomName topic voiceCookie otherCookie participants =>
    ⟨152, 1, [text 104 roomName, text 105 topic, text 128 category,
      number 108 participants.length, text 129 (ascii "0"), text 130 voiceCookie,
      text 126 (ascii "0"), text 13 (ascii "1"), text 61 otherCookie] ++
      participants.map (text 109)⟩

namespace Message

/-- `ContactBlocked::Build`. -/
def contactBlocked (clientId contactId : Bytes) : Message :=
  contactBlockedOrUnblocked clientId contactId .Blocked

/-- `ContactUnblocked::Build`. -/
def contactUnblocked (clientId contactId : Bytes) : Message :=
  contactBlockedOrUnblocked clientId contactId .Unblocked

/-- The keys and values that are appended. -/
def pairs (m : Message) : List (Int32 × Bytes) := m.layout.fields.map fun f => (f.1, f.2.value)

/-- The packet of a message stays below 64k. -/
def Fits (m : Message) : Prop :=
  RawHeader.size + (Builder.encode m.pairs).length < Builder.PaxPayloadSize

instance : DecidablePred Fits := fun m =>
  inferInstanceAs (Decidable (RawHeader.size + (Builder.encode m.pairs).length < _))

/-- Every value that is appended was assigned. -/
def Assigned (m : Message) : Prop := ∀ f ∈ m.layout.fields, f.2.assigned = true

end Message

/-! ## The connection -/

/-- A packet handed to `SendToClient`, with what it was built from. -/
structure Sent where
  message : Message
  sessionId : Cell UInt32
  protocolVersion : Cell UInt16
  bytes : Bytes
  deriving DecidableEq

/-- `ClientConnection`: neither field has an initialiser. -/
structure ClientConnection where
  sessionId_ : Cell UInt32
  protocolVersion_ : Cell UInt16
  sent : List Sent
  deriving DecidableEq

namespace ClientConnection

/-- `ClientConnection::ClientConnection`; the arguments are what its memory holds. -/
def new (sessionId : UInt32) (protocolVersion : UInt16) : ClientConnection :=
  ⟨.unset sessionId, .unset protocolVersion, []⟩

/-- `ClientConnection::SetSessionId`. -/
def setSessionId (c : ClientConnection) (sessionId : UInt32) : ClientConnection :=
  { c with sessionId_ := .of sessionId }

/-- `ClientConnection::SetProtocolVersion`. -/
def setProtocolVersion (c : ClientConnection) (version : UInt16) : ClientConnection :=
  { c with protocolVersion_ := .of version }

/-- The header `Builder::Initialize(connection, serviceId, attributeId)` makes. -/
def header (c : ClientConnection) (m : Message) : Header :=
  .new c.sessionId_.value c.protocolVersion_.value m.layout.serviceId m.layout.attributeId

/-- `builder.Build(connection, ..); builder.Send(connection)`. -/
def transmit (m : Message) : Action ClientConnection Unit := fun c =>
  match Builder.build (c.header m) m.pairs ⟨[]⟩ with
  | .ok bytes _ =>
    .ok () { c with sent := c.sent ++ [⟨m, c.sessionId_, c.protocolVersion_, bytes⟩] }
  -- nothing reaches the connection when the packet is too large
  | .error e _ => .error e c

/-- The packet a message becomes on this connection. -/
def packet (c : ClientConnection) (m : Message) : Sent where
  message := m
  sessionId := c.sessionId_
  protocolVersion := c.protocolVersion_
  bytes := (Builder.sized (c.header m) (Builder.encode m.pairs)).toRaw.store ++
    Builder.encode m.pairs

/-- Behind the header there is the payload. -/
theorem payload_packet (c : ClientConnection) (m : Message) :
    (c.packet m).bytes.drop RawHeader.size = Builder.encode m.pairs := by
  unfold packet
  rw [← RawHeader.length_store]
  exact List.drop_left

/-- The connection after a packet was handed to it. -/
def push (c : ClientConnection) (m : Message) : ClientConnection :=
  { c with sent := c.sent ++ [c.packet m] }

/-- **A message that fits is sent; one that does not leaves the connection alone.** -/
theorem transmit_eq (m : Message) (c : ClientConnection) :
    transmit m c = if m.Fits then .ok () (c.push m) else .error Builder.tooLarge c := by
  by_cases hFits : m.Fits
  · rw [if_pos hFits, transmit, Builder.build_of_fits _ _ hFits]
    rfl
  · obtain ⟨b, hBuild⟩ := Builder.build_of_not_fits (c.header m) ⟨[]⟩ hFits
    rw [if_neg hFits, transmit, hBuild]

end ClientConnection

end Giblet.YMsg
