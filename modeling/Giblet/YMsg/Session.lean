import Giblet.Lib.Effect
import Giblet.YMsg.Message

/-!
# YMsg — a session

`SessionContext` with the managers it shares, the events that tell the client
about a change, and the mock links that decide which event a request leads
to. Every event changes its manager first and sends afterwards; nothing is
undone when a packet turns out too large to send.
-/

namespace Giblet.YMsg

open Effect

/-- What the code reads from outside: the clock, the sequence of `rand()`, and
what the memory of variables without an initialiser holds. -/
structure Env where
  time : Int
  rand : Nat → UInt32
  isInChat : Bytes → Bool
  encoding : TextEncoding

/-- An environment in which everything reads as zero. -/
def Env.zeros : Env := ⟨0, fun _ => 0, fun _ => false, ⟨0⟩⟩

/-- The managers a session is made of, and its presence. -/
structure Managers where
  profileManager_ : ProfileManager
  contactManager_ : ContactManager
  blockedContactManager_ : BlockedContactManager
  properties_ : PresenceProperties
  deriving DecidableEq

/-- `SessionContext`. -/
structure SessionContext extends Managers where
  connection_ : ClientConnection
  deriving DecidableEq

/-- An operation of a session. -/
abbrev SessionAction := Action SessionContext Unit

namespace SessionContext

/-- Run an action on the session's connection. -/
def onConnection (x : Action ClientConnection Unit) : SessionAction :=
  zoom connection_ (fun c s => { s with connection_ := c }) x

/-- `Build` a packet and `Send` it. -/
def send (m : Message) : SessionAction := onConnection (ClientConnection.transmit m)

/-- The session after a packet was handed to its connection. -/
def push (s : SessionContext) (m : Message) : SessionContext :=
  { s with connection_ := s.connection_.push m }

/-- **Sending.** A message that fits is logged; one that does not throws and changes nothing. -/
theorem send_run (m : Message) (s : SessionContext) :
    send m s = if m.Fits then .ok () (s.push m) else .error Builder.tooLarge s := by
  unfold send onConnection zoom
  rw [ClientConnection.transmit_eq]
  by_cases hFits : m.Fits
  · simp only [if_pos hFits]
    rfl
  · simp only [if_neg hFits]

/-- The profile packet of the session as it stands. -/
def clientProfile (s : SessionContext) : Message :=
  .clientProfile s.profileManager_.clientId_ s.profileManager_ s.contactManager_.contacts
    s.blockedContactManager_

/-- `SessionContext::RequestClientProfile`, and `ContactManagementEvents::RefreshProfile`. -/
def requestClientProfile : SessionAction := do
  send (← get).clientProfile

/-! ## Beginning -/

/-- The contacts that are online, in iteration order. -/
def onlineContacts (s : SessionContext) : List ContactInfo :=
  s.contactManager_.contacts.filter ContactInfo.isOnline

/-- The packet that lists them. -/
def contactStatus (s : SessionContext) : Message :=
  .setContactStatus s.profileManager_.clientId_ s.onlineContacts

/-- `SessionContext::BeginSession`. -/
def beginSession : SessionAction := do
  requestClientProfile
  -- the contacts are those after the profile was sent
  send (← get).contactStatus
  send .pingConfiguration

/-- The alert's page. -/
def alertContent : Bytes := [
  "<!DOCTYPE HTML PUBLIC \"-//W3C//DTD HTML 4.0 Transitional//EN\">\n",
  "<HTML>\n",
  "<HEAD><TITLE>Yahoo! Alerts</TITLE>\n",
  "<META http-equiv=Content-Type \n",
  "content=\"text/html; charset=windows-1252\"><BASEFONT face=arial&#44;sans-serif \n",
  "size=2>\n",
  "</HEAD>\n",
  "<BODY><B>Yahoo! Alerts</B> \n",
  "<TABLE cellSpacing=0 cellPadding=0 width=\"100%\" border=0>\n",
  "  <TBODY>\n",
  "  <TR>\n",
  "    <TD noWrap bgColor=#acb59a height=1><SPACER height=\"1\" width=\"1\" \n",
  "      type=\"block\"></TD></TR>\n",
  "  <TR>\n",
  "    <TD bgColor=#effada height=24><FONT size=2><FONT color=#ec661f><B>Breaking\n",
  "      News</B></FONT> Sunday&#44; September 26&#44; 2004&#44; 11:06 PM PDT ",
  "</FONT></TD></TR>\n",
  "  <TR>\n",
  "    <TD noWrap bgColor=#acb59a height=1><SPACER height=\"1\" width=\"1\" \n",
  "      type=\"block\"></TD></TR></TBODY></TABLE>\n",
  "<P>\n",
  "MOSUL&#44; Iraq (AP) Police say a car bomb has exploded near an Iraqi National Guard patrol ",
  "in the northeastern city of Mosul. </P>\n",
  "  <BR>\n",
  "  <p>\n",
  "    Visit <a href=\"http://news.yahoo.com\">Yahoo! News</a> for more details or search for ",
  "this story on <a ",
  "href=\"http://news.search.yahoo.com/search/news/?fr=sfp&ei=UTF-8&p=MOSUL&#44; Iraq (AP) ",
  "Police say a car bomb has exploded near an Iraqi National Guard patrol in the northeastern ",
  "city of Mosul.\">Yahoo! News Search</a>.  \n",
  "  </p>\n",
  "  <br>\n",
  "</td></tr></table>\n",
  "</BODY></BASEFONT></HTML>"].flatMap ascii

/-- The alert shown to clients whose id contains `*`. -/
def yahooAlert (clientId : Bytes) : Message :=
  .yahooAlert clientId (ascii "Yahoo! Alerts")
    (ascii "http://beta.alerts.yahoo.com/main.php?view=my_alerts")
    (ascii "n - BreakingNews\nabstract Id: d0300002215e2\nhttp://news.yahoo.com")
    (ascii "Breaking News (AP, Reuters)") alertContent

/-- Send a packet under a condition. -/
def sendIf (condition : Bool) (m : Message) : SessionAction :=
  if condition then send m else pure ()

/-- What holds of sending a packet, holds when it may not be sent. -/
theorem sendIf_frame {R : SessionContext → SessionContext → Prop} [IsPreorder SessionContext R]
    (condition : Bool) {m : Message} (h : Effect.Frame R (send m)) :
    Effect.Frame R (sendIf condition m) := by
  unfold sendIf
  split
  · exact h
  · exact .pure _

/-- What the mock server sends a client whose id has certain characters. -/
def mockExtras : SessionAction := do
  let clientId := (← get).profileManager_.clientId_
  sendIf (clientId.contains '*'.toNat.toUInt8) (yahooAlert clientId)
  sendIf (clientId.contains '-'.toNat.toUInt8) (.newMailCount 5)
  sendIf (clientId.contains '_'.toNat.toUInt8)
    (.newMailNotification (ascii "me@yahoo.com") (ascii "Some Guy") (ascii "Some subject"))
  sendIf (clientId.contains '.'.toNat.toUInt8)
    (.offlineMessage clientId (ascii "Ed_") (ascii "Hello!") .None)

/-- `MockSessionContext::BeginSession`. -/
def mockBeginSession : SessionAction := do
  beginSession
  mockExtras

/-! ## Changing the managers -/

def setContacts (contactManager : ContactManager) : SessionAction :=
  modify fun s => { s with contactManager_ := contactManager }

def setBlocked (blockedContactManager : BlockedContactManager) : SessionAction :=
  modify fun s => { s with blockedContactManager_ := blockedContactManager }

def setProperties (properties : PresenceProperties) : SessionAction :=
  modify fun s => { s with properties_ := properties }

end SessionContext

open SessionContext

/-! ## Contact management -/

namespace ContactManagementEvents

/-- `ContactManagementEvents::OnAddRequestDenied`. -/
def onAddRequestDenied (clientId contactId message : Bytes) : SessionAction :=
  send (.denyContactAddRequest clientId contactId message)

/-- `ContactManagementEvents::OnAddContactRequest`. -/
def onAddContactRequest (clientId contactId message : Bytes) (timestamp : Int) :
    SessionAction :=
  send (.addContactRequest clientId contactId message timestamp)

/-- `ContactManagementEvents::OnRemoveContactFailed`. -/
def onRemoveContactFailed (clientId contactId group : Bytes) : SessionAction :=
  send (.contactRemoved clientId contactId group .GeneralFailure)

/-- `ContactManagementEvents::OnAddRequestPending`. -/
def onAddRequestPending (env : Env) (clientId contactId group : Bytes) : SessionAction := do
  match (← get).contactManager_.addPendingContact (env.isInChat contactId) contactId group with
  -- there is such a contact already
  | .error e => throw e
  | .ok contactManager =>
    -- from here on it is a contact, whatever becomes of the packets
    setContacts contactManager
    send (.addContactRequestResult contactId clientId group .AddPending)
    requestClientProfile

/-- The refusals of an add request: `OnEmptyGroup`, `OnContactIsIneligible`,
`OnContactNoExist` and `OnDuplicateContact` differ in group and status only. -/
def onAddRequestRefused (clientId contactId group : Bytes)
    (status : AddContactRequestResultStatus) : SessionAction :=
  send (.addContactRequestResult contactId clientId group status)

/-- `ContactManagementEvents::OnEmptyGroup`. -/
def onEmptyGroup (clientId contactId : Bytes) : SessionAction :=
  onAddRequestRefused clientId contactId [] .GroupAlreadyExists

/-- `ContactManagementEvents::OnContactIsIneligible`. -/
def onContactIsIneligible (clientId contactId group : Bytes) : SessionAction :=
  onAddRequestRefused clientId contactId group .GeneralFailure

/-- `ContactManagementEvents::OnContactNoExist`. -/
def onContactNoExist (clientId contactId group : Bytes) : SessionAction :=
  onAddRequestRefused clientId contactId group .ContactDoesNotExist

/-- `ContactManagementEvents::OnDuplicateContact`. -/
def onDuplicateContact (clientId contactId group : Bytes) : SessionAction :=
  onAddRequestRefused clientId contactId group .DuplicateContact

/-- `ContactManagementEvents::OnContactRemoved`. -/
def onContactRemoved (clientId contactId group : Bytes) : SessionAction := do
  setContacts ((← get).contactManager_.removeContact contactId)
  send (.contactRemoved clientId contactId group .Success)
  requestClientProfile

/-- `ContactManagementEvents::OnGroupRenameFailed`: the exception object is not thrown. -/
def onGroupRenameFailed : SessionAction := pure ()

/-- `ContactManagementEvents::OnGroupRenamed`. -/
def onGroupRenamed (currentName newName : Bytes) : SessionAction := do
  let s ← get
  setContacts (s.contactManager_.renameGroup currentName newName)
  -- the new name goes before the old one
  send (.contactGroupRenamed s.profileManager_.clientId_ newName currentName)
  requestClientProfile

end ContactManagementEvents

namespace MockContactManagementLink

open ContactManagementEvents

/-- `MockContactManagementLink::DenyRequest`. -/
def denyRequest (clientId contactId message : Bytes) : SessionAction := do
  if (← get).profileManager_.isClientOrProfileId contactId then
    onAddRequestDenied contactId clientId message

/-- `MockContactManagementLink::AddContact`. -/
def addContact (env : Env) (clientId contactId group message : Bytes) : SessionAction := do
  let s ← get
  -- the checks are made in this order, and the first one that fails decides the answer
  if group = [] then
    onEmptyGroup clientId contactId
  else if s.contactManager_.isContact contactId then
    onDuplicateContact clientId contactId group
  else if s.blockedContactManager_.isBlocked contactId then
    onContactIsIneligible clientId contactId group
  -- the one id that the mock server does not know
  else if contactId = ascii "grag" then
    onContactNoExist clientId contactId group
  else
    onAddRequestPending env clientId contactId group
    -- an id of our own gets the request it made
    if s.profileManager_.isClientOrProfileId contactId then
      onAddContactRequest clientId contactId message env.time

/-- `MockContactManagementLink::RemoveContact`. -/
def removeContact (clientId contactId group : Bytes) : SessionAction := do
  if !(← get).contactManager_.isContact contactId then
    onRemoveContactFailed clientId contactId group
  else
    onContactRemoved clientId contactId group

/-- `MockContactManagementLink::RenameGroup`. -/
def renameGroup (currentName newName : Bytes) : SessionAction :=
  if currentName = newName then onGroupRenameFailed else onGroupRenamed currentName newName

end MockContactManagementLink

/-! ## Blocked users -/

namespace BlockedContactManagementEvents

/-- `BlockedContactManagementEvents::OnAlreadyBlocked`. -/
def onAlreadyBlocked : SessionAction :=
  throw (.invalidArgument
    "[WIP] Adding duplicate contacts to blocked list not supported yet")

/-- `BlockedContactManagementEvents::OnNotInBlockedList`. -/
def onNotInBlockedList : SessionAction :=
  throw (.invalidArgument
    "[WIP] Removing contacts that do not exist in blocked list not supported yet")

/-- `BlockedContactManagementEvents::OnBlocked`. -/
def onBlocked (clientId contactId : Bytes) : SessionAction := do
  setBlocked ((← get).blockedContactManager_.add contactId)
  send (.contactBlocked clientId contactId)

/-- `BlockedContactManagementEvents::OnUnblocked`. -/
def onUnblocked (clientId contactId : Bytes) : SessionAction := do
  setBlocked ((← get).blockedContactManager_.remove contactId)
  send (.contactUnblocked clientId contactId)

end BlockedContactManagementEvents

namespace MockBlockedContactManagementLink

open BlockedContactManagementEvents

/-- `MockBlockedContactManagementLink::Add`. -/
def add (clientId contactId : Bytes) : SessionAction := do
  -- whether the id is a contact is not asked
  if (← get).blockedContactManager_.isBlocked contactId then
    onAlreadyBlocked
  else
    onBlocked clientId contactId

/-- `MockBlockedContactManagementLink::Remove`. No `return` separates the two
events; the first one throws. -/
def remove (clientId contactId : Bytes) : SessionAction := do
  if !(← get).blockedContactManager_.isBlocked contactId then
    onNotInBlockedList
  onUnblocked clientId contactId

end MockBlockedContactManagementLink

/-! ## Profiles -/

namespace MockProfileManagementLink

/-- `Activate` and `Deactivate`: refuse ids that are not the client's, confirm the others. -/
def confirm (m : Message) (profileId : Bytes) : SessionAction := do
  if !(← get).profileManager_.isClientOrProfileId profileId then
    throw (.invalidArgument "FIXME: Profile does not exist")
  send m

/-- `MockProfileManagementLink::Activate`. -/
def activate (profileId : Bytes) : SessionAction := confirm (.profileActivated profileId) profileId

/-- `MockProfileManagementLink::Deactivate`. -/
def deactivate (profileId : Bytes) : SessionAction :=
  confirm (.profileDeactivated profileId) profileId

end MockProfileManagementLink

/-! ## Presence -/

namespace PresenceEvents

/-- The events: change a contact in place, and send what is to be said about it. -/
def onContact (change : ContactManager → Option (ContactInfo × ContactManager))
    (message : ContactInfo → Message) : SessionAction := do
  match change (← get).contactManager_ with
  -- nobody of that id
  | none => throw (.runtimeError "Don't know how to handle idle contact not in list")
  | some (contact, contactManager) =>
    setContacts contactManager
    send (message contact)

/-- With a notification, or without one. -/
def statusMessage (showNotification : Bool) (contact : ContactInfo) : Message :=
  if showNotification then .updateContactStatus contact else .setSingleContactStatus [] contact

/-- `PresenceEvents::OnContactAvailable`. -/
def onContactAvailable (contactId : Bytes) (showNotification : Bool) : SessionAction :=
  onContact (·.setContactAvailable contactId) (statusMessage showNotification)

/-- `PresenceEvents::OnContactIdle`. -/
def onContactIdle (contactId idleUnknown message : Bytes) (isBusy : Bool) : SessionAction :=
  onContact (·.setContactIdle contactId idleUnknown message isBusy) .updateContactStatus

/-- `PresenceEvents::OnContactAway`. -/
def onContactAway (contactId : Bytes) (availability : Availability) (isBusy : Bool) :
    SessionAction :=
  onContact (·.setContactAway contactId availability isBusy) .updateContactStatus

/-- `PresenceEvents::OnContactStatusMessage`. -/
def onContactStatusMessage (contactId message : Bytes) (isBusy showNotification : Bool) :
    SessionAction :=
  onContact (·.setContactStatusMessage contactId message isBusy) (statusMessage showNotification)

/-- `PresenceEvents::OnContactOffline`. -/
def onContactOffline (contactId : Bytes) : SessionAction :=
  onContact (·.setContactOffline contactId) fun _ => .contactOffline contactId

end PresenceEvents

namespace MockPresenceManagementLink

open PresenceEvents

/-- What the five requests share: note the presence, then raise the event for
each of the client's profiles that is a contact. -/
def setPresence (properties : PresenceProperties) (event : Bytes → SessionAction) :
    SessionAction := do
  setProperties properties
  -- an exception of one event leaves the loop, with the presence noted already
  (← get).profileManager_.profiles_.forM fun profile => do
    if (← get).contactManager_.isContact profile then
      event profile

/-- `MockPresenceManagementLink::SetAvailable`. -/
def setAvailable : SessionAction :=
  setPresence .setAvailable fun profile => onContactAvailable profile true

/-- `MockPresenceManagementLink::SetIdle`. -/
def setIdle (message : Bytes) (isBusy : Bool) (idleUnknown : Bytes) : SessionAction :=
  setPresence (.setIdle message isBusy) fun profile =>
    onContactIdle profile idleUnknown message isBusy

/-- `MockPresenceManagementLink::SetAway`. -/
def setAway (availability : Availability) (isBusy : Bool) : SessionAction :=
  setPresence (.setAway availability isBusy) fun profile =>
    onContactAway profile availability isBusy

/-- `MockPresenceManagementLink::SetCustomStatus`. -/
def setCustomStatus (message : Bytes) (isBusy : Bool) : SessionAction :=
  setPresence (.setCustomStatus message isBusy) fun profile =>
    onContactStatusMessage profile message isBusy true

/-- `MockPresenceManagementLink::SetInvisible`. -/
def setInvisible : SessionAction :=
  setPresence .setInvisible fun profile => onContactOffline profile

end MockPresenceManagementLink

/-! ## Session operations are defined

No operation of a session has undefined behaviour: what can go wrong is thrown. -/

theorem SessionContext.send_thrown (m : Message) : Faults Fault.Thrown (send m) := by
  intro s e s' h
  rw [send_run] at h
  split at h
  · cases h
  · cases h
    exact trivial

theorem MockPresenceManagementLink.setPresence_thrown (properties : PresenceProperties)
    {event : Bytes → SessionAction} (hEvent : ∀ id, Faults Fault.Thrown (event id)) :
    Faults Fault.Thrown (setPresence properties event) := by
  unfold setPresence setProperties
  refine .bind (.modify _) fun _ => .bind .get fun s => .forM (fun profile => ?_) _
  refine .bind .get fun s' => ?_
  split
  · exact hEvent profile
  · exact .pure _

theorem PresenceEvents.onContact_thrown
    (change : ContactManager → Option (ContactInfo × ContactManager))
    (message : ContactInfo → Message) : Faults Fault.Thrown (onContact change message) := by
  unfold onContact setContacts
  refine .bind .get fun s => ?_
  split
  · exact .throw trivial
  · exact .bind (.modify _) fun _ => send_thrown _

theorem SessionContext.requestClientProfile_thrown : Faults Fault.Thrown requestClientProfile :=
  .bind .get fun _ => send_thrown _

theorem MockContactManagementLink.denyRequest_thrown (clientId contactId message : Bytes) :
    Faults Fault.Thrown (denyRequest clientId contactId message) := by
  unfold denyRequest
  refine .bind .get fun s => ?_
  split
  · exact send_thrown _
  · exact .pure _

theorem ContactManagementEvents.onAddRequestPending_thrown (env : Env)
    (clientId contactId group : Bytes) :
    Faults Fault.Thrown (onAddRequestPending env clientId contactId group) := by
  unfold onAddRequestPending
  refine .bind .get fun s => ?_
  cases hAdd : s.contactManager_.addPendingContact (env.isInChat contactId) contactId group with
  | error e =>
    refine .throw ?_
    unfold ContactManager.addPendingContact at hAdd
    split at hAdd
    · cases hAdd
      exact trivial
    · cases hAdd
  | ok contactManager =>
    exact .bind (.modify _) fun _ => .bind (send_thrown _) fun _ => requestClientProfile_thrown

theorem MockContactManagementLink.addContact_thrown (env : Env)
    (clientId contactId group message : Bytes) :
    Faults Fault.Thrown (addContact env clientId contactId group message) := by
  unfold addContact
  refine .bind .get fun s => ?_
  split
  · exact send_thrown _
  split
  · exact send_thrown _
  split
  · exact send_thrown _
  split
  · exact send_thrown _
  have hPending := ContactManagementEvents.onAddRequestPending_thrown env clientId contactId group
  refine .bind hPending fun _ => ?_
  split
  · exact send_thrown _
  · exact .pure _

theorem MockContactManagementLink.removeContact_thrown (clientId contactId group : Bytes) :
    Faults Fault.Thrown (removeContact clientId contactId group) := by
  unfold removeContact
  refine .bind .get fun s => ?_
  split
  · exact send_thrown _
  · exact .bind .get fun _ => .bind (.modify _) fun _ => .bind (send_thrown _) fun _ =>
      requestClientProfile_thrown

theorem MockContactManagementLink.renameGroup_thrown (currentName newName : Bytes) :
    Faults Fault.Thrown (renameGroup currentName newName) := by
  unfold renameGroup
  split
  · exact .pure _
  · exact .bind .get fun _ => .bind (.modify _) fun _ => .bind (send_thrown _) fun _ =>
      requestClientProfile_thrown

theorem MockBlockedContactManagementLink.add_thrown (clientId contactId : Bytes) :
    Faults Fault.Thrown (add clientId contactId) := by
  unfold add
  refine .bind .get fun s => ?_
  split
  · exact .throw trivial
  · exact .bind .get fun _ => .bind (.modify _) fun _ => send_thrown _

theorem MockBlockedContactManagementLink.remove_thrown (clientId contactId : Bytes) :
    Faults Fault.Thrown (remove clientId contactId) := by
  have hUnblocked : Faults Fault.Thrown
      (BlockedContactManagementEvents.onUnblocked clientId contactId) :=
    .bind .get fun _ => .bind (.modify _) fun _ => send_thrown _
  unfold remove
  refine .bind .get fun s => ?_
  split
  · exact .bind (.throw trivial) fun _ => hUnblocked
  · exact hUnblocked

theorem MockProfileManagementLink.confirm_thrown (m : Message) (profileId : Bytes) :
    Faults Fault.Thrown (confirm m profileId) := by
  unfold confirm
  refine .bind .get fun s => ?_
  split
  · exact .bind (.throw trivial) fun _ => send_thrown _
  · exact send_thrown _

end Giblet.YMsg
