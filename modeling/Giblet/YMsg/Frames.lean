import Giblet.YMsg.Processors

/-!
# YMsg — what every packet of a session is made of

A V11 processor sends packets and notes a presence, and it calls the managers:
a contact is added as pending, removed, moved with its group, or changed in
place; a user is blocked or unblocked. A relation between session states that
survives each of these survives every packet (`dispatchPacket_frame`).
-/

namespace Giblet.YMsg

open Effect SessionContext

/-- A relation that the operations of a session keep, except that of blocking a user. -/
structure Basic (R : SessionContext → SessionContext → Prop) : Prop where
  sent : ∀ s m, R s (s.push m)
  noted : ∀ s properties, R s { s with properties_ := properties }
  pending : ∀ (s : SessionContext) garbage contactId group contactManager,
    s.blockedContactManager_.isBlocked contactId = false →
    s.contactManager_.addPendingContact garbage contactId group = .ok contactManager →
      R s { s with contactManager_ := contactManager }
  removed : ∀ (s : SessionContext) contactId,
    R s { s with contactManager_ := s.contactManager_.removeContact contactId }
  renamed : ∀ (s : SessionContext) currentName newName,
    R s { s with contactManager_ := s.contactManager_.renameGroup currentName newName }
  changed : ∀ (s : SessionContext) contactId f contact contactManager,
    (∀ c : ContactInfo, (f c).id = c.id ∧ (f c).group = c.group) →
    s.contactManager_.setContact contactId f = some (contact, contactManager) →
      R s { s with contactManager_ := contactManager }
  unblocked : ∀ (s : SessionContext) contactId,
    R s { s with blockedContactManager_ := s.blockedContactManager_.remove contactId }

namespace Basic

variable {R : SessionContext → SessionContext → Prop} [IsPreorder SessionContext R]

theorem send (hR : Basic R) (m : Message) : Frame R (send m) := by
  intro s
  rw [send_run]
  split
  · exact hR.sent s m
  · exact refl_of R s

theorem requestClientProfile (hR : Basic R) : Frame R requestClientProfile :=
  .bind .get fun _ => hR.send _

/-- Once the contacts are changed, say so and send the new profile. -/
theorem announce (hR : Basic R) {s : SessionContext} {contactManager : ContactManager}
    (h : R s { s with contactManager_ := contactManager }) (m : Message) :
    R s (finalState ((do
      setContacts contactManager
      SessionContext.send m
      SessionContext.requestClientProfile) s)) :=
  -- the change is there before the first packet, whether that one fits or not
  Frame.bind_at h fun _ => .bind (hR.send _) fun _ => hR.requestClientProfile

theorem addContact (hR : Basic R) (env : Env) (clientId contactId group message : Bytes) :
    Frame R (MockContactManagementLink.addContact env clientId contactId group message) := by
  unfold MockContactManagementLink.addContact
  refine .get_bind fun s => ?_
  -- only a contact that nobody blocked gets this far
  have hPending (hBlocked : ¬ s.blockedContactManager_.isBlocked contactId = true) :
      R s (finalState
        (ContactManagementEvents.onAddRequestPending env clientId contactId group s)) := by
    unfold ContactManagementEvents.onAddRequestPending
    rw [bind_run, get_run]
    dsimp only
    cases hAdd : s.contactManager_.addPendingContact (env.isInChat contactId) contactId group with
    | error e => exact refl_of R s
    | ok contactManager =>
      exact hR.announce (hR.pending s _ _ _ _ (Bool.eq_false_iff.mpr hBlocked) hAdd) _
  split_ifs with _ _ hBlocked
  · exact hR.send _ s
  · exact hR.send _ s
  · exact hR.send _ s
  · exact hR.send _ s
  · exact Frame.bind_at (hPending hBlocked) fun _ => hR.send _
  · exact Frame.bind_at (hPending hBlocked) fun _ => .pure _

theorem removeContact (hR : Basic R) (clientId contactId group : Bytes) :
    Frame R (MockContactManagementLink.removeContact clientId contactId group) := by
  unfold MockContactManagementLink.removeContact
  refine .bind .get fun s => ?_
  split_ifs
  · exact hR.send _
  · exact .get_bind fun s => hR.announce (hR.removed s _) _

theorem renameGroup (hR : Basic R) (currentName newName : Bytes) :
    Frame R (MockContactManagementLink.renameGroup currentName newName) := by
  unfold MockContactManagementLink.renameGroup
  split_ifs
  · exact .pure _
  · exact .get_bind fun s => hR.announce (hR.renamed s _ _) _

theorem denyRequest (hR : Basic R) (clientId contactId message : Bytes) :
    Frame R (MockContactManagementLink.denyRequest clientId contactId message) := by
  unfold MockContactManagementLink.denyRequest
  refine .bind .get fun s => ?_
  split_ifs
  · exact hR.send _
  · exact .pure _

/-- Blocking needs the relation to survive that, too. -/
theorem block (hR : Basic R) {clientId contactId : Bytes} {s : SessionContext}
    (hBlock : s.blockedContactManager_.isBlocked contactId = false →
      R s { s with blockedContactManager_ := s.blockedContactManager_.add contactId }) :
    R s (finalState (MockBlockedContactManagementLink.add clientId contactId s)) := by
  unfold MockBlockedContactManagementLink.add
  rw [bind_run, get_run]
  dsimp only
  split_ifs with hBlocked
  -- somebody who is blocked already is not blocked again
  · exact refl_of R s
  · show R s (finalState (BlockedContactManagementEvents.onBlocked clientId contactId s))
    unfold BlockedContactManagementEvents.onBlocked
    rw [bind_run, get_run]
    exact Frame.bind_at (hBlock (Bool.eq_false_iff.mpr hBlocked)) fun _ => hR.send _

theorem unblock (hR : Basic R) (clientId contactId : Bytes) :
    Frame R (MockBlockedContactManagementLink.remove clientId contactId) := by
  have hUnblock : Frame R (BlockedContactManagementEvents.onUnblocked clientId contactId) :=
    .get_bind fun s => Frame.bind_at (hR.unblocked s contactId) fun _ => hR.send _
  unfold MockBlockedContactManagementLink.remove
  refine .bind .get fun s => ?_
  split_ifs
  · exact .bind (.throw _) fun _ => hUnblock
  · exact hUnblock

theorem confirm (hR : Basic R) (m : Message) (profileId : Bytes) :
    Frame R (MockProfileManagementLink.confirm m profileId) := by
  unfold MockProfileManagementLink.confirm
  refine .bind .get fun s => ?_
  split_ifs
  -- an unknown profile throws before anything is sent
  · exact .bind (.throw _) fun _ => hR.send _
  · exact hR.send _

theorem onContact (hR : Basic R) (contactId : Bytes) {f : ContactInfo → ContactInfo}
    (hf : ∀ c, (f c).id = c.id ∧ (f c).group = c.group) (message : ContactInfo → Message) :
    Frame R (PresenceEvents.onContact (·.setContact contactId f) message) := by
  unfold PresenceEvents.onContact
  refine .get_bind fun s => ?_
  dsimp only
  cases hSet : s.contactManager_.setContact contactId f with
  -- the null pointer: somebody who is no contact
  | none => exact refl_of R s
  | some changed =>
    obtain ⟨contact, contactManager⟩ := changed
    exact Frame.bind_at (hR.changed s _ _ _ _ hf hSet) fun _ => hR.send _

theorem setPresence (hR : Basic R) (properties : PresenceProperties)
    {event : Bytes → SessionAction} (hEvent : ∀ id, Frame R (event id)) :
    Frame R (MockPresenceManagementLink.setPresence properties event) := by
  unfold MockPresenceManagementLink.setPresence
  -- the properties are noted first, then each profile that is a contact hears of it
  refine .bind (.modify fun s => hR.noted s _) fun _ => .bind .get fun s =>
    .forM (fun profile => .bind .get fun s' => ?_) _
  split_ifs
  · exact hEvent profile
  · exact .pure _

theorem setAway (hR : Basic R) (following : Bytes) (payload : Payloads.SetAway) :
    Frame R (Processors.setAway following payload) := by
  unfold Processors.setAway
  split
  · exact .throw _
  · dsimp only
    split_ifs
    · exact hR.setPresence _ fun _ => hR.onContact _ (by exact fun _ => ⟨rfl, rfl⟩) _
    all_goals
      split
      · exact .throw _
      · exact hR.setPresence _ fun _ => hR.onContact _ (by exact fun _ => ⟨rfl, rfl⟩) _

theorem serviceOperation (hR : Basic R) (following : Bytes) (payload : Payloads.ServiceOperation) :
    Frame R (Processors.serviceOperation following payload) := by
  unfold Processors.serviceOperation
  split_ifs
  · split
    · exact .throw _
    · exact hR.send _
  · exact .pure _

end Basic

variable {R : SessionContext → SessionContext → Prop} [IsPreorder SessionContext R] {π : Type}

/-- The payload is filled, and processed if that worked. -/
theorem processPacket_frame_at {fields : π} {onKeyPair : Int32 → StringView → Action π Unit}
    {process : π → SessionAction} {payload : Bytes} {s : SessionContext}
    (hProcess : ∀ fields', PacketParser.parse onKeyPair payload fields = .ok () fields' →
      R s (finalState (process fields' s))) :
    R s (finalState (processPacket fields onKeyPair process payload s)) := by
  unfold processPacket
  cases hParse : PacketParser.parse onKeyPair payload fields with
  | error e fields' => exact refl_of R s
  | ok _ fields' => exact hProcess fields' hParse

theorem processPacket_frame (fields : π) (onKeyPair : Int32 → StringView → Action π Unit)
    {process : π → SessionAction} (hProcess : ∀ fields, Frame R (process fields))
    (payload : Bytes) : Frame R (processPacket fields onKeyPair process payload) :=
  fun s => processPacket_frame_at fun fields' _ => hProcess fields' s

/-- A packet of any service but `ChangeBlockedUser`. -/
theorem V11.parse_frame (hR : Basic R) (env : Env) {service : V11.Service}
    (hService : service ≠ .changeBlockedUser) (payload following : Bytes) :
    Frame R (V11.parse env service payload following) := by
  cases service with
  | requestProfile => exact processPacket_frame _ _ (fun _ => hR.requestClientProfile) _
  | setAway => exact processPacket_frame _ _ (hR.setAway following) _
  | setAvailable =>
    exact processPacket_frame _ _
      (fun _ => hR.setPresence _ fun _ => hR.onContact _ (by exact fun _ => ⟨rfl, rfl⟩) _) _
  | activateProfile => exact processPacket_frame _ _ (fun _ => hR.confirm _ _) _
  | deactivateProfile => exact processPacket_frame _ _ (fun _ => hR.confirm _ _) _
  | addContact => exact processPacket_frame _ _ (fun _ => hR.addContact env _ _ _ _) _
  | renameContactGroup => exact processPacket_frame _ _ (fun _ => hR.renameGroup _ _) _
  | removeContact => exact processPacket_frame _ _ (fun _ => hR.removeContact _ _ _) _
  | denyContactAddRequest => exact processPacket_frame _ _ (fun _ => hR.denyRequest _ _ _) _
  | changeBlockedUser => exact absurd rfl hService
  | privateMessage => exact processPacket_frame _ _ (fun _ => hR.send _) _
  | massPrivateMessage => exact processPacket_frame _ _ (fun _ => hR.send _) _
  | serviceOperation => exact processPacket_frame _ _ (hR.serviceOperation following) _
  | chatLogin => exact processPacket_frame _ _ (fun _ => hR.send _) _
  | chatJoin => exact processPacket_frame _ _ (fun _ => hR.send _) _

/-- A packet that blocks a user, at a state that survives it. -/
theorem V11.changeBlockedUser_frame (hR : Basic R) (env : Env) {payload following : Bytes}
    {s : SessionContext}
    (hBlock : ∀ fields, PacketParser.parse Payloads.ChangeBlockedUser.onKeyPair payload {} =
      .ok () fields → fields.mode.chars = ascii "1" →
      s.blockedContactManager_.isBlocked fields.contactId.chars = false →
        R s { s with
          blockedContactManager_ := s.blockedContactManager_.add fields.contactId.chars }) :
    R s (finalState (V11.parse env .changeBlockedUser payload following s)) := by
  refine processPacket_frame_at fun fields hParse => ?_
  unfold Processors.changeBlockedUser
  -- blocking, unblocking, and a mode that is neither
  split_ifs with hMode
  · exact hR.block (hBlock fields hParse hMode)
  · exact hR.unblock _ _ s
  · exact refl_of R s

/-- A packet nobody handles changes nothing. -/
theorem dispatch_none {σ : Type} (payload following : Bytes) (s : σ) :
    finalState (dispatch none payload following s) = s := by
  unfold dispatch
  dsimp only
  split <;> rfl

/-- **Every packet of a session.** -/
theorem dispatchPacket_frame (hR : Basic R)
    (hBlock : ∀ (s : SessionContext) contactId,
      R s { s with blockedContactManager_ := s.blockedContactManager_.add contactId })
    (env : Env) (header : Header) (payload following : Bytes) :
    Frame R (V11.dispatchPacket env header payload following) := by
  intro s
  unfold V11.dispatchPacket
  cases V11.find header.serviceId with
  | none =>
    rw [Option.map_none, dispatch_none]
    exact refl_of R s
  | some service =>
    -- blocking a user is the one operation that `Basic` says nothing about
    by_cases hService : service = .changeBlockedUser
    · rw [hService]
      exact @V11.changeBlockedUser_frame _ _ hR env payload following s fun fields _ _ _ =>
        hBlock s fields.contactId.chars
    · exact V11.parse_frame hR env hService payload following s

end Giblet.YMsg
