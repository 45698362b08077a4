import Giblet.YMsg.Authentication
import Giblet.YMsg.RoundTrip
import Mathlib.Data.Finset.Basic
import Mathlib.Data.Finset.Dedup

/-!
# YMsg — the client's picture of roster and block list

What a client can know of its contacts and blocked users is what it was sent:
a `ClientProfile` packet lists both, and `ContactBlocked` and
`ContactUnblocked` change the second. `Picture.hear` is the abstract client;
a session is `Synced` when the client's picture is the server's state.

Every operation changes its manager before it sends, and nothing is undone
when a packet turns out too large. So the picture follows the state
(`clientPicture_follows`) as long as no packet threw in between, after it had
changed something.

* `Quiet` — the frame of the operations that change neither list.
* `Followed` — what one packet does to a session, however it ends.
* `dispatchPacket_followed` — every V11 packet does just that.
-/

namespace Giblet.YMsg

open Effect PacketParser Run SessionContext

/-! ## The abstract client -/

/-- The contacts with their groups, and the blocked users. -/
structure Picture where
  roster : List (Bytes × Bytes)
  blocked : Finset Bytes
  deriving DecidableEq

/-- The picture after one more packet. -/
def Picture.hear : Option Picture → Message → Option Picture
  | _, .clientProfile _ _ contacts blocked =>
    some ⟨contacts.map fun c => (c.id, c.group), blocked.blockedUsers_.toFinset⟩
  | some p, .contactBlockedOrUnblocked _ contactId .Blocked =>
    some { p with blocked := insert contactId p.blocked }
  | some p, .contactBlockedOrUnblocked _ contactId .Unblocked =>
    some { p with blocked := p.blocked.erase contactId }
  | p, _ => p

/-- The picture of a client that was sent these packets; `none` before the first profile. -/
def clientPicture (sent : List Sent) : Option Picture :=
  sent.foldl (fun p packet => Picture.hear p packet.message) none

/-- Is it a `ClientProfile` packet? -/
def Message.isProfile : Message → Bool
  | .clientProfile .. => true
  | _ => false

/-- A message that says nothing about either list. -/
def Neutral (m : Message) : Prop := ∀ p, Picture.hear p m = p

theorem Neutral.isProfile {m : Message} (h : Neutral m) : m.isProfile = false := by
  cases m with
  | clientProfile clientId profiles contacts blocked => cases h none
  | _ => rfl

theorem clientPicture_append_neutral (sent : List Sent) {new : List Sent}
    (h : ∀ p ∈ new, Neutral p.message) : clientPicture (sent ++ new) = clientPicture sent := by
  unfold clientPicture
  rw [List.foldl_append]
  generalize sent.foldl _ none = picture
  -- on the new packets
  induction new with
  | nil => rfl
  | cons p rest ih =>
    rw [List.foldl_cons, h p List.mem_cons_self]
    exact ih fun q hq => h q (List.mem_cons_of_mem _ hq)

theorem clientPicture_push (s : SessionContext) (m : Message) :
    clientPicture (s.push m).connection_.sent =
      Picture.hear (clientPicture s.connection_.sent) m := by
  unfold clientPicture push ClientConnection.push
  rw [List.foldl_append]
  rfl

/-! ## The server's side -/

/-- The state the client should know. -/
def SessionContext.picture (s : SessionContext) : Picture :=
  ⟨s.contactManager_.roster, s.blockedContactManager_.blockedUsers_.toFinset⟩

/-- The client knows it. -/
def SessionContext.Synced (s : SessionContext) : Prop :=
  clientPicture s.connection_.sent = some s.picture

/-- No user is blocked twice. -/
def SessionContext.BlockedOnce (s : SessionContext) : Prop :=
  s.blockedContactManager_.blockedUsers_.Nodup

/-- Neither list changed. -/
def Unchanged (s s' : SessionContext) : Prop :=
  s'.contactManager_.roster = s.contactManager_.roster ∧
    s'.blockedContactManager_ = s.blockedContactManager_

theorem Unchanged.picture {s s' : SessionContext} (h : Unchanged s s') :
    s'.picture = s.picture := by
  unfold SessionContext.picture
  rw [h.1, h.2]

/-- Sending the profile tells the client everything. -/
theorem synced_push_clientProfile (s : SessionContext) : (s.push s.clientProfile).Synced := by
  unfold Synced
  rw [clientPicture_push]
  rfl

/-! ## Operations that change neither list -/

/-- Neither list changed, and nothing was said about them. -/
structure Quiet (s s' : SessionContext) : Prop where
  unchanged : Unchanged s s'
  sent : ∃ new, s'.connection_.sent = s.connection_.sent ++ new ∧ ∀ p ∈ new, Neutral p.message

instance : IsPreorder SessionContext Quiet where
  refl s := ⟨⟨rfl, rfl⟩, [], (List.append_nil _).symm, fun _ h => absurd h List.not_mem_nil⟩
  trans s t u h h' := by
    obtain ⟨new, hNew, hNeutral⟩ := h.sent
    obtain ⟨new', hNew', hNeutral'⟩ := h'.sent
    refine ⟨⟨h'.unchanged.1.trans h.unchanged.1, h'.unchanged.2.trans h.unchanged.2⟩,
      new ++ new', ?_, List.forall_mem_append.mpr ⟨hNeutral, hNeutral'⟩⟩
    rw [hNew', hNew, List.append_assoc]

/-- Changes of what is neither of the two lists nor the connection. -/
theorem Quiet.of_same {s s' : SessionContext} (hUnchanged : Unchanged s s')
    (hSent : s'.connection_ = s.connection_) : Quiet s s' :=
  ⟨hUnchanged, [], by rw [hSent, List.append_nil], fun _ h => absurd h List.not_mem_nil⟩

theorem Quiet.synced {s s' : SessionContext} (h : Quiet s s') (hSynced : s.Synced) :
    s'.Synced := by
  obtain ⟨new, hNew, hNeutral⟩ := h.sent
  unfold Synced at hSynced ⊢
  rw [hNew, clientPicture_append_neutral _ hNeutral, hSynced, h.unchanged.picture]

theorem Quiet.blockedOnce {s s' : SessionContext} (h : Quiet s s') (hOnce : s.BlockedOnce) :
    s'.BlockedOnce := by
  unfold BlockedOnce at hOnce ⊢
  rw [h.unchanged.2]
  exact hOnce

theorem send_quiet {m : Message} (hNeutral : Neutral m) : Frame Quiet (send m) := by
  intro s
  rw [send_run]
  split
  · refine ⟨⟨rfl, rfl⟩, [s.connection_.packet m], rfl, ?_⟩
    intro p hp
    obtain rfl := List.mem_singleton.mp hp
    exact hNeutral
  · exact refl_of Quiet s

/-- A presence event changes a contact, but not its id or group. -/
theorem onContact_quiet {change : ContactManager → Option (ContactInfo × ContactManager)}
    {message : ContactInfo → Message}
    (hChange : ∀ m c m', change m = some (c, m') → m'.roster = m.roster)
    (hMessage : ∀ c, Neutral (message c)) :
    Frame Quiet (PresenceEvents.onContact change message) := by
  intro s
  unfold PresenceEvents.onContact
  rw [bind_run, get_run]
  dsimp only
  cases hSome : change s.contactManager_ with
  -- somebody the client does not know
  | none => exact refl_of Quiet s
  | some r =>
    have hSet : Quiet s { s with contactManager_ := r.2 } :=
      .of_same ⟨hChange _ r.1 r.2 hSome, rfl⟩ rfl
    exact trans_of Quiet hSet (send_quiet (hMessage r.1) _)

theorem setPresence_quiet (properties : PresenceProperties) {event : Bytes → SessionAction}
    (hEvent : ∀ id, Frame Quiet (event id)) :
    Frame Quiet (MockPresenceManagementLink.setPresence properties event) := by
  unfold MockPresenceManagementLink.setPresence setProperties
  refine .bind (.modify fun s => .of_same ⟨rfl, rfl⟩ rfl) fun _ => .bind .get fun s => ?_
  -- the profiles that are contacts hear of the change one after another
  refine .forM (fun profile => .bind .get fun s' => ?_) _
  split
  · exact hEvent profile
  · exact .pure _

theorem statusMessage_neutral (showNotification : Bool) (contact : ContactInfo) :
    Neutral (PresenceEvents.statusMessage showNotification contact) := by
  unfold PresenceEvents.statusMessage
  intro p
  split <;> cases p <;> rfl

/-- The four presence requests that `SetAway` chooses from, and `SetAvailable`. -/
theorem presence_quiet (properties : PresenceProperties)
    (f : Bytes → ContactInfo → ContactInfo)
    (message : Bytes → ContactInfo → Message)
    (hf : ∀ id c, (f id c).id = c.id ∧ (f id c).group = c.group)
    (hMessage : ∀ id c, Neutral (message id c)) :
    Frame Quiet (MockPresenceManagementLink.setPresence properties fun id =>
      PresenceEvents.onContact (·.setContact id (f id)) (message id)) :=
  setPresence_quiet _ fun id => onContact_quiet
    (fun _ _ _ hSet => ContactManager.roster_setContact hSet (hf id)) (hMessage id)

/-! ## What one packet does -/

/-- What handling a packet does to a session, however it ends. -/
structure Followed (s : SessionContext) (r : EStateM.Result Fault SessionContext Unit) : Prop where
  /-- No user gets blocked twice. -/
  blockedOnce : s.BlockedOnce → (finalState r).BlockedOnce
  /-- A profile that was sent is up to date at the end. -/
  profile : ∃ new, (finalState r).connection_.sent = s.connection_.sent ++ new ∧
    ((∃ p ∈ new, p.message.isProfile = true) → (finalState r).Synced)
  /-- The client stays in the picture, unless a change was followed by an exception. -/
  synced : s.Synced → s.BlockedOnce → (∀ e s', r = .error e s' → Unchanged s s') →
    (finalState r).Synced
  /-- Only the exception of an oversized packet follows a change. -/
  fault : ∀ e s', r = .error e s' → Unchanged s s' ∨ e = Builder.tooLarge

/-- An operation that changes neither list. -/
theorem Followed.of_quiet {x : SessionAction} (h : Frame Quiet x) (s : SessionContext) :
    Followed s (x s) where
  blockedOnce := (h s).blockedOnce
  profile := by
    -- it sent no profile
    obtain ⟨new, hNew, hNeutral⟩ := (h s).sent
    refine ⟨new, hNew, fun ⟨p, hp, hProfile⟩ => ?_⟩
    rw [(hNeutral p hp).isProfile] at hProfile
    cases hProfile
  synced hSynced _ _ := (h s).synced hSynced
  fault e s' hError := by
    have hQuiet := h s
    rw [hError] at hQuiet
    exact .inl hQuiet.unchanged

/-- An operation that throws at once. -/
theorem Followed.of_throw (e : Fault) (s : SessionContext) :
    Followed s (.error e s : EStateM.Result Fault SessionContext Unit) :=
  .of_quiet (Frame.throw e) s

/-- What comes after an operation, and only sends. -/
theorem Followed.bind {x : SessionAction} {f : Unit → SessionAction} {s : SessionContext}
    (hx : Followed s (x s)) (hf : ∀ a, Frame Quiet (f a))
    (hFaults : ∀ a, Faults (· = Builder.tooLarge) (f a)) : Followed s ((x >>= f) s) := by
  rw [bind_run]
  cases hFirst : x s with
  | error e s₁ =>
    rw [hFirst] at hx
    exact hx
  | ok a s₁ =>
    rw [hFirst] at hx
    have hRest : Followed s₁ (f a s₁) := .of_quiet (hf a) s₁
    have hQuiet := hf a s₁
    obtain ⟨new, hNew, hProfile⟩ := hx.profile
    obtain ⟨new', hNew', hNeutral⟩ := hQuiet.sent
    rw [finalState_ok] at hNew
    -- the operation returned, so it broke nothing
    have hReturned : ∀ e s', (.ok a s₁ : EStateM.Result Fault SessionContext Unit) = .error e s' →
        Unchanged s s' := by
      intro e s' h
      cases h
    refine ⟨fun h => hRest.blockedOnce (hx.blockedOnce h), ⟨new ++ new', ?_, ?_⟩,
      fun hSynced hOnce _ => hQuiet.synced (hx.synced hSynced hOnce hReturned),
      fun e s' hError => .inr (hFaults a s₁ e s' hError)⟩
    · rw [hNew', hNew, List.append_assoc]
    -- a profile among the packets was sent by either of the two
    · intro ⟨p, hp, hIsProfile⟩
      cases List.mem_append.mp hp with
      | inl hEarlier => exact hQuiet.synced (hProfile ⟨p, hEarlier, hIsProfile⟩)
      | inr hLater =>
        rw [(hNeutral p hLater).isProfile] at hIsProfile
        cases hIsProfile

theorem send_tooLarge (m : Message) : Faults (· = Builder.tooLarge) (send m) := by
  intro s e s' h
  rw [send_run] at h
  split at h
  · cases h
  · cases h
    rfl

theorem requestClientProfile_run (s : SessionContext) :
    requestClientProfile s =
      if s.clientProfile.Fits then .ok () (s.push s.clientProfile)
      else .error Builder.tooLarge s := by
  unfold requestClientProfile
  rw [bind_run, get_run]
  exact send_run s.clientProfile s

/-- **Contacts that changed are announced.** From the state after the change: the
news, and a fresh profile. -/
theorem announce_followed (s : SessionContext) (contactManager : ContactManager) {m : Message}
    (hNeutral : Neutral m) :
    Followed s
      ((do send m; requestClientProfile) { s with contactManager_ := contactManager }) := by
  generalize hChanged : { s with contactManager_ := contactManager } = s₁
  have hBlocked : s₁.blockedContactManager_ = s.blockedContactManager_ := by rw [← hChanged]
  have hSent : s₁.connection_ = s.connection_ := by rw [← hChanged]
  have hOnce : s.BlockedOnce → s₁.BlockedOnce := by
    unfold BlockedOnce
    rw [hBlocked]
    exact id
  -- a state with the old log is synced when neither list changed
  have hSame : s.Synced → Unchanged s s₁ → s₁.Synced := fun hSynced hUnchanged =>
    (Quiet.of_same hUnchanged hSent).synced hSynced
  rw [bind_run, send_run]
  by_cases hFits : m.Fits
  · rw [if_pos hFits]
    dsimp only
    rw [requestClientProfile_run]
    have hPushed : (s₁.push m).connection_.sent =
        s.connection_.sent ++ [s.connection_.packet m] := by
      rw [← hSent]
      rfl
    by_cases hProfile : (s₁.push m).clientProfile.Fits
    -- both packets are out: the profile says everything
    · rw [if_pos hProfile]
      have hSynced := synced_push_clientProfile (s₁.push m)
      refine ⟨hOnce, ⟨[s.connection_.packet m] ++
        [(s₁.push m).connection_.packet (s₁.push m).clientProfile], ?_, fun _ => hSynced⟩,
        fun _ _ _ => hSynced, fun e s' h => by cases h⟩
      rw [← List.append_assoc, ← hPushed]
      rfl
    -- the profile is too large: the change is made and not told
    · rw [if_neg hProfile]
      refine ⟨hOnce, ⟨_, hPushed, ?_⟩, ?_, fun e s' h => by cases h; exact .inr rfl⟩
      · intro ⟨p, hp, hIsProfile⟩
        obtain rfl := List.mem_singleton.mp hp
        rw [show (s.connection_.packet m).message = m from rfl, hNeutral.isProfile] at hIsProfile
        cases hIsProfile
      · intro hSynced _ hReturned
        have hUnchanged : Unchanged s s₁ := hReturned _ (s₁.push m) rfl
        unfold Synced
        rw [finalState_error, clientPicture_push, hNeutral]
        exact hSame hSynced hUnchanged
  -- not even the news was sent
  · rw [if_neg hFits]
    refine ⟨hOnce, ⟨[], by rw [finalState_error, hSent, List.append_nil],
      fun ⟨p, hp, _⟩ => absurd hp List.not_mem_nil⟩,
      fun hSynced _ hReturned => hSame hSynced (hReturned _ _ rfl), fun e s' h => by
        cases h
        exact .inr rfl⟩

/-- **A change of the block list** is announced by its increment. -/
theorem increment_followed (s : SessionContext) {blockedContactManager : BlockedContactManager}
    {m : Message} (hProfile : m.isProfile = false)
    (hOnce : s.BlockedOnce → blockedContactManager.blockedUsers_.Nodup)
    (hHear : s.BlockedOnce → Picture.hear (some s.picture) m =
      some ⟨s.contactManager_.roster, blockedContactManager.blockedUsers_.toFinset⟩) :
    Followed s (send m { s with blockedContactManager_ := blockedContactManager }) := by
  rw [send_run]
  by_cases hFits : m.Fits
  -- the client makes the same change to what it knows
  · rw [if_pos hFits]
    refine ⟨hOnce, ⟨[s.connection_.packet m], rfl, ?_⟩, ?_, fun e s' h => by cases h⟩
    · intro ⟨p, hp, hIsProfile⟩
      obtain rfl := List.mem_singleton.mp hp
      rw [show (s.connection_.packet m).message = m from rfl, hProfile] at hIsProfile
      cases hIsProfile
    · intro hSynced hBlockedOnce _
      unfold Synced at hSynced ⊢
      rw [finalState_ok, clientPicture_push]
      show Picture.hear (clientPicture s.connection_.sent) m = _
      rw [hSynced, hHear hBlockedOnce]
      rfl
  · rw [if_neg hFits]
    refine ⟨hOnce, ⟨[], (List.append_nil _).symm, fun ⟨p, hp, _⟩ => absurd hp List.not_mem_nil⟩,
      fun hSynced _ hReturned => ?_, fun e s' h => by
        cases h
        exact .inr rfl⟩
    exact (Quiet.of_same (hReturned _ _ rfl) rfl).synced hSynced

/-! ## The services -/

theorem addRequestPending_followed (env : Env) (clientId contactId group : Bytes)
    (s : SessionContext) :
    Followed s (ContactManagementEvents.onAddRequestPending env clientId contactId group s) := by
  unfold ContactManagementEvents.onAddRequestPending
  rw [bind_run, get_run]
  dsimp only
  cases s.contactManager_.addPendingContact (env.isInChat contactId) contactId group with
  | error e => exact .of_throw e s
  | ok contactManager =>
    unfold setContacts
    dsimp only
    rw [bind_run, modify_run]
    exact announce_followed s contactManager (fun p => by cases p <;> rfl)

theorem addContact_followed (env : Env) (clientId contactId group message : Bytes)
    (s : SessionContext) :
    Followed s (MockContactManagementLink.addContact env clientId contactId group message s) := by
  unfold MockContactManagementLink.addContact
  rw [bind_run, get_run]
  dsimp only
  -- the four refusals send one packet each
  have hRefused (contactId group : Bytes) (status : AddContactRequestResultStatus) :
      Followed s (ContactManagementEvents.onAddRequestRefused clientId contactId group status s) :=
    .of_quiet (send_quiet fun p => by cases p <;> rfl) s
  split_ifs with hGroup hContact hBlocked hUnknown
  · exact hRefused ..
  · exact hRefused ..
  · exact hRefused ..
  · exact hRefused ..
  · refine .bind (addRequestPending_followed ..) (fun _ => ?_) fun _ => ?_
    · exact send_quiet fun p => by cases p <;> rfl
    · exact send_tooLarge _
  · refine .bind (addRequestPending_followed ..) (fun _ => .pure _) fun _ => .pure _

theorem removeContact_followed (clientId contactId group : Bytes) (s : SessionContext) :
    Followed s (MockContactManagementLink.removeContact clientId contactId group s) := by
  unfold MockContactManagementLink.removeContact
  rw [bind_run, get_run]
  dsimp only
  split
  · exact .of_quiet (send_quiet fun p => by cases p <;> rfl) s
  · unfold ContactManagementEvents.onContactRemoved setContacts
    rw [bind_run, get_run]
    dsimp only
    rw [bind_run, modify_run]
    exact announce_followed s _ (fun p => by cases p <;> rfl)

theorem renameGroup_followed (currentName newName : Bytes) (s : SessionContext) :
    Followed s (MockContactManagementLink.renameGroup currentName newName s) := by
  unfold MockContactManagementLink.renameGroup
  split
  · exact .of_quiet (Frame.pure _) s
  · unfold ContactManagementEvents.onGroupRenamed setContacts
    rw [bind_run, get_run]
    dsimp only
    rw [bind_run, modify_run]
    exact announce_followed s _ (fun p => by cases p <;> rfl)

theorem toFinset_add (m : BlockedContactManager) (contactId : Bytes) :
    (m.add contactId).blockedUsers_.toFinset = insert contactId m.blockedUsers_.toFinset := by
  ext user
  unfold BlockedContactManager.add BlockedContactManager.isBlocked
  split
  -- adding somebody who is blocked changes nothing
  · rename_i hBlocked
    rw [List.contains_iff_mem] at hBlocked
    rw [Finset.mem_insert, List.mem_toFinset]
    exact ⟨.inr, fun h => h.elim (fun hSame => hSame ▸ hBlocked) id⟩
  · rw [List.mem_toFinset, List.mem_append, List.mem_singleton, Finset.mem_insert,
      List.mem_toFinset, or_comm]

theorem add_blockedOnce {m : BlockedContactManager} (hNodup : m.blockedUsers_.Nodup)
    (contactId : Bytes) : (m.add contactId).blockedUsers_.Nodup := by
  unfold BlockedContactManager.add BlockedContactManager.isBlocked
  split
  · exact hNodup
  · rename_i hNew
    rw [List.contains_iff_mem] at hNew
    exact List.Nodup.append hNodup (List.nodup_singleton _) (by simpa using hNew)

theorem toFinset_remove {m : BlockedContactManager} (hNodup : m.blockedUsers_.Nodup)
    (contactId : Bytes) :
    (m.remove contactId).blockedUsers_.toFinset = m.blockedUsers_.toFinset.erase contactId := by
  ext user
  rw [List.mem_toFinset, BlockedContactManager.remove, hNodup.mem_erase_iff, Finset.mem_erase,
    List.mem_toFinset]

theorem changeBlockedUser_followed (payload : Payloads.ChangeBlockedUser) (s : SessionContext) :
    Followed s (Processors.changeBlockedUser payload s) := by
  unfold Processors.changeBlockedUser
  -- both directions: the manager first, then the increment
  split_ifs
  · unfold MockBlockedContactManagementLink.add
    rw [bind_run, get_run]
    dsimp only
    split
    · exact .of_throw _ s
    · unfold BlockedContactManagementEvents.onBlocked setBlocked
      rw [bind_run, get_run]
      dsimp only
      rw [bind_run, modify_run]
      refine increment_followed s rfl (fun hOnce => add_blockedOnce hOnce _) fun _ => ?_
      rw [toFinset_add]
      rfl
  · unfold MockBlockedContactManagementLink.remove
    rw [bind_run, get_run]
    dsimp only
    split
    · exact .of_throw _ s
    · unfold BlockedContactManagementEvents.onUnblocked setBlocked
      rw [bind_run, get_run]
      dsimp only
      rw [bind_run, modify_run]
      refine increment_followed s rfl (fun hOnce => List.Nodup.erase _ hOnce) fun hOnce => ?_
      rw [toFinset_remove hOnce]
      rfl
  · exact .of_quiet (Frame.pure _) s

theorem setAway_quiet (following : Bytes) (payload : Payloads.SetAway) :
    Frame Quiet (Processors.setAway following payload) := by
  unfold Processors.setAway
  cases toEnum following payload.statusId with
  | error e => exact .throw e
  | ok code =>
    dsimp only
    split
    · exact presence_quiet _ _ _ (fun _ _ => ⟨rfl, rfl⟩) fun _ _ p => by cases p <;> rfl
    · cases Processors.busyFlag following payload.busyState with
      | error e => exact .throw e
      | ok isBusy =>
        dsimp only
        -- whichever status, it ends in one of the presence operations
        split_ifs
        · exact presence_quiet _ _ _ (fun _ _ => ⟨rfl, rfl⟩) fun _ _ p => by cases p <;> rfl
        · exact presence_quiet _ _ _ (fun _ _ => ⟨rfl, rfl⟩) fun _ c => statusMessage_neutral true c
        · exact presence_quiet _ _ _ (fun _ _ => ⟨rfl, rfl⟩) fun _ _ p => by cases p <;> rfl

theorem setAvailable_quiet (payload : Unit) : Frame Quiet (Processors.setAvailable payload) := by
  unfold Processors.setAvailable MockPresenceManagementLink.setAvailable
  exact presence_quiet _ _ _ (fun _ _ => ⟨rfl, rfl⟩) fun _ c => statusMessage_neutral true c

theorem serviceOperation_quiet (following : Bytes) (payload : Payloads.ServiceOperation) :
    Frame Quiet (Processors.serviceOperation following payload) := by
  unfold Processors.serviceOperation
  split
  · cases toEnum following payload.action with
    | error e => exact .throw e
    | ok code => exact send_quiet fun p => by cases p <;> rfl
  · exact .pure _

theorem confirm_quiet {m : Message} (hNeutral : Neutral m) (profileId : Bytes) :
    Frame Quiet (MockProfileManagementLink.confirm m profileId) := by
  unfold MockProfileManagementLink.confirm
  refine .bind .get fun s => ?_
  split
  · exact .bind (.throw _) fun _ => send_quiet hNeutral
  · exact send_quiet hNeutral

theorem denyRequest_quiet (clientId contactId message : Bytes) :
    Frame Quiet (MockContactManagementLink.denyRequest clientId contactId message) := by
  unfold MockContactManagementLink.denyRequest
  refine .bind .get fun s => ?_
  split
  · exact send_quiet fun p => by cases p <;> rfl
  · exact .pure _

theorem requestProfile_followed (s : SessionContext) : Followed s (requestClientProfile s) := by
  rw [requestClientProfile_run]
  split
  · exact ⟨id, ⟨_, rfl, fun _ => synced_push_clientProfile s⟩,
      fun _ _ _ => synced_push_clientProfile s, fun e s' h => by cases h⟩
  · exact .of_throw _ s

/-- The parse comes first; it leaves the session alone. -/
theorem processPacket_followed {π : Type} (fields : π)
    (onKeyPair : Int32 → StringView → Action π Unit) {process : π → SessionAction}
    (h : ∀ fields s, Followed s (process fields s)) (payload : Bytes) (s : SessionContext) :
    Followed s (processPacket fields onKeyPair process payload s) := by
  unfold processPacket
  split
  · exact .of_throw _ s
  · exact h _ s

/-- The services that announce a change of the roster or of the block list. -/
def announcingServices : List V11.Service :=
  [.requestProfile, .addContact, .renameContactGroup, .removeContact, .changeBlockedUser]

/-- What is processed quietly is handled quietly. -/
theorem processPacket_quiet {π : Type} (fields : π)
    (onKeyPair : Int32 → StringView → Action π Unit) {process : π → SessionAction}
    (h : ∀ fields, Frame Quiet (process fields)) (payload : Bytes) :
    Frame Quiet (processPacket fields onKeyPair process payload) := by
  intro s
  unfold processPacket
  split
  · exact refl_of Quiet s
  · exact h _ s

/-- A packet of any other service. -/
theorem V11.parse_quiet (env : Env) {service : V11.Service}
    (hService : service ∉ announcingServices) (payload following : Bytes) :
    Frame Quiet (V11.parse env service payload following) := by
  cases service with
  | requestProfile => exact absurd (by decide) hService
  | setAway => exact processPacket_quiet _ _ (setAway_quiet _) payload
  | setAvailable => exact processPacket_quiet _ _ setAvailable_quiet payload
  | activateProfile =>
    exact processPacket_quiet _ _ (fun _ => confirm_quiet (fun p => by cases p <;> rfl) _) payload
  | deactivateProfile =>
    exact processPacket_quiet _ _ (fun _ => confirm_quiet (fun p => by cases p <;> rfl) _) payload
  | addContact => exact absurd (by decide) hService
  | renameContactGroup => exact absurd (by decide) hService
  | removeContact => exact absurd (by decide) hService
  | denyContactAddRequest =>
    exact processPacket_quiet _ _ (fun _ => denyRequest_quiet _ _ _) payload
  | changeBlockedUser => exact absurd (by decide) hService
  | privateMessage =>
    exact processPacket_quiet _ _ (fun _ => send_quiet fun p => by cases p <;> rfl) payload
  | massPrivateMessage =>
    exact processPacket_quiet _ _ (fun _ => send_quiet fun p => by cases p <;> rfl) payload
  | serviceOperation => exact processPacket_quiet _ _ (serviceOperation_quiet _) payload
  | chatLogin =>
    exact processPacket_quiet _ _ (fun _ => send_quiet fun p => by cases p <;> rfl) payload
  | chatJoin =>
    exact processPacket_quiet _ _ (fun _ => send_quiet fun p => by cases p <;> rfl) payload

/-- **Every V11 packet** does to a session what `Followed` says. -/
theorem dispatchPacket_followed (env : Env) (header : Header) (payload following : Bytes)
    (s : SessionContext) : Followed s (V11.dispatchPacket env header payload following s) := by
  unfold V11.dispatchPacket
  cases V11.find header.serviceId with
  | none =>
    unfold dispatch
    dsimp only [Option.map_none]
    split
    · exact .of_throw _ s
    · exact .of_quiet (Frame.pure ()) s
  | some service =>
    show Followed s (V11.parse env service payload following s)
    by_cases hService : service ∈ announcingServices
    · simp only [announcingServices, List.mem_cons, List.not_mem_nil, or_false] at hService
      rcases hService with rfl | rfl | rfl | rfl | rfl
      · exact processPacket_followed _ _ (fun _ s => requestProfile_followed s) payload s
      · exact processPacket_followed _ _ (fun _ s => addContact_followed _ _ _ _ _ s) payload s
      · exact processPacket_followed _ _ (fun _ s => renameGroup_followed _ _ s) payload s
      · exact processPacket_followed _ _ (fun _ s => removeContact_followed _ _ _ s) payload s
      · exact processPacket_followed _ _ (fun fields s => changeBlockedUser_followed fields s)
          payload s
    · exact .of_quiet (V11.parse_quiet env hService payload following) s

/-! ## Runs of a session -/

/-- Handling a packet. -/
def handle (s : SessionContext) (a : Arrival) : EStateM.Result Fault SessionContext Unit :=
  V11.dispatchPacket a.env a.header a.payload a.following s

/-- One packet is handled: its processing returns, or throws. -/
def SessionStep (s : SessionContext) (a : Arrival) (s' : SessionContext) : Prop :=
  Defined (handle s a) ∧ s' = finalState (handle s a)

/-- A property that a packet keeps exactly when it is harmless, holds in every state of a run
exactly when all its packets are. -/
theorem SessionStep.always_iff {P : SessionContext → Prop} {C : SessionContext → Arrival → Prop}
    {s₀ s : SessionContext} {arrivals : List Arrival} (hStart : P s₀)
    (hStep : ∀ t a, P t → (P (finalState (handle t a)) ↔ ¬ C t a))
    (hRun : Runs SessionStep s₀ arrivals s) :
    (∀ history rest t, arrivals = history ++ rest → Runs SessionStep s₀ history t → P t) ↔
      ∀ history a rest t, arrivals = history ++ a :: rest → Runs SessionStep s₀ history t →
        ¬ C t a := by
  refine Runs.always_iff hStart (fun t a u ht hLast => ?_) fun history a rest t hSplit ht => ?_
  · rw [hLast.2]
    exact hStep t a ht
  -- the run itself goes on from there
  · rw [hSplit] at hRun
    obtain ⟨u, hu, -⟩ := hRun.resume (fun _ _ _ _ h h' => h.2.trans h'.2.symm) ht
    exact ⟨u, hu⟩

/-- `BeginSession`, the one of the base class or the mock server's, returns. -/
def Begins (s₀ s₁ : SessionContext) : Prop :=
  beginSession s₀ = .ok () s₁ ∨ mockBeginSession s₀ = .ok () s₁

/-- A packet whose handling throws after it changed one of the lists. -/
def Breaks (s : SessionContext) (a : Arrival) : Prop :=
  ∃ e s', handle s a = .error e s' ∧ ¬ Unchanged s s'

/-- A session that has begun is in the picture. -/
theorem synced_of_begins {s₀ s₁ : SessionContext} (h : Begins s₀ s₁) :
    s₁.Synced ∧ (s₀.BlockedOnce → s₁.BlockedOnce) := by
  have hBegin : ∀ t, beginSession s₀ = .ok () t → t.Synced ∧ (s₀.BlockedOnce → t.BlockedOnce) := by
    intro t hRun
    unfold beginSession at hRun
    rw [bind_run, requestClientProfile_run] at hRun
    split_ifs at hRun with hFits
    have hQuiet : Quiet (s₀.push s₀.clientProfile) t := by
      have hRest : Frame Quiet (do
          send (← get).contactStatus
          send .pingConfiguration) :=
        .bind .get fun s => .bind (send_quiet fun p => by cases p <;> rfl) fun _ =>
          send_quiet fun p => by cases p <;> rfl
      have hAfter := hRest (s₀.push s₀.clientProfile)
      dsimp only at hRun
      rw [hRun] at hAfter
      exact hAfter
    exact ⟨hQuiet.synced (synced_push_clientProfile s₀), hQuiet.blockedOnce⟩
  cases h with
  | inl hBase => exact hBegin s₁ hBase
  | inr hMock =>
    unfold mockBeginSession at hMock
    rw [bind_run] at hMock
    cases hRun : beginSession s₀ with
    | error e t =>
      rw [hRun] at hMock
      cases hMock
    | ok _ t =>
      rw [hRun] at hMock
      dsimp only at hMock
      have hExtras : Frame Quiet mockExtras :=
        .bind .get fun s => .bind (sendIf_frame _ (send_quiet fun p => by cases p <;> rfl)) fun _ =>
          .bind (sendIf_frame _ (send_quiet fun p => by cases p <;> rfl)) fun _ =>
          .bind (sendIf_frame _ (send_quiet fun p => by cases p <;> rfl)) fun _ =>
          sendIf_frame _ (send_quiet fun p => by cases p <;> rfl)
      have hQuiet := hExtras t
      rw [hMock] at hQuiet
      obtain ⟨hSynced, hOnce⟩ := hBegin t hRun
      exact ⟨hQuiet.synced hSynced, fun h => hQuiet.blockedOnce (hOnce h)⟩

/-- No profile was sent in `s` after the packet `a` was handled in `t`. -/
def NoProfileSince (t : SessionContext) (a : Arrival) (s : SessionContext) : Prop :=
  ∃ new, s.connection_.sent = (finalState (handle t a)).connection_.sent ++ new ∧
    ∀ p ∈ new, p.message.isProfile = false

/-- **The client's picture follows the server's state**, as long as every packet
that threw after a change was followed by a fresh profile. -/
theorem clientPicture_follows {s₀ s₁ s : SessionContext} {arrivals : List Arrival}
    (hBlocked : s₀.blockedContactManager_.blockedUsers_.Nodup) (hBegin : Begins s₀ s₁)
    (hRun : Runs SessionStep s₁ arrivals s)
    (hFresh : ∀ early a late t, arrivals = early ++ a :: late → Runs SessionStep s₁ early t →
      Breaks t a → ¬ NoProfileSince t a s) :
    clientPicture s.connection_.sent =
      some ⟨s.contactManager_.roster, s.blockedContactManager_.blockedUsers_.toFinset⟩ := by
  obtain ⟨hStart, hOnce⟩ := synced_of_begins hBegin
  -- either the client is in the picture, or some packet broke it and no profile came since
  have hInvariant : s.BlockedOnce ∧ (s.Synced ∨
      ∃ early a late t, arrivals = early ++ a :: late ∧ Runs SessionStep s₁ early t ∧
        Breaks t a ∧ NoProfileSince t a s) := by
    refine hRun.invariant (I := fun arrivals s => s.BlockedOnce ∧ (s.Synced ∨
      ∃ early a late t, arrivals = early ++ a :: late ∧ Runs SessionStep s₁ early t ∧
        Breaks t a ∧ NoProfileSince t a s)) ⟨hOnce hBlocked, .inl hStart⟩ ?_
    intro history t b u hHistory ih hStep
    obtain ⟨hBlockedOnce, hState⟩ := ih
    obtain ⟨-, rfl⟩ := hStep
    have hFollowed : Followed t (handle t b) := dispatchPacket_followed ..
    obtain ⟨new, hNew, hProfile⟩ := hFollowed.profile
    refine ⟨hFollowed.blockedOnce hBlockedOnce, ?_⟩
    cases hState with
    | inl hSynced =>
      by_cases hBreaks : Breaks t b
      · exact .inr ⟨history, b, [], t, rfl, hHistory, hBreaks, [], (List.append_nil _).symm,
          fun _ hp => absurd hp List.not_mem_nil⟩
      · refine .inl (hFollowed.synced hSynced hBlockedOnce fun e s' hError => ?_)
        by_contra hChanged
        exact hBreaks ⟨e, s', hError, hChanged⟩
    | inr hBroken =>
      obtain ⟨early, a, late, w, hSplit, hEarly, hBreaks, since, hSince, hNone⟩ := hBroken
      by_cases hAny : ∃ p ∈ new, p.message.isProfile = true
      · exact .inl (hProfile hAny)
      · refine .inr ⟨early, a, late ++ [b], w, by rw [hSplit]; simp, hEarly, hBreaks,
          since ++ new, by rw [hNew, hSince, List.append_assoc], ?_⟩
        refine List.forall_mem_append.mpr ⟨hNone, fun p hp => ?_⟩
        exact Bool.eq_false_iff.mpr fun hIs => hAny ⟨p, hp, hIs⟩
  cases hInvariant.2 with
  | inl hSynced => exact hSynced
  | inr hBroken =>
    obtain ⟨early, a, late, t, hSplit, hEarly, hBreaks, hNone⟩ := hBroken
    exact absurd hNone (hFresh early a late t hSplit hEarly hBreaks)

/-! ## Two sessions -/

/-- A session without contacts or blocked users, before it begins. -/
def emptySession : SessionContext where
  profileManager_ := ⟨ascii "a", []⟩
  contactManager_ := ⟨.empty⟩
  blockedContactManager_ := ⟨[]⟩
  properties_ := .new .Available
  connection_ := (ClientConnection.new 0 0).setSessionId 0

/-- The session after it has begun. -/
def begunSession : SessionContext := finalState (beginSession emptySession)

/-- A session begins with three packets. -/
theorem beginSession_run {s : SessionContext} (hProfile : s.clientProfile.Fits)
    (hStatus : s.contactStatus.Fits) (hPing : Message.pingConfiguration.Fits) :
    beginSession s =
      .ok () (((s.push s.clientProfile).push s.contactStatus).push .pingConfiguration) := by
  have hUnchanged : (s.push s.clientProfile).contactStatus = s.contactStatus := rfl
  unfold beginSession
  rw [bind_run, requestClientProfile_run, if_pos hProfile]
  dsimp only
  rw [bind_run, get_run]
  dsimp only
  rw [bind_run, send_run, hUnchanged, if_pos hStatus]
  dsimp only
  rw [send_run, if_pos hPing]

theorem beginSession_emptySession : beginSession emptySession = .ok ()
    (((emptySession.push emptySession.clientProfile).push emptySession.contactStatus).push
      .pingConfiguration) :=
  beginSession_run (by decide +kernel) (by decide +kernel) (by decide +kernel)

theorem begunSession_eq : begunSession =
    ((emptySession.push emptySession.clientProfile).push emptySession.contactStatus).push
      .pingConfiguration := by
  rw [begunSession, beginSession_emptySession, finalState_ok]

theorem begins_begunSession : Begins emptySession begunSession := by
  refine .inl ?_
  rw [begunSession_eq, beginSession_emptySession]

/-- A request to add the contact `x` to a group. -/
def addContactPacket (group : Bytes) : Arrival where
  env := .zeros
  header := .new 0 11 131 0
  payload := Builder.encode [(7, ascii "x"), (65, group)]
  following := []

/-- The client learns of a contact in a group with a short name. -/
theorem clientPicture_follows_addContact :
    clientPicture (finalState (handle begunSession (addContactPacket (ascii "g")))).connection_.sent
      = some ⟨(finalState (handle begunSession (addContactPacket
          (ascii "g")))).contactManager_.roster,
        (finalState (handle begunSession (addContactPacket
          (ascii "g")))).blockedContactManager_.blockedUsers_.toFinset⟩ := by
  have hReturned : returned (handle begunSession (addContactPacket (ascii "g"))) = true := by
    rw [begunSession_eq]
    decide +kernel
  have hOk := eq_ok_of_returned hReturned
  have hStep : SessionStep begunSession (addContactPacket (ascii "g"))
      (finalState (handle begunSession (addContactPacket (ascii "g")))) :=
    ⟨by rw [hOk]; exact .ok _ _, rfl⟩
  refine clientPicture_follows List.nodup_nil
    begins_begunSession (.one hStep) ?_
  intro early a late t hSplit hEarly hBreaks
  cases early with
  | cons b rest =>
    have hEmpty := congrArg List.length hSplit
    simp only [List.length_cons, List.length_nil, List.length_append] at hEmpty
    omega
  | nil =>
    have hPacket := (List.cons.inj hSplit).1
    have hStart := hEarly.nil_inv
    obtain ⟨e, s', hError, hChanged⟩ := hBreaks
    rw [hStart, ← hPacket, hOk] at hError
    cases hError

/-- An `AddContact` whose answer is oversized adds the contact all the same. -/
theorem addContact_breaks {env : Env} {clientId contactId group message : Bytes}
    {s : SessionContext} (hGroup : group ≠ [])
    (hContact : s.contactManager_.isContact contactId = false)
    (hBlocked : s.blockedContactManager_.isBlocked contactId = false)
    (hKnown : contactId ≠ ascii "grag")
    (hLarge : ¬ (Message.addContactRequestResult contactId clientId group .AddPending).Fits) :
    ∃ contactManager, (contactId, group) ∈ contactManager.roster ∧
      MockContactManagementLink.addContact env clientId contactId group message s =
        .error Builder.tooLarge { s with contactManager_ := contactManager } := by
  obtain ⟨contactManager, hAdd⟩ :=
    ContactManager.addPendingContact_ok hContact (env.isInChat contactId) group
  refine ⟨contactManager,
    (ContactManager.mem_roster_addPendingContact hAdd _).mpr (.inl rfl), ?_⟩
  have hPending : ContactManagementEvents.onAddRequestPending env clientId contactId group s =
      .error Builder.tooLarge { s with contactManager_ := contactManager } := by
    unfold ContactManagementEvents.onAddRequestPending setContacts
    rw [bind_run, get_run]
    dsimp only
    rw [hAdd]
    dsimp only
    rw [bind_run, modify_run]
    dsimp only
    rw [bind_run, send_run, if_neg hLarge]
  unfold MockContactManagementLink.addContact
  rw [bind_run, get_run]
  dsimp only
  rw [if_neg hGroup, hContact, hBlocked]
  simp only [Bool.false_eq_true, if_false, if_neg hKnown]
  rw [bind_run, hPending]

/-- A `ServiceOperation` packet without a payload: nothing happens. -/
def idlePacket : Arrival where
  env := .zeros
  header := .new 0 11 75 0
  payload := []
  following := []

/-- What handling an `AddContact` packet comes to. -/
theorem handle_addContactPacket {group : Bytes} (hClean : Unterminated group) (s : SessionContext) :
    handle s (addContactPacket group) =
      MockContactManagementLink.addContact .zeros [] (ascii "x") group [] s := by
  have hPairs : ∀ p ∈ [((7 : Int32), ascii "x"), (65, group)], Unterminated p.2 := by
    intro p hp
    cases List.mem_cons.mp hp with
    | inl hFirst =>
      rw [hFirst]
      exact Terminator.clean_singleton _ _ _
    | inr hRest =>
      rw [List.mem_singleton.mp hRest]
      exact hClean
  have hTokens := tokens_encode hPairs
  have hFind : V11.find (addContactPacket group).header.serviceId = some .addContact := rfl
  unfold handle V11.dispatchPacket
  rw [hFind]
  show processPacket {} (assignMember _) (Processors.addContact .zeros)
    (Builder.encode [(7, ascii "x"), (65, group)]) s = _
  unfold processPacket
  rw [parse_assignMember, hTokens]
  unfold Processors.addContact
  simp only [tokensOf, storeTokens, List.foldl_cons, List.foldl_nil]
  show MockContactManagementLink.addContact .zeros [] (StringView.ofField (ascii "x") _).chars
    (StringView.ofField group _).chars [] s = _
  rw [StringView.chars_ofField, StringView.chars_ofField]

theorem handle_idlePacket (s : SessionContext) : handle s idlePacket = .ok () s := by
  unfold handle V11.dispatchPacket
  rw [show V11.find idlePacket.header.serviceId = some .serviceOperation from rfl]
  rfl

/-- A group name that fits into a packet to the server, but not into the answer. -/
def longGroup : Bytes := List.replicate 65500 'g'.toNat.toUInt8

theorem length_longGroup : longGroup.length = 65500 := List.length_replicate

theorem unterminated_longGroup : Unterminated longGroup := by
  refine Terminator.clean_of_not_mem fun h => ?_
  exact absurd (List.eq_of_mem_replicate h) (by decide)

/-- The answer to a request that names such a group is too large. -/
theorem answer_too_large {group : Bytes} (hLength : group.length = 65500) :
    ¬ (Message.addContactRequestResult (ascii "x") [] group .AddPending).Fits := by
  unfold Message.Fits
  simp only [Message.pairs, Message.layout, text, number, List.map_cons, List.map_nil,
    Builder.encode_cons, Builder.encode_nil, List.length_append, Builder.length_encodePair,
    Cell.value_of, hLength]
  unfold Builder.PaxPayloadSize RawHeader.size
  omega

/-- With such a group the contact is added, and nothing is sent. -/
theorem addContactPacket_breaks :
    ∃ contactManager, (ascii "x", longGroup) ∈ contactManager.roster ∧
      handle begunSession (addContactPacket longGroup) =
        .error Builder.tooLarge { begunSession with contactManager_ := contactManager } := by
  have hLength := length_longGroup
  have hPacket := handle_addContactPacket unterminated_longGroup begunSession
  generalize longGroup = group at hLength hPacket ⊢
  rw [hPacket]
  have hContact : begunSession.contactManager_.isContact (ascii "x") = false := by
    rw [begunSession_eq]
    rfl
  have hBlocked : begunSession.blockedContactManager_.isBlocked (ascii "x") = false := by
    rw [begunSession_eq]
    rfl
  exact addContact_breaks (fun h => by rw [h] at hLength; cases hLength) hContact hBlocked
    (by decide) (answer_too_large hLength)

theorem begunSession_contacts : begunSession.contactManager_ = ⟨.empty⟩ := by
  rw [begunSession_eq]
  rfl

/-- After such a packet the client's picture is stale: no profile is sent, and the next
packet is handled as if nothing had happened. -/
theorem clientPicture_stale :
    ¬ ∀ (s₀ s₁ t s : SessionContext) (arrivals : List Arrival) (a : Arrival),
      s₀.blockedContactManager_.blockedUsers_.Nodup → Begins s₀ s₁ →
      Runs SessionStep s₁ arrivals t → handle t a = .ok () s →
      clientPicture s.connection_.sent =
        some ⟨s.contactManager_.roster, s.blockedContactManager_.blockedUsers_.toFinset⟩ := by
  intro hEvery
  obtain ⟨contactManager, hMem, hBroken⟩ := addContactPacket_breaks
  have hStep : SessionStep begunSession (addContactPacket longGroup)
      { begunSession with contactManager_ := contactManager } := by
    unfold SessionStep
    rw [hBroken]
    exact ⟨defined_error_iff.mpr trivial, rfl⟩
  have hPicture := hEvery _ _ _ _ [addContactPacket longGroup] idlePacket List.nodup_nil
    begins_begunSession (.one hStep) (handle_idlePacket _)
  -- what was sent is what the session began with: a profile without contacts
  have hSynced : clientPicture begunSession.connection_.sent = some begunSession.picture :=
    (synced_of_begins begins_begunSession).1
  dsimp only at hPicture
  rw [hSynced] at hPicture
  have hRoster := congrArg Picture.roster (Option.some.inj hPicture)
  unfold SessionContext.picture at hRoster
  rw [begunSession_contacts] at hRoster
  dsimp only at hRoster
  rw [← hRoster] at hMem
  cases hMem

end Giblet.YMsg
