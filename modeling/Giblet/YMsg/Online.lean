import Giblet.YMsg.ProfileText
import Giblet.YMsg.StatusList

/-!
# YMsg — who is online

The client learns from three kinds of packets who is online: a status packet
(service 1) names contacts that are, `ContactOffline` (service 2) one that is
not, and of a contact that no packet has named since it was added, nothing is
known. `SetContactAway` takes any availability, `Offline` among them, and
`OnContactAway` announces it with a status packet.

* `Spoken` — what one act says, and what it makes of the contacts.
* `knowsOnline_iff` — the runs in which the client always knows.
-/

namespace Giblet.YMsg

open Delimited Effect Run SessionContext

/-! ## What a packet says -/

/-- What a message says about a contact that it names: online or offline. -/
def Message.tells (id : Bytes) (m : Message) : Option Bool :=
  if (7, id) ∈ m.pairs then
    if m.layout.serviceId = 1 then some true
    else if m.layout.serviceId = 2 then some false
    else none
  else none

/-- The latest packet that says something about a contact. -/
def lastSaid (id : Bytes) (packets : List Sent) : Option Bool :=
  (packets.filterMap fun p => p.message.tells id).getLast?

/-- A message of another service. -/
def Message.Silent (m : Message) : Prop := m.layout.serviceId ≠ 1 ∧ m.layout.serviceId ≠ 2

theorem Message.Silent.tells {m : Message} (h : m.Silent) (id : Bytes) : m.tells id = none := by
  unfold Message.tells
  rw [if_neg h.1, if_neg h.2, ite_self]

/-- A message of one of the two services says the same about everyone it names. -/
theorem tells_of_named {m : Message} {id : Bytes} {isNamed : Prop} [Decidable isNamed]
    {online : Bool} (hNamed : (7, id) ∈ m.pairs ↔ isNamed)
    (hService : (if m.layout.serviceId = 1 then some true
      else if m.layout.serviceId = 2 then some false else none) = some online) :
    m.tells id = if isNamed then some online else none := by
  unfold Message.tells
  rw [hService]
  exact if_congr hNamed rfl rfl

/-- The only key 7 of a contact's record is its id. -/
theorem mem_record_iff {c : ContactInfo} {id : Bytes} : ((7 : Int32), id) ∈ c.record ↔ id = c.id := by
  obtain ⟨head, tail, hRecord, -, hTail⟩ := record_isRecord c
  obtain ⟨rfl, rfl⟩ := List.cons.inj (hRecord.symm.trans (rfl : c.record = (7, c.id) :: _))
  rw [hRecord, List.mem_cons]
  constructor
  · rintro (hId | hOther)
    · exact (Prod.mk.inj hId).2
    · cases (hTail _ hOther : true = false)
  · rintro rfl
    exact .inl rfl

theorem tells_setContactStatus (id clientId : Bytes) (contacts : List ContactInfo) :
    (Message.setContactStatus clientId contacts).tells id =
      if id ∈ contacts.map ContactInfo.id then some true else none := by
  have hNamed : ((7 : Int32), id) ∈ (Message.setContactStatus clientId contacts).pairs ↔
      id ∈ contacts.map ContactInfo.id := by
    rw [pairs_setContactStatus, List.mem_append, List.mem_flatten, List.mem_map]
    constructor
    · rintro (hOpening | ⟨record, hRecord, hId⟩)
      · simp [contactCount] at hOpening
      · obtain ⟨c, hc, rfl⟩ := List.mem_map.mp hRecord
        exact ⟨c, hc, (mem_record_iff.mp hId).symm⟩
    · rintro ⟨c, hc, rfl⟩
      exact .inr ⟨c.record, List.mem_map_of_mem hc, mem_record_iff.mpr rfl⟩
  exact tells_of_named hNamed rfl

/-- A packet about one contact, with or without a client id in front. -/
theorem tells_updateContactStatus (id : Bytes) (c : ContactInfo) :
    (Message.updateContactStatus c).tells id = if id = c.id then some true else none := by
  have hNamed : ((7 : Int32), id) ∈ (Message.updateContactStatus c).pairs ↔ id = c.id := by
    rw [pairs_updateContactStatus, List.flatten_singleton, List.mem_append, mem_record_iff]
    simp [contactCount]
  exact tells_of_named hNamed rfl

theorem tells_setSingleContactStatus (id clientId : Bytes) (c : ContactInfo) :
    (Message.setSingleContactStatus clientId c).tells id =
      if id = c.id then some true else none := by
  have hNamed : ((7 : Int32), id) ∈ (Message.setSingleContactStatus clientId c).pairs ↔
      id = c.id := by
    show ((7 : Int32), id) ∈ (0, clientId) :: (1, clientId) :: c.record ↔ _
    rw [List.mem_cons, List.mem_cons, mem_record_iff]
    simp
  exact tells_of_named hNamed rfl

theorem tells_statusMessage (id : Bytes) (showNotification : Bool) (c : ContactInfo) :
    (PresenceEvents.statusMessage showNotification c).tells id =
      if id = c.id then some true else none := by
  unfold PresenceEvents.statusMessage
  split
  · exact tells_updateContactStatus id c
  · exact tells_setSingleContactStatus id [] c

theorem tells_contactOffline (id contactId : Bytes) :
    (Message.contactOffline contactId).tells id = if id = contactId then some false else none := by
  have hNamed : ((7 : Int32), id) ∈ (Message.contactOffline contactId).pairs ↔ id = contactId := by
    simp [Message.pairs, Message.layout, text]
  exact tells_of_named hNamed rfl

theorem lastSaid_append (id : Bytes) (earlier later : List Sent) :
    lastSaid id (earlier ++ later) = (lastSaid id later).or (lastSaid id earlier) := by
  unfold lastSaid
  rw [List.filterMap_append, List.getLast?_append]

/-- Nothing is said when no message says anything. -/
theorem lastSaid_none {id : Bytes} {packets : List Sent}
    (h : ∀ p ∈ packets, p.message.tells id = none) : lastSaid id packets = none := by
  rw [lastSaid, List.filterMap_eq_nil_iff.mpr h]
  rfl

/-- When all that is said is the same, that is what was said last. -/
theorem lastSaid_some {id : Bytes} {packets : List Sent} {online : Bool}
    (hAll : ∀ p ∈ packets, p.message.tells id = none ∨ p.message.tells id = some online)
    (hSaid : ∃ p ∈ packets, p.message.tells id = some online) :
    lastSaid id packets = some online := by
  obtain ⟨p, hp, hOnline⟩ := hSaid
  have hMem : online ∈ packets.filterMap fun p => p.message.tells id :=
    List.mem_filterMap.mpr ⟨p, hp, hOnline⟩
  have hLast := List.getLast?_eq_some_getLast (List.ne_nil_of_mem hMem)
  rw [lastSaid, hLast]
  -- the last element is one of those that were said
  obtain ⟨q, hq, hSays⟩ := List.mem_filterMap.mp (List.getLast_mem (List.ne_nil_of_mem hMem))
  rcases hAll q hq with hNone | hSame
  · rw [hNone] at hSays
    cases hSays
  · exact hSays.symm.trans hSame

/-! ## Acts -/

/-- A packet of the client, or an event from elsewhere. -/
inductive Act
  | packet (a : Arrival)
  | event (contactId : Bytes) (e : PresenceEvent)

/-- What comes of it. -/
def Act.outcome (s : SessionContext) : Act → EStateM.Result Fault SessionContext Unit
  | packet a => handle s a
  | event contactId e => e.run contactId s

/-- A session, and how much had been sent when a contact was last added. -/
structure Watched where
  session : SessionContext
  addedAt : Bytes → Nat

namespace Watched

/-- When contacts were added, once the session has become `s'`. -/
def addedBy (w : Watched) (s' : SessionContext) (id : Bytes) : Nat :=
  if s'.contactManager_.isContact id ∧ ¬ w.session.contactManager_.isContact id then
    w.session.connection_.sent.length
  else w.addedAt id

/-- An act that returns. -/
def Step (w : Watched) (act : Act) (w' : Watched) : Prop :=
  act.outcome w.session = .ok () w'.session ∧ w'.addedAt = w.addedBy w'.session

theorem Step.unique {w v v' : Watched} {act : Act} (h : w.Step act v) (h' : w.Step act v') :
    v = v' := by
  have hSession := (EStateM.Result.ok.inj (h.1.symm.trans h'.1)).2
  have hAdded := h.2.trans (hSession ▸ h'.2.symm)
  cases v
  cases v'
  cases hSession
  cases hAdded
  rfl

/-- The session that began: its contacts were there before anything was sent. -/
def begun (s₀ s₁ : SessionContext) : Watched := ⟨s₁, fun _ => s₀.connection_.sent.length⟩

/-- The packets since a contact was added. -/
def since (w : Watched) (id : Bytes) : List Sent :=
  w.session.connection_.sent.drop (w.addedAt id)

/-- **The client knows who is online**: those of whom it was told so last. -/
def KnowsOnline (w : Watched) : Prop :=
  ∀ id c, w.session.contactManager_.contacts_.find? id = some c →
    (lastSaid id (w.since id)).getD false = c.isOnline

/-- What holds of every session. -/
structure Sound (w : Watched) : Prop where
  keyed : w.session.contactManager_.Keyed
  addedAt_le : ∀ id, w.addedAt id ≤ w.session.connection_.sent.length

end Watched

/-- What an act says and does: of the contacts it names it says one thing, and they are what
they become; the others stay, or are new and offline. -/
structure Spoken (s t : SessionContext) (named : Bytes → Prop) (said becomes : Bool) : Prop where
  sent : ∃ new, t.connection_.sent = s.connection_.sent ++ new ∧
    ∀ id, (named id → lastSaid id new = some said) ∧ (¬ named id → lastSaid id new = none)
  shown : ∀ id, named id → ∃ c c', s.contactManager_.contacts_.find? id = some c ∧
    t.contactManager_.contacts_.find? id = some c' ∧ c'.isOnline = becomes
  others : ∀ id, ¬ named id → ∀ c', t.contactManager_.contacts_.find? id = some c' →
    (∃ c, s.contactManager_.contacts_.find? id = some c ∧ c.isOnline = c'.isOnline) ∨
      s.contactManager_.contacts_.find? id = none ∧ c'.isOnline = false

namespace Watched

/-- A contact that was one before has the same beginning. -/
theorem since_step {w w' : Watched} (hSound : w.Sound) {act : Act} (hStep : w.Step act w')
    {new : List Sent} (hSent : w'.session.connection_.sent = w.session.connection_.sent ++ new)
    {id : Bytes} {c : ContactInfo}
    (hContact : w.session.contactManager_.contacts_.find? id = some c) :
    w'.since id = w.since id ++ new := by
  have hAdded : w'.addedAt id = w.addedAt id := by
    rw [hStep.2]
    exact if_neg fun h => h.2 (ContactManager.isContact_iff.mpr ⟨_, hContact⟩)
  rw [since, hAdded, hSent, List.drop_append_of_le_length (hSound.addedAt_le id)]
  rfl

/-- A new contact begins with the act that added it. -/
theorem since_new {w w' : Watched} {act : Act} (hStep : w.Step act w')
    {new : List Sent} (hSent : w'.session.connection_.sent = w.session.connection_.sent ++ new)
    {id : Bytes} {c' : ContactInfo}
    (hContact : w'.session.contactManager_.contacts_.find? id = some c')
    (hNew : w.session.contactManager_.contacts_.find? id = none) : w'.since id = new := by
  have hAdded : w'.addedAt id = w.session.connection_.sent.length := by
    rw [hStep.2]
    refine if_pos ⟨ContactManager.isContact_iff.mpr ⟨_, hContact⟩, ?_⟩
    rw [ContactManager.isContact, OrderedMap.contains_eq_isSome, hNew]
    exact Bool.false_ne_true
  rw [since, hAdded, hSent, List.drop_left]

/-- **One act.** The client still knows exactly when what was said is what the contacts
became, or nobody was named. -/
theorem knowsOnline_step_iff {w w' : Watched} (hSound : w.Sound) (hKnows : w.KnowsOnline)
    {act : Act} (hStep : w.Step act w') {named : Bytes → Prop} {said becomes : Bool}
    (hSpoken : Spoken w.session w'.session named said becomes) :
    w'.KnowsOnline ↔ said = becomes ∨ ∀ id, ¬ named id := by
  obtain ⟨⟨new, hSent, hSaid⟩, hNamed, hOthers⟩ := hSpoken
  constructor
  · intro hAfter
    by_contra hNone
    push Not at hNone
    obtain ⟨hDiffer, id, hId⟩ := hNone
    obtain ⟨c, c', hc, hc', hBecomes⟩ := hNamed id hId
    have hLast := hAfter id c' hc'
    rw [since_step hSound hStep hSent hc, lastSaid_append, (hSaid id).1 hId, Option.some_or,
      Option.getD_some, hBecomes] at hLast
    exact hDiffer hLast
  · intro hSame id c' hc'
    by_cases hId : named id
    · obtain ⟨c, c'', hc, hc'', hBecomes⟩ := hNamed id hId
      obtain rfl := Option.some.inj (hc''.symm.trans hc')
      rw [since_step hSound hStep hSent hc, lastSaid_append, (hSaid id).1 hId, Option.some_or,
        Option.getD_some, hBecomes]
      exact hSame.resolve_right fun hNobody => hNobody id hId
    · rcases hOthers id hId c' hc' with ⟨c, hc, hOnline⟩ | ⟨hNew, hOffline⟩
      · rw [since_step hSound hStep hSent hc, lastSaid_append, (hSaid id).2 hId, Option.none_or,
          hKnows id c hc, hOnline]
      · rw [since_new hStep hSent hc' hNew, (hSaid id).2 hId, hOffline]
        rfl

end Watched

/-! ## Events -/

/-- What an event says of its contact. -/
def PresenceEvent.tells : PresenceEvent → Bool
  | offline => false
  | _ => true

/-- Is the contact online afterwards? -/
def PresenceEvent.becomes : PresenceEvent → Bool
  -- any availability is taken
  | away availability _ => availability ≠ .Offline
  | offline => false
  | _ => true

theorem PresenceEvent.isOnline_change (e : PresenceEvent) (c : ContactInfo) :
    (e.change c).isOnline = e.becomes := by
  cases e <;> rfl

theorem PresenceEvent.tells_message (e : PresenceEvent) (id : Bytes) {contactId : Bytes}
    {c : ContactInfo} (hId : c.id = contactId) :
    (e.message contactId c).tells id = if id = contactId then some e.tells else none := by
  subst hId
  cases e with
  | available showNotification => exact tells_statusMessage id showNotification c
  | idle idleUnknown message isBusy => exact tells_updateContactStatus id c
  | away availability isBusy => exact tells_updateContactStatus id c
  | statusMessage message isBusy showNotification =>
    exact tells_statusMessage id showNotification c
  | offline => exact tells_contactOffline id c.id

/-- **An event** names its contact. -/
theorem spoken_event {s t : SessionContext} (hKeyed : s.contactManager_.Keyed) {contactId : Bytes}
    {e : PresenceEvent} (h : e.run contactId s = .ok () t) :
    Spoken s t (· = contactId) e.tells e.becomes := by
  rw [PresenceEvent.run_eq] at h
  cases hFind : s.contactManager_.contacts_.find? contactId with
  | none =>
    rw [PresenceEvents.onContact_none _ _ hFind] at h
    cases h
  | some c =>
    rw [PresenceEvents.onContact_run _ _ hFind, send_run] at h
    split_ifs at h with hFits
    obtain rfl := (EStateM.Result.ok.inj h).2
    have hId : (e.change c).id = contactId := by
      rw [← hKeyed.find? hFind]
      cases e <;> rfl
    have hAdjust (id : Bytes) := OrderedMap.find?_adjust s.contactManager_.contacts_ contactId id
      e.change
    refine ⟨⟨_, rfl, fun id => ⟨?_, ?_⟩⟩, ?_, ?_⟩
    · rintro rfl
      refine lastSaid_some ?_ ⟨_, List.mem_singleton_self _, ?_⟩
      · intro p hp
        rw [List.mem_singleton.mp hp]
        exact .inr ((e.tells_message _ hId).trans (if_pos rfl))
      · exact (e.tells_message _ hId).trans (if_pos rfl)
    · intro hOther
      refine lastSaid_none fun p hp => ?_
      rw [List.mem_singleton.mp hp]
      exact (e.tells_message id hId).trans (if_neg hOther)
    · rintro id rfl
      refine ⟨c, e.change c, hFind, (hAdjust id).trans ?_, e.isOnline_change c⟩
      rw [if_pos rfl, hFind]
      rfl
    · intro id hOther c' hc'
      have hSame := (hAdjust id).symm.trans hc'
      rw [if_neg hOther] at hSame
      exact .inl ⟨c', hSame, rfl⟩

/-! ## Calls -/

/-- What a presence call says of the profiles that are contacts. -/
def PresenceCall.tells : PresenceCall → Bool
  | setInvisible => false
  | _ => true

/-- Are they online afterwards? -/
def PresenceCall.becomes : PresenceCall → Bool
  | setAway availability _ => availability ≠ .Offline
  | setInvisible => false
  | _ => true

theorem PresenceCall.isOnline_change (call : PresenceCall) (c : ContactInfo) :
    (call.change c).isOnline = call.becomes := by
  cases call <;> rfl

theorem PresenceCall.tells_notification (call : PresenceCall) (id : Bytes) {profile : Bytes}
    {c : ContactInfo} (hId : c.id = profile) :
    (call.notification profile c).tells id = if id = profile then some call.tells else none := by
  subst hId
  cases call with
  | setInvisible => exact tells_contactOffline id c.id
  | _ => exact tells_updateContactStatus id c

/-- What the packets of a call say about somebody. -/
theorem tells_notices {m : ContactManager} (hKeyed : m.Keyed) {call : PresenceCall}
    {profiles : List Bytes} {notice : Message} (h : notice ∈ call.notices m profiles) (id : Bytes) :
    ∃ profile ∈ profiles, m.isContact profile = true ∧
      notice.tells id = if id = profile then some call.tells else none := by
  obtain ⟨profile, hProfile, hNotice⟩ := List.mem_filterMap.mp h
  obtain ⟨c, hFind, rfl⟩ := Option.map_eq_some_iff.mp hNotice
  have hId : (call.change c).id = profile := by
    rw [← hKeyed.find? hFind]
    cases call <;> rfl
  exact ⟨profile, hProfile, ContactManager.isContact_iff.mpr ⟨_, hFind⟩, call.tells_notification id hId⟩

/-- Of a profile that is a contact they say one thing, and nothing of anybody else. -/
theorem lastSaid_notices {m : ContactManager} (hKeyed : m.Keyed) (call : PresenceCall)
    (profiles : List Bytes) (connection : ClientConnection) (id : Bytes) :
    (id ∈ profiles ∧ m.isContact id = true →
        lastSaid id ((call.notices m profiles).map connection.packet) = some call.tells) ∧
      (¬ (id ∈ profiles ∧ m.isContact id = true) →
        lastSaid id ((call.notices m profiles).map connection.packet) = none) := by
  constructor
  · rintro ⟨hProfile, hContact⟩
    refine lastSaid_some (List.forall_mem_map.mpr fun notice hNotice => ?_) ?_
    · obtain ⟨profile, -, -, hTells⟩ := tells_notices hKeyed hNotice id
      show notice.tells id = none ∨ notice.tells id = some call.tells
      rw [hTells]
      split_ifs
      · exact .inr rfl
      · exact .inl rfl
    · obtain ⟨c, hFind⟩ := ContactManager.isContact_iff.mp hContact
      have hNotice : call.notification id (call.change c) ∈ call.notices m profiles :=
        List.mem_filterMap.mpr ⟨id, hProfile, by rw [hFind]; rfl⟩
      have hId : (call.change c).id = id := by
        rw [← hKeyed.find? hFind]
        cases call <;> rfl
      exact ⟨_, List.mem_map_of_mem hNotice, (call.tells_notification id hId).trans (if_pos rfl)⟩
  · intro hOther
    refine lastSaid_none (List.forall_mem_map.mpr fun notice hNotice => ?_)
    obtain ⟨profile, hProfile, hContact, hTells⟩ := tells_notices hKeyed hNotice id
    refine hTells.trans (if_neg ?_)
    rintro rfl
    exact hOther ⟨hProfile, hContact⟩

/-- A call that returns has sent all its packets, and changed all the profiles. -/
theorem PresenceCall.run_returned {s t : SessionContext} {call : PresenceCall}
    (h : call.run s = .ok () t) :
    t.connection_.sent = s.connection_.sent ++
        (call.notices s.contactManager_ s.profileManager_.profiles_).map s.connection_.packet ∧
      ∀ id, t.contactManager_.contacts_.find? id =
        if id ∈ s.profileManager_.profiles_ then
          (s.contactManager_.contacts_.find? id).map call.change
        else s.contactManager_.contacts_.find? id := by
  obtain ⟨-, -, hContacts⟩ := call.run_spec s
  obtain ⟨hConnection, hReturned⟩ := call.run_sends s
  rw [h, finalState_ok] at hContacts hConnection
  rw [h] at hReturned
  have hFits := hReturned.mp rfl
  rw [List.takeWhile_eq_self_iff.mpr fun m hm => decide_eq_true (hFits m hm),
    ← connection_pushAll] at hConnection
  rw [PresenceCall.reached_of_fits hFits] at hContacts
  exact ⟨by rw [hConnection, sent_pushAll], hContacts⟩

/-- **A call** names the profiles that are contacts. -/
theorem spoken_call {s t : SessionContext} (hKeyed : s.contactManager_.Keyed) {call : PresenceCall}
    (h : call.run s = .ok () t) :
    Spoken s t (fun id => id ∈ s.profileManager_.profiles_ ∧
      s.contactManager_.isContact id = true) call.tells call.becomes := by
  obtain ⟨hSent, hContacts⟩ := call.run_returned h
  refine ⟨⟨_, hSent, lastSaid_notices hKeyed call _ _⟩, ?_, ?_⟩
  · rintro id ⟨hProfile, hContact⟩
    obtain ⟨c, hFind⟩ := ContactManager.isContact_iff.mp hContact
    refine ⟨c, call.change c, hFind, ?_, call.isOnline_change c⟩
    rw [hContacts, if_pos hProfile, hFind]
    rfl
  · intro id hOther c' hc'
    rw [hContacts] at hc'
    split at hc'
    · rename_i hProfile
      obtain ⟨c, hFind, -⟩ := Option.map_eq_some_iff.mp hc'
      exact absurd ⟨hProfile, ContactManager.isContact_iff.mpr ⟨c, hFind⟩⟩ hOther
    · exact .inl ⟨c', hc', rfl⟩

/-! ## Packets -/

/-- A message of the services that say who is online. -/
def Message.isStatus : Message → Bool
  | setContactStatus .. | setSingleContactStatus .. | updateContactStatus .. |
    contactOffline .. => true
  | _ => false

theorem Message.silent_of_isStatus {m : Message} (h : m.isStatus = false) : m.Silent := by
  unfold Silent
  cases m with
  | setContactStatus clientId contacts => cases h
  | setSingleContactStatus clientId contact => cases h
  | updateContactStatus contact => cases h
  | contactOffline contactId => cases h
  | _ => simp [layout, Builders.clientProfile]

/-- Nobody goes online or offline; who is new is offline. -/
def Steady (m m' : ContactManager) : Prop :=
  ∀ id c', m'.contacts_.find? id = some c' →
    (∃ c, m.contacts_.find? id = some c ∧ c.isOnline = c'.isOnline) ∨
      m.contacts_.find? id = none ∧ c'.isOnline = false

theorem Steady.refl (m : ContactManager) : Steady m m := fun _ c' hc' => .inl ⟨c', hc', rfl⟩

theorem steady_addPendingContact {m m' : ContactManager} {garbage : Bool}
    {contactId group : Bytes} (hAdd : m.addPendingContact garbage contactId group = .ok m') :
    Steady m m' := by
  obtain ⟨hNew, hFind⟩ := ContactManager.find?_addPendingContact hAdd
  intro id c' hc'
  rw [hFind] at hc'
  split_ifs at hc' with hId
  · obtain rfl := Option.some.inj hc'
    exact .inr ⟨hId ▸ hNew, rfl⟩
  · exact .inl ⟨c', hc', rfl⟩

theorem steady_removeContact (m : ContactManager) (contactId : Bytes) :
    Steady m (m.removeContact contactId) := by
  intro id c' hc'
  have hMem := List.mem_of_mem_filter (OrderedMap.mem_entries_of_find? hc')
  exact .inl ⟨c', OrderedMap.find?_of_mem hMem, rfl⟩

theorem steady_renameGroup (m : ContactManager) (currentName newName : Bytes) :
    Steady m (m.renameGroup currentName newName) := by
  intro id c' hc'
  unfold ContactManager.renameGroup at hc'
  rw [OrderedMap.find?_mapValues] at hc'
  obtain ⟨c, hFind, rfl⟩ := Option.map_eq_some_iff.mp hc'
  refine .inl ⟨c, hFind, ?_⟩
  -- only the group is written
  split <;> rfl

/-- A `SetAway` packet with the number of the placeholder. -/
def AsksOffline (a : Arrival) : Prop :=
  V11.find a.header.serviceId = some .setAway ∧
    ∃ request, PacketParser.parse Payloads.SetAway.onKeyPair a.payload {} = .ok () request ∧
      toEnum a.following request.statusId = .ok Availability.Offline.code

/-- A decision about a packet says nothing about who is online, and the packet does not ask for
the placeholder; or it is a presence, and says what it makes of the contacts if it does not. -/
def Decision.Honest (s : SessionContext) (asks : Prop) : Decision → Prop
  | refused _ => True
  | announced managers messages =>
    ¬ asks ∧ (∀ m ∈ messages, m.isStatus = false) ∧
      Steady s.contactManager_ managers.contactManager_
  | presence call => call.tells = call.becomes ↔ ¬ asks

section Honest

variable {s : SessionContext} {asks : Prop} (hAsks : ¬ asks)
include hAsks

theorem honest_answers {messages : List Message} (h : ∀ m ∈ messages, m.isStatus = false) :
    (s.answers messages).Honest s asks :=
  ⟨hAsks, h, .refl _⟩

theorem honest_answer {m : Message} (h : m.isStatus = false) : (s.answers [m]).Honest s asks :=
  honest_answers hAsks (List.forall_mem_singleton.mpr h)

theorem honest_nothing : (s.answers []).Honest s asks :=
  honest_answers hAsks fun _ h => absurd h List.not_mem_nil

theorem honest_announces {contactManager : ContactManager}
    (hSteady : Steady s.contactManager_ contactManager) {acknowledgement : Message}
    (hFirst : acknowledgement.isStatus = false) {more : List Message}
    (hMore : ∀ m ∈ more, m.isStatus = false) :
    (s.announces contactManager acknowledgement more).Honest s asks :=
  ⟨hAsks, List.forall_mem_cons.mpr ⟨hFirst, List.forall_mem_cons.mpr ⟨rfl, hMore⟩⟩, hSteady⟩

theorem honest_decideAdd (env : Env) (clientId contactId group message : Bytes) :
    (decideAdd s env clientId contactId group message).Honest s asks := by
  by_cases hRefuses : s.Refuses contactId group
  · obtain ⟨status, -, hDecision⟩ := decideAdd_refused hRefuses env clientId message
    rw [hDecision]
    exact honest_answer hAsks rfl
  obtain ⟨contactManager, hAdd, hDecision⟩ := decideAdd_accepted hRefuses env clientId message
  rw [hDecision]
  refine honest_announces hAsks (steady_addPendingContact hAdd) rfl fun m hm => ?_
  rw [List.mem_singleton.mp (List.mem_ite_nil_right.mp hm).2]
  rfl

theorem honest_decideRemove (clientId contactId group : Bytes) :
    (decideRemove s clientId contactId group).Honest s asks := by
  unfold decideRemove
  split
  · exact honest_announces hAsks (steady_removeContact _ _) rfl
      fun _ h => absurd h List.not_mem_nil
  · exact honest_answer hAsks rfl

theorem honest_decideRename (currentName newName : Bytes) :
    (decideRename s currentName newName).Honest s asks := by
  unfold decideRename
  split
  · exact honest_nothing hAsks
  · exact honest_announces hAsks (steady_renameGroup _ _ _) rfl
      fun _ h => absurd h List.not_mem_nil

theorem honest_decideDeny (clientId contactId message : Bytes) :
    (decideDeny s clientId contactId message).Honest s asks := by
  unfold decideDeny
  split
  · exact honest_answer hAsks rfl
  · exact honest_nothing hAsks

theorem honest_decideConfirm {m : Message} (hm : m.isStatus = false) (profileId : Bytes) :
    (decideConfirm s m profileId).Honest s asks := by
  unfold decideConfirm
  split
  · exact honest_answer hAsks hm
  · exact trivial

theorem honest_decideBlocked (payload : Payloads.ChangeBlockedUser) :
    (decideBlocked s payload).Honest s asks := by
  unfold decideBlocked
  split_ifs
  · exact trivial
  · exact ⟨hAsks, List.forall_mem_singleton.mpr rfl, .refl _⟩
  · exact ⟨hAsks, List.forall_mem_singleton.mpr rfl, .refl _⟩
  · exact trivial
  · exact honest_nothing hAsks

theorem honest_decideOperation (following : Bytes) (payload : Payloads.ServiceOperation) :
    (decideOperation s following payload).Honest s asks := by
  unfold decideOperation
  split
  · split
    · exact trivial
    · exact honest_answer hAsks rfl
  · exact honest_nothing hAsks

end Honest

theorem honest_decideOn {s : SessionContext} {asks : Prop} {π : Type} {fields : π}
    {onKeyPair : Int32 → StringView → Action π Unit} {payload : Bytes} {decision : π → Decision}
    (h : ∀ request, PacketParser.parse onKeyPair payload fields = .ok () request →
      (decision request).Honest s asks) :
    (decideOn fields onKeyPair payload decision).Honest s asks :=
  (decideOn_iff (P := Decision.Honest s asks) fun _ => trivial).mpr h

/-- The call of a `SetAway` says what it makes of the contacts, but for the placeholder. -/
theorem awayCall_tells {following : Bytes} {request : Payloads.SetAway} {call : PresenceCall}
    (h : awayCall following request = .ok call) :
    call.tells = call.becomes ↔
      toEnum following request.statusId ≠ .ok Availability.Offline.code := by
  unfold awayCall at h
  cases hCode : toEnum following request.statusId with
  | error e =>
    rw [hCode] at h
    cases h
  | ok code =>
    have hPlaceholder : (Except.ok code : Except Fault Int32) ≠ .ok Availability.Offline.code ↔
        (⟨code⟩ : Availability) ≠ .Offline := by
      rw [ne_eq, Except.ok.injEq, ne_eq, Availability.Offline, Availability.mk.injEq]
    rw [hPlaceholder]
    simp only [hCode] at h
    by_cases hInvisible : (⟨code⟩ : Availability) = .Invisible
    · rw [if_pos hInvisible] at h
      cases h
      exact iff_of_true rfl (hInvisible ▸ by decide)
    rw [if_neg hInvisible] at h
    split at h
    · cases h
    split_ifs at h with hIdle hCustom
    · cases h
      exact iff_of_true rfl (hIdle ▸ by decide)
    · cases h
      exact iff_of_true rfl (hCustom ▸ by decide)
    · cases h
      -- any other status is shown as it is
      show true = decide _ ↔ _
      rw [eq_comm, decide_eq_true_eq]

/-- **A packet** says who is online only when it changes the client's presence. -/
theorem honest_decision (s : SessionContext) (a : Arrival) :
    (decision s a).Honest s (AsksOffline a) := by
  have hOther {service : V11.Service} (hService : V11.find a.header.serviceId = some service)
      (hDiffers : service ≠ .setAway) : ¬ AsksOffline a := by
    intro ⟨hSetAway, _⟩
    exact hDiffers (Option.some.inj (hService.symm.trans hSetAway))
  unfold decision
  cases hService : V11.find a.header.serviceId with
  | none =>
    have hAsks : ¬ AsksOffline a := by
      intro ⟨hSetAway, _⟩
      rw [hService] at hSetAway
      cases hSetAway
    exact honest_decideOn fun _ _ => honest_nothing hAsks
  | some service =>
    have hAsks := hOther hService
    cases service with
    | setAway =>
      refine honest_decideOn fun request hParse => ?_
      unfold decideAway
      cases hCall : awayCall a.following request with
      | error e => exact trivial
      | ok call =>
        refine (awayCall_tells hCall).trans (not_congr ?_)
        constructor
        · exact fun hCode => ⟨hService, request, hParse, hCode⟩
        · intro ⟨_, request', hParse', hCode⟩
          obtain rfl := (EStateM.Result.ok.inj (hParse.symm.trans hParse')).2
          exact hCode
    | setAvailable => exact honest_decideOn fun _ _ => iff_of_true rfl (hAsks nofun)
    | activateProfile | deactivateProfile =>
      exact honest_decideOn fun _ _ => honest_decideConfirm (hAsks nofun) rfl _
    | addContact => exact honest_decideOn fun _ _ => honest_decideAdd (hAsks nofun) ..
    | renameContactGroup => exact honest_decideOn fun _ _ => honest_decideRename (hAsks nofun) ..
    | removeContact => exact honest_decideOn fun _ _ => honest_decideRemove (hAsks nofun) ..
    | denyContactAddRequest => exact honest_decideOn fun _ _ => honest_decideDeny (hAsks nofun) ..
    | changeBlockedUser => exact honest_decideOn fun _ _ => honest_decideBlocked (hAsks nofun) _
    | serviceOperation => exact honest_decideOn fun _ _ => honest_decideOperation (hAsks nofun) ..
    | requestProfile | privateMessage | massPrivateMessage | chatLogin | chatJoin =>
      exact honest_decideOn fun _ _ => honest_answer (hAsks nofun) rfl

/-! ## Runs -/

/-- An act that shows a contact as `Offline`, with a packet that says online: an event about
it, or a `SetAway` of a client one of whose profiles is a contact. -/
def ShowsOffline (s : SessionContext) : Act → Prop
  | .packet a =>
    AsksOffline a ∧ ∃ profile ∈ s.profileManager_.profiles_,
      s.contactManager_.isContact profile = true
  | .event _ e => ∃ isBusy, e = .away .Offline isBusy

theorem PresenceEvent.tells_eq_becomes_iff (e : PresenceEvent) :
    e.tells = e.becomes ↔ ¬ ∃ isBusy, e = .away .Offline isBusy := by
  cases e with
  | away availability isBusy =>
    show true = decide _ ↔ _
    rw [eq_comm, decide_eq_true_eq]
    refine not_congr ⟨?_, ?_⟩
    · rintro rfl
      exact ⟨isBusy, rfl⟩
    · rintro ⟨_, hAway⟩
      cases hAway
      rfl
  | _ => exact iff_of_true rfl nofun

/-- **Every act** that returns names some contacts and says one thing about them. -/
theorem exists_spoken {s t : SessionContext} (hKeyed : s.contactManager_.Keyed) {act : Act}
    (h : act.outcome s = .ok () t) :
    ∃ named said becomes, Spoken s t named said becomes ∧
      ((said = becomes ∨ ∀ id, ¬ named id) ↔ ¬ ShowsOffline s act) := by
  cases act with
  | event contactId e =>
    refine ⟨_, _, _, spoken_event hKeyed h, ?_⟩
    rw [e.tells_eq_becomes_iff]
    exact or_iff_left fun hNobody => hNobody contactId rfl
  | packet a =>
    have hHonest := honest_decision s a
    change handle s a = .ok () t at h
    rw [handle_eq] at h
    cases hDecision : decision s a with
    | refused e =>
      rw [hDecision] at h
      cases h
    | announced managers messages =>
      rw [hDecision] at h hHonest
      obtain ⟨hAsks, hSilent, hSteady⟩ := hHonest
      obtain ⟨-, rfl⟩ := announced_returned h
      have hManagers : ((s.withManagers managers).pushAll messages).contactManager_ =
          managers.contactManager_ :=
        congrArg Managers.contactManager_ (toManagers_pushAll (s.withManagers managers) messages)
      refine ⟨fun _ => False, true, true, ⟨⟨_, sent_pushAll _ _, fun id => ⟨False.elim, fun _ => ?_⟩⟩,
        fun _ hNone => hNone.elim, fun id _ c' hc' => ?_⟩, ?_⟩
      · refine lastSaid_none (List.forall_mem_map.mpr fun m hm => ?_)
        exact (Message.silent_of_isStatus (hSilent m hm)).tells id
      · rw [hManagers] at hc'
        exact hSteady id c' hc'
      · exact iff_of_true (.inl rfl) fun hShows => hAsks hShows.1
    | presence call =>
      rw [hDecision] at h hHonest
      refine ⟨_, _, _, spoken_call hKeyed h, ?_⟩
      rw [show call.tells = call.becomes ↔ ¬ AsksOffline a from hHonest]
      show _ ↔ ¬ (AsksOffline a ∧ _)
      rw [not_and_or]
      simp only [not_exists]

namespace Watched

/-- Acts keep contacts under their ids, and forget no packet. -/
theorem Sound.step {w w' : Watched} (h : w.Sound) {act : Act} (hStep : w.Step act w') :
    w'.Sound := by
  obtain ⟨named, said, becomes, ⟨⟨new, hSent, -⟩, -, -⟩, -⟩ := exists_spoken h.keyed hStep.1
  constructor
  · cases act with
    | packet a =>
      have hKept := dispatchPacket_frame keepsKeyed_basic (fun _ _ h => h) a.env a.header a.payload
        a.following w.session h.keyed
      have hOutcome : V11.dispatchPacket a.env a.header a.payload a.following w.session =
          .ok () w'.session := hStep.1
      rw [hOutcome] at hKept
      exact hKept
    | event contactId e =>
      have hOutcome : e.run contactId w.session = .ok () w'.session := hStep.1
      rw [PresenceEvent.run_eq] at hOutcome
      cases hFind : w.session.contactManager_.contacts_.find? contactId with
      | none =>
        rw [PresenceEvents.onContact_none _ _ hFind] at hOutcome
        cases hOutcome
      | some c =>
        rw [PresenceEvents.onContact_run _ _ hFind, send_run] at hOutcome
        split_ifs at hOutcome
        rw [← (EStateM.Result.ok.inj hOutcome).2]
        refine h.keyed.mapValues fun id c => ?_
        split
        · cases e <;> rfl
        · rfl
  · intro id
    rw [hStep.2, hSent, List.length_append, addedBy]
    split
    · exact Nat.le_add_right _ _
    · exact Nat.le_add_right_of_le (h.addedAt_le id)

/-- The packets of a session that begins. -/
theorem since_begun {s₀ s₁ : SessionContext} (hBegin : Begins s₀ s₁) (id : Bytes) :
    lastSaid id ((begun s₀ s₁).since id) =
      if id ∈ s₀.onlineContacts.map ContactInfo.id then some true else none := by
  obtain ⟨more, hMore, hSession⟩ := hBegin.pushAll
  have hSilent : ∀ m ∈ Message.pingConfiguration :: more, m.tells id = none := by
    refine List.forall_mem_cons.mpr ⟨(Message.silent_of_isStatus rfl).tells id, fun m hm => ?_⟩
    refine (Message.silent_of_isStatus ?_).tells id
    have hExtra := hMore m hm
    unfold extras extra at hExtra
    simp only [List.mem_append] at hExtra
    rcases hExtra with ((hm | hm) | hm) | hm
    all_goals
      split at hm
      · rw [List.mem_singleton.mp hm]
        rfl
      · cases hm
  have hRest : (Message.pingConfiguration :: more).filterMap (fun m => m.tells id) = [] :=
    List.filterMap_eq_nil_iff.mpr hSilent
  have hProfile : s₀.clientProfile.tells id = none := (Message.silent_of_isStatus rfl).tells id
  have hStatus : s₀.contactStatus.tells id =
      if id ∈ s₀.onlineContacts.map ContactInfo.id then some true else none :=
    tells_setContactStatus id _ _
  rw [since, begun, hSession]
  dsimp only
  rw [sent_pushAll, List.drop_left, lastSaid, List.filterMap_map]
  show ((s₀.clientProfile :: s₀.contactStatus :: Message.pingConfiguration :: more).filterMap
    fun m => m.tells id).getLast? = _
  rw [List.filterMap_cons, hProfile, List.filterMap_cons, hStatus]
  split_ifs
  · dsimp only
    rw [hRest]
    rfl
  · dsimp only
    rw [hRest]
    rfl

theorem sound_begun {s₀ s₁ : SessionContext} (hKeyed : s₀.contactManager_.Keyed)
    (hBegin : Begins s₀ s₁) : (begun s₀ s₁).Sound := by
  obtain ⟨more, -, rfl⟩ := hBegin.pushAll
  constructor
  · show (pushAll _ _).toManagers.contactManager_.Keyed
    rw [toManagers_pushAll]
    exact hKeyed
  · intro id
    show s₀.connection_.sent.length ≤ (pushAll _ _).connection_.sent.length
    rw [sent_pushAll, List.length_append]
    exact Nat.le_add_right _ _

/-- **At the beginning** the client is told who is online. -/
theorem knowsOnline_begun {s₀ s₁ : SessionContext} (hKeyed : s₀.contactManager_.Keyed)
    (hBegin : Begins s₀ s₁) : (begun s₀ s₁).KnowsOnline := by
  intro id c hFind
  rw [since_begun hBegin]
  have hSame : s₁.contactManager_ = s₀.contactManager_ := by
    obtain ⟨more, -, rfl⟩ := hBegin.pushAll
    exact congrArg Managers.contactManager_ (toManagers_pushAll _ _)
  change s₁.contactManager_.contacts_.find? id = some c at hFind
  rw [hSame] at hFind
  have hListed : id ∈ s₀.onlineContacts.map ContactInfo.id ↔ c.isOnline = true := by
    unfold onlineContacts
    rw [List.mem_map]
    constructor
    · rintro ⟨d, hd, hId⟩
      obtain ⟨hContact, hOnline⟩ := List.mem_filter.mp hd
      obtain ⟨key, hKey⟩ := ContactManager.mem_contacts_iff.mp hContact
      -- contacts are kept under their ids, so it is the same one
      obtain rfl : key = id := (hKeyed.find? hKey).symm.trans hId
      obtain rfl := Option.some.inj (hKey.symm.trans hFind)
      exact hOnline
    · intro hOnline
      exact ⟨c, List.mem_filter.mpr ⟨ContactManager.mem_contacts_iff.mpr ⟨id, hFind⟩, hOnline⟩,
        hKeyed.find? hFind⟩
  cases hOnline : c.isOnline with
  | true => rw [if_pos (hListed.mpr hOnline), Option.getD_some]
  | false =>
    rw [if_neg, Option.getD_none]
    intro hMem
    rw [hListed, hOnline] at hMem
    cases hMem

/-- **The client knows who is online** in every state of a session exactly when no act shows a
contact as `Offline`. -/
theorem knowsOnline_iff {s₀ s₁ : SessionContext} (hKeyed : s₀.contactManager_.Keyed)
    (hBegin : Begins s₀ s₁) {acts : List Act} {w : Watched}
    (hRun : Runs Step (begun s₀ s₁) acts w) :
    (∀ history rest v, acts = history ++ rest → Runs Step (begun s₀ s₁) history v →
        v.KnowsOnline) ↔
      ∀ history act rest v, acts = history ++ act :: rest → Runs Step (begun s₀ s₁) history v →
        ¬ ShowsOffline v.session act := by
  have hStart := sound_begun hKeyed hBegin
  have hDetermined : ∀ v act u u', Step v act u → Step v act u' → u = u' :=
    fun _ _ _ _ h h' => h.unique h'
  have hAlways := @Runs.always_iff _ _ Step (fun v => v.Sound ∧ v.KnowsOnline)
    (fun v act => ¬ ShowsOffline v.session act) (begun s₀ s₁) acts
    ⟨hStart, knowsOnline_begun hKeyed hBegin⟩ (fun v act v' hv hStep => by
      obtain ⟨named, said, becomes, hSpoken, hShows⟩ := exists_spoken hv.1.keyed hStep.1
      rw [← hShows, ← knowsOnline_step_iff hv.1 hv.2 hStep hSpoken]
      exact and_iff_right (hv.1.step hStep))
    (fun history act rest v hSplit hv => by
      rw [hSplit] at hRun
      obtain ⟨v', hv', -⟩ := hRun.resume hDetermined hv
      exact ⟨v', hv'⟩)
  rw [← hAlways]
  have hSound {history : List Act} {v : Watched} (hv : Runs Step (begun s₀ s₁) history v) :
      v.Sound :=
    hv.invariant (I := fun _ v => v.Sound) hStart fun _ _ _ _ _ h hStep => h.step hStep
  exact ⟨fun h history rest v hSplit hv => ⟨hSound hv, h history rest v hSplit hv⟩,
    fun h history rest v hSplit hv => (h history rest v hSplit hv).2⟩

/-- The mock server's session for a client that logged in visibly, once it began. -/
def onlineSession : SessionContext :=
  visibleSession.pushAll
    [visibleSession.clientProfile, visibleSession.contactStatus, .pingConfiguration]

theorem begins_onlineSession : Begins visibleSession onlineSession := by
  have hFits : ∀ m ∈ [visibleSession.clientProfile, visibleSession.contactStatus,
      .pingConfiguration], m.Fits := by
    decide +kernel
  left
  rw [beginSession_eq, forM_send_run, if_pos hFits]
  rfl

theorem visibleSession_keyed : visibleSession.contactManager_.Keyed := by
  unfold ContactManager.Keyed
  decide +kernel

/-- A `SetAway` with the status -1. -/
def offlinePacket : Arrival where
  env := .zeros
  header := .new 0 11 3 0
  payload := Builder.encode [(10, ascii "-1")]
  following := []

theorem step_of_returned {s₀ s₁ : SessionContext} {a : Arrival}
    (h : returned (handle s₁ a) = true) :
    Step (begun s₀ s₁) (.packet a)
      ⟨finalState (handle s₁ a), (begun s₀ s₁).addedBy (finalState (handle s₁ a))⟩ :=
  ⟨eq_ok_of_returned h, rfl⟩

/-- The session after it. -/
def placeholderSession : Watched :=
  ⟨finalState (handle onlineSession offlinePacket),
    (begun visibleSession onlineSession).addedBy (finalState (handle onlineSession offlinePacket))⟩

theorem returned_offlinePacket : returned (handle onlineSession offlinePacket) = true := by
  decide +kernel

theorem step_offlinePacket :
    Step (begun visibleSession onlineSession) (.packet offlinePacket) placeholderSession :=
  step_of_returned returned_offlinePacket

theorem knowsOnline_iff_placeholderSession :
    (∀ history rest v, [Act.packet offlinePacket] = history ++ rest →
        Runs Step (begun visibleSession onlineSession) history v → v.KnowsOnline) ↔
      ∀ history act rest v, [Act.packet offlinePacket] = history ++ act :: rest →
        Runs Step (begun visibleSession onlineSession) history v →
        ¬ ShowsOffline v.session act :=
  knowsOnline_iff visibleSession_keyed begins_onlineSession (.one step_offlinePacket)

theorem showsOffline_offlinePacket : ShowsOffline onlineSession (.packet offlinePacket) := by
  have hParse : returned (PacketParser.parse Payloads.SetAway.onKeyPair offlinePacket.payload {}) =
      true := by
    decide +kernel
  refine ⟨⟨rfl, _, eq_ok_of_returned hParse, by decide +kernel⟩, ascii "winky", ?_, ?_⟩
  · decide +kernel
  · decide +kernel

/-- After such a packet the client takes for online who is not. -/
theorem not_knowsOnline {s₀ s₁ : SessionContext} (hKeyed : s₀.contactManager_.Keyed)
    (hBegin : Begins s₀ s₁) {act : Act} {w : Watched} (hStep : Step (begun s₀ s₁) act w)
    (hShows : ShowsOffline s₁ act) : ¬ w.KnowsOnline := by
  have hSound := sound_begun hKeyed hBegin
  obtain ⟨named, said, becomes, hSpoken, hIff⟩ := exists_spoken hSound.keyed hStep.1
  rw [knowsOnline_step_iff hSound (knowsOnline_begun hKeyed hBegin) hStep hSpoken, hIff]
  exact fun hNot => hNot hShows

theorem placeholder_shown_online :
    ¬ ∀ (s₀ s₁ : SessionContext) (acts : List Act) (w : Watched), s₀.contactManager_.Keyed →
      Begins s₀ s₁ → Runs Step (begun s₀ s₁) acts w → w.KnowsOnline := by
  intro hEvery
  refine not_knowsOnline visibleSession_keyed begins_onlineSession step_offlinePacket
    showsOffline_offlinePacket ?_
  exact hEvery _ _ _ _ visibleSession_keyed begins_onlineSession (.one step_offlinePacket)

end Watched

end Giblet.YMsg
