import Giblet.YMsg.Decisions

/-!
# YMsg — what a status announcement says

Every presence event overwrites some fields of its contact and sends the
contact as it then is. `AppendContact` decides by the availability which of
the fields go into the packet; it asks about the custom message and the idle
time, but not about the busy flag and the idle marker.

* `PresenceEvent.contact_run` — a contact after any events.
* `announcement_same_iff` — when two histories lead to the same announcement.
-/

namespace Giblet.YMsg

open Effect Run SessionContext

/-! ## Events -/

/-- A call of `PresenceEvents` about one contact. -/
inductive PresenceEvent
  | available (showNotification : Bool)
  | idle (idleUnknown message : Bytes) (isBusy : Bool)
  | away (availability : Availability) (isBusy : Bool)
  | statusMessage (message : Bytes) (isBusy showNotification : Bool)
  | offline
  deriving DecidableEq

namespace PresenceEvent

/-- What the call does. -/
def run (contactId : Bytes) : PresenceEvent → SessionAction
  | available showNotification => PresenceEvents.onContactAvailable contactId showNotification
  | idle idleUnknown message isBusy =>
    PresenceEvents.onContactIdle contactId idleUnknown message isBusy
  | away availability isBusy => PresenceEvents.onContactAway contactId availability isBusy
  | statusMessage message isBusy showNotification =>
    PresenceEvents.onContactStatusMessage contactId message isBusy showNotification
  | offline => PresenceEvents.onContactOffline contactId

/-- The fields of the contact that it overwrites. -/
def change : PresenceEvent → ContactInfo → ContactInfo
  | available _, c => { c with availability := .Available }
  | idle idleUnknown message isBusy, c =>
    { c with
      idleUnknown := idleUnknown
      availability := .Idle
      isBusy := isBusy
      customMessage := message }
  | away availability isBusy, c => { c with availability := availability, isBusy := isBusy }
  | statusMessage message isBusy _, c =>
    { c with availability := .Custom, isBusy := isBusy, customMessage := message }
  | offline, c => { c with availability := .Offline }

/-- The packet about the contact, once changed. -/
def message (contactId : Bytes) : PresenceEvent → ContactInfo → Message
  | available showNotification, c => PresenceEvents.statusMessage showNotification c
  | statusMessage _ _ showNotification, c => PresenceEvents.statusMessage showNotification c
  | offline, _ => .contactOffline contactId
  | _, c => .updateContactStatus c

/-- All five have the same shape. -/
theorem run_eq (contactId : Bytes) (e : PresenceEvent) :
    e.run contactId =
      PresenceEvents.onContact (·.setContact contactId e.change) (e.message contactId) := by
  cases e <;> rfl

/-! ## Histories -/

/-- An event is handled: it returns, or its packet is too large. -/
def Step (contactId : Bytes) (s : SessionContext) (e : PresenceEvent) (s' : SessionContext) :
    Prop := s' = finalState (e.run contactId s)

/-- What the latest event that sets a field set it to. -/
def lastSet {α : Type} (field? : PresenceEvent → Option α) (history : List PresenceEvent)
    (initial : α) : α :=
  history.foldl (fun value e => (field? e).getD value) initial

/-- The busy flag an event sets. -/
def busy? : PresenceEvent → Option Bool
  | idle _ _ isBusy => some isBusy
  | away _ isBusy => some isBusy
  | statusMessage _ isBusy _ => some isBusy
  | _ => none

/-- The idle marker an event sets. -/
def marker? : PresenceEvent → Option Bytes
  | idle idleUnknown _ _ => some idleUnknown
  | _ => none

/-- The message an event sets. -/
def customMessage? : PresenceEvent → Option Bytes
  | idle _ message _ => some message
  | statusMessage message _ _ => some message
  | _ => none

/-- The contact after some events. -/
def after (history : List PresenceEvent) (c : ContactInfo) : ContactInfo :=
  history.foldl (fun c e => e.change c) c

theorem after_append (history : List PresenceEvent) (e : PresenceEvent) (c : ContactInfo) :
    after (history ++ [e]) c = e.change (after history c) :=
  List.foldl_append

/-- A field of the contact is what the latest event that sets it set it to. -/
theorem field_after {α : Type} {field : ContactInfo → α} {field? : PresenceEvent → Option α}
    (hField : ∀ e c, field (change e c) = (field? e).getD (field c)) (history : List PresenceEvent)
    (c : ContactInfo) : field (after history c) = lastSet field? history (field c) := by
  unfold after lastSet
  induction history generalizing c with
  | nil => rfl
  | cons e rest ih => rw [List.foldl_cons, List.foldl_cons, ih, hField]

theorem isBusy_after (history : List PresenceEvent) (c : ContactInfo) :
    (after history c).isBusy = lastSet busy? history c.isBusy :=
  field_after (fun e c => by cases e <;> rfl) history c

theorem idleUnknown_after (history : List PresenceEvent) (c : ContactInfo) :
    (after history c).idleUnknown = lastSet marker? history c.idleUnknown :=
  field_after (fun e c => by cases e <;> rfl) history c

theorem customMessage_after (history : List PresenceEvent) (c : ContactInfo) :
    (after history c).customMessage = lastSet customMessage? history c.customMessage :=
  field_after (fun e c => by cases e <;> rfl) history c

/-- **A contact after any events** about it. -/
theorem contact_run {contactId : Bytes} {s₀ s : SessionContext} {history : List PresenceEvent}
    {c : ContactInfo} (hContact : s₀.contactManager_.contacts_.find? contactId = some c)
    (hRun : Runs (Step contactId) s₀ history s) :
    s.contactManager_.contacts_.find? contactId = some (after history c) := by
  refine hRun.invariant (I := fun history s =>
    s.contactManager_.contacts_.find? contactId = some (after history c)) hContact ?_
  intro history t e u _ ih hStep
  -- whether the packet fits makes no difference to the contact
  have hChanged : u.contactManager_ =
      ⟨t.contactManager_.contacts_.adjust contactId e.change⟩ := by
    rw [hStep, run_eq, PresenceEvents.onContact_run _ _ ih, send_run]
    split <;> rfl
  rw [hChanged]
  refine (OrderedMap.find?_adjust _ _ _ _).trans ?_
  rw [if_pos rfl, ih, Option.map_some, after_append]

end PresenceEvent

/-! ## Status fields -/

/-- The keys of availability, busy flag, idle marker, idle time and custom message. -/
def statusKeys : List Int32 := [10, 47, 138, 137, 19]

/-- What fields say about a contact's status. -/
def statusFields (fields : List Field) : List (Option Bytes) :=
  statusKeys.map fun key => (fields.map fun f => (f.1, f.2.value)).lookup key

/-- A field with another key says nothing about it. -/
theorem statusFields_cons {f : Field} (h : f.1 ∉ statusKeys) (fields : List Field) :
    statusFields (f :: fields) = statusFields fields := by
  refine List.map_congr_left fun key hKey => ?_
  have hOther : (key == f.1) = false :=
    beq_eq_false_iff_ne.mpr fun hSame => h (hSame ▸ hKey)
  rw [List.map_cons, List.lookup_cons, hOther]

/-- The idle marker is left out when it is empty. -/
def ContactInfo.markerField (c : ContactInfo) : Option Bytes :=
  if c.idleUnknown = [] then none else some c.idleUnknown

/-- The message is appended for one availability only. -/
def ContactInfo.messageField (c : ContactInfo) : Option Bytes :=
  if c.availability = .Custom then some c.customMessage else none

/-- The status fields of a contact, as `AppendContact` chooses them. -/
def ContactInfo.statusFields (c : ContactInfo) : List (Option Bytes) :=
  [some (Numeral.ofInt c.availability.code.toInt),
    some (if c.isBusy then ascii "1" else ascii "0"),
    c.markerField, if c.availability = .Idle then some (ascii "0") else none, c.messageField]

theorem statusFields_appendContact (c : ContactInfo) :
    statusFields (Builders.appendContact c) = c.statusFields := by
  unfold statusFields statusKeys Builders.appendContact ContactInfo.statusFields
    ContactInfo.markerField ContactInfo.messageField
  by_cases hMarker : c.idleUnknown = [] <;> by_cases hIdle : c.availability = .Idle <;>
    by_cases hCustom : c.availability = .Custom <;> cases c.isBusy <;>
    simp only [hMarker, hIdle, hCustom, if_true, if_false] <;> rfl

theorem ContactInfo.markerField_inj {c d : ContactInfo} :
    c.markerField = d.markerField ↔ c.idleUnknown = d.idleUnknown := by
  unfold markerField
  constructor
  · intro h
    split at h <;> split at h <;> simp_all
  · intro h
    rw [h]

/-- Contacts of one availability announce the same when busy flag, marker and, if it is
announced, message are the same. -/
theorem ContactInfo.statusFields_inj {c d : ContactInfo} (h : c.availability = d.availability) :
    c.statusFields = d.statusFields ↔
      c.isBusy = d.isBusy ∧ c.idleUnknown = d.idleUnknown ∧
        (c.availability = .Custom → c.customMessage = d.customMessage) := by
  have hBusy : some (if c.isBusy then ascii "1" else ascii "0") =
      some (if d.isBusy then ascii "1" else ascii "0") ↔ c.isBusy = d.isBusy := by
    cases c.isBusy <;> cases d.isBusy <;> decide
  have hMessage : c.messageField = d.messageField ↔
      (c.availability = .Custom → c.customMessage = d.customMessage) := by
    unfold messageField
    rw [← h]
    by_cases hCustom : c.availability = .Custom
    · simp only [hCustom, if_true, Option.some.injEq, true_implies]
    · simp only [hCustom, if_false, false_implies]
  unfold statusFields
  rw [← h]
  simp only [List.cons.injEq, hBusy, markerField_inj, hMessage, true_and, and_true]

/-- **What an event announces**: the status fields of the contact it leaves. -/
theorem PresenceEvent.statusFields_message {e : PresenceEvent} (hFinal : e ≠ .offline)
    (contactId : Bytes) (c : ContactInfo) :
    statusFields (e.message contactId c).layout.fields = c.statusFields := by
  have hUpdate : statusFields (Message.updateContactStatus c).layout.fields = c.statusFields := by
    refine (statusFields_cons ?_ _).trans (statusFields_appendContact c)
    decide
  have hSingle : statusFields (Message.setSingleContactStatus [] c).layout.fields =
      c.statusFields := by
    refine (statusFields_cons ?_ _).trans ((statusFields_cons ?_ _).trans
      (statusFields_appendContact c)) <;> decide
  have hEither : ∀ showNotification,
      statusFields (PresenceEvents.statusMessage showNotification c).layout.fields =
        c.statusFields := by
    intro showNotification
    unfold PresenceEvents.statusMessage
    split
    · exact hUpdate
    · exact hSingle
  cases e with
  | available showNotification => exact hEither showNotification
  | idle idleUnknown message isBusy => exact hUpdate
  | away availability isBusy => exact hUpdate
  | statusMessage message isBusy showNotification => exact hEither showNotification
  | offline => exact absurd rfl hFinal

/-- The status fields of everything that was sent between two states. -/
def SessionContext.announcedSince (s t : SessionContext) : List (List (Option Bytes)) :=
  (s.sentSince t).map fun m => statusFields m.layout.fields

/-- An event that returned sent one packet. -/
theorem PresenceEvent.announcedSince_run {e : PresenceEvent} (hFinal : e ≠ .offline)
    {contactId : Bytes} {s t : SessionContext} {c : ContactInfo}
    (hContact : s.contactManager_.contacts_.find? contactId = some c)
    (hSent : e.run contactId s = .ok () t) :
    s.announcedSince t = [(e.change c).statusFields] := by
  rw [run_eq, PresenceEvents.onContact_run _ _ hContact, send_run] at hSent
  split_ifs at hSent with hFits
  obtain rfl := (EStateM.Result.ok.inj hSent).2
  have hOne := sentSince_pushAll s { s.toManagers with
    contactManager_ := ⟨s.contactManager_.contacts_.adjust contactId e.change⟩ }
    [e.message contactId (e.change c)]
  dsimp only [withManagers, pushAll, List.foldl_cons, List.foldl_nil] at hOne
  rw [SessionContext.announcedSince, hOne, List.map_singleton, e.statusFields_message hFinal]

/-! ## Two histories -/

/-- The fields that the event leaves as they were and that are announced with its status
are the same after both histories. -/
def PresenceEvent.SameRemains (c : ContactInfo) (history history' : List PresenceEvent) :
    PresenceEvent → Prop
  | available _ =>
    lastSet busy? history c.isBusy = lastSet busy? history' c.isBusy ∧
      lastSet marker? history c.idleUnknown = lastSet marker? history' c.idleUnknown
  -- it sets every field that is announced
  | idle .. => True
  | away availability _ =>
    lastSet marker? history c.idleUnknown = lastSet marker? history' c.idleUnknown ∧
      (availability = .Custom → lastSet customMessage? history c.customMessage =
        lastSet customMessage? history' c.customMessage)
  | statusMessage .. =>
    lastSet marker? history c.idleUnknown = lastSet marker? history' c.idleUnknown
  | offline => True

/-- Two contacts that an event left announce the same exactly when what remained of them is
the same. -/
theorem PresenceEvent.statusFields_change_iff {e : PresenceEvent} (hFinal : e ≠ .offline)
    (c : ContactInfo) (history history' : List PresenceEvent) :
    (e.change (after history c)).statusFields = (e.change (after history' c)).statusFields ↔
      e.SameRemains c history history' := by
  have hAvailability : (e.change (after history c)).availability =
      (e.change (after history' c)).availability := by
    cases e <;> rfl
  rw [ContactInfo.statusFields_inj hAvailability]
  unfold SameRemains
  rw [← isBusy_after, ← isBusy_after, ← idleUnknown_after, ← idleUnknown_after,
    ← customMessage_after, ← customMessage_after]
  cases e with
  | available showNotification =>
    -- no message goes with this availability
    exact ⟨fun h => ⟨h.1, h.2.1⟩, fun h => ⟨h.1, h.2, fun hCustom => by cases hCustom⟩⟩
  | idle idleUnknown message isBusy => exact iff_of_true ⟨rfl, rfl, fun _ => rfl⟩ trivial
  | away availability isBusy => exact ⟨fun h => h.2, fun h => ⟨rfl, h⟩⟩
  | statusMessage message isBusy showNotification =>
    exact ⟨fun h => h.2.1, fun h => ⟨rfl, h, fun _ => rfl⟩⟩
  | offline => exact absurd rfl hFinal

/-- **Two histories lead to the same announcement** exactly when what the event leaves as it
was is the same after both. -/
theorem announcement_same_iff {contactId : Bytes} {s₀ s s' t t' : SessionContext}
    {c : ContactInfo} {history history' : List PresenceEvent} {e : PresenceEvent}
    (hContact : s₀.contactManager_.contacts_.find? contactId = some c)
    (hRun : Runs (PresenceEvent.Step contactId) s₀ history s)
    (hRun' : Runs (PresenceEvent.Step contactId) s₀ history' s') (hFinal : e ≠ .offline)
    (hSent : e.run contactId s = .ok () t) (hSent' : e.run contactId s' = .ok () t') :
    s.announcedSince t = s'.announcedSince t' ↔ e.SameRemains c history history' := by
  rw [e.announcedSince_run hFinal (PresenceEvent.contact_run hContact hRun) hSent,
    e.announcedSince_run hFinal (PresenceEvent.contact_run hContact hRun') hSent',
    List.singleton_inj]
  exact e.statusFields_change_iff hFinal c history history'

/-- One of the contacts of the mock server's client, as it is loaded. -/
def winky : ContactInfo :=
  MockAuthenticationHandler.linked .zeros "winky" "Myself" .Available

theorem visibleSession_winky :
    visibleSession.contactManager_.contacts_.find? (ascii "winky") = some winky := by
  decide +kernel

/-- The session after that contact was away, and busy. -/
def afterBusy : SessionContext :=
  finalState ((PresenceEvent.away .Busy true).run (ascii "winky") visibleSession)

theorem runs_afterBusy : Runs (PresenceEvent.Step (ascii "winky")) visibleSession
    [.away .Busy true] afterBusy :=
  .one rfl

/-- Wherever it was before, the contact becomes available. -/
theorem winky_available {s : SessionContext} (h : s = visibleSession ∨ s = afterBusy) :
    (PresenceEvent.available true).run (ascii "winky") s =
      .ok () (finalState ((PresenceEvent.available true).run (ascii "winky") s)) := by
  refine eq_ok_of_returned ?_
  rcases h with rfl | rfl <;> decide +kernel

theorem announcement_same_visibleSession :
    visibleSession.announcedSince
        (finalState ((PresenceEvent.available true).run (ascii "winky") visibleSession)) =
      afterBusy.announcedSince
        (finalState ((PresenceEvent.available true).run (ascii "winky") afterBusy)) ↔
      (PresenceEvent.available true).SameRemains winky [] [.away .Busy true] :=
  announcement_same_iff visibleSession_winky (.nil _) runs_afterBusy (by decide)
    (winky_available (.inl rfl)) (winky_available (.inr rfl))

/-- A contact that was busy is announced as available and busy. -/
theorem announcement_keeps_busy :
    ¬ ∀ (contactId : Bytes) (s₀ s s' t t' : SessionContext) (c : ContactInfo)
      (history history' : List PresenceEvent) (e : PresenceEvent),
      s₀.contactManager_.contacts_.find? contactId = some c →
      Runs (PresenceEvent.Step contactId) s₀ history s →
      Runs (PresenceEvent.Step contactId) s₀ history' s' → e ≠ .offline →
      e.run contactId s = .ok () t → e.run contactId s' = .ok () t' →
      s.announcedSince t = s'.announcedSince t' := by
  intro hSame
  have hAnnounced := hSame _ _ _ _ _ _ _ _ _ (.available true) visibleSession_winky (.nil _)
    runs_afterBusy (by decide) (winky_available (.inl rfl)) (winky_available (.inr rfl))
  rw [PresenceEvent.announcedSince_run (by decide) visibleSession_winky
      (winky_available (.inl rfl)),
    PresenceEvent.announcedSince_run (by decide)
      (PresenceEvent.contact_run visibleSession_winky runs_afterBusy)
      (winky_available (.inr rfl))] at hAnnounced
  revert hAnnounced
  decide +kernel

end Giblet.YMsg
