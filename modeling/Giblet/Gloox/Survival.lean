import Giblet.Gloox.Populate

/-!
# Gloox — presence from anyone

An XMPP server passes on presence of whoever subscribed, of the account's
other resources, and of people who are no contacts. Every event of
`PresenceEvents` throws when it is not about a contact, and nobody between it
and the pump catches the exception.

* `handlePresence_run` — a stanza that is not ignored raises one event.
* `fits_announcement_iff` — the length of the packet that it leads to.
* `survives_iff` — the stanzas that are survived.
-/

namespace Giblet.Gloox

open Effect Run YMsg

/-! ## The event -/

/-- Nothing is done about the stanza. -/
def Presence.Ignored (presence : Presence) : Prop :=
  presence.status = [] ∧ (presence.presence = .Probe ∨ presence.presence = .Error ∨
    presence.presence = .Invalid)

instance : DecidablePred Presence.Ignored := fun presence =>
  inferInstanceAs (Decidable (presence.status = [] ∧ _))

/-- The packet about the changed contact. -/
def announcement (handler : PresenceHandler) (timestamp : Int) (presence : Presence)
    (c : ContactInfo) : Message :=
  if presence.status ≠ [] then
    PresenceEvents.statusMessage (handler.showNotification timestamp) c
  else
    match presence.presence with
    | .Available | .Chat => PresenceEvents.statusMessage (handler.showNotification timestamp) c
    | .Unavailable => .contactOffline presence.bare
    | _ => .updateContactStatus c

theorem handlePresence_ignored (handler : PresenceHandler) (timestamp : Int) {presence : Presence}
    (hIgnored : presence.Ignored) (s : SessionContext) :
    handler.handlePresence timestamp presence s = .ok () s := by
  obtain ⟨hStatus, hType⟩ := hIgnored
  unfold PresenceHandler.handlePresence
  rw [if_neg (not_not.mpr hStatus)]
  rcases hType with hType | hType | hType <;> rw [hType] <;> rfl

/-- **Any other stanza** raises one event. -/
theorem handlePresence_run (handler : PresenceHandler) (timestamp : Int) {presence : Presence}
    (hCounts : ¬ presence.Ignored) :
    handler.handlePresence timestamp presence =
      PresenceEvents.onContact (·.setContact presence.bare (change presence))
        (announcement handler timestamp presence) := by
  unfold PresenceHandler.handlePresence change announcement
  unfold Presence.Ignored at hCounts
  by_cases hStatus : presence.status = []
  · rw [if_neg (not_not.mpr hStatus)]
    simp only [hStatus, ne_eq, not_true_eq_false, if_false, true_and] at hCounts ⊢
    cases hType : presence.presence with
    | Probe | Error | Invalid => simp [hType] at hCounts
    | _ => rfl
  · simp only [if_pos (show presence.status ≠ [] from hStatus)]
    rfl

/-! ## Lengths -/

/-- The length of the payload that some fields make up. -/
def payloadLength (fields : List Field) : Nat :=
  (Builder.encode (fields.map fun f => (f.1, f.2.value))).length

theorem payloadLength_nil : payloadLength [] = 0 := rfl

theorem payloadLength_cons (f : Field) (fields : List Field) :
    payloadLength (f :: fields) =
      (Numeral.ofInt f.1.toInt).length + 4 + f.2.value.length + payloadLength fields := by
  rw [payloadLength, List.map_cons, Builder.encode_cons, List.length_append,
    Builder.length_encodePair]
  rfl

theorem payloadLength_text (key : Int32) (value : Bytes) (fields : List Field) :
    payloadLength (text key value :: fields) =
      (Numeral.ofInt key.toInt).length + 4 + value.length + payloadLength fields :=
  payloadLength_cons _ _

theorem payloadLength_number (key : Int32) (value : Int) (fields : List Field) :
    payloadLength (number key value :: fields) =
      (Numeral.ofInt key.toInt).length + 4 + (Numeral.ofInt value).length + payloadLength fields :=
  payloadLength_cons _ _

theorem payloadLength_flag (key : Int32) (value : Cell Bool) (fields : List Field) :
    payloadLength (flag key value :: fields) =
      (Numeral.ofInt key.toInt).length + 5 + payloadLength fields := by
  have hOne (b : Bool) : (Numeral.ofInt (if b then 1 else 0)).length = 1 := by cases b <;> decide
  rw [payloadLength_cons]
  show (Numeral.ofInt key.toInt).length + 4 +
    (Numeral.ofInt (if value.value then 1 else 0)).length + payloadLength fields = _
  rw [hOne]

theorem payloadLength_append (fields more : List Field) :
    payloadLength (fields ++ more) = payloadLength fields + payloadLength more := by
  induction fields with
  | nil => rw [List.nil_append, payloadLength_nil, Nat.zero_add]
  | cons f rest ih =>
    rw [List.cons_append, payloadLength_cons, ih, payloadLength_cons]
    omega

/-- The numerals of the keys that are used. -/
theorem length_keys :
    (∀ key ∈ ([0, 1, 7, 8] : List Int32), (Numeral.ofInt key.toInt).length = 1) ∧
      (∀ key ∈ ([10, 13, 17, 19, 47] : List Int32), (Numeral.ofInt key.toInt).length = 2) ∧
      ∀ key ∈ ([137, 138] : List Int32), (Numeral.ofInt key.toInt).length = 3 := by
  -- one key after another, as there are too many of the type to decide it for all
  simp only [List.forall_mem_cons, List.not_mem_nil, false_imp_iff, implies_true, and_true]
  decide

/-- The record about a contact. -/
theorem payloadLength_appendContact (c : ContactInfo) :
    payloadLength (Builders.appendContact c) =
      32 + c.id.length + (Numeral.ofInt c.availability.code.toInt).length +
        (if c.idleUnknown = [] then 0 else 7 + c.idleUnknown.length) +
        (if c.availability = .Idle then 8 else 0) +
        (if c.availability = .Custom then 6 + c.customMessage.length else 0) := by
  obtain ⟨hOne, hTwo, hThree⟩ := length_keys
  simp only [List.forall_mem_cons] at hOne hTwo hThree
  have hDigit : (ascii "0").length = 1 ∧ (ascii "1").length = 1 := by decide
  unfold Builders.appendContact
  simp only [payloadLength_append, payloadLength_text, payloadLength_number, payloadLength_flag,
    payloadLength_nil]
  -- the three fields that may be left out
  split_ifs <;> simp only [payloadLength_text, payloadLength_nil] <;> omega

/-- What is sent of every contact, as far as it depends on the contact. -/
def contactLength (c : ContactInfo) : Nat :=
  33 + c.id.length + if c.idleUnknown = [] then 0 else 7 + c.idleUnknown.length

/-- The record about a contact that has nothing more to say. -/
theorem payloadLength_appendContact_plain {c : ContactInfo}
    (h : c.availability = .Available ∨ c.availability = .Brb ∨ c.availability = .Busy) :
    payloadLength (Builders.appendContact c) = contactLength c := by
  have hCode : (Numeral.ofInt c.availability.code.toInt).length = 1 := by
    rcases h with h | h | h <;> rw [h] <;> decide
  have hIdle : c.availability ≠ .Idle := by rcases h with h | h | h <;> rw [h] <;> decide
  have hCustom : c.availability ≠ .Custom := by rcases h with h | h | h <;> rw [h] <;> decide
  rw [payloadLength_appendContact, hCode, if_neg hIdle, if_neg hCustom, contactLength]
  omega

/-- The record about a contact with a text of his own. -/
theorem payloadLength_appendContact_custom {c : ContactInfo} (h : c.availability = .Custom) :
    payloadLength (Builders.appendContact c) = contactLength c + (7 + c.customMessage.length) := by
  have hCode : (Numeral.ofInt Availability.Custom.code.toInt).length = 2 := by decide
  have hIdle : Availability.Custom ≠ .Idle := by decide
  rw [payloadLength_appendContact, h, hCode, if_neg hIdle, if_pos rfl, contactLength]
  omega

/-- The length of the packet about a stanza, which depends on the contact's id and idle marker:
the header and what is sent of every contact, and the text. A packet without a notification
has two ids in front, another one the number of contacts. -/
def announcementLength (handler : PresenceHandler) (timestamp : Int) (presence : Presence)
    (c : ContactInfo) : Nat :=
  let opening := if handler.showNotification timestamp then 26 else 30
  let contact := 33 + c.id.length + if c.idleUnknown = [] then 0 else 7 + c.idleUnknown.length
  if presence.status ≠ [] then opening + contact + (7 + presence.status.length)
  else
    match presence.presence with
    | .Available | .Chat => opening + contact
    | .Unavailable => 46 + presence.bare.length
    | _ => 26 + contact

theorem fits_iff (m : Message) :
    m.Fits ↔ RawHeader.size + payloadLength m.layout.fields < Builder.PaxPayloadSize := Iff.rfl

/-- A status packet about one contact, with or without a notification. -/
theorem length_statusMessage (notify : Bool) (c : ContactInfo) :
    RawHeader.size + payloadLength (PresenceEvents.statusMessage notify c).layout.fields =
      (if notify then 26 else 30) + payloadLength (Builders.appendContact c) := by
  have hSize : RawHeader.size = 20 := rfl
  obtain ⟨hOne, -, -⟩ := length_keys
  simp only [List.forall_mem_cons] at hOne
  have hCount : (Numeral.ofInt 1).length = 1 := by decide
  unfold PresenceEvents.statusMessage
  cases notify with
  | true =>
    simp only [if_true, Message.layout, payloadLength_number]
    omega
  | false =>
    simp only [Bool.false_eq_true, if_false, Message.layout, payloadLength_text, List.length_nil]
    omega

theorem length_contactOffline (id : Bytes) :
    RawHeader.size + payloadLength (Message.contactOffline id).layout.fields = 46 + id.length := by
  have hSize : RawHeader.size = 20 := rfl
  obtain ⟨hOne, hTwo, -⟩ := length_keys
  simp only [List.forall_mem_cons] at hOne hTwo
  have hDigit : (ascii "0").length = 1 ∧ (ascii "2").length = 1 := by decide
  simp only [Message.layout, payloadLength_text, payloadLength_nil]
  omega

/-- **The packet** is below 64k exactly when the id, the idle marker and the text are short
enough. -/
theorem fits_announcement_iff (handler : PresenceHandler) (timestamp : Int) {presence : Presence}
    (hCounts : ¬ presence.Ignored) (c : ContactInfo) :
    (announcement handler timestamp presence (change presence c)).Fits ↔
      announcementLength handler timestamp presence c < Builder.PaxPayloadSize := by
  rw [fits_iff]
  suffices hLength : RawHeader.size +
      payloadLength (announcement handler timestamp presence (change presence c)).layout.fields =
        announcementLength handler timestamp presence c by
    rw [hLength]
  have hUpdate (c : ContactInfo) :
      Message.updateContactStatus c = PresenceEvents.statusMessage true c := rfl
  unfold announcement announcementLength change
  unfold Presence.Ignored at hCounts
  by_cases hStatus : presence.status = []
  · simp only [hStatus, ne_eq, not_true_eq_false, if_false, true_and] at hCounts ⊢
    cases hType : presence.presence with
    | Probe | Error | Invalid => simp [hType] at hCounts
    | Available | Chat =>
      rw [length_statusMessage, payloadLength_appendContact_plain (.inl rfl)]
      rfl
    | Away =>
      rw [hUpdate, length_statusMessage, payloadLength_appendContact_plain (.inr (.inl rfl))]
      rfl
    | DND | XA =>
      rw [hUpdate, length_statusMessage, payloadLength_appendContact_plain (.inr (.inr rfl))]
      rfl
    | Unavailable => exact length_contactOffline presence.bare
  · simp only [if_pos (show presence.status ≠ [] from hStatus)]
    rw [length_statusMessage, payloadLength_appendContact_custom rfl, ← Nat.add_assoc]
    rfl

/-! ## Result -/

/-- Handling a stanza does not throw, and presence of somebody who is no contact changes no
contact and sends nothing. -/
structure Survives (presence : Presence) (s : SessionContext)
    (outcome : EStateM.Result Fault SessionContext Unit) : Prop where
  returns : returned outcome = true
  stranger : contact? s presence.bare = none →
    (finalState outcome).contactManager_ = s.contactManager_ ∧
      (finalState outcome).connection_.sent = s.connection_.sent

/-- The event of somebody who is no contact throws. -/
theorem contact_of_survives {handler : PresenceHandler} {timestamp : Int} {presence : Presence}
    {s : SessionContext} (hCounts : ¬ presence.Ignored)
    (hSurvives : Survives presence s (handler.handlePresence timestamp presence s)) :
    ∃ c, contact? s presence.bare = some c := by
  have hReturns := hSurvives.returns
  rw [handlePresence_run handler timestamp hCounts] at hReturns
  cases hFind : contact? s presence.bare with
  | none =>
    rw [PresenceEvents.onContact_none _ _ hFind] at hReturns
    cases hReturns
  | some c => exact ⟨c, rfl⟩

/-- **A stanza is survived** exactly when it is ignored, or comes from a contact and its
packet is below 64k. -/
theorem survives_iff (handler : PresenceHandler) (timestamp : Int) (presence : Presence)
    (s : SessionContext) :
    Survives presence s (handler.handlePresence timestamp presence s) ↔
      presence.Ignored ∨ ∃ c, contact? s presence.bare = some c ∧
        announcementLength handler timestamp presence c < Builder.PaxPayloadSize := by
  by_cases hIgnored : presence.Ignored
  · rw [handlePresence_ignored handler timestamp hIgnored]
    exact iff_of_true ⟨rfl, fun _ => ⟨rfl, rfl⟩⟩ (.inl hIgnored)
  rw [or_iff_right hIgnored]
  cases hFind : contact? s presence.bare with
  | none =>
    refine iff_of_false (fun h => ?_) (by rintro ⟨c, hSome, -⟩; cases hSome)
    obtain ⟨c, hSome⟩ := contact_of_survives hIgnored h
    cases hFind.symm.trans hSome
  | some c =>
    rw [handlePresence_run handler timestamp hIgnored, PresenceEvents.onContact_run _ _ hFind,
      SessionContext.send_run]
    have hFits := fits_announcement_iff handler timestamp hIgnored c
    by_cases hLength : announcementLength handler timestamp presence c < Builder.PaxPayloadSize
    · rw [if_pos (hFits.mpr hLength)]
      exact iff_of_true ⟨rfl, fun hNone => by rw [hFind] at hNone; cases hNone⟩ ⟨c, rfl, hLength⟩
    · rw [if_neg fun h => hLength (hFits.mp h)]
      refine iff_of_false (fun h => ?_) ?_
      · cases h.returns
      · rintro ⟨c', hSome, hShort⟩
        obtain rfl := Option.some.inj hSome
        exact hLength hShort

/-- The contacts of a session are kept by full JID: unless it is ignored, presence is only
survived when its bare JID is the full JID of an item of the roster. -/
theorem item_of_survives {env : Env} {items : List RosterItem} {handler : PresenceHandler}
    {timestamp : Int} {presence : Presence} {s : SessionContext}
    (hPopulate : AuthenticationHandler.populate env (some (some items)) ⟨.empty⟩ =
      .ok s.contactManager_) (hCounts : ¬ presence.Ignored)
    (hSurvives : Survives presence s (handler.handlePresence timestamp presence s)) :
    ∃ item ∈ items, item.jid = presence.bare := by
  obtain ⟨c, hFind⟩ := contact_of_survives hCounts hSurvives
  obtain ⟨hKeyed, hContacts⟩ := AuthenticationHandler.contacts_of_populate hPopulate
  have hMem : c ∈ s.contactManager_.contacts := ContactManager.mem_contacts_iff.mpr ⟨_, hFind⟩
  obtain ⟨item, hItem, rfl⟩ := List.mem_map.mp (hContacts.mem_iff.mp hMem)
  exact ⟨item, hItem, hKeyed.find? hFind⟩

/-! ## Bridged sessions -/

/-- A session that a bridge has begun, with the presence handler of one of its connections. -/
def Bridged (handler : PresenceHandler) (s : SessionContext) : Prop :=
  ∃ draws connection events b, Runs BridgeStep (.new draws connection) events b ∧
    b.endpoint.session = some s ∧ ∃ client ∈ b.clients, client.presenceHandler_ = some handler

/-- The bridge of a client that was challenged and sent its packet, and whose account has no
contacts. -/
def begun : Bridge :=
  finalState ((connects 0).handle (finalState (authenticates.handle challenged)))

theorem begun_bridged {s : SessionContext} (hSession : begun.endpoint.session = some s) :
    Bridged ⟨0⟩ s := by
  have hOpened : Runs BridgeStep (.new 0 (.new 0 0)) [asksChallenge, authenticates]
      (finalState (authenticates.handle challenged)) :=
    challenged_run.snoc ⟨trivial, eq_ok_of_returned (by decide +kernel)⟩
  have hPossible : (connects 0).BeginsSession
      (finalState (authenticates.handle challenged)) := by decide +kernel
  have hRun : Runs BridgeStep (.new 0 (.new 0 0)) [asksChallenge, authenticates, connects 0]
      begun :=
    hOpened.snoc ⟨hPossible, eq_ok_of_returned (by decide +kernel)⟩
  have hHandler : ∃ client ∈ begun.clients, client.presenceHandler_ = some ⟨0⟩ := by decide +kernel
  exact ⟨0, .new 0 0, _, begun, hRun, hSession, hHandler⟩

/-- Presence of a stranger, to whom the account may have subscribed elsewhere. -/
def strangerPresence : Presence := ⟨.Available, [], ascii "kim@example"⟩

/-- It is not survived. -/
theorem stranger_not_survived :
    ¬ ∀ (handler : PresenceHandler) (s : SessionContext), Bridged handler s →
      ∀ (timestamp : Int) (presence : Presence),
        Survives presence s (handler.handlePresence timestamp presence s) := by
  intro hEvery
  have hBegun : begun.endpoint.session.isSome = true := by decide +kernel
  obtain ⟨s, hSession⟩ := Option.isSome_iff_exists.mp hBegun
  have hNone : begun.endpoint.session.map (fun s => contact? s strangerPresence.bare) =
      some none := by
    decide +kernel
  rw [hSession, Option.map_some, Option.some.injEq] at hNone
  have hCounts : ¬ strangerPresence.Ignored := by decide
  obtain ⟨c, hSome⟩ := contact_of_survives hCounts
    (hEvery ⟨0⟩ s (begun_bridged hSession) 0 strangerPresence)
  rw [hNone] at hSome
  cases hSome

end Giblet.Gloox
