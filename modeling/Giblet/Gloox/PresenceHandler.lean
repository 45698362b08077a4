import Giblet.YMsg.Presence

/-!
# Gloox — presence stanzas

`PresenceHandler::handlePresence` looks at the status text first and at the
type of a stanza only when there is none: whatever has a text becomes
`OnContactStatusMessage`.

* `handlePresence_spec` — what a stanza does to every contact.
* `faithful_iff` — the stanzas that are translated as their type says.
* `presence_translated_iff` — the same for every stanza of a run.
-/

namespace Giblet.Gloox

open Effect Run YMsg

/-! ## The handler -/

/-- `gloox::Presence::PresenceType`. -/
inductive PresenceType
  | Available
  | Chat
  | Away
  | DND
  | XA
  | Unavailable
  | Probe
  | Error
  | Invalid
  deriving DecidableEq, Repr

/-- What is used of a `gloox::Presence`: `presence()`, `status()` and `from().bare()`. -/
structure Presence where
  presence : PresenceType
  status : Bytes
  bare : Bytes
  deriving DecidableEq, Repr

/-- `PresenceHandler`; its events work on the session. -/
structure PresenceHandler where
  sessionBeginTimestamp_ : Int
  deriving DecidableEq, Repr

namespace PresenceHandler

/-- Notifications are shown once the session is two seconds old; times are in milliseconds. -/
def showNotification (handler : PresenceHandler) (timestamp : Int) : Bool :=
  decide (timestamp - handler.sessionBeginTimestamp_ ≥ 2000)

/-- `PresenceHandler::handlePresence`; `timestamp` is what `GetTimestamp` returns. -/
def handlePresence (handler : PresenceHandler) (timestamp : Int) (presence : Presence) :
    SessionAction :=
  let showNotification := handler.showNotification timestamp
  -- a text decides, whatever the type: it only matters whether the contact counts as busy
  if presence.status ≠ [] then
    let isAwayOrBusy : Bool :=
      presence.presence = .Away || presence.presence = .DND || presence.presence = .XA
    PresenceEvents.onContactStatusMessage presence.bare presence.status isAwayOrBusy
      showNotification
  else
    match presence.presence with
    | .Available | .Chat => PresenceEvents.onContactAvailable presence.bare showNotification
    | .Away => PresenceEvents.onContactAway presence.bare .Brb false
    | .DND => PresenceEvents.onContactAway presence.bare .Busy true
    -- extended absence is shown as busy, too
    | .XA => PresenceEvents.onContactAway presence.bare .Busy true
    | .Unavailable => PresenceEvents.onContactOffline presence.bare
    -- nothing is done about the others
    | .Probe | .Error | .Invalid => pure ()

end PresenceHandler

/-! ## What an event does -/

/-- The contact a session has for an id. -/
def contact? (s : SessionContext) (id : Bytes) : Option ContactInfo :=
  s.contactManager_.contacts_.find? id

/-- **An event** changes the contact it is about and no other, also when its packet is too
large to be sent. -/
theorem contact?_onContact (id : Bytes) (change : ContactInfo → ContactInfo)
    (message : ContactInfo → Message) (s : SessionContext) (other : Bytes) :
    contact? (finalState (PresenceEvents.onContact (·.setContact id change) message s)) other =
      if other = id then (contact? s id).map change else contact? s other := by
  unfold contact?
  cases hFind : s.contactManager_.contacts_.find? id with
  | none =>
    -- nobody's presence: the event throws
    rw [PresenceEvents.onContact_none change message hFind, finalState_error, Option.map_none]
    by_cases hSame : other = id
    · rw [if_pos hSame, hSame, hFind]
    · rw [if_neg hSame]
  | some c =>
    rw [PresenceEvents.onContact_run change message hFind, SessionContext.send_run]
    have hChanged : (s.contactManager_.contacts_.adjust id change).find? other =
        if other = id then (some c).map change else s.contactManager_.contacts_.find? other := by
      rw [OrderedMap.find?_adjust]
      by_cases hSame : other = id
      · rw [if_pos hSame, if_pos hSame, hSame, hFind]
      · rw [if_neg hSame, if_neg hSame]
    -- whether the packet fits makes no difference to the contacts
    rw [← hChanged]
    split <;> rfl

/-! ## Translation -/

/-- What a stanza says of the contact it comes from, before and after it is handled. -/
def Translates : PresenceType → ContactInfo → ContactInfo → Prop
  | .Unavailable, _, c' => c'.availability = .Offline
  | .Available, _, c' | .Chat, _, c' | .Away, _, c' | .DND, _, c' | .XA, _, c' =>
    c'.isOnline = true
  | .Probe, c, c' | .Error, c, c' | .Invalid, c, c' => c' = c

/-- The stanza is translated faithfully: the sender's contact is as the type says, and no
other contact changes. -/
structure Faithful (presence : Presence) (s s' : SessionContext) : Prop where
  sender : ∃ c c', contact? s presence.bare = some c ∧ contact? s' presence.bare = some c' ∧
    Translates presence.presence c c'
  others : ∀ id, id ≠ presence.bare → contact? s' id = contact? s id

/-- The change that a stanza makes to the contact it comes from. -/
def change (presence : Presence) (c : ContactInfo) : ContactInfo :=
  if presence.status ≠ [] then
    { c with
      availability := .Custom
      isBusy := presence.presence = .Away || presence.presence = .DND || presence.presence = .XA
      customMessage := presence.status }
  else
    match presence.presence with
    | .Available | .Chat => { c with availability := .Available }
    | .Away => { c with availability := .Brb, isBusy := false }
    | .DND | .XA => { c with availability := .Busy, isBusy := true }
    | .Unavailable => { c with availability := .Offline }
    | .Probe | .Error | .Invalid => c

/-- **A stanza** changes the contact it comes from and no other. -/
theorem handlePresence_spec (handler : PresenceHandler) (timestamp : Int) (presence : Presence)
    (s : SessionContext) (id : Bytes) :
    contact? (finalState (handler.handlePresence timestamp presence s)) id =
      if id = presence.bare then (contact? s presence.bare).map (change presence)
      else contact? s id := by
  unfold PresenceHandler.handlePresence change
  by_cases hStatus : presence.status ≠ []
  · simp only [if_pos hStatus]
    exact contact?_onContact _ _ _ s id
  · simp only [if_neg hStatus]
    cases presence.presence with
    | Probe | Error | Invalid =>
      -- the types that the handler ignores
      show contact? s id = _
      by_cases hSame : id = presence.bare
      · rw [if_pos hSame, hSame, Option.map_id']
      · rw [if_neg hSame]
    | _ => exact contact?_onContact _ _ _ s id

/-- What a stanza must be for its text not to hide its type: there is none, or the type is
one that leaves the contact online anyway. -/
def TypeCounts (presence : Presence) (c : ContactInfo) : Prop :=
  presence.status = [] ∨
    match presence.presence with
    | .Unavailable => False
    | .Available | .Chat | .Away | .DND | .XA => True
    | .Probe | .Error | .Invalid =>
      c.availability = .Custom ∧ c.isBusy = false ∧ c.customMessage = presence.status

theorem translates_change_iff (presence : Presence) (c : ContactInfo) :
    Translates presence.presence c (change presence c) ↔ TypeCounts presence c := by
  unfold change TypeCounts
  by_cases hStatus : presence.status = []
  · -- without a text every type is translated
    refine iff_of_true ?_ (.inl hStatus)
    rw [if_neg (not_not.mpr hStatus)]
    cases presence.presence <;> rfl
  -- a text makes the contact Custom: online, and changed
  · rw [if_pos hStatus, or_iff_right hStatus]
    cases presence.presence with
    | Unavailable => exact iff_of_false (fun h => by cases h) id
    | Available | Chat | Away | DND | XA => exact iff_of_true rfl trivial
    | Probe | Error | Invalid =>
      obtain ⟨id, group, availability, isBusy, customMessage, idleUnknown, state, isInChat⟩ := c
      simp [Translates, eq_comm]

/-- **One stanza** is translated faithfully exactly when its type counts. -/
theorem faithful_iff (handler : PresenceHandler) (timestamp : Int) {presence : Presence}
    {s : SessionContext} {c : ContactInfo} (hContact : contact? s presence.bare = some c) :
    Faithful presence s (finalState (handler.handlePresence timestamp presence s)) ↔
      TypeCounts presence c := by
  have hSpec := handlePresence_spec handler timestamp presence s
  have hSender := hSpec presence.bare
  rw [if_pos rfl, hContact, Option.map_some] at hSender
  rw [← translates_change_iff]
  -- both sides speak of the one contact the stanza comes from
  constructor
  · intro h
    obtain ⟨c₀, c', hc₀, hc', hTranslates⟩ := h.sender
    obtain rfl := Option.some.inj (hContact.symm.trans hc₀)
    obtain rfl := Option.some.inj (hSender.symm.trans hc')
    exact hTranslates
  · intro hTranslates
    refine ⟨⟨c, _, hContact, hSender, hTranslates⟩, fun id hOther => ?_⟩
    rw [hSpec, if_neg hOther]

/-! ## Runs -/

/-- A stanza is handled, with the time at which it arrives: its handling returns, or throws. -/
def StanzaStep (handler : PresenceHandler) (s : SessionContext) (a : Int × Presence)
    (s' : SessionContext) : Prop :=
  s' = finalState (handler.handlePresence a.1 a.2 s)

/-- Stanzas do not make anybody a contact, and nobody stops being one. -/
theorem contact?_isSome_run {handler : PresenceHandler} {s₀ s : SessionContext}
    {stanzas : List (Int × Presence)} (hRun : Runs (StanzaStep handler) s₀ stanzas s) (id : Bytes) :
    (contact? s id).isSome = (contact? s₀ id).isSome := by
  refine hRun.invariant (I := fun _ s => (contact? s id).isSome = (contact? s₀ id).isSome) rfl ?_
  intro _ t a u _ ih hStep
  rw [hStep, handlePresence_spec, ← ih]
  by_cases hSame : id = a.2.bare
  · rw [if_pos hSame, hSame, Option.isSome_map]
  · rw [if_neg hSame]

/-- **Presence is translated faithfully throughout a run** exactly when the type of every
stanza counts. -/
theorem presence_translated_iff (handler : PresenceHandler) {s₀ : SessionContext}
    {stanzas : List (Int × Presence)}
    (hRoster : ∀ a ∈ stanzas, (contact? s₀ a.2.bare).isSome = true) :
    (∀ history a rest s, stanzas = history ++ a :: rest →
        Runs (StanzaStep handler) s₀ history s →
        Faithful a.2 s (finalState (handler.handlePresence a.1 a.2 s))) ↔
      ∀ history a rest s c, stanzas = history ++ a :: rest →
        Runs (StanzaStep handler) s₀ history s → contact? s a.2.bare = some c →
        TypeCounts a.2 c := by
  constructor
  · intro hFaithful history a rest s c hSplit hRun hContact
    exact (faithful_iff handler a.1 hContact).mp (hFaithful history a rest s hSplit hRun)
  · intro hCounts history a rest s hSplit hRun
    have hMem : a ∈ stanzas := by simp [hSplit]
    -- the sender is still a contact when its stanza arrives
    have hSome : (contact? s a.2.bare).isSome = true :=
      (contact?_isSome_run hRun a.2.bare).trans (hRoster a hMem)
    obtain ⟨c, hContact⟩ := Option.isSome_iff_exists.mp hSome
    exact (faithful_iff handler a.1 hContact).mpr
      (hCounts history a rest s c hSplit hRun hContact)

/-- A session with one contact, who is available. -/
def rosterSession : SessionContext where
  profileManager_ := ⟨ascii "me", []⟩
  contactManager_ := ⟨(OrderedMap.empty.emplace (ascii "jay@example")
    (.new false (ascii "jay@example") (ascii "Friends") .Linked .Available)).getD .empty⟩
  blockedContactManager_ := ⟨[]⟩
  properties_ := .new .Available
  connection_ := .new 0 0

/-- The contact leaves, and says goodbye. -/
def goodbye : Presence := ⟨.Unavailable, ascii "bye", ascii "jay@example"⟩

theorem rosterSession_goodbye :
    ∀ a ∈ [((0 : Int), goodbye)], (contact? rosterSession a.2.bare).isSome = true := by
  decide +kernel

theorem presence_translated_goodbye :
    (∀ history a rest s, [(0, goodbye)] = history ++ a :: rest →
        Runs (StanzaStep ⟨0⟩) rosterSession history s →
        Faithful a.2 s (finalState (PresenceHandler.handlePresence ⟨0⟩ a.1 a.2 s))) ↔
      ∀ history a rest s c, [(0, goodbye)] = history ++ a :: rest →
        Runs (StanzaStep ⟨0⟩) rosterSession history s → contact? s a.2.bare = some c →
        TypeCounts a.2 c :=
  presence_translated_iff ⟨0⟩ rosterSession_goodbye

/-- Who says goodbye stays online. -/
theorem goodbye_stays_online :
    ¬ ∀ (handler : PresenceHandler) (s₀ : SessionContext) (stanzas : List (Int × Presence)),
      (∀ a ∈ stanzas, (contact? s₀ a.2.bare).isSome = true) →
      ∀ history a rest s, stanzas = history ++ a :: rest →
        Runs (StanzaStep handler) s₀ history s →
        Faithful a.2 s (finalState (handler.handlePresence a.1 a.2 s)) := by
  intro hEvery
  have hFaithful := hEvery ⟨0⟩ rosterSession [(0, goodbye)] rosterSession_goodbye [] _ [] _ rfl
    (.nil _)
  obtain ⟨c, hContact⟩ := Option.isSome_iff_exists.mp
    (rosterSession_goodbye (0, goodbye) List.mem_cons_self)
  have hCounts := (faithful_iff ⟨0⟩ 0 hContact).mp hFaithful
  cases hCounts with
  | inl hStatus => exact absurd hStatus (by decide)
  | inr hType => exact hType

end Giblet.Gloox
