import Giblet.YMsg.Decisions

/-!
# YMsg — roster requests and their announcements

An `AddContact`, `RemoveContact` or `RenameContactGroup` request is refused
with at most one packet, or granted. A request that is granted changes the
contacts first and announces the change afterwards; the announcements are
known before the first one is sent.

* `grant` — the decision, and what it leads to.
* `handle_carriesOut` — the handlers carry out that decision.
* `grant_announces` — the acknowledgement comes first, then the profile.
* `rosterRequest_throws` — what is left when handling a request throws.
-/

namespace Giblet.YMsg

open Effect Run SessionContext

/-- A packet that asks for a change of the roster. -/
def RosterRequest (a : Arrival) : Prop :=
  ∃ service ∈ [V11.Service.addContact, .removeContact, .renameContactGroup],
    V11.find a.header.serviceId = some service

/-- What granting a request leads to: the new contacts, and the packets that announce them. -/
structure Grant where
  contactManager : ContactManager
  announcements : List Message

/-- The acknowledgement of a change, and the profile that shows it. -/
def Grant.announced (s : SessionContext) (contactManager : ContactManager)
    (acknowledgement : Message) : Grant where
  contactManager := contactManager
  announcements :=
    [acknowledgement, { s with contactManager_ := contactManager : SessionContext }.clientProfile]

/-! ## Decisions -/

/-- An `AddContact` request: an id of our own is sent the request it made. -/
def grantAdd (s : SessionContext) (env : Env) (clientId contactId group message : Bytes) :
    Option Grant :=
  if group = [] ∨ s.contactManager_.isContact contactId = true ∨
      s.blockedContactManager_.isBlocked contactId = true ∨ contactId = ascii "grag" then none
  else
    match s.contactManager_.addPendingContact (env.isInChat contactId) contactId group with
    -- an id that is taken in the meantime is refused by the manager
    | .error _ => none
    | .ok contactManager =>
      let granted := Grant.announced s contactManager
        (.addContactRequestResult contactId clientId group .AddPending)
      some { granted with
        announcements := granted.announcements ++
          if s.profileManager_.isClientOrProfileId contactId then
            [.addContactRequest clientId contactId message env.time]
          else [] }

/-- A `RemoveContact` request. -/
def grantRemove (s : SessionContext) (clientId contactId group : Bytes) : Option Grant :=
  if s.contactManager_.isContact contactId then
    some (.announced s (s.contactManager_.removeContact contactId)
      (.contactRemoved clientId contactId group .Success))
  else none

/-- A `RenameContactGroup` request. -/
def grantRename (s : SessionContext) (currentName newName : Bytes) : Option Grant :=
  if currentName = newName then none
  else
    some (.announced s (s.contactManager_.renameGroup currentName newName)
      (.contactGroupRenamed s.profileManager_.clientId_ newName currentName))

/-- The decision about a payload object, once it is filled. -/
def decide? {π : Type} (fields : π) (onKeyPair : Int32 → StringView → Action π Unit)
    (payload : Bytes) (decision : π → Option Grant) : Option Grant :=
  match PacketParser.parse onKeyPair payload fields with
  | .error _ _ => none
  | .ok _ fields => decision fields

/-- The decision about a packet. -/
def grant (s : SessionContext) (a : Arrival) : Option Grant :=
  match V11.find a.header.serviceId with
  | some .addContact =>
    decide? {} Payloads.AddContact.onKeyPair a.payload fun fields =>
      grantAdd s a.env fields.clientId.chars fields.contactId.chars fields.group.chars
        fields.message.chars
  | some .removeContact =>
    decide? {} Payloads.RemoveContact.onKeyPair a.payload fun fields =>
      grantRemove s fields.clientId.chars fields.contactId.chars fields.group.chars
  | some .renameContactGroup =>
    decide? {} Payloads.RenameContactGroup.onKeyPair a.payload fun fields =>
      grantRename s fields.currentGroupName.chars fields.newGroupName.chars
  | _ => none

/-- A packet that acknowledges a roster request. -/
def Message.acknowledges : Message → Bool
  | addContactRequestResult .. => true
  | contactRemoved .. => true
  | contactGroupRenamed .. => true
  | _ => false

/-- What is announced first is an acknowledgement, and next comes the profile that shows the
new contacts. -/
def Grant.Announces (g : Grant) (s : SessionContext) : Prop :=
  ∃ acknowledgement more, acknowledgement.acknowledges = true ∧
    g.announcements = acknowledgement ::
      { s with contactManager_ := g.contactManager : SessionContext }.clientProfile :: more

theorem grantAdd_announces {s : SessionContext} {env : Env}
    {clientId contactId group message : Bytes} {g : Grant}
    (h : grantAdd s env clientId contactId group message = some g) : g.Announces s := by
  unfold grantAdd at h
  split at h
  · cases h
  · split at h
    · cases h
    · cases h
      exact ⟨_, _, rfl, rfl⟩

theorem grantRemove_announces {s : SessionContext} {clientId contactId group : Bytes} {g : Grant}
    (h : grantRemove s clientId contactId group = some g) : g.Announces s := by
  unfold grantRemove at h
  split at h
  · cases h
    exact ⟨_, _, rfl, rfl⟩
  · cases h

theorem grantRename_announces {s : SessionContext} {currentName newName : Bytes} {g : Grant}
    (h : grantRename s currentName newName = some g) : g.Announces s := by
  unfold grantRename at h
  split at h
  · cases h
  · cases h
    exact ⟨_, _, rfl, rfl⟩

/-- A payload that was decided about was filled. -/
theorem decision_of_decide? {π : Type} {fields : π} {onKeyPair : Int32 → StringView → Action π Unit}
    {payload : Bytes} {decision : π → Option Grant} {g : Grant}
    (h : decide? fields onKeyPair payload decision = some g) :
    ∃ fields', decision fields' = some g := by
  unfold decide? at h
  split at h
  · cases h
  · exact ⟨_, h⟩

theorem grant_announces {s : SessionContext} {a : Arrival} {g : Grant} (h : grant s a = some g) :
    g.Announces s := by
  unfold grant at h
  split at h
  · obtain ⟨fields, hDecision⟩ := decision_of_decide? h
    exact grantAdd_announces hDecision
  · obtain ⟨fields, hDecision⟩ := decision_of_decide? h
    exact grantRemove_announces hDecision
  · obtain ⟨fields, hDecision⟩ := decision_of_decide? h
    exact grantRename_announces hDecision
  · cases h

/-! ## Announcing -/

/-- **Packets sent one after the other**, when that throws: those before the first one that
is too large were sent. -/
theorem forM_send_throws {ms : List Message} {s s' : SessionContext} {e : Fault}
    (h : (ms.forM send : SessionAction) s = .error e s') :
    ∃ sent m unsent, ms = sent ++ m :: unsent ∧ (∀ m ∈ sent, m.Fits) ∧ ¬ m.Fits ∧
      e = Builder.tooLarge ∧ s' = sent.foldl push s := by
  rw [forM_send_run] at h
  split_ifs at h with hFits
  cases h
  have hSplit := List.takeWhile_append_dropWhile (p := fun m : Message => decide m.Fits) (l := ms)
  cases hRest : ms.dropWhile fun m => decide m.Fits with
  | nil =>
    rw [List.dropWhile_eq_nil_iff] at hRest
    exact absurd (fun m hm => of_decide_eq_true (hRest m hm)) hFits
  | cons m unsent =>
    rw [hRest] at hSplit
    have hSome : ms.dropWhile (fun m => decide m.Fits) ≠ [] := by
      rw [hRest]
      exact List.cons_ne_nil m unsent
    have hLarge := List.head_dropWhile_not (fun m : Message => decide m.Fits) hSome
    simp only [hRest, List.head_cons, decide_eq_false_iff_not] at hLarge
    refine ⟨_, m, unsent, hSplit.symm, fun m hm => ?_, hLarge, rfl, rfl⟩
    exact of_decide_eq_true (List.mem_takeWhile_imp (p := fun m : Message => decide m.Fits) hm)

/-! ## The handlers -/

/-- Change the contacts, then announce it. -/
def Grant.carryOut (g : Grant) : SessionAction := do
  setContacts g.contactManager
  g.announcements.forM send

/-- An action carries out a decision: granted, it is the change and its announcements;
refused, it throws without a trace, or returns. -/
def CarriesOut (x : SessionAction) (s : SessionContext) : Option Grant → Prop
  | some g => x s = g.carryOut s
  | none => ∀ e s', x s = .error e s' → s' = s

/-- The decision about a packet grants a request, or refuses it. -/
def Grants (s : SessionContext) : Decision → Option Grant → Prop
  | .announced managers messages, some g =>
    managers = (s.withContacts g.contactManager).toManagers ∧ messages = g.announcements
  | .refused _, none => True
  | .announced managers messages, none => managers = s.toManagers ∧ messages.length ≤ 1
  | _, _ => False

/-- A single packet that is too large leaves no trace. -/
theorem answers_traceless {s s' : SessionContext} {ms : List Message} {e : Fault}
    (hOne : ms.length ≤ 1) (h : (s.answers ms).carryOut s = .error e s') : s' = s := by
  obtain ⟨sent, m, unsent, rfl, -, -, -, rfl⟩ := forM_send_throws h
  rw [List.length_append, List.length_cons] at hOne
  obtain rfl : sent = [] := List.length_eq_zero_iff.mp (by omega)
  rfl

theorem Grants.carriesOut {s : SessionContext} {d : Decision} {granted : Option Grant}
    (h : Grants s d granted) : CarriesOut d.carryOut s granted := by
  cases granted with
  | some g =>
    cases d with
    | announced managers messages =>
      obtain ⟨rfl, rfl⟩ := h
      rfl
    | refused e => exact h.elim
    | presence call => exact h.elim
  | none =>
    intro e s' hThrows
    cases d with
    | announced managers messages =>
      obtain ⟨rfl, hOne⟩ := h
      exact answers_traceless hOne hThrows
    | refused e' =>
      cases hThrows
      rfl
    | presence call => exact h.elim

theorem decideAdd_grants (s : SessionContext) (env : Env)
    (clientId contactId group message : Bytes) :
    Grants s (decideAdd s env clientId contactId group message)
      (grantAdd s env clientId contactId group message) := by
  by_cases hRefuses : s.Refuses contactId group
  · obtain ⟨status, -, hDecision⟩ := decideAdd_refused hRefuses env clientId message
    unfold Refuses at hRefuses
    rw [hDecision, grantAdd, if_pos hRefuses]
    exact ⟨rfl, le_rfl⟩
  · obtain ⟨contactManager, hAdd, hDecision⟩ := decideAdd_accepted hRefuses env clientId message
    unfold Refuses at hRefuses
    rw [hDecision, grantAdd, if_neg hRefuses, hAdd]
    exact ⟨rfl, rfl⟩

theorem decideRemove_grants (s : SessionContext) (clientId contactId group : Bytes) :
    Grants s (decideRemove s clientId contactId group) (grantRemove s clientId contactId group) := by
  unfold decideRemove grantRemove
  split_ifs
  · exact ⟨rfl, rfl⟩
  · exact ⟨rfl, le_rfl⟩

theorem decideRename_grants (s : SessionContext) (currentName newName : Bytes) :
    Grants s (decideRename s currentName newName) (grantRename s currentName newName) := by
  unfold decideRename grantRename
  split_ifs
  · exact ⟨rfl, Nat.zero_le 1⟩
  · exact ⟨rfl, rfl⟩

/-! ## Packets -/

theorem decideOn_grants {π : Type} {fields : π} {onKeyPair : Int32 → StringView → Action π Unit}
    {payload : Bytes} {decision : π → Decision} {decision' : π → Option Grant}
    {s : SessionContext} (h : ∀ fields, Grants s (decision fields) (decision' fields)) :
    Grants s (decideOn fields onKeyPair payload decision)
      (decide? fields onKeyPair payload decision') := by
  unfold decideOn decide?
  cases PacketParser.parse onKeyPair payload fields with
  -- a payload that cannot be parsed is refused without a packet
  | error e fields => trivial
  | ok _ fields => exact h fields

/-- **A roster request** carries out the decision about it. -/
theorem handle_carriesOut {a : Arrival} (hRequest : RosterRequest a) (s : SessionContext) :
    CarriesOut (fun s => handle s a) s (grant s a) := by
  have hGrants : Grants s (decision s a) (grant s a) := by
    obtain ⟨service, hMem, hFind⟩ := hRequest
    unfold decision grant
    rw [hFind]
    simp only [List.mem_cons, List.not_mem_nil, or_false] at hMem
    rcases hMem with rfl | rfl | rfl
    · exact decideOn_grants fun fields => decideAdd_grants ..
    · exact decideOn_grants fun fields => decideRemove_grants ..
    · exact decideOn_grants fun fields => decideRename_grants ..
  have hCarries := hGrants.carriesOut
  unfold CarriesOut at hCarries ⊢
  simp only [handle_eq]
  exact hCarries

/-! ## What is left -/

/-- **When a roster request throws**, either nothing happened, or it was granted and one of
its announcements is too large: then the contacts have changed as a whole, and the
announcements before that one were sent. -/
theorem rosterRequest_throws {s s' : SessionContext} {a : Arrival} {e : Fault}
    (hRequest : RosterRequest a) (hThrows : handle s a = .error e s') :
    s' = s ∨ ∃ g sent m unsent, grant s a = some g ∧ g.Announces s ∧
      g.announcements = sent ++ m :: unsent ∧ (∀ m ∈ sent, m.Fits) ∧ ¬ m.Fits ∧
      e = Builder.tooLarge ∧
      s' = sent.foldl push { s with contactManager_ := g.contactManager } := by
  have hCarries := handle_carriesOut hRequest s
  cases hGrant : grant s a with
  | none =>
    rw [hGrant] at hCarries
    exact .inl (hCarries e s' hThrows)
  | some g =>
    rw [hGrant] at hCarries
    have hRun : (g.announcements.forM send : SessionAction)
        { s with contactManager_ := g.contactManager } = .error e s' :=
      hCarries.symm.trans hThrows
    obtain ⟨sent, m, unsent, hSplit, hSent, hLarge, hFault, hAfter⟩ := forM_send_throws hRun
    exact .inr ⟨g, sent, m, unsent, rfl, grant_announces hGrant, hSplit, hSent, hLarge, hFault,
      hAfter⟩

theorem addContactPacket_rosterRequest (group : Bytes) : RosterRequest (addContactPacket group) :=
  ⟨.addContact, by decide, rfl⟩

/-- An `AddContact` that is granted, with an announcement that is too large. -/
theorem rosterRequest_throws_addContact :
    ∃ s' g sent m unsent,
      handle begunSession (addContactPacket longGroup) = .error Builder.tooLarge s' ∧
      grant begunSession (addContactPacket longGroup) = some g ∧
      g.announcements = sent ++ m :: unsent ∧ ¬ m.Fits ∧
      s' = sent.foldl push { begunSession with contactManager_ := g.contactManager } := by
  obtain ⟨contactManager, hMem, hBroken⟩ := addContactPacket_breaks
  rcases rosterRequest_throws (addContactPacket_rosterRequest longGroup) hBroken with
    hSame | hGranted
  -- the contact is there, so something was done
  · have hContacts := congrArg (fun s : SessionContext => s.contactManager_) hSame
    dsimp only at hContacts
    rw [hContacts, begunSession_contacts] at hMem
    cases hMem
  · obtain ⟨g, sent, m, unsent, hGrant, -, hSplit, -, hLarge, -, hAfter⟩ := hGranted
    exact ⟨_, g, sent, m, unsent, hBroken, hGrant, hSplit, hLarge, hAfter⟩

/-- The contact is added although the handler throws. -/
theorem addContact_not_undone :
    ¬ ∀ (s₀ s₁ s s' : SessionContext) (arrivals : List Arrival) (a : Arrival) (e : Fault),
      Begins s₀ s₁ → Runs SessionStep s₁ arrivals s → RosterRequest a →
      handle s a = .error e s' →
      s'.contactManager_ = s.contactManager_ ∧
        ∀ p ∈ s'.connection_.sent.drop s.connection_.sent.length,
          p.message.acknowledges = false := by
  intro hEvery
  obtain ⟨contactManager, hMem, hBroken⟩ := addContactPacket_breaks
  have hContacts := (hEvery _ _ _ _ [] _ _ begins_begunSession (.nil _)
    (addContactPacket_rosterRequest longGroup) hBroken).1
  -- no contact has this id before, and afterwards one has
  dsimp only at hContacts
  rw [hContacts, begunSession_contacts] at hMem
  cases hMem

end Giblet.YMsg
