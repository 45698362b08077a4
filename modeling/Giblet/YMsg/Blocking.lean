import Giblet.YMsg.Frames
import Giblet.YMsg.Picture
import Giblet.YMsg.Presence

/-!
# YMsg — contacts and blocked users

Nobody should be a contact and blocked at once. `AddContact` refuses users who
are blocked; `MockBlockedContactManagementLink::Add` does not look at the
contacts, although a refusal of that kind has its own reason code.

* `disjoint_step_iff` — the packets that keep roster and block list apart.
* `disjoint_iff` — the runs that do.
-/

namespace Giblet.YMsg

open Effect Run SessionContext

/-- No id is a contact and blocked. -/
def SessionContext.Disjoint (s : SessionContext) : Prop :=
  ∀ id, s.contactManager_.isContact id = true → s.blockedContactManager_.isBlocked id = false

/-- A packet that blocks somebody who is a contact. -/
def BlocksContact (s : SessionContext) (a : Arrival) : Prop :=
  V11.find a.header.serviceId = some .changeBlockedUser ∧
    ∃ fields, PacketParser.parse Payloads.ChangeBlockedUser.onKeyPair a.payload {} =
        .ok () fields ∧
      fields.mode.chars = ascii "1" ∧ s.contactManager_.isContact fields.contactId.chars = true

/-- Disjoint lists stay disjoint. -/
def KeepsDisjoint (s s' : SessionContext) : Prop := s.Disjoint → s'.Disjoint

instance : IsPreorder SessionContext KeepsDisjoint where
  refl _ h := h
  trans _ _ _ h h' hs := h' (h hs)

/-- Everything but blocking keeps the lists apart: contacts are added only when they
are not blocked. -/
theorem keepsDisjoint_basic : Basic KeepsDisjoint where
  sent _ _ h := h
  noted _ _ h := h
  -- the one change that makes somebody a contact: `AddContact` has asked the block list
  pending s _ contactId _ contactManager hBlocked hAdd h := by
    intro id hContact
    rcases (ContactManager.isContact_addPendingContact hAdd).mp hContact with rfl | hContact
    · exact hBlocked
    · exact h id hContact
  -- these three keep the ids, or remove one
  removed s contactId h := fun id hContact =>
    h id (ContactManager.isContact_removeContact.mp hContact).2
  renamed s currentName newName h := fun id hContact =>
    h id ((ContactManager.isContact_renameGroup _ _ _ _).symm.trans hContact)
  changed s contactId f contact contactManager _ hSet h := fun id hContact =>
    h id ((ContactManager.isContact_setContact hSet).symm.trans hContact)
  unblocked s contactId h := by
    intro id hContact
    refine Bool.eq_false_iff.mpr fun hBlocked => ?_
    exact Bool.eq_false_iff.mp (h id hContact) (BlockedContactManager.isBlocked_of_remove hBlocked)

/-- Blocking a user who is no contact keeps them apart, too. -/
theorem disjoint_block {s : SessionContext} {contactId : Bytes} (h : s.Disjoint)
    (hContact : s.contactManager_.isContact contactId = false) :
    SessionContext.Disjoint
      { s with blockedContactManager_ := s.blockedContactManager_.add contactId } := by
  intro id hIs
  refine Bool.eq_false_iff.mpr fun hBlocked => ?_
  rcases BlockedContactManager.isBlocked_add.mp hBlocked with rfl | hBlocked
  · exact Bool.eq_false_iff.mp hContact hIs
  · exact Bool.eq_false_iff.mp (h id hIs) hBlocked

/-- Once a contact is blocked, it is both. -/
theorem not_disjoint_block {s : SessionContext} {clientId contactId : Bytes}
    (hContact : s.contactManager_.isContact contactId = true)
    (hBlocked : s.blockedContactManager_.isBlocked contactId = false) :
    ¬ (finalState (MockBlockedContactManagementLink.add clientId contactId s)).Disjoint := by
  -- the user gets blocked whether or not the packet that says so can be sent
  have hFinal : ∃ connection, finalState (MockBlockedContactManagementLink.add clientId contactId s)
      = { s with
          blockedContactManager_ := s.blockedContactManager_.add contactId
          connection_ := connection } := by
    unfold MockBlockedContactManagementLink.add BlockedContactManagementEvents.onBlocked setBlocked
    rw [bind_run, get_run]
    dsimp only
    rw [hBlocked]
    simp only [Bool.false_eq_true, if_false, bind_run, get_run, modify_run]
    rw [send_run]
    split
    · exact ⟨_, rfl⟩
    · exact ⟨_, rfl⟩
  obtain ⟨connection, hFinal⟩ := hFinal
  rw [hFinal]
  intro hDisjoint
  have hNot := hDisjoint contactId hContact
  rw [BlockedContactManager.isBlocked_add.mpr (.inl rfl)] at hNot
  cases hNot

/-- **One packet** keeps roster and block list apart exactly when it does not block a contact. -/
theorem disjoint_step_iff {s : SessionContext} (hDisjoint : s.Disjoint) (a : Arrival) :
    (finalState (handle s a)).Disjoint ↔ ¬ BlocksContact s a := by
  unfold BlocksContact handle V11.dispatchPacket
  cases hFind : V11.find a.header.serviceId with
  -- a service without a processor
  | none =>
    rw [Option.map_none, dispatch_none]
    exact iff_of_true hDisjoint fun h => by cases h.1
  | some service =>
    rw [Option.map_some]
    by_cases hService : service = .changeBlockedUser
    · subst hService
      show (finalState (V11.parse a.env .changeBlockedUser a.payload a.following s)).Disjoint ↔ _
      constructor
      -- the user is a contact already, and `Add` only asks the block list
      · intro hAfter ⟨_, fields, hParse, hMode, hContact⟩
        have hBlocked := hDisjoint _ hContact
        revert hAfter
        show ¬ (finalState (processPacket {} Payloads.ChangeBlockedUser.onKeyPair
          Processors.changeBlockedUser a.payload s)).Disjoint
        unfold processPacket
        rw [hParse]
        dsimp only
        rw [Processors.changeBlockedUser, if_pos hMode]
        exact not_disjoint_block hContact hBlocked
      -- whoever gets blocked is no contact
      · intro hNot
        refine V11.changeBlockedUser_frame keepsDisjoint_basic a.env (fun fields hParse hMode _ h =>
          disjoint_block h (Bool.eq_false_iff.mpr fun hContact => ?_)) hDisjoint
        exact hNot ⟨rfl, fields, hParse, hMode, hContact⟩
    -- every other service only makes changes that keep the lists apart
    · refine iff_of_true ?_ fun h => hService (Option.some.inj h.1)
      exact V11.parse_frame keepsDisjoint_basic a.env hService a.payload a.following s hDisjoint

/-- **Contacts and blocked users stay disjoint** in every state of a run exactly when
no packet of it blocks a contact. -/
theorem disjoint_iff {s₀ : SessionContext} (hStart : s₀.Disjoint) {arrivals : List Arrival}
    {s : SessionContext} (hRun : Runs SessionStep s₀ arrivals s) :
    (∀ history rest t, arrivals = history ++ rest → Runs SessionStep s₀ history t → t.Disjoint) ↔
      ∀ history a rest t, arrivals = history ++ a :: rest → Runs SessionStep s₀ history t →
        ¬ BlocksContact t a :=
  SessionStep.always_iff hStart (fun _ a hDisjoint => disjoint_step_iff hDisjoint a) hRun

/-- Only the ids of contacts have to be looked at. -/
theorem disjoint_iff_contacts {s : SessionContext} :
    s.Disjoint ↔ ∀ id ∈ s.contactManager_.contacts_.entries.map Prod.fst,
      s.blockedContactManager_.isBlocked id = false :=
  forall_congr' fun _ => imp_congr OrderedMap.contains_eq_true_iff Iff.rfl

theorem visibleSession_disjoint : visibleSession.Disjoint := by
  rw [disjoint_iff_contacts]
  decide +kernel

/-- A packet that blocks jay. -/
def blockPacket : Arrival where
  env := .zeros
  header := .new 0 11 133 0
  payload := Builder.encode [(7, ascii "jay"), (13, ascii "1")]
  following := []

/-- A session of the mock server, in which jay is a contact, after it. -/
def blockingSession : SessionContext := finalState (handle visibleSession blockPacket)

theorem blockingSession_run : Runs SessionStep visibleSession [blockPacket] blockingSession := by
  have hReturned : returned (handle visibleSession blockPacket) = true := by decide +kernel
  refine .one ⟨?_, rfl⟩
  rw [eq_ok_of_returned hReturned]
  exact .ok _ _

theorem disjoint_iff_blockingSession :
    (∀ history rest t, [blockPacket] = history ++ rest →
        Runs SessionStep visibleSession history t → t.Disjoint) ↔
      ∀ history a rest t, [blockPacket] = history ++ a :: rest →
        Runs SessionStep visibleSession history t → ¬ BlocksContact t a :=
  disjoint_iff visibleSession_disjoint blockingSession_run

/-- Roster requests, requests about blocked users, and presence. -/
def listServices : List V11.Service :=
  [.addContact, .removeContact, .renameContactGroup, .changeBlockedUser, .setAway, .setAvailable]

/-- jay is a contact, and is blocked all the same. -/
theorem contact_gets_blocked :
    ¬ ∀ s₀ arrivals s, s₀.Disjoint →
      (∀ a ∈ arrivals, ∃ service ∈ listServices,
        V11.find a.header.serviceId = some service) →
      Runs SessionStep s₀ arrivals s → s.Disjoint := by
  intro hAll
  have hDisjoint := hAll _ _ _ visibleSession_disjoint
    (fun a ha => ⟨.changeBlockedUser, by decide, by rw [List.mem_singleton.mp ha]; rfl⟩)
    blockingSession_run
  have hContact : blockingSession.contactManager_.isContact (ascii "jay") = true := by
    decide +kernel
  have hBlocked : blockingSession.blockedContactManager_.isBlocked (ascii "jay") = true := by
    decide +kernel
  have hNot := hDisjoint _ hContact
  rw [hBlocked] at hNot
  cases hNot

end Giblet.YMsg
