import Giblet.YMsg.Decisions
import Giblet.YMsg.ProfileText

/-!
# YMsg — names that a profile can hold

The profile keeps contacts and blocked users apart with commas, colons and
line feeds, and escapes none of them. `AddContact` refuses an empty group;
no operation looks for a delimiter, and `RenameGroup` takes an empty name, too.

* `namesWritable_step_iff` — the packets that keep the names writable.
* `profileExact_iff` — the runs in which every profile lists what there is.
-/

namespace Giblet.YMsg

open Delimited Effect Run SessionContext

/-- An id that can stand between commas, in a line. -/
def IdWritable (id : Bytes) : Prop := id ≠ [] ∧ comma ∉ id ∧ newline ∉ id

/-- A group that can stand before a colon, in a line. -/
def GroupWritable (group : Bytes) : Prop := group ≠ [] ∧ colon ∉ group ∧ newline ∉ group

instance (id : Bytes) : Decidable (IdWritable id) := inferInstanceAs (Decidable (_ ∧ _))

instance (group : Bytes) : Decidable (GroupWritable group) := inferInstanceAs (Decidable (_ ∧ _))

/-- Every id and group of a session. -/
structure SessionContext.NamesWritable (s : SessionContext) : Prop where
  roster : ∀ e ∈ s.contactManager_.roster, IdWritable e.1 ∧ GroupWritable e.2
  blocked : ∀ b ∈ s.blockedContactManager_.blockedUsers_, IdWritable b

/-- The texts of a profile packet list exactly these contacts and blocked users: each group once,
with the ids of its contacts, each once; and the blocked users in order. -/
structure ListsExactly (pairs : List (Int32 × Bytes)) (contacts : List ContactInfo)
    (blocked : BlockedContactManager) : Prop where
  contactList : ∃ text, pairs.lookup 87 = some text ∧
    ((readContactList text).map Prod.fst).Nodup ∧
    (∀ group, group ∈ (readContactList text).map Prod.fst ↔ ∃ c ∈ contacts, c.group = group) ∧
    ∀ e ∈ readContactList text, e.2.Nodup ∧
      ∀ id, id ∈ e.2 ↔ ∃ c ∈ contacts, c.group = e.1 ∧ c.id = id
  blockedList : ∃ text, pairs.lookup 88 = some text ∧
    pieces comma text = blocked.blockedUsers_ ∧ (blocked.blockedUsers_ = [] → text = [])

/-- The names are writable, and the next profile lists them. -/
structure SessionContext.ProfileExact (s : SessionContext) : Prop where
  names : s.NamesWritable
  lists : ListsExactly s.clientProfile.pairs s.contactManager_.contacts s.blockedContactManager_

/-- **A profile of writable names** lists exactly what there is. -/
theorem SessionContext.NamesWritable.listsExactly {s : SessionContext} (h : s.NamesWritable)
    (hKeyed : s.contactManager_.Keyed) :
    ListsExactly s.clientProfile.pairs s.contactManager_.contacts s.blockedContactManager_ := by
  have hContact : ∀ c ∈ s.contactManager_.contacts, IdWritable c.id ∧ GroupWritable c.group :=
    fun c hc => h.roster _ (List.mem_map_of_mem hc)
  exact ⟨⟨contactListText s.contactManager_.contacts, rfl, readContactList_groups hKeyed
      (fun c hc => (hContact c hc).1.2) fun c hc => (hContact c hc).2.2⟩,
    ⟨Builders.joined (ascii ",") s.blockedContactManager_.blockedUsers_, rfl,
      pieces_joined fun b hb => ⟨(h.blocked b hb).1, (h.blocked b hb).2.1⟩⟩⟩

/-- Only the two lists matter. -/
theorem Unchanged.namesWritable_iff {s s' : SessionContext} (h : Unchanged s s') :
    s'.NamesWritable ↔ s.NamesWritable := by
  constructor
  · exact fun hs => ⟨h.1 ▸ hs.roster, h.2 ▸ hs.blocked⟩
  · exact fun hs => ⟨h.1.symm ▸ hs.roster, h.2.symm ▸ hs.blocked⟩

/-! ## Packets that bring in a name -/

/-- A contact that `AddContact` accepts. -/
def SessionContext.Admits (s : SessionContext) (contactId group : Bytes) : Prop :=
  group ≠ [] ∧ s.contactManager_.isContact contactId = false ∧
    s.blockedContactManager_.isBlocked contactId = false ∧ contactId ≠ ascii "grag"

/-- An `AddContact` request that is granted, with a name that cannot be written. -/
def AddsUnwritable (s : SessionContext) (contactId group : Bytes) : Prop :=
  s.Admits contactId group ∧ ¬ (IdWritable contactId ∧ GroupWritable group)

/-- A `RenameContactGroup` request of a group that has contacts. -/
def RenamesUnwritable (s : SessionContext) (currentName newName : Bytes) : Prop :=
  currentName ≠ newName ∧ (∃ e ∈ s.contactManager_.roster, e.2 = currentName) ∧
    ¬ GroupWritable newName

/-- A `ChangeBlockedUser` request that blocks somebody. -/
def BlocksUnwritable (s : SessionContext) (mode contactId : Bytes) : Prop :=
  mode = ascii "1" ∧ s.blockedContactManager_.isBlocked contactId = false ∧
    ¬ IdWritable contactId

/-- A packet that makes a name part of the session that a profile cannot hold. -/
def Forges (s : SessionContext) (a : Arrival) : Prop :=
  match V11.find a.header.serviceId with
  | some .addContact =>
    ∃ fields, PacketParser.parse Payloads.AddContact.onKeyPair a.payload {} = .ok () fields ∧
      AddsUnwritable s fields.contactId.chars fields.group.chars
  | some .renameContactGroup =>
    ∃ fields, PacketParser.parse Payloads.RenameContactGroup.onKeyPair a.payload {} =
        .ok () fields ∧
      RenamesUnwritable s fields.currentGroupName.chars fields.newGroupName.chars
  | some .changeBlockedUser =>
    ∃ fields, PacketParser.parse Payloads.ChangeBlockedUser.onKeyPair a.payload {} =
        .ok () fields ∧
      BlocksUnwritable s fields.mode.chars fields.contactId.chars
  | _ => False

/-! ## Decisions -/

/-- The names are writable after a decision was carried out. -/
def Decision.Writable (s : SessionContext) : Decision → Prop
  | refused _ => True
  | announced managers _ => (s.withManagers managers).NamesWritable
  | presence _ => True

/-- A presence call changes neither list. -/
theorem presence_unchanged (call : PresenceCall) (s : SessionContext) :
    Unchanged s (finalState (call.run s)) := by
  have hQuiet : Frame Quiet call.run := by
    cases call with
    | setAvailable | setCustomStatus =>
      exact presence_quiet _ _ _ (fun _ _ => ⟨rfl, rfl⟩) fun _ c => statusMessage_neutral true c
    | setIdle | setAway | setInvisible =>
      exact presence_quiet _ _ _ (fun _ _ => ⟨rfl, rfl⟩) fun _ _ p => by cases p <;> rfl
  exact (hQuiet s).unchanged

theorem writable_carryOut_iff {s : SessionContext} (h : s.NamesWritable) (d : Decision) :
    (finalState (d.carryOut s)).NamesWritable ↔ d.Writable s := by
  cases d with
  | refused e => exact iff_of_true h trivial
  | announced managers ms =>
    -- what is sent does not matter
    rw [finalState_announced]
    have hManagers := toManagers_pushAll (s.withManagers managers)
      (ms.takeWhile fun m => decide m.Fits)
    exact Unchanged.namesWritable_iff
      ⟨congrArg (·.contactManager_.roster) hManagers, congrArg (·.blockedContactManager_) hManagers⟩
  | presence call =>
    exact iff_of_true ((presence_unchanged call s).namesWritable_iff.mpr h) trivial

theorem SessionContext.admits_iff {s : SessionContext} {contactId group : Bytes} :
    s.Admits contactId group ↔ ¬ s.Refuses contactId group := by
  unfold Admits Refuses
  simp only [not_or, Bool.not_eq_true, ne_eq]

theorem decideAdd_writable_iff {s : SessionContext} (h : s.NamesWritable) (env : Env)
    (clientId contactId group message : Bytes) :
    (decideAdd s env clientId contactId group message).Writable s ↔
      ¬ AddsUnwritable s contactId group := by
  by_cases hRefuses : s.Refuses contactId group
  · obtain ⟨status, -, hDecision⟩ := decideAdd_refused hRefuses env clientId message
    rw [hDecision]
    exact iff_of_true h fun hAdds => admits_iff.mp hAdds.1 hRefuses
  obtain ⟨contactManager, hAdd, hDecision⟩ := decideAdd_accepted hRefuses env clientId message
  have hRoster := ContactManager.mem_roster_addPendingContact hAdd
  rw [hDecision]
  constructor
  · rintro hNames ⟨-, hNot⟩
    exact hNot (hNames.roster _ ((hRoster _).mpr (.inl rfl)))
  · intro hNot
    refine ⟨fun e he => ?_, h.blocked⟩
    rcases (hRoster e).mp he with rfl | hOld
    · exact not_not.mp fun hUnwritable => hNot ⟨admits_iff.mpr hRefuses, hUnwritable⟩
    · exact h.roster e hOld

theorem decideRemove_writable {s : SessionContext} (h : s.NamesWritable)
    (clientId contactId group : Bytes) :
    (decideRemove s clientId contactId group).Writable s := by
  unfold decideRemove
  split
  -- whoever is left was there before
  · exact ⟨fun e he => h.roster e (ContactManager.mem_roster_of_removeContact he), h.blocked⟩
  · exact h

theorem decideRename_writable_iff {s : SessionContext} (h : s.NamesWritable)
    (currentName newName : Bytes) :
    (decideRename s currentName newName).Writable s ↔
      ¬ RenamesUnwritable s currentName newName := by
  unfold decideRename RenamesUnwritable
  split_ifs with hSame
  · exact iff_of_true h fun hRenames => hRenames.1 hSame
  constructor
  · rintro hNames ⟨-, ⟨e, he, hGroup⟩, hNot⟩
    -- a contact of the group shows the new name
    refine hNot (hNames.roster (e.1, newName) ?_).2
    show _ ∈ (s.contactManager_.renameGroup currentName newName).roster
    rw [ContactManager.roster_renameGroup]
    exact List.mem_map.mpr ⟨e, he, if_pos hGroup⟩
  · intro hNot
    refine ⟨fun e he => ?_, h.blocked⟩
    change e ∈ (s.contactManager_.renameGroup currentName newName).roster at he
    rw [ContactManager.roster_renameGroup] at he
    obtain ⟨old, hOld, rfl⟩ := List.mem_map.mp he
    have hNames := h.roster old hOld
    split_ifs with hGroup
    · exact ⟨hNames.1, not_not.mp fun hUnwritable => hNot ⟨hSame, ⟨old, hOld, hGroup⟩, hUnwritable⟩⟩
    · exact hNames

theorem decideBlocked_writable_iff {s : SessionContext} (h : s.NamesWritable)
    (payload : Payloads.ChangeBlockedUser) :
    (decideBlocked s payload).Writable s ↔
      ¬ BlocksUnwritable s payload.mode.chars payload.contactId.chars := by
  unfold decideBlocked BlocksUnwritable
  split_ifs with hBlock hBlocked hUnblock hBlocked
  -- somebody who is blocked already is not added again
  · refine iff_of_true trivial fun hNew => ?_
    exact Bool.eq_false_iff.mp hNew.2.1 hBlocked
  · have hList : (s.blockedContactManager_.add payload.contactId.chars).blockedUsers_ =
        s.blockedContactManager_.blockedUsers_ ++ [payload.contactId.chars] := by
      unfold BlockedContactManager.add
      rw [Bool.eq_false_iff.mpr hBlocked]
      rfl
    constructor
    · rintro hNames ⟨-, -, hNot⟩
      refine hNot (hNames.blocked _ ?_)
      show _ ∈ (s.blockedContactManager_.add payload.contactId.chars).blockedUsers_
      rw [hList]
      exact List.mem_append_right _ List.mem_cons_self
    · intro hNot
      refine ⟨h.roster, fun b hb => ?_⟩
      change b ∈ (s.blockedContactManager_.add payload.contactId.chars).blockedUsers_ at hb
      rw [hList, List.mem_append, List.mem_singleton] at hb
      rcases hb with hOld | rfl
      · exact h.blocked b hOld
      · exact not_not.mp fun hUnwritable =>
          hNot ⟨hBlock, Bool.eq_false_iff.mpr hBlocked, hUnwritable⟩
  · refine iff_of_true ?_ fun hNew => hBlock hNew.1
    exact ⟨h.roster, fun b hb => h.blocked b (List.mem_of_mem_erase hb)⟩
  · exact iff_of_true trivial fun hNew => hBlock hNew.1
  · exact iff_of_true h fun hNew => hBlock hNew.1

/-! ## Packets -/

/-- A packet brings in a name when its payload can be read, and asks for that. -/
theorem writable_decideOn_iff {π : Type} {fields : π}
    {onKeyPair : Int32 → StringView → Action π Unit} {payload : Bytes} {decision : π → Decision}
    {s : SessionContext} {C : π → Prop} (h : ∀ request, (decision request).Writable s ↔ ¬ C request) :
    (decideOn fields onKeyPair payload decision).Writable s ↔
      ¬ ∃ request, PacketParser.parse onKeyPair payload fields = .ok () request ∧ C request := by
  rw [decideOn_iff (P := Decision.Writable s) fun _ => trivial]
  simp only [h, not_exists, not_and]

/-- **One packet** keeps the names writable exactly when it does not bring in another one. -/
theorem namesWritable_step_iff {s : SessionContext} (h : s.NamesWritable) (a : Arrival) :
    (finalState (handle s a)).NamesWritable ↔ ¬ Forges s a := by
  have hOther {π : Type} {fields : π} {onKeyPair : Int32 → StringView → Action π Unit}
      {decision : π → Decision} (hWritable : ∀ request, (decision request).Writable s) :
      (decideOn fields onKeyPair a.payload decision).Writable s ↔ ¬ False :=
    iff_of_true ((decideOn_iff (P := Decision.Writable s) fun _ => trivial).mpr
      fun request _ => hWritable request) id
  rw [handle_eq, writable_carryOut_iff h]
  unfold Forges decision
  cases V11.find a.header.serviceId with
  | none => exact hOther fun _ => h
  | some service =>
    cases service with
    | addContact => exact writable_decideOn_iff fun _ => decideAdd_writable_iff h ..
    | renameContactGroup => exact writable_decideOn_iff fun _ => decideRename_writable_iff h ..
    | changeBlockedUser => exact writable_decideOn_iff fun _ => decideBlocked_writable_iff h _
    -- no other service brings in a name
    | removeContact => exact hOther fun _ => decideRemove_writable h ..
    | setAway =>
      refine hOther fun request => ?_
      unfold decideAway
      split <;> trivial
    | setAvailable => exact hOther fun _ => trivial
    | activateProfile | deactivateProfile =>
      refine hOther fun request => ?_
      unfold decideConfirm
      split
      · exact h
      · trivial
    | serviceOperation =>
      refine hOther fun request => ?_
      unfold decideOperation
      split
      · split
        · trivial
        · exact h
      · exact h
    | requestProfile | denyContactAddRequest | privateMessage | massPrivateMessage | chatLogin
    | chatJoin => exact hOther fun _ => h

/-! ## Runs -/

/-- **Every profile lists exactly the contacts and blocked users**, in every state of a run,
exactly when no packet of it brings in a name that a profile cannot hold. -/
theorem profileExact_iff {s₀ : SessionContext} (hKeyed : s₀.contactManager_.Keyed)
    (hStart : s₀.NamesWritable) {arrivals : List Arrival} {s : SessionContext}
    (hRun : Runs SessionStep s₀ arrivals s) :
    (∀ history rest t, arrivals = history ++ rest → Runs SessionStep s₀ history t →
        t.ProfileExact) ↔
      ∀ history a rest t, arrivals = history ++ a :: rest → Runs SessionStep s₀ history t →
        ¬ Forges t a := by
  have hNames : (∀ history rest t, arrivals = history ++ rest → Runs SessionStep s₀ history t →
        t.NamesWritable) ↔
      ∀ history a rest t, arrivals = history ++ a :: rest → Runs SessionStep s₀ history t →
        ¬ Forges t a :=
    SessionStep.always_iff hStart (fun _ a hWritable => namesWritable_step_iff hWritable a) hRun
  rw [← hNames]
  constructor
  · exact fun hExact history rest t hSplit ht => (hExact history rest t hSplit ht).names
  -- the contacts are still kept under their ids, so the profile reads back
  · intro hWritable history rest t hSplit ht
    have hTold := hWritable history rest t hSplit ht
    exact ⟨hTold, hTold.listsExactly (keyed_of_run hKeyed ht)⟩

/-- A request to add one contact whose id reads as two. -/
def forgingPacket : Arrival where
  env := .zeros
  header := .new 0 11 131 0
  payload := Builder.encode [(7, ascii "eve,boss"), (65, ascii "Work")]
  following := []

/-- A session without contacts, after it. -/
def forgedSession : SessionContext := finalState (handle emptySession forgingPacket)

theorem forgedSession_run : Runs SessionStep emptySession [forgingPacket] forgedSession := by
  have hReturned : returned (handle emptySession forgingPacket) = true := by decide +kernel
  refine .one ⟨?_, rfl⟩
  rw [eq_ok_of_returned hReturned]
  exact .ok _ _

theorem emptySession_namesWritable : emptySession.NamesWritable :=
  ⟨fun _ h => absurd h List.not_mem_nil, fun _ h => absurd h List.not_mem_nil⟩

theorem profileExact_iff_forgedSession :
    (∀ history rest t, [forgingPacket] = history ++ rest →
        Runs SessionStep emptySession history t → t.ProfileExact) ↔
      ∀ history a rest t, [forgingPacket] = history ++ a :: rest →
        Runs SessionStep emptySession history t → ¬ Forges t a :=
  profileExact_iff ContactManager.Keyed.empty emptySession_namesWritable forgedSession_run

/-- The services that change roster or block list. -/
def changingServices : List V11.Service :=
  [.addContact, .removeContact, .renameContactGroup, .changeBlockedUser]

/-- There is one contact, and the profile lists two others. -/
theorem profile_gets_forged :
    ¬ ∀ s₀ arrivals s, s₀.contactManager_.Keyed → s₀.NamesWritable →
      (∀ a ∈ arrivals, ∃ service ∈ changingServices,
        V11.find a.header.serviceId = some service) →
      Runs SessionStep s₀ arrivals s → s.ProfileExact := by
  intro hAll
  have hExact := hAll _ _ _ ContactManager.Keyed.empty emptySession_namesWritable
    (fun a ha => ⟨.addContact, by decide, by rw [List.mem_singleton.mp ha]; rfl⟩) forgedSession_run
  obtain ⟨text, hText, -, -, hIds⟩ := hExact.lists.contactList
  have hWritten : forgedSession.clientProfile.pairs.lookup 87 =
      some (ascii "Work:eve,boss\n") := by decide +kernel
  obtain rfl := Option.some.inj (hText.symm.trans hWritten)
  have hRead : (ascii "Work", [ascii "eve", ascii "boss"]) ∈
      readContactList (ascii "Work:eve,boss\n") := by decide +kernel
  -- somebody called eve would have to be a contact
  obtain ⟨c, hc, -, hId⟩ := ((hIds _ hRead).2 (ascii "eve")).mp List.mem_cons_self
  have hOnly : ∀ c ∈ forgedSession.contactManager_.contacts, c.id ≠ ascii "eve" := by
    decide +kernel
  exact hOnly c hc hId

end Giblet.YMsg
