import Giblet.YMsg.RosterAnswers

/-!
# YMsg — groups of contacts

A group is a name that contacts have in common. `RenameGroup` writes the new
name over the old one in every contact; whether another group has the new
name already is not asked, the check is commented out.

* `sameGroup_renameGroup` — with a new name that nobody uses, groups stay apart.
* `renaming_wellBehaved_iff` — with one that is in use, they do not.
-/

namespace Giblet.YMsg

open Effect SessionContext

namespace ContactManager

/-- The group a contact is in. -/
def group? (m : ContactManager) (id : Bytes) : Option Bytes :=
  (m.contacts_.find? id).map ContactInfo.group

/-- Some contact is in this group. -/
def UsesGroup (m : ContactManager) (group : Bytes) : Prop := ∃ id, m.group? id = some group

/-- A group name, after one was replaced. -/
def renamed (currentName newName group : Bytes) : Bytes :=
  if group = currentName then newName else group

theorem group?_renameGroup (m : ContactManager) (currentName newName id : Bytes) :
    (m.renameGroup currentName newName).group? id =
      (m.group? id).map (renamed currentName newName) := by
  unfold group? renameGroup renamed
  rw [OrderedMap.find?_mapValues, Option.map_map, Option.map_map]
  refine congrArg (fun f => Option.map f (m.contacts_.find? id)) (funext fun c => ?_)
  simp only [Function.comp]
  split <;> rfl

/-- Names other than the new one are still told apart. -/
theorem renamed_inj {currentName newName a b : Bytes} (ha : a ≠ newName) (hb : b ≠ newName) :
    renamed currentName newName a = renamed currentName newName b ↔ a = b := by
  unfold renamed
  split_ifs with hFirst hSecond hSecond
  · exact iff_of_true rfl (hFirst.trans hSecond.symm)
  · exact iff_of_false hb.symm fun hSame => hSecond (hSame.symm.trans hFirst)
  · exact iff_of_false ha fun hSame => hFirst (hSame.trans hSecond)
  · exact Iff.rfl

/-- Two contacts that are in the same group. -/
def SameGroup (m : ContactManager) (id id' : Bytes) : Prop := m.group? id = m.group? id'

/-- **A renaming to a name that nobody uses** neither merges nor splits groups. -/
theorem sameGroup_renameGroup {m : ContactManager} {newName : Bytes} (h : ¬ m.UsesGroup newName)
    (currentName id id' : Bytes) :
    (m.renameGroup currentName newName).SameGroup id id' ↔ m.SameGroup id id' := by
  unfold SameGroup
  rw [group?_renameGroup, group?_renameGroup]
  cases hGroup : m.group? id with
  | none => cases m.group? id' <;> simp
  | some a =>
    cases hGroup' : m.group? id' with
    | none => simp
    | some b =>
      rw [Option.map_some, Option.map_some, Option.some.injEq, Option.some.injEq]
      exact renamed_inj (fun hSame => h ⟨id, hSame ▸ hGroup⟩) fun hSame => h ⟨id', hSame ▸ hGroup'⟩

end ContactManager

/-! ## The request -/

/-- A request is refused: it leads to what `OnGroupRenameFailed` does, and the contacts stay as
they are. -/
def RefusesRenaming (s : SessionContext) (a : Arrival) : Prop :=
  handle s a = ContactManagementEvents.onGroupRenameFailed s ∧
    (finalState (handle s a)).contactManager_ = s.contactManager_

/-- A renaming that leaves the groups apart. -/
structure KeepsGroups (m m' : ContactManager) (currentName newName : Bytes) : Prop where
  sameGroup : ∀ id id', m.isContact id = true → m.isContact id' = true →
    (m'.SameGroup id id' ↔ m.SameGroup id id')
  contacts : ∀ id, m'.isContact id = m.isContact id
  renamed : ∀ id, m'.group? id ≠ m.group? id →
    m.group? id = some currentName ∧ m'.group? id = some newName

/-- What is expected of a renaming: groups are neither merged nor split, and a name that is in
use is refused. -/
def WellBehaved (s : SessionContext) (a : Arrival) (currentName newName : Bytes) : Prop :=
  KeepsGroups s.contactManager_ (finalState (handle s a)).contactManager_ currentName newName ∧
    (s.contactManager_.UsesGroup newName → RefusesRenaming s a)

/-- What the request leads to. -/
theorem handle_rename {s : SessionContext} {a : Arrival} {request : Payloads.RenameContactGroup}
    (hService : V11.find a.header.serviceId = some .renameContactGroup)
    (hParse : PacketParser.parse Payloads.RenameContactGroup.onKeyPair a.payload {} =
      .ok () request) :
    handle s a =
      (decideRename s request.currentGroupName.chars request.newGroupName.chars).carryOut s := by
  rw [handle_eq, decision, hService]
  simp only [serviceDecision, decideOn, hParse]

/-- However its announcement ends, the contacts are renamed. -/
theorem contactManager_rename {s : SessionContext} {currentName newName : Bytes}
    (hNames : currentName ≠ newName) :
    (finalState ((decideRename s currentName newName).carryOut s)).contactManager_ =
      s.contactManager_.renameGroup currentName newName := by
  unfold decideRename announces
  rw [if_neg hNames, finalState_announced]
  exact congrArg Managers.contactManager_ (toManagers_pushAll _ _)

/-- Different names are never refused: the profile is announced, or an exception is thrown. -/
theorem not_refused {s : SessionContext} {currentName newName : Bytes}
    (hNames : currentName ≠ newName) :
    (decideRename s currentName newName).carryOut s ≠
      ContactManagementEvents.onGroupRenameFailed s := by
  intro hRefused
  unfold decideRename announces at hRefused
  rw [if_neg hNames] at hRefused
  obtain ⟨-, hSame⟩ := announced_returned hRefused
  -- two packets more than before
  have hSent := congrArg (fun t : SessionContext => t.connection_.sent.length) hSame
  simp only [sent_pushAll, List.length_append, List.length_map, List.length_cons,
    List.length_nil] at hSent
  change s.connection_.sent.length = s.connection_.sent.length + 2 at hSent
  omega

theorem keepsGroups_renameGroup {m : ContactManager} {newName : Bytes}
    (h : ¬ m.UsesGroup newName) (currentName : Bytes) :
    KeepsGroups m (m.renameGroup currentName newName) currentName newName where
  sameGroup id id' _ _ := ContactManager.sameGroup_renameGroup h currentName id id'
  contacts id := ContactManager.isContact_renameGroup m currentName newName id
  renamed id hChanged := by
    rw [ContactManager.group?_renameGroup] at hChanged ⊢
    cases hGroup : m.group? id with
    | none =>
      rw [hGroup] at hChanged
      exact absurd rfl hChanged
    | some group =>
      rw [hGroup, Option.map_some] at hChanged
      -- a name that changed was the current one
      by_cases hCurrent : group = currentName
      · rw [hCurrent, Option.map_some, ContactManager.renamed, if_pos rfl]
        exact ⟨rfl, rfl⟩
      · rw [ContactManager.renamed, if_neg hCurrent] at hChanged
        exact absurd rfl hChanged

/-- **Renaming a group** neither merges nor splits groups, and is refused where it would,
exactly when no contact is in a group of the new name. -/
theorem renaming_wellBehaved_iff {s : SessionContext} {a : Arrival}
    {request : Payloads.RenameContactGroup}
    (hService : V11.find a.header.serviceId = some .renameContactGroup)
    (hParse : PacketParser.parse Payloads.RenameContactGroup.onKeyPair a.payload {} =
      .ok () request)
    (hNames : request.currentGroupName.chars ≠ request.newGroupName.chars) :
    WellBehaved s a request.currentGroupName.chars request.newGroupName.chars ↔
      ¬ s.contactManager_.UsesGroup request.newGroupName.chars := by
  unfold WellBehaved RefusesRenaming
  rw [handle_rename hService hParse, contactManager_rename hNames]
  constructor
  · intro h hInUse
    exact not_refused hNames (h.2 hInUse).1
  · intro hUnused
    exact ⟨keepsGroups_renameGroup hUnused _, fun hInUse => absurd hInUse hUnused⟩

/-- In the session of a client that logged in there are the groups `Friends` and `Myself`. -/
theorem authenticated_groups : ∀ s ∈ authenticated.2.session,
    s.contactManager_.isContact (ascii "jay") = true ∧
      s.contactManager_.isContact (ascii "winky") = true ∧
      s.contactManager_.group? (ascii "jay") = some (ascii "Friends") ∧
      s.contactManager_.group? (ascii "winky") = some (ascii "Myself") := by
  decide +kernel

theorem renaming_wellBehaved_authenticated : ∃ s ∈ authenticated.2.session, ∃ request,
    WellBehaved s (renamePacket (ascii "Friends") (ascii "Myself"))
        (Payloads.RenameContactGroup.currentGroupName request).chars request.newGroupName.chars ↔
      ¬ s.contactManager_.UsesGroup request.newGroupName.chars := by
  obtain ⟨s, hSession, -, -⟩ := loggedIn_authenticated
  obtain ⟨request, hParse, hCurrent, hNew⟩ := @parse_renamePacket (ascii "Friends")
    (ascii "Myself") (by decide) (by decide)
  refine ⟨s, hSession, request, renaming_wellBehaved_iff rfl hParse ?_⟩
  rw [hCurrent, hNew]
  decide

/-- Renaming `Friends` to `Myself` makes one group of the two. -/
theorem renaming_merges :
    ¬ ∀ (s : SessionContext) (a : Arrival) (request : Payloads.RenameContactGroup), Reachable s →
      V11.find a.header.serviceId = some .renameContactGroup →
      PacketParser.parse Payloads.RenameContactGroup.onKeyPair a.payload {} = .ok () request →
      request.currentGroupName.chars ≠ request.newGroupName.chars →
      WellBehaved s a request.currentGroupName.chars request.newGroupName.chars := by
  intro hEvery
  obtain ⟨s, hSession, -, hReachable⟩ := loggedIn_authenticated
  obtain ⟨hJay, hWinky, hFriends, hMyself⟩ := authenticated_groups s hSession
  obtain ⟨request, hParse, hCurrent, hNew⟩ := @parse_renamePacket (ascii "Friends")
    (ascii "Myself") (by decide) (by decide)
  have hNames : request.currentGroupName.chars ≠ request.newGroupName.chars := by
    rw [hCurrent, hNew]
    decide
  have hKept := (hEvery s _ request hReachable rfl hParse hNames).1.sameGroup _ _ hJay hWinky
  rw [handle_rename rfl hParse, contactManager_rename hNames, hCurrent, hNew] at hKept
  -- they are in the same group now, and were not before
  unfold ContactManager.SameGroup at hKept
  rw [ContactManager.group?_renameGroup, ContactManager.group?_renameGroup, hFriends, hMyself]
    at hKept
  exact absurd (hKept.mp (by decide)) (by decide)

end Giblet.YMsg
