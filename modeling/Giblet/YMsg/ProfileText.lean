import Giblet.Lib.Delimited
import Giblet.YMsg.Frames
import Giblet.YMsg.Picture
import Giblet.YMsg.Presence

/-!
# YMsg — reading the client profile

`ClientProfile::Build` writes the contacts as one line a group,
`group:id,id`, the blocked users as a list with commas, and the client's
profiles as a list that starts with the client id. `readContactList` and
`Delimited.pieces` take these texts apart.

* `contactList_find?` — regrouping: a map keyed by id becomes one keyed by group.
* `readContactList_text` — the contact list is read back as it was grouped.
* `clientProfile_decodes` — the result.
* `keyed_of_run` — the contacts of a session stay kept under their ids.
-/

namespace Giblet.YMsg

open Builders Delimited Effect Run SessionContext

/-! ## Regrouping -/

/-- The ids of the contacts in a group, in order. -/
def idsIn (contacts : List ContactInfo) (group : Bytes) : List Bytes :=
  (contacts.filter fun c => c.group = group).map ContactInfo.id

/-- One more contact. -/
theorem find?_pushContact (m : OrderedMap Bytes (List Bytes)) (c : ContactInfo) (group : Bytes) :
    (pushContact m c).find? group =
      if group = c.group then some ((m.find? group).getD [] ++ [c.id]) else m.find? group := by
  unfold pushContact
  rcases m.emplace_cases c.group [c.id] with ⟨hThere, hEmplace⟩ | ⟨hNew, withGroup, hEmplace, hFind⟩
  -- the group is there: the contact comes last in it
  · rw [hEmplace]
    dsimp only
    rw [OrderedMap.find?_adjust]
    rw [OrderedMap.contains_eq_isSome, Option.isSome_iff_exists] at hThere
    obtain ⟨ids, hIds⟩ := hThere
    by_cases hSame : group = c.group
    · rw [if_pos hSame, if_pos hSame, hSame, hIds]
      rfl
    · rw [if_neg hSame, if_neg hSame]
  · rw [hEmplace]
    dsimp only
    rw [hFind]
    by_cases hSame : group = c.group
    · rw [if_pos hSame, if_pos hSame, hSame, OrderedMap.contains_eq_false_iff.mp hNew]
      rfl
    · rw [if_neg hSame, if_neg hSame]

/-- **Regrouping.** The groups are those of the contacts, each with the ids of its contacts. -/
theorem contactList_find? (contacts : List ContactInfo) (group : Bytes) :
    (contactList contacts).find? group =
      if idsIn contacts group = [] then none else some (idsIn contacts group) := by
  induction contacts using List.reverseRecOn with
  | nil => rfl
  -- the contacts are regrouped in order, so each one is added behind the others
  | append_singleton contacts c ih =>
    have hIds : idsIn (contacts ++ [c]) group =
        idsIn contacts group ++ if c.group = group then [c.id] else [] := by
      unfold idsIn
      rw [List.filter_append, List.map_append]
      by_cases hSame : c.group = group
      · simp [hSame]
      · simp [hSame]
    have hFold : contactList (contacts ++ [c]) = pushContact (contactList contacts) c := by
      unfold contactList
      rw [List.foldl_append, List.foldl_cons, List.foldl_nil]
    rw [hIds, hFold, find?_pushContact, ih]
    generalize idsIn contacts group = ids
    -- a group gets its entry with its first contact
    by_cases hSame : group = c.group
    · simp only [if_pos hSame, if_pos hSame.symm]
      cases ids <;> rfl
    · have hOther : ¬ c.group = group := fun h => hSame h.symm
      simp only [if_neg hSame, if_neg hOther, List.append_nil]

/-- The entries of the regrouped contacts. -/
theorem mem_contactList_iff {contacts : List ContactInfo} {e : Bytes × List Bytes} :
    e ∈ (contactList contacts).entries ↔ e.2 = idsIn contacts e.1 ∧ e.2 ≠ [] := by
  rw [← OrderedMap.find?_eq_some_iff (k := e.1) (v := e.2), contactList_find?]
  -- a group without contacts has no entry
  split_ifs with hNone
  · rw [hNone]
    exact iff_of_false (by simp) fun h => h.2 h.1
  · rw [Option.some.injEq]
    exact ⟨fun h => ⟨h.symm, h ▸ hNone⟩, fun h => h.1.symm⟩

/-! ## Reading -/

/-- The delimiters of a profile's texts. -/
def comma : UInt8 := 44
def colon : UInt8 := 58
def newline : UInt8 := 10

/-- A contact list, read: lines, each cut at its first colon, and the rest at commas. -/
def readContactList (text : Bytes) : List (Bytes × List Bytes) :=
  (lines newline text).map fun line =>
    ((cutAt colon line).1, (cutAt colon line).2.splitOn comma)

/-- The contact list that `ClientProfile::Build` writes. -/
def contactListText (contacts : List ContactInfo) : Bytes :=
  (contactList contacts).entries.flatMap contactLine

theorem joined_comma (pieces : List Bytes) :
    joined (ascii ",") pieces = [comma].intercalate pieces := by
  -- the source appends a comma behind every piece, and takes the last one off again
  rw [← dropLast_terminated]
  unfold joined
  split_ifs with hNone
  · rw [hNone]
    rfl
  · rfl

/-- What may be written into a profile. -/
structure Writable (clientId : Bytes) (profiles : ProfileManager) (contacts : List ContactInfo)
    (blocked : BlockedContactManager) : Prop where
  ids : ∀ c ∈ contacts, c.id ≠ [] ∧ comma ∉ c.id ∧ newline ∉ c.id
  groups : ∀ c ∈ contacts, colon ∉ c.group ∧ newline ∉ c.group
  profileIds : ∀ p ∈ clientId :: profiles.profiles_, p ≠ [] ∧ comma ∉ p
  blockedIds : ∀ b ∈ blocked.blockedUsers_, b ≠ [] ∧ comma ∉ b

/-- One line, with its line feed. -/
theorem contactLine_eq (group : Bytes × List Bytes) :
    contactLine group = group.1 ++ colon :: [comma].intercalate group.2 ++ [newline] := by
  unfold contactLine
  rw [joined_comma, List.append_assoc group.1]
  rfl

/-- A contact of a group that is in the list. -/
theorem exists_contact_of_mem {contacts : List ContactInfo} {e : Bytes × List Bytes}
    (he : e ∈ (contactList contacts).entries) {id : Bytes} (hId : id ∈ e.2) :
    ∃ c ∈ contacts, c.group = e.1 ∧ c.id = id := by
  rw [(mem_contactList_iff.mp he).1, idsIn] at hId
  obtain ⟨c, hc, rfl⟩ := List.mem_map.mp hId
  obtain ⟨hMem, hGroup⟩ := List.mem_filter.mp hc
  exact ⟨c, hMem, of_decide_eq_true hGroup, rfl⟩

/-- A delimiter that is in none of the pieces, and is not the one between them. -/
theorem not_mem_intercalate {x y : UInt8} (hOther : x ≠ y) {pieces : List Bytes}
    (h : ∀ p ∈ pieces, x ∉ p) : x ∉ [y].intercalate pieces := by
  cases pieces with
  | nil => exact List.not_mem_nil
  | cons p rest =>
    rw [← append_flatMap_cons, List.mem_append, List.mem_flatMap]
    intro hMem
    rcases hMem with hFirst | ⟨q, hq, hRest⟩
    · exact h p List.mem_cons_self hFirst
    · rcases List.mem_cons.mp hRest with hSame | hRest
      · exact hOther hSame
      · exact h q (List.mem_cons_of_mem _ hq) hRest

/-- **The contact list is read back as it was grouped.** -/
theorem readContactList_text {contacts : List ContactInfo}
    (hIds : ∀ c ∈ contacts, comma ∉ c.id ∧ newline ∉ c.id)
    (hGroups : ∀ c ∈ contacts, colon ∉ c.group ∧ newline ∉ c.group) :
    readContactList (contactListText contacts) = (contactList contacts).entries := by
  -- what holds of contacts holds of the entries they were grouped into
  have hEntry : ∀ e ∈ (contactList contacts).entries, colon ∉ e.1 ∧ newline ∉ e.1 ∧ e.2 ≠ [] ∧
      ∀ id ∈ e.2, comma ∉ id ∧ newline ∉ id := by
    intro e he
    obtain ⟨id, hId⟩ := List.exists_mem_of_ne_nil _ (mem_contactList_iff.mp he).2
    obtain ⟨c, hc, hGroup, -⟩ := exists_contact_of_mem he hId
    refine ⟨hGroup ▸ (hGroups c hc).1, hGroup ▸ (hGroups c hc).2, (mem_contactList_iff.mp he).2, ?_⟩
    intro id hId
    obtain ⟨c, hc, -, rfl⟩ := exists_contact_of_mem he hId
    exact hIds c hc
  -- every line is a group, a colon and its ids, and no delimiter occurs anywhere else
  have hText : contactListText contacts = terminated newline
      ((contactList contacts).entries.map fun e => e.1 ++ colon :: [comma].intercalate e.2) := by
    unfold contactListText terminated
    rw [List.flatMap_map]
    exact List.flatMap_congr fun e _ => contactLine_eq e
  rw [hText, readContactList, lines_terminated, List.map_map]
  -- within a line
  · refine (List.map_congr_left fun e he => ?_).trans (List.map_id _)
    obtain ⟨hColon, -, hSome, hEntryIds⟩ := hEntry e he
    simp only [Function.comp, cutAt_append hColon, id_eq]
    rw [List.splitOn_intercalate comma (fun id hId => (hEntryIds id hId).1) hSome]
  -- no line contains a line feed
  · intro line hLine
    obtain ⟨e, he, rfl⟩ := List.mem_map.mp hLine
    obtain ⟨-, hNewline, -, hEntryIds⟩ := hEntry e he
    rw [List.mem_append, List.mem_cons]
    intro hMem
    rcases hMem with hFirst | hColon | hRest
    · exact hNewline hFirst
    · exact absurd hColon (by decide)
    · exact not_mem_intercalate (by decide) (fun id hId => (hEntryIds id hId).2) hRest

/-! ## Result -/

/-- Contacts kept under their ids have different ids. -/
theorem nodup_ids {m : ContactManager} (hKeyed : m.Keyed) :
    (m.contacts.map ContactInfo.id).Nodup := by
  have hKeys : m.contacts.map ContactInfo.id = m.contacts_.entries.map Prod.fst := by
    unfold ContactManager.contacts OrderedMap.values
    rw [List.map_map]
    exact List.map_congr_left fun e he => hKeyed e he
  rw [hKeys]
  exact m.contacts_.sorted.imp ne_of_lt

/-- The texts of a profile packet, taken apart: its contact list reads as the groups that
occur, each once and with exactly the ids of its contacts, each once; its list of blocked
users as the block list, in order; and its list of profiles as the client id and the
profiles, in order. -/
structure ReadsBack (pairs : List (Int32 × Bytes)) (clientId : Bytes) (profiles : ProfileManager)
    (contacts : List ContactInfo) (blocked : BlockedContactManager) : Prop where
  contactList : ∃ text, pairs.lookup 87 = some text ∧
    ((readContactList text).map Prod.fst).Nodup ∧
    (∀ group, group ∈ (readContactList text).map Prod.fst ↔ ∃ c ∈ contacts, c.group = group) ∧
    ∀ e ∈ readContactList text, e.2.Nodup ∧
      ∀ id, id ∈ e.2 ↔ ∃ c ∈ contacts, c.group = e.1 ∧ c.id = id
  blockedList : ∃ text, pairs.lookup 88 = some text ∧
    pieces comma text = blocked.blockedUsers_ ∧ (blocked.blockedUsers_ = [] → text = [])
  profileList : ∃ text, pairs.lookup 89 = some text ∧
    pieces comma text = clientId :: profiles.profiles_

/-- The contact list, read: the groups that occur, and the ids of each. -/
theorem readContactList_groups {m : ContactManager} (hKeyed : m.Keyed)
    (hIds : ∀ c ∈ m.contacts, comma ∉ c.id ∧ newline ∉ c.id)
    (hGroups : ∀ c ∈ m.contacts, colon ∉ c.group ∧ newline ∉ c.group) :
    ((readContactList (contactListText m.contacts)).map Prod.fst).Nodup ∧
      (∀ group, group ∈ (readContactList (contactListText m.contacts)).map Prod.fst ↔
        ∃ c ∈ m.contacts, c.group = group) ∧
      ∀ e ∈ readContactList (contactListText m.contacts), e.2.Nodup ∧
        ∀ id, id ∈ e.2 ↔ ∃ c ∈ m.contacts, c.group = e.1 ∧ c.id = id := by
  rw [readContactList_text hIds hGroups]
  refine ⟨(contactList m.contacts).sorted.imp ne_of_lt, fun group => ?_, fun e he => ?_⟩
  -- the groups that occur
  · rw [List.mem_map]
    constructor
    · intro ⟨e, he, hGroup⟩
      obtain ⟨id, hId⟩ := List.exists_mem_of_ne_nil _ (mem_contactList_iff.mp he).2
      obtain ⟨c, hc, hSame, -⟩ := exists_contact_of_mem he hId
      exact ⟨c, hc, hSame.trans hGroup⟩
    · intro ⟨c, hc, hGroup⟩
      have hId : c.id ∈ idsIn m.contacts group :=
        List.mem_map_of_mem (List.mem_filter.mpr ⟨hc, decide_eq_true hGroup⟩)
      exact ⟨(group, idsIn m.contacts group),
        mem_contactList_iff.mpr ⟨rfl, List.ne_nil_of_mem hId⟩, rfl⟩
  -- the ids of one group
  · have hEntryIds := (mem_contactList_iff.mp he).1
    refine ⟨?_, fun id => ⟨exists_contact_of_mem he, fun ⟨c, hc, hGroup, hId⟩ => ?_⟩⟩
    · rw [hEntryIds]
      exact (nodup_ids hKeyed).sublist (List.filter_sublist.map ContactInfo.id)
    · rw [hEntryIds, ← hId]
      exact List.mem_map_of_mem (List.mem_filter.mpr ⟨hc, decide_eq_true hGroup⟩)

/-- The list of blocked users, read. -/
theorem pieces_joined {blocked : List Bytes} (h : ∀ b ∈ blocked, b ≠ [] ∧ comma ∉ b) :
    pieces comma (joined (ascii ",") blocked) = blocked ∧
      (blocked = [] → joined (ascii ",") blocked = []) := by
  rw [joined_comma]
  exact ⟨pieces_intercalate h, fun hNone => by rw [hNone]; rfl⟩

/-- **The profile text can be decoded.** -/
theorem clientProfile_decodes {clientId : Bytes} {profiles : ProfileManager}
    {contacts : ContactManager} {blocked : BlockedContactManager} (hKeyed : contacts.Keyed)
    (hWritable : Writable clientId profiles contacts.contacts blocked) :
    ReadsBack (Message.clientProfile clientId profiles contacts.contacts blocked).pairs clientId
      profiles contacts.contacts blocked := by
  have hIds : ∀ c ∈ contacts.contacts, comma ∉ c.id ∧ newline ∉ c.id := fun c hc =>
    (hWritable.ids c hc).2
  -- the three texts of the packet: contacts, blocked users, profiles
  refine ⟨⟨contactListText contacts.contacts, rfl,
      readContactList_groups hKeyed hIds hWritable.groups⟩,
    ⟨joined (ascii ",") blocked.blockedUsers_, rfl, pieces_joined hWritable.blockedIds⟩,
    ⟨clientId ++ profiles.profiles_.flatMap fun p => ascii "," ++ p, rfl, ?_⟩⟩
  show pieces comma (clientId ++ profiles.profiles_.flatMap fun p => [comma] ++ p) = _
  rw [append_flatMap_cons]
  exact pieces_intercalate hWritable.profileIds

/-- The profile of a session of the mock server. -/
theorem clientProfile_decodes_visibleSession :
    ReadsBack visibleSession.clientProfile.pairs (ascii "a") visibleSession.profileManager_
      visibleSession.contactManager_.contacts visibleSession.blockedContactManager_ := by
  have hKeyed : visibleSession.contactManager_.Keyed := by
    obtain ⟨m, hLoad, -⟩ :=
      MockAuthenticationHandler.loadContacts_initialContacts .zeros .Available
    unfold visibleSession
    rw [hLoad]
    exact MockAuthenticationHandler.loadContacts_keyed hLoad
  refine clientProfile_decodes hKeyed ⟨?_, ?_, ?_, ?_⟩
  · decide +kernel
  · decide +kernel
  · decide +kernel
  · decide +kernel

/-! ## Reachable contacts -/

/-- Contacts stay kept under their ids. -/
def KeepsKeyed (s s' : SessionContext) : Prop :=
  s.contactManager_.Keyed → s'.contactManager_.Keyed

instance : IsPreorder SessionContext KeepsKeyed where
  refl _ h := h
  trans _ _ _ h h' hs := h' (h hs)

theorem keepsKeyed_basic : Basic KeepsKeyed where
  sent _ _ h := h
  noted _ _ h := h
  pending _ _ _ _ _ _ hAdd h := h.addPendingContact hAdd
  removed _ contactId h := h.removeContact contactId
  renamed _ currentName newName h := h.renameGroup currentName newName
  changed _ _ _ _ _ hf hSet h := h.setContact (fun c => (hf c).1) hSet
  unblocked _ _ h := h

/-- In every session whose contacts were loaded, they are kept under their ids. -/
theorem keyed_of_run {s₀ s : SessionContext} (hLoaded : s₀.contactManager_.Keyed)
    {arrivals : List Arrival} (hRun : Runs SessionStep s₀ arrivals s) :
    s.contactManager_.Keyed := by
  refine hRun.invariant (I := fun _ s => s.contactManager_.Keyed) hLoaded ?_
  intro _ t a u _ hKeyed hStep
  rw [hStep.2]
  exact dispatchPacket_frame keepsKeyed_basic (fun _ _ h => h) a.env a.header a.payload a.following
    t hKeyed

end Giblet.YMsg
