import Giblet.Lib.Effect
import Giblet.Lib.OrderedMap
import Giblet.YMsg.Conversion

/-!
# YMsg — the managers of a session

Contacts, blocked users, profiles and presence. The managers only keep data;
who is told about a change is decided in `Session`. `ContactInfo.isInChat`
has no initialiser in either constructor and is never assigned.
-/

namespace Giblet.YMsg

/-! ## Contacts -/

/-- `ContactInfo::State`. -/
inductive ContactState
  | Linked
  | AddPending
  deriving DecidableEq, Repr

/-- `ContactInfo`. -/
structure ContactInfo where
  id : Bytes
  group : Bytes
  availability : Availability
  isBusy : Bool
  customMessage : Bytes
  idleUnknown : Bytes
  state : ContactState
  isInChat : Cell Bool
  deriving DecidableEq, Repr

/-- The constructor `ContactInfo(id, group, state, availability, isBusy, customMessage)`;
`garbage` is what the memory of `isInChat` holds. -/
def ContactInfo.new (garbage : Bool) (id group : Bytes) (state : ContactState)
    (availability : Availability := .Offline) (isBusy : Bool := false)
    (customMessage : Bytes := []) : ContactInfo where
  id := id
  group := group
  availability := availability
  isBusy := isBusy
  customMessage := customMessage
  idleUnknown := []
  state := state
  isInChat := .unset garbage

/-- `ContactInfo::IsOnline`. -/
def ContactInfo.isOnline (c : ContactInfo) : Bool := c.availability ≠ .Offline

/-- `ContactManager`. -/
structure ContactManager where
  contacts_ : OrderedMap Bytes ContactInfo
  deriving DecidableEq

namespace ContactManager

/-- The contacts in iteration order. -/
def contacts (m : ContactManager) : List ContactInfo := m.contacts_.values

/-- `ContactManager::LoadContact`. -/
def loadContact (m : ContactManager) (contact : ContactInfo) : Except Fault ContactManager :=
  match m.contacts_.emplace contact.id contact with
  -- `emplace` keeps an entry that is there
  | none => .error (.runtimeError "Unable to insert contact")
  | some contacts_ => .ok ⟨contacts_⟩

/-- `ContactManager::IsContact`. -/
def isContact (m : ContactManager) (contactId : Bytes) : Bool := m.contacts_.contains contactId

/-- `ContactManager::AddPendingContact`. -/
def addPendingContact (m : ContactManager) (garbage : Bool) (contactId group : Bytes) :
    Except Fault ContactManager :=
  match m.contacts_.emplace contactId (.new garbage contactId group .AddPending) with
  | none => .error (.runtimeError "Unable to insert contact information")
  | some contacts_ => .ok ⟨contacts_⟩

/-- `ContactManager::RemoveContact`. -/
def removeContact (m : ContactManager) (contactId : Bytes) : ContactManager :=
  ⟨m.contacts_.erase contactId⟩

/-- `ContactManager::RenameGroup`. The exception object made for equal names is not thrown. -/
def renameGroup (m : ContactManager) (currentName newName : Bytes) : ContactManager :=
  ⟨m.contacts_.mapValues fun _ c =>
    if c.group = currentName then { c with group := newName } else c⟩

/-- Find a contact and change it in place; `none` is the null pointer. -/
def setContact (m : ContactManager) (contactId : Bytes) (f : ContactInfo → ContactInfo) :
    Option (ContactInfo × ContactManager) :=
  (m.contacts_.find? contactId).map fun c => (f c, ⟨m.contacts_.adjust contactId f⟩)

/-- `ContactManager::SetContactAvailable`. -/
def setContactAvailable (m : ContactManager) (contactId : Bytes) :
    Option (ContactInfo × ContactManager) :=
  m.setContact contactId fun c => { c with availability := .Available }

/-- `ContactManager::SetContactIdle`. -/
def setContactIdle (m : ContactManager) (contactId idleUnknown message : Bytes) (isBusy : Bool) :
    Option (ContactInfo × ContactManager) :=
  m.setContact contactId fun c =>
    { c with
      idleUnknown := idleUnknown
      availability := .Idle
      isBusy := isBusy
      customMessage := message }

/-- `ContactManager::SetContactAway`. -/
def setContactAway (m : ContactManager) (contactId : Bytes) (availability : Availability)
    (isBusy : Bool) : Option (ContactInfo × ContactManager) :=
  m.setContact contactId fun c => { c with availability := availability, isBusy := isBusy }

/-- `ContactManager::SetContactStatusMessage`. -/
def setContactStatusMessage (m : ContactManager) (contactId message : Bytes) (isBusy : Bool) :
    Option (ContactInfo × ContactManager) :=
  m.setContact contactId fun c =>
    { c with availability := .Custom, isBusy := isBusy, customMessage := message }

/-- `ContactManager::SetContactOffline`. -/
def setContactOffline (m : ContactManager) (contactId : Bytes) :
    Option (ContactInfo × ContactManager) :=
  m.setContact contactId fun c => { c with availability := .Offline }

/-- The ids of the contacts with their groups, in iteration order. -/
def roster (m : ContactManager) : List (Bytes × Bytes) := m.contacts.map fun c => (c.id, c.group)

/-- Changing a contact in place, but not its id or group, does not touch the roster. -/
theorem roster_setContact {m m' : ContactManager} {contactId : Bytes}
    {f : ContactInfo → ContactInfo} {c : ContactInfo}
    (hSet : m.setContact contactId f = some (c, m'))
    (hf : ∀ c, (f c).id = c.id ∧ (f c).group = c.group) : m'.roster = m.roster := by
  unfold setContact at hSet
  obtain ⟨c₀, -, hEq⟩ := Option.map_eq_some_iff.mp hSet
  obtain ⟨-, rfl⟩ := Prod.mk.inj hEq
  exact OrderedMap.map_values_adjust fun v => by rw [(hf v).1, (hf v).2]

/-- A contact that is loaded is emplaced. -/
theorem loadContact_eq_ok {m m' : ContactManager} {contact : ContactInfo}
    (h : m.loadContact contact = .ok m') :
    m.contacts_.emplace contact.id contact = some m'.contacts_ := by
  unfold loadContact at h
  split at h
  · cases h
  · rename_i contacts_ hEmplace
    cases h
    exact hEmplace

theorem perm_contacts_loadContact {m m' : ContactManager} {contact : ContactInfo}
    (h : m.loadContact contact = .ok m') : m'.contacts.Perm (contact :: m.contacts) :=
  OrderedMap.perm_values_emplace (loadContact_eq_ok h)

/-- **What `LoadContact` does.** -/
theorem loadContact_cases (m : ContactManager) (contact : ContactInfo) :
    m.isContact contact.id = true ∧
        m.loadContact contact = .error (.runtimeError "Unable to insert contact") ∨
      m.isContact contact.id = false ∧ ∃ m', m.loadContact contact = .ok m' ∧
        ∀ id, m'.contacts_.find? id =
          if id = contact.id then some contact else m.contacts_.find? id := by
  unfold isContact loadContact
  rcases m.contacts_.emplace_cases contact.id contact with
    ⟨hThere, hEmplace⟩ | ⟨hNew, contacts_, hEmplace, hFind⟩
  · exact .inl ⟨hThere, by rw [hEmplace]⟩
  · exact .inr ⟨hNew, ⟨contacts_⟩, by rw [hEmplace],
      fun id => (hFind id).trans (by congr)⟩

/-- An id cannot be loaded twice. -/
theorem loadContact_again {m m' : ContactManager} {contact again : ContactInfo}
    (h : m.loadContact contact = .ok m') (hSame : again.id = contact.id) :
    m'.loadContact again = .error (.runtimeError "Unable to insert contact") := by
  rcases m.loadContact_cases contact with ⟨-, hThrows⟩ | ⟨-, t, hLoad, hFind⟩
  · rw [hThrows] at h
    cases h
  · obtain rfl : t = m' := Except.ok.inj (hLoad.symm.trans h)
    rcases t.loadContact_cases again with ⟨-, hThrows⟩ | ⟨hNew, -⟩
    · exact hThrows
    · -- the entry of the first time is there
      have hNone : t.contacts_.find? again.id = none := OrderedMap.contains_eq_false_iff.mp hNew
      rw [hFind, if_pos hSame] at hNone
      cases hNone

/-- `AddPendingContact` is `LoadContact` of a new contact, with an exception of its own. -/
theorem addPendingContact_eq (m : ContactManager) (garbage : Bool) (contactId group : Bytes) :
    m.addPendingContact garbage contactId group =
      (m.loadContact (.new garbage contactId group .AddPending)).mapError fun _ =>
        .runtimeError "Unable to insert contact information" := by
  unfold addPendingContact loadContact
  show _ = Except.mapError _ (match m.contacts_.emplace contactId _ with | none => _ | some _ => _)
  cases m.contacts_.emplace contactId (.new garbage contactId group .AddPending) <;> rfl

theorem loadContact_of_addPendingContact {m m' : ContactManager} {garbage : Bool}
    {contactId group : Bytes} (h : m.addPendingContact garbage contactId group = .ok m') :
    m.loadContact (.new garbage contactId group .AddPending) = .ok m' := by
  rw [addPendingContact_eq] at h
  cases hLoad : m.loadContact (.new garbage contactId group .AddPending) with
  | error e =>
    rw [hLoad] at h
    cases h
  | ok t =>
    rw [hLoad] at h
    exact h

/-- **What `AddPendingContact` does**, in both cases. -/
theorem addPendingContact_cases (m : ContactManager) (garbage : Bool) (contactId group : Bytes) :
    m.isContact contactId = true ∧ m.addPendingContact garbage contactId group =
        .error (.runtimeError "Unable to insert contact information") ∨
      m.isContact contactId = false ∧ ∃ m', m.addPendingContact garbage contactId group = .ok m' ∧
        ∀ id, m'.contacts_.find? id = if id = contactId then
          some (.new garbage contactId group .AddPending) else m.contacts_.find? id := by
  rw [addPendingContact_eq]
  rcases m.loadContact_cases (.new garbage contactId group .AddPending) with
    ⟨hThere, hThrows⟩ | ⟨hNew, m', hLoad, hFind⟩
  · exact .inl ⟨hThere, by rw [hThrows]; rfl⟩
  · exact .inr ⟨hNew, m', by rw [hLoad]; rfl, hFind⟩

/-- Nobody is refused who is not there yet. -/
theorem addPendingContact_ok {m : ContactManager} {contactId : Bytes}
    (h : m.isContact contactId = false) (garbage : Bool) (group : Bytes) :
    ∃ m', m.addPendingContact garbage contactId group = .ok m' := by
  rcases m.addPendingContact_cases garbage contactId group with ⟨hThere, -⟩ | ⟨-, m', hAdd, -⟩
  · cases h.symm.trans hThere
  · exact ⟨m', hAdd⟩

theorem mem_contacts_addPendingContact {m m' : ContactManager} {garbage : Bool}
    {contactId group : Bytes} (h : m.addPendingContact garbage contactId group = .ok m')
    {c : ContactInfo} :
    c ∈ m'.contacts ↔ c = .new garbage contactId group .AddPending ∨ c ∈ m.contacts := by
  rw [(perm_contacts_loadContact (loadContact_of_addPendingContact h)).mem_iff, List.mem_cons]

theorem mem_roster_addPendingContact {m m' : ContactManager} {garbage : Bool}
    {contactId group : Bytes} (h : m.addPendingContact garbage contactId group = .ok m')
    (e : Bytes × Bytes) : e ∈ m'.roster ↔ e = (contactId, group) ∨ e ∈ m.roster := by
  unfold roster
  simp only [List.mem_map, mem_contacts_addPendingContact h]
  constructor
  · rintro ⟨c, rfl | hc, rfl⟩
    · exact .inl rfl
    · exact .inr ⟨c, hc, rfl⟩
  · rintro (rfl | ⟨c, hc, rfl⟩)
    · exact ⟨_, .inl rfl, rfl⟩
    · exact ⟨c, .inr hc, rfl⟩

theorem mem_roster_of_removeContact {m : ContactManager} {contactId : Bytes} {e : Bytes × Bytes}
    (h : e ∈ (m.removeContact contactId).roster) : e ∈ m.roster := by
  obtain ⟨c, hc, rfl⟩ := List.mem_map.mp h
  obtain ⟨entry, hEntry, rfl⟩ := List.mem_map.mp hc
  exact List.mem_map_of_mem (List.mem_map_of_mem (List.mem_of_mem_filter hEntry))

theorem roster_renameGroup (m : ContactManager) (currentName newName : Bytes) :
    (m.renameGroup currentName newName).roster =
      m.roster.map fun e => if e.2 = currentName then (e.1, newName) else e := by
  unfold renameGroup roster contacts
  rw [OrderedMap.values_mapValues]
  unfold OrderedMap.values
  simp only [List.map_map]
  refine List.map_congr_left fun e _ => ?_
  simp only [Function.comp]
  split <;> rfl

/-! ### Who is a contact -/

theorem isContact_iff {m : ContactManager} {id : Bytes} :
    m.isContact id = true ↔ ∃ c, m.contacts_.find? id = some c := by
  rw [isContact, OrderedMap.contains_eq_isSome, Option.isSome_iff_exists]

/-- The new contact was none before, and is found under its id. -/
theorem find?_addPendingContact {m m' : ContactManager} {garbage : Bool}
    {contactId group : Bytes} (h : m.addPendingContact garbage contactId group = .ok m') :
    m.contacts_.find? contactId = none ∧
      ∀ id, m'.contacts_.find? id = if id = contactId then
        some (.new garbage contactId group .AddPending) else m.contacts_.find? id := by
  rcases m.addPendingContact_cases garbage contactId group with
    ⟨-, hThrows⟩ | ⟨hNew, t, hAdd, hFind⟩
  · cases h.symm.trans hThrows
  · obtain rfl : t = m' := Except.ok.inj (hAdd.symm.trans h)
    exact ⟨OrderedMap.contains_eq_false_iff.mp hNew, hFind⟩

theorem isContact_loadContact {m m' : ContactManager} {contact : ContactInfo} {id : Bytes}
    (h : m.loadContact contact = .ok m') :
    m'.isContact id = true ↔ id = contact.id ∨ m.isContact id = true :=
  OrderedMap.contains_emplace (loadContact_eq_ok h)

theorem isContact_addPendingContact {m m' : ContactManager} {garbage : Bool}
    {contactId group id : Bytes} (h : m.addPendingContact garbage contactId group = .ok m') :
    m'.isContact id = true ↔ id = contactId ∨ m.isContact id = true :=
  isContact_loadContact (loadContact_of_addPendingContact h)

theorem isContact_removeContact {m : ContactManager} {contactId id : Bytes} :
    (m.removeContact contactId).isContact id = true ↔ id ≠ contactId ∧ m.isContact id = true :=
  OrderedMap.contains_erase

theorem isContact_renameGroup (m : ContactManager) (currentName newName id : Bytes) :
    (m.renameGroup currentName newName).isContact id = m.isContact id :=
  OrderedMap.contains_mapValues

theorem isContact_setContact {m m' : ContactManager} {contactId id : Bytes}
    {f : ContactInfo → ContactInfo} {c : ContactInfo}
    (h : m.setContact contactId f = some (c, m')) : m'.isContact id = m.isContact id := by
  obtain ⟨c₀, -, hEq⟩ := Option.map_eq_some_iff.mp h
  obtain ⟨-, rfl⟩ := Prod.mk.inj hEq
  exact OrderedMap.contains_mapValues

/-- The contacts are those that are found. -/
theorem mem_contacts_iff {m : ContactManager} {c : ContactInfo} :
    c ∈ m.contacts ↔ ∃ id, m.contacts_.find? id = some c := by
  unfold contacts OrderedMap.values
  rw [List.mem_map]
  constructor
  · intro ⟨e, he, hc⟩
    exact ⟨e.1, OrderedMap.find?_of_mem (hc ▸ he)⟩
  · intro ⟨id, hFind⟩
    exact ⟨_, OrderedMap.mem_entries_of_find? hFind, rfl⟩

/-- Every contact is kept under its own id. -/
def Keyed (m : ContactManager) : Prop := ∀ e ∈ m.contacts_.entries, e.2.id = e.1

theorem Keyed.empty : Keyed ⟨.empty⟩ := fun _ h => absurd h List.not_mem_nil

theorem Keyed.loadContact {m m' : ContactManager} (h : m.Keyed) {contact : ContactInfo}
    (hLoad : m.loadContact contact = .ok m') : m'.Keyed := by
  intro e he
  rw [OrderedMap.emplace_eq_some (loadContact_eq_ok hLoad), OrderedMap.mem_insertEntry] at he
  -- the new entry has its contact's id, the others are old
  rcases he with rfl | he
  · rfl
  · exact h e he

theorem Keyed.addPendingContact {m m' : ContactManager} (h : m.Keyed) {garbage : Bool}
    {contactId group : Bytes} (hAdd : m.addPendingContact garbage contactId group = .ok m') :
    m'.Keyed :=
  h.loadContact (loadContact_of_addPendingContact hAdd)

theorem Keyed.removeContact {m : ContactManager} (h : m.Keyed) (contactId : Bytes) :
    (m.removeContact contactId).Keyed := fun e he => h e (List.mem_of_mem_filter he)

theorem Keyed.mapValues {m : ContactManager} (h : m.Keyed) {f : Bytes → ContactInfo → ContactInfo}
    (hf : ∀ id c, (f id c).id = c.id) : Keyed ⟨m.contacts_.mapValues f⟩ := by
  intro e he
  obtain ⟨old, hOld, rfl⟩ := List.mem_map.mp he
  exact (hf old.1 old.2).trans (h old hOld)

theorem Keyed.renameGroup {m : ContactManager} (h : m.Keyed) (currentName newName : Bytes) :
    (m.renameGroup currentName newName).Keyed := by
  refine h.mapValues fun _ c => ?_
  split <;> rfl

theorem Keyed.setContact {m m' : ContactManager} (h : m.Keyed) {contactId : Bytes}
    {f : ContactInfo → ContactInfo} {c : ContactInfo} (hf : ∀ c, (f c).id = c.id)
    (hSet : m.setContact contactId f = some (c, m')) : m'.Keyed := by
  obtain ⟨c₀, -, hEq⟩ := Option.map_eq_some_iff.mp hSet
  obtain ⟨-, rfl⟩ := Prod.mk.inj hEq
  refine h.mapValues fun _ c => ?_
  split
  · exact hf c
  · rfl

theorem Keyed.find? {m : ContactManager} (h : m.Keyed) {id : Bytes} {c : ContactInfo}
    (hFind : m.contacts_.find? id = some c) : c.id = id :=
  h _ (OrderedMap.mem_entries_of_find? hFind)

/-! ### Loading a list of contacts -/

/-- Contacts that were loaded are there, beside those that were there before. -/
theorem perm_contacts_foldlM {contacts : List ContactInfo} {m m' : ContactManager}
    (h : contacts.foldlM loadContact m = .ok m') : m'.contacts.Perm (contacts ++ m.contacts) := by
  induction contacts generalizing m with
  | nil =>
    obtain rfl : m = m' := Except.ok.inj h
    exact .refl _
  | cons first rest ih =>
    rw [List.foldlM_cons] at h
    obtain ⟨t, hFirst, hRest⟩ := Effect.except_bind_eq_ok h
    exact (ih hRest).trans <|
      ((perm_contacts_loadContact hFirst).append_left rest).trans List.perm_middle

theorem Keyed.foldlM {contacts : List ContactInfo} {m m' : ContactManager} (h : m.Keyed)
    (hLoad : contacts.foldlM ContactManager.loadContact m = .ok m') : m'.Keyed :=
  Effect.except_foldlM_keeps (P := Keyed) (fun _ _ _ hKeyed hFirst => hKeyed.loadContact hFirst) h
    hLoad

/-- Contacts with distinct ids, all of them new, can be loaded. -/
theorem foldlM_loadContact_ok {contacts : List ContactInfo} {m : ContactManager}
    (hDistinct : (contacts.map ContactInfo.id).Nodup)
    (hNew : ∀ c ∈ contacts, m.isContact c.id = false) :
    ∃ m', contacts.foldlM loadContact m = .ok m' := by
  induction contacts generalizing m with
  | nil => exact ⟨m, rfl⟩
  | cons first rest ih =>
    rw [List.map_cons, List.nodup_cons] at hDistinct
    rcases m.loadContact_cases first with ⟨hThere, -⟩ | ⟨-, t, hLoad, -⟩
    · cases (hNew first List.mem_cons_self).symm.trans hThere
    · -- a later contact is not the one that was just loaded
      have hRest : ∀ c ∈ rest, t.isContact c.id = false := by
        intro c hc
        refine Bool.eq_false_iff.mpr fun hThere => ?_
        rcases (isContact_loadContact hLoad).mp hThere with hSame | hOld
        · exact hDistinct.1 (hSame ▸ List.mem_map_of_mem hc)
        · cases (hNew c (List.mem_cons_of_mem _ hc)).symm.trans hOld
      obtain ⟨m', hRun⟩ := ih hDistinct.2 hRest
      refine ⟨m', ?_⟩
      rw [List.foldlM_cons, hLoad]
      exact hRun

end ContactManager

/-! ## Blocked users -/

/-- `BlockedContactManager`. -/
structure BlockedContactManager where
  blockedUsers_ : List Bytes
  deriving DecidableEq, Repr

namespace BlockedContactManager

/-- `BlockedContactManager::IsBlocked`. -/
def isBlocked (m : BlockedContactManager) (contactId : Bytes) : Bool :=
  m.blockedUsers_.contains contactId

/-- `BlockedContactManager::Add`. -/
def add (m : BlockedContactManager) (contactId : Bytes) : BlockedContactManager :=
  if m.isBlocked contactId then m else ⟨m.blockedUsers_ ++ [contactId]⟩

/-- `BlockedContactManager::Remove`: erases the first entry found. -/
def remove (m : BlockedContactManager) (contactId : Bytes) : BlockedContactManager :=
  ⟨m.blockedUsers_.erase contactId⟩

theorem isBlocked_add {m : BlockedContactManager} {contactId id : Bytes} :
    (m.add contactId).isBlocked id = true ↔ id = contactId ∨ m.isBlocked id = true := by
  unfold add
  -- a user is in the list once
  split_ifs with hBlocked
  · exact ⟨.inr, fun h => h.elim (fun h => h ▸ hBlocked) fun h => h⟩
  · simp [isBlocked, or_comm]

theorem isBlocked_of_remove {m : BlockedContactManager} {contactId id : Bytes}
    (h : (m.remove contactId).isBlocked id = true) : m.isBlocked id = true := by
  unfold remove isBlocked at *
  rw [List.contains_iff_mem] at *
  exact List.mem_of_mem_erase h

end BlockedContactManager

/-! ## Profiles -/

/-- `ProfileManager`. -/
structure ProfileManager where
  clientId_ : Bytes
  profiles_ : List Bytes
  deriving DecidableEq, Repr

namespace ProfileManager

/-- `ProfileManager::IsProfileId`. -/
def isProfileId (m : ProfileManager) (id : Bytes) : Bool := m.profiles_.contains id

/-- `ProfileManager::IsClientOrProfileId`. -/
def isClientOrProfileId (m : ProfileManager) (id : Bytes) : Bool :=
  id == m.clientId_ || m.isProfileId id

end ProfileManager

/-! ## Presence -/

/-- `PresenceProperties`. -/
structure PresenceProperties where
  availability_ : Availability
  busy_ : Bool
  message_ : Bytes
  deriving DecidableEq, Repr

namespace PresenceProperties

/-- `PresenceProperties::PresenceProperties(initialAvailability)`. -/
def new (initialAvailability : Availability) : PresenceProperties :=
  ⟨initialAvailability, false, []⟩

/-- `PresenceProperties::SetAvailable`. -/
def setAvailable : PresenceProperties := ⟨.Available, false, []⟩

/-- `PresenceProperties::SetCustomStatus`. -/
def setCustomStatus (message : Bytes) (isBusy : Bool) : PresenceProperties :=
  ⟨.Custom, isBusy, message⟩

/-- `PresenceProperties::SetIdle`. -/
def setIdle (message : Bytes) (isBusy : Bool) : PresenceProperties := ⟨.Idle, isBusy, message⟩

/-- `PresenceProperties::SetAway`. -/
def setAway (availability : Availability) (isBusy : Bool) : PresenceProperties :=
  ⟨availability, isBusy, []⟩

/-- `PresenceProperties::SetInvisible`. -/
def setInvisible : PresenceProperties := ⟨.Invisible, false, []⟩

end PresenceProperties

end Giblet.YMsg
