import Giblet.Lib.Effect
import Giblet.Lib.Run
import Giblet.YMsg.Managers

/-!
# YMsg — the operations of the roster

All operations of `ContactManager` share one map. Packets are built from the
id stored in an entry while lookups go by its key, so the two must stay the
same, and no operation may touch what belongs to another.

* `find?_perform` — what an operation makes of every entry.
* `roster_consistent` — key and id agree after every run of operations, and each of them
  touches only its own part.
-/

namespace Giblet.YMsg

open Effect Run

/-- An operation that changes the roster; `garbage` is what the memory of a new contact's
`isInChat` holds. -/
inductive RosterOp
  | loadContact (contact : ContactInfo)
  | addPendingContact (garbage : Bool) (contactId group : Bytes)
  | removeContact (contactId group : Bytes)
  | renameGroup (currentName newName : Bytes)
  | setContactAvailable (contactId : Bytes)
  | setContactIdle (contactId idleUnknown message : Bytes) (isBusy : Bool)
  | setContactAway (contactId : Bytes) (availability : Availability) (isBusy : Bool)
  | setContactStatusMessage (contactId message : Bytes) (isBusy : Bool)
  | setContactOffline (contactId : Bytes)
  deriving DecidableEq

namespace RosterOp

/-- What an operation of the roster comes to; it answers the pointer of the `SetContact`
functions, and null for those that answer nothing. -/
abbrev Outcome := EStateM.Result Fault ContactManager (Option ContactInfo)

/-- An operation that may throw, and leaves the map alone then. -/
def inserting (m : ContactManager) : Except Fault ContactManager → Outcome
  | .error e => .error e m
  | .ok m' => .ok none m'

/-- An operation that answers a pointer to the contact, or null. -/
def setting (m : ContactManager) : Option (ContactInfo × ContactManager) → Outcome
  | none => .ok none m
  | some (contact, m') => .ok (some contact) m'

/-- The operation. `RemoveContact` does not look at the group. -/
def perform (m : ContactManager) : RosterOp → Outcome
  | loadContact contact => inserting m (m.loadContact contact)
  | addPendingContact garbage contactId group =>
    inserting m (m.addPendingContact garbage contactId group)
  | removeContact contactId _ => .ok none (m.removeContact contactId)
  | renameGroup currentName newName => .ok none (m.renameGroup currentName newName)
  | setContactAvailable contactId => setting m (m.setContactAvailable contactId)
  | setContactIdle contactId idleUnknown message isBusy =>
    setting m (m.setContactIdle contactId idleUnknown message isBusy)
  | setContactAway contactId availability isBusy =>
    setting m (m.setContactAway contactId availability isBusy)
  | setContactStatusMessage contactId message isBusy =>
    setting m (m.setContactStatusMessage contactId message isBusy)
  | setContactOffline contactId => setting m (m.setContactOffline contactId)

/-- `RemoveContact` erases what `FindContact` finds, which must not be the end of the map. -/
def Allowed (m : ContactManager) : RosterOp → Prop
  | removeContact contactId _ => m.isContact contactId = true
  | _ => True

/-! ## The part of an operation -/

/-- The contact that the operation adds. -/
def added? : RosterOp → Option ContactInfo
  | loadContact contact => some contact
  | addPendingContact garbage contactId group => some (.new garbage contactId group .AddPending)
  | _ => none

/-- The id that the operation removes. -/
def removed? : RosterOp → Option Bytes
  | removeContact contactId _ => some contactId
  | _ => none

/-- What the operation makes of the name of a group. -/
def regroup : RosterOp → Bytes → Bytes
  | renameGroup currentName newName, group => if group = currentName then newName else group
  | _, group => group

/-- The contact whose presence is set, and what is set. -/
def presence? : RosterOp → Option (Bytes × (ContactInfo → ContactInfo))
  | setContactAvailable contactId =>
    some (contactId, fun c => { c with availability := .Available })
  | setContactIdle contactId idleUnknown message isBusy =>
    some (contactId, fun c =>
      { c with
        idleUnknown := idleUnknown
        availability := .Idle
        isBusy := isBusy
        customMessage := message })
  | setContactAway contactId availability isBusy =>
    some (contactId, fun c => { c with availability := availability, isBusy := isBusy })
  | setContactStatusMessage contactId message isBusy =>
    some (contactId, fun c =>
      { c with availability := .Custom, isBusy := isBusy, customMessage := message })
  | setContactOffline contactId => some (contactId, fun c => { c with availability := .Offline })
  | _ => none

/-- Whose presence is set. -/
def named? (op : RosterOp) : Option Bytes := op.presence?.map Prod.fst

/-- What the operation makes of an entry that it does not remove. -/
def change (op : RosterOp) (id : Bytes) (c : ContactInfo) : ContactInfo :=
  match op.presence? with
  | some (contactId, f) => if id = contactId then f c else c
  | none => { c with group := op.regroup c.group }

/-! ## What an operation does -/

/-- An insertion adds its contact, or throws when there is an entry of its id. -/
theorem perform_added {m : ContactManager} {op : RosterOp} {contact : ContactInfo}
    (hAdded : op.added? = some contact) :
    m.isContact contact.id = true ∧ (∃ e, op.perform m = .error e m) ∨
      m.isContact contact.id = false ∧ ∃ m', op.perform m = .ok none m' ∧
        ∀ id, m'.contacts_.find? id =
          if id = contact.id then some contact else m.contacts_.find? id := by
  cases op with
  | loadContact c =>
    obtain rfl : c = contact := Option.some.inj hAdded
    rcases m.loadContact_cases c with ⟨hThere, hThrows⟩ | ⟨hNew, m', hLoad, hFind⟩
    · exact .inl ⟨hThere, _, by rw [perform, hThrows, inserting]⟩
    · exact .inr ⟨hNew, m', by rw [perform, hLoad, inserting], hFind⟩
  | addPendingContact garbage contactId group =>
    obtain rfl : ContactInfo.new garbage contactId group .AddPending = contact :=
      Option.some.inj hAdded
    rcases m.addPendingContact_cases garbage contactId group with
      ⟨hThere, hThrows⟩ | ⟨hNew, m', hAdd, hFind⟩
    · exact .inl ⟨hThere, _, by rw [perform, hThrows, inserting]⟩
    · exact .inr ⟨hNew, m', by rw [perform, hAdd, inserting], hFind⟩
  | _ => cases hAdded

/-- The `SetContact` functions find their contact and change it in place. -/
theorem perform_presence {m : ContactManager} {op : RosterOp} {contactId : Bytes}
    {f : ContactInfo → ContactInfo} (hPresence : op.presence? = some (contactId, f)) :
    op.perform m = setting m (m.setContact contactId f) := by
  cases op with
  | loadContact _ | addPendingContact _ _ _ | removeContact _ _ | renameGroup _ _ =>
    cases hPresence
  | _ =>
    obtain ⟨rfl, rfl⟩ := Prod.mk.inj (Option.some.inj hPresence)
    rfl

/-- An insertion does nothing else. -/
theorem part_of_added {op : RosterOp} {contact : ContactInfo} (hAdded : op.added? = some contact) :
    op.removed? = none ∧ op.presence? = none ∧ ∀ group, op.regroup group = group := by
  cases op with
  | loadContact _ | addPendingContact _ _ _ => exact ⟨rfl, rfl, fun _ => rfl⟩
  | _ => cases hAdded

/-- The `SetContact` functions do nothing else. -/
theorem part_of_presence {op : RosterOp} {p : Bytes × (ContactInfo → ContactInfo)}
    (hPresence : op.presence? = some p) : op.added? = none ∧ op.removed? = none := by
  cases op with
  | loadContact _ | addPendingContact _ _ _ | removeContact _ _ | renameGroup _ _ =>
    cases hPresence
  | _ => exact ⟨rfl, rfl⟩

/-- A contact set in place, looked up. -/
theorem find?_setting (m : ContactManager) (contactId id : Bytes)
    (f : ContactInfo → ContactInfo) :
    (finalState (setting m (m.setContact contactId f))).contacts_.find? id =
      (m.contacts_.find? id).map fun c => if id = contactId then f c else c := by
  unfold ContactManager.setContact
  cases hFind : m.contacts_.find? contactId with
  | none =>
    show m.contacts_.find? id = _
    by_cases hSame : id = contactId
    · rw [hSame, hFind, Option.map_none]
    · simp only [if_neg hSame]
      exact Option.map_id'.symm
  | some c =>
    show (m.contacts_.adjust contactId f).find? id = _
    rw [OrderedMap.find?_adjust]
    by_cases hSame : id = contactId
    · rw [if_pos hSame]
      simp only [if_pos hSame]
    · rw [if_neg hSame]
      simp only [if_neg hSame]
      exact Option.map_id'.symm

/-- After an insertion every entry is there that was there before, and the new one if its id
was free. -/
theorem find?_perform_added {m : ContactManager} {op : RosterOp} {contact : ContactInfo}
    (hAdded : op.added? = some contact) (id : Bytes) :
    (finalState (op.perform m)).contacts_.find? id =
      (m.contacts_.find? id).or (if contact.id = id then some contact else none) := by
  rcases perform_added (m := m) hAdded with ⟨hThere, e, hRun⟩ | ⟨hNew, m', hRun, hFind⟩
  -- the exception leaves the map as it was
  · rw [hRun, finalState_error]
    by_cases hSame : contact.id = id
    · obtain ⟨c, hc⟩ := ContactManager.isContact_iff.mp hThere
      rw [← hSame, hc, Option.some_or]
    · rw [if_neg hSame, Option.or_none]
  · rw [hRun, finalState_ok, hFind]
    by_cases hSame : contact.id = id
    · have hNone : m.contacts_.find? id = none :=
        hSame ▸ OrderedMap.contains_eq_false_iff.mp hNew
      rw [if_pos hSame.symm, hNone, if_pos hSame, Option.none_or]
    · rw [if_neg (Ne.symm hSame), if_neg hSame, Option.or_none]

/-- **What an operation makes of every entry.** -/
theorem find?_perform (m : ContactManager) (op : RosterOp) (id : Bytes) :
    (finalState (op.perform m)).contacts_.find? id =
      match m.contacts_.find? id with
      | some c => if op.removed? = some id then none else some (op.change id c)
      | none => op.added?.filter fun c => c.id = id := by
  cases hAdded : op.added? with
  | some contact =>
    obtain ⟨hRemoved, hPresence, hRegroup⟩ := part_of_added hAdded
    have hChange (c : ContactInfo) : op.change id c = c := by rw [change, hPresence, hRegroup]
    rw [find?_perform_added hAdded]
    simp only [hRemoved, hChange, reduceCtorEq, if_false]
    cases m.contacts_.find? id with
    | some c => rfl
    | none => simp [Option.filter]
  | none =>
    cases hPresence : op.presence? with
    | some p =>
      obtain ⟨contactId, f⟩ := p
      obtain ⟨-, hRemoved⟩ := part_of_presence hPresence
      have hChange (c : ContactInfo) : op.change id c = if id = contactId then f c else c := by
        rw [change, hPresence]
      rw [perform_presence hPresence, find?_setting]
      simp only [hRemoved, hChange, reduceCtorEq, if_false]
      cases m.contacts_.find? id <;> rfl
    | none =>
      cases op with
      | removeContact contactId group =>
        show (m.contacts_.erase contactId).find? id = _
        rw [OrderedMap.find?_erase]
        by_cases hSame : id = contactId
        · rw [if_pos hSame, hSame]
          cases m.contacts_.find? contactId <;> simp [removed?]
        · rw [if_neg hSame]
          cases m.contacts_.find? id <;> simp [removed?, Ne.symm hSame, change, regroup, presence?]
      | renameGroup currentName newName =>
        show (m.contacts_.mapValues _).find? id = _
        rw [OrderedMap.find?_mapValues]
        cases m.contacts_.find? id with
        | none => rfl
        | some c =>
          simp only [Option.map_some, removed?, reduceCtorEq, if_false, change, regroup, presence?]
          split <;> rfl
      | loadContact _ | addPendingContact _ _ _ => cases hAdded
      | _ => cases hPresence

/-! ## Key and id -/

theorem keyed_iff {m : ContactManager} :
    m.Keyed ↔ ∀ id c, m.contacts_.find? id = some c → c.id = id := by
  constructor
  · exact fun h id c hFind => h.find? hFind
  · exact fun h e he => h e.1 e.2 (OrderedMap.find?_of_mem he)

/-- No operation changes the id stored in an entry. -/
theorem change_id (op : RosterOp) (id : Bytes) (c : ContactInfo) : (op.change id c).id = c.id := by
  cases op with
  | loadContact _ | addPendingContact _ _ _ | removeContact _ _ | renameGroup _ _ => rfl
  | _ =>
    show (if _ then _ else c : ContactInfo).id = c.id
    split <;> rfl

/-- Key and id agree after every operation. -/
theorem keyed_perform {m : ContactManager} (hKeyed : m.Keyed) (op : RosterOp) :
    (finalState (op.perform m)).Keyed := by
  rw [keyed_iff] at *
  intro id c' hFind
  rw [find?_perform] at hFind
  cases hOld : m.contacts_.find? id with
  | some c =>
    simp only [hOld] at hFind
    split at hFind
    · cases hFind
    · obtain rfl := Option.some.inj hFind
      rw [change_id, hKeyed id c hOld]
  -- a new entry stands under its own id
  | none =>
    simp only [hOld] at hFind
    exact of_decide_eq_true (Option.filter_eq_some_iff.mp hFind).2

/-! ## Result -/

/-- An operation touches its own part of the roster and nothing else. -/
structure OwnPart (m : ContactManager) (op : RosterOp) (outcome : Outcome) : Prop where
  /-- Ids are added by insertions and removed by `RemoveContact`. -/
  ids : ∀ id, (finalState outcome).isContact id = true ↔
    m.isContact id = true ∧ op.removed? ≠ some id ∨ ∃ c, op.added? = some c ∧ c.id = id
  /-- An insertion of an id that is there throws, and changes nothing. -/
  refused : ∀ c, op.added? = some c → m.isContact c.id = true → ∃ e, outcome = .error e m
  /-- Any other one adds its contact. -/
  added : ∀ c, op.added? = some c → m.isContact c.id = false →
    returned outcome = true ∧ (finalState outcome).contacts_.find? c.id = some c
  /-- Only `RenameGroup` changes a group, from the current name to the new one. -/
  groups : ∀ id c c', m.contacts_.find? id = some c →
    (finalState outcome).contacts_.find? id = some c' → c'.group = op.regroup c.group
  /-- Otherwise a contact stays as it is, unless its presence is set, -/
  others : ∀ id c c', m.contacts_.find? id = some c →
    (finalState outcome).contacts_.find? id = some c' → op.named? ≠ some id →
      c' = { c with group := c'.group }
  /-- and then only that is set. -/
  presence : ∀ id c c', m.contacts_.find? id = some c →
    (finalState outcome).contacts_.find? id = some c' → op.named? = some id →
      c' = { c with
        availability := c'.availability
        isBusy := c'.isBusy
        customMessage := c'.customMessage
        idleUnknown := c'.idleUnknown }
  /-- Nothing is set for who is no contact. -/
  unknown : ∀ id, op.named? = some id → m.isContact id = false → outcome = .ok none m

/-- What became of an entry that is still there. -/
theorem change_of_find? {m : ContactManager} {op : RosterOp} {id : Bytes} {c c' : ContactInfo}
    (hOld : m.contacts_.find? id = some c)
    (hNew : (finalState (op.perform m)).contacts_.find? id = some c') :
    c' = op.change id c := by
  rw [find?_perform] at hNew
  simp only [hOld] at hNew
  split at hNew
  · cases hNew
  · exact (Option.some.inj hNew).symm

theorem change_group (op : RosterOp) (id : Bytes) (c : ContactInfo) :
    (op.change id c).group = op.regroup c.group := by
  cases op with
  | loadContact _ | addPendingContact _ _ _ | removeContact _ _ | renameGroup _ _ => rfl
  | _ =>
    show (if _ then _ else c : ContactInfo).group = c.group
    split <;> rfl

theorem change_others {op : RosterOp} {id : Bytes} (hOther : op.named? ≠ some id)
    (c : ContactInfo) : op.change id c = { c with group := (op.change id c).group } := by
  unfold change
  unfold named? at hOther
  cases hPresence : op.presence? with
  | none => rfl
  | some p =>
    rw [hPresence] at hOther
    have hNot : id ≠ p.1 := fun hSame => hOther (by rw [Option.map_some, hSame])
    simp only [if_neg hNot]

theorem change_presence {op : RosterOp} {id : Bytes} (hNamed : op.named? = some id)
    (c : ContactInfo) : op.change id c =
      { c with
        availability := (op.change id c).availability
        isBusy := (op.change id c).isBusy
        customMessage := (op.change id c).customMessage
        idleUnknown := (op.change id c).idleUnknown } := by
  cases op with
  | loadContact _ | addPendingContact _ _ _ | removeContact _ _ | renameGroup _ _ => cases hNamed
  | _ =>
    obtain rfl := Option.some.inj hNamed
    simp only [change, presence?, if_true]

theorem isContact_perform (m : ContactManager) (op : RosterOp) (id : Bytes) :
    (finalState (op.perform m)).isContact id = true ↔
      m.isContact id = true ∧ op.removed? ≠ some id ∨ ∃ c, op.added? = some c ∧ c.id = id := by
  unfold ContactManager.isContact
  rw [OrderedMap.contains_eq_isSome, find?_perform, OrderedMap.contains_eq_isSome]
  cases hOld : m.contacts_.find? id with
  | some c =>
    have hRemoved : op.removed? = some id → ¬ ∃ c, op.added? = some c ∧ c.id = id := by
      rintro hRemoved ⟨c, hAdded, -⟩
      rw [(part_of_added hAdded).1] at hRemoved
      cases hRemoved
    by_cases hGone : op.removed? = some id
    · simp [hGone, hRemoved hGone]
    · simp [hGone]
  | none =>
    simp only [Option.isSome_none, Bool.false_eq_true, false_and, false_or]
    rw [Option.isSome_iff_exists]
    refine exists_congr fun c => ?_
    rw [Option.filter_eq_some_iff, decide_eq_true_iff]

/-- **One operation** touches its own part only. -/
theorem perform_ownPart (m : ContactManager) (op : RosterOp) : OwnPart m op (op.perform m) where
  ids := isContact_perform m op
  refused := by
    intro c hAdded hThere
    rcases perform_added (m := m) hAdded with ⟨-, hThrows⟩ | ⟨hNew, -⟩
    · exact hThrows
    · rw [hThere] at hNew
      cases hNew
  added := by
    intro c hAdded hNew
    rcases perform_added (m := m) hAdded with ⟨hThere, -⟩ | ⟨-, m', hRun, hFind⟩
    · rw [hThere] at hNew
      cases hNew
    · rw [hRun]
      exact ⟨rfl, by rw [finalState_ok, hFind, if_pos rfl]⟩
  groups := by
    intro id c c' hOld hNew
    rw [change_of_find? hOld hNew, change_group]
  others := by
    intro id c c' hOld hNew hOther
    rw [change_of_find? hOld hNew]
    exact change_others hOther c
  presence := by
    intro id c c' hOld hNew hNamed
    rw [change_of_find? hOld hNew]
    exact change_presence hNamed c
  unknown := by
    intro id hNamed hUnknown
    obtain ⟨⟨contactId, f⟩, hPresence, rfl⟩ := Option.map_eq_some_iff.mp hNamed
    have hNone : m.contacts_.find? contactId = none := OrderedMap.contains_eq_false_iff.mp hUnknown
    rw [perform_presence hPresence, ContactManager.setContact, hNone]
    rfl

/-- An operation is performed: it returns, or throws. -/
def RosterStep (m : ContactManager) (op : RosterOp) (m' : ContactManager) : Prop :=
  op.Allowed m ∧ m' = finalState (op.perform m)

/-- **The roster is consistent** after every run of operations: every entry stands under the
id that it stores, and whatever is done next touches its own part only. -/
theorem roster_consistent {ops : List RosterOp} {m : ContactManager}
    (hRun : Runs RosterStep ⟨.empty⟩ ops m) :
    m.Keyed ∧ ∀ op : RosterOp, op.Allowed m → OwnPart m op (op.perform m) := by
  refine ⟨?_, fun op _ => perform_ownPart m op⟩
  refine hRun.invariant (I := fun _ m => m.Keyed) ContactManager.Keyed.empty ?_
  intro _ t op u _ hKeyed hStep
  rw [hStep.2]
  exact keyed_perform hKeyed op

/-- A contact is loaded, and another one asked for and removed again. -/
def oneRemoved : List RosterOp :=
  [.loadContact (.new false (ascii "jay") (ascii "Friends") .Linked),
    .addPendingContact false (ascii "kim") (ascii "Friends"),
    .removeContact (ascii "kim") (ascii "Friends")]

/-- The roster after some operations. -/
def rosterAfter (ops : List RosterOp) : ContactManager :=
  ops.foldl (fun m op => finalState (op.perform m)) ⟨.empty⟩

theorem roster_consistent_oneRemoved :
    (rosterAfter oneRemoved).Keyed ∧
      ∀ op : RosterOp, op.Allowed (rosterAfter oneRemoved) →
        OwnPart (rosterAfter oneRemoved) op (op.perform (rosterAfter oneRemoved)) := by
  have hThere : (rosterAfter (oneRemoved.take 2)).isContact (ascii "kim") = true := by
    decide +kernel
  have hRun : Runs RosterStep ⟨.empty⟩ oneRemoved (rosterAfter oneRemoved) :=
    .cons ⟨trivial, rfl⟩ (.cons ⟨trivial, rfl⟩ (.one ⟨hThere, rfl⟩))
  exact roster_consistent hRun

end RosterOp

end Giblet.YMsg
