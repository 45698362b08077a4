import Giblet.Lib.InsertionSet
import Giblet.Lib.Journal
import Giblet.YMsg.Managers

/-!
# YMsg — the block list as a set

`BlockedContactManager` keeps the ids in a list: `Add` appends an id that is
not found, `Remove` erases the first one found. As long as no id is there
twice this is a set that remembers the order of insertion.

* `runOps_refines` — the calls do to the list what they do to such a set.
* `blockList_behaves` — who is blocked is decided by the last call that names him.
-/

namespace Giblet.YMsg

open Journal

/-- `BlockedContactManager::Load`. -/
def BlockedContactManager.load (_ : BlockedContactManager) (blockedContacts : List Bytes) :
    BlockedContactManager := ⟨blockedContacts⟩

/-- A call that changes the block list. -/
inductive BlockListOp
  | add (contactId : Bytes)
  | remove (contactId : Bytes)
  deriving DecidableEq, Repr

namespace BlockListOp

/-- Whom the call names. -/
def contactId : BlockListOp → Bytes
  | add contactId => contactId
  | remove contactId => contactId

/-- The call. -/
def perform (m : BlockedContactManager) : BlockListOp → BlockedContactManager
  | add contactId => m.add contactId
  | remove contactId => m.remove contactId

/-- One call after another. -/
def runOps (m : BlockedContactManager) (ops : List BlockListOp) : BlockedContactManager :=
  ops.foldl perform m

/-! ## The set -/

/-- What the call does to a set. -/
def performOnSet (s : InsertionSet Bytes) : BlockListOp → InsertionSet Bytes
  | add contactId => s.insert contactId
  | remove contactId => s.erase contactId

theorem perform_refines (s : InsertionSet Bytes) (op : BlockListOp) :
    op.perform ⟨s.elements⟩ = ⟨(op.performOnSet s).elements⟩ := by
  cases op with
  | add contactId =>
    show BlockedContactManager.add ⟨s.elements⟩ contactId = _
    unfold BlockedContactManager.add BlockedContactManager.isBlocked performOnSet
    rw [InsertionSet.elements_insert]
    simp only [List.contains_iff_mem]
    split <;> rfl
  | remove contactId =>
    -- the first one found is the only one
    show BlockedContactManager.remove ⟨s.elements⟩ contactId = _
    unfold BlockedContactManager.remove
    rw [s.nodup.erase_eq_filter]
    congr 1
    refine List.filter_congr fun y _ => ?_
    rw [bne, beq_eq_decide, decide_not]

/-- **Refinement.** The list holds the elements of the set, in their order. -/
theorem runOps_refines (s : InsertionSet Bytes) (ops : List BlockListOp) :
    runOps ⟨s.elements⟩ ops = ⟨(ops.foldl performOnSet s).elements⟩ := by
  induction ops generalizing s with
  | nil => rfl
  | cons op rest ih =>
    show runOps (op.perform ⟨s.elements⟩) rest = _
    rw [perform_refines, ih, List.foldl_cons]

/-! ## Membership -/

/-- What the call says about an id. -/
def about (x : Bytes) : BlockListOp → Option Bool
  | add contactId => if contactId = x then some true else none
  | remove contactId => if contactId = x then some false else none

theorem about_eq_none_iff {x : Bytes} {op : BlockListOp} :
    op.about x = none ↔ op.contactId ≠ x := by
  cases op <;> simp [about, contactId]

theorem about_eq_some_true_iff {x : Bytes} {op : BlockListOp} :
    op.about x = some true ↔ op = .add x := by
  cases op <;> simp [about]

theorem contains_performOnSet (x : Bytes) (s : InsertionSet Bytes) (op : BlockListOp) :
    (op.performOnSet s).elements.contains x = (op.about x).getD (s.elements.contains x) := by
  rw [Bool.eq_iff_iff, List.contains_iff_mem, ← InsertionSet.mem_def]
  cases op with
  | add contactId =>
    rw [performOnSet, InsertionSet.mem_insert, InsertionSet.mem_def, about]
    by_cases hSame : contactId = x
    · simp [hSame]
    · simp [hSame, Ne.symm hSame]
  | remove contactId =>
    rw [performOnSet, InsertionSet.mem_erase, InsertionSet.mem_def, about]
    by_cases hSame : contactId = x
    · simp [hSame]
    · simp [hSame, Ne.symm hSame]

/-- The last call that names an id decides whether it is in the set. -/
theorem mem_foldl_iff (s : InsertionSet Bytes) (ops : List BlockListOp) (x : Bytes) :
    x ∈ (ops.foldl performOnSet s).elements ↔
      (∃ before after, ops = before ++ .add x :: after ∧ ∀ op ∈ after, op.contactId ≠ x) ∨
        (∀ op ∈ ops, op.contactId ≠ x) ∧ x ∈ s.elements := by
  have hReplay := observe_foldl (f := fun s : InsertionSet Bytes => s.elements.contains x)
    (contains_performOnSet x) ops s
  rw [← List.contains_iff_mem, hReplay, ← List.contains_iff_mem]
  cases hLast : lastAbout (about x) ops with
  | none =>
    -- no call names it
    have hNone := lastAbout_eq_none_iff.mp hLast
    have hOthers : ∀ op ∈ ops, op.contactId ≠ x := fun op hop => about_eq_none_iff.mp (hNone op hop)
    rw [Option.getD_none]
    constructor
    · exact fun h => .inr ⟨hOthers, h⟩
    · rintro (⟨before, after, rfl, -⟩ | ⟨-, h⟩)
      · exact absurd rfl (hOthers (.add x) (by simp))
      · exact h
  | some v =>
    obtain ⟨before, e, after, hSplit, hAbout, hAfter⟩ := lastAbout_eq_some_iff.mp hLast
    have hNamed : ¬ ∀ op ∈ ops, op.contactId ≠ x := by
      intro hOthers
      have hNone := about_eq_none_iff.mpr (hOthers e (by simp [hSplit]))
      rw [hNone] at hAbout
      cases hAbout
    rw [Option.getD_some, or_iff_left fun h => hNamed h.1]
    constructor
    · rintro rfl
      obtain rfl := about_eq_some_true_iff.mp hAbout
      exact ⟨before, after, hSplit, fun op hop => about_eq_none_iff.mp (hAfter op hop)⟩
    · rintro ⟨before', after', hSplit', hAfter'⟩
      -- the call that adds it is the last one about it, too
      have hAdd : lastAbout (about x) ops = some true :=
        lastAbout_eq_some_iff.mpr ⟨before', .add x, after', hSplit',
          about_eq_some_true_iff.mpr rfl, fun op hop => about_eq_none_iff.mpr (hAfter' op hop)⟩
      exact Option.some.inj (hLast.symm.trans hAdd)

/-! ## Result -/

/-- The list behaves as a set that remembers the order of insertion: it holds nobody twice,
the last call naming an id decides about it, and a call keeps all other ids in their order. -/
structure BehavesAsSet (loaded : List Bytes) (ops : List BlockListOp)
    (m : BlockedContactManager) : Prop where
  nodup : m.blockedUsers_.Nodup
  isBlocked_iff : ∀ x, m.isBlocked x = true ↔
    (∃ before after, ops = before ++ .add x :: after ∧ ∀ op ∈ after, op.contactId ≠ x) ∨
      (∀ op ∈ ops, op.contactId ≠ x) ∧ x ∈ loaded
  others : ∀ op : BlockListOp,
    (∀ x, x ≠ op.contactId → (op.perform m).isBlocked x = m.isBlocked x) ∧
      (op.perform m).blockedUsers_.filter (· ≠ op.contactId) =
        m.blockedUsers_.filter (· ≠ op.contactId)

theorem others_performOnSet (s : InsertionSet Bytes) (op : BlockListOp) :
    (op.performOnSet s).elements.filter (· ≠ op.contactId) =
      s.elements.filter (· ≠ op.contactId) := by
  cases op with
  | add contactId => exact s.others_insert contactId
  | remove contactId => exact s.others_erase contactId

/-- Who is kept in the order of the others is blocked as before. -/
theorem isBlocked_of_filter {m m' : BlockedContactManager} {y : Bytes}
    (h : m'.blockedUsers_.filter (· ≠ y) = m.blockedUsers_.filter (· ≠ y)) {x : Bytes}
    (hx : x ≠ y) : m'.isBlocked x = m.isBlocked x := by
  have hMem : x ∈ m'.blockedUsers_ ↔ x ∈ m.blockedUsers_ := by
    have hFilter : x ∈ m'.blockedUsers_.filter (· ≠ y) ↔ x ∈ m.blockedUsers_.filter (· ≠ y) := by
      rw [h]
    simpa [hx] using hFilter
  unfold BlockedContactManager.isBlocked
  rw [Bool.eq_iff_iff, List.contains_iff_mem, List.contains_iff_mem]
  exact hMem

/-- **The block list is an insertion-ordered set** after any sequence of calls. -/
theorem blockList_behaves (m : BlockedContactManager) {loaded : List Bytes}
    (hLoaded : loaded.Nodup) (ops : List BlockListOp) :
    BehavesAsSet loaded ops (runOps (m.load loaded) ops) := by
  have hRefines : runOps (m.load loaded) ops =
      ⟨(ops.foldl performOnSet ⟨loaded, hLoaded⟩).elements⟩ :=
    runOps_refines ⟨loaded, hLoaded⟩ ops
  rw [hRefines]
  generalize hSet : ops.foldl performOnSet ⟨loaded, hLoaded⟩ = s
  refine ⟨s.nodup, fun x => ?_, fun op => ?_⟩
  · rw [BlockedContactManager.isBlocked, List.contains_iff_mem, ← hSet]
    exact mem_foldl_iff ⟨loaded, hLoaded⟩ ops x
  · have hOthers : (op.perform ⟨s.elements⟩).blockedUsers_.filter (· ≠ op.contactId) =
        s.elements.filter (· ≠ op.contactId) := by
      rw [perform_refines]
      exact others_performOnSet s op
    exact ⟨fun x hx => isBlocked_of_filter hOthers hx, hOthers⟩

/-- The ids that the mock server loads, one of them removed and added again. -/
theorem blockList_behaves_mock :
    BehavesAsSet (["wierdo", "jerk", "germinator"].map ascii)
      [.remove (ascii "jerk"), .add (ascii "jerk")]
      (runOps (BlockedContactManager.load ⟨[]⟩ (["wierdo", "jerk", "germinator"].map ascii))
        [.remove (ascii "jerk"), .add (ascii "jerk")]) :=
  blockList_behaves ⟨[]⟩ (by decide) _

end BlockListOp

end Giblet.YMsg
