import Giblet.Gloox.AuthenticationHandler

/-!
# Gloox — loading the roster

`Populate` loads every item of the XMPP roster once for each of its groups,
but a `ContactManager` has one entry for an id: the second `LoadContact` of an
item throws, and the session does not begin.

* `contacts_of_populate` — what is loaded, when `Populate` returns.
* `populate_loads_iff` — the rosters that can be loaded.
-/

namespace Giblet.Gloox

open YMsg

namespace AuthenticationHandler

/-! ## One item -/

/-- The contact that is loaded for an item in a group. -/
def linked (env : Env) (item : RosterItem) (group : Bytes) : ContactInfo :=
  .new (env.isInChat item.jid) item.jid group .Linked

/-- The contact that is loaded for an item in one group. -/
def linkedOnce (env : Env) (item : RosterItem) : ContactInfo :=
  linked env item (item.groups.headD [])

theorem populateItem_one (env : Env) (m : ContactManager) {item : RosterItem}
    (hOne : item.groups.length = 1) :
    populateItem env m item = m.loadContact (linkedOnce env item) := by
  obtain ⟨group, hGroups⟩ := List.length_eq_one_iff.mp hOne
  unfold populateItem linkedOnce linked
  rw [hGroups, if_neg (List.cons_ne_nil _ _), List.foldlM_cons]
  simp only [List.foldlM_nil, bind_pure, List.headD_cons]

/-- An item that is loaded is in one group: another one would find the entry of the first. -/
theorem groups_of_populateItem {env : Env} {m m' : ContactManager} {item : RosterItem}
    (h : populateItem env m item = .ok m') : item.groups.length = 1 := by
  unfold populateItem at h
  split at h
  · cases h
  · cases hGroups : item.groups with
    | nil => contradiction
    | cons group rest =>
      rw [hGroups, List.foldlM_cons] at h
      obtain ⟨t, hLoad, hRest⟩ := Effect.except_bind_eq_ok h
      cases rest with
      | nil => rfl
      | cons second rest =>
        rw [List.foldlM_cons] at hRest
        obtain ⟨u, hSecond, -⟩ := Effect.except_bind_eq_ok hRest
        have hThrows : t.loadContact (linked env item second) =
            .error (.runtimeError "Unable to insert contact") :=
          ContactManager.loadContact_again hLoad rfl
        cases hSecond.symm.trans hThrows

/-! ## All items -/

theorem groups_of_foldlM {env : Env} {items : List RosterItem} {m m' : ContactManager}
    (h : items.foldlM (populateItem env) m = .ok m') : ∀ item ∈ items, item.groups.length = 1 := by
  induction items generalizing m with
  | nil => exact fun _ h => absurd h List.not_mem_nil
  | cons first rest ih =>
    rw [List.foldlM_cons] at h
    obtain ⟨t, hFirst, hRest⟩ := Effect.except_bind_eq_ok h
    intro item hItem
    rcases List.mem_cons.mp hItem with rfl | hItem
    · exact groups_of_populateItem hFirst
    · exact ih hRest item hItem

/-- Items of one group each are loaded as their contacts are. -/
theorem foldlM_of_groups (env : Env) {items : List RosterItem} (m : ContactManager)
    (hOne : ∀ item ∈ items, item.groups.length = 1) :
    items.foldlM (populateItem env) m =
      (items.map (linkedOnce env)).foldlM ContactManager.loadContact m := by
  induction items generalizing m with
  | nil => rfl
  | cons first rest ih =>
    obtain ⟨hFirst, hRest⟩ := List.forall_mem_cons.mp hOne
    rw [List.foldlM_cons, List.map_cons, List.foldlM_cons, populateItem_one env m hFirst]
    congr 1
    funext t
    exact ih t hRest

/-- **What is loaded** when `Populate` returns: each contact under its id, and one for each
item. -/
theorem contacts_of_populate {env : Env} {items : List RosterItem} {m : ContactManager}
    (h : populate env (some (some items)) ⟨.empty⟩ = .ok m) :
    m.Keyed ∧ m.contacts.Perm (items.map (linkedOnce env)) := by
  have hLoad : (items.map (linkedOnce env)).foldlM ContactManager.loadContact ⟨.empty⟩ = .ok m := by
    rw [← foldlM_of_groups env _ (groups_of_foldlM h)]
    exact h
  have hPerm : m.contacts.Perm (items.map (linkedOnce env) ++ []) :=
    ContactManager.perm_contacts_foldlM hLoad
  rw [List.append_nil] at hPerm
  exact ⟨ContactManager.Keyed.empty.foldlM hLoad, hPerm⟩

/-! ## Result -/

/-- There is one entry for each item, in one of the item's groups. -/
structure Loaded (items : List RosterItem) (m : ContactManager) : Prop where
  entries : (m.contacts.map ContactInfo.id).Perm (items.map RosterItem.jid)
  groups : ∀ item ∈ items, ∀ c ∈ m.contacts, c.id = item.jid → c.group ∈ item.groups

/-- **The rosters that can be loaded** are those with one group for each item. -/
theorem populate_loads_iff (env : Env) {items : List RosterItem}
    (hDistinct : (items.map RosterItem.jid).Nodup) :
    (∃ m, populate env (some (some items)) ⟨.empty⟩ = .ok m ∧ Loaded items m) ↔
      ∀ item ∈ items, item.groups.length = 1 := by
  constructor
  · rintro ⟨m, hPopulate, -⟩
    exact groups_of_foldlM hPopulate
  · intro hOne
    have hIds : ((items.map (linkedOnce env)).map ContactInfo.id).Nodup := by
      rw [List.map_map]
      exact hDistinct
    obtain ⟨m, hLoad⟩ :=
      ContactManager.foldlM_loadContact_ok (m := ⟨.empty⟩) hIds fun _ _ => rfl
    have hPopulate : populate env (some (some items)) ⟨.empty⟩ = .ok m :=
      (foldlM_of_groups env _ hOne).trans hLoad
    obtain ⟨-, hContacts⟩ := contacts_of_populate hPopulate
    refine ⟨m, hPopulate, ⟨?_, ?_⟩⟩
    · have hSame := hContacts.map ContactInfo.id
      rwa [List.map_map] at hSame
    · intro item hItem c hc hId
      obtain ⟨other, hOther, rfl⟩ := List.mem_map.mp (hContacts.mem_iff.mp hc)
      -- distinct items have distinct ids
      obtain rfl : other = item := List.inj_on_of_nodup_map hDistinct hOther hItem hId
      obtain ⟨group, hGroup⟩ := List.length_eq_one_iff.mp (hOne other hOther)
      rw [linkedOnce, hGroup]
      exact List.mem_cons_self

/-- A contact in the given groups. -/
def inGroups (groups : List Bytes) : List RosterItem := [⟨ascii "jay@example", groups⟩]

theorem populate_loads_one :
    (∃ m, populate .zeros (some (some (inGroups [ascii "Friends"]))) ⟨.empty⟩ = .ok m ∧
        Loaded (inGroups [ascii "Friends"]) m) ↔
      ∀ item ∈ inGroups [ascii "Friends"], item.groups.length = 1 :=
  populate_loads_iff .zeros (by decide)

/-- A contact that is in two groups cannot be loaded. -/
theorem two_groups_not_loaded :
    ¬ ∀ (env : Env) (items : List RosterItem), (items.map RosterItem.jid).Nodup →
      (∀ item ∈ items, item.groups ≠ [] ∧ item.groups.Nodup) →
      ∃ m, populate env (some (some items)) ⟨.empty⟩ = .ok m ∧ Loaded items m := by
  intro hEvery
  have hLoads := hEvery .zeros (inGroups [ascii "Friends", ascii "Work"]) (by decide) (by decide)
  obtain ⟨m, hPopulate, -⟩ := hLoads
  have hOne := groups_of_foldlM hPopulate _ List.mem_cons_self
  exact absurd hOne (by decide)

end AuthenticationHandler

end Giblet.Gloox
