import Mathlib.Data.List.Lex
import Mathlib.Order.Lattice
import Giblet.Lib.Effect
import Giblet.Lib.OrderedMap

/-!
# EventLoop — one thread serving many components

A loop keeps a map of members, each with a component of its own, and a state
that all handlers share. In each turn it serves the members that are ready,
in the order of their keys, and at most `capacity` of them are watched. A
handler keeps its member, drops it, or asks for the loop to stop after this
turn; a failure ends the loop at once.

`run_without` is the separation theorem. Take the events of one member away:
the others go through the same states, provided that the member's events
were handled without failing and without stopping the loop, that nobody
waited to be watched when the member was dropped, and that nobody looked at the
shared state after the member had used it.

* `Ignores` — an event that is handled alike whatever is shared.
* `Harmless` — what is asked of the events of a run.
* `Agree` — the simulation between the run with the member's events and the one without.
* `AlwaysServed.and_invariant` — the rule for invariants of a run.
-/

open Effect

/-- What a handler asks the loop to do. -/
inductive Verdict
  | keep
  | drop
  | stop
  deriving DecidableEq, Repr

/-- The members of a loop, their components, and what they share. -/
structure EventLoop (K C G : Type) [LinearOrder K] where
  members : OrderedMap K Unit
  component : K → C
  shared : G

namespace EventLoop

variable {K C G E ε : Type} [LinearOrder K]

/-- The keys of the members, in order. -/
def keys (l : EventLoop K C G) : List K := l.members.entries.map Prod.fst

/-- Put back what a handler made of the shared state and a component. -/
def update (l : EventLoop K C G) (k : K) (r : G × C) : EventLoop K C G :=
  { l with component := fun x => if x = k then r.2 else l.component x, shared := r.1 }

/-- Nothing changes if the same is put back. -/
theorem update_self (l : EventLoop K C G) (k : K) : l.update k (l.shared, l.component k) = l := by
  have hSame : (fun x => if x = k then l.component k else l.component x) = l.component := by
    funext x
    split_ifs with hx
    · rw [hx]
    · rfl
  show EventLoop.mk l.members _ l.shared = l
  rw [hSame]

/-- Take a member off the loop. -/
def drop (l : EventLoop K C G) (k : K) : EventLoop K C G :=
  { l with members := l.members.erase k }

section Running

variable (capacity : Nat) (missing : ε) (handler : E → EStateM ε (G × C) Verdict)

/-- Serve one member; answers whether the loop goes on. -/
def serve (k : K) (e : E) : EStateM ε (EventLoop K C G) Bool := fun l =>
  if l.members.contains k then
    match handler e (l.shared, l.component k) with
    -- the component is put back on a failure too
    | .error f r => .error f (l.update k r)
    | .ok .keep r => .ok true (l.update k r)
    | .ok .drop r => .ok true ((l.update k r).drop k)
    | .ok .stop r => .ok false (l.update k r)
  else .error missing l

/-- Serve the ready members of a turn. -/
def serveAll : List (K × E) → EStateM ε (EventLoop K C G) Bool
  | [] => pure true
  | (k, e) :: rest => do
    let running ← serve missing handler k e
    -- the turn is finished even when a handler has asked to stop
    let others ← serveAll rest
    pure (running && others)

/-- The watched members that are ready, with their events. -/
def ready (l : EventLoop K C G) (select : K → Option E) : List (K × E) :=
  (l.keys.take capacity).filterMap fun k => (select k).map fun e => (k, e)

/-- The members that are ready, when their events are known for everybody. -/
theorem ready_eq_map (l : EventLoop K C G) (isReady : K → Bool) (event : K → E) :
    ready capacity l (fun k => if isReady k then some (event k) else none) =
      ((l.keys.take capacity).filter isReady).map fun k => (k, event k) := by
  unfold ready
  induction l.keys.take capacity with
  | nil => rfl
  | cons k rest ih =>
    rw [List.filterMap_cons, List.filter_cons, ih]
    by_cases hReady : isReady k = true
    · simp only [if_pos hReady, Option.map_some, List.map_cons]
    · simp only [if_neg hReady, Option.map_none]

/-- Turn after turn, until a handler asks to stop. -/
def run : List (K → Option E) → EStateM ε (EventLoop K C G) Unit
  | [] => pure ()
  | select :: rest => do
    let l ← get
    let running ← serveAll missing handler (ready capacity l select)
    if running then run rest else pure ()

/-! ## What holds of every event that is served -/

/-- `P` holds of every member that is served in a turn, in the state it is served in. -/
def AllServed (P : EventLoop K C G → K → E → Prop) : List (K × E) → EventLoop K C G → Prop
  | [], _ => True
  | (k, e) :: rest, l =>
    P l k e ∧ ∀ running l', serve missing handler k e l = .ok running l' → AllServed P rest l'

/-- `P` holds of every member that is served in a run. -/
def AlwaysServed (P : EventLoop K C G → K → E → Prop) :
    List (K → Option E) → EventLoop K C G → Prop
  | [], _ => True
  | select :: rest, l =>
    AllServed missing handler P (ready capacity l select) l ∧
      ∀ l', serveAll missing handler (ready capacity l select) l = .ok true l' →
        AlwaysServed P rest l'

variable {capacity missing handler}

theorem AllServed.imp {P Q : EventLoop K C G → K → E → Prop} (h : ∀ l k e, P l k e → Q l k e)
    {events : List (K × E)} : ∀ {l : EventLoop K C G}, AllServed missing handler P events l →
      AllServed missing handler Q events l := by
  induction events with
  | nil => exact fun _ => trivial
  | cons p rest ih =>
    exact fun hServed =>
      ⟨h _ _ _ hServed.1, fun running l' hServe => ih (hServed.2 running l' hServe)⟩

theorem AlwaysServed.imp {P Q : EventLoop K C G → K → E → Prop} (h : ∀ l k e, P l k e → Q l k e)
    {selects : List (K → Option E)} : ∀ {l : EventLoop K C G},
      AlwaysServed capacity missing handler P selects l →
        AlwaysServed capacity missing handler Q selects l := by
  induction selects with
  | nil => exact fun _ => trivial
  | cons select rest ih =>
    exact fun hServed => ⟨hServed.1.imp h, fun l' hTurn => ih (hServed.2 l' hTurn)⟩

/-- Serving a member changes its component at most. -/
theorem component_of_serve {l l' : EventLoop K C G} {k x : K} {e : E} {running : Bool}
    (h : serve missing handler k e l = .ok running l') :
    l'.component x =
      if x = k then (finalState (handler e (l.shared, l.component k))).2 else l.component x := by
  unfold serve at h
  split at h
  · split at h <;> rename_i hHandler <;> cases h <;> rw [hHandler] <;> rfl
  · cases h

/-- What serving a member keeps, serving a turn keeps. -/
theorem serveAll_keeps {I : EventLoop K C G → Prop}
    (hStep : ∀ l k e running l', I l → serve missing handler k e l = .ok running l' → I l')
    {events : List (K × E)} : ∀ {l l' : EventLoop K C G} {running : Bool}, I l →
      serveAll missing handler events l = .ok running l' → I l' := by
  induction events with
  | nil =>
    intro l l' running hI hTurn
    cases hTurn
    exact hI
  | cons p rest ih =>
    intro l l' running hI hTurn
    obtain ⟨first, t, hServe, hMore⟩ := bind_eq_ok hTurn
    obtain ⟨others, u, hRest, hLast⟩ := bind_eq_ok hMore
    cases hLast
    exact ih (hStep _ _ _ _ _ hI hServe) hRest

theorem AllServed.and_invariant {P : EventLoop K C G → K → E → Prop} {I : EventLoop K C G → Prop}
    (hStep : ∀ l k e running l', I l → serve missing handler k e l = .ok running l' → I l')
    {events : List (K × E)} : ∀ {l : EventLoop K C G}, I l →
      AllServed missing handler P events l →
        AllServed missing handler (fun l k e => I l ∧ P l k e) events l := by
  induction events with
  | nil => exact fun _ _ => trivial
  | cons p rest ih =>
    exact fun hI hServed => ⟨⟨hI, hServed.1⟩, fun running l' hServe =>
      ih (hStep _ _ _ _ _ hI hServe) (hServed.2 running l' hServe)⟩

/-- **An invariant** of the loop may be used wherever a member is served. -/
theorem AlwaysServed.and_invariant {P : EventLoop K C G → K → E → Prop}
    {I : EventLoop K C G → Prop}
    (hStep : ∀ l k e running l', I l → serve missing handler k e l = .ok running l' → I l')
    {selects : List (K → Option E)} : ∀ {l : EventLoop K C G}, I l →
      AlwaysServed capacity missing handler P selects l →
        AlwaysServed capacity missing handler (fun l k e => I l ∧ P l k e) selects l := by
  induction selects with
  | nil => exact fun _ _ => trivial
  | cons select rest ih =>
    exact fun hI hServed => ⟨hServed.1.and_invariant hStep hI, fun l' hTurn =>
      ih (serveAll_keeps hStep hI hTurn) (hServed.2 l' hTurn)⟩

end Running

/-! ## Without the events of one member -/

/-- The events of everybody else. -/
def without (a : K) (select : K → Option E) : K → Option E :=
  fun k => if k = a then none else select k

/-- A computation that does the same to its part of the state whatever the other part is,
which it leaves alone. -/
def Ignores {α : Type} (x : EStateM ε (G × C) α) (c : C) : Prop :=
  ∃ r : EStateM.Result ε C α, ∀ g, x (g, c) = mapState (fun c' => (g, c')) r

section Separation

variable {capacity : Nat} {missing : ε} {handler : E → EStateM ε (G × C) Verdict}
variable (Used : C → Prop)

/-- What is asked of an event, for those of `a` to have no effect on the others. `Used` says of
`a`'s component that `a` has used what is shared. -/
structure Harmless (capacity : Nat) (handler : E → EStateM ε (G × C) Verdict) (a : K)
    (l : EventLoop K C G) (k : K) (e : E) : Prop where
  -- a member that goes makes room for one that was not watched, if there are too many
  own : k = a → ∃ verdict r, handler e (l.shared, l.component a) = .ok verdict r ∧
    verdict ≠ .stop ∧ (verdict = .drop → l.keys.length ≤ capacity) ∧
    (r.1 ≠ l.shared ∨ Used (l.component a) → Used r.2)
  others : k ≠ a → Used (l.component a) → Ignores (handler e) (l.component k)

/-- The two runs agree on everybody but `a`. -/
structure Agree (capacity : Nat) (a : K) (l m : EventLoop K C G) : Prop where
  component : ∀ k, k ≠ a → l.component k = m.component k
  keys : l.keys.filter (· ≠ a) = m.keys.filter (· ≠ a)
  shared : l.shared = m.shared ∨ Used (l.component a)
  watched : l.keys = m.keys ∨ l.keys.length ≤ capacity ∧ m.keys.length ≤ capacity

variable {Used}

theorem mem_keys {l : EventLoop K C G} {k : K} : l.members.contains k = true ↔ k ∈ l.keys :=
  OrderedMap.contains_eq_true_iff

theorem keys_drop (l : EventLoop K C G) (k : K) : (l.drop k).keys = l.keys.filter (· ≠ k) := by
  show ((l.members.entries.filter fun e => decide (e.1 ≠ k)).map Prod.fst) = _
  rw [keys, List.filter_map]
  rfl

theorem Agree.mem_keys_iff {a : K} {l m : EventLoop K C G} (h : Agree Used capacity a l m)
    {k : K} (hk : k ≠ a) : k ∈ l.keys ↔ k ∈ m.keys := by
  have hFilter : k ∈ l.keys.filter (· ≠ a) ↔ k ∈ m.keys.filter (· ≠ a) := by rw [h.keys]
  simpa [List.mem_filter, hk] using hFilter

/-- A change of the same component in both runs. -/
theorem Agree.update {a : K} {l m : EventLoop K C G} (h : Agree Used capacity a l m) {k : K}
    (hk : k ≠ a) (c : C) {g g' : G} (hShared : g = g' ∨ Used (l.component a)) :
    Agree Used capacity a (l.update k (g, c)) (m.update k (g', c)) where
  component x hx := by
    show (if x = k then c else l.component x) = if x = k then c else m.component x
    rw [h.component x hx]
  keys := h.keys
  shared := by
    show g = g' ∨ Used (if a = k then c else l.component a)
    rw [if_neg hk.symm]
    exact hShared
  watched := h.watched

/-- The same member leaves both runs. -/
theorem Agree.drop {a : K} {l m : EventLoop K C G} (h : Agree Used capacity a l m) (k : K) :
    Agree Used capacity a (l.drop k) (m.drop k) where
  component := h.component
  keys := by
    rw [keys_drop, keys_drop, List.filter_comm, h.keys, List.filter_comm]
  shared := h.shared
  watched := by
    rw [keys_drop, keys_drop]
    refine h.watched.imp (fun hSame => by rw [hSame]) fun hSmall => ?_
    exact ⟨(List.length_filter_le _ _).trans hSmall.1, (List.length_filter_le _ _).trans hSmall.2⟩

/-- The handler of another member does the same in both runs. -/
theorem Agree.handled {a : K} {l m : EventLoop K C G} (h : Agree Used capacity a l m) {k : K}
    (hk : k ≠ a) {e : E} (hIgnores : Used (l.component a) → Ignores (handler e) (l.component k)) :
    ∃ (x : EStateM.Result ε C Verdict) (g g' : G),
      handler e (l.shared, l.component k) = mapState (fun c => (g, c)) x ∧
      handler e (m.shared, m.component k) = mapState (fun c => (g', c)) x ∧
      Agree Used capacity a (l.update k (g, finalState x)) (m.update k (g', finalState x)) := by
  rw [← h.component k hk]
  cases h.shared with
  -- the same shared state: the same result
  | inl hSame =>
    rw [hSame]
    have hSplit (r : EStateM.Result ε (G × C) Verdict) :
        r = mapState (fun c => ((finalState r).1, c)) (mapState Prod.snd r) := by
      cases r <;> rfl
    exact ⟨_, _, _, hSplit _, hSplit _, h.update hk _ (.inl rfl)⟩
  -- different ones, which the event does not see
  | inr hUsed =>
    obtain ⟨x, hEvery⟩ := hIgnores hUsed
    exact ⟨x, l.shared, m.shared, hEvery _, hEvery _, h.update hk _ (.inr hUsed)⟩

/-- **Another member is served** alike in both runs. -/
theorem serve_agree {a : K} {l m : EventLoop K C G} (h : Agree Used capacity a l m) {k : K}
    (hk : k ≠ a) {e : E} (hHarmless : Harmless Used capacity handler a l k e) :
    Related (Agree Used capacity a) (serve missing handler k e l)
      (serve missing handler k e m) := by
  unfold serve
  by_cases hMem : k ∈ m.keys
  · rw [if_pos (mem_keys.mpr ((h.mem_keys_iff hk).mpr hMem)), if_pos (mem_keys.mpr hMem)]
    obtain ⟨x, g, g', hl, hm, hAgree⟩ := h.handled hk (hHarmless.others hk)
    rw [hl, hm]
    cases x with
    | error f c => exact ⟨rfl, hAgree⟩
    | ok verdict c =>
      -- what a handler asks for is the same on both sides
      cases verdict with
      | keep => exact ⟨rfl, hAgree⟩
      | drop => exact ⟨rfl, hAgree.drop k⟩
      | stop => exact ⟨rfl, hAgree⟩
  · rw [if_neg fun hl => hMem ((h.mem_keys_iff hk).mp (mem_keys.mp hl)),
      if_neg fun hm => hMem (mem_keys.mp hm)]
    exact ⟨rfl, h⟩

/-- **An event of `a`** that is harmless has no counterpart. -/
theorem serve_harmless {a : K} {l m : EventLoop K C G} (h : Agree Used capacity a l m)
    (hMem : a ∈ l.keys) {e : E} (hHarmless : Harmless Used capacity handler a l a e) :
    ∃ l', serve missing handler a e l = .ok true l' ∧ Agree Used capacity a l' m := by
  obtain ⟨verdict, r, hOk, hGoesOn, hRoom, hUses⟩ := hHarmless.own rfl
  -- only `a`'s component changes, and the shared state if `a` is known to have used it
  have hUpdate : Agree Used capacity a (l.update a r) m := by
    refine ⟨fun x hx => ?_, h.keys, ?_, h.watched⟩
    · show (if x = a then r.2 else l.component x) = m.component x
      rw [if_neg hx, h.component x hx]
    · show r.1 = m.shared ∨ Used (if a = a then r.2 else l.component a)
      rw [if_pos rfl]
      by_cases hSame : r.1 = l.shared
      · rw [hSame]
        exact h.shared.imp_right fun hUsed => hUses (.inr hUsed)
      · exact .inr (hUses (.inl hSame))
  unfold serve
  rw [if_pos (mem_keys.mpr hMem), hOk]
  cases verdict with
  | keep => exact ⟨_, rfl, hUpdate⟩
  | drop =>
    have hSmall : l.keys.length ≤ capacity := hRoom rfl
    refine ⟨_, rfl, hUpdate.component, ?_, hUpdate.shared, .inr ⟨?_, ?_⟩⟩
    · rw [keys_drop, List.filter_filter]
      simpa using hUpdate.keys
    · rw [keys_drop]
      exact (List.length_filter_le _ _).trans hSmall
    · exact h.watched.elim (fun hSame => hSame ▸ hSmall) fun hBoth => hBoth.2
  | stop => exact absurd rfl hGoesOn

/-- Serving a member takes at most that member off the loop. -/
theorem mem_keys_of_serve {l l' : EventLoop K C G} {k x : K} {e : E} {running : Bool}
    (h : serve missing handler k e l = .ok running l') (hx : x ∈ l.keys) (hxk : x ≠ k) :
    x ∈ l'.keys := by
  unfold serve at h
  split at h
  · split at h <;> cases h
    · exact hx
    · rw [keys_drop]
      exact List.mem_filter.mpr ⟨hx, by simpa using hxk⟩
    · exact hx
  · cases h

/-- **A turn** with and without the events of `a`. -/
theorem serveAll_agree {a : K} {events : List (K × E)} :
    ∀ {l m : EventLoop K C G}, Agree Used capacity a l m → (events.map Prod.fst).Nodup →
      (∀ p ∈ events, p.1 ∈ l.keys) →
      AllServed missing handler (Harmless Used capacity handler a) events l →
      Related (Agree Used capacity a) (serveAll missing handler events l)
        (serveAll missing handler (events.filter fun p => p.1 ≠ a) m) := by
  -- on the events of the turn; those of `a` have no counterpart
  induction events with
  | nil => exact fun h _ _ _ => ⟨rfl, h⟩
  | cons p rest ih =>
    obtain ⟨k, e⟩ := p
    intro l m h hNodup hMem hServed
    rw [List.map_cons, List.nodup_cons] at hNodup
    -- the other members are still there, as no key comes twice
    have hRest {running : Bool} {l' : EventLoop K C G}
        (hServe : serve missing handler k e l = .ok running l') : ∀ p ∈ rest, p.1 ∈ l'.keys := by
      intro p hp
      refine mem_keys_of_serve hServe (hMem p (List.mem_cons_of_mem _ hp)) fun hSame => ?_
      exact hNodup.1 (List.mem_map.mpr ⟨p, hp, hSame⟩)
    by_cases hk : k = a
    -- an event of `a`: one step against none
    · subst hk
      have hHarmless : ∃ l', serve missing handler k e l = .ok true l' ∧
          Agree Used capacity k l' m := serve_harmless h (hMem _ List.mem_cons_self) hServed.1
      obtain ⟨l', hServe, hAgree⟩ := hHarmless
      rw [List.filter_cons_of_neg (by simp), serveAll, bind_run, hServe]
      simp only [Bool.true_and, bind_pure]
      exact ih hAgree hNodup.2 (hRest hServe) (hServed.2 _ _ hServe)
    -- another member's: one step against one, and they end alike
    · rw [List.filter_cons_of_pos (by simpa using hk), serveAll, serveAll]
      refine (serve_agree h hk hServed.1).bind fun running l' m' hServe hAgree => ?_
      refine (ih hAgree hNodup.2 (hRest hServe) (hServed.2 _ _ hServe)).bind ?_
      exact fun others l'' m'' _ hLast => ⟨rfl, hLast⟩

/-- The ready members are the same but for `a`. -/
theorem ready_without {a : K} {l m : EventLoop K C G} (h : Agree Used capacity a l m)
    (select : K → Option E) :
    ready capacity m (without a select) = (ready capacity l select).filter fun p => p.1 ≠ a := by
  -- both sides are the events of the keys other than `a`
  have hEvents (keys : List K) :
      keys.filterMap (fun k => (without a select k).map fun e => (k, e)) =
        (keys.filter (· ≠ a)).filterMap fun k => (select k).map fun e => (k, e) := by
    induction keys with
    | nil => rfl
    | cons k rest ih =>
      by_cases hk : k = a
      · rw [List.filter_cons_of_neg (by simpa using hk), List.filterMap_cons_none, ih]
        simp [without, hk]
      · rw [List.filter_cons_of_pos (by simpa using hk), List.filterMap_cons, List.filterMap_cons,
          ih, without, if_neg hk]
  have hFilter (keys : List K) :
      (keys.filterMap fun k => (select k).map fun e => (k, e)).filter (fun p => p.1 ≠ a) =
        (keys.filter (· ≠ a)).filterMap fun k => (select k).map fun e => (k, e) := by
    induction keys with
    | nil => rfl
    | cons k rest ih =>
      rw [List.filterMap_cons]
      by_cases hk : k = a
      · rw [List.filter_cons_of_neg (by simpa using hk)]
        cases select k with
        | none => exact ih
        | some e => exact (List.filter_cons_of_neg (by simpa using hk)).trans ih
      · rw [List.filter_cons_of_pos (by simpa using hk), List.filterMap_cons]
        cases select k with
        | none => exact ih
        | some e => exact (List.filter_cons_of_pos (by simpa using hk)).trans (by rw [ih]; rfl)
  -- the watched ones are everybody, or the same on both sides
  have hWatched : (m.keys.take capacity).filter (· ≠ a) =
      (l.keys.take capacity).filter (· ≠ a) := by
    cases h.watched with
    | inl hSame => rw [hSame]
    | inr hSmall =>
      rw [List.take_of_length_le hSmall.1, List.take_of_length_le hSmall.2, h.keys]
  unfold ready
  rw [hEvents, hFilter, hWatched]

theorem nodup_ready (capacity : Nat) (l : EventLoop K C G) (select : K → Option E) :
    ((ready capacity l select).map Prod.fst).Nodup := by
  -- the keys of a map come once
  have hKeys : (l.keys.take capacity).Nodup :=
    (l.members.sorted.imp fun h => ne_of_lt h).sublist (List.take_sublist _ _)
  refine List.Nodup.sublist ?_ hKeys
  unfold ready
  generalize l.keys.take capacity = keys
  induction keys with
  | nil => exact List.Sublist.slnil
  | cons k rest ih =>
    rw [List.filterMap_cons]
    cases select k with
    | none => exact ih.cons k
    | some e => exact ih.cons_cons k

theorem mem_keys_of_mem_ready {l : EventLoop K C G} {select : K → Option E} {p : K × E}
    (h : p ∈ ready capacity l select) : p.1 ∈ l.keys := by
  obtain ⟨k, hk, hSome⟩ := List.mem_filterMap.mp h
  obtain ⟨e, -, rfl⟩ := Option.map_eq_some_iff.mp hSome
  exact List.mem_of_mem_take hk

/-- **A run** with and without the events of `a`. -/
theorem run_agree {a : K} {selects : List (K → Option E)} :
    ∀ {l m : EventLoop K C G}, Agree Used capacity a l m →
      AlwaysServed capacity missing handler (Harmless Used capacity handler a) selects l →
      Related (Agree Used capacity a) (run capacity missing handler selects l)
        (run capacity missing handler (selects.map (without a)) m) := by
  -- on the turns: a turn ends alike, and the next one starts in agreement
  induction selects with
  | nil => exact fun h _ => ⟨rfl, h⟩
  | cons select rest ih =>
    intro l m h hServed
    have hTurn := serveAll_agree h (nodup_ready capacity l select)
      (fun _ => mem_keys_of_mem_ready) hServed.1
    rw [← ready_without h] at hTurn
    simp only [List.map_cons, run, bind_run, get_run]
    rw [← bind_run, ← bind_run]
    refine hTurn.bind fun running l' m' hServe hAgree => ?_
    cases running with
    | false => exact ⟨rfl, hAgree⟩
    | true => exact ih hAgree (hServed.2 l' hServe)

/-- **Separation.** When all events are harmless, those of `a` make no difference to the states
in which the others end. -/
theorem run_without {a : K} {l : EventLoop K C G} {selects : List (K → Option E)}
    (hHarmless : AlwaysServed capacity missing handler (Harmless Used capacity handler a)
      selects l) {k : K} (hk : k ≠ a) :
    (finalState (run capacity missing handler selects l)).component k =
      (finalState (run capacity missing handler (selects.map (without a)) l)).component k := by
  have hSelf : Agree Used capacity a l l := ⟨fun _ _ => rfl, rfl, .inl rfl, .inl rfl⟩
  exact (run_agree hSelf hHarmless).finalState.component k hk

end Separation

end EventLoop
