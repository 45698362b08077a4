import Giblet.Lib.Journal
import Giblet.YMsg.ConnectionPump

/-!
# YMsg — one iteration of the pump

`Pump` fills an `fd_set` with the sockets that are attached, asks `select`
which of them are ready, and calls their callbacks, which may attach further
sockets and ask for their own to be removed. An `fd_set` holds 64 sockets;
`FD_SET` leaves out any more without a word.

* `serveAll_follows` — the calls of an iteration, and what is attached after them.
* `serves_iff` — the iterations that serve every attached socket.
* `iteration_toLoop` — a turn of the event loop is such an iteration, in which the callbacks
  attach nothing.
-/

namespace Giblet.YMsg

open Effect Journal

variable {σ κ : Type}

/-! ## The pump and its callbacks -/

/-- What the call of a callback comes to: the sockets it attaches, in order, and its outcome. -/
structure Answer (σ κ : Type) where
  attached : List (Nat × κ)
  outcome : EStateM.Result Fault σ Bool

/-- A call that was made; what it answered is `none` when it threw. -/
structure Call (κ : Type) where
  callback : κ
  socket : Nat
  size : Nat
  attached : List (Nat × κ)
  answered : Option Bool

/-- `ConnectionPump` with everything its callbacks work on, and the calls that were made. -/
structure CallbackPump (σ κ : Type) where
  onDateCallbacks_ : OrderedMap Nat κ
  world : σ
  calls : List (Call κ)

namespace CallbackPump

/-- `ConnectionPump::AttachSocket`. -/
def attachSocket (callbacks : OrderedMap Nat κ) (socket : Nat) (onData : κ) : OrderedMap Nat κ :=
  callbacks.assign socket onData

/-- `FD_SET`: a socket that is there is not added again, and a full set takes no more. -/
def fdSet (readfds : List Nat) (socket : Nat) : List Nat :=
  if socket ∈ readfds then readfds
  else if readfds.length < ConnectionPump.FD_SETSIZE then readfds ++ [socket]
  else readfds

/-- The sockets that are attached, in order. -/
def sockets (callbacks : OrderedMap Nat κ) : List Nat := callbacks.entries.map Prod.fst

section Running

variable (invoke : κ → Nat → Nat → σ → Answer σ κ) (ioctlsocket : Nat → Option Nat)
  (select : List Nat → Int × List Nat)

/-- The body of the loop over `readfds`; answers whether the pump goes on. -/
def serve (currentSocket : Nat) : Action (CallbackPump σ κ) Bool := fun p =>
  match p.onDateCallbacks_.find? currentSocket with
  | none => .error ConnectionPump.unableToFind p
  | some callback =>
    match ioctlsocket currentSocket with
    -- `SOCKET_ERROR`: the others are still served
    | none => .ok false p
    | some incomingSize =>
      let answer := invoke callback currentSocket incomingSize p.world
      let callbacks := answer.attached.foldl (fun m a => attachSocket m a.1 a.2) p.onDateCallbacks_
      let call := ⟨callback, currentSocket, incomingSize, answer.attached, value? answer.outcome⟩
      let after := ⟨callbacks, finalState answer.outcome, p.calls ++ [call]⟩
      match answer.outcome with
      | .error e _ => .error e after
      | .ok true _ => .ok true after
      -- the iterator is still valid, whatever the callback attached
      | .ok false _ => .ok true { after with onDateCallbacks_ := callbacks.erase currentSocket }

/-- The loop over `readfds`. -/
def serveAll : List Nat → Action (CallbackPump σ κ) Bool
  | [] => pure true
  | currentSocket :: rest => do
    let run ← serve invoke ioctlsocket currentSocket
    let others ← serveAll rest
    pure (run && others)

/-- One iteration of `ConnectionPump::Pump`. -/
def iteration : Action (CallbackPump σ κ) Bool := fun p =>
  let readfds := (sockets p.onDateCallbacks_).foldl fdSet []
  let (result, ready) := select readfds
  if result > 0 then serveAll invoke ioctlsocket ready p
  else .ok true p

end Running

/-! ## What is attached after some calls -/

/-- An event of a pump's map. -/
inductive Event (κ : Type)
  | attach (socket : Nat) (callback : κ)
  | remove (socket : Nat)

namespace Event

/-- What the event says about a socket. -/
def about (x : Nat) : Event κ → Option (Option κ)
  | attach socket callback => if socket = x then some (some callback) else none
  | remove socket => if socket = x then some none else none

/-- What the event does to the map. -/
def apply (callbacks : OrderedMap Nat κ) : Event κ → OrderedMap Nat κ
  | attach socket callback => attachSocket callbacks socket callback
  | remove socket => callbacks.erase socket

theorem find?_apply (x : Nat) (callbacks : OrderedMap Nat κ) (e : Event κ) :
    (e.apply callbacks).find? x = (e.about x).getD (callbacks.find? x) := by
  cases e with
  | attach socket callback =>
    show (callbacks.assign socket callback).find? x = _
    rw [OrderedMap.find?_assign, about]
    by_cases hSame : socket = x
    · rw [if_pos hSame, if_pos hSame.symm, Option.getD_some]
    · rw [if_neg hSame, if_neg (Ne.symm hSame), Option.getD_none]
  | remove socket =>
    show (callbacks.erase socket).find? x = _
    rw [OrderedMap.find?_erase, about]
    by_cases hSame : socket = x
    · rw [if_pos hSame, if_pos hSame.symm, Option.getD_some]
    · rw [if_neg hSame, if_neg (Ne.symm hSame), Option.getD_none]

end Event

/-- The events of a call: what it attaches, and then its own socket, if it answers false. -/
def events (call : Call κ) : List (Event κ) :=
  call.attached.map (fun a => .attach a.1 a.2) ++
    if call.answered = some false then [.remove call.socket] else []

/-- What is attached to a socket after some calls: the callback that was attached last, unless
the socket's own call then answered false; and what was attached before, if neither happened. -/
def attachedAfter (callbacks : OrderedMap Nat κ) (calls : List (Call κ)) (x : Nat) : Option κ :=
  (lastAbout (Event.about x) (calls.flatMap events)).getD (callbacks.find? x)

theorem attachedAfter_snoc {callbacks : OrderedMap Nat κ} {calls : List (Call κ)}
    {m : OrderedMap Nat κ} (h : ∀ x, m.find? x = attachedAfter callbacks calls x) (call : Call κ)
    (x : Nat) :
    ((events call).foldl Event.apply m).find? x = attachedAfter callbacks (calls ++ [call]) x := by
  unfold attachedAfter at h ⊢
  rw [observe_foldl (f := fun m : OrderedMap Nat κ => m.find? x) (Event.find?_apply x), h,
    List.flatMap_append, List.flatMap_singleton, lastAbout_append, Option.getD_or]

/-- Nobody is taken off the map but by an event that says so. -/
theorem attached_foldl {es : List (Event κ)} {y : Nat} (hes : ∀ e ∈ es, e.about y ≠ some none)
    {m : OrderedMap Nat κ} (h : m.contains y = true) :
    (es.foldl Event.apply m).contains y = true := by
  rw [OrderedMap.contains_eq_isSome] at h ⊢
  rw [observe_foldl (f := fun m : OrderedMap Nat κ => m.find? y) (Event.find?_apply y)]
  cases hLast : lastAbout (Event.about y) es with
  | none => exact h
  | some v =>
    obtain ⟨before, e, after, rfl, hAbout, -⟩ := lastAbout_eq_some_iff.mp hLast
    cases v with
    | none => exact absurd hAbout (hes e (by simp))
    | some callback => rfl

/-- A call only takes its own socket off the map. -/
theorem about_events {call : Call κ} {y : Nat} (hOther : y ≠ call.socket) :
    ∀ e ∈ events call, e.about y ≠ some none := by
  intro e he
  rcases List.mem_append.mp he with hAttach | hRemove
  · obtain ⟨a, -, rfl⟩ := List.mem_map.mp hAttach
    show (if _ then _ else _) ≠ _
    split <;> simp
  · split at hRemove
    · obtain rfl := List.mem_singleton.mp hRemove
      show (if _ then _ else _) ≠ _
      rw [if_neg (Ne.symm hOther)]
      simp
    · cases hRemove

/-! ## The calls of an iteration -/

/-- The pump after a call. -/
def afterCall (p : CallbackPump σ κ) (call : Call κ) (world : σ) : CallbackPump σ κ :=
  ⟨(events call).foldl Event.apply p.onDateCallbacks_, world, p.calls ++ [call]⟩

section Running

variable {invoke : κ → Nat → Nat → σ → Answer σ κ} {ioctlsocket : Nat → Option Nat}

/-- **What the body of the loop does**: one call, whose events happen also when it throws. -/
theorem serve_run {p : CallbackPump σ κ} {x size : Nat} {callback : κ}
    (hFind : p.onDateCallbacks_.find? x = some callback) (hSize : ioctlsocket x = some size) :
    ∃ call : Call κ, call.callback = callback ∧ call.socket = x ∧ call.size = size ∧
      call.answered = value? (invoke callback x size p.world).outcome ∧
      serve invoke ioctlsocket x p =
        match (invoke callback x size p.world).outcome with
        | .error e world => .error e (p.afterCall call world)
        | .ok _ world => .ok true (p.afterCall call world) := by
  refine ⟨⟨callback, x, size, (invoke callback x size p.world).attached,
    value? (invoke callback x size p.world).outcome⟩, rfl, rfl, rfl, rfl, ?_⟩
  unfold serve afterCall events
  simp only [hFind, hSize]
  cases (invoke callback x size p.world).outcome with
  | error e world =>
    simp [value?, List.foldl_map, Event.apply]
  | ok stays world =>
    cases stays <;> simp [value?, List.foldl_map, List.foldl_append, Event.apply]

/-- The calls so far explain what is attached, and each of them was made to the callback that
was attached to its socket. -/
structure Follows (callbacks : OrderedMap Nat κ) (p : CallbackPump σ κ) : Prop where
  attached : ∀ x, p.onDateCallbacks_.find? x = attachedAfter callbacks p.calls x
  called : ∀ before call after, p.calls = before ++ call :: after →
    attachedAfter callbacks before call.socket = some call.callback

theorem Follows.start (callbacks : OrderedMap Nat κ) (world : σ) :
    Follows callbacks ⟨callbacks, world, []⟩ where
  attached _ := rfl
  called before call after h := by simp at h

theorem Follows.afterCall {callbacks : OrderedMap Nat κ} {p : CallbackPump σ κ}
    (h : Follows callbacks p) {call : Call κ}
    (hFind : p.onDateCallbacks_.find? call.socket = some call.callback) (world : σ) :
    Follows callbacks (p.afterCall call world) where
  attached := attachedAfter_snoc h.attached call
  called before c after hSplit := by
    -- the new call is the last one, or the split is one of the old calls
    change p.calls ++ [call] = before ++ c :: after at hSplit
    induction after using List.reverseRecOn with
    | nil =>
      obtain ⟨rfl, hLast⟩ := List.append_inj' hSplit rfl
      obtain rfl := List.singleton_inj.mp hLast
      rw [← h.attached, hFind]
    | append_singleton after last _ =>
      have hInit : p.calls = before ++ c :: after := by
        have hSplit' : p.calls ++ [call] = (before ++ c :: after) ++ [last] := by
          rw [hSplit]
          simp
        exact (List.append_inj' hSplit' rfl).1
      exact h.called before c after hInit

/-- A call that throws is the last one. -/
theorem serveAll_cons_error {x : Nat} {rest : List Nat} {p t : CallbackPump σ κ} {e : Fault}
    (hServe : serve invoke ioctlsocket x p = .error e t) :
    serveAll invoke ioctlsocket (x :: rest) p = .error e t := by
  rw [serveAll, bind_run, hServe]

theorem serveAll_cons_ok {x : Nat} {rest : List Nat} {p t : CallbackPump σ κ}
    (hServe : serve invoke ioctlsocket x p = .ok true t) :
    serveAll invoke ioctlsocket (x :: rest) p = serveAll invoke ioctlsocket rest t := by
  rw [serveAll, bind_run, hServe]
  dsimp only
  rw [bind_run]
  cases serveAll invoke ioctlsocket rest t <;> rfl

/-- **The loop** makes one call for each socket, in order, if none of them throws. -/
theorem serveAll_follows {callbacks : OrderedMap Nat κ} {ready : List Nat}
    {p : CallbackPump σ κ} (hFollows : Follows callbacks p) (hDistinct : ready.Nodup)
    (hAttached : ∀ x ∈ ready, p.onDateCallbacks_.contains x = true)
    (hSizes : ∀ x ∈ ready, (ioctlsocket x).isSome = true)
    (hReturn : ∀ call ∈ (finalState (serveAll invoke ioctlsocket ready p)).calls,
      call.answered ≠ none) :
    ∃ p', serveAll invoke ioctlsocket ready p = .ok true p' ∧ Follows callbacks p' ∧
      p'.calls.map Call.socket = p.calls.map Call.socket ++ ready := by
  induction ready generalizing p with
  | nil => exact ⟨p, rfl, hFollows, (List.append_nil _).symm⟩
  | cons x rest ih =>
    rw [List.nodup_cons] at hDistinct
    obtain ⟨hThere, hOthers⟩ := List.forall_mem_cons.mp hAttached
    obtain ⟨size, hSize⟩ := Option.isSome_iff_exists.mp (hSizes x List.mem_cons_self)
    rw [OrderedMap.contains_eq_isSome, Option.isSome_iff_exists] at hThere
    obtain ⟨callback, hFind⟩ := hThere
    obtain ⟨call, rfl, rfl, -, hAnswered, hServe⟩ :=
      @serve_run σ κ invoke ioctlsocket p x size callback hFind hSize
    cases hOutcome : (invoke call.callback call.socket size p.world).outcome with
    | error e world =>
      -- but the call that throws was made
      rw [hOutcome] at hAnswered hServe
      rw [serveAll_cons_error hServe] at hReturn
      exact absurd hAnswered (hReturn call (List.mem_append_right _ List.mem_cons_self))
    | ok stays world =>
      have hNext : ∀ y ∈ rest, (p.afterCall call world).onDateCallbacks_.contains y = true := by
        intro y hy
        have hOther : y ≠ call.socket := fun hSame => hDistinct.1 (hSame ▸ hy)
        exact attached_foldl (about_events hOther) (hOthers y hy)
      rw [hOutcome] at hServe
      rw [serveAll_cons_ok hServe] at hReturn ⊢
      obtain ⟨p', hRest, hFollows', hSockets⟩ := ih (hFollows.afterCall hFind world) hDistinct.2
        hNext (fun y hy => hSizes y (List.mem_cons_of_mem _ hy)) hReturn
      refine ⟨p', hRest, hFollows', ?_⟩
      rw [hSockets, CallbackPump.afterCall, List.map_append, List.append_assoc]
      rfl

end Running

/-! ## The set of sockets -/

/-- An `fd_set` that is filled with distinct sockets holds the first 64 of them. -/
theorem foldl_fdSet {sockets readfds : List Nat} (hDistinct : (readfds ++ sockets).Nodup)
    (hRoom : readfds.length ≤ ConnectionPump.FD_SETSIZE) :
    sockets.foldl fdSet readfds =
      readfds ++ sockets.take (ConnectionPump.FD_SETSIZE - readfds.length) := by
  induction sockets generalizing readfds with
  | nil => rw [List.foldl_nil, List.take_nil, List.append_nil]
  | cons x rest ih =>
    have hNew : x ∉ readfds := by
      rw [List.nodup_append] at hDistinct
      exact fun hMem => hDistinct.2.2 x hMem x List.mem_cons_self rfl
    rw [List.foldl_cons, fdSet, if_neg hNew]
    by_cases hFull : readfds.length < ConnectionPump.FD_SETSIZE
    · rw [if_pos hFull, ih (by simpa using hDistinct) (by simpa using Nat.succ_le_of_lt hFull),
        List.length_append, List.append_assoc]
      have hTake : ConnectionPump.FD_SETSIZE - readfds.length =
          ConnectionPump.FD_SETSIZE - (readfds.length + 1) + 1 := by omega
      rw [hTake, List.take_succ_cons]
      rfl
    -- a full set stays as it is
    · have hNone : ConnectionPump.FD_SETSIZE - readfds.length = 0 := by omega
      rw [if_neg hFull, ih (hDistinct.sublist ?_) hRoom, hNone, List.take_zero, List.take_zero]
      exact (List.sublist_cons_self x rest).append_left _

theorem sockets_nodup (callbacks : OrderedMap Nat κ) : (sockets callbacks).Nodup :=
  callbacks.sorted.imp ne_of_lt

theorem readfds_eq (callbacks : OrderedMap Nat κ) :
    (sockets callbacks).foldl fdSet [] = (sockets callbacks).take ConnectionPump.FD_SETSIZE :=
  foldl_fdSet (sockets_nodup callbacks) (Nat.zero_le _)

/-! ## Result -/

/-- `select` keeps the sockets that are ready, in any order, and answers how many there are. -/
def KeepsReady (select : List Nat → Int × List Nat) (ready : Nat → Bool) : Prop :=
  ∀ readfds, (select readfds).2.Perm (readfds.filter ready) ∧
    (0 < (select readfds).1 ↔ (select readfds).2 ≠ [])

/-- An iteration serves every attached socket: it calls the callback of each one that is
ready, once, and no other; and afterwards the sockets are attached as the calls left them. -/
structure Serves (callbacks : OrderedMap Nat κ) (ready : Nat → Bool)
    (outcome : EStateM.Result Fault (CallbackPump σ κ) Bool) : Prop where
  returns : returned outcome = true
  once : ((finalState outcome).calls.map Call.socket).Nodup
  served : ∀ x, x ∈ (finalState outcome).calls.map Call.socket ↔
    callbacks.contains x = true ∧ ready x = true
  called : ∀ before call after, (finalState outcome).calls = before ++ call :: after →
    attachedAfter callbacks before call.socket = some call.callback
  attached : ∀ x, (finalState outcome).onDateCallbacks_.find? x =
    attachedAfter callbacks (finalState outcome).calls x

section Iterations

variable (invoke : κ → Nat → Nat → σ → Answer σ κ) {ioctlsocket : Nat → Option Nat}
  {select : List Nat → Int × List Nat} {ready : Nat → Bool}

/-- An iteration is the loop over what `select` keeps. -/
theorem iteration_eq (hSelect : KeepsReady select ready) (p : CallbackPump σ κ) :
    iteration invoke ioctlsocket select p =
      serveAll invoke ioctlsocket
        (select ((sockets p.onDateCallbacks_).take ConnectionPump.FD_SETSIZE)).2 p := by
  unfold iteration
  rw [readfds_eq]
  generalize (sockets p.onDateCallbacks_).take ConnectionPump.FD_SETSIZE = readfds
  by_cases hResult : 0 < (select readfds).1
  · exact if_pos hResult
  · have hNone : (select readfds).2 = [] := by
      by_contra hSome
      exact hResult ((hSelect readfds).2.mpr hSome)
    rw [hNone]
    exact if_neg hResult

/-- **An iteration serves every attached socket** exactly when those that are ready are among
the first 64; provided that no `ioctlsocket` fails and no callback throws. -/
theorem serves_iff (hSelect : KeepsReady select ready) (callbacks : OrderedMap Nat κ) (world : σ)
    (hSizes : ∀ x ∈ (select ((sockets callbacks).foldl fdSet [])).2, (ioctlsocket x).isSome = true)
    (hReturn : ∀ call ∈
      (finalState (iteration invoke ioctlsocket select ⟨callbacks, world, []⟩)).calls,
      call.answered ≠ none) :
    Serves callbacks ready (iteration invoke ioctlsocket select ⟨callbacks, world, []⟩) ↔
      ∀ x, callbacks.contains x = true → ready x = true →
        x ∈ (sockets callbacks).take ConnectionPump.FD_SETSIZE := by
  rw [readfds_eq] at hSizes
  rw [iteration_eq invoke hSelect] at hReturn ⊢
  have hPerm := (hSelect ((sockets callbacks).take ConnectionPump.FD_SETSIZE)).1
  dsimp only at hReturn ⊢
  generalize (select ((sockets callbacks).take ConnectionPump.FD_SETSIZE)).2 = kept
    at hPerm hSizes hReturn ⊢
  have hKept (x : Nat) : x ∈ kept ↔
      x ∈ (sockets callbacks).take ConnectionPump.FD_SETSIZE ∧ ready x = true := by
    rw [hPerm.mem_iff, List.mem_filter]
  have hContains (x : Nat) (hx : x ∈ kept) : callbacks.contains x = true :=
    OrderedMap.contains_eq_true_iff.mpr (List.mem_of_mem_take ((hKept x).mp hx).1)
  have hDistinct : kept.Nodup :=
    hPerm.nodup_iff.mpr (((sockets_nodup callbacks).sublist (List.take_sublist _ _)).filter _)
  obtain ⟨p', hRun, hFollows, hSockets⟩ :=
    serveAll_follows (Follows.start callbacks world) hDistinct hContains hSizes hReturn
  rw [hRun] at hReturn ⊢
  rw [List.map_nil, List.nil_append] at hSockets
  constructor
  · intro hServes x hThere hReady
    have hCalled := (hServes.served x).mpr ⟨hThere, hReady⟩
    rw [finalState_ok, hSockets] at hCalled
    exact ((hKept x).mp hCalled).1
  · intro hFirst
    refine ⟨rfl, ?_, fun x => ?_, hFollows.called, hFollows.attached⟩
    · rw [finalState_ok, hSockets]
      exact hDistinct
    · rw [finalState_ok, hSockets]
      exact ⟨fun hx => ⟨hContains x hx, ((hKept x).mp hx).2⟩,
        fun h => (hKept x).mpr ⟨hFirst x h.1 h.2, h.2⟩⟩

/-- Two sockets are ready: one asks to be removed, and the other attaches a third. -/
theorem serves_iff_third :
    Serves (κ := Bool) (σ := Unit)
      (attachSocket (attachSocket (attachSocket .empty 3 false) 5 true) 7 true)
      (fun x => decide (x < 7))
      (iteration (fun stays socket _ _ => ⟨if stays then [(socket + 4, false)] else [],
          .ok stays ()⟩) (fun _ => some 20)
        (fun readfds =>
          ((readfds.filter (decide <| · < 7)).length, readfds.filter (decide <| · < 7)))
        ⟨attachSocket (attachSocket (attachSocket .empty 3 false) 5 true) 7 true, (), []⟩) := by
  refine (serves_iff _ (fun readfds => ⟨.rfl, ?_⟩) _ _ (fun _ _ => rfl) ?_).mpr ?_
  · rw [Int.natCast_pos, List.length_pos_iff]
  · decide +kernel
  · intro x hThere _
    exact OrderedMap.contains_eq_true_iff.mp hThere

/-- The socket past the sixty-fourth is ready, and nobody serves it. -/
theorem sixty_fifth_not_served :
    ¬ ∀ (σ κ : Type) (invoke : κ → Nat → Nat → σ → Answer σ κ) (ioctlsocket : Nat → Option Nat)
      (select : List Nat → Int × List Nat) (ready : Nat → Bool), KeepsReady select ready →
      ∀ (callbacks : OrderedMap Nat κ) (world : σ),
        (∀ x ∈ (select ((sockets callbacks).foldl fdSet [])).2, (ioctlsocket x).isSome = true) →
        (∀ call ∈
          (finalState (iteration invoke ioctlsocket select ⟨callbacks, world, []⟩)).calls,
          call.answered ≠ none) →
        Serves callbacks ready (iteration invoke ioctlsocket select ⟨callbacks, world, []⟩) := by
  intro hEvery
  have hServes := hEvery Unit Unit (fun _ _ _ _ => ⟨[], .ok true ()⟩) (fun _ => some 20)
    (fun readfds => ((readfds.filter (· == 64)).length, readfds.filter (· == 64))) (· == 64)
    (fun readfds => ⟨.rfl, by rw [Int.natCast_pos, List.length_pos_iff]⟩)
    ((List.range 65).foldl (fun callbacks socket => attachSocket callbacks socket ()) .empty) ()
    (fun _ _ => rfl) (by decide +kernel)
  have hCalled := (hServes.served 64).mpr ⟨by decide +kernel, rfl⟩
  revert hCalled
  decide +kernel

end Iterations

/-! ## The event loop -/

section Loop

variable (derived : Derived σ) (readiness : Nat → Readiness)

/-- The callback of a client's socket, which attaches nothing. -/
def onData (_ : Unit) (socket incomingSize : Nat) (world : Nat × (Nat → Client σ)) :
    Answer (Nat × (Nat → Client σ)) Unit where
  attached := []
  outcome := mapState (fun s => (s.1, fun x => if x = socket then s.2 else world.2 x))
    (Client.onData derived (readiness socket).env incomingSize (readiness socket).received
      (world.1, world.2 socket))

/-- The pump of clients, without its calls. -/
def toLoop (p : CallbackPump (Nat × (Nat → Client σ)) Unit) : ConnectionPump σ :=
  ⟨p.onDateCallbacks_, p.world.2, p.world.1⟩

/-- What comes of a socket that is ready. -/
theorem onReady_some {env : Env} {incomingSize : Nat} {received : Option Bytes}
    (s : Nat × Client σ) :
    Client.onReady derived ⟨env, some incomingSize, received⟩ s =
      match Client.onData derived env incomingSize received s with
      | .error e t => .error e t
      | .ok stays t => .ok (if stays then .keep else .drop) t := by
  show (Client.onData derived env incomingSize received >>= fun stays =>
    if stays then pure Verdict.keep else pure Verdict.drop) s = _
  rw [bind_run]
  cases Client.onData derived env incomingSize received s with
  | error e t => rfl
  | ok stays t => cases stays <;> rfl

/-- The body of the loop over the sockets that are ready. -/
theorem serve_toLoop (socket : Nat) (p : CallbackPump (Nat × (Nat → Client σ)) Unit) :
    EventLoop.serve ConnectionPump.unableToFind (Client.onReady derived) socket
        (readiness socket) p.toLoop =
      mapState toLoop
        (serve (onData derived readiness) (fun x => (readiness x).incomingSize) socket p) := by
  have hContains : p.toLoop.members.contains socket = true ↔
      (p.onDateCallbacks_.find? socket).isSome = true := by
    rw [← OrderedMap.contains_eq_isSome]
    rfl
  unfold EventLoop.serve serve
  cases hFind : p.onDateCallbacks_.find? socket with
  | none =>
    rw [hFind] at hContains
    rw [if_neg fun hThere => absurd (hContains.mp hThere) (by decide)]
    rfl
  | some callback =>
    rw [hFind] at hContains
    rw [if_pos (hContains.mpr rfl)]
    dsimp only [onData]
    obtain ⟨env, size, received⟩ := readiness socket
    cases size with
    -- the client stays as it is
    | none => exact congrArg (EStateM.Result.ok false) (EventLoop.update_self p.toLoop socket)
    | some incomingSize =>
      have hState : (p.toLoop.shared, p.toLoop.component socket) =
          (p.world.1, p.world.2 socket) := rfl
      rw [onReady_some, hState]
      dsimp only
      cases Client.onData derived env incomingSize received (p.world.1, p.world.2 socket) with
      | error e t => rfl
      | ok stays t => cases stays <;> rfl

/-- The loop over the sockets that are ready. -/
theorem serveAll_toLoop (ready : List Nat) (p : CallbackPump (Nat × (Nat → Client σ)) Unit) :
    EventLoop.serveAll ConnectionPump.unableToFind (Client.onReady derived)
        (ready.map fun x => (x, readiness x)) p.toLoop =
      mapState toLoop
        (serveAll (onData derived readiness) (fun x => (readiness x).incomingSize) ready p) := by
  induction ready generalizing p with
  | nil => rfl
  | cons x rest ih =>
    rw [List.map_cons, EventLoop.serveAll, serveAll, bind_run, bind_run, serve_toLoop]
    cases serve (onData derived readiness) (fun x => (readiness x).incomingSize) x p with
    | error e t => rfl
    | ok run t =>
      dsimp only [mapState]
      rw [bind_run, bind_run, ih]
      cases serveAll (onData derived readiness) (fun x => (readiness x).incomingSize) rest t <;> rfl

/-- **A turn of the event loop** is an iteration, in which `select` keeps the order. -/
theorem iteration_toLoop (ready : Nat → Bool) (p : CallbackPump (Nat × (Nat → Client σ)) Unit) :
    EventLoop.serveAll ConnectionPump.unableToFind (Client.onReady derived)
        (EventLoop.ready ConnectionPump.FD_SETSIZE p.toLoop fun x =>
          if ready x then some (readiness x) else none) p.toLoop =
      mapState toLoop
        (iteration (onData derived readiness) (fun x => (readiness x).incomingSize)
          (fun readfds => ((readfds.filter ready).length, readfds.filter ready)) p) := by
  have hSelect : KeepsReady
      (fun readfds => (((readfds.filter ready).length : Int), readfds.filter ready)) ready :=
    fun readfds => ⟨.rfl, by rw [Int.natCast_pos, List.length_pos_iff]⟩
  rw [iteration_eq _ hSelect, EventLoop.ready_eq_map, serveAll_toLoop]
  rfl

end Loop

end CallbackPump

end Giblet.YMsg
