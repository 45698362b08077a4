import Giblet.Lib.Run
import Giblet.YahooWeb.Replies

/-!
# YahooWeb — a connection that is polled

`mg_poll_server` goes around its connections: it reads from a socket that has
something, writes to one that takes something, as much as it takes, and closes
a connection that is at its end or has been silent for too long.

* `polled_conserves` — nothing of what the answers ask for is lost or doubled.
* `polled_drains` — it is all sent, as long as the client keeps reading.
-/

namespace Giblet.YahooWeb

open Effect Intake Run

/-! ## Iterations -/

/-- What a call of `recv` comes to; `failed` is also the end of the stream. -/
inductive Received
  | again
  | data (chunk : Bytes)
  | failed
  deriving DecidableEq, Repr

/-- What a call of `send` comes to. -/
inductive Taken
  | again
  | data (n : Nat)
  | failed
  deriving DecidableEq, Repr

/-- What an iteration finds: the time in seconds, and what comes of the socket if it is ready. -/
structure Ready where
  current_time : Int
  received : Option Received
  taken : Option Taken
  deriving DecidableEq, Repr

/-- `IDLE_TIMEOUT_MS`, in seconds. -/
def idleTimeout : Int := 30

/-- A connection, with what is shared with its handlers; `sent` is a log of what was sent, `failed`
is a `CONN_CLOSE` because of the socket, and `closed` is after `close_conn`. -/
structure Polled where
  conn : Connection
  exchange : Exchange
  remote_iobuf : Bytes
  sent : Bytes
  last_activity_time : Int
  failed : Bool
  closed : Bool
  deriving DecidableEq, Repr

/-- A connection that was accepted. -/
def Polled.accepted (current_time : Int) : Polled where
  conn := .accepted
  exchange := ⟨⟨[], []⟩, []⟩
  remote_iobuf := []
  sent := []
  last_activity_time := current_time
  failed := false
  closed := false

/-- A request went to a part of the server that is left out. -/
def Answer.isLeftOut : Answer → Bool
  | .leftOut _ => true
  | _ => false

section Poll

variable (uri_handlers : List Bytes) (handlers_ : OrderedMap Bytes HandlerFunction)

/-- `read_from_client`. A handler that throws ends the server, and what the part that is left out
sends is not known. -/
def pollRead (s : Polled) : Received → Option Polled
  | .again => some s
  | .failed => some { s with failed := true }
  | .data chunk => do
    let conn ← readFromClient uri_handlers s.conn chunk
    let answers := conn.answers.drop s.conn.answers.length
    if answers.any Answer.isLeftOut then none
    else match sentFor handlers_ answers s.exchange with
      | .error _ _ => none
      | .ok sents exchange =>
        some { s with conn, exchange, remote_iobuf := s.remote_iobuf ++ spooledText sents }

/-- `write_to_client`. -/
def pollWrite (s : Polled) : Taken → Polled
  | .again => s
  | .failed => { s with failed := true }
  | .data n =>
    { s with remote_iobuf := s.remote_iobuf.drop n, sent := s.sent ++ s.remote_iobuf.take n }

/-- The end of an iteration; a connection that is not kept is closed when all was sent. -/
def pollClose (current_time : Int) (s : Polled) : Polled :=
  { s with closed := s.failed || s.conn.closing && s.remote_iobuf.isEmpty ||
      decide (s.last_activity_time < current_time - idleTimeout) }

/-- The part of an iteration that reads. -/
def pollReadable (s : Polled) (ready : Ready) : Option Polled :=
  match ready.received with
  | none => some s
  | some received =>
    pollRead uri_handlers handlers_ { s with last_activity_time := ready.current_time } received

/-- The part of an iteration that writes; the socket is looked at for this only if something was
spooled before. -/
def pollWritable (before : Bytes) (s : Polled) (ready : Ready) : Polled :=
  match ready.taken with
  | none => s
  | some taken =>
    if before = [] then s else pollWrite { s with last_activity_time := ready.current_time } taken

/-- What `mg_poll_server` does with one of its connections. -/
def pollConnection (s : Polled) (ready : Ready) : Option Polled :=
  (pollReadable uri_handlers handlers_ s ready).map fun t =>
    pollClose ready.current_time (pollWritable s.remote_iobuf t ready)

/-- An iteration of a connection that is still there. -/
def Polls (s : Polled) (ready : Ready) (t : Polled) : Prop :=
  s.closed = false ∧ pollConnection uri_handlers handlers_ s ready = some t

end Poll

/-- The bytes that arrive. -/
def Received.arrived : Received → List Bytes
  | .data chunk => [chunk]
  | _ => []

/-- The bytes that an iteration finds. -/
def Ready.arrived (ready : Ready) : List Bytes :=
  match ready.received with
  | none => []
  | some received => received.arrived

/-- The socket fails in an iteration. -/
def Ready.Fails (ready : Ready) : Prop := ready.received = some .failed ∨ ready.taken = some .failed

/-! ## What is kept -/

section Conserves

variable {uri_handlers : List Bytes} {handlers_ : OrderedMap Bytes HandlerFunction}

theorem sentFor_append {answers more : List Answer} {sents later : List (Answer × List Bytes)}
    {e e' e'' : Exchange} (h : sentFor handlers_ answers e = .ok sents e')
    (hMore : sentFor handlers_ more e' = .ok later e'') :
    sentFor handlers_ (answers ++ more) e = .ok (sents ++ later) e'' := by
  induction answers generalizing sents e with
  | nil =>
    cases h
    exact hMore
  | cons a answers ih =>
    obtain ⟨sent, t, hFirst, hRest⟩ := bind_eq_ok h
    obtain ⟨others, t', hOthers, hEnd⟩ := bind_eq_ok hRest
    cases hEnd
    rw [List.cons_append, sentFor, bind_run, hFirst]
    dsimp only
    rw [bind_run, ih hOthers]
    rfl

/-- What holds of a connection to which some chunks have come, with what was sent for each of its
answers. -/
structure Conserves (uri_handlers : List Bytes) (handlers_ : OrderedMap Bytes HandlerFunction)
    (chunks : List Bytes) (s : Polled) (sents : List (Answer × List Bytes)) : Prop where
  read : readFromClients uri_handlers .accepted chunks = some s.conn
  mine : ∀ request, .leftOut request ∉ s.conn.answers
  called : sentFor handlers_ s.conn.answers ⟨⟨[], []⟩, []⟩ = .ok sents s.exchange
  spooled : s.sent ++ s.remote_iobuf = spooledText sents

section Step

variable {chunks : List Bytes} {s t : Polled} {ready : Ready} {sents : List (Answer × List Bytes)}

/-- `Conserves` is not about the time. -/
theorem Conserves.at_time (h : Conserves uri_handlers handlers_ chunks s sents) (now : Int) :
    Conserves uri_handlers handlers_ chunks { s with last_activity_time := now } sents :=
  ⟨h.read, h.mine, h.called, h.spooled⟩

/-- Reading adds to what is spooled. -/
theorem pollRead_conserves {received : Received}
    (h : Conserves uri_handlers handlers_ chunks s sents)
    (hRead : pollRead uri_handlers handlers_ s received = some t) :
    ∃ sents', Conserves uri_handlers handlers_ (chunks ++ received.arrived) t sents' ∧
      (t.failed = true → s.failed = true ∨ received = .failed) := by
  cases received with
  | again =>
    cases hRead
    rw [show chunks ++ Received.again.arrived = chunks from List.append_nil chunks]
    exact ⟨sents, h, .inl⟩
  | failed =>
    cases hRead
    rw [show chunks ++ Received.failed.arrived = chunks from List.append_nil chunks]
    exact ⟨sents, ⟨h.read, h.mine, h.called, h.spooled⟩, fun _ => .inr rfl⟩
  | data chunk =>
    obtain ⟨conn, hConn, hCalls⟩ := Option.bind_eq_some_iff.mp hRead
    dsimp only at hCalls
    split at hCalls
    · cases hCalls
    rename_i hMine
    split at hCalls
    · cases hCalls
    rename_i later exchange hCalled
    cases hCalls
    have hOne : readFromClients uri_handlers s.conn [chunk] = some conn := by
      rw [readFromClients, List.foldlM_cons, hConn]
      rfl
    obtain ⟨more, hMore⟩ := readFromClients_answers hOne
    rw [← hMore, List.drop_left] at hCalled hMine
    refine ⟨sents ++ later, ⟨?_, fun request hMem => ?_, ?_, ?_⟩, .inl⟩
    · rw [Received.arrived, readFromClients, List.foldlM_append, ← readFromClients, h.read]
      exact hOne
    · rw [← hMore] at hMem
      rcases List.mem_append.mp hMem with hOld | hNew
      · exact h.mine request hOld
      · exact hMine (List.any_eq_true.mpr ⟨_, hNew, rfl⟩)
    · dsimp only
      rw [← hMore]
      exact sentFor_append h.called hCalled
    · dsimp only
      rw [← List.append_assoc, h.spooled]
      exact List.flatMap_append.symm

theorem pollReadable_conserves (h : Conserves uri_handlers handlers_ chunks s sents)
    (hRead : pollReadable uri_handlers handlers_ s ready = some t) :
    ∃ sents', Conserves uri_handlers handlers_ (chunks ++ ready.arrived) t sents' ∧
      (t.failed = true → s.failed = true ∨ ready.Fails) := by
  unfold pollReadable at hRead
  unfold Ready.arrived Ready.Fails
  cases hReceived : ready.received with
  | none =>
    rw [hReceived] at hRead
    cases hRead
    exact ⟨sents, by rwa [List.append_nil], .inl⟩
  | some received =>
    rw [hReceived] at hRead
    obtain ⟨sents', hAfter, hFault⟩ := pollRead_conserves (h.at_time ready.current_time) hRead
    exact ⟨sents', hAfter, fun hFailed => (hFault hFailed).imp id fun h => .inl (by rw [h])⟩

/-- Writing moves what is spooled. -/
theorem pollWritable_conserves (before : Bytes)
    (h : Conserves uri_handlers handlers_ chunks s sents) :
    Conserves uri_handlers handlers_ chunks (pollWritable before s ready) sents ∧
      ((pollWritable before s ready).failed = true → s.failed = true ∨ ready.Fails) := by
  unfold pollWritable Ready.Fails
  split
  · exact ⟨h, .inl⟩
  rename_i taken hTaken
  split
  · exact ⟨h, .inl⟩
  have hTimed := h.at_time ready.current_time
  cases taken with
  | again => exact ⟨hTimed, .inl⟩
  | failed =>
    exact ⟨⟨h.read, h.mine, h.called, h.spooled⟩, fun _ => .inr (.inr hTaken)⟩
  | data n =>
    refine ⟨⟨h.read, h.mine, h.called, ?_⟩, .inl⟩
    rw [pollWrite, List.append_assoc, List.take_append_drop]
    exact h.spooled

/-- An iteration keeps all that there is, and has a reason to close the connection. -/
theorem pollConnection_conserves (h : Conserves uri_handlers handlers_ chunks s sents)
    (hPoll : pollConnection uri_handlers handlers_ s ready = some t) :
    ∃ sents', Conserves uri_handlers handlers_ (chunks ++ ready.arrived) t sents' ∧
      (t.failed = true → s.failed = true ∨ ready.Fails) ∧
      (t.closed = true → t.failed = true ∨ t.conn.closing = true ∧ t.remote_iobuf = [] ∨
        t.last_activity_time < ready.current_time - idleTimeout) := by
  obtain ⟨u, hRead, rfl⟩ := Option.map_eq_some_iff.mp hPoll
  obtain ⟨sents', hAfter, hFault⟩ := pollReadable_conserves h hRead
  obtain ⟨hWritten, hFault'⟩ : Conserves uri_handlers handlers_ (chunks ++ ready.arrived)
      (pollWritable s.remote_iobuf u ready) sents' ∧ _ := pollWritable_conserves _ hAfter
  generalize pollWritable s.remote_iobuf u ready = v at hWritten hFault'
  refine ⟨sents', ⟨hWritten.read, hWritten.mine, hWritten.called, hWritten.spooled⟩,
    fun hFailed => ?_, fun hClosed => ?_⟩
  · rcases hFault' hFailed with hRead | hNow
    · exact hFault hRead
    · exact .inr hNow
  · simpa [pollClose, or_assoc] using hClosed

end Step

/-- **What was sent and what is still spooled** is together what is spooled for the answers to the
bytes that have arrived, whatever was read and written in between. A connection that was closed
has sent all of it, or its socket failed, or it was silent for too long. -/
theorem polled_conserves {now : Int} {readies : List Ready} {s : Polled}
    (hRun : Runs (Polls uri_handlers handlers_) (.accepted now) readies s) :
    ∃ sents,
      readFromClients uri_handlers .accepted (readies.flatMap Ready.arrived) = some s.conn ∧
      sentFor handlers_ s.conn.answers ⟨⟨[], []⟩, []⟩ = .ok sents s.exchange ∧
      s.sent ++ s.remote_iobuf = spooledText sents ∧
      (s.closed = true → s.conn.closing = true ∧ s.sent = spooledText sents ∨
        (∃ ready ∈ readies, ready.Fails) ∨
        ∃ ready ∈ readies.getLast?, s.last_activity_time < ready.current_time - idleTimeout) := by
  have hInvariant := hRun.invariant (I := fun readies s => ∃ sents,
    Conserves uri_handlers handlers_ (readies.flatMap Ready.arrived) s sents ∧
      (s.failed = true → ∃ ready ∈ readies, ready.Fails) ∧
      (s.closed = true → s.failed = true ∨ s.conn.closing = true ∧ s.remote_iobuf = [] ∨
        ∃ ready ∈ readies.getLast?, s.last_activity_time < ready.current_time - idleTimeout)) ?_ ?_
  · obtain ⟨sents, hConserves, hFailed, hClosed⟩ := hInvariant
    have hSpooled := hConserves.spooled
    refine ⟨sents, hConserves.read, hConserves.called, hSpooled, fun h => ?_⟩
    rcases hClosed h with hFault | ⟨hClosing, hAll⟩ | hIdle
    · exact .inr (.inl (hFailed hFault))
    · rw [hAll, List.append_nil] at hSpooled
      exact .inl ⟨hClosing, hSpooled⟩
    · exact .inr (.inr hIdle)
  · exact ⟨[], ⟨rfl, nofun, rfl, rfl⟩, nofun, nofun⟩
  · rintro readies s ready t - ⟨sents, hConserves, hFailed, -⟩ ⟨-, hPoll⟩
    obtain ⟨sents', hAfter, hFault, hClosed⟩ := pollConnection_conserves hConserves hPoll
    refine ⟨sents', ?_, fun h => ?_, fun h => ?_⟩
    · rw [List.flatMap_append, List.flatMap_singleton]
      exact hAfter
    · rcases hFault h with hBefore | hNow
      · obtain ⟨cause, hMem, hCause⟩ := hFailed hBefore
        exact ⟨cause, List.mem_append_left _ hMem, hCause⟩
      · exact ⟨ready, List.mem_append_right _ List.mem_cons_self, hNow⟩
    · refine (hClosed h).imp id (Or.imp id fun hIdle => ⟨ready, ?_, hIdle⟩)
      rw [List.getLast?_append]
      rfl

end Conserves

/-- A client asks for the home page. -/
def asking : Ready := ⟨1, some (.data homePage.head), none⟩

/-- A connection whose client has not read the home page yet. -/
def askedHomePage : Polled :=
  { Polled.accepted 1 with
    conn := afterHomePage
    exchange := ⟨⟨[ascii "htdoc/index file.html"], [ascii "welcome"]⟩, []⟩
    remote_iobuf := replyText [ascii "welcome"] }

theorem runs_asking :
    Runs (Polls httpServerHandlers (httpServer welcome)) (.accepted 0) [asking] askedHomePage :=
  .one ⟨rfl, by decide +kernel⟩

theorem polled_conserves_homePage : ∃ sents,
    readFromClients httpServerHandlers .accepted [homePage.head] = some afterHomePage ∧
    sentFor (httpServer welcome) afterHomePage.answers ⟨⟨[], []⟩, []⟩ =
      .ok sents askedHomePage.exchange ∧ replyText [ascii "welcome"] = spooledText sents := by
  obtain ⟨sents, hRead, hCalled, hSpooled, -⟩ := polled_conserves runs_asking
  exact ⟨sents, hRead, hCalled, hSpooled⟩

/-! ## What is sent in the end -/

section Drains

variable {uri_handlers : List Bytes} {handlers_ : OrderedMap Bytes HandlerFunction}

/-- Nothing arrives, and the socket takes something. -/
def Ready.Takes (ready : Ready) : Prop :=
  ready.received = none ∧ ∃ n, 0 < n ∧ ready.taken = some (.data n)

/-- A connection that there is still something to do for. -/
structure Polled.Open (s : Polled) : Prop where
  failed : s.failed = false
  closed : s.closed = false
  closing : s.remote_iobuf = [] → s.conn.closing = false

/-- Only an open connection is polled again. -/
theorem open_of_runs {now : Int} {readies : List Ready} {s : Polled}
    (hRun : Runs (Polls uri_handlers handlers_) (.accepted now) readies s)
    (hThere : s.closed = false) : s.Open := by
  refine hRun.invariant (I := fun _ s => s.closed = false → s.Open)
    (fun _ => ⟨rfl, rfl, fun _ => rfl⟩) ?_ hThere
  rintro - s ready t - - ⟨-, hPoll⟩ hThere
  obtain ⟨u, -, rfl⟩ := Option.map_eq_some_iff.mp hPoll
  have hParts := hThere
  simp only [pollClose, Bool.or_eq_false_iff, Bool.and_eq_false_iff] at hParts
  refine ⟨hParts.1.1, hThere, fun hEmpty => ?_⟩
  dsimp only [pollClose] at hEmpty
  rw [hEmpty] at hParts
  simpa [pollClose] using hParts.1.2

/-- A socket that takes something gets it. -/
theorem pollConnection_takes {s : Polled} {ready : Ready} (hOpen : s.Open)
    (hSome : s.remote_iobuf ≠ []) (hTakes : ready.Takes) :
    ∃ t, pollConnection uri_handlers handlers_ s ready = some t ∧ t.conn = s.conn ∧
      t.sent ++ t.remote_iobuf = s.sent ++ s.remote_iobuf ∧
      t.remote_iobuf.length < s.remote_iobuf.length ∧ t.failed = false ∧
      t.closed = (t.conn.closing && t.remote_iobuf.isEmpty) := by
  obtain ⟨hNothing, n, hPos, hTaken⟩ := hTakes
  have hLength := List.length_pos_iff.mpr hSome
  refine ⟨_, by rw [pollConnection, pollReadable, hNothing]; rfl, ?_⟩
  unfold pollWritable
  rw [hTaken]
  dsimp only
  rw [if_neg hSome]
  have hNow : ¬ready.current_time < ready.current_time - idleTimeout := by
    unfold idleTimeout
    omega
  refine ⟨rfl, ?_, ?_, hOpen.failed, ?_⟩
  · simp [pollClose, pollWrite]
  · simp only [pollClose, pollWrite, List.length_drop]
    omega
  · simp [pollClose, pollWrite, hOpen.failed, hNow]

/-- **All of it is sent** within as many iterations as there are bytes, as long as the client keeps
reading; and then the connection is closed, unless it is kept. -/
theorem polled_drains {now : Int} {readies quiet : List Ready} {s : Polled}
    (hRun : Runs (Polls uri_handlers handlers_) (.accepted now) readies s)
    (hThere : s.closed = false) (hTakes : ∀ ready ∈ quiet, ready.Takes)
    (hLong : s.remote_iobuf.length ≤ quiet.length) :
    ∃ front back t, quiet = front ++ back ∧ Runs (Polls uri_handlers handlers_) s front t ∧
      t.conn = s.conn ∧ t.remote_iobuf = [] ∧ t.sent = s.sent ++ s.remote_iobuf ∧
      t.closed = s.conn.closing := by
  have hOpen := open_of_runs hRun hThere
  clear hRun hThere
  induction quiet generalizing s with
  | nil =>
    have hEmpty := List.length_eq_zero_iff.mp (Nat.le_zero.mp hLong)
    refine ⟨[], [], s, rfl, .nil s, rfl, hEmpty, ?_, hOpen.closed.trans (hOpen.closing hEmpty).symm⟩
    rw [hEmpty, List.append_nil]
  | cons ready quiet ih =>
    by_cases hEmpty : s.remote_iobuf = []
    · refine ⟨[], _, s, rfl, .nil s, rfl, hEmpty, ?_,
        hOpen.closed.trans (hOpen.closing hEmpty).symm⟩
      rw [hEmpty, List.append_nil]
    obtain ⟨hFirst, hRest⟩ := List.forall_mem_cons.mp hTakes
    obtain ⟨t, hPoll, hConn, hAll, hLess, hFine, hClosed⟩ :=
      @pollConnection_takes uri_handlers handlers_ s ready hOpen hEmpty hFirst
    have hStep : Polls uri_handlers handlers_ s ready t := ⟨hOpen.closed, hPoll⟩
    by_cases hDone : t.remote_iobuf = []
    · rw [hDone, List.append_nil] at hAll
      refine ⟨[ready], quiet, t, rfl, .one hStep, hConn, hDone, hAll, ?_⟩
      rw [hClosed, hDone, hConn]
      exact Bool.and_true _
    · have hStill : t.closed = false := by
        rw [hClosed, List.isEmpty_eq_false_iff.mpr hDone]
        exact Bool.and_false _
      rw [List.length_cons] at hLong
      obtain ⟨front, back, u, rfl, hLater, hSame, hEnd, hSent, hUntil⟩ := ih hRest
        (by omega) ⟨hFine, hStill, fun h => absurd h hDone⟩
      exact ⟨ready :: front, back, u, rfl, hLater.cons hStep, hSame.trans hConn, hEnd,
        hSent.trans hAll, hUntil.trans (by rw [hConn])⟩

end Drains

/-- A client that reads seven bytes at a time. -/
theorem polled_drains_homePage : ∃ front back t,
    List.replicate 200 ⟨2, none, some (.data 7)⟩ = front ++ back ∧
    Runs (Polls httpServerHandlers (httpServer welcome)) askedHomePage front t ∧
    t.conn = afterHomePage ∧ t.remote_iobuf = [] ∧ t.sent = replyText [ascii "welcome"] ∧
    t.closed = false :=
  polled_drains runs_asking rfl
    (fun _ h => (List.eq_of_mem_replicate h) ▸ ⟨rfl, 7, by decide, rfl⟩) (by decide +kernel)

end Giblet.YahooWeb
