import Giblet.Lib.Effect
import Giblet.YMsg.StreamFraming
import Mathlib.Data.List.Nodup

/-!
# YMsg — a stream whose dispatcher may throw

`Consume` erases a packet after its dispatcher returned. A caller that
catches the dispatcher's exception and goes on reading finds the packet at
the head of the buffer again.

* `Listening.read_eq` — one call, however it ends.
* `Listening.handedOnce_iff` — the readings of which no packet is handed over twice.
-/

namespace Giblet.YMsg

open Effect Framing

variable {σ : Type}

/-! ## Calls -/

/-- What a dispatcher was handed. -/
structure Handed where
  stream : ProtocolStream
  header : Header
  payload : Bytes
  deriving DecidableEq

/-- The dispatcher, with a log of what it was handed. -/
def handing (dispatcher : DispatcherFunction σ) : DispatcherFunction (List Handed × σ) :=
  fun stream header payload following (log, w) =>
    mapState (fun w' => (log ++ [⟨stream, header, payload⟩], w'))
      (dispatcher stream header payload following w)

/-- A stream whose caller catches exceptions, with everything it received and every packet
that was handed over, at its position in what was received. -/
structure Listening (σ : Type) where
  stream : ProtocolStream
  world : σ
  received : Bytes
  handed : List (Nat × Handed)

namespace Listening

def start (w : σ) : Listening σ := ⟨⟨[]⟩, w, [], []⟩

/-- How much was received and is no longer in the buffer. -/
def position (s : Listening σ) : Nat := s.received.length - s.stream.data_.length

/-- One call of `ProcessPendingData`, with its exception caught. -/
def read (dispatcher : DispatcherFunction σ) (s : Listening σ) (reading : Reading) :
    Listening σ :=
  let after := finalState (process (handing dispatcher) reading (s.stream, [], s.world))
  { stream := after.1
    world := after.2.2
    received := s.received ++ reading.received
    handed := s.handed ++ after.2.1.map fun h => (s.position, h) }

def readAll (dispatcher : DispatcherFunction σ) (s : Listening σ) (readings : List Reading) :
    Listening σ :=
  readings.foldl (read dispatcher) s

/-- The buffer after a reading. -/
def buffered (s : Listening σ) (reading : Reading) : Bytes := s.stream.data_ ++ reading.received

/-- The packet a reading brings to the dispatcher. -/
def next? (s : Listening σ) (reading : Reading) : Option Packet :=
  if h : reading.received ≠ [] ∧ ymsgFormat.Complete (s.buffered reading) then
    some (ymsgFormat.first _ h.2)
  else none

/-- What the dispatcher does with it. -/
def call (dispatcher : DispatcherFunction σ) (s : Listening σ) (reading : Reading) (p : Packet) :
    EStateM.Result Fault σ Unit :=
  dispatcher ⟨s.buffered reading⟩ (Header.ofWire p.header) p.payload
    (ymsgFormat.after (s.buffered reading)) s.world

/-- **One call.** The packet leaves the buffer when its dispatcher returns. -/
theorem read_eq (dispatcher : DispatcherFunction σ) (s : Listening σ) (reading : Reading) :
    s.read dispatcher reading =
      match s.next? reading with
      | none =>
        { s with
          stream := ⟨s.buffered reading⟩
          received := s.received ++ reading.received }
      | some p =>
        { stream := ⟨if returned (s.call dispatcher reading p) then
            ymsgFormat.after (s.buffered reading) else s.buffered reading⟩
          world := finalState (s.call dispatcher reading p)
          received := s.received ++ reading.received
          handed := s.handed ++
            [(s.position, ⟨⟨s.buffered reading⟩, Header.ofWire p.header, p.payload⟩)] } := by
  have hNone (h : reading.received = []) : s.next? reading = none :=
    dif_neg fun hNext => hNext.1 h
  cases reading with
  | error n =>
    rw [hNone rfl, read, process, ProtocolStream.processPendingData_none, finalState_ok]
    simp [buffered, Reading.received]
  | bytes received =>
    unfold read process ProtocolStream.processPendingData
    simp only [ProtocolStream.fill_full, List.length_eq_zero_iff]
    by_cases hNil : received = []
    · rw [hNone hNil, if_pos hNil, finalState_ok]
      simp [buffered, Reading.received, hNil]
    · rw [if_neg hNil]
      by_cases hComplete : ymsgFormat.Complete (s.stream.data_ ++ received)
      · have hHas := (ProtocolStream.hasPacket_iff ⟨s.stream.data_ ++ received⟩).mpr hComplete
        have hNext : s.next? (.bytes received) = some (ymsgFormat.first _ hComplete) :=
          dif_pos ⟨hNil, hComplete⟩
        have hCall : s.call dispatcher (.bytes received) (ymsgFormat.first _ hComplete) =
            dispatcher ⟨s.stream.data_ ++ received⟩
              (Header.ofWire (ymsgFormat.first _ hComplete).header)
              (ymsgFormat.first _ hComplete).payload
              (ymsgFormat.after (s.stream.data_ ++ received)) s.world := rfl
        rw [hNext]
        dsimp only
        rw [if_pos hHas, consume_complete _ hComplete, handing, ← hCall]
        cases s.call dispatcher (.bytes received) (ymsgFormat.first _ hComplete) with
        | ok _ w => rfl
        | error e w => rfl
      · have hHas : ProtocolStream.hasPacket ⟨s.stream.data_ ++ received⟩ = false := by
          rw [← Bool.not_eq_true, ProtocolStream.hasPacket_iff]
          exact hComplete
        have hNext : s.next? (.bytes received) = none := dif_neg fun h => hComplete h.2
        rw [hNext, hHas]
        simp [buffered, Reading.received]

theorem next?_eq_some {s : Listening σ} {reading : Reading} {p : Packet}
    (h : s.next? reading = some p) :
    reading.received ≠ [] ∧
      s.buffered reading = p.symbols ++ ymsgFormat.after (s.buffered reading) := by
  unfold next? at h
  split at h
  · rename_i hNext
    obtain rfl := Option.some.inj h
    exact ⟨hNext.1, (ymsgFormat.first_append_after hNext.2).symm⟩
  · cases h

/-! ## What is handed over -/

/-- What was received is the packets that left the buffer, and the buffer. -/
structure InStep (s : Listening σ) (packets : List Packet) : Prop where
  received : s.received = packets.flatMap Frame.symbols ++ s.stream.data_

theorem InStep.position {s : Listening σ} {packets : List Packet} (h : s.InStep packets) :
    s.position = (packets.flatMap Frame.symbols).length := by
  rw [Listening.position, h.received, List.length_append, Nat.add_sub_cancel]

/-- A packet was handed over as it is in the stream. -/
def Own (stream : Bytes) (e : Nat × Handed) : Prop :=
  ∃ p : Packet, p.At stream e.1 ∧ e.2.header = Header.ofWire p.header ∧ e.2.payload = p.payload ∧
    ∃ rest, e.2.stream.data_ = p.symbols ++ rest

theorem Own.append {stream : Bytes} {e : Nat × Handed} (h : Own stream e) (more : Bytes) :
    Own (stream ++ more) e := by
  obtain ⟨p, hAt, hSame⟩ := h
  exact ⟨p, hAt.append more, hSame⟩

/-- The packet that a reading brings to the dispatcher is its own. -/
theorem InStep.own {s : Listening σ} {packets : List Packet} (h : s.InStep packets)
    {reading : Reading} {p : Packet} (hNext : s.next? reading = some p) :
    Own (s.received ++ reading.received)
      (s.position, ⟨⟨s.buffered reading⟩, Header.ofWire p.header, p.payload⟩) := by
  obtain ⟨-, hBuffer⟩ := next?_eq_some hNext
  refine ⟨p, ⟨packets, ymsgFormat.after (s.buffered reading), ?_, h.position.symm⟩, rfl, rfl,
    _, hBuffer⟩
  rw [← hBuffer, h.received, List.append_assoc, buffered]

/-- Without a packet, or when its dispatcher throws, everything stays in the buffer. -/
theorem InStep.read_kept {s : Listening σ} {packets : List Packet} (h : s.InStep packets)
    (dispatcher : DispatcherFunction σ) {reading : Reading}
    (hKept : ∀ p, s.next? reading = some p → returned (s.call dispatcher reading p) = false) :
    (s.read dispatcher reading).InStep packets := by
  constructor
  rw [read_eq]
  cases hNext : s.next? reading with
  | none => rw [h.received, List.append_assoc, buffered]
  | some p =>
    simp only [hKept p hNext, Bool.false_eq_true, if_false]
    rw [h.received, List.append_assoc, buffered]

/-- When it returns, the packet is gone. -/
theorem InStep.read_taken {s : Listening σ} {packets : List Packet} (h : s.InStep packets)
    {dispatcher : DispatcherFunction σ} {reading : Reading} {p : Packet}
    (hNext : s.next? reading = some p)
    (hReturned : returned (s.call dispatcher reading p) = true) :
    (s.read dispatcher reading).InStep (packets ++ [p]) := by
  obtain ⟨-, hBuffer⟩ := next?_eq_some hNext
  constructor
  rw [read_eq, hNext]
  simp only [hReturned, if_true]
  rw [List.flatMap_append, List.flatMap_singleton, List.append_assoc, ← hBuffer, h.received,
    List.append_assoc, buffered]

theorem InStep.read {s : Listening σ} {packets : List Packet} (h : s.InStep packets)
    (dispatcher : DispatcherFunction σ) (reading : Reading) :
    ∃ packets', (s.read dispatcher reading).InStep packets' := by
  by_cases hTaken : ∃ p, s.next? reading = some p ∧ returned (s.call dispatcher reading p) = true
  · obtain ⟨p, hNext, hReturned⟩ := hTaken
    exact ⟨_, h.read_taken hNext hReturned⟩
  · refine ⟨_, h.read_kept dispatcher fun p hNext => ?_⟩
    rw [← Bool.not_eq_true]
    exact fun hReturned => hTaken ⟨p, hNext, hReturned⟩

/-- Whatever the dispatcher does, what it was handed are packets of the stream. -/
theorem own_readAll (dispatcher : DispatcherFunction σ) {s : Listening σ} {packets : List Packet}
    (h : s.InStep packets) (hOwn : ∀ e ∈ s.handed, Own s.received e) (readings : List Reading) :
    ∀ e ∈ (s.readAll dispatcher readings).handed,
      Own (s.readAll dispatcher readings).received e := by
  induction readings generalizing s packets with
  | nil => exact hOwn
  | cons reading rest ih =>
    obtain ⟨packets', h'⟩ := h.read dispatcher reading
    refine ih h' ?_
    rw [read_eq]
    cases hNext : s.next? reading with
    | none => exact fun e he => (hOwn e he).append _
    | some p =>
      intro e he
      rcases List.mem_append.mp he with he | he
      · exact (hOwn e he).append _
      · rw [List.mem_singleton.mp he]
        exact h.own hNext

/-! ## At most once -/

/-- A packet is handed over at most once, and as it is in the stream. -/
structure HandedOnce (s : Listening σ) : Prop where
  once : (s.handed.map Prod.fst).Nodup
  own : ∀ e ∈ s.handed, Own s.received e

/-- The reading brings a packet to the dispatcher, which throws. -/
def Fails (dispatcher : DispatcherFunction σ) (s : Listening σ) (reading : Reading) : Prop :=
  ∃ p, s.next? reading = some p ∧ returned (s.call dispatcher reading p) = false

/-- After an exception no more data comes. -/
def NothingAfterFailure (dispatcher : DispatcherFunction σ) :
    Listening σ → List Reading → Prop
  | _, [] => True
  | s, reading :: rest =>
    (s.Fails dispatcher reading → ∀ later ∈ rest, later.received = []) ∧
      NothingAfterFailure dispatcher (s.read dispatcher reading) rest

/-- The positions of what was handed over. -/
def positions (s : Listening σ) : List Nat := s.handed.map Prod.fst

theorem positions_read (dispatcher : DispatcherFunction σ) (s : Listening σ) (reading : Reading) :
    (s.read dispatcher reading).positions =
      s.positions ++ if (s.next? reading).isSome then [s.position] else [] := by
  rw [read_eq]
  cases s.next? reading with
  | none => exact (List.append_nil _).symm
  | some p => exact List.map_append

/-- What was handed over stays so. -/
theorem handed_readAll (dispatcher : DispatcherFunction σ) (s : Listening σ)
    (readings : List Reading) :
    ∃ more, (s.readAll dispatcher readings).handed = s.handed ++ more := by
  induction readings generalizing s with
  | nil => exact ⟨[], (List.append_nil _).symm⟩
  | cons reading rest ih =>
    obtain ⟨more, hMore⟩ := ih (s.read dispatcher reading)
    rw [read, List.append_assoc] at hMore
    exact ⟨_, hMore⟩

theorem positions_readAll (dispatcher : DispatcherFunction σ) (s : Listening σ)
    (readings : List Reading) :
    ∃ more, (s.readAll dispatcher readings).positions = s.positions ++ more := by
  obtain ⟨more, hMore⟩ := handed_readAll dispatcher s readings
  exact ⟨more.map Prod.fst, by rw [positions, hMore, List.map_append, positions]⟩

theorem next?_eq_none {s : Listening σ} {reading : Reading} (h : reading.received = []) :
    s.next? reading = none :=
  dif_neg fun hNext => hNext.1 h

/-- A reading without data changes nothing. -/
theorem read_idle (dispatcher : DispatcherFunction σ) (s : Listening σ) {reading : Reading}
    (h : reading.received = []) : s.read dispatcher reading = s := by
  rw [read_eq, next?_eq_none h, buffered, h]
  simp

theorem readAll_idle (dispatcher : DispatcherFunction σ) (s : Listening σ) {rest : List Reading}
    (h : ∀ later ∈ rest, later.received = []) : s.readAll dispatcher rest = s := by
  induction rest with
  | nil => rfl
  | cons reading rest ih =>
    obtain ⟨hFirst, hRest⟩ := List.forall_mem_cons.mp h
    show (s.read dispatcher reading).readAll dispatcher rest = s
    rw [read_idle dispatcher s hFirst]
    exact ih hRest

/-- The packet at the head of the buffer was handed over already. -/
structure Stuck (s : Listening σ) : Prop where
  complete : ymsgFormat.Complete s.stream.data_
  handed : s.position ∈ s.positions

/-- The next data hands it over again. -/
theorem Stuck.not_nodup {s : Listening σ} (h : s.Stuck) (dispatcher : DispatcherFunction σ)
    {rest : List Reading} (hData : ∃ later ∈ rest, later.received ≠ []) :
    ¬ (s.readAll dispatcher rest).positions.Nodup := by
  induction rest with
  | nil =>
    obtain ⟨later, hLater, -⟩ := hData
    cases hLater
  | cons reading rest ih =>
    show ¬ ((s.read dispatcher reading).readAll dispatcher rest).positions.Nodup
    by_cases hIdle : reading.received = []
    · rw [read_idle dispatcher s hIdle]
      obtain ⟨later, hLater, hSome⟩ := hData
      rcases List.mem_cons.mp hLater with rfl | hLater
      · exact absurd hIdle hSome
      · exact ih ⟨later, hLater, hSome⟩
    · obtain ⟨more, hMore⟩ :=
        positions_readAll dispatcher (s.read dispatcher reading) rest
      have hNext : s.next? reading = some (ymsgFormat.first _ (h.complete.append _)) :=
        dif_pos ⟨hIdle, h.complete.append _⟩
      rw [hMore, positions_read, hNext]
      intro hNodup
      -- the position is there twice
      have hTwice := (List.nodup_append.mp (List.nodup_append.mp hNodup).1).2.2
      exact hTwice _ h.handed _ List.mem_cons_self rfl

theorem nothingAfterFailure_idle (dispatcher : DispatcherFunction σ) (s : Listening σ)
    {rest : List Reading} (h : ∀ later ∈ rest, later.received = []) :
    s.NothingAfterFailure dispatcher rest := by
  induction rest generalizing s with
  | nil => exact trivial
  | cons reading rest ih =>
    obtain ⟨hFirst, hRest⟩ := List.forall_mem_cons.mp h
    exact ⟨fun _ => hRest, ih _ hRest⟩

/-- A packet that failed is stuck. -/
theorem stuck_read {s : Listening σ} {packets : List Packet} (h : s.InStep packets)
    {dispatcher : DispatcherFunction σ} {reading : Reading} (hFails : s.Fails dispatcher reading) :
    (s.read dispatcher reading).Stuck := by
  obtain ⟨p, hNext, hThrown⟩ := hFails
  have hKept := h.read_kept dispatcher fun q hq =>
    Option.some.inj (hNext.symm.trans hq) ▸ hThrown
  constructor
  · obtain ⟨-, hBuffer⟩ := next?_eq_some hNext
    rw [read_eq, hNext]
    simp only [hThrown, Bool.false_eq_true, if_false]
    rw [hBuffer]
    exact p.complete_append _
  · rw [positions_read, hNext, hKept.position, h.position]
    exact List.mem_append_right _ List.mem_cons_self

/-- After any other reading the next packet is a new one again. -/
theorem new_read {s : Listening σ} {packets : List Packet} (h : s.InStep packets)
    (hNew : ∀ n ∈ s.positions, n < s.position) {dispatcher : DispatcherFunction σ}
    {reading : Reading} (hFails : ¬ s.Fails dispatcher reading) :
    ∀ n ∈ (s.read dispatcher reading).positions, n < (s.read dispatcher reading).position := by
  rw [positions_read]
  cases hNext : s.next? reading with
  | none =>
    have hKept : (s.read dispatcher reading).InStep packets :=
      h.read_kept dispatcher fun q hq => by
        rw [hNext] at hq
        cases hq
    rw [hKept.position, ← h.position]
    simpa using hNew
  | some p =>
    have hReturned : returned (s.call dispatcher reading p) = true := by
      rw [← Bool.not_eq_false]
      exact fun hThrown => hFails ⟨p, hNext, hThrown⟩
    have hLonger : (s.read dispatcher reading).position = s.position + p.symbols.length := by
      rw [(h.read_taken hNext hReturned).position, h.position, List.flatMap_append,
        List.flatMap_singleton, List.length_append]
    have hSize : 0 < p.symbols.length := by
      rw [p.length_symbols]
      exact Nat.add_pos_left ymsgFormat.headerSize_pos _
    rw [hLonger]
    intro n hn
    rcases List.mem_append.mp hn with hn | hn
    · exact Nat.lt_add_right _ (hNew n hn)
    · rw [List.mem_singleton.mp hn]
      omega

/-- From a state in which the packet at the head of the buffer is a new one. -/
theorem nodup_readAll_iff (dispatcher : DispatcherFunction σ) {s : Listening σ}
    {packets : List Packet} (h : s.InStep packets) (hNew : ∀ n ∈ s.positions, n < s.position)
    (hNodup : s.positions.Nodup) (readings : List Reading) :
    (s.readAll dispatcher readings).positions.Nodup ↔
      s.NothingAfterFailure dispatcher readings := by
  induction readings generalizing s packets with
  | nil => exact iff_of_true hNodup trivial
  | cons reading rest ih =>
    show ((s.read dispatcher reading).readAll dispatcher rest).positions.Nodup ↔ _ ∧ _
    have hMore : (s.read dispatcher reading).positions.Nodup := by
      rw [positions_read]
      split
      · refine List.nodup_append.mpr ⟨hNodup, List.nodup_singleton _, fun n hn m hm => ?_⟩
        rw [List.mem_singleton.mp hm]
        exact (hNew n hn).ne
      · rwa [List.append_nil]
    by_cases hFails : s.Fails dispatcher reading
    · constructor
      · intro hOnce
        have hIdle : ∀ later ∈ rest, later.received = [] := by
          by_contra hData
          push Not at hData
          exact (stuck_read h hFails).not_nodup dispatcher hData hOnce
        exact ⟨fun _ => hIdle, nothingAfterFailure_idle dispatcher _ hIdle⟩
      · intro hNothing
        rw [readAll_idle dispatcher _ (hNothing.1 hFails)]
        exact hMore
    · obtain ⟨packets', h'⟩ := h.read dispatcher reading
      rw [ih h' (new_read h hNew hFails) hMore]
      exact ⟨fun hRest => ⟨fun hFail => absurd hFail hFails, hRest⟩, fun hBoth => hBoth.2⟩

theorem inStep_start (w : σ) : (start w).InStep [] := ⟨rfl⟩

/-- **A packet is handed over at most once**, whatever the dispatcher throws, exactly when no
data comes after a call that threw. -/
theorem handedOnce_iff (dispatcher : DispatcherFunction σ) (w : σ) (readings : List Reading) :
    ((start w).readAll dispatcher readings).HandedOnce ↔
      (start w).NothingAfterFailure dispatcher readings := by
  rw [← nodup_readAll_iff dispatcher (inStep_start w) (fun _ h => absurd h List.not_mem_nil)
    List.nodup_nil]
  constructor
  · exact fun h => h.once
  · intro hOnce
    exact ⟨hOnce, own_readAll dispatcher (inStep_start w) (fun _ h => absurd h List.not_mem_nil)
      readings⟩

/-- A dispatcher that throws. -/
def throwing : DispatcherFunction Unit := fun _ _ _ _ w => .error (.runtimeError "not handled") w

/-- A packet that is not handled, and the first byte of the next one. -/
theorem handed_again :
    ¬ ∀ (dispatcher : DispatcherFunction Unit) (readings : List Reading),
      ((start ()).readAll dispatcher readings).HandedOnce := by
  intro hEvery
  have hOnce := (hEvery throwing [.bytes (barePacket 4).symbols, .bytes (ascii "Y")]).once
  have hTwice : ((start ()).readAll throwing
      [.bytes (barePacket 4).symbols, .bytes (ascii "Y")]).handed.map Prod.fst = [0, 0] := by
    decide +kernel
  rw [hTwice] at hOnce
  revert hOnce
  decide

end Listening

end Giblet.YMsg
