import Giblet.Lib.Framing
import Giblet.YMsg.ProtocolStream

/-!
# YMsg — what ProtocolStream delivers

`ProtocolStream` against the framing library: a stream whose dispatcher
returns normally is a `Framing.Receiver` for the YMSG format
(`process_simulates`), so the library's results are results about it.

Main results:

* `processAll_conserves` — over any calls, failed reads included, the
  packets handed to the dispatcher followed by `data_` are the bytes received;
* `processAll_delivers_iff` — which ways of cutting a list of packets into
  reads get every packet dispatched. `processPendingData` consumes one packet
  a call, so not all of them do (`processAll_coalesced`).
-/

namespace Giblet.YMsg

open Framing

/-! ## The packet format -/

/-- YMSG packets: 20 header bytes with the payload's size, big-endian, at offset 8. -/
def ymsgFormat : Format UInt8 where
  headerSize := RawHeader.size
  payloadSize header := be16 header 8
  headerSize_pos := by decide

/-- A well-formed packet. -/
abbrev Packet := Frame ymsgFormat

namespace ProtocolStream

theorem hasPacket_iff (s : ProtocolStream) :
    s.hasPacket = true ↔ ymsgFormat.Complete s.data_ := by
  -- the size lies in the header, so cutting the buffer there keeps it
  have hSize : be16 (s.data_.take RawHeader.size) 8 = be16 s.data_ 8 := by
    rw [be16, be16, byteAt_take (by decide), byteAt_take (by decide)]
  simp only [hasPacket, getRawHeader, hasHeader, Format.Complete, ymsgFormat, hSize]
  by_cases hHeader : RawHeader.size ≤ s.data_.length
  · simp only [hHeader, decide_true, if_true, RawHeader.load, toNat_ntohs_load16,
      decide_eq_true_eq, true_and, Nat.add_comm]
  · simp [hHeader]

end ProtocolStream

/-- One dispatch: the header's bytes in the buffer, the decoded header, the payload. -/
structure Dispatched where
  rawHeader : Bytes
  header : Header
  payload : Bytes
  deriving DecidableEq, Repr

/-- The bytes a dispatch was handed, in stream order. -/
def Dispatched.bytes (d : Dispatched) : Bytes := d.rawHeader ++ d.payload

/-- The dispatch a well-formed packet should cause. -/
def Dispatched.ofPacket (p : Packet) : Dispatched :=
  ⟨p.header, Header.ofWire p.header, p.payload⟩

variable {σ : Type}

/-- A dispatcher that never throws. -/
def ReturnsNormally (dispatcher : DispatcherFunction σ) : Prop :=
  ∀ stream header payload following w,
    ∃ w', dispatcher stream header payload following w = .ok () w'

/-- The dispatcher, with a log of its calls. -/
def recording (dispatcher : DispatcherFunction σ) :
    DispatcherFunction (List Dispatched × σ) :=
  fun stream header payload following (log, w) =>
    -- a call that throws is in the log too
    let log' := log ++ [⟨stream.data_.take RawHeader.size, header, payload⟩]
    match dispatcher stream header payload following w with
    | .ok _ w' => .ok () (log', w')
    | .error e w' => .error e (log', w')

/-! ## Calls of processPendingData -/

/-- The outcome of one `recv`: `SOCKET_ERROR`, or the reported number of bytes. -/
inductive Reading
  | error (incomingSize : Nat)
  | bytes (received : Bytes)
  deriving DecidableEq, Repr

/-- The bytes a reading brought in. -/
def Reading.received : Reading → Bytes
  | .error _ => []
  | .bytes received => received

/-- One call of `ProcessPendingData` with the given outcome of `recv`. -/
def process (dispatcher : DispatcherFunction σ) :
    Reading → Action (ProtocolStream × σ) Bool
  | .error incomingSize => ProtocolStream.processPendingData dispatcher incomingSize none
  | .bytes received =>
    ProtocolStream.processPendingData dispatcher received.length (some received)

/-- Calls of `ProcessPendingData`, one after another. -/
def processAll (dispatcher : DispatcherFunction σ) :
    List Reading → Action (ProtocolStream × σ) Unit
  | [] => pure ()
  | reading :: readings => do
    let _ ← process dispatcher reading
    processAll dispatcher readings

/-- What a call does to the abstract receiver. -/
def Reading.deliver (r : Receiver ymsgFormat) : Reading → Receiver ymsgFormat
  | .error _ => r
  | .bytes received => if received = [] then r else r.read received

theorem Reading.symbols_deliver (r : Receiver ymsgFormat) (reading : Reading) :
    (reading.deliver r).symbols = r.symbols ++ reading.received := by
  cases reading with
  | error _ => simp [deliver, received]
  | bytes b =>
    simp only [deliver, received]
    split
    · rename_i hNil
      rw [hNil, List.append_nil]
    · exact r.symbols_read b

theorem symbols_foldl_deliver (r : Receiver ymsgFormat) (readings : List Reading) :
    (readings.foldl Reading.deliver r).symbols =
      r.symbols ++ readings.flatMap Reading.received := by
  induction readings generalizing r with
  | nil => simp
  | cons x xs ih =>
    rw [List.foldl_cons, ih, x.symbols_deliver, List.flatMap_cons, List.append_assoc]

/-- The stream, and the log of its dispatcher, as an abstract receiver. -/
def simulates (r : Receiver ymsgFormat) (w : σ) : ProtocolStream × List Dispatched × σ :=
  (⟨r.buffer⟩, r.delivered.map Dispatched.ofPacket, w)

/-- `consume` on a complete buffer hands its first packet to the dispatcher. The packet is
erased when the dispatcher returns. -/
theorem consume_complete (dispatcher : DispatcherFunction σ) {data : Bytes}
    (hComplete : ymsgFormat.Complete data) (w : σ) :
    ProtocolStream.consume dispatcher (⟨data⟩, w) =
      match dispatcher ⟨data⟩ (Header.ofWire (ymsgFormat.first data hComplete).header)
          (ymsgFormat.first data hComplete).payload (ymsgFormat.after data) w with
      | .ok _ w' => .ok () (⟨ymsgFormat.after data⟩, w')
      | .error e w' => .error e (⟨data⟩, w') := by
  have hHas : ProtocolStream.hasPacket ⟨data⟩ = true :=
    (ProtocolStream.hasPacket_iff ⟨data⟩).mpr hComplete
  -- only the header's bytes decide about the header
  have hHeader : Header.ofRaw (RawHeader.load data) =
      Header.ofWire (data.take RawHeader.size) := by
    rw [← Header.ofRaw_load, RawHeader.load_take]
  have hSize : (Header.ofWire (data.take RawHeader.size)).payloadSize.toNat =
      be16 (data.take RawHeader.size) 8 := by
    rw [← toNat_ntohs_load16, ntohs_load16]
    rfl
  simp only [ProtocolStream.consume, hHas, Bool.not_true, Bool.false_eq_true, if_false, hHeader,
    hSize]
  rfl

/-- With a dispatcher that returns, the rest is kept. -/
theorem consume_first {dispatcher : DispatcherFunction σ} (hNormal : ReturnsNormally dispatcher)
    {data : Bytes} (hComplete : ymsgFormat.Complete data) (log : List Dispatched) (w : σ) :
    ∃ w', ProtocolStream.consume (recording dispatcher) (⟨data⟩, log, w) =
      .ok () (⟨ymsgFormat.after data⟩,
        log ++ [Dispatched.ofPacket (ymsgFormat.first data hComplete)], w') := by
  obtain ⟨w', hw'⟩ := hNormal ⟨data⟩ (Header.ofWire (ymsgFormat.first data hComplete).header)
    (ymsgFormat.first data hComplete).payload (ymsgFormat.after data) w
  refine ⟨w', ?_⟩
  rw [consume_complete _ hComplete]
  simp only [recording, hw']
  rfl

/-- **One call is one read of the receiver.** -/
theorem process_simulates {dispatcher : DispatcherFunction σ}
    (hNormal : ReturnsNormally dispatcher) (r : Receiver ymsgFormat) (w : σ)
    (reading : Reading) :
    ∃ b w', process (recording dispatcher) reading (simulates r w) =
      .ok b (simulates (reading.deliver r) w') := by
  cases reading with
  -- a failed `recv` changes nothing, and neither does an empty one
  | error n =>
    exact ⟨false, w, ProtocolStream.processPendingData_none (recording dispatcher) n _ _⟩
  | bytes received =>
    simp only [process, ProtocolStream.processPendingData, simulates,
      ProtocolStream.fill_full, List.length_eq_zero_iff, Reading.deliver]
    by_cases hNil : received = []
    · exact ⟨false, w, by simp only [if_pos hNil]⟩
    · simp only [if_neg hNil, Receiver.read]
      -- one packet at most is taken off, like the receiver's frame
      by_cases hComplete : ymsgFormat.Complete (r.buffer ++ received)
      · obtain ⟨w', hw'⟩ := consume_first hNormal hComplete
          (r.delivered.map Dispatched.ofPacket) w
        have hHas := (ProtocolStream.hasPacket_iff ⟨r.buffer ++ received⟩).mpr hComplete
        refine ⟨true, w', ?_⟩
        simp only [hHas, if_true, hw', dif_pos hComplete, List.map_append, List.map_cons,
          List.map_nil]
      · have hHas : ProtocolStream.hasPacket ⟨r.buffer ++ received⟩ = false := by
          rw [← Bool.not_eq_true, ProtocolStream.hasPacket_iff]
          exact hComplete
        exact ⟨true, w, by simp only [hHas, Bool.false_eq_true, if_false,
          dif_neg hComplete]⟩

/-- Any number of calls are as many reads. -/
theorem processAll_simulates {dispatcher : DispatcherFunction σ}
    (hNormal : ReturnsNormally dispatcher) (r : Receiver ymsgFormat) (w : σ)
    (readings : List Reading) :
    ∃ w', processAll (recording dispatcher) readings (simulates r w) =
      .ok () (simulates (readings.foldl Reading.deliver r) w') := by
  induction readings generalizing r w with
  | nil => exact ⟨w, rfl⟩
  | cons reading readings ih =>
    obtain ⟨b, w₁, h₁⟩ := process_simulates hNormal r w reading
    obtain ⟨w₂, h₂⟩ := ih (reading.deliver r) w₁
    refine ⟨w₂, ?_⟩
    rw [List.foldl_cons, ← h₂]
    simp only [processAll, bind, EStateM.bind, h₁]

/-! ## Results -/

theorem foldl_deliver_bytes {r : Receiver ymsgFormat} {chunks : List Bytes}
    (hChunks : ∀ c ∈ chunks, c ≠ []) :
    (chunks.map Reading.bytes).foldl Reading.deliver r = r.readAll chunks := by
  induction chunks generalizing r with
  | nil => rfl
  | cons c cs ih =>
    have hc : c ≠ [] := hChunks c (List.mem_cons_self ..)
    rw [List.map_cons, List.foldl_cons, Receiver.readAll_cons, Reading.deliver, if_neg hc,
      ih fun d hd => hChunks d (List.mem_cons_of_mem _ hd)]

theorem Dispatched.ofPacket_injective : Function.Injective Dispatched.ofPacket := by
  intro p q h
  simp only [Dispatched.ofPacket, Dispatched.mk.injEq] at h
  exact Frame.ext_symbols h.1 h.2.2

/-- The packets dispatched so far, and `data_`, are the bytes received so far. -/
theorem processAll_conserves {dispatcher : DispatcherFunction σ}
    (hNormal : ReturnsNormally dispatcher) (w : σ) (readings : List Reading) :
    ∃ stream log w',
      processAll (recording dispatcher) readings (⟨[]⟩, [], w) = .ok () (stream, log, w') ∧
      log.flatMap Dispatched.bytes ++ stream.data_ = readings.flatMap Reading.received ∧
      (∀ d ∈ log, d.rawHeader.length = RawHeader.size ∧
        d.header = Header.ofWire d.rawHeader ∧
        d.payload.length = d.header.payloadSize.toNat) ∧
      ∀ incomingSize, process (recording dispatcher) (.error incomingSize) (stream, log, w') =
        .ok false (stream, log, w') := by
  obtain ⟨w', hRun⟩ := processAll_simulates hNormal Receiver.empty w readings
  refine ⟨_, _, _, hRun, ?_, ?_, fun n =>
    ProtocolStream.processPendingData_none (recording dispatcher) n _ _⟩
  -- what the receiver delivered and holds is what it was sent
  · have hSymbols := symbols_foldl_deliver Receiver.empty readings
    rw [List.flatMap_map]
    exact hSymbols
  · intro d hd
    obtain ⟨p, -, rfl⟩ := List.mem_map.mp hd
    refine ⟨p.header_length, rfl, ?_⟩
    simp only [Dispatched.ofPacket, Header.ofWire, p.payload_length, ymsgFormat]
    rw [← ntohs_load16, toNat_ntohs_load16]

/-- A dispatcher that does nothing. -/
def quiet : DispatcherFunction Unit := fun _ _ _ _ _ => .ok () ()

theorem quiet_returnsNormally : ReturnsNormally quiet := fun _ _ _ _ _ => ⟨(), rfl⟩

/-- A packet without a payload. -/
def barePacket (serviceId : UInt8) : Packet where
  header := ascii "YMSG" ++ [0, 0, 0, 0, 0, 0, 0, serviceId, 0, 0, 0, 0, 0, 0, 0, 0]
  payload := []
  header_length := rfl
  payload_length := rfl

/-- A failed read in the middle of a packet. -/
theorem processAll_conserves_failedRead :
    ∃ stream log w',
      processAll (recording quiet)
        [.bytes ((barePacket 4).symbols.take 7), .error 9, .bytes ((barePacket 4).symbols.drop 7)]
        (⟨[]⟩, [], ()) = .ok () (stream, log, w') ∧
      log.flatMap Dispatched.bytes ++ stream.data_ =
        [Reading.bytes ((barePacket 4).symbols.take 7), .error 9,
          .bytes ((barePacket 4).symbols.drop 7)].flatMap Reading.received ∧
      (∀ d ∈ log, d.rawHeader.length = RawHeader.size ∧
        d.header = Header.ofWire d.rawHeader ∧
        d.payload.length = d.header.payloadSize.toNat) ∧
      ∀ incomingSize, process (recording quiet) (.error incomingSize) (stream, log, w') =
        .ok false (stream, log, w') :=
  processAll_conserves quiet_returnsNormally () _

/-- Which chunkings of a list of packets get every packet dispatched: those in
which, between any two reads, the packets not yet complete are no more than
the reads still to come. -/
theorem processAll_delivers_iff {dispatcher : DispatcherFunction σ}
    (hNormal : ReturnsNormally dispatcher) (w : σ) {packets : List Packet}
    {chunks : List Bytes} (hChunks : ∀ c ∈ chunks, c ≠ [])
    (hStream : chunks.flatten = packets.flatMap Frame.symbols) :
    (∃ w', processAll (recording dispatcher) (chunks.map Reading.bytes) (⟨[]⟩, [], w) =
      .ok () (⟨[]⟩, packets.map Dispatched.ofPacket, w')) ↔
    ∀ pre post, chunks = pre ++ post →
      packets.length ≤ completed (sizes packets) pre.flatten.length + post.length := by
  rw [← Receiver.readAll_delivers_iff hStream]
  obtain ⟨w₁, hRun⟩ := processAll_simulates hNormal Receiver.empty w (chunks.map Reading.bytes)
  rw [foldl_deliver_bytes hChunks] at hRun
  have hStart : simulates (Receiver.empty : Receiver ymsgFormat) w = (⟨[]⟩, [], w) := rfl
  rw [hStart] at hRun
  rw [hRun]
  constructor
  · rintro ⟨w', h⟩
    simp only [simulates, EStateM.Result.ok.injEq, Prod.mk.injEq, true_and,
      ProtocolStream.mk.injEq] at h
    -- the log determines what was delivered: dispatches of different packets differ
    have hDelivered := (List.map_injective_iff.mpr Dispatched.ofPacket_injective) h.2.1
    cases hr : (Receiver.empty : Receiver ymsgFormat).readAll chunks with
    | mk delivered buffer =>
      rw [hr] at h hDelivered
      simp only at h hDelivered
      rw [hDelivered, h.1]
  · intro h
    exact ⟨w₁, by rw [h]; rfl⟩

/-- A packet cut inside its header is dispatched with the second read. -/
theorem processAll_delivers_cutHeader :
    ∃ w', processAll (recording quiet)
      ([(barePacket 4).symbols.take 5, (barePacket 4).symbols.drop 5].map Reading.bytes)
      (⟨[]⟩, [], ()) = .ok () (⟨[]⟩, [barePacket 4].map Dispatched.ofPacket, w') := by
  have hStream : [(barePacket 4).symbols.take 5, (barePacket 4).symbols.drop 5].flatten =
      [barePacket 4].flatMap Frame.symbols := by decide
  refine (processAll_delivers_iff quiet_returnsNormally () (by decide) hStream).mpr ?_
  intro pre post hEq
  have hLength : pre.length + post.length = 2 := by
    rw [← List.length_append, ← hEq]
    rfl
  cases post with
  | cons c cs =>
    simp only [List.length_cons, List.length_nil]
    omega
  | nil =>
    rw [List.append_nil] at hEq
    rw [← hEq]
    decide

/-- Two packets in one read: the second stays in `data_`, undispatched. -/
theorem processAll_coalesced :
    ¬ ∀ (packets : List Packet) (chunks : List Bytes), (∀ c ∈ chunks, c ≠ []) →
      chunks.flatten = packets.flatMap Frame.symbols →
      ∃ w', processAll (recording quiet) (chunks.map Reading.bytes) (⟨[]⟩, [], ()) =
        .ok () (⟨[]⟩, packets.map Dispatched.ofPacket, w') := by
  intro h
  obtain ⟨w', hw'⟩ := h [barePacket 4, barePacket 85]
    [(barePacket 4).symbols ++ (barePacket 85).symbols] (by decide) (by decide)
  have hRun : processAll (recording quiet)
      ([(barePacket 4).symbols ++ (barePacket 85).symbols].map Reading.bytes) (⟨[]⟩, [], ()) =
      .ok () (⟨(barePacket 85).symbols⟩, [Dispatched.ofPacket (barePacket 4)], ()) := by rfl
  rw [hRun] at hw'
  simp only [EStateM.Result.ok.injEq, Prod.mk.injEq, ProtocolStream.mk.injEq] at hw'
  exact absurd hw'.2.1 (by decide)

end Giblet.YMsg
