import Giblet.YMsg.Listening

/-!
# YMsg — the packet signature

`IsValidHeader` compares the signature, and nobody calls it: `HasPacket` asks
for the sizes only. So whatever the sizes cut out of the received bytes is
handed to the dispatcher.

* `isValidHeader_iff` — a buffer passes when its first four bytes are `YMSG`.
* `onlySigned_iff` — the streams of which nothing else is handed over.
-/

namespace Giblet.YMsg

open Framing Listening

/-- `ProtocolStream::IsValidHeader`. -/
def ProtocolStream.isValidHeader (s : ProtocolStream) : Bool :=
  match s.getRawHeader with
  | none => false
  | some header => ntohl header.signature == RawHeader.Signature

/-- The packet begins with the characters `YMSG`. -/
def Signed (p : Packet) : Prop := p.header.take 4 = ascii "YMSG"

instance : DecidablePred Signed := fun p => inferInstanceAs (Decidable (p.header.take 4 = _))

/-- Four bytes are the signature when their big-endian value is. -/
theorem be32_eq_signature_iff (a b c d : UInt8) (rest : Bytes) :
    UInt32.ofNat (be32 (a :: b :: c :: d :: rest) 0) = RawHeader.Signature ↔
      [a, b, c, d] = ascii "YMSG" := by
  have ha := a.toNat_lt
  have hb := b.toNat_lt
  have hc := c.toNat_lt
  have hd := d.toNat_lt
  have hValue : be32 (a :: b :: c :: d :: rest) 0 =
      2 ^ 24 * a.toNat + 2 ^ 16 * b.toNat + 2 ^ 8 * c.toNat + d.toNat := by
    show 2 ^ 16 * (2 ^ 8 * a.toNat + b.toNat) + (2 ^ 8 * c.toNat + d.toNat) = _
    omega
  have hText : ascii "YMSG" = [0x59, 0x4d, 0x53, 0x47] := by decide
  rw [hValue, hText, ← UInt32.toNat_inj, UInt32.toNat_ofNat', Nat.mod_eq_of_lt (by omega)]
  simp only [List.cons.injEq, and_true, ← UInt8.toNat_inj]
  show _ = 0x594d5347 ↔ a.toNat = 0x59 ∧ b.toNat = 0x4d ∧ c.toNat = 0x53 ∧ d.toNat = 0x47
  omega

/-- A header has its four bytes. -/
theorem exists_four {header : Bytes} (h : 4 ≤ header.length) :
    ∃ a b c d rest, header = a :: b :: c :: d :: rest := by
  obtain ⟨a, header, rfl⟩ := List.exists_cons_of_length_pos (by omega : 0 < header.length)
  obtain ⟨b, header, rfl⟩ := List.exists_cons_of_length_pos
    (by simp at h; omega : 0 < header.length)
  obtain ⟨c, header, rfl⟩ := List.exists_cons_of_length_pos
    (by simp at h; omega : 0 < header.length)
  obtain ⟨d, header, rfl⟩ := List.exists_cons_of_length_pos
    (by simp at h; omega : 0 < header.length)
  exact ⟨a, b, c, d, header, rfl⟩

/-- **A buffer with a packet** passes exactly when the packet is signed. -/
theorem isValidHeader_iff (p : Packet) (rest : Bytes) :
    ProtocolStream.isValidHeader ⟨p.symbols ++ rest⟩ = true ↔ Signed p := by
  have hHas : ProtocolStream.hasHeader ⟨p.symbols ++ rest⟩ = true :=
    decide_eq_true (p.complete_append rest).1
  have hLong : 4 ≤ p.header.length := by
    rw [p.header_length]
    decide
  obtain ⟨a, b, c, d, tail, hHeader⟩ := exists_four hLong
  unfold ProtocolStream.isValidHeader ProtocolStream.getRawHeader Signed Frame.symbols
  unfold Frame.symbols at hHas
  rw [hHas, if_pos rfl]
  dsimp only
  rw [RawHeader.load, ntohl_load32, beq_iff_eq, hHeader]
  exact be32_eq_signature_iff a b c d _

/-! ## What is handed over -/

/-- A packet that was handed over is signed if its buffer passes. -/
theorem isValidHeader_of_own {stream : Bytes} {e : Nat × Handed} (h : Own stream e)
    (hSigned : ∀ (p : Packet) position, p.At stream position → Signed p) :
    e.2.stream.isValidHeader = true := by
  obtain ⟨p, hAt, -, -, rest, hBuffer⟩ := h
  have hStream : e.2.stream = ⟨p.symbols ++ rest⟩ := congrArg ProtocolStream.mk hBuffer
  rw [hStream, isValidHeader_iff]
  exact hSigned p _ hAt

theorem received_readAll {σ : Type} (dispatcher : DispatcherFunction σ) (s : Listening σ)
    (readings : List Reading) : (s.readAll dispatcher readings).received =
      s.received ++ readings.flatMap Reading.received := by
  induction readings generalizing s with
  | nil => exact (List.append_nil _).symm
  | cons reading rest ih =>
    show ((s.read dispatcher reading).readAll dispatcher rest).received = _
    rw [ih, List.flatMap_cons, ← List.append_assoc]
    rfl

/-- A packet that is read in one piece, into an empty buffer. -/
theorem next?_packet {s : Listening Unit} (hEmpty : s.stream = ⟨[]⟩) (p : Packet) :
    s.next? (.bytes p.symbols) = some p := by
  have hBuffer : s.buffered (.bytes p.symbols) = p.symbols ++ [] := by
    rw [Listening.buffered, hEmpty, List.append_nil]
    rfl
  have hSome : Reading.received (.bytes p.symbols) ≠ [] := by
    intro hNil
    have hLength := p.length_symbols
    rw [show p.symbols = [] from hNil] at hLength
    exact absurd hLength (Nat.add_pos_left ymsgFormat.headerSize_pos _).ne
  have hFirst : ∀ buffer (h : ymsgFormat.Complete buffer), buffer = p.symbols ++ [] →
      ymsgFormat.first buffer h = p := by
    rintro _ _ rfl
    exact p.first_append []
  have hComplete : ymsgFormat.Complete (s.buffered (.bytes p.symbols)) := by
    rw [hBuffer]
    exact p.complete_append []
  exact (dif_pos ⟨hSome, hComplete⟩).trans (congrArg some (hFirst _ hComplete hBuffer))

theorem read_packet {s : Listening Unit} (hEmpty : s.stream = ⟨[]⟩) (p : Packet) :
    (s.read quiet (.bytes p.symbols)).stream = ⟨[]⟩ ∧
      ∃ e ∈ (s.read quiet (.bytes p.symbols)).handed, e.2.stream = ⟨p.symbols ++ []⟩ := by
  have hBuffer : s.buffered (.bytes p.symbols) = p.symbols ++ [] := by
    rw [Listening.buffered, hEmpty, List.append_nil]
    rfl
  rw [read_eq, next?_packet hEmpty, hBuffer, p.after_append]
  exact ⟨rfl, _, List.mem_append_right _ List.mem_cons_self, rfl⟩

/-- Read packet by packet, nothing is left in the buffer. -/
theorem stream_packets {s : Listening Unit} (hEmpty : s.stream = ⟨[]⟩) (packets : List Packet) :
    (s.readAll quiet (packets.map fun p => .bytes p.symbols)).stream = ⟨[]⟩ := by
  induction packets generalizing s with
  | nil => exact hEmpty
  | cons p rest ih => exact ih (read_packet hEmpty p).1

theorem received_packets (packets : List Packet) :
    (packets.map fun p => Reading.bytes p.symbols).flatMap Reading.received =
      packets.flatMap Frame.symbols := by
  rw [List.flatMap_map]
  rfl

/-- **Every packet of a stream is handed over** in some way of cutting it. -/
theorem exists_handed {stream : Bytes} {p : Packet} {position : Nat} (h : p.At stream position) :
    ∃ readings, readings.flatMap Reading.received = stream ∧
      ∃ e ∈ ((start ()).readAll quiet readings).handed, ∃ rest,
        e.2.stream = ⟨p.symbols ++ rest⟩ := by
  obtain ⟨before, rest, rfl, -⟩ := h
  let early := before.map fun q => Reading.bytes q.symbols
  have hEmpty : ((start ()).readAll quiet early).stream = ⟨[]⟩ := stream_packets rfl before
  obtain ⟨-, e, he, hStream⟩ := read_packet hEmpty p
  refine ⟨early ++ [.bytes p.symbols, .bytes rest], ?_, e, ?_, [], hStream⟩
  · rw [List.flatMap_append, received_packets]
    simp [Reading.received]
  · rw [readAll, List.foldl_append]
    obtain ⟨more, hMore⟩ := handed_readAll quiet (((start ()).readAll quiet early).read quiet
      (.bytes p.symbols)) [.bytes rest]
    show e ∈ ((((start ()).readAll quiet early).read quiet (.bytes p.symbols)).readAll quiet
      [.bytes rest]).handed
    rw [hMore]
    exact List.mem_append_left _ he

/-- **Only signed packets are handed over**, however the stream is cut up and whatever the
dispatcher does, exactly when all its packets are signed. -/
theorem onlySigned_iff (stream : Bytes) :
    (∀ (σ : Type) (dispatcher : DispatcherFunction σ) (w : σ) (readings : List Reading),
      readings.flatMap Reading.received = stream →
      ∀ e ∈ ((start w).readAll dispatcher readings).handed,
        e.2.stream.isValidHeader = true) ↔
      ∀ (p : Packet) position, p.At stream position → Signed p := by
  constructor
  · intro hValid p position hAt
    obtain ⟨readings, hStream, e, he, rest, hBuffer⟩ := exists_handed hAt
    have hPasses := hValid Unit quiet () readings hStream e he
    rw [hBuffer, isValidHeader_iff] at hPasses
    exact hPasses
  · intro hSigned σ dispatcher w readings hStream e he
    have hOwn := own_readAll dispatcher (inStep_start w) (fun _ h => absurd h List.not_mem_nil)
      readings e he
    rw [received_readAll, hStream] at hOwn
    exact isValidHeader_of_own hOwn hSigned

/-- A signed packet, and as many zeros as a header has. -/
def outOfStep : Bytes := (barePacket 4).symbols ++ List.replicate RawHeader.size 0

/-- The zeros are handed over as a packet. -/
theorem unsigned_handed :
    ¬ ∀ (stream : Bytes) (σ : Type) (dispatcher : DispatcherFunction σ) (w : σ)
      (readings : List Reading), readings.flatMap Reading.received = stream →
      ∀ e ∈ ((start w).readAll dispatcher readings).handed,
        e.2.stream.isValidHeader = true := by
  intro hValid
  have hAll := hValid outOfStep Unit quiet ()
    [.bytes (barePacket 4).symbols, .bytes (List.replicate RawHeader.size 0)] rfl
  revert hAll
  decide +kernel

end Giblet.YMsg
