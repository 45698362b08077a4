import Mathlib.Data.List.Basic
import Mathlib.Tactic.Common

/-!
# Framing — length-prefixed frames over a byte stream

A `Format` says how long a header is and which payload size a header
announces. A `Receiver` buffers what it reads and delivers **at most one
frame for each read**, the first one in its buffer.

Main results:

* `Receiver.symbols_read` — conservation: the frames delivered so far,
  followed by the buffer, are what they were, followed by the symbols
  that were read;
* `Receiver.readAll_delivers_iff` — when the stream is a list of frames,
  the receiver has delivered all of them after the last read if and only
  if between any two reads the frames that are not yet complete are no
  more than the reads still to come.
-/

namespace Framing

/-- A frame format: a header of fixed size that announces its payload's size. -/
structure Format (α : Type) where
  headerSize : Nat
  payloadSize : List α → Nat
  headerSize_pos : 0 < headerSize

/-- A well-formed frame: its header announces exactly its payload. -/
structure Frame {α : Type} (F : Format α) where
  header : List α
  payload : List α
  header_length : header.length = F.headerSize
  payload_length : payload.length = F.payloadSize header

variable {α : Type} {F : Format α}

/-! ## Frames in a buffer -/

/-- The frame as it travels. -/
def Frame.symbols (f : Frame F) : List α := f.header ++ f.payload

theorem Frame.length_symbols (f : Frame F) :
    f.symbols.length = F.headerSize + F.payloadSize f.header := by
  rw [Frame.symbols, List.length_append, f.header_length, f.payload_length]

/-- The buffer starts with a whole frame. -/
def Format.Complete (F : Format α) (buf : List α) : Prop :=
  F.headerSize ≤ buf.length ∧
    F.headerSize + F.payloadSize (buf.take F.headerSize) ≤ buf.length

instance (F : Format α) (buf : List α) : Decidable (F.Complete buf) :=
  inferInstanceAs (Decidable (_ ∧ _))

/-- The frame a complete buffer starts with. -/
def Format.first (F : Format α) (buf : List α) (h : F.Complete buf) : Frame F where
  header := buf.take F.headerSize
  payload := (buf.drop F.headerSize).take (F.payloadSize (buf.take F.headerSize))
  header_length := List.length_take_of_le h.1
  payload_length := by
    have := h.2
    rw [List.length_take, List.length_drop]
    omega

/-- What is left of a buffer after its first frame. -/
def Format.after (F : Format α) (buf : List α) : List α :=
  (buf.drop F.headerSize).drop (F.payloadSize (buf.take F.headerSize))

theorem Format.first_append_after (F : Format α) {buf : List α} (h : F.Complete buf) :
    (F.first buf h).symbols ++ F.after buf = buf := by
  simp only [Frame.symbols, Format.first, Format.after, List.append_assoc,
    List.take_append_drop]

/-- A buffer that starts with the symbols of a frame has that frame's header. -/
theorem Frame.take_header (f : Frame F) {buf rest : List α} (h : buf = f.symbols ++ rest) :
    buf.take F.headerSize = f.header := by
  rw [h, Frame.symbols, List.append_assoc, ← f.header_length]
  exact List.take_left

theorem Frame.complete_append (f : Frame F) (rest : List α) :
    F.Complete (f.symbols ++ rest) := by
  have hHeader := f.take_header (rfl : f.symbols ++ rest = f.symbols ++ rest)
  have hLength := f.length_symbols
  refine ⟨?_, ?_⟩
  · rw [List.length_append]
    omega
  · rw [hHeader, List.length_append]
    omega

theorem Format.Complete.append {buf : List α} (h : F.Complete buf) (more : List α) :
    F.Complete (buf ++ more) := by
  rw [← F.first_append_after h, List.append_assoc]
  exact (F.first buf h).complete_append _

theorem Frame.ext_symbols {f g : Frame F} (hHeader : f.header = g.header)
    (hPayload : f.payload = g.payload) : f = g := by
  cases f
  cases g
  cases hHeader
  cases hPayload
  rfl

theorem Frame.first_append (f : Frame F) (rest : List α) :
    F.first (f.symbols ++ rest) (f.complete_append rest) = f := by
  have hHeader := f.take_header (rfl : f.symbols ++ rest = f.symbols ++ rest)
  refine Frame.ext_symbols hHeader ?_
  have hDrop : (f.symbols ++ rest).drop F.headerSize = f.payload ++ rest := by
    rw [Frame.symbols, List.append_assoc, ← f.header_length]
    exact List.drop_left
  simp only [Format.first]
  rw [hHeader, hDrop, ← f.payload_length]
  exact List.take_left

theorem Frame.after_append (f : Frame F) (rest : List α) :
    F.after (f.symbols ++ rest) = rest := by
  have h := F.first_append_after (f.complete_append rest)
  rw [f.first_append rest] at h
  exact List.append_cancel_left h

/-- A prefix of a stream that starts with frame `f` is complete exactly when
it reaches past `f`. -/
theorem Frame.complete_iff (f : Frame F) {buf more rest : List α}
    (h : buf ++ more = f.symbols ++ rest) :
    F.Complete buf ↔ f.symbols.length ≤ buf.length := by
  constructor
  -- the frame's header is in the buffer, so the buffer's own measure is the frame's
  · rintro ⟨hHeader, hPayload⟩
    have hTake : buf.take F.headerSize = f.header := by
      rw [← f.take_header h, List.take_append_of_le_length hHeader]
    rw [hTake] at hPayload
    rw [f.length_symbols]
    exact hPayload
  · intro hLength
    have hPrefix : buf = f.symbols ++ buf.drop f.symbols.length := by
      have hTake : buf.take f.symbols.length = f.symbols := by
        have hMore : (buf ++ more).take f.symbols.length = buf.take f.symbols.length :=
          List.take_append_of_le_length hLength
        rw [← hMore, h]
        exact List.take_left
      calc buf = buf.take f.symbols.length ++ buf.drop f.symbols.length :=
            (List.take_append_drop ..).symm
        _ = _ := by rw [hTake]
    rw [hPrefix]
    exact f.complete_append _

/-- A frame of a stream, at its position: what precedes it is frames, too. -/
def Frame.At (f : Frame F) (stream : List α) (position : Nat) : Prop :=
  ∃ (before : List (Frame F)) (rest : List α),
    stream = before.flatMap Frame.symbols ++ (f.symbols ++ rest) ∧
      (before.flatMap Frame.symbols).length = position

/-- It stays where it is when the stream goes on. -/
theorem Frame.At.append {f : Frame F} {stream : List α} {position : Nat}
    (h : f.At stream position) (more : List α) : f.At (stream ++ more) position := by
  obtain ⟨before, rest, rfl, hPosition⟩ := h
  exact ⟨before, rest ++ more, by simp only [List.append_assoc], hPosition⟩

/-! ## The receiver -/

/-- A receiver: the frames it delivered and the symbols it holds. -/
structure Receiver {α : Type} (F : Format α) where
  delivered : List (Frame F)
  buffer : List α

/-- The state before the first read. -/
def Receiver.empty : Receiver F := ⟨[], []⟩

/-- One read: buffer the chunk, then deliver the first frame if it is whole. -/
def Receiver.read (r : Receiver F) (chunk : List α) : Receiver F :=
  if h : F.Complete (r.buffer ++ chunk) then
    ⟨r.delivered ++ [F.first _ h], F.after (r.buffer ++ chunk)⟩
  else
    ⟨r.delivered, r.buffer ++ chunk⟩

def Receiver.readAll (r : Receiver F) (chunks : List (List α)) : Receiver F :=
  chunks.foldl Receiver.read r

@[simp] theorem Receiver.readAll_nil (r : Receiver F) : r.readAll [] = r := rfl

@[simp] theorem Receiver.readAll_cons (r : Receiver F) (c : List α) (cs : List (List α)) :
    r.readAll (c :: cs) = (r.read c).readAll cs := rfl

/-- All symbols a receiver has seen: what it delivered, then what it holds. -/
def Receiver.symbols (r : Receiver F) : List α :=
  r.delivered.flatMap Frame.symbols ++ r.buffer

theorem Receiver.symbols_read (r : Receiver F) (chunk : List α) :
    (r.read chunk).symbols = r.symbols ++ chunk := by
  unfold Receiver.read
  split
  · rename_i h
    simp only [Receiver.symbols, List.flatMap_append, List.flatMap_cons, List.flatMap_nil,
      List.append_nil, List.append_assoc, F.first_append_after h]
  · simp only [Receiver.symbols, List.append_assoc]

/-! ## Which chunkings deliver everything -/

/-- How many leading frames of the given sizes fit in `n` symbols. -/
def completed : List Nat → Nat → Nat
  | [], _ => 0
  | size :: sizes, n => if size ≤ n then completed sizes (n - size) + 1 else 0

/-- The sizes of a list of frames. -/
def sizes (frames : List (Frame F)) : List Nat := frames.map fun f => f.symbols.length

theorem completed_sizes_zero (frames : List (Frame F)) : completed (sizes frames) 0 = 0 := by
  cases frames with
  | nil => rfl
  | cons f rest =>
    have := f.length_symbols
    have := F.headerSize_pos
    have hPos : ¬ f.symbols.length ≤ 0 := by omega
    simp only [sizes, List.map_cons, completed, if_neg hPos]

/-- The condition on the reads still to come under which a receiver with
`held` symbols in its buffer delivers all of `pending`: each read delivers
one frame at most, and only a complete one. -/
def Timely (pending : List (Frame F)) (held : Nat) (chunks : List (List α)) : Prop :=
  pending.length ≤ chunks.length ∧
    -- the next read is counted with what it brings
    ∀ pre c post, chunks = pre ++ c :: post →
      pending.length ≤
        completed (sizes pending) (held + (pre ++ [c]).flatten.length) + post.length

private theorem timely_cons {pending : List (Frame F)} {held : Nat} {c : List α}
    {cs : List (List α)} :
    Timely pending held (c :: cs) ↔
      pending.length ≤ cs.length + 1 ∧
      pending.length ≤ completed (sizes pending) (held + c.length) + cs.length ∧
      ∀ pre d post, cs = pre ++ d :: post →
        pending.length ≤
          completed (sizes pending) (held + c.length + (pre ++ [d]).flatten.length)
            + post.length := by
  constructor
  · rintro ⟨hLength, hAll⟩
    refine ⟨hLength, ?_, ?_⟩
    · simpa using hAll [] c cs rfl
    · intro pre d post hEq
      have := hAll (c :: pre) d post (by rw [hEq, List.cons_append])
      rw [List.cons_append, List.flatten_cons, List.length_append, ← Nat.add_assoc] at this
      exact this
  · rintro ⟨hLength, hHead, hTail⟩
    refine ⟨hLength, ?_⟩
    intro pre d post hEq
    cases pre with
    | nil =>
      obtain ⟨rfl, rfl⟩ := List.cons.inj hEq
      simpa using hHead
    | cons e pre =>
      obtain ⟨rfl, rfl⟩ := List.cons.inj hEq
      rw [List.cons_append, List.flatten_cons, List.length_append, ← Nat.add_assoc]
      exact hTail pre d post rfl

/-- A read that completes no frame leaves the condition as it was. -/
private theorem timely_cons_of_incomplete {f : Frame F} {rest : List (Frame F)} {held : Nat}
    {c : List α} {cs : List (List α)} (h : held + c.length < f.symbols.length) :
    Timely (f :: rest) held (c :: cs) ↔ Timely (f :: rest) (held + c.length) cs := by
  -- no frame is complete yet, so this read is one that may be missing later
  have hZero : completed (sizes (f :: rest)) (held + c.length) = 0 := by
    simp only [sizes, List.map_cons, completed, if_neg (Nat.not_le.mpr h)]
  rw [timely_cons, hZero, Timely]
  constructor
  · rintro ⟨-, hHead, hTail⟩
    exact ⟨by omega, hTail⟩
  · rintro ⟨hHead, hTail⟩
    exact ⟨by omega, by omega, hTail⟩

/-- A read that completes a frame leaves the condition for the frames after it. -/
private theorem timely_cons_of_complete {f : Frame F} {rest : List (Frame F)} {held : Nat}
    {c : List α} {cs : List (List α)} (h : f.symbols.length ≤ held + c.length) :
    Timely (f :: rest) held (c :: cs) ↔
      Timely rest (held + c.length - f.symbols.length) cs := by
  -- the frame counts on both sides, now and in every later read
  have hStep (n : Nat) (hn : held + c.length ≤ n) :
      completed (sizes (f :: rest)) n =
        completed (sizes rest) (n - f.symbols.length) + 1 := by
    simp only [sizes, List.map_cons, completed, if_pos (Nat.le_trans h hn)]
  rw [timely_cons, hStep _ (Nat.le_refl _), Timely, List.length_cons]
  constructor
  · rintro ⟨hLength, -, hTail⟩
    refine ⟨by omega, fun pre d post hEq => ?_⟩
    have := hTail pre d post hEq
    rw [hStep _ (by omega), Nat.sub_add_comm h] at this
    omega
  · rintro ⟨hLength, hTail⟩
    refine ⟨by omega, by omega, fun pre d post hEq => ?_⟩
    have := hTail pre d post hEq
    rw [hStep _ (by omega), Nat.sub_add_comm h]
    omega

/-- The receiver is where it should be on a stream of `frames`: it delivered
a first part of them, and its buffer with the input still to come is the rest. -/
structure OnStream (r : Receiver F) (frames pending : List (Frame F)) (input : List α) :
    Prop where
  delivered : r.delivered ++ pending = frames
  pending : r.buffer ++ input = pending.flatMap Frame.symbols

private theorem not_complete_nil : ¬ F.Complete ([] : List α) := by
  rintro ⟨h, -⟩
  have := F.headerSize_pos
  rw [List.length_nil] at h
  omega

/-- One read on a stream of frames: the next pending frame moves to
`delivered` if the buffer reaches past it, and nothing moves otherwise. -/
theorem OnStream.read {r : Receiver F} {frames pending : List (Frame F)} {c input : List α}
    (h : OnStream r frames pending (c ++ input)) :
    (∃ f rest, pending = f :: rest ∧ f.symbols.length ≤ r.buffer.length + c.length ∧
      (r.read c).buffer.length = r.buffer.length + c.length - f.symbols.length ∧
      OnStream (r.read c) frames rest input) ∨
    ((∀ f rest, pending = f :: rest → r.buffer.length + c.length < f.symbols.length) ∧
      (r.read c).buffer.length = r.buffer.length + c.length ∧
      OnStream (r.read c) frames pending input) := by
  have hStream : (r.buffer ++ c) ++ input = pending.flatMap Frame.symbols := by
    rw [List.append_assoc]
    exact h.pending
  have hKeep (hc : ¬ F.Complete (r.buffer ++ c)) :
      r.read c = ⟨r.delivered, r.buffer ++ c⟩ := dif_neg hc
  cases hp : pending with
  | nil =>
    -- nothing is pending: the buffer stays empty
    right
    rw [hp, List.flatMap_nil, List.append_eq_nil_iff] at hStream
    have hRead := hKeep (by rw [hStream.1]; exact not_complete_nil)
    rw [hRead]
    exact ⟨by rintro f rest ⟨⟩, List.length_append, by simpa [hp] using h.delivered,
      by simp [hStream]⟩
  | cons f rest =>
    rw [hp, List.flatMap_cons] at hStream
    by_cases hc : F.Complete (r.buffer ++ c)
    -- the read reaches past the next frame, which is delivered
    · left
      have hLength := (f.complete_iff hStream).mp hc
      obtain ⟨tail, hTail⟩ : ∃ tail, r.buffer ++ c = f.symbols ++ tail := by
        obtain ⟨tail, hTail⟩ := List.prefix_of_prefix_length_le
          (⟨_, rfl⟩ : f.symbols <+: f.symbols ++ rest.flatMap Frame.symbols)
          (⟨_, hStream⟩ : r.buffer ++ c <+: f.symbols ++ rest.flatMap Frame.symbols) hLength
        exact ⟨tail, hTail.symm⟩
      have hRead : r.read c = ⟨r.delivered ++ [f], tail⟩ := by
        have hFirst : ∀ buf (hbuf : F.Complete buf), buf = f.symbols ++ tail →
            F.first buf hbuf = f ∧ F.after buf = tail := by
          rintro buf hbuf rfl
          exact ⟨f.first_append tail, f.after_append tail⟩
        obtain ⟨h1, h2⟩ := hFirst _ hc hTail
        rw [Receiver.read, dif_pos hc, h1, h2]
      have hCount : r.buffer.length + c.length = f.symbols.length + tail.length := by
        rw [← List.length_append, hTail, List.length_append]
      rw [hRead]
      refine ⟨f, rest, rfl, by omega, by simp only; omega, ?_, ?_⟩
      · rw [List.append_assoc, List.singleton_append, ← hp]
        exact h.delivered
      · rw [hTail, List.append_assoc] at hStream
        exact List.append_cancel_left hStream
    -- it does not, and is kept
    · right
      have hLength : ¬ f.symbols.length ≤ (r.buffer ++ c).length :=
        fun hle => hc ((f.complete_iff hStream).mpr hle)
      rw [List.length_append] at hLength
      rw [hKeep hc]
      refine ⟨?_, List.length_append, ?_, ?_⟩
      · rintro g gs ⟨⟩
        omega
      · rw [← hp]
        exact h.delivered
      · rw [List.flatMap_cons]
        exact hStream

/-- The run lemma: from any state on the stream, the reads still to come
deliver everything exactly when they are timely. -/
theorem OnStream.readAll_delivers_iff {r : Receiver F} {frames pending : List (Frame F)}
    {chunks : List (List α)} (h : OnStream r frames pending chunks.flatten) :
    r.readAll chunks = ⟨frames, []⟩ ↔ Timely pending r.buffer.length chunks := by
  -- on the reads: each delivers the next frame, or none
  induction chunks generalizing r pending with
  | nil =>
    have hPending := h.pending
    rw [List.flatten_nil, List.append_nil] at hPending
    constructor
    · intro hr
      rw [Receiver.readAll_nil] at hr
      subst hr
      have hNil : pending = [] := List.append_right_eq_self.mp h.delivered
      subst hNil
      exact ⟨Nat.le_refl _, by rintro (_ | ⟨_, _⟩) _ _ ⟨⟩⟩
    · rintro ⟨hLength, -⟩
      have hNil : pending = [] := List.eq_nil_of_length_eq_zero (by simpa using hLength)
      subst hNil
      have hDelivered := h.delivered
      rw [List.append_nil] at hDelivered
      cases r
      simp_all
  | cons c cs ih =>
    rw [Receiver.readAll_cons]
    rw [List.flatten_cons] at h
    rcases h.read with ⟨f, rest, rfl, hLength, hBuffer, hNext⟩ | ⟨hShort, hBuffer, hNext⟩
    · rw [ih hNext, hBuffer, timely_cons_of_complete hLength]
    · rw [ih hNext, hBuffer]
      cases pending with
      | nil => simp [Timely]
      | cons f rest => rw [timely_cons_of_incomplete (hShort f rest rfl)]

/-- **Which chunkings deliver every frame.** A receiver that starts empty has
delivered all frames of a stream after its last chunk exactly when, at every
point between two reads, the frames not yet complete are no more than the
reads still to come. -/
theorem Receiver.readAll_delivers_iff {frames : List (Frame F)} {chunks : List (List α)}
    (hStream : chunks.flatten = frames.flatMap Frame.symbols) :
    (Receiver.empty : Receiver F).readAll chunks = ⟨frames, []⟩ ↔
      ∀ pre post, chunks = pre ++ post →
        frames.length ≤ completed (sizes frames) pre.flatten.length + post.length := by
  have hOn : OnStream (Receiver.empty : Receiver F) frames frames chunks.flatten :=
    ⟨List.nil_append _, hStream⟩
  rw [hOn.readAll_delivers_iff]
  simp only [Receiver.empty, List.length_nil, Timely, Nat.zero_add]
  constructor
  · rintro ⟨hLength, hAll⟩ pre post hEq
    -- a point before the first read, or after some last one
    rcases List.eq_nil_or_concat pre with rfl | ⟨pre, c, rfl⟩
    · rw [List.nil_append] at hEq
      rw [List.flatten_nil, List.length_nil, completed_sizes_zero, Nat.zero_add, ← hEq]
      exact hLength
    · rw [List.concat_eq_append] at hEq ⊢
      exact hAll pre c post (by rw [hEq, List.append_assoc, List.singleton_append])
  · intro hAll
    refine ⟨?_, fun pre c post hEq => ?_⟩
    · simpa [completed_sizes_zero] using hAll [] chunks rfl
    · exact hAll (pre ++ [c]) post (by rw [hEq, List.append_assoc, List.singleton_append])

end Framing
