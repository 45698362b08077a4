import Giblet.YMsg.Builder
import Giblet.YMsg.Parser
import Giblet.YMsg.StreamFraming

/-!
# YMsg — what is built can be read back

`Builder` against `ProtocolStream` and `PacketParser`. The payload a builder
writes is tokenised into exactly the appended pairs (`tokens_encode`), and
the packet around it is a well-formed frame (`builtPacket`), so a stream
dispatches it once, however it is cut up. Conversely the values a parse
delivers are free of terminators (`clean_of_mem_tokens`), so they can be
encoded again.
-/

namespace Giblet.YMsg

open Framing PacketParser

/-! ## Keys and values -/

/-- A value without the adjacent bytes `C0 80`. -/
abbrev Unterminated (value : Bytes) : Prop :=
  Terminator.Clean TerminatorByte1 TerminatorByte2 value

theorem clampLong_toInt (key : Int32) : clampLong key.toInt = key := by
  have hLow := key.le_toInt
  have hHigh := key.toInt_lt
  rw [clampLong, min_eq_left (by omega), max_eq_right (by omega), Int32.ofInt_toInt]

/-- The key that `to_string` printed is the key that `strtol` reads. -/
theorem strtol_ofInt (key : Int32) : strtol (Numeral.ofInt key.toInt) = key := by
  obtain ⟨k, hk⟩ := Numeral.scan_ofInt key.toInt (c := 0) (by decide) []
  rw [strtol, hk]
  exact clampLong_toInt key

theorem toNat_of_mem_ofInt {i : Int} {c : UInt8} (h : c ∈ Numeral.ofInt i) :
    c.toNat = 45 ∨ 48 ≤ c.toNat ∧ c.toNat ≤ 57 := by
  rcases Numeral.isDigit_or_minus_of_mem_ofInt h with h | rfl
  · rw [Numeral.isDigit, Bool.and_eq_true, decide_eq_true_eq, decide_eq_true_eq] at h
    exact .inr h
  · exact .inl rfl

/-- A printed key contains no byte that could start a terminator. -/
theorem ofInt_clean (i : Int) : Unterminated (Numeral.ofInt i) := by
  refine Terminator.clean_of_not_mem fun h => ?_
  rcases toNat_of_mem_ofInt h with h | h
  · exact absurd h (by decide)
  · exact absurd h (by decide)

/-- The first token of an encoded pair is the pair. -/
theorem firstToken_encodePair {pair : Int32 × Bytes} (hValue : Unterminated pair.2)
    (rest : Bytes) :
    firstToken (Builder.encodePair pair ++ rest) =
      .ok (some (⟨pair.1, .ofField pair.2 (Builder.terminator ++ rest)⟩, rest)) := by
  obtain ⟨key, value⟩ := pair
  -- neither the key nor the value holds a terminator, so each is cut at its own
  have hFirst := Terminator.cut_append (by decide : TerminatorByte1 ≠ TerminatorByte2)
    (ofInt_clean key.toInt) (value ++ (Builder.terminator ++ rest))
  have hSecond := Terminator.cut_append (by decide : TerminatorByte1 ≠ TerminatorByte2)
    hValue rest
  have hEncode : Builder.encodePair (key, value) ++ rest =
      Numeral.ofInt key.toInt ++ TerminatorByte1 :: TerminatorByte2 ::
        (value ++ (Builder.terminator ++ rest)) := by
    simp only [Builder.encodePair, List.append_assoc]
    rfl
  have hKey := Numeral.ofInt_ne_nil key.toInt
  obtain ⟨b, bs, hCons⟩ := List.exists_cons_of_ne_nil hKey
  -- a printed key starts with a digit or a minus sign
  have hNonzero : b ≠ 0 := by
    rintro rfl
    have hMem : (0 : UInt8) ∈ Numeral.ofInt key.toInt := by
      rw [hCons]
      exact List.mem_cons_self ..
    rcases toNat_of_mem_ofInt hMem with h | h
    · exact absurd h (by decide)
    · exact absurd h.1 (by decide)
  rw [hEncode]
  rw [hCons, List.cons_append] at hFirst ⊢
  simp only [firstToken, findTerminator, if_neg hNonzero, hFirst]
  rw [← hCons, if_neg hKey, strtol_ofInt]
  have hDrop : (value ++ (Builder.terminator ++ rest)).drop value.length =
      Builder.terminator ++ rest := List.drop_left
  have hTerminator : Builder.terminator ++ rest =
      TerminatorByte1 :: TerminatorByte2 :: rest := rfl
  rw [hTerminator] at hDrop ⊢
  rw [hSecond, hDrop]

/-- The tokens of pairs that are encoded before `rest`. -/
def tokensOf : List (Int32 × Bytes) → List Token
  | [] => []
  | (key, value) :: pairs =>
    ⟨key, .ofField value (Builder.terminator ++ Builder.encode pairs)⟩ :: tokensOf pairs

/-- **An encoded payload is tokenised into its pairs.** -/
theorem tokens_encode {pairs : List (Int32 × Bytes)} (hPairs : ∀ p ∈ pairs, Unterminated p.2) :
    tokens (Builder.encode pairs) = (tokensOf pairs, none) := by
  induction pairs with
  | nil => rfl
  | cons pair pairs ih =>
    rw [tokens_eq, Builder.encode_cons,
      firstToken_encodePair (hPairs pair (List.mem_cons_self ..))]
    simp only [ih fun p hp => hPairs p (List.mem_cons_of_mem _ hp)]
    rfl

/-- No value that a parse delivers contains the terminator. -/
theorem clean_of_mem_tokens {payload : Bytes} {t : Token} (h : t ∈ (tokens payload).1) :
    Unterminated t.value.chars := by
  refine tokens_induction (P := fun _ ts => t ∈ ts.1 → Unterminated t.value.chars) ?_ ?_ ?_
    payload h
  · intro payload e hFirst h
    cases h
  · intro payload hFirst h
    cases h
  · intro payload first rest hFirst ih h
    rcases List.mem_cons.mp h with rfl | h
    -- the value of a token is what a cut gave
    · cases payload with
      | nil => simp [firstToken] at hFirst
      | cons b bs =>
        simp only [firstToken] at hFirst
        split_ifs at hFirst
        · cases hFirst
        · cases hFirst
          rw [StringView.chars_ofField]
          exact Terminator.cut_clean TerminatorByte1 TerminatorByte2 _
    · exact ih h

/-! ## Delivery to a recording payload -/

/-- A payload object that records the pairs it is handed. -/
def collect (key : Int32) (value : StringView) : Action (List (Int32 × Bytes)) Unit :=
  fun pairs => .ok () (pairs ++ [(key, value.chars)])

/-- The pairs that tokens stand for. -/
def PacketParser.Token.pair (t : Token) : Int32 × Bytes := (t.key, t.value.chars)

/-- The pairs `Parse` delivers for a payload, up to its end or its exception. -/
def delivered (payload : Bytes) : List (Int32 × Bytes) := (tokens payload).1.map Token.pair

theorem deliver_collect (ts : List Token) (e : Option Fault) (pairs : List (Int32 × Bytes)) :
    deliver collect ts e pairs =
      match e with
      | none => .ok () (pairs ++ ts.map Token.pair)
      | some e => .error e (pairs ++ ts.map Token.pair) := by
  induction ts generalizing pairs with
  | nil =>
    rw [List.map_nil, List.append_nil]
    cases e <;> rfl
  | cons t ts ih =>
    simp only [deliver, bind, EStateM.bind, collect]
    rw [ih, List.append_assoc, List.map_cons]
    rfl

/-- What a recording payload holds when `Parse` is done, or throws. -/
theorem parse_collect (payload : Bytes) :
    parse collect payload [] = .ok () (delivered payload) ∨
      ∃ e, parse collect payload [] = .error e (delivered payload) := by
  rw [parse_eq_tokens, deliver_collect]
  cases (tokens payload).2 with
  | none => exact .inl rfl
  | some e => exact .inr ⟨e, rfl⟩

theorem map_pair_tokensOf (pairs : List (Int32 × Bytes)) :
    (tokensOf pairs).map Token.pair = pairs := by
  induction pairs with
  | nil => rfl
  | cons pair pairs ih => rw [tokensOf, List.map_cons, ih, Token.pair, StringView.chars_ofField]

theorem parse_encode {pairs : List (Int32 × Bytes)} (hPairs : ∀ p ∈ pairs, Unterminated p.2) :
    parse collect (Builder.encode pairs) [] = .ok () pairs := by
  rw [parse_eq_tokens, tokens_encode hPairs, deliver_collect, map_pair_tokensOf]
  rfl

/-! ## Delivery by the stream -/

/-- A packet as `Builder` makes it. -/
def builtPacket (header : Header) (pairs : List (Int32 × Bytes))
    (h : RawHeader.size + (Builder.encode pairs).length < Builder.PaxPayloadSize) : Packet where
  header := (Builder.sized header (Builder.encode pairs)).toRaw.store
  payload := Builder.encode pairs
  header_length := RawHeader.length_store _
  payload_length := by
    have hLoad := RawHeader.load_store (Builder.sized header (Builder.encode pairs)).toRaw []
    rw [List.append_nil] at hLoad
    have hSize := congrArg (fun h => (ntohs h.payloadSize).toNat) hLoad
    simp only [RawHeader.load, toNat_ntohs_load16, Header.toRaw, ntohs_htons,
      Builder.sized] at hSize
    have hLt : (Builder.encode pairs).length < 2 ^ 16 := by
      simp only [RawHeader.size, Builder.PaxPayloadSize] at h
      omega
    rw [UInt16.toNat_ofNat', Nat.mod_eq_of_lt hLt] at hSize
    exact hSize.symm

theorem ofWire_builtPacket (header : Header) (pairs : List (Int32 × Bytes)) (h) :
    Header.ofWire (builtPacket header pairs h).header =
      Builder.sized header (Builder.encode pairs) := by
  have hLoad := RawHeader.load_store (Builder.sized header (Builder.encode pairs)).toRaw []
  rw [List.append_nil] at hLoad
  rw [← Header.ofRaw_load, builtPacket, hLoad, Header.ofRaw_toRaw]

/-- A single packet is dispatched however it is cut up. -/
theorem processAll_single {σ : Type} {dispatcher : DispatcherFunction σ}
    (hNormal : ReturnsNormally dispatcher) (w : σ) (packet : Packet) {chunks : List Bytes}
    (hChunks : ∀ c ∈ chunks, c ≠ []) (hStream : chunks.flatten = packet.symbols) :
    ∃ w', processAll (recording dispatcher) (chunks.map Reading.bytes) (⟨[]⟩, [], w) =
      .ok () (⟨[]⟩, [Dispatched.ofPacket packet], w') := by
  obtain ⟨w', hRun⟩ := processAll_simulates hNormal Receiver.empty w (chunks.map Reading.bytes)
  rw [foldl_deliver_bytes hChunks] at hRun
  -- one packet needs one read at its end, and there is one: no chunk is empty
  have hAll : (Receiver.empty : Receiver ymsgFormat).readAll chunks = ⟨[packet], []⟩ := by
    rw [Receiver.readAll_delivers_iff (by rw [hStream]; simp)]
    intro pre post hEq
    cases post with
    | cons c cs =>
      simp only [List.length_cons, List.length_nil]
      omega
    | nil =>
      rw [List.append_nil] at hEq
      rw [← hEq, hStream]
      simp [sizes, completed]
  rw [hAll] at hRun
  exact ⟨w', hRun⟩

/-! ## Results -/

theorem delivered_clean {payload : Bytes} {p : Int32 × Bytes} (h : p ∈ delivered payload) :
    Unterminated p.2 := by
  obtain ⟨t, ht, rfl⟩ := List.mem_map.mp h
  exact clean_of_mem_tokens ht

/-- **Round trip.** Pairs without terminators in their values that fit into a
packet are sent as one packet of the announced size; a stream dispatches it
once with the header it was built with, and parsing its payload gives the
pairs back. Whatever a parse delivers, from any payload, can be encoded and
parsed again. -/
theorem build_roundTrip {σ : Type} {dispatcher : DispatcherFunction σ}
    (hNormal : ReturnsNormally dispatcher) (w : σ) (sessionId : UInt32)
    (protoVersion serviceId : UInt16) (attributeId : UInt32) {pairs : List (Int32 × Bytes)}
    (hPairs : ∀ p ∈ pairs, Unterminated p.2)
    (hSize : RawHeader.size + (Builder.encode pairs).length < Builder.PaxPayloadSize)
    (b : Builder) :
    (∃ packet,
      Builder.build (Header.new sessionId protoVersion serviceId attributeId) pairs b =
        .ok packet ⟨[]⟩ ∧
      be16 packet 8 + RawHeader.size = packet.length ∧
      (∀ chunks : List Bytes, (∀ c ∈ chunks, c ≠ []) → chunks.flatten = packet →
        ∃ header w', processAll (recording dispatcher) (chunks.map Reading.bytes)
            (⟨[]⟩, [], w) =
          .ok () (⟨[]⟩, [⟨packet.take RawHeader.size, header, packet.drop RawHeader.size⟩], w') ∧
          header.sessionId = sessionId ∧ header.protoVersion = protoVersion ∧
          header.serviceId = serviceId ∧ header.attributeId = attributeId ∧
          header.vendorId = 0) ∧
      parse collect (packet.drop RawHeader.size) [] = .ok () pairs) ∧
    ∀ payload pairs',
      (parse collect payload [] = .ok () pairs' ∨
        ∃ e, parse collect payload [] = .error e pairs') →
      (∀ p ∈ pairs', Unterminated p.2) ∧
      parse collect (Builder.encode pairs') [] = .ok () pairs' := by
  refine ⟨?_, ?_⟩
  · let header := Header.new sessionId protoVersion serviceId attributeId
    let packet := builtPacket header pairs hSize
    have hTake : packet.symbols.take RawHeader.size = packet.header :=
      packet.take_header (List.append_nil _).symm
    have hDrop : packet.symbols.drop RawHeader.size = Builder.encode pairs :=
      List.drop_left' packet.header_length
    refine ⟨packet.symbols, ?_, ?_, ?_, ?_⟩
    · exact Builder.build_of_fits header b hSize
    -- the size that the header announces is the payload's
    · have hAnnounced : be16 packet.symbols 8 = be16 packet.header 8 := by
        rw [← hTake, be16, be16, byteAt_take (by decide), byteAt_take (by decide)]
      rw [hAnnounced, packet.length_symbols, Nat.add_comm]
      rfl
    · intro chunks hChunks hStream
      obtain ⟨w', hRun⟩ := processAll_single hNormal w packet hChunks hStream
      refine ⟨Builder.sized header (Builder.encode pairs), w', ?_, rfl, rfl, rfl, rfl, rfl⟩
      rw [hRun, hTake, hDrop, Dispatched.ofPacket, ofWire_builtPacket]
      rfl
    · rw [hDrop]
      exact parse_encode hPairs
  · intro payload pairs' hParse
    -- however the parse ended, the pairs are those it delivered
    have hDelivered : pairs' = delivered payload := by
      rcases parse_collect payload with h | ⟨e, h⟩
      · rw [h] at hParse
        rcases hParse with hEq | ⟨_, hEq⟩
        · cases hEq
          rfl
        · cases hEq
      · rw [h] at hParse
        rcases hParse with hEq | ⟨_, hEq⟩
        · cases hEq
        · cases hEq
          rfl
    rw [hDelivered]
    have hClean : ∀ p ∈ delivered payload, Unterminated p.2 := fun p hp => delivered_clean hp
    exact ⟨hClean, parse_encode hClean⟩

/-- Awkward pairs: an extreme key, an empty value, one that ends in `C0`, one that starts
with `80`, and one with `C0` inside. -/
def awkwardPairs : List (Int32 × Bytes) :=
  [(-2147483648, []), (0, [0x41, 0xc0]), (7, [0x80, 0xc0]), (7, [0xc0, 0x41, 0x80])]

theorem build_roundTrip_awkward :
    (∃ packet, Builder.build (Header.new 0xdeadbeef 16 75 1) awkwardPairs ⟨[]⟩ =
        .ok packet ⟨[]⟩ ∧
      be16 packet 8 + RawHeader.size = packet.length ∧
      (∀ chunks : List Bytes, (∀ c ∈ chunks, c ≠ []) → chunks.flatten = packet →
        ∃ header w', processAll (recording quiet) (chunks.map Reading.bytes) (⟨[]⟩, [], ()) =
          .ok () (⟨[]⟩, [⟨packet.take RawHeader.size, header, packet.drop RawHeader.size⟩], w') ∧
          header.sessionId = 0xdeadbeef ∧ header.protoVersion = 16 ∧
          header.serviceId = 75 ∧ header.attributeId = 1 ∧ header.vendorId = 0) ∧
      parse collect (packet.drop RawHeader.size) [] = .ok () awkwardPairs) ∧
    ∀ payload pairs',
      (parse collect payload [] = .ok () pairs' ∨
        ∃ e, parse collect payload [] = .error e pairs') →
      (∀ p ∈ pairs', Unterminated p.2) ∧
      parse collect (Builder.encode pairs') [] = .ok () pairs' :=
  have hPairs : ∀ p ∈ awkwardPairs, Unterminated p.2 := by decide
  build_roundTrip quiet_returnsNormally () 0xdeadbeef 16 75 1 hPairs (by decide) ⟨[]⟩

end Giblet.YMsg
