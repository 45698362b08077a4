import Giblet.YMsg.Types

/-!
# YMsg — the packet header

`RawHeader` is the packed struct as the (little-endian) machine sees it,
`Header` its host-order counterpart, and `ntohs`/`ntohl` swap between the
two. `Header.ofRaw_load` states what the round about bytes amounts to: every
field is read big-endian from its offset on the wire.
-/

namespace Giblet.YMsg

/-! ## Loads, stores and byte order -/

/-- The byte at an offset of a buffer. -/
def byteAt (b : Bytes) (i : Nat) : Nat := (b.getD i 0).toNat

/-- A little-endian load of a 16-bit field. -/
def load16 (b : Bytes) (i : Nat) : UInt16 :=
  UInt16.ofNat (byteAt b i + 2 ^ 8 * byteAt b (i + 1))

/-- A little-endian load of a 32-bit field. -/
def load32 (b : Bytes) (i : Nat) : UInt32 :=
  UInt32.ofNat (byteAt b i + 2 ^ 8 * byteAt b (i + 1) + 2 ^ 16 * byteAt b (i + 2) +
    2 ^ 24 * byteAt b (i + 3))

/-- A little-endian store of a 16-bit field. -/
def store16 (x : UInt16) : Bytes :=
  [UInt8.ofNat (x.toNat % 2 ^ 8), UInt8.ofNat (x.toNat / 2 ^ 8)]

/-- A little-endian store of a 32-bit field. -/
def store32 (x : UInt32) : Bytes :=
  [UInt8.ofNat (x.toNat % 2 ^ 8), UInt8.ofNat (x.toNat / 2 ^ 8 % 2 ^ 8),
    UInt8.ofNat (x.toNat / 2 ^ 16 % 2 ^ 8), UInt8.ofNat (x.toNat / 2 ^ 24)]

/-- WinSock's `ntohs`: swap the two bytes. -/
def ntohs (x : UInt16) : UInt16 :=
  UInt16.ofNat (2 ^ 8 * (x.toNat % 2 ^ 8) + x.toNat / 2 ^ 8)

/-- WinSock's `ntohl`: reverse the four bytes. -/
def ntohl (x : UInt32) : UInt32 :=
  UInt32.ofNat (2 ^ 24 * (x.toNat % 2 ^ 8) + 2 ^ 16 * (x.toNat / 2 ^ 8 % 2 ^ 8) +
    2 ^ 8 * (x.toNat / 2 ^ 16 % 2 ^ 8) + x.toNat / 2 ^ 24)

/-- WinSock's `htons` does what `ntohs` does. -/
def htons (x : UInt16) : UInt16 := ntohs x

/-- WinSock's `htonl` does what `ntohl` does. -/
def htonl (x : UInt32) : UInt32 := ntohl x

theorem toNat_ntohs (x : UInt16) :
    (ntohs x).toNat = 2 ^ 8 * (x.toNat % 2 ^ 8) + x.toNat / 2 ^ 8 := by
  have hx := x.toNat_lt
  rw [ntohs, UInt16.toNat_ofNat', Nat.mod_eq_of_lt (by omega)]

theorem toNat_ntohl (x : UInt32) :
    (ntohl x).toNat = 2 ^ 24 * (x.toNat % 2 ^ 8) + 2 ^ 16 * (x.toNat / 2 ^ 8 % 2 ^ 8) +
      2 ^ 8 * (x.toNat / 2 ^ 16 % 2 ^ 8) + x.toNat / 2 ^ 24 := by
  have hx := x.toNat_lt
  rw [ntohl, UInt32.toNat_ofNat', Nat.mod_eq_of_lt (by omega)]

theorem ntohs_htons (x : UInt16) : ntohs (htons x) = x := by
  have hx := x.toNat_lt
  apply UInt16.toNat_inj.mp
  rw [htons, toNat_ntohs, toNat_ntohs]
  omega

/-- The swap on a number given by its base-256 digits. -/
theorem toNat_ntohl_digits {x : UInt32} {a b c d : Nat} (ha : a < 2 ^ 8) (hb : b < 2 ^ 8)
    (hc : c < 2 ^ 8)
    (hx : x.toNat = a + 2 ^ 8 * b + 2 ^ 16 * c + 2 ^ 24 * d) :
    (ntohl x).toNat = d + 2 ^ 8 * c + 2 ^ 16 * b + 2 ^ 24 * a := by
  rw [toNat_ntohl, hx]
  omega

theorem ntohl_htonl (x : UInt32) : ntohl (htonl x) = x := by
  have hx := x.toNat_lt
  -- both swaps are read off the digits; the second gives back the first's
  have hDigits : x.toNat = x.toNat % 2 ^ 8 + 2 ^ 8 * (x.toNat / 2 ^ 8 % 2 ^ 8) +
      2 ^ 16 * (x.toNat / 2 ^ 16 % 2 ^ 8) + 2 ^ 24 * (x.toNat / 2 ^ 24) := by omega
  have hTop : x.toNat / 2 ^ 24 < 2 ^ 8 := by omega
  have hOnce := toNat_ntohl_digits (Nat.mod_lt _ (by decide)) (Nat.mod_lt _ (by decide))
    (Nat.mod_lt _ (by decide)) hDigits
  apply UInt32.toNat_inj.mp
  rw [htonl, toNat_ntohl_digits hTop (Nat.mod_lt _ (by decide)) (Nat.mod_lt _ (by decide))
    hOnce, ← hDigits]

theorem byteAt_lt (b : Bytes) (i : Nat) : byteAt b i < 2 ^ 8 := UInt8.toNat_lt _

/-- The big-endian value of two bytes of a buffer. -/
def be16 (b : Bytes) (i : Nat) : Nat := 2 ^ 8 * byteAt b i + byteAt b (i + 1)

/-- The big-endian value of four bytes of a buffer. -/
def be32 (b : Bytes) (i : Nat) : Nat := 2 ^ 16 * be16 b i + be16 b (i + 2)

theorem toNat_load16 (b : Bytes) (i : Nat) :
    (load16 b i).toNat = byteAt b i + 2 ^ 8 * byteAt b (i + 1) := by
  have h0 := byteAt_lt b i
  have h1 := byteAt_lt b (i + 1)
  rw [load16, UInt16.toNat_ofNat', Nat.mod_eq_of_lt (by omega)]

theorem toNat_load32 (b : Bytes) (i : Nat) :
    (load32 b i).toNat = byteAt b i + 2 ^ 8 * byteAt b (i + 1) + 2 ^ 16 * byteAt b (i + 2) +
      2 ^ 24 * byteAt b (i + 3) := by
  have h0 := byteAt_lt b i
  have h1 := byteAt_lt b (i + 1)
  have h2 := byteAt_lt b (i + 2)
  have h3 := byteAt_lt b (i + 3)
  rw [load32, UInt32.toNat_ofNat', Nat.mod_eq_of_lt (by omega)]

theorem toNat_ntohs_load16 (b : Bytes) (i : Nat) : (ntohs (load16 b i)).toNat = be16 b i := by
  have h0 := byteAt_lt b i
  have h1 := byteAt_lt b (i + 1)
  rw [toNat_ntohs, toNat_load16, be16]
  omega

theorem toNat_ntohl_load32 (b : Bytes) (i : Nat) : (ntohl (load32 b i)).toNat = be32 b i := by
  have h0 := byteAt_lt b i
  have h1 := byteAt_lt b (i + 1)
  have h2 := byteAt_lt b (i + 2)
  have h3 := byteAt_lt b (i + 3)
  rw [toNat_ntohl, toNat_load32, be32, be16, be16, show i + 2 + 1 = i + 3 from rfl]
  omega

theorem ntohs_load16 (b : Bytes) (i : Nat) : ntohs (load16 b i) = UInt16.ofNat (be16 b i) := by
  rw [← toNat_ntohs_load16, UInt16.ofNat_toNat]

theorem ntohl_load32 (b : Bytes) (i : Nat) : ntohl (load32 b i) = UInt32.ofNat (be32 b i) := by
  rw [← toNat_ntohl_load32, UInt32.ofNat_toNat]

/-! ## RawHeader and Header -/

/-- `RawHeader`: the packed struct, its fields in network byte order. -/
structure RawHeader where
  signature : UInt32
  protoVersion : UInt16
  vendorId : UInt16
  payloadSize : UInt16
  serviceId : UInt16
  attributeId : UInt32
  sessionId : UInt32
  deriving DecidableEq, Repr

/-- `RawHeader::Signature`, the characters `YMSG`. -/
def RawHeader.Signature : UInt32 := 0x594d5347

/-- `sizeof(RawHeader)`. -/
def RawHeader.size : Nat := 20

/-- `reinterpret_cast<RawHeader*>(data)`, read. -/
def RawHeader.load (data : Bytes) : RawHeader where
  signature := load32 data 0
  protoVersion := load16 data 4
  vendorId := load16 data 6
  payloadSize := load16 data 8
  serviceId := load16 data 10
  attributeId := load32 data 12
  sessionId := load32 data 16

/-- `*reinterpret_cast<RawHeader*>(data) = header`, the bytes written. -/
def RawHeader.store (header : RawHeader) : Bytes :=
  store32 header.signature ++ store16 header.protoVersion ++ store16 header.vendorId ++
    store16 header.payloadSize ++ store16 header.serviceId ++ store32 header.attributeId ++
    store32 header.sessionId

/-- `Header`: the header in host byte order. -/
structure Header where
  protoVersion : UInt16
  vendorId : UInt16
  payloadSize : UInt16
  serviceId : UInt16
  attributeId : UInt32
  sessionId : UInt32
  deriving DecidableEq, Repr

/-- `Header::Header(sessionId, protoVersion, serviceId, attributeId)`. -/
def Header.new (sessionId : UInt32) (protoVersion serviceId : UInt16) (attributeId : UInt32) :
    Header where
  protoVersion := protoVersion
  vendorId := 0
  payloadSize := 0
  serviceId := serviceId
  attributeId := attributeId
  sessionId := sessionId

/-- `Header::Header(const rawheader_type&)`. -/
def Header.ofRaw (other : RawHeader) : Header where
  protoVersion := ntohs other.protoVersion
  vendorId := ntohs other.vendorId
  payloadSize := ntohs other.payloadSize
  serviceId := ntohs other.serviceId
  attributeId := ntohl other.attributeId
  sessionId := ntohl other.sessionId

/-- `Header::operator rawheader_type()`. -/
def Header.toRaw (h : Header) : RawHeader where
  signature := htonl RawHeader.Signature
  protoVersion := htons h.protoVersion
  vendorId := htons h.vendorId
  payloadSize := htons h.payloadSize
  serviceId := htons h.serviceId
  attributeId := htonl h.attributeId
  sessionId := htonl h.sessionId

@[simp] theorem RawHeader.length_store (header : RawHeader) :
    header.store.length = RawHeader.size := rfl

theorem byteAt_append (pre rest : Bytes) (k : Nat) :
    byteAt (pre ++ rest) (pre.length + k) = byteAt rest k := by
  rw [byteAt, byteAt, List.getD_eq_getElem?_getD, List.getD_eq_getElem?_getD,
    List.getElem?_append_right (Nat.le_add_right ..), Nat.add_sub_cancel_left]

theorem load16_store16 (x : UInt16) (pre rest : Bytes) :
    load16 (pre ++ (store16 x ++ rest)) pre.length = x := by
  have hx := x.toNat_lt
  apply UInt16.toNat_inj.mp
  -- both bytes are those that were stored, wherever the store lies
  have h0 := byteAt_append pre (store16 x ++ rest) 0
  have h1 := byteAt_append pre (store16 x ++ rest) 1
  simp only [store16, byteAt, List.cons_append, List.getD_cons_zero, List.getD_cons_succ,
    UInt8.toNat_ofNat', Nat.add_zero] at h0 h1
  simp only [toNat_load16, byteAt, store16, List.cons_append, h0, h1]
  omega

theorem load32_store32 (x : UInt32) (pre rest : Bytes) :
    load32 (pre ++ (store32 x ++ rest)) pre.length = x := by
  have hx := x.toNat_lt
  apply UInt32.toNat_inj.mp
  have h0 := byteAt_append pre (store32 x ++ rest) 0
  have h1 := byteAt_append pre (store32 x ++ rest) 1
  have h2 := byteAt_append pre (store32 x ++ rest) 2
  have h3 := byteAt_append pre (store32 x ++ rest) 3
  simp only [store32, byteAt, List.cons_append, List.getD_cons_zero, List.getD_cons_succ,
    UInt8.toNat_ofNat', Nat.add_zero] at h0 h1 h2 h3
  simp only [toNat_load32, byteAt, store32, List.cons_append, h0, h1, h2, h3]
  omega

/-- A stored header is loaded back, whatever follows it. -/
theorem RawHeader.load_store (header : RawHeader) (rest : Bytes) :
    RawHeader.load (header.store ++ rest) = header := by
  obtain ⟨sig, ver, ven, size, svc, attr, sid⟩ := header
  simp only [RawHeader.store, RawHeader.load, List.append_assoc, RawHeader.mk.injEq]
  -- each field lies behind the stores of the fields before it
  refine ⟨?_, ?_, ?_, ?_, ?_, ?_, ?_⟩
  · exact load32_store32 sig [] _
  · exact load16_store16 ver (store32 sig) _
  · exact load16_store16 ven (store32 sig ++ store16 ver) _
  · exact load16_store16 size (store32 sig ++ store16 ver ++ store16 ven) _
  · exact load16_store16 svc (store32 sig ++ store16 ver ++ store16 ven ++ store16 size) _
  · exact load32_store32 attr
      (store32 sig ++ store16 ver ++ store16 ven ++ store16 size ++ store16 svc) _
  · exact load32_store32 sid
      (store32 sig ++ store16 ver ++ store16 ven ++ store16 size ++ store16 svc ++
        store32 attr) _

theorem Header.ofRaw_toRaw (h : Header) : Header.ofRaw h.toRaw = h := by
  simp only [Header.ofRaw, Header.toRaw, ntohs_htons, ntohl_htonl]

/-- The header on the wire, every field read big-endian at its offset. -/
def Header.ofWire (data : Bytes) : Header where
  protoVersion := UInt16.ofNat (be16 data 4)
  vendorId := UInt16.ofNat (be16 data 6)
  payloadSize := UInt16.ofNat (be16 data 8)
  serviceId := UInt16.ofNat (be16 data 10)
  attributeId := UInt32.ofNat (be32 data 12)
  sessionId := UInt32.ofNat (be32 data 16)

/-- The header the code decodes is the big-endian header on the wire. -/
theorem Header.ofRaw_load (data : Bytes) :
    Header.ofRaw (RawHeader.load data) = Header.ofWire data := by
  simp only [Header.ofRaw, RawHeader.load, Header.ofWire, ntohs_load16, ntohl_load32]

theorem byteAt_take {data : Bytes} {n i : Nat} (h : i < n) :
    byteAt (data.take n) i = byteAt data i := by
  simp only [byteAt, List.getD_eq_getElem?_getD, List.getElem?_take_of_lt h]

/-- Only the first 20 bytes of a buffer matter to its header. -/
theorem RawHeader.load_take (data : Bytes) :
    RawHeader.load (data.take RawHeader.size) = RawHeader.load data := by
  -- every load of the header is at an offset below 20
  have h (i : Nat) (hi : i < 20) : byteAt (data.take RawHeader.size) i = byteAt data i :=
    byteAt_take hi
  simp only [RawHeader.load, load16, load32, h, Nat.reduceAdd, Nat.reduceLT]

end Giblet.YMsg
