import Giblet.Lib.Delimited
import Giblet.YMsg.Announcements

/-!
# YMsg — a status list, read back

`AppendContact` writes a contact as fields without an end marker, some of
which it leaves out. A record begins with its key 7, and nothing else in the
packet has that key, so a payload can be cut into the records it was written
from.

* `record_isRecord`, `read_record` — a contact's fields can be told apart and read.
* `statusList_readBack` — the two builders of status packets, and what is read from them.
-/

namespace Giblet.YMsg

open Delimited PacketParser

/-! ## Records -/

/-- What a status record says about its contact. -/
structure StatusRecord where
  contactId : Bytes
  availability : Availability
  isInChat : Bool
  isBusy : Bool
  idleUnknown : Option Bytes
  customMessage : Option Bytes
  deriving DecidableEq

/-- Reading a record by its keys. -/
def StatusRecord.read (record : List (Int32 × Bytes)) : Option StatusRecord := do
  let contactId ← record.lookup 7
  let availability ← record.lookup 10
  let isInChat ← record.lookup 17
  let isBusy ← record.lookup 47
  return {
    contactId := contactId
    availability := ⟨strtol availability⟩
    isInChat := strtol isInChat ≠ 0
    isBusy := strtol isBusy ≠ 0
    idleUnknown := record.lookup 138
    customMessage := record.lookup 19 }

/-- What is to be said about a contact: its marker if there is one, its message if its
availability has one. -/
def ContactInfo.statusRecord (c : ContactInfo) : StatusRecord where
  contactId := c.id
  availability := c.availability
  isInChat := c.isInChat.value
  isBusy := c.isBusy
  idleUnknown := c.markerField
  customMessage := c.messageField

/-- The fields of a contact, as they are parsed. -/
def ContactInfo.record (c : ContactInfo) : List (Int32 × Bytes) :=
  (Builders.appendContact c).map fun f => (f.1, f.2.value)

/-- A contact's id begins a record. -/
def isContactId (p : Int32 × Bytes) : Bool := p.1 == 7

theorem record_isRecord (c : ContactInfo) : IsRecord isContactId c.record := by
  have hKeys : (c.record.tail.all fun p => !isContactId p) = true := by
    unfold ContactInfo.record Builders.appendContact
    by_cases hMarker : c.idleUnknown = [] <;> by_cases hIdle : c.availability = .Idle <;>
      by_cases hCustom : c.availability = .Custom <;>
      simp only [hMarker, hIdle, hCustom, if_true, if_false] <;> rfl
  refine ⟨(7, c.id), c.record.tail, rfl, rfl, fun p hp => ?_⟩
  simpa using List.all_eq_true.mp hKeys p hp

/-- The two fields that may be left out. -/
theorem lookup_record_optional (c : ContactInfo) :
    c.record.lookup 138 = c.markerField ∧ c.record.lookup 19 = c.messageField := by
  unfold ContactInfo.record Builders.appendContact ContactInfo.markerField ContactInfo.messageField
  by_cases hMarker : c.idleUnknown = [] <;> by_cases hIdle : c.availability = .Idle <;>
    by_cases hCustom : c.availability = .Custom <;>
    simp only [hMarker, hIdle, hCustom, if_true, if_false] <;> exact ⟨rfl, rfl⟩

/-- The others are always there. -/
theorem lookup_record (c : ContactInfo) :
    c.record.lookup 7 = some c.id ∧
      c.record.lookup 10 = some (Numeral.ofInt c.availability.code.toInt) ∧
      c.record.lookup 17 = some (Numeral.ofInt (if c.isInChat.value then 1 else 0)) ∧
      c.record.lookup 47 = some (Numeral.ofInt (if c.isBusy then 1 else 0)) := by
  unfold ContactInfo.record Builders.appendContact
  refine ⟨rfl, rfl, ?_, ?_⟩ <;>
    by_cases hMarker : c.idleUnknown = [] <;> by_cases hIdle : c.availability = .Idle <;>
    by_cases hCustom : c.availability = .Custom <;>
    simp only [hMarker, hIdle, hCustom, if_true, if_false] <;> rfl

theorem strtol_flag (b : Bool) : decide (strtol (Numeral.ofInt (if b then 1 else 0)) ≠ 0) = b := by
  cases b <;> decide

/-- **A record says what was to be said.** -/
theorem read_record (c : ContactInfo) : StatusRecord.read c.record = some c.statusRecord := by
  obtain ⟨hId, hAvailability, hChat, hBusy⟩ := lookup_record c
  obtain ⟨hMarker, hMessage⟩ := lookup_record_optional c
  unfold StatusRecord.read ContactInfo.statusRecord
  rw [hId, hAvailability, hChat, hBusy, hMarker, hMessage]
  -- what was printed is what is scanned
  simp only [Option.bind_eq_bind, Option.bind_some, strtol_ofInt, strtol_flag]
  rfl

/-! ## Packets -/

/-- Neither the id nor the texts of a contact contain the terminator. -/
structure ContactInfo.Unterminated (c : ContactInfo) : Prop where
  id : YMsg.Unterminated c.id
  idleUnknown : YMsg.Unterminated c.idleUnknown
  customMessage : YMsg.Unterminated c.customMessage

theorem record_clean {c : ContactInfo} (h : c.Unterminated) :
    ∀ p ∈ c.record, Unterminated p.2 := by
  have hNothing : ∀ f ∈ ([] : List Field), YMsg.Unterminated f.2.value :=
    fun _ h => absurd h List.not_mem_nil
  have hFlag (key : Int32) (b : Cell Bool) : YMsg.Unterminated (flag key b).2.value :=
    ofInt_clean _
  have hDigit (key : Int32) (digit : UInt8) : YMsg.Unterminated (text key [digit]).2.value :=
    Terminator.clean_singleton _ _ _
  unfold ContactInfo.record Builders.appendContact
  rw [List.forall_mem_map]
  simp only [List.forall_mem_append]
  refine ⟨⟨⟨⟨⟨?_, ?_⟩, ?_⟩, ?_⟩, ?_⟩, ?_⟩
  · exact List.forall_mem_cons.mpr ⟨h.id, List.forall_mem_singleton.mpr (ofInt_clean _)⟩
  · split
    · exact hNothing
    · exact List.forall_mem_singleton.mpr h.idleUnknown
  · split
    · exact List.forall_mem_singleton.mpr (hDigit _ _)
    · exact hNothing
  · exact List.forall_mem_singleton.mpr (hFlag _ _)
  · split
    · exact List.forall_mem_singleton.mpr h.customMessage
    · exact hNothing
  · exact List.forall_mem_cons.mpr ⟨hFlag _ _, List.forall_mem_singleton.mpr (hDigit _ _)⟩

/-- The count, as it is parsed. -/
def contactCount (count : Nat) : Int32 × Bytes := (8, Numeral.ofInt count)

theorem contactCount_clean (count : Nat) : Unterminated (contactCount count).2 :=
  ofInt_clean count

theorem pairs_setContactStatus (clientId : Bytes) (contacts : List ContactInfo) :
    (Message.setContactStatus clientId contacts).pairs =
      [(0, clientId), (1, clientId), contactCount contacts.length] ++
        (contacts.map ContactInfo.record).flatten := by
  show (0, clientId) :: (1, clientId) :: contactCount contacts.length ::
    (contacts.flatMap Builders.appendContact).map (fun f => (f.1, f.2.value)) = _
  rw [List.map_flatMap, List.flatMap_def]
  rfl

theorem pairs_updateContactStatus (c : ContactInfo) :
    (Message.updateContactStatus c).pairs = [contactCount 1] ++ [c.record].flatten := by
  rw [List.flatten_singleton]
  rfl

/-- What is sent for a message is parsed, and cut into records. -/
def ReadsAs (connection : ClientConnection) (m : Message) (opening : List (Int32 × Bytes))
    (records : List (List (Int32 × Bytes))) : Prop :=
  ∃ packet pairs,
    ClientConnection.transmit m connection =
      .ok () { connection with sent := connection.sent ++ [packet] } ∧
    parse collect (packet.bytes.drop RawHeader.size) [] = .ok () pairs ∧
    cutBefore isContactId pairs = (opening, records)

/-- Packets that are written record by record. -/
theorem readsAs_of_records {connection : ClientConnection} {m : Message}
    {opening : List (Int32 × Bytes)} {contacts : List ContactInfo} (hFits : m.Fits)
    (hPairs : m.pairs = opening ++ (contacts.map ContactInfo.record).flatten)
    (hOpening : ∀ p ∈ opening, isContactId p = false ∧ Unterminated p.2)
    (hContacts : ∀ c ∈ contacts, c.Unterminated) :
    ReadsAs connection m opening (contacts.map ContactInfo.record) := by
  have hClean : ∀ p ∈ m.pairs, Unterminated p.2 := by
    rw [hPairs]
    refine List.forall_mem_append.mpr ⟨fun p hp => (hOpening p hp).2, fun p hp => ?_⟩
    obtain ⟨record, hRecord, hp⟩ := List.mem_flatten.mp hp
    obtain ⟨c, hc, rfl⟩ := List.mem_map.mp hRecord
    exact record_clean (hContacts c hc) p hp
  refine ⟨connection.packet m, m.pairs, ?_, ?_, ?_⟩
  · rw [ClientConnection.transmit_eq, if_pos hFits]
    rfl
  · rw [connection.payload_packet]
    exact parse_encode hClean
  · rw [hPairs]
    refine cutBefore_flatten (fun p hp => (hOpening p hp).1) fun record hRecord => ?_
    obtain ⟨c, -, rfl⟩ := List.mem_map.mp hRecord
    exact record_isRecord c

/-- **A status list can be read back**: the client id twice, the count, and every contact;
an update is the count and the record of a list of one. -/
theorem statusList_readBack (connection : ClientConnection) {clientId : Bytes}
    {contacts : List ContactInfo} (hClient : Unterminated clientId)
    (hContacts : ∀ c ∈ contacts, c.Unterminated)
    (hFits : (Message.setContactStatus clientId contacts).Fits) :
    ∃ records,
      ReadsAs connection (.setContactStatus clientId contacts)
        [(0, clientId), (1, clientId), contactCount contacts.length] records ∧
      records.map StatusRecord.read = contacts.map (some ·.statusRecord) ∧
      ∀ c, contacts = [c] → ReadsAs connection (.updateContactStatus c) [contactCount 1] records := by
  refine ⟨contacts.map ContactInfo.record, ?_, ?_, ?_⟩
  · refine readsAs_of_records hFits (pairs_setContactStatus clientId contacts) ?_ hContacts
    simp only [List.forall_mem_cons]
    exact ⟨⟨rfl, hClient⟩, ⟨rfl, hClient⟩, ⟨rfl, contactCount_clean _⟩,
      fun _ h => absurd h List.not_mem_nil⟩
  · rw [List.map_map]
    exact List.map_congr_left fun c _ => read_record c
  · rintro c rfl
    refine readsAs_of_records ?_ (pairs_updateContactStatus c) ?_ hContacts
    -- it lacks the client id only, so it is shorter
    · have hLonger := hFits
      unfold Message.Fits at hLonger ⊢
      rw [pairs_setContactStatus] at hLonger
      rw [pairs_updateContactStatus]
      simp only [List.map_singleton, List.length_singleton, List.cons_append, List.nil_append,
        Builder.encode_cons, List.length_append] at hLonger ⊢
      omega
    · exact List.forall_mem_singleton.mpr ⟨rfl, contactCount_clean 1⟩

/-- Contacts with and without each of the fields that may be left out. -/
def assortedContacts : List ContactInfo :=
  [winky, { winky with availability := .Idle, idleUnknown := [0xc0] },
    { winky with availability := .Custom, customMessage := ascii "out", isBusy := true },
    { winky with availability := ⟨5000⟩, isInChat := .of true }]

theorem statusList_readBack_assorted : ∃ records,
    ReadsAs (.new 0 0) (.setContactStatus (ascii "a") assortedContacts)
      [(0, ascii "a"), (1, ascii "a"), contactCount assortedContacts.length] records ∧
    records.map StatusRecord.read = assortedContacts.map (some ·.statusRecord) ∧
    ∀ c, assortedContacts = [c] →
      ReadsAs (.new 0 0) (.updateContactStatus c) [contactCount 1] records := by
  refine statusList_readBack (.new 0 0) (Terminator.clean_singleton _ _ _) ?_ (by decide +kernel)
  have hTexts : ∀ c ∈ assortedContacts, Unterminated c.id ∧ Unterminated c.idleUnknown ∧
      Unterminated c.customMessage := by
    decide +kernel
  exact fun c hc => ⟨(hTexts c hc).1, (hTexts c hc).2.1, (hTexts c hc).2.2⟩

end Giblet.YMsg
