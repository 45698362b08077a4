import Giblet.Lib.Form
import Giblet.YMsg.Conversion
import Giblet.YMsg.RoundTrip
import Giblet.YahooWeb.Requests

/-!
# YahooWeb — the server of `my.yahoo.com`

Besides the files below its root, `MyYahooWebServer` serves a form in which a
packet is put together, for debugging: its service, its attribute, and rows of
keys and values. A form that is sent is taken apart by `mg_get_var`, and the
packet is dispatched.

* `keys_end` — the loop over the rows ends, whatever was sent.
* `onRequest_form` — a form that is filled in is dispatched as its packet.
-/

namespace Giblet.YahooWeb

open Effect YMsg

/-! ## Variables -/

/-- What separates the pairs of a form, and the names from the values. -/
def ampersand : UInt8 := 38
def equalsSign : UInt8 := 61

/-- `get_var`, with a buffer: what it returns, and the text that it leaves in the buffer. -/
def getVar (data name : Bytes) (dst_len : Nat) : Int × Bytes :=
  match Form.lookup tolower equalsSign ampersand name true data with
  | none => (-1, [])
  | some value =>
    match mgUrlDecode true (dst_len - 1) value with
    | (dst, true) => (dst.length, dst)
    -- the buffer is too small
    | (dst, false) => (-2, dst)

/-- `mg_get_var`. -/
def mgGetVar (conn : HttpRequest) (name : Bytes) (dst_len : Nat) : Int × Bytes :=
  let result := getVar (conn.query_string.getD []) name dst_len
  if result.1 < 0 then getVar conn.content name dst_len else result

/-! ## Handlers -/

/-- What a request leads to: a reply, and packets for the sessions. -/
structure Exchange where
  reply : Reply
  dispatched : List Builder
  deriving DecidableEq, Repr

/-- What becomes of a reply becomes of the exchange that it belongs to. -/
def replying {α : Type} : Action Reply α → Action Exchange α :=
  zoom Exchange.reply fun reply e => { e with reply }

/-- What `GetFullURL` and the handlers look at. -/
def HttpRequest.connection (conn : HttpRequest) : MgConnection where
  host := mgGetHeader conn (ascii "Host")
  uri := some conn.uri
  query_string := conn.query_string

/-- `GenericHandler`. -/
def genericHandler (files : Files) (conn : MgConnection) (rootPath : Bytes) :
    Action Reply Bool :=
  match conn.uri with
  | none => pure false
  | some uri => genericServeFile files (rootPath ++ uri)

namespace MyYahooWebServer

/-- `sizeof(buffer)`. -/
def sizeofBuffer : Nat := 1024

/-- `std::stoi(buffer)`. -/
def stoi (buffer : Bytes) : Except Fault Int32 :=
  match stol [] (.view buffer [0]) with
  | .error (.invalidArgument _) => .error (.invalidArgument "invalid stoi argument")
  | .error (.outOfRange _) => .error (.outOfRange "stoi argument out of range")
  | result => result

/-- The fields of a row of the form. -/
inductive Column
  | key
  | value
  deriving DecidableEq, Repr

/-- The name of a field. -/
def Column.name (i : Nat) : Column → Bytes
  | .key => ascii "key" ++ Numeral.ofNat i
  | .value => ascii "value" ++ Numeral.ofNat i

/-- The loop of `OnDebugSendPacketRequest`, from a row on; it answers whether it has come to its
end. -/
def appendRows (conn : HttpRequest) : Nat → Nat → Action Builder Bool
  | 0, _ => pure false
  | fuel + 1, i => do
    let (keyLength, buffer) := mgGetVar conn (Column.key.name i) sizeofBuffer
    if keyLength < 0 then pure true
    else if keyLength = 0 then appendRows conn fuel (i + 1)
    else
      let key ← MonadExcept.ofExcept (stol [] (.view buffer [0]))
      let (_, buffer) := mgGetVar conn (Column.value.name i) sizeofBuffer
      Builder.append key (cString buffer)
      appendRows conn fuel (i + 1)

/-- As many rows as a request has bytes for, and the one that it has not. -/
def rowLimit (conn : HttpRequest) : Nat :=
  (conn.query_string.getD []).length + conn.content.length + 1

/-- A packet is put together, and dispatched. -/
def dispatchPacket (build : Action Builder Bool) : Action Exchange Unit := fun e =>
  match build ⟨[]⟩ with
  | .ok _ builder => .ok () { e with dispatched := e.dispatched ++ [builder] }
  | .error fault _ => .error fault e

/-- `OnDebugSendPacketRequest`. -/
def onDebugSendPacketRequest (conn : HttpRequest) : Action Exchange Bool := do
  let (serviceIdLength, buffer) := mgGetVar conn (ascii "serviceid") sizeofBuffer
  if serviceIdLength = 0 then pure false
  else
    let serviceId ← MonadExcept.ofExcept (stoi buffer)
    let (attributeIdLength, buffer) := mgGetVar conn (ascii "attribute") sizeofBuffer
    if attributeIdLength = 0 then pure false
    else
      let attributeId ← MonadExcept.ofExcept (stol [] (.view buffer [0]))
      dispatchPacket do
        Builder.initializeHeader
          (Header.new 0 0 serviceId.toUInt32.toUInt16 attributeId.toUInt32)
        appendRows conn (rowLimit conn) 0
      pure true

/-- `MyYahooWebServer::OnRequest`. -/
def onRequest (files : Files) (rootPath : Bytes) (conn : HttpRequest) : Action Exchange Bool :=
  let (value, buffer) := mgGetVar conn (ascii "action") sizeofBuffer
  if conn.uri = ascii "/tearoff/channel.html" ∧ 0 ≤ value ∧ buffer = ascii "send" then
    onDebugSendPacketRequest conn
  else replying (genericHandler files conn.connection rootPath)

/-! ## Names -/

theorem tolower_eq_equalsSign (c : UInt8) (h : tolower c = tolower equalsSign) :
    c = equalsSign := by
  have hAll : ∀ n : Fin 256, tolower (UInt8.ofNat n) = tolower equalsSign →
      UInt8.ofNat n = equalsSign := by decide +kernel
  obtain ⟨n, rfl⟩ := ofNat_fin c
  exact hAll n h

/-- A numeral is its own lower case, and has neither of the special symbols. -/
theorem digits_plain {n : Nat} {c : UInt8} (h : c ∈ Numeral.ofNat n) :
    tolower c = c ∧ c ≠ equalsSign ∧ c ≠ ampersand := by
  have hAll : ∀ n : Fin 256, Numeral.isDigit (UInt8.ofNat n) = true →
      tolower (UInt8.ofNat n) = UInt8.ofNat n ∧ UInt8.ofNat n ≠ equalsSign ∧
        UInt8.ofNat n ≠ ampersand := by decide +kernel
  have hDigit := Numeral.isDigit_of_mem_ofNat h
  obtain ⟨k, rfl⟩ := ofNat_fin c
  exact hAll k hDigit

/-- Names that are their own lower case, and can be written in a form. -/
def PlainName (name : Bytes) : Prop := ∀ c ∈ name, tolower c = c ∧ c ≠ equalsSign ∧ c ≠ ampersand

instance (name : Bytes) : Decidable (PlainName name) :=
  inferInstanceAs (Decidable (∀ c ∈ name, _))

/-- The names of the other fields. -/
theorem plainName_other :
    ∀ name ∈ [ascii "action", ascii "serviceid", ascii "attribute"], PlainName name := by
  decide +kernel

theorem plainName_column (column : Column) (i : Nat) : PlainName (column.name i) := by
  have hText : PlainName (ascii "key") ∧ PlainName (ascii "value") := by decide +kernel
  intro c hc
  cases column with
  | key =>
    rcases List.mem_append.mp hc with h | h
    · exact hText.1 c h
    · exact digits_plain h
  | value =>
    rcases List.mem_append.mp hc with h | h
    · exact hText.2 c h
    · exact digits_plain h

theorem PlainName.fold {name : Bytes} (h : PlainName name) : name.map tolower = name := by
  rw [List.map_congr_left fun c hc => (h c hc).1, List.map_id']

theorem PlainName.not_mem {name : Bytes} (h : PlainName name) :
    equalsSign ∉ name ∧ ampersand ∉ name :=
  ⟨fun hMem => (h _ hMem).2.1 rfl, fun hMem => (h _ hMem).2.2 rfl⟩

/-- Different fields have different names. -/
theorem column_name_injective {column column' : Column} {i j : Nat}
    (h : column.name i = column'.name j) : column = column' ∧ i = j := by
  cases column <;> cases column'
  · exact ⟨rfl, Numeral.ofNat_injective (List.append_cancel_left h)⟩
  · cases h
  · cases h
  · exact ⟨rfl, Numeral.ofNat_injective (List.append_cancel_left h)⟩

/-! ## The end of the loop -/

theorem getVar_none {data name : Bytes} {dst_len : Nat}
    (h : Form.lookup tolower equalsSign ampersand name true data = none) :
    getVar data name dst_len = (-1, []) := by
  rw [getVar, h]

/-- **The rows come to an end**: of one of them, there is no key. -/
theorem keys_end (conn : HttpRequest) (dst_len : Nat) :
    ∃ i < rowLimit conn, (mgGetVar conn (Column.key.name i) dst_len).1 < 0 := by
  by_contra hNone
  have hAll : ∀ i < rowLimit conn, ¬(mgGetVar conn (Column.key.name i) dst_len).1 < 0 :=
    fun i hi hEnd => hNone ⟨i, hi, hEnd⟩
  let found (data : Bytes) : Finset Nat := (Finset.range (rowLimit conn)).filter fun i =>
    (Form.lookup tolower equalsSign ampersand (Column.key.name i) true data).isSome = true
  have hFew (data : Bytes) : (found data).card ≤ data.length :=
    Form.card_found_le tolower_eq_equalsSign
      (fun i => (plainName_column _ i).not_mem.1)
      (fun i j h => (column_name_injective (by
        rwa [(plainName_column _ i).fold, (plainName_column _ j).fold] at h)).2)
      fun i hi => (Finset.mem_filter.mp hi).2
  have hCover : Finset.range (rowLimit conn) ⊆
      found (conn.query_string.getD []) ∪ found conn.content := by
    intro i hi
    by_contra hNot
    rw [Finset.mem_union, Finset.mem_filter, Finset.mem_filter, not_or] at hNot
    have hNowhere (data : Bytes) (h : ¬(i ∈ Finset.range (rowLimit conn) ∧
        (Form.lookup tolower equalsSign ampersand (Column.key.name i) true data).isSome = true)) :
        getVar data (Column.key.name i) dst_len = (-1, []) :=
      getVar_none (Option.not_isSome_iff_eq_none.mp fun hSome => h ⟨hi, hSome⟩)
    refine hAll i (Finset.mem_range.mp hi) ?_
    rw [mgGetVar, hNowhere _ hNot.1, hNowhere _ hNot.2]
    decide
  have hCard := (Finset.card_le_card hCover).trans (Finset.card_union_le _ _)
  have hQuery := hFew (conn.query_string.getD [])
  have hContent := hFew conn.content
  rw [Finset.card_range, rowLimit] at hCard
  omega

/-- A loop that has a row without a key in front of it ends there, however much longer it might
go on. -/
theorem appendRows_ends {conn : HttpRequest} {fuel i : Nat}
    (h : ∃ j < fuel, (mgGetVar conn (Column.key.name (i + j)) sizeofBuffer).1 < 0) (more : Nat) :
    appendRows conn (fuel + more) i = appendRows conn fuel i ∧
      ∀ b b' ended, appendRows conn fuel i b = .ok ended b' → ended = true := by
  induction fuel generalizing i with
  | zero =>
    obtain ⟨j, hj, -⟩ := h
    cases hj
  | succ fuel ih =>
    by_cases hEnd : (mgGetVar conn (Column.key.name i) sizeofBuffer).1 < 0
    · rw [Nat.add_right_comm, appendRows, appendRows]
      dsimp only
      rw [if_pos hEnd, if_pos hEnd]
      refine ⟨rfl, fun b b' ended hRun => ?_⟩
      cases hRun
      rfl
    · -- the row is not this one, and the rest of the loop has it in front of it
      obtain ⟨hMore, hEnded⟩ := ih (i := i + 1) <| by
        obtain ⟨j, hj, hMissing⟩ := h
        cases j with
        | zero => exact absurd hMissing hEnd
        | succ j =>
          refine ⟨j, Nat.lt_of_succ_lt_succ hj, ?_⟩
          rwa [← Nat.add_assoc, Nat.add_right_comm] at hMissing
      rw [Nat.add_right_comm, appendRows, appendRows, hMore]
      refine ⟨rfl, fun b b' ended hRun => ?_⟩
      dsimp only at hRun
      rw [if_neg hEnd] at hRun
      split at hRun
      · exact hEnded _ _ _ hRun
      · obtain ⟨key, b₁, -, hRun⟩ := bind_eq_ok hRun
        obtain ⟨-, b₂, -, hRun⟩ := bind_eq_ok hRun
        exact hEnded _ _ _ hRun

/-- **The loop over the rows ends** by itself, whatever was sent. -/
theorem appendRows_rowLimit (conn : HttpRequest) (more : Nat) :
    appendRows conn (rowLimit conn + more) 0 = appendRows conn (rowLimit conn) 0 ∧
      ∀ b b' ended, appendRows conn (rowLimit conn) 0 b = .ok ended b' → ended = true := by
  obtain ⟨i, hi, hEnd⟩ := keys_end conn sizeofBuffer
  exact appendRows_ends ⟨i, hi, by rwa [Nat.zero_add]⟩ more

/-! ## The form -/

/-- `hex` in upper case. -/
def hexDigitUpper (n : UInt8) : UInt8 := (ascii "0123456789ABCDEF").getD n.toNat 0

/-- A byte of a value, as a form is sent. -/
def formByte (c : UInt8) : Bytes :=
  if c = 32 then [43]
  else if isalnum c || (ascii "*-._").contains c then [c]
  else [37, hexDigitUpper (c >>> 4), hexDigitUpper (c &&& 15)]

def formEncoded (text : Bytes) : Bytes := text.flatMap formByte

/-- A row of the form; its key may be left empty. -/
structure Row where
  key : Option Int32
  value : Bytes
  deriving DecidableEq, Repr

/-- What is written in a field. -/
def Row.text (row : Row) : Column → Bytes
  | .key => (row.key.map fun key => Numeral.ofInt key.toInt).getD []
  | .value => row.value

/-- The form of `tearoff/channel.html`, filled in. -/
structure PacketForm where
  serviceId : Int32
  attributeId : Int32
  rows : List Row
  deriving DecidableEq, Repr

/-- The pairs of the rows, from a row on. -/
def rowPairs : Nat → List Row → List (Bytes × Bytes)
  | _, [] => []
  | i, row :: rows =>
    (Column.key.name i, formEncoded (row.text .key)) ::
      (Column.value.name i, formEncoded (row.text .value)) :: rowPairs (i + 1) rows

namespace PacketForm

/-- What is sent. -/
def pairs (form : PacketForm) : List (Bytes × Bytes) :=
  (ascii "action", formEncoded (ascii "send")) ::
    (ascii "serviceid", formEncoded (Numeral.ofInt form.serviceId.toInt)) ::
      (ascii "attribute", formEncoded (Numeral.ofInt form.attributeId.toInt)) ::
        rowPairs 0 form.rows

def text (form : PacketForm) : Bytes := Form.text equalsSign ampersand form.pairs

/-- The header of the packet. -/
def header (form : PacketForm) : Header :=
  Header.new 0 0 form.serviceId.toUInt32.toUInt16 form.attributeId.toUInt32

/-- The rows whose key is filled in. -/
def fields (form : PacketForm) : List (Int32 × Bytes) :=
  form.rows.filterMap fun row => row.key.map fun key => (key, row.value)

/-- The packet that is put together; its size is filled in when it is sent. -/
def packet (form : PacketForm) : Builder := ⟨form.header.toRaw.store ++ Builder.encode form.fields⟩

end PacketForm

/-- A request has a form's text for its query, or for its content. -/
def Sends (conn : HttpRequest) (text : Bytes) : Prop :=
  conn.query_string = some text ∧ conn.content = [] ∨
    conn.query_string = none ∧ conn.content = text

/-! ## What is read of a form -/

theorem decoded_formByte : Decoded true formByte := by
  have hAll : ∀ n : Fin 256,
      (UInt8.ofNat n = 32 ∨ isxdigit (hexDigitUpper (UInt8.ofNat n >>> 4)) = true ∧
        isxdigit (hexDigitUpper (UInt8.ofNat n &&& 15)) = true ∧
        (hexToI (tolower (hexDigitUpper (UInt8.ofNat n >>> 4))) <<< 4 |||
          hexToI (tolower (hexDigitUpper (UInt8.ofNat n &&& 15)))) = UInt8.ofNat n) ∧
      ((isalnum (UInt8.ofNat n) || (ascii "*-._").contains (UInt8.ofNat n)) = true →
        UInt8.ofNat n ≠ 37 ∧ UInt8.ofNat n ≠ 43) := by
    decide +kernel
  intro c room rest
  obtain ⟨n, rfl⟩ := ofNat_fin c
  obtain ⟨hDigits, hKept⟩ := hAll n
  unfold formByte
  split
  · rename_i hSpace
    rw [hSpace]
    exact mgUrlDecode_plain true room (by decide) rest
  split
  · rename_i hPlain
    obtain ⟨hPercent, hPlus⟩ := hKept hPlain
    rw [List.singleton_append, mgUrlDecode_plain true room hPercent, plainByte_of_ne true hPlus]
  · rename_i hNot _
    obtain ⟨hHigh, hLow, hByte⟩ := hDigits.resolve_left hNot
    have hDecode := mgUrlDecode_digits true room hHigh hLow rest
    rwa [hByte] at hDecode

theorem ampersand_not_mem_formEncoded (text : Bytes) : ampersand ∉ formEncoded text := by
  have hAll : ∀ n : Fin 256, ampersand ∉ formByte (UInt8.ofNat n) := by decide +kernel
  rw [formEncoded, List.mem_flatMap]
  rintro ⟨c, -, hMem⟩
  obtain ⟨n, rfl⟩ := ofNat_fin c
  exact hAll n hMem

/-- The field of a row is found by its name. -/
theorem find_rowPairs (column : Column) (i j : Nat) (rows : List Row) :
    ((rowPairs i rows).find? fun pair => (column.name j).map tolower = pair.1.map tolower).map
        Prod.snd =
      if i ≤ j then rows[j - i]?.map fun row => formEncoded (row.text column) else none := by
  have hSame (column' : Column) (i : Nat) :
      decide ((column.name j).map tolower = (column'.name i).map tolower) =
        decide (column = column' ∧ j = i) := by
    rw [(plainName_column column j).fold, (plainName_column column' i).fold]
    exact decide_eq_decide.mpr
      ⟨column_name_injective, fun ⟨hColumn, hRow⟩ => by rw [hColumn, hRow]⟩
  induction rows generalizing i with
  | nil => simp [rowPairs]
  | cons row rows ih =>
    rw [rowPairs, List.find?_cons, hSame, List.find?_cons, hSame]
    by_cases hHere : j = i
    · subst hHere
      cases column <;> simp
    · have hNot (column' : Column) : decide (column = column' ∧ j = i) = false :=
        decide_eq_false fun h => hHere h.2
      rw [hNot, hNot]
      dsimp only
      rw [ih]
      by_cases hLater : i + 1 ≤ j
      · rw [if_pos hLater, if_pos (by omega), List.getElem?_cons, if_neg (by omega)]
        congr 2
      · rw [if_neg hLater, if_neg (by omega)]

theorem clean_pair {name : Bytes} (h : PlainName name) (text : Bytes) :
    Form.Clean equalsSign ampersand (name, formEncoded text) :=
  ⟨h.not_mem, ampersand_not_mem_formEncoded text⟩

theorem clean_pairs (form : PacketForm) :
    ∀ pair ∈ form.pairs, Form.Clean equalsSign ampersand pair := by
  have hRows : ∀ rows i, ∀ pair ∈ rowPairs i rows, Form.Clean equalsSign ampersand pair := by
    intro rows
    induction rows with
    | nil => nofun
    | cons row rows ih =>
      intro i
      exact List.forall_mem_cons.mpr ⟨clean_pair (plainName_column _ i) _,
        List.forall_mem_cons.mpr ⟨clean_pair (plainName_column _ i) _, ih (i + 1)⟩⟩
  have hOther := plainName_other
  simp only [List.forall_mem_cons] at hOther
  obtain ⟨hAction, hService, hAttribute, -⟩ := hOther
  exact List.forall_mem_cons.mpr ⟨clean_pair hAction _, List.forall_mem_cons.mpr
    ⟨clean_pair hService _, List.forall_mem_cons.mpr ⟨clean_pair hAttribute _, hRows _ 0⟩⟩⟩

theorem lookup_text (form : PacketForm) {name : Bytes} (hName : equalsSign ∉ name) :
    Form.lookup tolower equalsSign ampersand name true form.text =
      (form.pairs.find? fun pair => name.map tolower = pair.1.map tolower).map Prod.snd :=
  Form.lookup_text tolower_eq_equalsSign (by decide) (clean_pairs form) hName

/-- A row's field is in the text. -/
theorem lookup_column (form : PacketForm) (column : Column) (i : Nat) :
    Form.lookup tolower equalsSign ampersand (column.name i) true form.text =
      form.rows[i]?.map fun row => formEncoded (row.text column) := by
  have hOther : ∀ name ∈ [ascii "action", ascii "serviceid", ascii "attribute"],
      decide ((column.name i).map tolower = name.map tolower) = false := by
    intro name hName
    rw [(plainName_column column i).fold, (plainName_other name hName).fold]
    refine decide_eq_false fun hSame => ?_
    -- the first letters differ
    rw [← hSame] at hName
    revert hName
    cases column <;> simp [Column.name, ascii]
  rw [lookup_text form (plainName_column column i).not_mem.1, PacketForm.pairs, List.find?_cons,
    hOther _ (by simp), List.find?_cons, hOther _ (by simp), List.find?_cons, hOther _ (by simp)]
  dsimp only
  rw [find_rowPairs, if_pos (Nat.zero_le i), Nat.sub_zero]

/-- The fields that are no rows' are in the text, too. -/
theorem lookup_other (form : PacketForm) :
    Form.lookup tolower equalsSign ampersand (ascii "action") true form.text =
        some (formEncoded (ascii "send")) ∧
      Form.lookup tolower equalsSign ampersand (ascii "serviceid") true form.text =
        some (formEncoded (Numeral.ofInt form.serviceId.toInt)) ∧
      Form.lookup tolower equalsSign ampersand (ascii "attribute") true form.text =
        some (formEncoded (Numeral.ofInt form.attributeId.toInt)) := by
  have hFirst : (ascii "serviceid").map tolower ≠ (ascii "action").map tolower ∧
      (ascii "attribute").map tolower ≠ (ascii "action").map tolower ∧
      (ascii "attribute").map tolower ≠ (ascii "serviceid").map tolower := by decide
  refine ⟨?_, ?_, ?_⟩
  · rw [lookup_text form (by decide), PacketForm.pairs]
    simp
  · rw [lookup_text form (by decide), PacketForm.pairs]
    simp [hFirst.1]
  · rw [lookup_text form (by decide), PacketForm.pairs]
    simp [hFirst.2.1, hFirst.2.2]

section Sends

variable {conn : HttpRequest} {form : PacketForm}

/-- A value is read, wherever the form is. -/
theorem mgGetVar_found {text name value : Bytes} {dst_len : Nat} (hSends : Sends conn text)
    (hLookup : Form.lookup tolower equalsSign ampersand name true text =
      some (formEncoded value))
    (hShort : value.length < dst_len) :
    mgGetVar conn name dst_len = ((value.length : Int), value) := by
  have hRead : getVar text name dst_len = ((value.length : Int), value) := by
    rw [getVar, hLookup]
    dsimp only
    rw [formEncoded, decoded_formByte.flatMap (by omega)]
  obtain ⟨hQuery, -⟩ | ⟨hQuery, hContent⟩ := hSends
  · rw [mgGetVar, hQuery, Option.getD_some, hRead, if_neg (by dsimp only; omega)]
  · rw [mgGetVar, hQuery, Option.getD_none, getVar_none rfl, if_pos (by decide), hContent, hRead]

theorem mgGetVar_missing {text name : Bytes} {dst_len : Nat} (hSends : Sends conn text)
    (hLookup : Form.lookup tolower equalsSign ampersand name true text = none) :
    mgGetVar conn name dst_len = (-1, []) := by
  obtain ⟨hQuery, hContent⟩ | ⟨hQuery, hContent⟩ := hSends
  · rw [mgGetVar, hQuery, Option.getD_some, getVar_none hLookup, if_pos (by decide), hContent,
      getVar_none rfl]
  · rw [mgGetVar, hQuery, Option.getD_none, getVar_none rfl, if_pos (by decide), hContent,
      getVar_none hLookup]

theorem length_ofInt_int32 (i : Int32) : (Numeral.ofInt i.toInt).length < sizeofBuffer := by
  have hLow := i.le_toInt
  have hHigh := i.toInt_lt
  have hLength : (Numeral.ofInt i.toInt).length ≤ 10 + 1 :=
    Numeral.length_ofInt_le (by decide) (by omega)
  rw [sizeofBuffer]
  omega

/-- A printed number is read. -/
theorem stol_ofInt (i : Int32) : stol [] (.view (Numeral.ofInt i.toInt) [0]) = .ok i := by
  have hLow := i.le_toInt
  have hHigh := i.toInt_lt
  have hDigits : ∀ c ∈ Numeral.ofInt i.toInt, decide (c ≠ 0) = true := fun c hc =>
    decide_eq_true fun hZero => by
      rcases Numeral.isDigit_or_minus_of_mem_ofInt hc with h | h
      · rw [hZero] at h
        cases h
      · rw [hZero] at h
        cases h
  obtain ⟨k, hPos, hScan⟩ := Numeral.scan_ofInt_digits i.toInt (c := 0) (by decide) []
  have hText : (Numeral.ofInt i.toInt ++ [0]).takeWhile (· ≠ 0) = Numeral.ofInt i.toInt := by
    rw [List.takeWhile_append_of_pos hDigits, List.takeWhile_cons_of_neg (by decide),
      List.append_nil]
  simp only [stol, StringView.memory, List.append_nil, hText, hScan]
  rw [if_pos (List.mem_append_right _ List.mem_cons_self), if_neg (by omega), if_neg (by omega),
    clampLong_toInt]

/-- The rows that are left are appended, as far as their keys are filled in. -/
theorem appendRows_form (hSends : Sends conn form.text)
    (hRows : ∀ row ∈ form.rows, row.value.length < sizeofBuffer ∧ 0 ∉ row.value) {fuel i : Nat}
    (hi : i ≤ form.rows.length) (hFuel : form.rows.length < i + fuel) (b : Builder) :
    appendRows conn fuel i b =
      (Builder.appendAll ((form.rows.drop i).filterMap fun row =>
        row.key.map fun key => (key, row.value)) >>= fun _ => pure true) b := by
  induction fuel generalizing i b with
  | zero => omega
  | succ fuel ih =>
    have hKey := lookup_column form .key i
    have hValue := lookup_column form .value i
    rw [appendRows]
    by_cases hMore : i < form.rows.length
    · rw [List.getElem?_eq_getElem hMore] at hKey hValue
      obtain ⟨hShort, hText⟩ := hRows _ (List.getElem_mem hMore)
      have hLater := fun b => ih (i := i + 1) hMore (by omega) b
      rw [List.drop_eq_getElem_cons hMore]
      generalize form.rows[i] = row at hKey hValue hShort hText
      obtain ⟨key, value⟩ := row
      cases key with
      | none =>
        have hEmpty : (Row.mk none value).text .key = [] := rfl
        rw [Option.map_some, hEmpty] at hKey
        rw [mgGetVar_found hSends hKey (by decide)]
        exact hLater b
      | some key =>
        have hFilled : (Row.mk (some key) value).text .key = Numeral.ofInt key.toInt := rfl
        have hPos := List.length_pos_of_ne_nil (Numeral.ofInt_ne_nil key.toInt)
        rw [Option.map_some, hFilled] at hKey
        rw [mgGetVar_found hSends hKey (length_ofInt_int32 key),
          mgGetVar_found hSends hValue hShort]
        dsimp only
        rw [if_neg (by omega), if_neg (by omega), stol_ofInt]
        have hValueText : cString ((Row.mk (some key) value).text .value) = value :=
          cString_eq hText
        rw [hValueText]
        show (Builder.append key value >>= fun _ => appendRows conn fuel (i + 1)) b =
          ((Builder.append key value >>= fun _ => Builder.appendAll _) >>= fun _ => pure true) b
        rw [bind_assoc, bind_run, bind_run]
        cases Builder.append key value b with
        | ok _ b' => exact hLater b'
        | error e b' => rfl
    · have hEnd : i = form.rows.length := by omega
      rw [List.getElem?_eq_none (by omega)] at hKey
      rw [mgGetVar_missing hSends hKey, hEnd, List.drop_length]
      rfl

theorem ofExcept_ok_bind {σ α β : Type} (a : α) (f : α → Action σ β) :
    ((MonadExcept.ofExcept (.ok a : Except Fault α) : Action σ α) >>= f) = f a := rfl

theorem dispatchPacket_ok {build : Action Builder Bool} {ended : Bool} {builder : Builder}
    (h : build ⟨[]⟩ = .ok ended builder) (e : Exchange) :
    dispatchPacket build e = .ok () { e with dispatched := e.dispatched ++ [builder] } := by
  rw [dispatchPacket, h]

theorem onDebugSendPacketRequest_form (hSends : Sends conn form.text)
    (hRows : ∀ row ∈ form.rows, row.value.length < sizeofBuffer ∧ 0 ∉ row.value)
    (hSize : RawHeader.size + (Builder.encode form.fields).length < Builder.PaxPayloadSize)
    (e : Exchange) :
    onDebugSendPacketRequest conn e =
      .ok true { e with dispatched := e.dispatched ++ [form.packet] } := by
  obtain ⟨-, hService, hAttribute⟩ := lookup_other form
  have hPos (i : Int32) : ((Numeral.ofInt i.toInt).length : Int) ≠ 0 := by
    have hLength := List.length_pos_of_ne_nil (Numeral.ofInt_ne_nil i.toInt)
    omega
  have hBuild : (Builder.initializeHeader form.header >>= fun _ =>
      appendRows conn (rowLimit conn) 0) ⟨[]⟩ = .ok true form.packet := by
    -- the limit is no limit, so the rows may be gone through one by one
    obtain ⟨i, hi, hEnd⟩ := keys_end conn sizeofBuffer
    have hMore := (appendRows_ends ⟨i, hi, by rwa [Nat.zero_add]⟩ form.rows.length).1
    have hAppend : Builder.appendAll form.fields ⟨form.header.toRaw.store⟩ = .ok () form.packet :=
      Builder.appendAll_fits (by rw [RawHeader.length_store]; exact hSize)
    rw [bind_run, Builder.initializeHeader, ← hMore]
    dsimp only
    rw [appendRows_form hSends hRows (Nat.zero_le _) (by rw [rowLimit]; omega), List.drop_zero,
      bind_run, ← PacketForm.fields, hAppend]
    rfl
  unfold onDebugSendPacketRequest
  rw [mgGetVar_found hSends hService (length_ofInt_int32 _)]
  dsimp only
  rw [if_neg (hPos _), stoi, stol_ofInt]
  dsimp only
  rw [ofExcept_ok_bind, mgGetVar_found hSends hAttribute (length_ofInt_int32 _)]
  dsimp only
  rw [if_neg (hPos _), stol_ofInt, ofExcept_ok_bind, bind_run, ← PacketForm.header,
    dispatchPacket_ok hBuild]
  rfl

/-- **A form that is filled in** is dispatched as its packet. -/
theorem onRequest_form (files : Files) (rootPath : Bytes)
    (hPage : conn.uri = ascii "/tearoff/channel.html") (hSends : Sends conn form.text)
    (hRows : ∀ row ∈ form.rows, row.value.length < sizeofBuffer ∧ 0 ∉ row.value)
    (hSize : RawHeader.size + (Builder.encode form.fields).length < Builder.PaxPayloadSize)
    (e : Exchange) :
    onRequest files rootPath conn e =
      .ok true { e with dispatched := e.dispatched ++ [form.packet] } := by
  unfold onRequest
  rw [mgGetVar_found hSends (lookup_other form).1 (by decide)]
  dsimp only
  rw [if_pos ⟨hPage, by decide, rfl⟩]
  exact onDebugSendPacketRequest_form hSends hRows hSize e

/-- The packet has what was filled in. -/
theorem parse_packet (hRows : ∀ row ∈ form.rows, Unterminated row.value) :
    PacketParser.parse collect (form.packet.buffer_.drop RawHeader.size) [] =
      .ok () form.fields := by
  have hDrop : form.packet.buffer_.drop RawHeader.size = Builder.encode form.fields :=
    List.drop_left' (RawHeader.length_store _)
  rw [hDrop]
  refine parse_encode fun p hp => ?_
  obtain ⟨row, hRow, hKey⟩ := List.mem_filterMap.mp hp
  obtain ⟨key, -, rfl⟩ := Option.map_eq_some_iff.mp hKey
  exact hRows row hRow

end Sends

end MyYahooWebServer

end Giblet.YahooWeb
