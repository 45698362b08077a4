import Giblet.Lib.Numeral
import Giblet.Lib.Path
import Giblet.YahooWeb.InsiderWebServer

/-!
# YahooWeb — what mongoose reads in a request

The web server's texts: where a request's head ends, how its line and headers
are taken apart, how the URI is decoded and cleaned. A head's bytes decide
about its end, whatever follows (`requestLenFrom_append`); what was encoded is
decoded again (`mgUrlDecode_mgUrlEncode`); and a cleaned URI has no `..`
behind a separator (`tidy_removeDoubleDots`), wherever the dots came from.
-/

namespace Giblet.YahooWeb

open YMsg

/-! ## Characters -/

def cr : UInt8 := 13
def lf : UInt8 := 10

/-- `isprint`, as the other character classes, in the C locale. -/
def isprint (c : UInt8) : Bool := 0x20 ≤ c && c ≤ 0x7e

def isdigit (c : UInt8) : Bool := 48 ≤ c && c ≤ 57

def isalpha (c : UInt8) : Bool := (65 ≤ c && c ≤ 90) || (97 ≤ c && c ≤ 122)

def isalnum (c : UInt8) : Bool := isalpha c || isdigit c

def isxdigit (c : UInt8) : Bool := isdigit c || (65 ≤ c && c ≤ 70) || (97 ≤ c && c ≤ 102)

def tolower (c : UInt8) : UInt8 := if 65 ≤ c && c ≤ 90 then c + 32 else c

/-- What C reads as a string: the bytes up to the first NUL. -/
def cString (bytes : Bytes) : Bytes := bytes.takeWhile (· ≠ 0)

/-- `mg_strcasecmp` finds no difference. -/
def sameText (s t : Bytes) : Bool := s.map tolower == t.map tolower

/-! ## The end of a head -/

/-- The loop of `get_request_len`, `i` bytes into the buffer. -/
def requestLenFrom (i : Nat) : Bytes → Int
  | [] => 0
  | c :: rest =>
    if !isprint c && c ≠ cr && c ≠ lf && c < 128 then -1
    else if c = lf ∧ rest.take 1 = [lf] then i + 2
    else if c = lf ∧ rest.take 2 = [cr, lf] then i + 3
    else requestLenFrom (i + 1) rest

/-- `get_request_len`. -/
def getRequestLen (buf : Bytes) : Int := requestLenFrom 0 buf

/-! ## The parts of a head -/

/-- `skip`: the word up to a delimiter, and what follows the delimiters. -/
def skip (delimiters text : Bytes) : Bytes × Bytes :=
  let word := text.takeWhile fun c => !delimiters.contains c
  (word, (text.drop word.length).dropWhile fun c => delimiters.contains c)

/-- `parse_http_headers`, with the room that is left. -/
def parseHttpHeaders : Nat → Bytes → List (Bytes × Bytes)
  | 0, _ => []
  | room + 1, text =>
    let (name, text) := skip (ascii ": ") text
    let (value, text) := skip [cr, lf] text
    if name = [] then [] else (name, value) :: parseHttpHeaders room text

/-- The headers that `mg_connection` has room for. -/
def maxHeaders : Nat := 30

/-! ## URL encoding -/

/-- `HEXTOI`, of a hexadecimal digit in lower case. -/
def hexToI (x : UInt8) : UInt8 := if isdigit x then x - 48 else x - 87

/-- A byte that is not encoded. -/
def plainByte (is_form_url_encoded : Bool) (c : UInt8) : UInt8 :=
  if is_form_url_encoded && c == 43 then 32 else c

/-- `mg_url_decode` with room for this many bytes: the decoded bytes, and whether that is all. -/
def mgUrlDecode (is_form_url_encoded : Bool) : Nat → Bytes → Bytes × Bool
  | _, [] => ([], true)
  | 0, _ :: _ => ([], false)
  | room + 1, c :: src =>
    let x := src.getD 0 0
    let y := src.getD 1 0
    if c = 37 ∧ 2 ≤ src.length ∧ isxdigit x = true ∧ isxdigit y = true then
      let (dst, complete) := mgUrlDecode is_form_url_encoded room (src.drop 2)
      ((hexToI (tolower x) <<< 4 ||| hexToI (tolower y)) :: dst, complete)
    else
      let (dst, complete) := mgUrlDecode is_form_url_encoded room src
      (plainByte is_form_url_encoded c :: dst, complete)

/-- What is written as it is. -/
def dontEscape : Bytes := ascii "._-$,;~()"

/-- `hex`. -/
def hexDigit (n : UInt8) : UInt8 := (ascii "0123456789abcdef").getD n.toNat 0

/-- `mg_url_encode` with room for this many bytes; a byte that does not fit is left as it was. -/
def mgUrlEncode : Nat → Bytes → List (Option UInt8)
  | 0, _ => []
  | _, [] => []
  | room + 1, c :: src =>
    if c = 0 then []
    else if isalnum c || dontEscape.contains c then some c :: mgUrlEncode room src
    else if 2 < room + 1 then
      some 37 :: some (hexDigit (c >>> 4)) :: some (hexDigit (c &&& 15)) ::
        mgUrlEncode (room - 2) src
    else none :: mgUrlEncode room src

/-! ## The URI -/

open YahooInsiderWebServer (isSeparator)

/-- `remove_double_dots_and_double_slashes`; `skipping` is the loop behind a separator. -/
def removeDoubleDots : Bool → Bytes → Bytes
  | _, [] => []
  | false, c :: rest => c :: removeDoubleDots (isSeparator c) rest
  | true, [c] => if isSeparator c then [] else [c]
  | true, c :: d :: rest =>
    if isSeparator c then removeDoubleDots true (d :: rest)
    else if c = 46 ∧ d = 46 then removeDoubleDots true rest
    else c :: removeDoubleDots false (d :: rest)

/-- What `parse_http_message` makes of the URI without its query string. -/
def cleanUri (uri : Bytes) : Bytes :=
  removeDoubleDots false (cString (mgUrlDecode false uri.length uri).1)

/-- `is_valid_uri`. -/
def isValidUri (uri : Bytes) : Bool := uri.take 1 == ascii "/" || uri == ascii "*"

/-! ## Whole heads -/

/-- What is used of an `mg_connection`: the request's line, headers and content. -/
structure HttpRequest where
  request_method : Bytes
  uri : Bytes
  http_version : Bytes
  query_string : Option Bytes
  http_headers : List (Bytes × Bytes)
  content : Bytes
  deriving DecidableEq, Repr

/-- `is_valid_http_method`. -/
def isValidHttpMethod (method : Bytes) : Bool :=
  [ascii "GET", ascii "POST", ascii "HEAD", ascii "CONNECT", ascii "PUT", ascii "DELETE",
    ascii "OPTIONS", ascii "PROPFIND", ascii "MKCOL"].contains method

/-- `parse_http_message`; a malformed message has no request. -/
def parseHttpMessage (buf : Bytes) : Option HttpRequest :=
  -- the last byte becomes the NUL that ends the text
  let text := (cString buf.dropLast).dropWhile Numeral.isSpace
  let (request_method, text) := skip (ascii " ") text
  let (uri, text) := skip (ascii " ") text
  let (http_version, text) := skip [cr, lf] text
  let is_request := isValidHttpMethod request_method
  if (is_request && !(ascii "HTTP/").isPrefixOf http_version) ||
      (!is_request && !(ascii "HTTP/").isPrefixOf request_method) then none
  else some
    { request_method
      uri := cleanUri (uri.takeWhile (· ≠ 63))
      http_version := if is_request then http_version.drop 5 else http_version
      query_string := if uri.contains 63 then some ((uri.dropWhile (· ≠ 63)).drop 1) else none
      http_headers := parseHttpHeaders maxHeaders text
      content := [] }

/-- `mg_get_header`. -/
def mgGetHeader (conn : HttpRequest) (name : Bytes) : Option Bytes :=
  (conn.http_headers.find? fun header => sameText name header.1).map Prod.snd

/-- `should_keep_alive`. -/
def shouldKeepAlive (conn : HttpRequest) : Bool :=
  conn.request_method == ascii "GET" &&
    match mgGetHeader conn (ascii "Connection") with
    | some header => header == ascii "keep-alive"
    | none => conn.http_version == ascii "1.1"

/-- `(int) to64(text)`: the number is cut to 64 bits, and then taken modulo `2 ^ 32`. -/
def contentLength (text : Bytes) : Int :=
  match Numeral.scan (text ++ [0]) with
  | none => 0
  | some scanned => (max (-2 ^ 63) (min scanned.value (2 ^ 63 - 1))).bmod (2 ^ 32)

/-! ## Lengths -/

theorem length_mgUrlDecode_le (form : Bool) (room : Nat) (src : Bytes) :
    (mgUrlDecode form room src).1.length ≤ room := by
  fun_induction mgUrlDecode form room src with
  | case1 => exact Nat.zero_le _
  | case2 => exact Nat.zero_le _
  | case3 room c src x y _ dst complete hRest ih =>
    rw [hRest] at ih
    exact Nat.succ_le_succ ih
  | case4 room c src x y _ dst complete hRest ih =>
    rw [hRest] at ih
    exact Nat.succ_le_succ ih

theorem length_removeDoubleDots_le (after : Bool) (uri : Bytes) :
    (removeDoubleDots after uri).length ≤ uri.length := by
  fun_induction removeDoubleDots after uri with
  | case1 => exact Nat.le_refl 0
  | case2 c rest ih => exact Nat.succ_le_succ ih
  | case3 c => exact Nat.zero_le _
  | case4 c => exact Nat.le_refl _
  | case5 c d rest _ ih => exact Nat.le_succ_of_le ih
  | case6 c d rest _ _ ih => exact Nat.le_add_right_of_le (Nat.le_add_right_of_le ih)
  | case7 c d rest _ _ ih => exact Nat.succ_le_succ ih

theorem length_cleanUri_le (uri : Bytes) : (cleanUri uri).length ≤ uri.length :=
  calc (cleanUri uri).length
      ≤ (cString (mgUrlDecode false uri.length uri).1).length := length_removeDoubleDots_le _ _
    _ ≤ (mgUrlDecode false uri.length uri).1.length := (List.takeWhile_prefix _).length_le
    _ ≤ uri.length := length_mgUrlDecode_le _ _ _

/-- A word and what follows it are no longer than the text. -/
theorem length_skip_le (delimiters text : Bytes) :
    (skip delimiters text).1.length + (skip delimiters text).2.length ≤ text.length := by
  unfold skip
  dsimp only
  have hWord := (List.takeWhile_prefix fun c => !delimiters.contains c : _ <+: text).length_le
  have hRest := (List.dropWhile_suffix fun c => delimiters.contains c :
    _ <:+ text.drop (text.takeWhile fun c => !delimiters.contains c).length).length_le
  rw [List.length_drop] at hRest
  omega

theorem length_le_of_mem_parseHttpHeaders {room : Nat} {text : Bytes} {header : Bytes × Bytes}
    (h : header ∈ parseHttpHeaders room text) : header.2.length ≤ text.length := by
  induction room generalizing text with
  | zero => cases h
  | succ room ih =>
    unfold parseHttpHeaders at h
    dsimp only at h
    have hName := length_skip_le (ascii ": ") text
    have hValue := length_skip_le [cr, lf] (skip (ascii ": ") text).2
    split at h
    · cases h
    · rcases List.mem_cons.mp h with rfl | hLater
      · dsimp only
        omega
      · have := ih hLater
        omega

theorem length_header_le {request : HttpRequest} {text name : Bytes}
    (h : request.http_headers = parseHttpHeaders maxHeaders text) :
    ((mgGetHeader request name).getD []).length ≤ text.length := by
  unfold mgGetHeader
  rw [h]
  cases hFind : (parseHttpHeaders maxHeaders text).find? fun header =>
      sameText name header.1 with
  | none => exact Nat.zero_le _
  | some header => exact length_le_of_mem_parseHttpHeaders (List.mem_of_find?_eq_some hFind)

/-! ## The end is found -/

/-- An end that was found is in the buffer. -/
theorem requestLenFrom_le {i : Nat} {buf : Bytes} (h : 0 < requestLenFrom i buf) :
    i + 2 ≤ requestLenFrom i buf ∧ requestLenFrom i buf ≤ i + buf.length := by
  induction buf generalizing i with
  | nil => cases h
  | cons c rest ih =>
    rw [requestLenFrom] at h ⊢
    split
    · rename_i hBad
      rw [if_pos hBad] at h
      cases h
    · rename_i hBad
      rw [if_neg hBad] at h
      split
      · rename_i hEnd
        have hLength := congrArg List.length hEnd.2
        simp only [List.length_take, List.length_cons, List.length_nil] at hLength ⊢
        omega
      · rename_i hEnd
        rw [if_neg hEnd] at h
        split
        · rename_i hEnd'
          have hLength := congrArg List.length hEnd'.2
          simp only [List.length_take, List.length_cons, List.length_nil] at hLength ⊢
          omega
        · rename_i hEnd'
          rw [if_neg hEnd'] at h
          obtain ⟨hLow, hHigh⟩ := ih h
          rw [List.length_cons]
          omega

theorem take_append_eq {xs : Bytes} (ys : Bytes) (h : xs.take ys.length = ys) (zs : Bytes) :
    (xs ++ zs).take ys.length = ys := by
  have hLength := congrArg List.length h
  rw [List.length_take] at hLength
  rw [List.take_append_of_le_length (by omega), h]

/-- **What was found in a buffer** is found whatever follows. -/
theorem requestLenFrom_append {i : Nat} {buf : Bytes} (h : requestLenFrom i buf ≠ 0)
    (more : Bytes) : requestLenFrom i (buf ++ more) = requestLenFrom i buf := by
  induction buf generalizing i with
  | nil => exact absurd rfl h
  | cons c rest ih =>
    rw [List.cons_append, requestLenFrom]
    rw [requestLenFrom] at h ⊢
    by_cases hBad : (!isprint c && c ≠ cr && c ≠ lf && c < 128) = true
    · rw [if_pos hBad, if_pos hBad]
    rw [if_neg hBad] at h ⊢
    rw [if_neg hBad]
    by_cases hEnd : c = lf ∧ rest.take 1 = [lf]
    · rw [if_pos hEnd, if_pos ⟨hEnd.1, take_append_eq [lf] hEnd.2 more⟩]
    rw [if_neg hEnd] at h ⊢
    by_cases hEnd' : c = lf ∧ rest.take 2 = [cr, lf]
    · have hTake := take_append_eq [cr, lf] hEnd'.2 more
      have hNot : ¬(c = lf ∧ (rest ++ more).take 1 = [lf]) := by
        rintro ⟨-, hOther⟩
        have hFirst := congrArg (List.take 1) hTake
        rw [List.take_take] at hFirst
        cases hOther.symm.trans hFirst
      rw [if_neg hNot, if_pos hEnd', if_pos ⟨hEnd'.1, hTake⟩]
    rw [if_neg hEnd'] at h ⊢
    -- an end that is not there yet needs a byte that the rest of the buffer does not have
    have hNot : ¬(c = lf ∧ (rest ++ more).take 1 = [lf]) := by
      rintro ⟨hFeed, hTake⟩
      cases rest with
      | nil => exact h rfl
      | cons x rest => exact hEnd ⟨hFeed, hTake⟩
    have hNot' : ¬(c = lf ∧ (rest ++ more).take 2 = [cr, lf]) := by
      rintro ⟨hFeed, hTake⟩
      match rest, hTake with
      | [], _ => exact h rfl
      | [x], hTake =>
        obtain ⟨rfl, -⟩ := List.cons.inj hTake
        exact h rfl
      | x :: y :: rest, hTake => exact hEnd' ⟨hFeed, hTake⟩
    rw [if_neg hNot, if_neg hNot', ih h]

/-! ## Decoding -/

/-- What is written as it is, and not by its number. -/
def isKept (c : UInt8) : Bool := isalnum c || dontEscape.contains c

def encodeByte (c : UInt8) : Bytes :=
  if isKept c then [c] else [37, hexDigit (c >>> 4), hexDigit (c &&& 15)]

/-- A text, URL-encoded. -/
def urlEncoded (text : Bytes) : Bytes := text.flatMap encodeByte

/-- What has a meaning in a request or a form, and what is decoded. -/
def reserved : Bytes := [0, cr, lf] ++ ascii " %&+/:=?\\"

theorem ofNat_fin (c : UInt8) : ∃ n : Fin 256, UInt8.ofNat n = c :=
  ⟨⟨c.toNat, c.toNat_lt⟩, UInt8.ofNat_toNat⟩

theorem not_reserved_of_isKept {c : UInt8} (h : isKept c = true) : c ∉ reserved := by
  have hAll : ∀ n : Fin 256, isKept (UInt8.ofNat n) = true → UInt8.ofNat n ∉ reserved := by
    decide +kernel
  obtain ⟨n, rfl⟩ := ofNat_fin c
  exact hAll n h

/-- The two digits of a byte are read as the byte. -/
theorem hexDigits_of_byte (c : UInt8) : isxdigit (hexDigit (c >>> 4)) = true ∧
    isxdigit (hexDigit (c &&& 15)) = true ∧
    (hexToI (tolower (hexDigit (c >>> 4))) <<< 4 ||| hexToI (tolower (hexDigit (c &&& 15)))) =
      c := by
  have hAll : ∀ n : Fin 256, isxdigit (hexDigit (UInt8.ofNat n >>> 4)) = true ∧
      isxdigit (hexDigit (UInt8.ofNat n &&& 15)) = true ∧
      (hexToI (tolower (hexDigit (UInt8.ofNat n >>> 4))) <<< 4 |||
        hexToI (tolower (hexDigit (UInt8.ofNat n &&& 15)))) = UInt8.ofNat n := by
    decide +kernel
  obtain ⟨n, rfl⟩ := ofNat_fin c
  exact hAll n

/-- Without a lack of room, `mg_url_encode` writes the encoded text. -/
theorem mgUrlEncode_eq {room : Nat} {text : Bytes} (hText : 0 ∉ text)
    (hRoom : 3 * text.length ≤ room) : mgUrlEncode room text = (urlEncoded text).map some := by
  induction text generalizing room with
  | nil => cases room <;> rfl
  | cons c text ih =>
    rw [List.length_cons] at hRoom
    obtain ⟨hFirst, hRest⟩ := not_or.mp (List.mem_cons.not.mp hText)
    obtain ⟨room, rfl⟩ : ∃ r, room = r + 3 := ⟨room - 3, by omega⟩
    rw [mgUrlEncode, if_neg (Ne.symm hFirst), urlEncoded, List.flatMap_cons, encodeByte, isKept]
    split
    · rw [ih hRest (by omega)]
      rfl
    · rw [if_pos (by omega), ih hRest (by omega)]
      rfl

/-- An encoding whose bytes are decoded one by one, whatever follows. -/
def Decoded (form : Bool) (encode : UInt8 → Bytes) : Prop :=
  ∀ c room rest, mgUrlDecode form (room + 1) (encode c ++ rest) =
    (c :: (mgUrlDecode form room rest).1, (mgUrlDecode form room rest).2)

theorem mgUrlDecode_plain (form : Bool) (room : Nat) {c : UInt8} (h : c ≠ 37) (rest : Bytes) :
    mgUrlDecode form (room + 1) (c :: rest) =
      (plainByte form c :: (mgUrlDecode form room rest).1, (mgUrlDecode form room rest).2) := by
  rw [mgUrlDecode, if_neg fun hPercent => h hPercent.1]

theorem plainByte_of_ne (form : Bool) {c : UInt8} (h : c ≠ 43) : plainByte form c = c := by
  simp [plainByte, h]

theorem mgUrlDecode_digits (form : Bool) (room : Nat) {x y : UInt8} (hx : isxdigit x = true)
    (hy : isxdigit y = true) (rest : Bytes) :
    mgUrlDecode form (room + 1) (37 :: x :: y :: rest) =
      ((hexToI (tolower x) <<< 4 ||| hexToI (tolower y)) :: (mgUrlDecode form room rest).1,
        (mgUrlDecode form room rest).2) := by
  rw [mgUrlDecode, if_pos ⟨rfl, by simp, hx, hy⟩]
  rfl

theorem decoded_encodeByte (form : Bool) : Decoded form encodeByte := by
  intro c room rest
  unfold encodeByte
  split
  · rename_i hKept
    have hOther := not_reserved_of_isKept hKept
    have hPercent : c ≠ 37 := fun h => hOther (h ▸ by decide)
    have hPlus : c ≠ 43 := fun h => hOther (h ▸ by decide)
    rw [List.singleton_append, mgUrlDecode_plain form room hPercent, plainByte_of_ne form hPlus]
  · obtain ⟨hHigh, hLow, hByte⟩ := hexDigits_of_byte c
    have hDecode := mgUrlDecode_digits form room hHigh hLow rest
    rwa [hByte] at hDecode

/-- What is encoded so is decoded, if there is room. -/
theorem Decoded.flatMap {form : Bool} {encode : UInt8 → Bytes} (h : Decoded form encode)
    {text : Bytes} {room : Nat} (hRoom : text.length ≤ room) :
    mgUrlDecode form room (text.flatMap encode) = (text, true) := by
  induction text generalizing room with
  | nil => cases room <;> rfl
  | cons c text ih =>
    rw [List.length_cons] at hRoom
    obtain ⟨room, rfl⟩ : ∃ n, room = n + 1 := ⟨room - 1, by omega⟩
    rw [List.flatMap_cons, h, ih (by omega)]

/-- **What was encoded is decoded again**, as a form's value or not, if there is room. -/
theorem mgUrlDecode_mgUrlEncode (form : Bool) {text : Bytes} {room room' : Nat}
    (hText : 0 ∉ text) (hRoom : 3 * text.length ≤ room) (hRoom' : text.length ≤ room') :
    ∃ encoded, mgUrlEncode room text = encoded.map some ∧
      mgUrlDecode form room' encoded = (text, true) :=
  ⟨urlEncoded text, mgUrlEncode_eq hText hRoom, (decoded_encodeByte form).flatMap hRoom'⟩

/-- A percent sign and a plus sign survive. -/
theorem mgUrlDecode_mgUrlEncode_signs :
    ∃ encoded, mgUrlEncode 30 (ascii "100% + tax") = encoded.map some ∧
      mgUrlDecode true 10 encoded = (ascii "100% + tax", true) :=
  mgUrlDecode_mgUrlEncode true (by decide) (by decide) (by decide)

/-! ## The cleaned URI -/

/-- No separator and no `..` comes behind a separator. -/
def Tidy (text : Bytes) : Prop :=
  ∀ before c rest, text = before ++ c :: rest → isSeparator c = true →
    (∀ x ∈ rest.head?, isSeparator x = false) ∧ ¬[46, 46] <+: rest

theorem tidy_cons {c : UInt8} {text : Bytes} :
    Tidy (c :: text) ↔ (isSeparator c = true →
      (∀ x ∈ text.head?, isSeparator x = false) ∧ ¬[46, 46] <+: text) ∧ Tidy text := by
  constructor
  · intro h
    refine ⟨h [] c text rfl, fun before d rest hSplit => h (c :: before) d rest ?_⟩
    rw [hSplit, List.cons_append]
  · rintro ⟨hFirst, hRest⟩ before d rest hSplit
    cases before with
    | nil =>
      obtain ⟨rfl, rfl⟩ := List.cons.inj hSplit
      exact hFirst
    | cons x before =>
      obtain ⟨rfl, rfl⟩ := List.cons.inj hSplit
      exact hRest before d rest rfl

theorem tidy_nil : Tidy [] := fun before c rest h => by simp at h

/-- **A cleaned text** is tidy; behind a separator it does not even begin otherwise. -/
theorem tidy_removeDoubleDots (skipping : Bool) (text : Bytes) :
    Tidy (removeDoubleDots skipping text) ∧ (skipping = true →
      (∀ x ∈ (removeDoubleDots skipping text).head?, isSeparator x = false) ∧
        ¬[46, 46] <+: removeDoubleDots skipping text) := by
  fun_induction removeDoubleDots skipping text with
  | case1 => exact ⟨tidy_nil, fun _ => ⟨nofun, by simp⟩⟩
  | case2 c rest ih =>
    exact ⟨tidy_cons.mpr ⟨ih.2, ih.1⟩, nofun⟩
  | case3 c hSeparator => exact ⟨tidy_nil, fun _ => ⟨nofun, by simp⟩⟩
  | case4 c hOther =>
    have hOther : isSeparator c = false := Bool.eq_false_iff.mpr hOther
    refine ⟨tidy_cons.mpr ⟨fun h => ?_, tidy_nil⟩, fun _ => ⟨?_, by simp⟩⟩
    · rw [hOther] at h
      cases h
    · rintro x ⟨⟩
      exact hOther
  | case5 c d rest hSeparator ih => exact ih
  | case6 c d rest hOther hDots ih => exact ih
  | case7 c d rest hOther hDots ih =>
    have hOther : isSeparator c = false := Bool.eq_false_iff.mpr hOther
    refine ⟨tidy_cons.mpr ⟨fun h => ?_, ih.1⟩, fun _ => ⟨?_, fun hPrefix => ?_⟩⟩
    · rw [hOther] at h
      cases h
    · rintro x ⟨⟩
      exact hOther
    -- the byte behind the first dot is the next one of the text
    · rw [removeDoubleDots, List.cons_prefix_cons, List.cons_prefix_cons] at hPrefix
      exact hDots ⟨hPrefix.1.symm, hPrefix.2.1.symm⟩

/-- What is tidy is left alone, also behind a separator if it does not begin otherwise. -/
theorem removeDoubleDots_of_tidy {skipping : Bool} {text : Bytes} (hTidy : Tidy text)
    (hHead : skipping = true →
      (∀ x ∈ text.head?, isSeparator x = false) ∧ ¬[46, 46] <+: text) :
    removeDoubleDots skipping text = text := by
  fun_induction removeDoubleDots skipping text with
  | case1 => rfl
  | case2 c rest ih =>
    obtain ⟨hFirst, hRest⟩ := tidy_cons.mp hTidy
    rw [ih hRest hFirst]
  | case3 c hSeparator =>
    rw [(hHead rfl).1 c rfl] at hSeparator
    cases hSeparator
  | case4 => rfl
  | case5 c d rest hSeparator ih =>
    rw [(hHead rfl).1 c rfl] at hSeparator
    cases hSeparator
  | case6 c d rest hOther hDots ih =>
    obtain ⟨rfl, rfl⟩ := hDots
    exact absurd (List.prefix_append [46, 46] rest) (hHead rfl).2
  | case7 c d rest hOther hDots ih =>
    rw [ih (tidy_cons.mp hTidy).2 nofun]

/-- What is left alone is tidy. -/
theorem tidy_of_removeDoubleDots {text : Bytes} (h : removeDoubleDots false text = text) :
    Tidy text := by
  have hTidy := (tidy_removeDoubleDots false text).1
  rwa [h] at hTidy

/-- **Cleaning makes a text tidy**, and leaves alone what is tidy already, and nothing else. -/
theorem removeDoubleDots_tidies (text : Bytes) :
    Tidy (removeDoubleDots false text) ∧ (removeDoubleDots false text = text ↔ Tidy text) :=
  ⟨(tidy_removeDoubleDots false text).1, tidy_of_removeDoubleDots,
    fun hTidy => removeDoubleDots_of_tidy hTidy nofun⟩

end Giblet.YahooWeb
