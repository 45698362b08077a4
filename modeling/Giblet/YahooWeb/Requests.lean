import Giblet.YahooWeb.HttpConnection

/-!
# YahooWeb — requests, written and read again

A client writes a request line, headers and an empty line, with the path
percent-encoded. The web server finds where that ends (`getRequestLen_head`)
and reads what was written (`parseHttpMessage_head`); so requests that are sent
one after the other, without content and on a connection that is kept, are
handled in their order, each of them once, however their bytes arrive
(`requests_handled`). Content is handed over as well, but is not taken off, and
read as requests once more (`content_read_again`).
-/

namespace Giblet.YahooWeb

open Intake YMsg

/-! ## What a client writes -/

/-- A request without content: a URI's path as it is meant, its query as it is written. -/
structure Request where
  request_method : Bytes
  path : Bytes
  query_string : Option Bytes
  http_version : Bytes
  http_headers : List (Bytes × Bytes)
  deriving DecidableEq, Repr

def slash : UInt8 := 47

/-- A path, percent-encoded name by name. -/
def encodePath (path : Bytes) : Bytes :=
  path.flatMap fun c => if c = slash then [c] else encodeByte c

def crlf : Bytes := [cr, lf]

namespace Request

/-- The URI as it is written. -/
def target (r : Request) : Bytes :=
  encodePath r.path ++
    match r.query_string with
    | none => []
    | some query => ascii "?" ++ query

/-- The request line, and the headers. -/
def lines (r : Request) : List Bytes :=
  (r.request_method ++ ascii " " ++ r.target ++ ascii " HTTP/" ++ r.http_version) ::
    r.http_headers.map fun header => header.1 ++ ascii ": " ++ header.2

/-- What is sent. -/
def head (r : Request) : Bytes := r.lines.flatMap (· ++ crlf) ++ crlf

/-- What the server makes of it. -/
def read (r : Request) : HttpRequest where
  request_method := r.request_method
  uri := r.path
  http_version := r.http_version
  query_string := r.query_string
  http_headers := r.http_headers
  content := []

end Request

/-- A byte that a line may have. -/
def isText (c : UInt8) : Bool := isprint c || 128 ≤ c

/-- Text that is written as it is, and in which none of these occurs. -/
def Written (delimiters text : Bytes) : Prop := ∀ c ∈ text, isText c = true ∧ c ∉ delimiters

instance (delimiters text : Bytes) : Decidable (Written delimiters text) :=
  decidable_of_iff (text.all fun c => isText c && !delimiters.contains c) (by simp [Written])

/-- A header that can be written; what is read of a value begins behind colons and spaces. -/
structure WrittenHeader (header : Bytes × Bytes) : Prop where
  some : header.1 ≠ []
  name : Written (ascii ": ") header.1
  value : Written [] header.2
  begins : ∀ c ∈ header.2.head?, c ∉ ascii ": "

instance (header : Bytes × Bytes) : Decidable (WrittenHeader header) :=
  decidable_of_iff (header.1 ≠ [] ∧ Written (ascii ": ") header.1 ∧ Written [] header.2 ∧
      (header.2.head?.all fun c => !(ascii ": ").contains c) = true)
    ⟨fun ⟨hSome, hName, hValue, hBegins⟩ =>
        ⟨hSome, hName, hValue, by simpa [Option.all_eq_true] using hBegins⟩,
      fun h => ⟨h.some, h.name, h.value, by simpa [Option.all_eq_true] using h.begins⟩⟩

/-- A request that can be written. -/
structure Request.WellFormed (r : Request) : Prop where
  request_method : isValidHttpMethod r.request_method = true
  path : r.path ≠ [] ∧ 0 ∉ r.path ∧ Tidy r.path
  query_string : ∀ query ∈ r.query_string, Written (ascii " ") query
  http_version : Written [] r.http_version
  http_headers : ∀ header ∈ r.http_headers, WrittenHeader header
  room : r.http_headers.length ≤ maxHeaders

/-! ## Where it ends -/

/-- Text goes on. -/
theorem requestLenFrom_text {i : Nat} {text : Bytes} (h : Written [] text) (rest : Bytes) :
    requestLenFrom i (text ++ rest) = requestLenFrom (i + text.length) rest := by
  have hAll : ∀ n : Fin 256, isText (UInt8.ofNat n) = true →
      (!isprint (UInt8.ofNat n) && UInt8.ofNat n ≠ cr && UInt8.ofNat n ≠ lf &&
        UInt8.ofNat n < 128) = false ∧ UInt8.ofNat n ≠ lf := by
    decide +kernel
  induction text generalizing i with
  | nil => rfl
  | cons c text ih =>
    obtain ⟨⟨hText, -⟩, hRest⟩ := List.forall_mem_cons.mp h
    obtain ⟨n, rfl⟩ := ofNat_fin c
    obtain ⟨hGood, hOther⟩ := hAll n hText
    rw [List.cons_append, requestLenFrom, hGood, if_neg Bool.false_ne_true,
      if_neg (fun h => hOther h.1),
      if_neg (fun h => hOther h.1), ih hRest, List.length_cons, Nat.add_assoc, Nat.add_comm 1]

/-- A line ends, and another one begins. -/
theorem requestLenFrom_crlf {i : Nat} {line : Bytes} (h : Written [] line) (hSome : line ≠ [])
    (rest : Bytes) :
    requestLenFrom i (crlf ++ (line ++ rest)) = requestLenFrom (i + 2 + line.length) rest := by
  obtain ⟨c, text, rfl⟩ := List.exists_cons_of_ne_nil hSome
  have hFirst : c ≠ cr ∧ c ≠ lf := by
    have hAll : ∀ n : Fin 256, isText (UInt8.ofNat n) = true →
        UInt8.ofNat n ≠ cr ∧ UInt8.ofNat n ≠ lf := by decide +kernel
    obtain ⟨n, rfl⟩ := ofNat_fin c
    exact hAll n (List.forall_mem_cons.mp h).1.1
  rw [crlf, List.cons_append, List.singleton_append, requestLenFrom, if_neg (by decide),
    if_neg (fun h => by cases h.1), if_neg (fun h => by cases h.1), requestLenFrom,
    if_neg (by decide), if_neg, if_neg, requestLenFrom_text h]
  · rintro ⟨-, hTake⟩
    exact hFirst.1 (List.cons.inj hTake).1
  · rintro ⟨-, hTake⟩
    exact hFirst.2 (List.cons.inj hTake).1

/-- The lines go on until one is empty. -/
theorem requestLenFrom_lines {i : Nat} {lines : List Bytes}
    (h : ∀ line ∈ lines, Written [] line ∧ line ≠ []) (more : Bytes) :
    requestLenFrom i (crlf ++ (lines.flatMap (· ++ crlf) ++ crlf ++ more)) =
      i + 2 + (lines.flatMap (· ++ crlf)).length + 2 := by
  induction lines generalizing i with
  | nil => rfl
  | cons line lines ih =>
    obtain ⟨⟨hText, hSome⟩, hRest⟩ := List.forall_mem_cons.mp h
    rw [List.flatMap_cons]
    simp only [List.append_assoc] at ih ⊢
    rw [requestLenFrom_crlf hText hSome, ih hRest]
    simp only [List.length_append, crlf, List.length_cons, List.length_nil]
    omega

/-- A head ends with its empty line. -/
theorem getRequestLen_lines {lines : List Bytes} (h : ∀ line ∈ lines, Written [] line ∧ line ≠ [])
    (hSome : lines ≠ []) (more : Bytes) :
    getRequestLen (lines.flatMap (· ++ crlf) ++ crlf ++ more) =
      (lines.flatMap (· ++ crlf) ++ crlf).length := by
  obtain ⟨line, lines, rfl⟩ := List.exists_cons_of_ne_nil hSome
  obtain ⟨⟨hLine, -⟩, hLines⟩ := List.forall_mem_cons.mp h
  have hRest := requestLenFrom_lines (i := (0 + line.length : Nat)) hLines more
  rw [getRequestLen, List.flatMap_cons]
  simp only [List.append_assoc] at hRest ⊢
  rw [requestLenFrom_text hLine, hRest]
  simp only [List.length_append, crlf, List.length_cons, List.length_nil]
  omega

/-! ## What is written is text -/

theorem Written.append {delimiters text more : Bytes} (h : Written delimiters text)
    (hMore : Written delimiters more) : Written delimiters (text ++ more) :=
  List.forall_mem_append.mpr ⟨h, hMore⟩

theorem Written.of_subset {delimiters fewer text : Bytes} (h : Written delimiters text)
    (hSubset : fewer ⊆ delimiters) : Written fewer text :=
  fun c hc => ⟨(h c hc).1, fun hMem => (h c hc).2 (hSubset hMem)⟩

theorem Written.text {delimiters text : Bytes} (h : Written delimiters text) : Written [] text :=
  h.of_subset (List.nil_subset _)

theorem written_encodePath (path : Bytes) : Written (ascii " ?") (encodePath path) := by
  have hAll : ∀ n : Fin 256, Written (ascii " ?")
      (if UInt8.ofNat n = slash then [UInt8.ofNat n] else encodeByte (UInt8.ofNat n)) := by
    decide +kernel
  intro c hc
  obtain ⟨x, -, hMem⟩ := List.mem_flatMap.mp hc
  obtain ⟨n, rfl⟩ := ofNat_fin x
  exact hAll n c hMem

theorem length_encodePath (path : Bytes) : path.length ≤ (encodePath path).length := by
  induction path with
  | nil => exact le_refl _
  | cons c path ih =>
    have hOne : 1 ≤ (if c = slash then [c] else encodeByte c).length := by
      unfold encodeByte
      split_ifs <;> simp
    rw [encodePath, List.flatMap_cons, ← encodePath, List.length_append, List.length_cons]
    omega

theorem written_method {request_method : Bytes} (h : isValidHttpMethod request_method = true) :
    Written (ascii " ") request_method ∧ ∃ c text, request_method = c :: text ∧
      Numeral.isSpace c = false := by
  have hMem := List.contains_iff_mem.mp h
  revert request_method
  simp only [List.mem_cons, List.not_mem_nil, or_false]
  rintro request_method - (rfl | rfl | rfl | rfl | rfl | rfl | rfl | rfl | rfl) <;>
    exact ⟨by decide +kernel, _, _, rfl, by decide⟩

namespace Request.WellFormed

variable {r : Request}

theorem target (h : r.WellFormed) : Written (ascii " ") r.target := by
  have hPath := (written_encodePath r.path).of_subset (List.cons_subset_cons _ (List.nil_subset _))
  unfold Request.target
  cases hQuery : r.query_string with
  | none => exact hPath.append nofun
  | some query => exact hPath.append (.append (by decide +kernel) (h.query_string query hQuery))

theorem target_ne_nil (h : r.WellFormed) : r.target ≠ [] := by
  have hLength := length_encodePath r.path
  have hPath := List.length_pos_of_ne_nil h.path.1
  refine List.ne_nil_of_length_pos ?_
  rw [Request.target, List.length_append]
  omega

theorem lines (h : r.WellFormed) : ∀ line ∈ r.lines, Written [] line ∧ line ≠ [] := by
  refine List.forall_mem_cons.mpr
    ⟨⟨?_, by simp [ascii]⟩, List.forall_mem_map.mpr fun header hMem => ?_⟩
  · exact ((((written_method h.request_method).1.text.append (by decide +kernel)).append
      h.target.text).append (by decide +kernel)).append h.http_version
  · obtain ⟨hSome, hName, hValue, -⟩ := h.http_headers header hMem
    exact ⟨(hName.text.append (by decide +kernel)).append hValue, by simp [hSome]⟩

/-- **A head ends where it was meant to end**, whatever follows. -/
theorem getRequestLen_head (h : r.WellFormed) (more : Bytes) :
    getRequestLen (r.head ++ more) = r.head.length :=
  getRequestLen_lines h.lines (List.cons_ne_nil _ _) more

end Request.WellFormed

/-! ## What is read -/

/-- A word is cut off, with the delimiters behind it. -/
theorem skip_word {delimiters word between rest : Bytes} (hWord : ∀ c ∈ word, c ∉ delimiters)
    (hBetween : ∀ c ∈ between, c ∈ delimiters) (hSome : between ≠ []) :
    skip delimiters (word ++ (between ++ rest)) =
      (word, rest.dropWhile fun c => delimiters.contains c) := by
  obtain ⟨d, more, rfl⟩ := List.exists_cons_of_ne_nil hSome
  obtain ⟨hd, hMore⟩ := List.forall_mem_cons.mp hBetween
  have hTake :
      (word ++ (d :: more ++ rest)).takeWhile (fun c => !delimiters.contains c) = word := by
    rw [List.takeWhile_append_of_pos (fun c hc => by simpa using hWord c hc), List.cons_append,
      List.takeWhile_cons_of_neg (by simpa using hd), List.append_nil]
  have hDrop : (d :: more ++ rest).dropWhile (fun c => delimiters.contains c) =
      rest.dropWhile fun c => delimiters.contains c := by
    rw [List.dropWhile_append_of_pos (fun c hc => by simpa using hBetween c hc)]
  rw [skip, hTake, List.drop_left, hDrop]

/-- What does not begin with a delimiter stays. -/
theorem dropWhile_head {delimiters text : Bytes} (h : ∀ c ∈ text.head?, c ∉ delimiters) :
    text.dropWhile (fun c => delimiters.contains c) = text := by
  cases text with
  | nil => rfl
  | cons c text => exact List.dropWhile_cons_of_neg (by simpa using h c rfl)

theorem Written.not_line_end {delimiters text : Bytes} (h : Written delimiters text) :
    ∀ c ∈ text, c ∉ [cr, lf] := by
  have hAll : ∀ n : Fin 256, isText (UInt8.ofNat n) = true → UInt8.ofNat n ∉ [cr, lf] := by
    decide +kernel
  intro c hc
  obtain ⟨n, rfl⟩ := ofNat_fin c
  exact hAll n (h _ hc).1

/-- A line is cut off. -/
theorem skip_line {line : Bytes} (h : Written [] line) (rest : Bytes) :
    skip [cr, lf] (line ++ (crlf ++ rest)) =
      (line, rest.dropWhile fun c => [cr, lf].contains c) :=
  skip_word h.not_line_end (fun _ hc => hc) (List.cons_ne_nil _ _)

/-- The headers, up to the carriage return of the empty line. -/
def headerText (http_headers : List (Bytes × Bytes)) : Bytes :=
  (http_headers.map fun header => header.1 ++ ascii ": " ++ header.2).flatMap (· ++ crlf) ++ [cr]

/-- **The headers that were written** are read. -/
theorem parseHttpHeaders_headerText {room : Nat} {http_headers : List (Bytes × Bytes)}
    (h : ∀ header ∈ http_headers, WrittenHeader header) (hRoom : http_headers.length ≤ room) :
    parseHttpHeaders room ((headerText http_headers).dropWhile fun c => [cr, lf].contains c) =
      http_headers := by
  induction http_headers generalizing room with
  | nil => cases room <;> rfl
  | cons header http_headers ih =>
    obtain ⟨⟨hSome, hName, hValue, hFirst⟩, hRest⟩ := List.forall_mem_cons.mp h
    obtain ⟨room, rfl⟩ : ∃ n, room = n + 1 := ⟨room - 1, by simp at hRoom; omega⟩
    have hText : headerText (header :: http_headers) =
        header.1 ++ (ascii ": " ++ (header.2 ++ (crlf ++ headerText http_headers))) := by
      simp only [headerText, List.map_cons, List.flatMap_cons, List.append_assoc]
    have hLine : ∀ c ∈ (header.1 ++ (ascii ": " ++
        (header.2 ++ (crlf ++ headerText http_headers)))).head?, c ∉ [cr, lf] := by
      obtain ⟨c, name, hc⟩ := List.exists_cons_of_ne_nil hSome
      rw [hc] at hName ⊢
      rintro c ⟨⟩
      exact hName.not_line_end c List.mem_cons_self
    have hBegin : ∀ c ∈ (header.2 ++ (crlf ++ headerText http_headers)).head?, c ∉ ascii ": " := by
      cases hv : header.2 with
      | nil =>
        rintro c ⟨⟩
        decide
      | cons x value =>
        rw [hv] at hFirst
        exact hFirst
    rw [hText, dropWhile_head hLine, parseHttpHeaders,
      skip_word (fun c hc => (hName c hc).2) (fun c hc => hc) (by decide), dropWhile_head hBegin]
    dsimp only
    rw [skip_line hValue]
    dsimp only
    rw [if_neg hSome, ih hRest (Nat.le_of_succ_le_succ hRoom)]

theorem decoded_encodePath :
    Decoded false fun c => if c = slash then [c] else encodeByte c := by
  intro c room rest
  dsimp only
  split
  · rename_i hSlash
    subst hSlash
    exact mgUrlDecode_plain false room (by decide) rest
  · exact decoded_encodeByte false c room rest

theorem cString_eq {text : Bytes} (h : 0 ∉ text) : cString text = text :=
  List.takeWhile_eq_self_iff.mpr fun c hc => by
    have hOther : c ≠ 0 := fun hZero => h (hZero ▸ hc)
    simpa using hOther

theorem cleanUri_encodePath {path : Bytes} (hPath : 0 ∉ path) (hTidy : Tidy path) :
    cleanUri (encodePath path) = path := by
  have hDecode := decoded_encodePath.flatMap (length_encodePath path)
  rw [← encodePath] at hDecode
  rw [cleanUri, hDecode, cString_eq hPath, removeDoubleDots_of_tidy hTidy fun h => by cases h]

namespace Request.WellFormed

variable {r : Request}

/-- What follows the request's method, up to the last byte. -/
theorem dropLast_head (r : Request) :
    r.head.dropLast = r.request_method ++ (ascii " " ++ (r.target ++ (ascii " " ++
      ((ascii "HTTP/" ++ r.http_version) ++ (crlf ++ headerText r.http_headers))))) := by
  have hVersion : ascii " HTTP/" = ascii " " ++ ascii "HTTP/" := rfl
  have hEnd : crlf = [cr] ++ [lf] := rfl
  unfold Request.head Request.lines headerText
  rw [List.flatMap_cons, hVersion]
  nth_rewrite 3 [hEnd]
  simp only [← List.append_assoc, List.dropLast_concat]

theorem not_zero_mem_head (h : r.WellFormed) : 0 ∉ r.head := by
  have hText {text : Bytes} (hWritten : Written [] text) : 0 ∉ text := fun hZero =>
    absurd (hWritten 0 hZero).1 (by decide)
  unfold Request.head
  simp only [List.mem_append, List.mem_flatMap]
  rintro (⟨line, hLine, hZero | hZero⟩ | hZero)
  · exact hText (h.lines line hLine).1 hZero
  · exact absurd hZero (by decide)
  · exact absurd hZero (by decide)

/-- The path and the query are taken apart again. -/
theorem read_target (h : r.WellFormed) :
    cleanUri (r.target.takeWhile (· ≠ 63)) = r.path ∧
      (if r.target.contains 63 then some ((r.target.dropWhile (· ≠ 63)).drop 1) else none) =
        r.query_string := by
  have hNot : 63 ∉ encodePath r.path := fun hc =>
    absurd (written_encodePath r.path 63 hc).2 (not_not.mpr (by decide))
  have hPath : ∀ c ∈ encodePath r.path, decide (c ≠ 63) = true := fun c hc =>
    decide_eq_true fun hSame => hNot (hSame ▸ hc)
  cases hQuery : r.query_string with
  | none =>
    have hTarget : r.target = encodePath r.path := by
      rw [Request.target, hQuery, List.append_nil]
    rw [hTarget, if_neg (hNot ∘ List.contains_iff_mem.mp), List.takeWhile_eq_self_iff.mpr hPath]
    exact ⟨cleanUri_encodePath h.path.2.1 h.path.2.2, rfl⟩
  | some query =>
    have hTarget : r.target = encodePath r.path ++ 63 :: query := by
      rw [Request.target, hQuery]
      rfl
    have hMem : 63 ∈ encodePath r.path ++ 63 :: query :=
      List.mem_append_right _ List.mem_cons_self
    rw [hTarget, if_pos (List.contains_iff_mem.mpr hMem),
      List.takeWhile_append_of_pos hPath, List.takeWhile_cons_of_neg (by decide), List.append_nil,
      List.dropWhile_append_of_pos hPath, List.dropWhile_cons_of_neg (by decide)]
    exact ⟨cleanUri_encodePath h.path.2.1 h.path.2.2, rfl⟩

/-- **What was written is read.** -/
theorem parseHttpMessage_head (h : r.WellFormed) : parseHttpMessage r.head = some r.read := by
  obtain ⟨hMethod, c, text, hBegin, hSpace⟩ := written_method h.request_method
  have hZero : 0 ∉ r.head.dropLast := fun hMem =>
    h.not_zero_mem_head (List.mem_of_mem_dropLast hMem)
  have hVersion : Written [] (ascii "HTTP/" ++ r.http_version) :=
    .append (by decide +kernel) h.http_version
  have hStart : (cString r.head.dropLast).dropWhile Numeral.isSpace = r.head.dropLast := by
    rw [cString_eq hZero, dropLast_head, hBegin, List.cons_append,
      List.dropWhile_cons_of_neg (by rw [hSpace]; nofun)]
  -- the method, the URI and the version are cut off one after the other
  have hUri : skip (ascii " ") r.head.dropLast = (r.request_method, r.target ++ (ascii " " ++
      ((ascii "HTTP/" ++ r.http_version) ++ (crlf ++ headerText r.http_headers)))) := by
    rw [dropLast_head,
      skip_word (fun c hc => (hMethod c hc).2) (fun _ hc => hc) (by decide +kernel)]
    obtain ⟨x, rest, hx⟩ := List.exists_cons_of_ne_nil h.target_ne_nil
    have hTarget := (h.target x (hx ▸ List.mem_cons_self)).2
    rw [dropWhile_head]
    rw [hx]
    rintro c ⟨⟩
    exact hTarget
  have hLine : skip (ascii " ") (r.target ++ (ascii " " ++
      ((ascii "HTTP/" ++ r.http_version) ++ (crlf ++ headerText r.http_headers)))) =
      (r.target, (ascii "HTTP/" ++ r.http_version) ++ (crlf ++ headerText r.http_headers)) := by
    rw [skip_word (fun c hc => (h.target c hc).2) (fun _ hc => hc) (by decide +kernel),
      dropWhile_head]
    rintro c ⟨⟩
    decide +kernel
  unfold parseHttpMessage
  simp only [hStart, hUri, hLine, skip_line hVersion, h.request_method,
    parseHttpHeaders_headerText h.http_headers h.room, h.read_target]
  rw [if_neg (by simp)]
  rfl

/-- Nothing is found in a part of a head. -/
theorem getRequestLen_part (h : r.WellFormed) {buf : Bytes} (hPart : buf <+: r.head)
    (hShort : buf.length < r.head.length) : getRequestLen buf = 0 := by
  obtain ⟨more, hMore⟩ := hPart
  by_contra hFound
  have hLen := h.getRequestLen_head []
  have hSame : getRequestLen (buf ++ more) = getRequestLen buf := requestLenFrom_append hFound more
  rw [List.append_nil, ← hMore, hSame] at hLen
  rw [← hMore] at hShort
  have hLe := (toNat_getRequestLen_le (by omega : 0 < getRequestLen buf)).2
  omega

end Request.WellFormed

/-- **A request that was written** is found and read, whatever follows it. -/
theorem request_read {r : Request} (h : r.WellFormed) (more : Bytes) :
    getRequestLen (r.head ++ more) = r.head.length ∧
      parseHttpMessage ((r.head ++ more).take (getRequestLen (r.head ++ more)).toNat) =
        some r.read := by
  have hLen := h.getRequestLen_head more
  refine ⟨hLen, ?_⟩
  rw [hLen, Int.toNat_natCast, List.take_left]
  exact h.parseHttpMessage_head

/-- What a browser asks for. -/
def homePage : Request where
  request_method := ascii "GET"
  path := ascii "/index file.html"
  query_string := some (ascii "intl=us")
  http_version := ascii "1.1"
  http_headers := [(ascii "Host", ascii "localhost:41337")]

theorem homePage_wellFormed : homePage.WellFormed where
  request_method := by decide +kernel
  path := ⟨by decide +kernel, by decide +kernel, tidy_of_removeDoubleDots (by decide +kernel)⟩
  query_string := by decide +kernel
  http_version := by decide +kernel
  http_headers := by decide +kernel
  room := by decide +kernel

theorem request_read_homePage :
    getRequestLen (homePage.head ++ homePage.head) = homePage.head.length ∧
      parseHttpMessage ((homePage.head ++ homePage.head).take
        (getRequestLen (homePage.head ++ homePage.head)).toNat) = some homePage.read :=
  request_read homePage_wellFormed homePage.head

/-! ## One after the other -/

/-- The handlers of `HTTPServerThread`. -/
def httpServerHandlers : List Bytes := [ascii "/"]

/-- A request that the handler is called for, with content behind its head. -/
structure Request.Carries (r : Request) (content : Bytes) : Prop where
  path : r.path.take 1 = ascii "/"
  http_version : r.http_version ∈ httpVersions
  http : wantsWebsocket r.read = false
  unexpected : expectsContinue r.read = false
  length : contentLen r.read = content.length
  short : r.head.length ≤ maxRequestSize

/-- What is answered to a request, by calling the handler. -/
def Request.answer (r : Request) (content : Bytes) : Answer :=
  .handled (ascii "/") { r.read with content }

namespace Request.Carries

variable {r : Request} {content : Bytes}

/-- The request is admitted, and its handler called; its content stays in the buffer. -/
theorem steps (hWell : r.WellFormed) (h : r.Carries content) (more : Bytes) :
    httpStep httpServerHandlers .idle (r.head ++ more) =
        some (.waiting (ascii "/") r.read, r.head.length, []) ∧
      httpStep httpServerHandlers (.waiting (ascii "/") r.read) (content ++ more) =
        some (if shouldKeepAlive r.read then .idle else .done, 0, [r.answer content]) := by
  have hLen := hWell.getRequestLen_head more
  have hLong : 2 ≤ r.head.length := by
    rw [Request.head, List.length_append]
    exact Nat.le_add_left _ _
  have hHandler : handlerFor httpServerHandlers r.read = some (ascii "/") := by
    have hPrefix : (ascii "/").isPrefixOf r.read.uri = true :=
      List.isPrefixOf_iff_prefix.mpr (h.path ▸ List.take_prefix 1 _)
    rw [handlerFor, h.http, if_neg Bool.false_ne_true]
    exact List.find?_cons_of_pos hPrefix
  have hValid : isValidUri r.read.uri = true := by
    rw [isValidUri, Request.read, h.path]
    rfl
  have hServed : ¬httpVersions.contains r.read.http_version = false := by
    rw [List.contains_iff_mem.mpr (show r.read.http_version ∈ httpVersions from h.http_version)]
    decide
  have hAdmit : admission httpServerHandlers r.read = (.waiting (ascii "/") r.read, []) := by
    rw [admission, hValid, if_neg (by decide), if_neg hServed, h.unexpected, hHandler]
    rfl
  constructor
  · rw [httpStep, hLen, if_neg (by omega), if_neg (by omega)]
    simp only [Int.toNat_natCast, List.take_left, hWell.parseHttpMessage_head, hAdmit]
  · rw [httpStep, h.length, if_pos (by rw [List.length_append]; omega), HttpRequest.withContent,
      Int.toNat_natCast, List.take_left]
    rfl

/-- What a buffer has got of a request: a part of its head, its head and a part of its content, or
all of it. -/
theorem drains (hWell : r.WellFormed) (h : r.Carries content) {buf more later : Bytes}
    (hBuf : buf ++ more = r.head ++ (content ++ later)) :
    httpStep httpServerHandlers .idle buf = none ∧ buf.length < r.head.length ∨
      (∃ part, buf = r.head ++ part ∧ part.length < content.length ∧
        Drains (httpStep httpServerHandlers) .idle buf [[]] (.waiting (ascii "/") r.read) part) ∨
      ∃ buf', buf = r.head ++ (content ++ buf') ∧ buf' ++ more = later ∧
        ∀ es stage rest, Drains (httpStep httpServerHandlers)
            (if shouldKeepAlive r.read then .idle else .done) (content ++ buf') es stage rest →
          Drains (httpStep httpServerHandlers) .idle buf ([] :: [r.answer content] :: es) stage
            rest := by
  by_cases hHead : r.head.length ≤ buf.length
  · obtain ⟨part, rfl⟩ := List.prefix_of_prefix_length_le
      (hBuf ▸ List.prefix_append r.head _) (List.prefix_append buf more) hHead
    rw [List.append_assoc] at hBuf
    replace hBuf := List.append_cancel_left hBuf
    right
    by_cases hContent : content.length ≤ part.length
    · obtain ⟨buf', rfl⟩ := List.prefix_of_prefix_length_le
        (hBuf ▸ List.prefix_append content _) (List.prefix_append part more) hContent
      rw [List.append_assoc] at hBuf
      refine .inr ⟨buf', rfl, List.append_cancel_left hBuf, fun es stage rest hLater => ?_⟩
      refine .goes (h.steps hWell _).1 ?_
      rw [List.drop_left]
      exact .goes (h.steps hWell buf').2 hLater
    · refine .inl ⟨part, rfl, by omega, .goes (h.steps hWell _).1 ?_⟩
      rw [List.drop_left]
      exact .waits (if_neg (by rw [h.length]; omega))
  · -- the end of the head is not there yet
    refine .inl ⟨if_pos (hWell.getRequestLen_part ?_ (by omega)), by omega⟩
    exact List.prefix_of_prefix_length_le (List.prefix_append buf _)
      (hBuf ▸ List.prefix_append r.head _) (by omega)

end Request.Carries

/-- A request without content, after which the connection is kept. -/
structure Request.Plain (r : Request) : Prop where
  carries : r.Carries []
  kept : shouldKeepAlive r.read = true

/-- What arrived of some requests: the first of them are handled, and of the next one there is no
more than a part. -/
theorem drains_requests {requests : List Request} (h : ∀ r ∈ requests, r.WellFormed ∧ r.Plain)
    {buf more : Bytes} (hBuf : buf ++ more = requests.flatMap Request.head) :
    ∃ es rest, Drains (httpStep httpServerHandlers) .idle buf es .idle rest ∧
      rest.length ≤ maxRequestSize ∧
      (more = [] → es.flatten = requests.map (·.answer []) ∧ rest = []) := by
  induction requests generalizing buf with
  | nil =>
    obtain ⟨rfl, rfl⟩ := List.append_eq_nil_iff.mp hBuf
    exact ⟨[], [], .waits rfl, Nat.zero_le _, fun _ => ⟨rfl, rfl⟩⟩
  | cons r requests ih =>
    obtain ⟨⟨hWell, hPlain⟩, hRest⟩ := List.forall_mem_cons.mp h
    obtain ⟨hWaits, hPart⟩ | ⟨part, -, hPart, -⟩ | ⟨buf', rfl, hLater, hGoes⟩ :=
      hPlain.carries.drains hWell hBuf
    · refine ⟨[], buf, .waits hWaits, hPart.le.trans hPlain.carries.short, fun hNone => ?_⟩
      rw [hNone, List.append_nil] at hBuf
      rw [hBuf, List.flatMap_cons, List.length_append] at hPart
      omega
    · cases hPart
    · obtain ⟨es, rest, hDrains, hShort, hAll⟩ := ih hRest hLater
      rw [if_pos hPlain.kept] at hGoes
      refine ⟨_, rest, hGoes _ _ _ hDrains, hShort, fun hNone => ?_⟩
      rw [List.flatten_cons, List.flatten_cons, (hAll hNone).1]
      exact ⟨rfl, (hAll hNone).2⟩

/-- **Requests are handled in their order**, each of them once, however their bytes arrive. -/
theorem requests_handled {requests : List Request} (h : ∀ r ∈ requests, r.WellFormed ∧ r.Plain)
    {chunks : List Bytes} (hChunks : chunks.flatten = requests.flatMap Request.head) :
    ∃ conn, readFromClients httpServerHandlers .accepted chunks = some conn ∧
      conn.answers = requests.map (·.answer []) ∧ conn.Idle ∧ conn.local_iobuf = [] := by
  obtain ⟨es, rest, hDrains, -, hAll⟩ :=
    drains_requests h ((List.append_nil _).trans hChunks)
  obtain ⟨hAnswers, rfl⟩ := hAll rfl
  obtain ⟨conn, hRead, -, hEnd⟩ := readFromClients_drains hDrains fun buf fs left hPart hLeft => by
    obtain ⟨more, hMore⟩ := hPart
    obtain ⟨gs, rest, hDrains', hShort, -⟩ := drains_requests h (hMore.trans hChunks)
    obtain ⟨-, -, rfl⟩ := hLeft.unique hDrains'
    exact hShort
  obtain ⟨hTold, hAt⟩ := hEnd nofun
  exact ⟨conn, hRead, hTold.trans hAnswers, hAt.1, hAt.2⟩

theorem homePage_plain : homePage.Plain where
  carries :=
    { path := by decide +kernel
      http_version := by decide +kernel
      http := by decide +kernel
      unexpected := by decide +kernel
      length := by decide +kernel
      short := by decide +kernel }
  kept := by decide +kernel

/-- Two requests that arrive byte by byte. -/
theorem requests_handled_bytewise :
    ∃ conn, readFromClients httpServerHandlers .accepted
        (([homePage, homePage].flatMap Request.head).map ([·])) = some conn ∧
      conn.answers = [homePage.answer [], homePage.answer []] ∧ conn.Idle ∧
      conn.local_iobuf = [] :=
  @requests_handled [homePage, homePage] (by simp [homePage_wellFormed, homePage_plain]) _
    (by decide +kernel)

/-! ## With content -/

section Content

variable {r : Request} {content : Bytes} {chunks : List Bytes} {es : List (List Answer)}
  {stage : Stage} {rest : Bytes}

/-- What arrived of a request, when it is known what comes of the content that stays. -/
theorem Request.Carries.drains_part (hWell : r.WellFormed) (h : r.Carries content)
    (hLater : Drains (httpStep httpServerHandlers)
      (if shouldKeepAlive r.read then .idle else .done) content es stage rest)
    (hShort : stage = .idle → rest.length ≤ maxRequestSize) {buf more : Bytes}
    (hBuf : buf ++ more = r.head ++ content) :
    ∃ fs stage' left, Drains (httpStep httpServerHandlers) .idle buf fs stage' left ∧
      (stage' = .idle → left.length ≤ maxRequestSize) ∧
      (more = [] → fs = [] :: [r.answer content] :: es ∧ stage' = stage ∧ left = rest) := by
  obtain ⟨hWaits, hPart⟩ | ⟨part, rfl, hPart, hDrains⟩ | ⟨buf', rfl, hNone, hGoes⟩ :=
    h.drains hWell (hBuf.trans (by rw [List.append_nil]) : buf ++ more = r.head ++ (content ++ []))
  · refine ⟨[], .idle, buf, .waits hWaits, fun _ => hPart.le.trans h.short, ?_⟩
    rintro rfl
    rw [List.append_nil] at hBuf
    rw [hBuf, List.length_append] at hPart
    omega
  · refine ⟨_, _, part, hDrains, nofun, ?_⟩
    rintro rfl
    rw [List.append_nil] at hBuf
    rw [List.append_cancel_left hBuf] at hPart
    exact absurd hPart (lt_irrefl _)
  · obtain ⟨rfl, rfl⟩ := List.append_eq_nil_iff.mp hNone
    simp only [List.append_nil] at hGoes ⊢
    exact ⟨_, stage, rest, hGoes _ _ _ hLater, hShort, fun _ => ⟨rfl, rfl, rfl⟩⟩

/-- A request is answered, and then what stays of it. -/
theorem Request.Carries.answered (hWell : r.WellFormed) (h : r.Carries content)
    (hLater : Drains (httpStep httpServerHandlers)
      (if shouldKeepAlive r.read then .idle else .done) content es stage rest)
    (hShort : stage = .idle → rest.length ≤ maxRequestSize)
    (hChunks : chunks.flatten = r.head ++ content) :
    ∃ conn, readFromClients httpServerHandlers .accepted chunks = some conn ∧
      told conn.answers = r.answer content :: es.flatten ∧
      (stage ≠ .done →
        conn.answers = r.answer content :: es.flatten ∧ conn.At rest stage) := by
  obtain ⟨fs, stage', left, hDrains, -, hAll⟩ :=
    h.drains_part hWell hLater hShort ((List.append_nil _).trans hChunks)
  obtain ⟨rfl, rfl, rfl⟩ := hAll rfl
  exact readFromClients_drains hDrains fun buf gs left' hPart hLeft => by
    obtain ⟨more, hMore⟩ := hPart
    obtain ⟨gs', stage'', left'', hDrains', hShort', -⟩ :=
      h.drains_part hWell hLater hShort (hMore.trans hChunks)
    obtain ⟨-, rfl, rfl⟩ := hLeft.unique hDrains'
    exact hShort' rfl

/-- **The content of a request is not taken off** if the connection is kept: what its handler gets
as content is read again, as requests. -/
theorem content_read_again {inner : List Request} (hWell : r.WellFormed)
    (hCarries : r.Carries (inner.flatMap Request.head)) (hKept : shouldKeepAlive r.read = true)
    (hInner : ∀ r ∈ inner, r.WellFormed ∧ r.Plain)
    (hChunks : chunks.flatten = r.head ++ inner.flatMap Request.head) :
    ∃ conn, readFromClients httpServerHandlers .accepted chunks = some conn ∧
      conn.answers = r.answer (inner.flatMap Request.head) :: inner.map (·.answer []) ∧
      conn.Idle ∧ conn.local_iobuf = [] := by
  obtain ⟨es, rest, hDrains, -, hAll⟩ := drains_requests hInner (List.append_nil _)
  obtain ⟨hAnswers, rfl⟩ := hAll rfl
  obtain ⟨conn, hRead, -, hEnd⟩ :=
    hCarries.answered hWell (by rwa [if_pos hKept]) (fun _ => Nat.zero_le _) hChunks
  obtain ⟨hTold, hAt⟩ := hEnd nofun
  exact ⟨conn, hRead, by rw [hTold, hAnswers], hAt⟩

/-- A request whose content is another one. -/
def nesting : Request where
  request_method := ascii "GET"
  path := ascii "/ycontent/"
  query_string := none
  http_version := ascii "1.0"
  http_headers := [(ascii "Connection", ascii "keep-alive"),
    (ascii "Content-Length", Numeral.ofNat homePage.head.length)]

theorem content_read_again_nesting :
    ∃ conn, readFromClients httpServerHandlers .accepted [nesting.head, homePage.head] =
        some conn ∧
      conn.answers = [nesting.answer homePage.head, homePage.answer []] ∧ conn.Idle ∧
      conn.local_iobuf = [] := by
  have hWell : nesting.WellFormed :=
    { request_method := by decide +kernel
      path := ⟨by decide +kernel, by decide +kernel, tidy_of_removeDoubleDots (by decide +kernel)⟩
      query_string := nofun
      http_version := by decide +kernel
      http_headers := by decide +kernel
      room := by decide +kernel }
  have hCarries : nesting.Carries homePage.head :=
    { path := by decide +kernel
      http_version := by decide +kernel
      http := by decide +kernel
      unexpected := by decide +kernel
      length := by decide +kernel
      short := by decide +kernel }
  have hInner : [homePage].flatMap Request.head = homePage.head := List.flatMap_singleton _ _
  have hNested := @content_read_again nesting [nesting.head, homePage.head] [homePage] hWell
    (by rwa [hInner]) (by decide +kernel) (by simp [homePage_wellFormed, homePage_plain])
    (by simp)
  rwa [hInner] at hNested

/-- A request after which the connection is not kept is the only one that is answered. -/
theorem Request.Carries.answered_last (hWell : r.WellFormed) (h : r.Carries content)
    (hLast : shouldKeepAlive r.read = false) (hChunks : chunks.flatten = r.head ++ content) :
    ∃ conn, readFromClients httpServerHandlers .accepted chunks = some conn ∧
      told conn.answers = [r.answer content] := by
  have hLater : Drains (httpStep httpServerHandlers)
      (if shouldKeepAlive r.read then .idle else .done) content [] .done content := by
    rw [hLast, if_neg nofun]
    exact .waits rfl
  obtain ⟨conn, hRead, hTold, -⟩ := h.answered hWell hLater nofun hChunks
  exact ⟨conn, hRead, hTold⟩

end Content

end Giblet.YahooWeb
