import Giblet.Lib.Chunked
import Giblet.YahooWeb.MultilHostWebServer

/-!
# YahooWeb — what a client reads of the replies

A handler sends data piece by piece, and mongoose makes one chunk of each; a
handler that sends nothing gets no reply at all, and an empty piece is the end
of a body. So on a connection that is kept, the client and the server go on
together only as long as neither happens.

* `readsReplies_iff` — what a client reads of some replies.
* `replies_in_step_iff` — when the replies belong to the requests.
-/

namespace Giblet.YahooWeb

open Effect Intake YMsg

/-! ## What is spooled -/

/-- What is used of a `connection` while its handler sends data. -/
structure Spool where
  remote_iobuf : Bytes
  status_code : Nat
  headers_sent : Bool
  deriving DecidableEq, Repr

/-- `status_code_to_str`. -/
def statusCodeToStr : Nat → Bytes
  | 200 => ascii "OK"
  | 201 => ascii "Created"
  | 204 => ascii "No Content"
  | 301 => ascii "Moved Permanently"
  | 302 => ascii "Found"
  | 304 => ascii "Not Modified"
  | 400 => ascii "Bad Request"
  | 403 => ascii "Forbidden"
  | 404 => ascii "Not Found"
  | 405 => ascii "Method Not Allowed"
  | 409 => ascii "Conflict"
  | 411 => ascii "Length Required"
  | 413 => ascii "Request Entity Too Large"
  | 415 => ascii "Unsupported Media Type"
  | 423 => ascii "Locked"
  | 500 => ascii "Server Error"
  | 501 => ascii "Not Implemented"
  | _ => ascii "Server Error"

/-- The status line. -/
def statusLine (status : Nat) : Bytes :=
  ascii "HTTP/1.1 " ++ Numeral.ofNat status ++ ascii " " ++ statusCodeToStr status ++ crlf

namespace Spool

/-- `mg_write`. -/
def mgWrite (buf : Bytes) (c : Spool) : Spool :=
  { c with remote_iobuf := c.remote_iobuf ++ buf }

/-- `mg_send_header`. -/
def mgSendHeader (name v : Bytes) (c : Spool) : Spool :=
  let c :=
    if c.status_code = 0 then ({ c with status_code := 200 } : Spool).mgWrite (statusLine 200) else c
  c.mgWrite (name ++ ascii ": " ++ v ++ crlf)

/-- `terminate_headers`. -/
def terminateHeaders (c : Spool) : Spool :=
  if c.headers_sent then c
  else { (c.mgSendHeader (ascii "Transfer-Encoding") (ascii "chunked")).mgWrite crlf with
    headers_sent := true }

/-- `write_chunk`; the length is an `int`, and `%X` takes it for an unsigned one. -/
def writeChunk (buf : Bytes) (c : Spool) : Spool :=
  let len : Int := (buf.length : Int).bmod (2 ^ 32)
  ((c.mgWrite (Chunked.hex (buf.length % 2 ^ 32) ++ crlf)).mgWrite
    (buf.take len.toNat)).mgWrite crlf

/-- `mg_send_data`. -/
def sendData (c : Spool) (data : Bytes) : Spool := c.terminateHeaders.writeChunk data

/-- `write_terminating_chunk`. -/
def writeTerminatingChunk (c : Spool) : Spool := c.mgWrite (ascii "0\r\n\r\n")

/-- A handler that sends this data is called, and the request is released. -/
def callHandler (sent : List Bytes) (c : Spool) : Spool :=
  let c := sent.foldl sendData c
  let c := if c.headers_sent then c.writeTerminatingChunk else c
  { c with headers_sent := false }

end Spool

/-- The body of an error, which has its code and what it means. -/
def errorBody (code : Nat) : Bytes :=
  if 300 ≤ code ∧ code ≤ 399 then []
  else Numeral.ofNat code ++ ascii " " ++ statusCodeToStr code ++ [lf]

/-- What `send_http_error` spools. -/
def httpErrorText (code : Nat) : Bytes :=
  statusLine code ++ ascii "Content-Length: " ++ Numeral.ofNat (errorBody code).length ++ crlf ++
    ascii "Content-Type: text/plain" ++ crlf ++ crlf ++ errorBody code

/-- What is spooled for an answer, when its handler sends this data. A request has no status before
its handler is called. -/
def Answer.spooled (sent : List Bytes) : Answer → Bytes
  | .continued => ascii "HTTP/1.1 100 Continue\r\n\r\n"
  | .error code => httpErrorText code
  | .handled _ _ => (Spool.callHandler sent ⟨[], 0, false⟩).remote_iobuf
  | .leftOut _ => []

/-- The data that a call sends. -/
def collecting (call : Action Exchange Unit) : Action Exchange (List Bytes) := fun e =>
  match call { e with reply := { e.reply with sent := [] } } with
  | .ok _ e' => .ok e'.reply.sent { e' with reply :=
      { e'.reply with sent := e.reply.sent ++ e'.reply.sent } }
  | .error fault e' => .error fault { e' with reply :=
      { e'.reply with sent := e.reply.sent ++ e'.reply.sent } }

/-- What is sent for each of some answers, one after the other. -/
def sentFor (handlers_ : OrderedMap Bytes HandlerFunction) :
    List Answer → Action Exchange (List (Answer × List Bytes))
  | [] => pure []
  | a :: answers => do
    let sent ← collecting (connectionCallback handlers_ a)
    let later ← sentFor handlers_ answers
    pure ((a, sent) :: later)

/-- All that is spooled for some answers, each with what is sent for it. -/
def spooledText (answers : List (Answer × List Bytes)) : Bytes :=
  answers.flatMap fun answer => answer.1.spooled answer.2

/-! ## What a client reads -/

/-- A head is taken off a text. -/
def readHead (text : Bytes) : Option (HttpRequest × Bytes) :=
  if 0 < getRequestLen text then
    let request_len := (getRequestLen text).toNat
    (parseHttpMessage (text.take request_len)).map fun head => (head, text.drop request_len)
  else none

/-- A text begins with the head of a reply, with a status, and goes on with a rest. -/
structure ReadsHead (text : Bytes) (head : HttpRequest) (status : Bytes) (rest : Bytes) : Prop where
  version : ascii "HTTP/" <+: text
  reads : readHead text = some (head, rest)
  -- a reply has it where a request has its URI
  status : head.uri = status

/-- A text begins with a reply, and goes on with a rest. -/
inductive ReadsReply : Bytes → Bytes → Bytes → Prop
  | chunked {text after body rest status : Bytes} {head : HttpRequest}
      (hHead : ReadsHead text head status after) (hStatus : status ≠ ascii "100")
      (hCoding : mgGetHeader head (ascii "Transfer-Encoding") = some (ascii "chunked"))
      (hBody : Chunked.Reads after body rest) : ReadsReply text body rest
  | sized {text after body rest status : Bytes} {head : HttpRequest}
      (hHead : ReadsHead text head status after) (hStatus : status ≠ ascii "100")
      (hCoding : mgGetHeader head (ascii "Transfer-Encoding") = none)
      (hLength : contentLen head = body.length) (hAfter : after = body ++ rest) :
      ReadsReply text body rest

/-- A text is read as replies with these bodies, and nothing else; a reply that is to be continued
is passed over. -/
inductive ReadsReplies : Bytes → List Bytes → Prop
  | nil : ReadsReplies [] []
  | cons {text body rest : Bytes} {bodies : List Bytes} (first : ReadsReply text body rest)
      (later : ReadsReplies rest bodies) : ReadsReplies text (body :: bodies)
  | continued {text rest : Bytes} {bodies : List Bytes} {head : HttpRequest}
      (hHead : ReadsHead text head (ascii "100") rest) (later : ReadsReplies rest bodies) :
      ReadsReplies text bodies

/-! ## Replies -/

/-- The lines of a reply's head. -/
def replyLines : List Bytes := [ascii "HTTP/1.1 200 OK", ascii "Transfer-Encoding: chunked"]

/-- The lines of an error's head. -/
def errorLines (code : Nat) (body : Bytes) : List Bytes :=
  [ascii "HTTP/1.1 " ++ Numeral.ofNat code ++ ascii " " ++ statusCodeToStr code,
    ascii "Content-Length: " ++ Numeral.ofNat body.length, ascii "Content-Type: text/plain"]

def continuedLines : List Bytes := [ascii "HTTP/1.1 100 Continue"]

/-- A head that is made of lines. -/
def headText (lines : List Bytes) : Bytes := lines.flatMap (· ++ crlf) ++ crlf

/-- A reply with this data. -/
def replyText (sent : List Bytes) : Bytes :=
  if sent = [] then [] else headText replyLines ++ (sent.flatMap Chunked.chunk ++ Chunked.last)

/-- Pieces whose length is an `int`. -/
def Short (sent : List Bytes) : Prop := ∀ data ∈ sent, data.length < 2 ^ 31

theorem writeChunk_short {data : Bytes} (h : data.length < 2 ^ 31) (c : Spool) :
    c.writeChunk data = c.mgWrite (Chunked.chunk data) := by
  have hInt : ((data.length : Int).bmod (2 ^ 32)).toNat = data.length := by
    rw [Int.bmod_eq_of_le (by omega) (by omega), Int.toNat_natCast]
  have hMod : data.length % 2 ^ 32 = data.length := Nat.mod_eq_of_lt (by omega)
  simp only [Spool.writeChunk, Spool.mgWrite, hInt, hMod, List.take_length, Chunked.chunk,
    List.append_assoc]
  rfl

/-- Data that is sent when there was some already. -/
theorem foldl_sendData {sent : List Bytes} (h : Short sent) {c : Spool}
    (hSent : c.headers_sent = true) :
    sent.foldl Spool.sendData c = c.mgWrite (sent.flatMap Chunked.chunk) := by
  induction sent generalizing c with
  | nil => simp [Spool.mgWrite]
  | cons data sent ih =>
    obtain ⟨hFirst, hRest⟩ := List.forall_mem_cons.mp h
    rw [List.foldl_cons, Spool.sendData, Spool.terminateHeaders, if_pos hSent,
      writeChunk_short hFirst, ih (c := c.mgWrite _) hRest hSent]
    simp [Spool.mgWrite]

/-- **What is spooled for a request** is one reply, or nothing. -/
theorem spooled_handled {sent : List Bytes} (h : Short sent) (uh : Bytes) (request : HttpRequest) :
    (Answer.handled uh request).spooled sent = replyText sent := by
  cases sent with
  | nil => rfl
  | cons data sent =>
    obtain ⟨hFirst, hRest⟩ := List.forall_mem_cons.mp h
    have hHead : (⟨[], 0, false⟩ : Spool).terminateHeaders = ⟨headText replyLines, 200, true⟩ := by
      decide +kernel
    have hLast : ascii "0\r\n\r\n" = Chunked.last := by decide
    rw [Answer.spooled, Spool.callHandler, List.foldl_cons, Spool.sendData, hHead,
      writeChunk_short hFirst, foldl_sendData hRest rfl]
    simp [Spool.mgWrite, Spool.writeTerminatingChunk, replyText, hLast]

/-- A head is read, whatever follows. -/
theorem readsHead_headText {lines : List Bytes} {head : HttpRequest}
    (hLines : ∀ line ∈ lines, Written [] line ∧ line ≠ []) (hSome : lines ≠ [])
    (hVersion : ascii "HTTP/" <+: headText lines)
    (hParse : parseHttpMessage (headText lines) = some head) (more : Bytes) :
    ReadsHead (headText lines ++ more) head head.uri more where
  version := hVersion.trans (List.prefix_append _ _)
  reads := by
    have hLen : getRequestLen (headText lines ++ more) = (headText lines).length :=
      getRequestLen_lines hLines hSome more
    have hPos : 0 < (headText lines).length := by simp [headText, crlf]
    rw [readHead, hLen, if_pos (by omega), Int.toNat_natCast]
    dsimp only
    rw [List.take_left, List.drop_left, hParse]
    rfl
  status := rfl

/-- A text has one head. -/
theorem ReadsHead.unique {text status status' rest rest' : Bytes} {head head' : HttpRequest}
    (h : ReadsHead text head status rest) (h' : ReadsHead text head' status' rest') :
    head = head' ∧ status = status' ∧ rest = rest' := by
  obtain ⟨rfl, rfl⟩ := Prod.mk.inj (Option.some.inj (h.reads.symm.trans h'.reads))
  exact ⟨rfl, h.status.symm.trans h'.status, rfl⟩

theorem readsHead_reply (more : Bytes) :
    ∃ head, ReadsHead (headText replyLines ++ more) head (ascii "200") more ∧
      mgGetHeader head (ascii "Transfer-Encoding") = some (ascii "chunked") := by
  have hParse : ∃ head, parseHttpMessage (headText replyLines) = some head ∧
      head.uri = ascii "200" ∧
      mgGetHeader head (ascii "Transfer-Encoding") = some (ascii "chunked") :=
    ⟨_, rfl, by decide +kernel, by decide +kernel⟩
  obtain ⟨head, hHead, hStatus, hCoding⟩ := hParse
  have hReads := readsHead_headText (by decide +kernel) (by decide) (by decide +kernel) hHead more
  rw [hStatus] at hReads
  exact ⟨head, hReads, hCoding⟩

theorem readsHead_continued (more : Bytes) :
    ∃ head, ReadsHead (Answer.continued.spooled [] ++ more) head (ascii "100") more := by
  have hParse : ∃ head, parseHttpMessage (headText continuedLines) = some head ∧
      head.uri = ascii "100" := ⟨_, rfl, by decide +kernel⟩
  have hText : Answer.continued.spooled [] = headText continuedLines := by decide +kernel
  obtain ⟨head, hHead, hStatus⟩ := hParse
  have hReads := readsHead_headText (by decide +kernel) (by decide) (by decide +kernel) hHead more
  rw [hStatus, ← hText] at hReads
  exact ⟨head, hReads⟩

/-- The errors that a connection answers with are read. -/
theorem readsReply_error {code : Nat} (hCode : code ∈ [400, 413, 505]) (more : Bytes) :
    ReadsReply (httpErrorText code ++ more) (errorBody code) more := by
  have hAll : ∀ code ∈ [400, 413, 505],
      (∀ line ∈ errorLines code (errorBody code), Written [] line ∧ line ≠ []) ∧
      ascii "HTTP/" <+: headText (errorLines code (errorBody code)) ∧
      httpErrorText code = headText (errorLines code (errorBody code)) ++ errorBody code ∧
      ∃ head ∈ parseHttpMessage (headText (errorLines code (errorBody code))),
        head.uri ≠ ascii "100" ∧ mgGetHeader head (ascii "Transfer-Encoding") = none ∧
        contentLen head = (errorBody code).length := by
    decide +kernel
  obtain ⟨hLines, hVersion, hText, head, hHead, hStatus, hCoding, hLength⟩ := hAll code hCode
  rw [hText, List.append_assoc]
  exact .sized (readsHead_headText hLines (List.cons_ne_nil _ _) hVersion hHead _) hStatus hCoding
    hLength rfl

/-- What is read of a reply's chunks is read of the reply. -/
theorem readsReply_replyText {sent : List Bytes} (hSome : sent ≠ []) {more body rest : Bytes}
    (h : Chunked.Reads (sent.flatMap Chunked.chunk ++ (Chunked.last ++ more)) body rest) :
    ReadsReply (replyText sent ++ more) body rest := by
  obtain ⟨head, hHead, hCoding⟩ :=
    readsHead_reply (sent.flatMap Chunked.chunk ++ (Chunked.last ++ more))
  rw [replyText, if_neg hSome, List.append_assoc, List.append_assoc]
  exact .chunked hHead (by decide) hCoding h

/-! ## What is read -/

/-- A text begins with one reply. -/
theorem ReadsReply.unique {text body body' rest rest' : Bytes} (h : ReadsReply text body rest)
    (h' : ReadsReply text body' rest') : body = body' ∧ rest = rest' := by
  cases h with
  | chunked hHead _ hCoding hBody =>
    cases h' with
    | chunked hHead' _ _ hBody' =>
      obtain ⟨rfl, -, rfl⟩ := hHead.unique hHead'
      exact hBody.unique hBody'
    | sized hHead' _ hCoding' =>
      obtain ⟨rfl, -, -⟩ := hHead.unique hHead'
      cases hCoding.symm.trans hCoding'
  | sized hHead _ hCoding hLength hAfter =>
    cases h' with
    | chunked hHead' _ hCoding' =>
      obtain ⟨rfl, -, -⟩ := hHead.unique hHead'
      cases hCoding.symm.trans hCoding'
    | sized hHead' _ _ hLength' hAfter' =>
      obtain ⟨rfl, -, rfl⟩ := hHead.unique hHead'
      exact List.append_inj (hAfter.symm.trans hAfter')
        (Int.ofNat.inj (hLength.symm.trans hLength'))

theorem ReadsReply.head {text body rest : Bytes} (h : ReadsReply text body rest) :
    ∃ head status after, ReadsHead text head status after ∧ status ≠ ascii "100" := by
  cases h with
  | chunked hHead hStatus => exact ⟨_, _, _, hHead, hStatus⟩
  | sized hHead hStatus => exact ⟨_, _, _, hHead, hStatus⟩

/-- Where nothing follows, there is no head. -/
theorem not_readsHead_nil {head : HttpRequest} {status rest : Bytes} :
    ¬ReadsHead [] head status rest := fun h => by
  have hVersion := List.prefix_nil.mp h.version
  cases hVersion

/-- Behind the first reply, the others are read. -/
theorem ReadsReplies.tail {text body rest : Bytes} {bodies : List Bytes}
    (h : ReadsReplies text bodies) (hReply : ReadsReply text body rest) :
    ∃ bodies', bodies = body :: bodies' ∧ ReadsReplies rest bodies' := by
  obtain ⟨head, status, after, hHead, hStatus⟩ := hReply.head
  cases h with
  | nil => exact absurd hHead not_readsHead_nil
  | cons first later =>
    obtain ⟨rfl, rfl⟩ := hReply.unique first
    exact ⟨_, rfl, later⟩
  | continued hHead' => exact absurd (hHead.unique hHead').2.1 hStatus

/-- A reply that is to be continued is passed over. -/
theorem ReadsReplies.behind {text rest : Bytes} {bodies : List Bytes} {head : HttpRequest}
    (h : ReadsReplies text bodies) (hHead : ReadsHead text head (ascii "100") rest) :
    ReadsReplies rest bodies := by
  cases h with
  | nil => exact absurd hHead not_readsHead_nil
  | cons first =>
    obtain ⟨head', status, after, hHead', hStatus⟩ := first.head
    exact absurd (hHead'.unique hHead).2.1 hStatus
  | continued hHead' later =>
    obtain ⟨-, -, rfl⟩ := hHead.unique hHead'
    exact later

/-- What is left of a reply is read as nothing. -/
theorem not_readsReplies_leftover (back : List Bytes) (more : Bytes) (bodies : List Bytes) :
    ¬ReadsReplies (back.flatMap Chunked.chunk ++ (Chunked.last ++ more)) bodies := by
  obtain ⟨c, text, hText, hDigit⟩ := Chunked.begins_hex back more
  have hNone {head : HttpRequest} {status rest : Bytes} :
      ¬ReadsHead (c :: text) head status rest := fun h => by
    -- no number begins with this letter
    obtain ⟨rfl, -⟩ := List.cons_prefix_cons.mp h.version
    cases hDigit
  rw [hText]
  intro h
  cases h with
  | cons first =>
    obtain ⟨head, status, after, hHead, -⟩ := first.head
    exact hNone hHead
  | continued hHead => exact hNone hHead

/-- An answer that a client can read, if its data is in order. -/
def Answer.Readable (sent : List Bytes) : Answer → Prop
  | .continued => sent = []
  | .error code => code ∈ [400, 413, 505]
  | .handled _ _ => Short sent
  | .leftOut _ => False

/-- The data of an answer is in order: there is some, and no piece of it is empty. -/
def Answer.InOrder (sent : List Bytes) : Answer → Prop
  | .handled _ _ => sent ≠ [] ∧ [] ∉ sent
  | _ => True

/-- The body of the reply that an answer asks for. -/
def Answer.body? (sent : List Bytes) : Answer → Option Bytes
  | .error code => some (errorBody code)
  | .handled _ _ => some sent.flatten
  | _ => none

/-- The bodies of the replies to some answers. -/
def bodiesOf (answers : List (Answer × List Bytes)) : List Bytes :=
  answers.filterMap fun answer => answer.1.body? answer.2

/-- Answers in order are read. -/
theorem readsReplies_spooledText {answers : List (Answer × List Bytes)}
    (hReadable : ∀ answer ∈ answers, answer.1.Readable answer.2)
    (hOrder : ∀ answer ∈ answers, answer.1.InOrder answer.2) :
    ReadsReplies (spooledText answers) (bodiesOf answers) := by
  induction answers with
  | nil => exact .nil
  | cons answer answers ih =>
    obtain ⟨hFirst, hRest⟩ := List.forall_mem_cons.mp hReadable
    obtain ⟨hInOrder, hLater⟩ := List.forall_mem_cons.mp hOrder
    have hReads := ih hRest hLater
    obtain ⟨a, sent⟩ := answer
    rw [spooledText, List.flatMap_cons]
    cases a with
    | continued =>
      obtain rfl : sent = [] := hFirst
      obtain ⟨head, hHead⟩ := readsHead_continued (spooledText answers)
      exact .continued hHead hReads
    | error code => exact .cons (readsReply_error hFirst _) hReads
    | handled uh request =>
      rw [spooled_handled hFirst]
      exact .cons (readsReply_replyText hInOrder.1 (Chunked.reads_chunks hInOrder.2 _)) hReads
    | leftOut request => exact hFirst.elim

/-- There are no more replies than answers that ask for one, and fewer if some answer is out of
order. -/
theorem readsReplies_length {answers : List (Answer × List Bytes)} {bodies : List Bytes}
    (hReadable : ∀ answer ∈ answers, answer.1.Readable answer.2)
    (h : ReadsReplies (spooledText answers) bodies) :
    bodies.length ≤ (bodiesOf answers).length ∧
      (bodies.length = (bodiesOf answers).length →
        ∀ answer ∈ answers, answer.1.InOrder answer.2) := by
  induction answers generalizing bodies with
  | nil =>
    cases h with
    | nil => exact ⟨le_refl _, fun _ => nofun⟩
    | cons first =>
      obtain ⟨head, status, after, hHead, -⟩ := first.head
      exact absurd hHead not_readsHead_nil
    | continued hHead => exact absurd hHead not_readsHead_nil
  | cons answer answers ih =>
    obtain ⟨hFirst, hRest⟩ := List.forall_mem_cons.mp hReadable
    obtain ⟨a, sent⟩ := answer
    rw [spooledText, List.flatMap_cons] at h
    cases a with
    | continued =>
      obtain rfl : sent = [] := hFirst
      obtain ⟨head, hHead⟩ := readsHead_continued (spooledText answers)
      obtain ⟨hLe, hSame⟩ := ih hRest (h.behind hHead)
      exact ⟨hLe, fun hLength => List.forall_mem_cons.mpr ⟨trivial, hSame hLength⟩⟩
    | error code =>
      obtain ⟨bodies', rfl, hLater⟩ := h.tail (readsReply_error hFirst _)
      obtain ⟨hLe, hSame⟩ := ih hRest hLater
      exact ⟨Nat.succ_le_succ hLe, fun hLength =>
        List.forall_mem_cons.mpr ⟨trivial, hSame (Nat.succ.inj hLength)⟩⟩
    | handled uh request =>
      dsimp only at h
      rw [spooled_handled hFirst] at h
      by_cases hNone : sent = []
      · -- the reply is missing
        subst hNone
        have hLe := (ih hRest h).1
        have hMore : (bodiesOf ((Answer.handled uh request, []) :: answers)).length =
          (bodiesOf answers).length + 1 := rfl
        exact ⟨by omega, fun hLength => by omega⟩
      by_cases hEmpty : [] ∈ sent
      · -- the reply ends too early
        obtain ⟨front, back, rfl, hFront⟩ := List.eq_append_cons_of_mem hEmpty
        obtain ⟨bodies', -, hLater⟩ :=
          h.tail (readsReply_replyText hNone (Chunked.reads_cut hFront _))
        exact absurd hLater (not_readsReplies_leftover _ _ _)
      · obtain ⟨bodies', rfl, hLater⟩ :=
          h.tail (readsReply_replyText hNone (Chunked.reads_chunks hEmpty _))
        obtain ⟨hLe, hSame⟩ := ih hRest hLater
        exact ⟨Nat.succ_le_succ hLe, fun hLength =>
          List.forall_mem_cons.mpr ⟨⟨hNone, hEmpty⟩, hSame (Nat.succ.inj hLength)⟩⟩
    | leftOut request => exact hFirst.elim

/-- **What a client reads** is what the answers ask for, exactly when their data is in order. -/
theorem readsReplies_iff {answers : List (Answer × List Bytes)}
    (hReadable : ∀ answer ∈ answers, answer.1.Readable answer.2) :
    ReadsReplies (spooledText answers) (bodiesOf answers) ↔
      ∀ answer ∈ answers, answer.1.InOrder answer.2 :=
  ⟨fun h => (readsReplies_length hReadable h).2 rfl, readsReplies_spooledText hReadable⟩

/-! ## On a connection -/

section Run

variable {handlers_ : OrderedMap Bytes HandlerFunction} {answers : List Answer}
  {sents : List (Answer × List Bytes)} {e e' : Exchange}

/-- Each answer gets what is sent for it. -/
theorem map_fst_sentFor (h : sentFor handlers_ answers e = .ok sents e') :
    sents.map Prod.fst = answers ∧ ∀ sent, (Answer.continued, sent) ∈ sents → sent = [] := by
  induction answers generalizing sents e with
  | nil =>
    cases h
    exact ⟨rfl, nofun⟩
  | cons a answers ih =>
    obtain ⟨sent, t, hFirst, hRest⟩ := bind_eq_ok h
    obtain ⟨later, t', hLater, hEnd⟩ := bind_eq_ok hRest
    cases hEnd
    obtain ⟨hMap, hContinued⟩ := ih hLater
    refine ⟨by rw [List.map_cons, hMap], fun sent' hMem => ?_⟩
    rcases List.mem_cons.mp hMem with hHere | hLater
    · cases hHere
      cases hFirst
      rfl
    · exact hContinued sent' hLater

variable {uri_handlers chunks : List Bytes} {conn : Connection}

/-- What a connection answers can be read. -/
theorem readable_sentFor (hRead : readFromClients uri_handlers .accepted chunks = some conn)
    (hMine : ∀ request, .leftOut request ∉ conn.answers)
    (hSent : sentFor handlers_ conn.answers e = .ok sents e')
    (hShort : ∀ answer ∈ sents, Short answer.2) :
    ∀ answer ∈ sents, answer.1.Readable answer.2 := by
  obtain ⟨hMap, hContinued⟩ := map_fst_sentFor hSent
  have hErrors := (readFromClients_good (accepted_good uri_handlers) hRead).errors
  intro answer hAnswer
  have hMem : answer.1 ∈ conn.answers := hMap ▸ List.mem_map_of_mem hAnswer
  obtain ⟨a, sent⟩ := answer
  cases a with
  | continued => exact hContinued sent hAnswer
  | error code => exact hErrors code hMem
  | handled uh request => exact hShort _ hAnswer
  | leftOut request => exact absurd hMem (hMine request)

/-- **On a connection**, the client reads one reply for each request, with what was sent for it,
exactly when something was sent for each of them and no piece of it was empty. -/
theorem replies_in_step_iff (hRead : readFromClients uri_handlers .accepted chunks = some conn)
    (hMine : ∀ request, .leftOut request ∉ conn.answers)
    (hSent : sentFor handlers_ conn.answers e = .ok sents e')
    (hShort : ∀ answer ∈ sents, Short answer.2) :
    ReadsReplies (spooledText sents) (bodiesOf sents) ↔
      ∀ answer ∈ sents, answer.1.InOrder answer.2 :=
  readsReplies_iff (readable_sentFor hRead hMine hSent hShort)

end Run

/-- A connection that was asked for the home page. -/
def afterHomePage : Connection :=
  { Connection.accepted with
    mg_conn := homePage.read, uh := ascii "/", answers := [homePage.answer []] }

theorem read_homePage :
    readFromClients httpServerHandlers .accepted [homePage.head] = some afterHomePage := by
  decide +kernel

theorem afterHomePage_answers : ∀ a ∈ afterHomePage.answers, a = homePage.answer [] := fun _ ha =>
  List.mem_singleton.mp ha

/-- A home page that is empty cannot be read. -/
theorem replies_in_step_iff_empty :
    ¬ReadsReplies (spooledText [(homePage.answer [], [[]])])
      (bodiesOf [(homePage.answer [], [[]])]) := fun h => by
  have hSent : sentFor (httpServer fun _ => some []) afterHomePage.answers ⟨⟨[], []⟩, []⟩ =
      .ok [(homePage.answer [], [[]])] ⟨⟨[ascii "htdoc/index file.html"], [[]]⟩, []⟩ := rfl
  have hOrder := (replies_in_step_iff read_homePage
    (fun _ hMem => nomatch afterHomePage_answers _ hMem) hSent
    (List.forall_mem_singleton.mpr (List.forall_mem_singleton.mpr (by decide)))).mp h _
    List.mem_cons_self
  exact hOrder.2 List.mem_cons_self

/-! ## The servers' replies -/

/-- Pieces that make good chunks. -/
def Whole (sent : List Bytes) : Prop := [] ∉ sent ∧ Short sent

theorem Whole.append {sent later : List Bytes} (h : Whole sent) (hLater : Whole later) :
    Whole (sent ++ later) :=
  ⟨fun hMem => (List.mem_append.mp hMem).elim h.1 hLater.1,
    List.forall_mem_append.mpr ⟨h.2, hLater.2⟩⟩

theorem whole_singleton {data : Bytes} (hSome : data ≠ []) (hShort : data.length < 2 ^ 31) :
    Whole [data] :=
  ⟨fun h => hSome (List.mem_singleton.mp h).symm, List.forall_mem_singleton.mpr hShort⟩

/-- A call that returns, and sends good pieces. -/
def Sending {α : Type} (Q : α → List Bytes → Prop) (x : Action Reply α) : Prop :=
  ∀ r, ∃ a new r', x r = .ok a r' ∧ r'.sent = r.sent ++ new ∧ Whole new ∧ Q a new

section Sending

variable {α β : Type} {Q : α → List Bytes → Prop} {Q' : β → List Bytes → Prop} {files : Files}

theorem sending_pure {a : α} (h : Q a []) : Sending Q (pure a) := fun r =>
  ⟨a, [], r, rfl, (List.append_nil _).symm, ⟨List.not_mem_nil, nofun⟩, h⟩

theorem Sending.bind {x : Action Reply α} {f : α → Action Reply β} (hx : Sending Q x)
    (hf : ∀ a new, Q a new → Sending (fun b later => Q' b (new ++ later)) (f a)) :
    Sending Q' (x >>= f) := fun r => by
  obtain ⟨a, new, r₁, hFirst, hSent, hWhole, hQ⟩ := hx r
  obtain ⟨b, later, r₂, hSecond, hSent', hWhole', hQ'⟩ := hf a new hQ r₁
  refine ⟨b, new ++ later, r₂, ?_, ?_, hWhole.append hWhole', hQ'⟩
  · rw [bind_run, hFirst]
    exact hSecond
  · rw [hSent', hSent, List.append_assoc]

theorem sending_mgSendData {data : Bytes} (hSome : data ≠ []) (hShort : data.length < 2 ^ 31) :
    Sending (fun _ new => new ≠ []) (mgSendData data) := fun _ =>
  ⟨(), [data], _, rfl, rfl, whole_singleton hSome hShort, List.cons_ne_nil _ _⟩

/-- Files that make good chunks. -/
def GoodFiles (files : Files) : Prop :=
  ∀ path content, files path = some content → content ≠ [] ∧ content.length < 2 ^ 31

/-- What a server answers: it has sent something if it says so. -/
def Tells (handled : Bool) (new : List Bytes) : Prop := handled = true → new ≠ []

theorem sending_genericServeFile (hFiles : GoodFiles files) (filepath : Bytes) :
    Sending Tells (genericServeFile files filepath) := fun r => by
  unfold genericServeFile
  cases hFile : files filepath with
  | none => exact ⟨false, [], r, rfl, (List.append_nil _).symm, ⟨List.not_mem_nil, nofun⟩, nofun⟩
  | some content =>
    obtain ⟨hSome, hShort⟩ := hFiles filepath content hFile
    exact ⟨true, [content], _, rfl, rfl, whole_singleton hSome hShort,
      fun _ => List.cons_ne_nil _ _⟩

theorem sending_yahooInsiderWebServer (hFiles : GoodFiles files) (conn : MgConnection) :
    Sending Tells (YahooInsiderWebServer.onRequest files conn) := by
  by_cases hPage : conn.uri = some (ascii "/ycontent/")
  · cases hFind : Substring.find (ascii "?getimv=") (getFullURL conn) with
    | some position =>
      obtain ⟨name, hName⟩ : ∃ name, YahooInsiderWebServer.ImvName (getFullURL conn) name :=
        ⟨_, Substring.between_iff.mpr ⟨position, hFind, rfl⟩⟩
      rw [YahooInsiderWebServer.onRequest_imv hPage hName]
      exact sending_genericServeFile hFiles _
    | none =>
      have hSource (source : Bytes × Bytes) : Sending (fun _ _ => True)
          (YahooInsiderWebServer.serveSource files (getFullURL conn) source) := by
        unfold YahooInsiderWebServer.serveSource
        split
        · exact (sending_genericServeFile hFiles _).bind fun _ _ _ => sending_pure trivial
        · exact sending_pure trivial
      have hSources (sources : List (Bytes × Bytes)) : Sending (fun _ _ => True)
          (sources.forM (YahooInsiderWebServer.serveSource files (getFullURL conn))) := by
        induction sources with
        | nil => exact sending_pure trivial
        | cons source sources ih =>
          exact (hSource source).bind fun _ _ _ => ih
      unfold YahooInsiderWebServer.onRequest
      rw [if_neg (not_not.mpr hPage)]
      simp only [hFind]
      split
      · split
        · exact sending_genericServeFile hFiles _
        · exact sending_pure fun h => absurd h Bool.false_ne_true
      · -- the first piece is sent in any case
        refine (sending_mgSendData (by decide) (by decide)).bind fun _ first hFirst => ?_
        refine (sending_mgSendData (by decide) (by decide)).bind fun _ _ _ => ?_
        refine (hSources _).bind fun _ _ _ => ?_
        refine (sending_mgSendData (by decide) (by decide)).bind fun _ _ _ => ?_
        exact sending_pure fun _ => by simp [hFirst]
  · rw [YahooInsiderWebServer.onRequest, if_pos hPage]
    exact sending_pure fun h => absurd h Bool.false_ne_true

/-- A call for an exchange that changes nothing of it but the reply. -/
theorem sending_replying {x : Action Reply α} (h : Sending Q x) (e : Exchange) :
    ∃ a new e', replying x e = .ok a e' ∧ e'.reply.sent = e.reply.sent ++ new ∧ Whole new ∧
      Q a new := by
  obtain ⟨a, new, r', hRun, hSent, hWhole, hQ⟩ := h e.reply
  refine ⟨a, new, { e with reply := r' }, ?_, hSent, hWhole, hQ⟩
  rw [replying, zoom, hRun]

/-- A request that fills in the form of the packets. -/
def HttpRequest.Submits (request : HttpRequest) : Prop :=
  request.uri = ascii "/tearoff/channel.html" ∧
    0 ≤ (mgGetVar request (ascii "action") MyYahooWebServer.sizeofBuffer).1 ∧
    (mgGetVar request (ascii "action") MyYahooWebServer.sizeofBuffer).2 = ascii "send"

/-- **A request that submits no form** is answered with good pieces, one at least. -/
theorem onRequest_sends (hFiles : GoodFiles files) {request : HttpRequest}
    (hForm : ¬request.Submits) (hUri : request.uri ≠ [])
    (hShort : (getFullURL request.connection).length < 2 ^ 31) (e : Exchange) :
    ∃ new e', MultilHostWebServer.onRequest (httpServer files) request e = .ok true e' ∧
      e'.reply.sent = e.reply.sent ++ new ∧ Whole new ∧ new ≠ [] := by
  have hNothing : Sending Tells (pure false : Action Reply Bool) :=
    sending_pure fun h => absurd h Bool.false_ne_true
  have hServer : ∃ handled new e',
      MultilHostWebServer.handlerOf (httpServer files) request request e = .ok handled e' ∧
        e'.reply.sent = e.reply.sent ++ new ∧ Whole new ∧ Tells handled new := by
    have hHosts : ∀ host ∈ httpServerHosts files, ∃ handled new e', host.2 request e =
        .ok handled e' ∧ e'.reply.sent = e.reply.sent ++ new ∧ Whole new ∧ Tells handled new := by
      simp only [httpServerHosts, List.forall_mem_cons]
      refine ⟨sending_replying (sending_genericServeFile hFiles _) e,
        sending_replying (sending_genericServeFile hFiles _) e,
        sending_replying (sending_yahooInsiderWebServer hFiles _) e, ?_,
        fun _ hNil => absurd hNil List.not_mem_nil⟩
      have hFile : MyYahooWebServer.onRequest files (ascii "htdoc/my.yahoo.com") request =
          replying (genericHandler files request.connection (ascii "htdoc/my.yahoo.com")) :=
        if_neg hForm
      rw [hFile]
      exact sending_replying (sending_genericServeFile hFiles _) e
    unfold MultilHostWebServer.handlerOf
    cases mgGetHeader request (ascii "Host") with
    | none => exact sending_replying hNothing e
    | some headerHost =>
      dsimp only
      rw [find?_httpServer]
      cases hFind : (httpServerHosts files).reverse.find? fun e =>
          decide (headerHost.takeWhile (· ≠ 58) = e.1) with
      | none => exact sending_replying hNothing e
      | some host => exact hHosts host (List.mem_reverse.mp (List.mem_of_find?_eq_some hFind))
  have hUrl : getFullURL request.connection ≠ [] := by
    simp [getFullURL, HttpRequest.connection, hUri]
  obtain ⟨handled, new, e₁, hRun, hSent, hWhole, hTells⟩ := hServer
  unfold MultilHostWebServer.onRequest
  rw [bind_run, hRun]
  cases handled with
  | true => exact ⟨new, e₁, rfl, hSent, hWhole, hTells rfl⟩
  | false =>
    obtain ⟨sent, later, e₂, hRun', hSent', hWhole', hLater⟩ :=
      sending_replying (sending_mgSendData hUrl hShort) e₁
    refine ⟨new ++ later, e₂, ?_, ?_, hWhole.append hWhole', by simp [hLater]⟩
    · show (MultilHostWebServer.sendFullURL request >>= fun _ => pure true) e₁ = _
      rw [MultilHostWebServer.sendFullURL, bind_run, hRun']
      rfl
    · rw [hSent', hSent, List.append_assoc]

end Sending

/-- **The servers' replies are in step** with the requests, if no file is empty or too long, and no
form is submitted. A URL can only be too long if all that arrives is. -/
theorem replies_in_step {files : Files} (hFiles : GoodFiles files) {chunks : List Bytes}
    {conn : Connection} (hRead : readFromClients httpServerHandlers .accepted chunks = some conn)
    (hMine : ∀ request, .leftOut request ∉ conn.answers)
    (hRequests : ∀ uh request, .handled uh request ∈ conn.answers → ¬request.Submits ∧
      (chunks.flatten.length < 2 ^ 31 ∨ (getFullURL request.connection).length < 2 ^ 31)) :
    ∃ sents e', sentFor (httpServer files) conn.answers ⟨⟨[], []⟩, []⟩ = .ok sents e' ∧
      sents.map Prod.fst = conn.answers ∧ ReadsReplies (spooledText sents) (bodiesOf sents) := by
  have hCall (e : Exchange) {a : Answer} (ha : a ∈ conn.answers) : ∃ sent e',
      collecting (connectionCallback (httpServer files) a) e = .ok sent e' ∧ Short sent ∧
        a.InOrder sent := by
    have hNothing {a : Answer} (hIdle : connectionCallback (httpServer files) a = pure ())
        (hOrder : a.InOrder []) : ∃ sent e',
        collecting (connectionCallback (httpServer files) a) e = .ok sent e' ∧ Short sent ∧
          a.InOrder sent :=
      ⟨[], _, by rw [hIdle]; rfl, nofun, hOrder⟩
    cases a with
    | continued => exact hNothing rfl trivial
    | error code => exact hNothing rfl trivial
    | leftOut request => exact hNothing rfl trivial
    | handled uh request =>
      obtain ⟨hForm, hLengths⟩ := hRequests uh request ha
      have hShort : (getFullURL request.connection).length < 2 ^ 31 :=
        hLengths.elim (Nat.lt_of_le_of_lt (length_handled_le hRead ha)) id
      have hUri : request.uri ≠ [] := fun hNone => by
        have hCalled := handled_tidy hRead ha
        have hBegins := hCalled.begins
        rw [List.mem_singleton.mp hCalled.registered, hNone] at hBegins
        cases List.prefix_nil.mp hBegins
      obtain ⟨new, e', hRun, hSent, hWhole, hSome⟩ :=
        onRequest_sends hFiles hForm hUri hShort { e with reply := { e.reply with sent := [] } }
      rw [List.nil_append] at hSent
      have hCallback : connectionCallback (httpServer files) (.handled uh request)
          { e with reply := { e.reply with sent := [] } } = .ok () e' := by
        show (MultilHostWebServer.onRequest (httpServer files) request >>= fun _ => pure ()) _ = _
        rw [bind_run, hRun]
        rfl
      refine ⟨e'.reply.sent, _, by rw [collecting, hCallback], ?_, ?_⟩
      · rw [hSent]
        exact hWhole.2
      · rw [hSent]
        exact ⟨hSome, hWhole.1⟩
  have hSends : ∀ answers : List Answer, (∀ a ∈ answers, a ∈ conn.answers) → ∀ e, ∃ sents e',
      sentFor (httpServer files) answers e = .ok sents e' ∧
        ∀ answer ∈ sents, Short answer.2 ∧ answer.1.InOrder answer.2 := by
    intro answers
    induction answers with
    | nil => exact fun _ e => ⟨[], e, rfl, nofun⟩
    | cons a answers ih =>
      intro hMem e
      obtain ⟨ha, hRest⟩ := List.forall_mem_cons.mp hMem
      obtain ⟨sent, e₁, hRun, hShort, hOrder⟩ := hCall e ha
      obtain ⟨sents, e₂, hLater, hAll⟩ := ih hRest e₁
      refine ⟨(a, sent) :: sents, e₂, ?_, List.forall_mem_cons.mpr ⟨⟨hShort, hOrder⟩, hAll⟩⟩
      rw [sentFor, bind_run, hRun]
      dsimp only
      rw [bind_run, hLater]
      rfl
  obtain ⟨sents, e', hSent, hAll⟩ := hSends conn.answers (fun _ ha => ha) ⟨⟨[], []⟩, []⟩
  refine ⟨sents, e', hSent, (map_fst_sentFor hSent).1, ?_⟩
  exact readsReplies_spooledText
    (readable_sentFor hRead hMine hSent fun answer ha => (hAll answer ha).1)
    fun answer ha => (hAll answer ha).2

/-- Every file welcomes. -/
def welcome : Files := fun _ => some (ascii "welcome")

theorem replies_in_step_homePage :
    ∃ sents e', sentFor (httpServer welcome) afterHomePage.answers ⟨⟨[], []⟩, []⟩ = .ok sents e' ∧
      sents.map Prod.fst = afterHomePage.answers ∧
      ReadsReplies (spooledText sents) (bodiesOf sents) := by
  refine replies_in_step (fun path content h => ?_) read_homePage
    (fun _ hMem => nomatch afterHomePage_answers _ hMem) fun uh request hMem => ?_
  · cases h
    decide
  · cases afterHomePage_answers _ hMem
    exact ⟨fun h => absurd h.1 (by decide +kernel), .inl (by decide +kernel)⟩

end Giblet.YahooWeb
