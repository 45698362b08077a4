import Giblet.Lib.Intake
import Giblet.YahooWeb.Mongoose

/-!
# YahooWeb — one connection of the web server

`process_request` works on whatever `read_from_client` has put into the buffer
of a connection: a head is taken off and looked at, a handler is called as soon
as the content is there, and what is left of the buffer is gone through again
if the connection is kept. `httpStep` says what that comes to, one thing at a
time; the buffer's bytes decide about it, whatever follows (`httpStep_stable`).

* `processRequest_isSome` — the buffer is gone through in the end.
* `readFromClients_told` — what is told, until a connection is not kept.
* `told_eq_of_flatten_eq` — it does not depend on how the bytes arrive.
-/

namespace Giblet.YahooWeb

open Intake YMsg

/-! ## The connection -/

/-- `MAX_REQUEST_SIZE`. -/
def maxRequestSize : Nat := 16384

/-- What a connection answers. A websocket, and a request without a handler, is left to a part of
the server that is left out. -/
inductive Answer
  | continued
  | error (code : Nat)
  | handled (handler : Bytes) (request : HttpRequest)
  | leftOut (request : HttpRequest)
  deriving DecidableEq, Repr

/-- `endpoint_type`; `other` are the types of the part that is left out. -/
inductive EndpointType
  | none
  | user
  | other
  deriving DecidableEq, Repr

/-- What is used of a `connection`; `closing` is `CONN_CLOSE` or `CONN_SPOOL_DONE`. -/
structure Connection where
  local_iobuf : Bytes
  request_len : Int
  mg_conn : HttpRequest
  content_len : Int
  endpoint_type : EndpointType
  uh : Bytes
  closing : Bool
  answers : List Answer
  deriving DecidableEq, Repr

/-- A connection that was accepted. -/
def Connection.accepted : Connection where
  local_iobuf := []
  request_len := 0
  mg_conn := ⟨[], [], [], none, [], []⟩
  content_len := 0
  endpoint_type := .none
  uh := []
  closing := false
  answers := []

def Connection.answer (conn : Connection) (a : Answer) : Connection :=
  { conn with answers := conn.answers ++ [a] }

/-! ## `process_request` -/

/-- `find_uri_handler`: a handler is known by what its URIs begin with. -/
def findUriHandler (uri_handlers : List Bytes) (uri : Bytes) : Option Bytes :=
  uri_handlers.find? fun uh => uh.isPrefixOf uri

/-- The head that is buffered in is taken off, and parsed. -/
def takeRequest (conn : Connection) : Connection :=
  if conn.request_len ≠ 0 then conn
  else if 0 < getRequestLen conn.local_iobuf then
    let request_len := (getRequestLen conn.local_iobuf).toNat
    let local_iobuf := conn.local_iobuf.drop request_len
    match parseHttpMessage (conn.local_iobuf.take request_len) with
    | none => { conn with local_iobuf, request_len := -1 }
    | some mg_conn => { conn with local_iobuf, request_len, mg_conn, content_len := 0 }
  else { conn with request_len := getRequestLen conn.local_iobuf }

/-- `send_websocket_handshake_if_requested` finds that it is. -/
def wantsWebsocket (request : HttpRequest) : Bool :=
  (mgGetHeader request (ascii "Sec-WebSocket-Version")).isSome &&
    (mgGetHeader request (ascii "Sec-WebSocket-Key")).isSome

/-- `send_continue_if_expected` finds that it is. -/
def expectsContinue (request : HttpRequest) : Bool :=
  match mgGetHeader request (ascii "Expect") with
  | none => false
  | some expect_hdr => sameText expect_hdr (ascii "100-continue")

/-- `send_continue_if_expected`. -/
def sendContinueIfExpected (conn : Connection) : Connection :=
  if expectsContinue conn.mg_conn then conn.answer .continued else conn

/-- The `content_len` of a request. -/
def contentLen (request : HttpRequest) : Int :=
  match mgGetHeader request (ascii "Content-Length") with
  | none => 0
  | some cl_hdr => contentLength cl_hdr

/-- The handler that is called for a request; a websocket's is called for its frames only. -/
def handlerFor (uri_handlers : List Bytes) (request : HttpRequest) : Option Bytes :=
  if wantsWebsocket request then none else findUriHandler uri_handlers request.uri

/-- `open_local_endpoint`. -/
def openLocalEndpoint (uri_handlers : List Bytes) (conn : Connection) : Connection :=
  let content_len := contentLen conn.mg_conn
  match handlerFor uri_handlers conn.mg_conn with
  | some uh => { conn with content_len, uh, endpoint_type := .user }
  | none => { conn with content_len, endpoint_type := .other }.answer (.leftOut conn.mg_conn)

/-- A request that has no endpoint gets one. -/
def openEndpoint (uri_handlers : List Bytes) (conn : Connection) : Connection :=
  if 0 < conn.request_len ∧ conn.endpoint_type = .none then
    openLocalEndpoint uri_handlers (sendContinueIfExpected conn)
  else conn

/-- Nothing is left of a request. -/
def Connection.released (conn : Connection) : Connection :=
  { conn with endpoint_type := .none, closing := false, request_len := 0 }

/-- A connection that is not kept. -/
def Connection.closed (conn : Connection) : Connection := { conn.released with closing := true }

/-- `close_local_endpoint`; `again` is the call of `process_request`. -/
def closeLocalEndpoint (again : Connection → Option Connection) (conn : Connection) :
    Option Connection :=
  let keep_alive := shouldKeepAlive conn.mg_conn && conn.endpoint_type == .user
  if keep_alive then again conn.released else some conn.closed

/-- `send_http_error`. -/
def sendHttpError (again : Connection → Option Connection) (code : Nat) (conn : Connection) :
    Option Connection :=
  closeLocalEndpoint again (conn.answer (.error code))

/-- The request with the content that is buffered; a negative length is no content. -/
def HttpRequest.withContent (request : HttpRequest) (content_len : Int) (buf : Bytes) :
    HttpRequest :=
  { request with content := buf.take content_len.toNat }

/-- `call_uri_handler_if_data_is_buffered`; the content stays in the buffer. -/
def callUriHandlerIfDataIsBuffered (again : Connection → Option Connection) (conn : Connection) :
    Option Connection :=
  if conn.content_len ≤ conn.local_iobuf.length then
    closeLocalEndpoint again
      (conn.answer (.handled conn.uh (conn.mg_conn.withContent conn.content_len conn.local_iobuf)))
  else some conn

/-- The versions that are served. -/
def httpVersions : List Bytes := [ascii "1.0", ascii "1.1"]

/-- What `process_request` does when it has looked for a request; `again` is the call of it from
`close_local_endpoint`. -/
def answerRequest (uri_handlers : List Bytes) (again : Connection → Option Connection)
    (conn : Connection) : Option Connection :=
  if conn.request_len < 0 ∨ 0 < conn.request_len ∧ isValidUri conn.mg_conn.uri = false then
    sendHttpError again 400 conn
  else if conn.request_len = 0 ∧ maxRequestSize < conn.local_iobuf.length then
    sendHttpError again 413 conn
  else if 0 < conn.request_len ∧ httpVersions.contains conn.mg_conn.http_version = false then
    sendHttpError again 505 conn
  else
    let conn := openEndpoint uri_handlers conn
    if conn.endpoint_type = .user then callUriHandlerIfDataIsBuffered again conn else some conn

/-- `process_request`. -/
def processRequest (uri_handlers : List Bytes) : Nat → Connection → Option Connection
  | 0, _ => none
  | fuel + 1, conn =>
    answerRequest uri_handlers (processRequest uri_handlers fuel) (takeRequest conn)

/-- `read_from_client`, of bytes that arrived. -/
def readFromClient (uri_handlers : List Bytes) (conn : Connection) (chunk : Bytes) :
    Option Connection :=
  let local_iobuf := conn.local_iobuf ++ chunk
  processRequest uri_handlers (local_iobuf.length + 2) { conn with local_iobuf }

/-- `read_from_client`, again and again. -/
def readFromClients (uri_handlers : List Bytes) (conn : Connection) (chunks : List Bytes) :
    Option Connection :=
  chunks.foldlM (readFromClient uri_handlers) conn

/-! ## One thing at a time -/

/-- Where a connection is: between requests, at a request whose content is not there, or at its
end. -/
inductive Stage
  | idle
  | waiting (uh : Bytes) (request : HttpRequest)
  | done
  deriving DecidableEq, Repr

/-- What is answered to a request before a handler is called for it, and what comes then. -/
def admission (uri_handlers : List Bytes) (request : HttpRequest) : Stage × List Answer :=
  if isValidUri request.uri = false then (.done, [.error 400])
  else if httpVersions.contains request.http_version = false then (.done, [.error 505])
  else
    let expected := if expectsContinue request then [.continued] else []
    match handlerFor uri_handlers request with
    | some uh => (.waiting uh request, expected)
    | none => (.done, expected ++ [.leftOut request])

/-- A connection's step: a request is taken off the buffer, or its handler is called. -/
def httpStep (uri_handlers : List Bytes) : Intake.Step Stage UInt8 (List Answer)
  | .idle, buf =>
    if getRequestLen buf = 0 then none
    else if getRequestLen buf < 0 then some (.done, 0, [.error 400])
    else
      let request_len := (getRequestLen buf).toNat
      match parseHttpMessage (buf.take request_len) with
      | none => some (.done, request_len, [.error 400])
      | some request =>
        let (stage, answers) := admission uri_handlers request
        some (stage, request_len, answers)
  | .waiting uh request, buf =>
    if contentLen request ≤ buf.length then
      some (if shouldKeepAlive request then .idle else .done, 0,
        [.handled uh (request.withContent (contentLen request) buf)])
    else none
  | .done, _ => none

variable {uri_handlers : List Bytes} {again : Connection → Option Connection} {conn : Connection}

theorem toNat_getRequestLen_le {buf : Bytes} (h : 0 < getRequestLen buf) :
    2 ≤ (getRequestLen buf).toNat ∧ (getRequestLen buf).toNat ≤ buf.length := by
  have hBounds := requestLenFrom_le h
  rw [← getRequestLen] at hBounds
  omega

/-- **What a connection does** does not depend on the bytes that follow. -/
theorem httpStep_stable (uri_handlers : List Bytes) : Stable (httpStep uri_handlers) := by
  intro stage buf r h
  cases stage with
  | idle =>
    have hNonzero : getRequestLen buf ≠ 0 := fun hZero => by
      rw [httpStep, if_pos hZero] at h
      cases h
    have hMore (more : Bytes) : getRequestLen (buf ++ more) = getRequestLen buf :=
      requestLenFrom_append hNonzero more
    rw [httpStep, if_neg hNonzero] at h
    simp only [httpStep, hMore, if_neg hNonzero]
    split at h
    · rename_i hBad
      cases h
      exact ⟨Nat.zero_le _, fun more => if_pos hBad⟩
    · rename_i hFound
      have hLe := (toNat_getRequestLen_le (by omega : 0 < getRequestLen buf)).2
      simp only [if_neg hFound, List.take_append_of_le_length hLe]
      dsimp only at h
      refine ⟨?_, fun _ => h⟩
      split at h
      · cases h
        exact hLe
      · cases h
        exact hLe
  | waiting uh request =>
    unfold httpStep HttpRequest.withContent at h ⊢
    dsimp only at h ⊢
    by_cases hBuffered : contentLen request ≤ buf.length
    · rw [if_pos hBuffered] at h
      cases h
      refine ⟨Nat.zero_le _, fun more => ?_⟩
      rw [if_pos (by rw [List.length_append]; omega), List.take_append_of_le_length (by omega)]
    · rw [if_neg hBuffered] at h
      cases h
  | done => cases h

/-! ## What `process_request` does, once -/

/-- A connection that has no request, and no endpoint for one. -/
def Connection.Idle (conn : Connection) : Prop :=
  conn.request_len = 0 ∧ conn.endpoint_type = .none

/-- A connection that waits for the content of a request. -/
structure Connection.Waiting (conn : Connection) (uh : Bytes) (request : HttpRequest) : Prop where
  request_len : 0 < conn.request_len
  endpoint_type : conn.endpoint_type = .user
  uh : conn.uh = uh
  mg_conn : conn.mg_conn = request
  content_len : conn.content_len = contentLen request
  valid : isValidUri request.uri = true
  served : httpVersions.contains request.http_version = true

/-- An error is the end. -/
theorem sendHttpError_none (code : Nat) (hNone : conn.endpoint_type = .none) :
    sendHttpError again code conn = some (conn.answer (.error code)).closed := by
  simp [sendHttpError, closeLocalEndpoint, Connection.answer, hNone]

theorem answerRequest_malformed (hLen : conn.request_len < 0) (hNone : conn.endpoint_type = .none) :
    answerRequest uri_handlers again conn = some (conn.answer (.error 400)).closed := by
  rw [answerRequest, if_pos (.inl hLen), sendHttpError_none 400 hNone]

theorem answerRequest_idle (hIdle : conn.Idle) :
    answerRequest uri_handlers again conn =
      if maxRequestSize < conn.local_iobuf.length then some (conn.answer (.error 413)).closed
      else some conn := by
  obtain ⟨hZero, hNone⟩ := hIdle
  have hNot : ¬0 < conn.request_len := by omega
  have hOpen : openEndpoint uri_handlers conn = conn := by
    rw [openEndpoint, if_neg (not_and_of_not_left _ hNot)]
  rw [answerRequest, if_neg (by omega), hOpen, if_neg (not_and_of_not_left _ hNot),
    sendHttpError_none 413 hNone]
  by_cases hLong : maxRequestSize < conn.local_iobuf.length
  · rw [if_pos ⟨hZero, hLong⟩, if_pos hLong]
  · rw [if_neg (not_and_of_not_right _ hLong), if_neg hLong, if_neg (by rw [hNone]; nofun)]

theorem answerRequest_waiting {uh : Bytes} {request : HttpRequest} (h : conn.Waiting uh request) :
    answerRequest uri_handlers again conn = callUriHandlerIfDataIsBuffered again conn := by
  obtain ⟨hLen, hUser, -, rfl, -, hValid, hServed⟩ := h
  have hOpen : openEndpoint uri_handlers conn = conn := by
    rw [openEndpoint, if_neg (by rw [hUser]; nofun)]
  rw [answerRequest, if_neg (by simp [hValid, hLen.le]), if_neg (by omega), hOpen,
    if_neg (not_and_of_not_right _ (by rw [hServed]; decide)), if_pos hUser]

theorem sendContinueIfExpected_eq (conn : Connection) :
    sendContinueIfExpected conn = { conn with
      answers := conn.answers ++ if expectsContinue conn.mg_conn then [.continued] else [] } := by
  unfold sendContinueIfExpected
  split
  · rfl
  · rw [List.append_nil]

/-- A request that is admitted has its handler called as soon as possible, or is left. -/
theorem call_openEndpoint (hLen : 0 < conn.request_len) (hNone : conn.endpoint_type = .none)
    (hValid : isValidUri conn.mg_conn.uri = true)
    (hServed : httpVersions.contains conn.mg_conn.http_version = true) :
    ∃ conn', openEndpoint uri_handlers conn = conn' ∧ conn'.local_iobuf = conn.local_iobuf ∧
      conn'.answers = conn.answers ++ (admission uri_handlers conn.mg_conn).2 ∧
      ((admission uri_handlers conn.mg_conn).1 = .done ∧ conn'.endpoint_type = .other ∨
        ∃ uh, (admission uri_handlers conn.mg_conn).1 = .waiting uh conn.mg_conn ∧
          conn'.Waiting uh conn.mg_conn) := by
  have hNot : ¬isValidUri conn.mg_conn.uri = false := by simp [hValid]
  have hSame : ¬httpVersions.contains conn.mg_conn.http_version = false := by
    rw [hServed]
    decide
  refine ⟨_, rfl, ?_⟩
  rw [openEndpoint, if_pos ⟨hLen, hNone⟩, sendContinueIfExpected_eq, openLocalEndpoint, admission,
    if_neg hNot, if_neg hSame]
  dsimp only
  cases handlerFor uri_handlers conn.mg_conn with
  | some uh => exact ⟨rfl, rfl, .inr ⟨uh, rfl, hLen, rfl, rfl, rfl, rfl, hValid, hServed⟩⟩
  | none => exact ⟨rfl, List.append_assoc _ _ _, .inl ⟨rfl, rfl⟩⟩

/-- A request without an endpoint is admitted or not. -/
theorem answerRequest_request (hLen : 0 < conn.request_len) (hNone : conn.endpoint_type = .none) :
    ∃ conn', conn'.local_iobuf = conn.local_iobuf ∧
      conn'.answers = conn.answers ++ (admission uri_handlers conn.mg_conn).2 ∧
      ((admission uri_handlers conn.mg_conn).1 = .done ∧
          answerRequest uri_handlers again conn = some conn' ∨
        ∃ uh, (admission uri_handlers conn.mg_conn).1 = .waiting uh conn.mg_conn ∧
          conn'.Waiting uh conn.mg_conn ∧
          answerRequest uri_handlers again conn = callUriHandlerIfDataIsBuffered again conn') := by
  by_cases hValid : isValidUri conn.mg_conn.uri = false
  · refine ⟨(conn.answer (.error 400)).closed, rfl, ?_⟩
    rw [answerRequest, admission, if_pos hValid, if_pos (.inr ⟨hLen, hValid⟩),
      sendHttpError_none 400 hNone]
    exact ⟨rfl, .inl ⟨rfl, rfl⟩⟩
  have hGood : ¬(conn.request_len < 0 ∨
      0 < conn.request_len ∧ isValidUri conn.mg_conn.uri = false) := by
    rintro (h | h)
    · omega
    · exact hValid h.2
  have hSome : ¬(conn.request_len = 0 ∧ maxRequestSize < conn.local_iobuf.length) := by omega
  unfold answerRequest
  rw [if_neg hGood, if_neg hSome]
  by_cases hOther : httpVersions.contains conn.mg_conn.http_version = false
  · refine ⟨(conn.answer (.error 505)).closed, rfl, ?_⟩
    rw [if_pos (⟨hLen, hOther⟩ : _ ∧ _), sendHttpError_none 505 hNone, admission, if_neg hValid,
      if_pos hOther]
    exact ⟨rfl, .inl ⟨rfl, rfl⟩⟩
  · have hServed := Bool.eq_true_of_not_eq_false hOther
    rw [if_neg (not_and_of_not_right _ hOther)]
    obtain ⟨conn', hOpen, hBuffer, hAnswers, hStage⟩ :=
      call_openEndpoint hLen hNone (Bool.eq_true_of_not_eq_false hValid) hServed
    refine ⟨conn', hBuffer, hAnswers, ?_⟩
    dsimp only
    rw [hOpen]
    obtain ⟨hDone, hOther⟩ | ⟨uh, hStage, hWaiting⟩ := hStage
    · exact .inl ⟨hDone, if_neg (by rw [hOther]; nofun)⟩
    · exact .inr ⟨uh, hStage, hWaiting, if_pos hWaiting.endpoint_type⟩

/-- A handler is called when the content is there. -/
theorem callUriHandler_waiting {uh : Bytes} {request : HttpRequest} (h : conn.Waiting uh request) :
    callUriHandlerIfDataIsBuffered again conn =
      if contentLen request ≤ conn.local_iobuf.length then
        let conn := conn.answer
          (.handled uh (request.withContent (contentLen request) conn.local_iobuf))
        if shouldKeepAlive request then again conn.released else some conn.closed
      else some conn := by
  obtain ⟨-, hUser, rfl, rfl, hContent, -⟩ := h
  simp [callUriHandlerIfDataIsBuffered, closeLocalEndpoint, Connection.answer, hUser, hContent]

/-! ## What is taken off -/

theorem takeRequest_nothing (hZero : conn.request_len = 0)
    (h : getRequestLen conn.local_iobuf ≤ 0) :
    takeRequest conn = { conn with request_len := getRequestLen conn.local_iobuf } := by
  rw [takeRequest, if_neg (by omega), if_neg (by omega)]

theorem takeRequest_malformed (hZero : conn.request_len = 0)
    (h : 0 < getRequestLen conn.local_iobuf)
    (hParse : parseHttpMessage
      (conn.local_iobuf.take (getRequestLen conn.local_iobuf).toNat) = none) :
    (takeRequest conn).request_len < 0 ∧ (takeRequest conn).endpoint_type = conn.endpoint_type ∧
      (takeRequest conn).answers = conn.answers := by
  rw [takeRequest, if_neg (by omega), if_pos h]
  simp only [hParse]
  decide

theorem takeRequest_request {request : HttpRequest} (hZero : conn.request_len = 0)
    (h : 0 < getRequestLen conn.local_iobuf)
    (hParse : parseHttpMessage
      (conn.local_iobuf.take (getRequestLen conn.local_iobuf).toNat) = some request) :
    0 < (takeRequest conn).request_len ∧ (takeRequest conn).endpoint_type = conn.endpoint_type ∧
      (takeRequest conn).mg_conn = request ∧
      (takeRequest conn).local_iobuf =
        conn.local_iobuf.drop (getRequestLen conn.local_iobuf).toNat ∧
      (takeRequest conn).answers = conn.answers := by
  rw [takeRequest, if_neg (by omega), if_pos h]
  simp only [hParse, and_self, and_true]
  omega

theorem takeRequest_pending (h : 0 < conn.request_len) : takeRequest conn = conn := by
  rw [takeRequest, if_pos (by omega)]

/-- What is taken off a buffer makes it shorter. -/
theorem takeRequest_buffer (conn : Connection) :
    (takeRequest conn).local_iobuf.length ≤ conn.local_iobuf.length ∧
      (conn.request_len = 0 → 0 < getRequestLen conn.local_iobuf →
        (takeRequest conn).local_iobuf.length + 2 ≤ conn.local_iobuf.length) := by
  unfold takeRequest
  split
  · rename_i hPending
    exact ⟨le_refl _, fun hZero => absurd hZero hPending⟩
  split
  · rename_i hFound
    have hBounds := toNat_getRequestLen_le hFound
    dsimp only
    split <;> simp only [List.length_drop] <;> omega
  · rename_i hNot
    exact ⟨le_refl _, fun _ hFound => absurd hFound hNot⟩

/-- Nothing is found in the buffer, or something that does not belong there. -/
theorem answerRequest_nothing (hIdle : conn.Idle) (h : getRequestLen conn.local_iobuf ≤ 0) :
    answerRequest uri_handlers again (takeRequest conn) =
      if getRequestLen conn.local_iobuf < 0 then some (conn.answer (.error 400)).closed
      else if maxRequestSize < conn.local_iobuf.length then
        some (conn.answer (.error 413)).closed
      else some conn := by
  obtain ⟨hZero, hNone⟩ := hIdle
  rw [takeRequest_nothing hZero h]
  by_cases hBad : getRequestLen conn.local_iobuf < 0
  · rw [if_pos hBad]
    exact answerRequest_malformed hBad hNone
  · have hSame : getRequestLen conn.local_iobuf = conn.request_len := by omega
    rw [if_neg hBad, hSame]
    exact answerRequest_idle ⟨hZero, hNone⟩

/-! ## The end is reached -/

/-- `process_request` comes to an end when it is called again for what the buffer has got. -/
def Continues (again : Connection → Option Connection) (room : Nat) : Prop :=
  ∀ conn : Connection, conn.Idle → conn.local_iobuf.length ≤ room → (again conn).isSome = true

theorem closeLocalEndpoint_isSome (h : Continues again conn.local_iobuf.length) :
    (closeLocalEndpoint again conn).isSome = true := by
  unfold closeLocalEndpoint
  dsimp only
  split
  · exact h _ ⟨rfl, rfl⟩ (le_refl _)
  · rfl

theorem openEndpoint_buffer (conn : Connection) :
    (openEndpoint uri_handlers conn).local_iobuf = conn.local_iobuf := by
  unfold openEndpoint
  split
  · rw [sendContinueIfExpected_eq, openLocalEndpoint]
    dsimp only
    split <;> rfl
  · rfl

theorem answerRequest_isSome (h : Continues again conn.local_iobuf.length) :
    (answerRequest uri_handlers again conn).isSome = true := by
  have hError (code : Nat) : (sendHttpError again code conn).isSome = true :=
    closeLocalEndpoint_isSome h
  unfold answerRequest
  dsimp only
  split
  · exact hError 400
  split
  · exact hError 413
  split
  · exact hError 505
  split
  · unfold callUriHandlerIfDataIsBuffered
    split
    · refine closeLocalEndpoint_isSome ?_
      rwa [Connection.answer, openEndpoint_buffer]
    · rfl
  · rfl

theorem processRequest_idle_isSome {fuel : Nat} {conn : Connection} (hIdle : conn.Idle)
    (h : conn.local_iobuf.length < fuel) :
    (processRequest uri_handlers fuel conn).isSome = true := by
  induction fuel generalizing conn with
  | zero => omega
  | succ fuel ih =>
    rw [processRequest]
    by_cases hFound : 0 < getRequestLen conn.local_iobuf
    · -- a request was taken off, and the fuel is enough for what is left
      have hShorter := (takeRequest_buffer conn).2 hIdle.1 hFound
      exact answerRequest_isSome fun conn' hIdle' hLe => ih hIdle' (by omega)
    · rw [answerRequest_nothing hIdle (by omega)]
      split
      · rfl
      split <;> rfl

/-- **The buffer is gone through** in the end. -/
theorem processRequest_isSome {fuel : Nat} (h : conn.local_iobuf.length + 1 < fuel) :
    (processRequest uri_handlers fuel conn).isSome = true := by
  obtain ⟨fuel, rfl⟩ : ∃ n, fuel = n + 1 := ⟨fuel - 1, by omega⟩
  have hLe := (takeRequest_buffer conn).1
  exact answerRequest_isSome fun conn' hIdle hLe' => processRequest_idle_isSome hIdle (by omega)

/-! ## One thing after the other -/

/-- Where a connection is, with these bytes in its buffer; at its end they do not matter. -/
def Connection.At (conn : Connection) (buf : Bytes) : Stage → Prop
  | .idle => conn.Idle ∧ conn.local_iobuf = buf
  | .waiting uh request => conn.Waiting uh request ∧ conn.local_iobuf = buf
  | .done => True

/-- A connection has done from a stage on what its buffer asked for, or it has refused a request
whose head did not come to an end. -/
def Proceeds (uri_handlers : List Bytes) (conn : Connection) (stage : Stage) (conn' : Connection) :
    Prop :=
  ∃ es stage' rest, Drains (httpStep uri_handlers) stage conn.local_iobuf es stage' rest ∧
    (conn'.answers = conn.answers ++ es.flatten ∧ conn'.At rest stage' ∨
      stage' = .idle ∧ maxRequestSize < rest.length ∧
        conn'.answers = conn.answers ++ es.flatten ++ [.error 413])

section Proceeds

variable {conn' conn'' : Connection} {stage stage' : Stage} {n : Nat} {e : List Answer}

theorem proceeds_waits (h : httpStep uri_handlers stage conn.local_iobuf = none)
    (hAt : conn.At conn.local_iobuf stage) : Proceeds uri_handlers conn stage conn :=
  ⟨[], stage, conn.local_iobuf, .waits h, .inl ⟨(List.append_nil _).symm, hAt⟩⟩

theorem proceeds_done (h : httpStep uri_handlers stage conn.local_iobuf = some (.done, n, e))
    (hAnswers : conn'.answers = conn.answers ++ e) : Proceeds uri_handlers conn stage conn' :=
  ⟨[e], .done, _, .goes h (.waits rfl), .inl ⟨by rw [hAnswers, List.flatten_singleton], trivial⟩⟩

theorem proceeds_goes (h : httpStep uri_handlers stage conn.local_iobuf = some (stage', n, e))
    (hLater : Proceeds uri_handlers conn' stage' conn'')
    (hBuffer : conn'.local_iobuf = conn.local_iobuf.drop n)
    (hAnswers : conn'.answers = conn.answers ++ e) :
    Proceeds uri_handlers conn stage conn'' := by
  obtain ⟨es, stage'', rest, hDrains, hOutcome⟩ := hLater
  rw [hBuffer] at hDrains
  rw [hAnswers] at hOutcome
  refine ⟨e :: es, stage'', rest, .goes h hDrains, ?_⟩
  rw [List.flatten_cons, ← List.append_assoc]
  exact hOutcome

/-- `process_request` goes on with what the buffer has got. -/
def Follows (uri_handlers : List Bytes) (again : Connection → Option Connection) : Prop :=
  ∀ conn conn' : Connection, conn.Idle → again conn = some conn' →
    Proceeds uri_handlers conn .idle conn'

theorem callUriHandler_proceeds {uh : Bytes} {request : HttpRequest}
    (hAgain : Follows uri_handlers again) (hWaiting : conn.Waiting uh request)
    (h : callUriHandlerIfDataIsBuffered again conn = some conn') :
    Proceeds uri_handlers conn (.waiting uh request) conn' := by
  rw [callUriHandler_waiting hWaiting] at h
  by_cases hBuffered : contentLen request ≤ conn.local_iobuf.length
  · have hStep : httpStep uri_handlers (.waiting uh request) conn.local_iobuf =
        some (if shouldKeepAlive request then .idle else .done, 0,
          [.handled uh (request.withContent (contentLen request) conn.local_iobuf)]) :=
      if_pos hBuffered
    rw [if_pos hBuffered] at h
    dsimp only at h
    by_cases hKeep : shouldKeepAlive request = true
    · rw [if_pos hKeep] at h hStep
      have hLater := hAgain _ _ ⟨rfl, rfl⟩ h
      exact proceeds_goes hStep hLater rfl rfl
    · rw [if_neg hKeep] at h hStep
      cases h
      exact proceeds_done hStep rfl
  · rw [if_neg hBuffered] at h
    cases h
    exact proceeds_waits (if_neg hBuffered) ⟨hWaiting, rfl⟩

/-- What is found in the buffer of a connection between requests is answered. -/
theorem answerRequest_proceeds (hAgain : Follows uri_handlers again) (hIdle : conn.Idle)
    (h : answerRequest uri_handlers again (takeRequest conn) = some conn') :
    Proceeds uri_handlers conn .idle conn' := by
  by_cases hNothing : getRequestLen conn.local_iobuf ≤ 0
  · rw [answerRequest_nothing hIdle hNothing] at h
    by_cases hBad : getRequestLen conn.local_iobuf < 0
    · rw [if_pos hBad] at h
      cases h
      refine proceeds_done (n := 0) (e := [.error 400]) ?_ rfl
      rw [httpStep, if_neg (by omega), if_pos hBad]
    · have hWaits : httpStep uri_handlers .idle conn.local_iobuf = none := by
        rw [httpStep, if_pos (by omega)]
      rw [if_neg hBad] at h
      split at h
      · rename_i hLong
        cases h
        refine ⟨[], .idle, _, .waits hWaits, .inr ⟨rfl, hLong, ?_⟩⟩
        rw [List.flatten_nil, List.append_nil]
        rfl
      · cases h
        exact proceeds_waits hWaits ⟨hIdle, rfl⟩
  · have hFound : 0 < getRequestLen conn.local_iobuf := by omega
    have hStep : httpStep uri_handlers .idle conn.local_iobuf =
        match parseHttpMessage (conn.local_iobuf.take (getRequestLen conn.local_iobuf).toNat) with
        | none => some (.done, (getRequestLen conn.local_iobuf).toNat, [.error 400])
        | some request => some ((admission uri_handlers request).1,
            (getRequestLen conn.local_iobuf).toNat, (admission uri_handlers request).2) := by
      rw [httpStep, if_neg (by omega), if_neg (by omega)]
    cases hParse : parseHttpMessage
        (conn.local_iobuf.take (getRequestLen conn.local_iobuf).toNat) with
    | none =>
      obtain ⟨hLen, hNone, hAnswers⟩ := takeRequest_malformed hIdle.1 hFound hParse
      rw [hParse] at hStep
      cases (answerRequest_malformed hLen (hNone.trans hIdle.2)).symm.trans h
      exact proceeds_done hStep (congrArg (· ++ _) hAnswers)
    | some request =>
      obtain ⟨hLen, hNone, rfl, hBuffer, hAnswers⟩ := takeRequest_request hIdle.1 hFound hParse
      rw [hParse] at hStep
      dsimp only at hStep
      obtain ⟨opened, hBuffer', hAnswers', hStage⟩ :=
        answerRequest_request hLen (hNone.trans hIdle.2)
      rw [hBuffer] at hBuffer'
      rw [hAnswers] at hAnswers'
      obtain ⟨hDone, hSome⟩ | ⟨uh, hWait, hWaiting, hCall⟩ := hStage
      · cases hSome.symm.trans h
        rw [hDone] at hStep
        exact proceeds_done hStep hAnswers'
      · rw [hWait] at hStep
        rw [hCall] at h
        exact proceeds_goes hStep (callUriHandler_proceeds hAgain hWaiting h) hBuffer' hAnswers'

/-- **The buffer is gone through** one thing after the other. -/
theorem processRequest_proceeds {fuel : Nat} (hAt : conn.At conn.local_iobuf stage)
    (hStage : stage ≠ .done) (h : processRequest uri_handlers fuel conn = some conn') :
    Proceeds uri_handlers conn stage conn' := by
  induction fuel generalizing conn conn' stage with
  | zero => cases h
  | succ fuel ih =>
    have hAgain : Follows uri_handlers (processRequest uri_handlers fuel) := fun conn _ hIdle h =>
      have hAt : conn.At conn.local_iobuf .idle := ⟨hIdle, rfl⟩
      ih hAt nofun h
    rw [processRequest] at h
    cases stage with
    | idle => exact answerRequest_proceeds hAgain hAt.1 h
    | waiting uh request =>
      rw [takeRequest_pending hAt.1.request_len, answerRequest_waiting hAt.1] at h
      exact callUriHandler_proceeds hAgain hAt.1 h
    | done => exact absurd rfl hStage

end Proceeds

/-! ## What is told -/

/-- After this answer a connection is not kept. -/
def Answer.isLast : Answer → Bool
  | .continued => false
  | .error _ => true
  | .handled _ request => !shouldKeepAlive request
  | .leftOut _ => true

/-- The answers up to the one after which a connection is not kept. -/
def told : List Answer → List Answer
  | [] => []
  | a :: answers => if a.isLast then [a] else a :: told answers

/-- The connection is kept after these answers. -/
def GoesOn (answers : List Answer) : Prop := ∀ a ∈ answers, a.isLast = false

/-- The connection is not kept after the last of these answers. -/
def Ends (answers : List Answer) : Prop :=
  ∃ before a, answers = before ++ [a] ∧ GoesOn before ∧ a.isLast = true

theorem told_goesOn {before : List Answer} (h : GoesOn before) (answers : List Answer) :
    told (before ++ answers) = before ++ told answers := by
  induction before with
  | nil => rfl
  | cons a before ih =>
    obtain ⟨hFirst, hRest⟩ := List.forall_mem_cons.mp h
    rw [List.cons_append, told, if_neg (by rw [hFirst]; nofun), ih hRest, List.cons_append]

theorem told_ends {before : List Answer} (h : Ends before) (answers : List Answer) :
    told (before ++ answers) = before := by
  obtain ⟨before, a, rfl, hBefore, hLast⟩ := h
  rw [List.append_assoc, told_goesOn hBefore, List.singleton_append, told, if_pos hLast]

theorem GoesOn.append_ends {before answers : List Answer} (h : GoesOn before)
    (hEnds : Ends answers) :
    Ends (before ++ answers) := by
  obtain ⟨later, a, rfl, hLater, hLast⟩ := hEnds
  exact ⟨before ++ later, a, (List.append_assoc _ _ _).symm,
    List.forall_mem_append.mpr ⟨h, hLater⟩, hLast⟩

/-- A connection comes to its end with an answer that says so, and with no other one. -/
theorem httpStep_answers {stage stage' : Stage} {buf : Bytes} {n : Nat} {e : List Answer}
    (h : httpStep uri_handlers stage buf = some (stage', n, e)) :
    if stage' = .done then Ends e else GoesOn e := by
  have hSingle {a : Answer} (hLast : a.isLast = true) : Ends [a] := ⟨[], a, rfl, nofun, hLast⟩
  have hAdmit (request : HttpRequest) :
      if (admission uri_handlers request).1 = .done then Ends (admission uri_handlers request).2
      else GoesOn (admission uri_handlers request).2 := by
    have hExpected : GoesOn (if expectsContinue request then [.continued] else []) := by
      split
      · exact List.forall_mem_singleton.mpr rfl
      · nofun
    unfold admission
    split
    · exact hSingle rfl
    split
    · exact hSingle rfl
    dsimp only
    cases handlerFor uri_handlers request with
    | some uh => exact hExpected
    | none => exact hExpected.append_ends (hSingle rfl)
  cases stage with
  | idle =>
    rw [httpStep] at h
    split at h
    · cases h
    split at h
    · cases h
      exact hSingle rfl
    dsimp only at h
    split at h
    · cases h
      exact hSingle rfl
    · cases h
      exact hAdmit _
  | waiting uh request =>
    rw [httpStep] at h
    split at h
    · cases h
      by_cases hKeep : shouldKeepAlive request = true
      · rw [if_pos hKeep, if_neg nofun]
        exact List.forall_mem_singleton.mpr (by rw [Answer.isLast]; exact congrArg not hKeep)
      · rw [if_neg hKeep, if_pos rfl]
        exact hSingle (by rw [Answer.isLast]; exact congrArg not (Bool.eq_false_iff.mpr hKeep))
    · cases h
  | done => cases h

theorem drains_answers {stage stage' : Stage} {buf rest : Bytes} {es : List (List Answer)}
    (h : Drains (httpStep uri_handlers) stage buf es stage' rest) (hStage : stage ≠ .done) :
    if stage' = .done then Ends es.flatten else GoesOn es.flatten := by
  induction h with
  | waits => rw [if_neg hStage]; nofun
  | @goes _ s' _ _ _ _ _ _ hGoes later ih =>
    have hFirst := httpStep_answers hGoes
    rw [List.flatten_cons]
    by_cases hDone : s' = .done
    · subst hDone
      rw [if_pos rfl] at hFirst
      cases later with
      | waits => rwa [if_pos rfl, List.flatten_nil, List.append_nil]
      | goes hMore => cases hMore
    · rw [if_neg hDone] at hFirst
      have hLater := ih hDone
      split at hLater
      · rw [if_pos ‹_›]
        exact hFirst.append_ends hLater
      · rw [if_neg ‹_›]
        exact List.forall_mem_append.mpr ⟨hFirst, hLater⟩

/-! ## Answers are only added -/

theorem takeRequest_answers (conn : Connection) : (takeRequest conn).answers = conn.answers := by
  unfold takeRequest
  split
  · rfl
  split
  · dsimp only
    split <;> rfl
  · rfl

theorem openEndpoint_answers (uri_handlers : List Bytes) (conn : Connection) :
    conn.answers <+: (openEndpoint uri_handlers conn).answers := by
  unfold openEndpoint
  split
  · rw [sendContinueIfExpected_eq, openLocalEndpoint]
    dsimp only
    split
    · exact List.prefix_append _ _
    · exact (List.prefix_append _ _).trans (List.prefix_append _ _)
  · exact List.prefix_refl _

section Kept

variable {conn' : Connection}

/-- Whatever `process_request` does, it adds to the answers. -/
def Adds (again : Connection → Option Connection) : Prop :=
  ∀ conn conn' : Connection, again conn = some conn' → conn.answers <+: conn'.answers

theorem closeLocalEndpoint_answers (hAgain : Adds again)
    (h : closeLocalEndpoint again conn = some conn') : conn.answers <+: conn'.answers := by
  unfold closeLocalEndpoint at h
  dsimp only at h
  split at h
  · exact hAgain conn.released _ h
  · cases h
    exact List.prefix_refl _

theorem answerRequest_answers (hAgain : Adds again)
    (h : answerRequest uri_handlers again conn = some conn') : conn.answers <+: conn'.answers := by
  have hError {code : Nat} (h : sendHttpError again code conn = some conn') :
      conn.answers <+: conn'.answers :=
    (List.prefix_append _ _).trans (closeLocalEndpoint_answers hAgain h)
  unfold answerRequest at h
  dsimp only at h
  split at h
  · exact hError h
  split at h
  · exact hError h
  split at h
  · exact hError h
  refine (openEndpoint_answers uri_handlers conn).trans ?_
  split at h
  · unfold callUriHandlerIfDataIsBuffered at h
    split at h
    · exact (List.prefix_append _ _).trans (closeLocalEndpoint_answers hAgain h)
    · cases h
      exact List.prefix_refl _
  · cases h
    exact List.prefix_refl _

theorem processRequest_answers (fuel : Nat) : Adds (processRequest uri_handlers fuel) := by
  intro conn conn' h
  induction fuel generalizing conn conn' with
  | zero => cases h
  | succ fuel ih =>
    rw [← takeRequest_answers conn]
    exact answerRequest_answers ih h

theorem readFromClients_answers {chunks : List Bytes}
    (h : readFromClients uri_handlers conn chunks = some conn') :
    conn.answers <+: conn'.answers := by
  induction chunks generalizing conn with
  | nil =>
    cases h
    exact List.prefix_refl _
  | cons chunk chunks ih =>
    obtain ⟨next, hFirst, hLater⟩ := Option.bind_eq_some_iff.mp h
    exact (processRequest_answers _ _ _ hFirst).trans (ih hLater)

end Kept

/-! ## However the bytes arrive -/

section Runs

variable {conn' : Connection} {chunks : List Bytes}

/-- The bytes that arrive are gone through. -/
theorem readFromClients_isSome (uri_handlers : List Bytes) (conn : Connection)
    (chunks : List Bytes) : ∃ conn', readFromClients uri_handlers conn chunks = some conn' := by
  induction chunks generalizing conn with
  | nil => exact ⟨conn, rfl⟩
  | cons chunk chunks ih =>
    obtain ⟨next, hFirst⟩ : ∃ next, readFromClient uri_handlers conn chunk = some next :=
      Option.isSome_iff_exists.mp (processRequest_isSome (Nat.lt_succ_self _))
    obtain ⟨conn', hLater⟩ := ih next
    exact ⟨conn', Option.bind_eq_some_iff.mpr ⟨next, hFirst, hLater⟩⟩

/-- A connection at its end does nothing more, whatever arrives. -/
theorem feeds_done (uri_handlers : List Bytes) (buf : Bytes) (chunks : List Bytes) :
    ∃ rest, Feeds (httpStep uri_handlers) .done buf chunks [] .done rest := by
  induction chunks generalizing buf with
  | nil => exact ⟨buf, .nil _ _⟩
  | cons chunk chunks ih =>
    obtain ⟨rest, hRest⟩ := ih (buf ++ chunk)
    exact ⟨rest, .cons (.waits rfl) hRest⟩

theorem Connection.At.buffer {buf : Bytes} {stage : Stage} (hAt : conn.At buf stage)
    (hStage : stage ≠ .done) (chunk : Bytes) :
    conn.local_iobuf = buf ∧ { conn with local_iobuf := buf ++ chunk }.At (buf ++ chunk) stage := by
  cases stage with
  | idle => exact ⟨hAt.2, hAt.1, rfl⟩
  | waiting uh request =>
    obtain ⟨⟨hLen, hUser, hHandler, hRequest, hContent, hValid, hServed⟩, hBuffer⟩ := hAt
    exact ⟨hBuffer, ⟨hLen, hUser, hHandler, hRequest, hContent, hValid, hServed⟩, rfl⟩
  | done => exact absurd rfl hStage

/-- What has been told when the chunks were read: all that they asked for, or what some of them
asked for, and then that a request's head was too long. -/
theorem readFromClients_feeds {buf : Bytes} {stage : Stage} (hAt : conn.At buf stage)
    (hStage : stage ≠ .done) (h : readFromClients uri_handlers conn chunks = some conn') :
    ∃ (es : List (List Answer)) (stage' : Stage) (rest : Bytes) (part : List Bytes),
      Feeds (httpStep uri_handlers) stage buf part es stage' rest ∧ part <+: chunks ∧
      (part = chunks ∧ stage' ≠ .done ∧ conn'.At rest stage' ∧
          conn'.answers = conn.answers ++ es.flatten ∨
        part = chunks ∧ stage' = .done ∧ conn.answers ++ es.flatten <+: conn'.answers ∨
        stage' = .idle ∧ maxRequestSize < rest.length ∧
          conn.answers ++ es.flatten ++ [.error 413] <+: conn'.answers) := by
  induction chunks generalizing conn buf stage with
  | nil =>
    cases h
    exact ⟨[], stage, buf, [], .nil _ _, List.prefix_refl _,
      .inl ⟨rfl, hStage, hAt, (List.append_nil _).symm⟩⟩
  | cons chunk chunks ih =>
    obtain ⟨next, hFirst, hLater⟩ := Option.bind_eq_some_iff.mp h
    obtain ⟨rfl, hAt'⟩ := hAt.buffer hStage chunk
    obtain ⟨es, stage', rest, hDrains, hOutcome⟩ :=
      processRequest_proceeds hAt' hStage hFirst
    have hMore := readFromClients_answers hLater
    obtain ⟨hAnswers, hNext⟩ | ⟨rfl, hLong, hRefused⟩ := hOutcome
    · by_cases hDone : stage' = .done
      · subst hDone
        obtain ⟨rest', hFeeds⟩ := feeds_done uri_handlers rest chunks
        refine ⟨es, .done, rest', chunk :: chunks, ?_, List.prefix_refl _,
          .inr (.inl ⟨rfl, rfl, hAnswers ▸ hMore⟩)⟩
        rw [← List.append_nil es]
        exact .cons hDrains hFeeds
      · obtain ⟨fs, stage'', left, part, hFeeds, hPart, hCases⟩ := ih hNext hDone hLater
        refine ⟨es ++ fs, stage'', left, chunk :: part, .cons hDrains hFeeds,
          List.cons_prefix_cons.mpr ⟨rfl, hPart⟩, ?_⟩
        rw [List.flatten_append, ← List.append_assoc]
        rw [hAnswers] at hCases
        exact hCases.imp (fun h => ⟨congrArg _ h.1, h.2⟩) (.imp_left fun h => ⟨congrArg _ h.1, h.2⟩)
    · refine ⟨es, .idle, rest, [chunk], ?_, by simp, .inr (.inr ⟨rfl, hLong, hRefused ▸ hMore⟩)⟩
      rw [← List.append_nil es]
      exact .cons hDrains (.nil _ _)

/-- **What a connection tells** until it is not kept is what the bytes ask for, all at once; unless
it tells of a request whose head was too long. -/
theorem readFromClients_told (h : readFromClients uri_handlers .accepted chunks = some conn) :
    ∃ es stage rest part, Drains (httpStep uri_handlers) .idle part.flatten es stage rest ∧
      part <+: chunks ∧
      (part = chunks ∧ told conn.answers = es.flatten ∧
          (stage ≠ .done → conn.answers = es.flatten ∧ conn.At rest stage) ∨
        stage = .idle ∧ maxRequestSize < rest.length ∧
          told conn.answers = es.flatten ++ [.error 413]) := by
  have hAt : Connection.accepted.At [] .idle := ⟨⟨rfl, rfl⟩, rfl⟩
  have hNone : Connection.accepted.answers = [] := rfl
  obtain ⟨es, stage, rest, part, hFeeds, hPart, hCases⟩ := readFromClients_feeds hAt nofun h
  have hDrains := (feeds_iff_drains (httpStep_stable uri_handlers) rfl).mp hFeeds
  have hTold := drains_answers hDrains nofun
  refine ⟨es, stage, rest, part, hDrains, hPart, ?_⟩
  rw [hNone, List.nil_append] at hCases
  obtain ⟨hAll, hGoing, hNext, hAnswers⟩ | ⟨hAll, hDone, more, hMore⟩ |
    ⟨rfl, hLong, more, hMore⟩ := hCases
  · rw [if_neg hGoing] at hTold
    refine .inl ⟨hAll, ?_, fun _ => ⟨hAnswers, hNext⟩⟩
    rw [hAnswers, ← List.append_nil es.flatten, told_goesOn hTold, told]
  · rw [if_pos hDone] at hTold
    exact .inl ⟨hAll, by rw [← hMore]; exact told_ends hTold more, absurd hDone⟩
  · rw [if_neg nofun] at hTold
    refine .inr ⟨rfl, hLong, ?_⟩
    rw [← hMore]
    exact told_ends (hTold.append_ends ⟨[], _, rfl, nofun, rfl⟩) more

/-- **What the bytes ask for is answered**, if no head in them is too long. -/
theorem readFromClients_drains {es : List (List Answer)} {stage : Stage} {rest : Bytes}
    (hDrains : Drains (httpStep uri_handlers) .idle chunks.flatten es stage rest)
    (hShort : ∀ buf fs left, buf <+: chunks.flatten →
      Drains (httpStep uri_handlers) .idle buf fs .idle left → left.length ≤ maxRequestSize) :
    ∃ conn, readFromClients uri_handlers .accepted chunks = some conn ∧
      told conn.answers = es.flatten ∧
      (stage ≠ .done → conn.answers = es.flatten ∧ conn.At rest stage) := by
  obtain ⟨conn, hRead⟩ := readFromClients_isSome uri_handlers .accepted chunks
  obtain ⟨fs, stage', left, part, hDrains', ⟨others, rfl⟩, ⟨hAll, hTold⟩ | ⟨rfl, hLong, -⟩⟩ :=
    readFromClients_told hRead
  · rw [List.self_eq_append_right.mp hAll, List.append_nil] at hDrains
    obtain ⟨rfl, rfl, rfl⟩ := hDrains.unique hDrains'
    exact ⟨conn, hRead, hTold⟩
  · have hLe := hShort _ _ _ (List.flatten_append ▸ List.prefix_append _ _) hDrains'
    omega

/-- **It does not depend on how the bytes arrive**, unless a head is too long. -/
theorem told_eq_of_flatten_eq (uri_handlers : List Bytes) {chunks chunks' : List Bytes}
    (hFlatten : chunks.flatten = chunks'.flatten) :
    ∃ conn conn', readFromClients uri_handlers .accepted chunks = some conn ∧
      readFromClients uri_handlers .accepted chunks' = some conn' ∧
      (.error 413 ∉ told conn.answers → .error 413 ∉ told conn'.answers →
        told conn.answers = told conn'.answers) := by
  obtain ⟨conn, h⟩ := readFromClients_isSome uri_handlers .accepted chunks
  obtain ⟨conn', h'⟩ := readFromClients_isSome uri_handlers .accepted chunks'
  refine ⟨conn, conn', h, h', fun hShort hShort' => ?_⟩
  obtain ⟨es, stage, rest, part, hDrains, -, ⟨rfl, hTold, -⟩ | ⟨-, -, hTold⟩⟩ :=
    readFromClients_told h
  · obtain ⟨fs, stage', rest', part', hDrains', -, ⟨rfl, hTold', -⟩ | ⟨-, -, hTold'⟩⟩ :=
      readFromClients_told h'
    · rw [← hFlatten] at hDrains'
      rw [hTold, hTold', (hDrains.unique hDrains').1]
    · rw [hTold'] at hShort'
      exact absurd (List.mem_append_right _ List.mem_cons_self) hShort'
  · rw [hTold] at hShort
    exact absurd (List.mem_append_right _ List.mem_cons_self) hShort

/-- A request for the host's page, at once and cut in its line end. -/
theorem told_eq_of_flatten_eq_cut :
    ∃ conn conn',
      readFromClients [ascii "/"] .accepted [ascii "GET / HTTP/1.0\r\n\r\n"] = some conn ∧
      readFromClients [ascii "/"] .accepted [ascii "GET / HTTP/1.0\r", ascii "\n\r\n"] =
        some conn' ∧
      told conn.answers = told conn'.answers := by
  -- neither of them is refused
  have hShort : ∀ chunks ∈ [[ascii "GET / HTTP/1.0\r\n\r\n"],
      [ascii "GET / HTTP/1.0\r", ascii "\n\r\n"]], ∀ conn ∈
        readFromClients [ascii "/"] .accepted chunks, .error 413 ∉ told conn.answers := by
    decide +kernel
  simp only [List.forall_mem_cons] at hShort
  obtain ⟨hWhole, hCut, -⟩ := hShort
  obtain ⟨conn, conn', h, h', hSame⟩ := told_eq_of_flatten_eq [ascii "/"]
    (show [ascii "GET / HTTP/1.0\r\n\r\n"].flatten =
      [ascii "GET / HTTP/1.0\r", ascii "\n\r\n"].flatten by decide)
  exact ⟨conn, conn', h, h', hSame (hWhole conn h) (hCut conn' h')⟩

end Runs

end Giblet.YahooWeb
