import Giblet.Lib.OrderedMap
import Giblet.YMsg.Managers
import Giblet.YahooWeb.MyYahooWebServer

/-!
# YahooWeb — the web server as a whole

`MultilHostWebServer` hands a request to the server of the host that it names;
`HTTPServerThread` registers these hosts, and puts the server behind mongoose.

* `handled_tidy` — what reaches a handler has a cleaned URI.
* `httpServer_served` — whatever arrives, the files that the handler's calls open
  lie below `htdoc`, IMVironments apart.
* `form_sent` — a form that is sent, in whatever pieces it arrives, is dispatched
  as its packet.
-/

namespace Giblet.YahooWeb

open Effect Intake YMsg
open YahooInsiderWebServer (isSeparator resolved)

/-! ## Hosts -/

/-- `handler_function_type`. -/
abbrev HandlerFunction := HttpRequest → Action Exchange Bool

namespace MultilHostWebServer

/-- `MultilHostWebServer::Add`; it answers whether the host is a new one. -/
def add (hostname : Bytes) (handler : HandlerFunction)
    (handlers_ : OrderedMap Bytes HandlerFunction) : Bool × OrderedMap Bytes HandlerFunction :=
  (!handlers_.contains hostname, handlers_.assign hostname handler)

/-- What is sent back when no server has answered. -/
def sendFullURL (conn : HttpRequest) : Action Exchange Unit :=
  replying (mgSendData (getFullURL conn.connection))

/-- The server of the host that a request names, without its port. -/
def handlerOf (handlers_ : OrderedMap Bytes HandlerFunction) (conn : HttpRequest) :
    HandlerFunction :=
  match mgGetHeader conn (ascii "Host") with
  | none => fun _ => pure false
  | some headerHost =>
    match handlers_.find? (headerHost.takeWhile (· ≠ 58)) with
    | none => fun _ => pure false
    | some handler => handler

/-- `MultilHostWebServer::OnRequest`. -/
def onRequest (handlers_ : OrderedMap Bytes HandlerFunction) (conn : HttpRequest) :
    Action Exchange Bool := do
  let handled ← handlerOf handlers_ conn conn
  if !handled then
    sendFullURL conn
  pure true

end MultilHostWebServer

/-- The hosts of `HTTPServerThread`. -/
def httpServerHosts (files : Files) : List (Bytes × HandlerFunction) :=
  [(ascii "localhost", fun conn => replying (genericHandler files conn.connection (ascii "htdoc"))),
    (ascii "chat.yahoo.com.localhost", fun conn =>
      replying (genericHandler files conn.connection (ascii "htdoc/chat.yahoo.com"))),
    (ascii "insider.msg.yahoo.com.localhost", fun conn =>
      replying (YahooInsiderWebServer.onRequest files conn.connection)),
    (ascii "my.yahoo.com.localhost",
      MyYahooWebServer.onRequest files (ascii "htdoc/my.yahoo.com"))]

/-- The web server of `HTTPServerThread`. -/
def httpServer (files : Files) : OrderedMap Bytes HandlerFunction :=
  (httpServerHosts files).foldl
    (fun handlers_ host => (MultilHostWebServer.add host.1 host.2 handlers_).2) .empty

/-- `ConnectionCallback`, which is called for the requests with a handler only. What mongoose does
about others by itself, such as looking for a file of passwords, is left out. -/
def connectionCallback (handlers_ : OrderedMap Bytes HandlerFunction) :
    Answer → Action Exchange Unit
  | .handled _ request => do
    let _ ← MultilHostWebServer.onRequest handlers_ request
  -- no call
  | _ => pure ()

/-- The calls of `ConnectionCallback` on a connection, one after another. -/
def serve (handlers_ : OrderedMap Bytes HandlerFunction) (answers : List Answer) :
    Action Exchange Unit :=
  answers.forM (connectionCallback handlers_)

/-! ## What reaches a handler -/

/-- A request for a handler: its URI is cleaned, and begins as the handler asks for. -/
structure Answer.Called (uri_handlers : List Bytes) (uh : Bytes) (request : HttpRequest) :
    Prop where
  tidy : Tidy request.uri
  registered : uh ∈ uri_handlers
  begins : uh <+: request.uri

/-- **A full URL is no longer than the head** that it was read from. -/
theorem length_getFullURL_le {buf : Bytes} {request : HttpRequest}
    (h : parseHttpMessage buf = some request) :
    (getFullURL request.connection).length ≤ buf.length := by
  unfold parseHttpMessage at h
  dsimp only at h
  split at h
  · cases h
  have hRequest := Option.some.inj h
  have hText : ((cString buf.dropLast).dropWhile Numeral.isSpace).length ≤ buf.length :=
    calc ((cString buf.dropLast).dropWhile Numeral.isSpace).length
        ≤ (cString buf.dropLast).length := (List.dropWhile_suffix _).length_le
      _ ≤ buf.dropLast.length := (List.takeWhile_prefix _).length_le
      _ ≤ buf.length := by rw [List.length_dropLast]; exact Nat.sub_le _ _
  generalize (cString buf.dropLast).dropWhile Numeral.isSpace = text at hText hRequest
  have hMethod := length_skip_le (ascii " ") text
  generalize skip (ascii " ") text = method at hMethod hRequest
  have hWord := length_skip_le (ascii " ") method.2
  generalize skip (ascii " ") method.2 = uri at hWord hRequest
  have hVersion := length_skip_le [cr, lf] uri.2
  generalize skip [cr, lf] uri.2 = version at hVersion hRequest
  -- the host is one of the headers, path and query are parts of one word
  have hHost : ((mgGetHeader request (ascii "Host")).getD []).length ≤ version.2.length :=
    length_header_le (by rw [← hRequest])
  have hPath : request.uri.length ≤ (uri.1.takeWhile (· ≠ 63)).length := by
    rw [← hRequest]
    exact length_cleanUri_le _
  have hQuery : request.query_string = if uri.1.contains 63 then
      some ((uri.1.dropWhile (· ≠ 63)).drop 1) else none := by rw [← hRequest]
  have hSplit := congrArg List.length (List.takeWhile_append_dropWhile (p := (· ≠ 63)) (l := uri.1))
  rw [List.length_append] at hSplit
  unfold getFullURL HttpRequest.connection
  dsimp only [Option.getD_some]
  rw [hQuery, List.length_append, List.length_append]
  by_cases hMark : uri.1.contains 63 = true
  · have hFound : uri.1.dropWhile (· ≠ 63) ≠ [] := fun hNone => by
      have hAll := List.dropWhile_eq_nil_iff.mp hNone 63 (List.contains_iff_mem.mp hMark)
      exact absurd hAll (by decide)
    have hSome := List.length_pos_iff.mpr hFound
    have hOne : (ascii "?").length = 1 := by decide
    rw [if_pos hMark]
    dsimp only
    rw [List.length_append, hOne, List.length_drop]
    omega
  · rw [if_neg hMark]
    dsimp only [List.length_nil]
    omega
/-- Whatever a connection has got, `size` bytes at most, its handlers are called for requests that
are theirs and no longer than that, and its errors are three of those that there are. -/
structure Connection.Good (uri_handlers : List Bytes) (size : Nat) (conn : Connection) : Prop where
  buffered : conn.local_iobuf.length ≤ size
  tidy : Tidy conn.mg_conn.uri
  short : (getFullURL conn.mg_conn.connection).length ≤ size
  handler : conn.endpoint_type = .user →
    0 < conn.request_len ∧ conn.uh ∈ uri_handlers ∧ conn.uh <+: conn.mg_conn.uri
  answers : ∀ uh request, .handled uh request ∈ conn.answers →
    Answer.Called uri_handlers uh request ∧ (getFullURL request.connection).length ≤ size
  errors : ∀ code, .error code ∈ conn.answers → code ∈ [400, 413, 505]

variable {uri_handlers : List Bytes} {size : Nat} {again : Connection → Option Connection}
  {conn conn' : Connection}

theorem Connection.Good.answer (h : conn.Good uri_handlers size) {a : Answer}
    (hCalled : ∀ uh request, a = .handled uh request → Answer.Called uri_handlers uh request ∧
      (getFullURL request.connection).length ≤ size)
    (hError : ∀ code, a = .error code → code ∈ [400, 413, 505]) :
    (conn.answer a).Good uri_handlers size where
  buffered := h.buffered
  tidy := h.tidy
  short := h.short
  handler := h.handler
  answers := fun uh request hMem => by
    rcases List.mem_append.mp hMem with hOld | hNew
    · exact h.answers uh request hOld
    · exact hCalled uh request (List.mem_singleton.mp hNew).symm
  errors := fun code hMem => by
    rcases List.mem_append.mp hMem with hOld | hNew
    · exact h.errors code hOld
    · exact hError code (List.mem_singleton.mp hNew).symm

/-- More bytes arrive. -/
theorem Connection.Good.more (h : conn.Good uri_handlers size) (chunk : Bytes) :
    { conn with local_iobuf := conn.local_iobuf ++ chunk }.Good uri_handlers
      (size + chunk.length) where
  buffered := by
    rw [List.length_append]
    exact Nat.add_le_add_right h.buffered _
  tidy := h.tidy
  short := Nat.le_add_right_of_le h.short
  handler := h.handler
  answers := fun uh request hMem => (h.answers uh request hMem).imp_right Nat.le_add_right_of_le
  errors := h.errors

/-- `process_request` keeps it. -/
def Keeps (uri_handlers : List Bytes) (size : Nat) (again : Connection → Option Connection) :
    Prop :=
  ∀ conn conn' : Connection, conn.Good uri_handlers size → again conn = some conn' →
    conn'.Good uri_handlers size

theorem closeLocalEndpoint_good (hAgain : Keeps uri_handlers size again) (h : conn.Good uri_handlers size)
    (hClose : closeLocalEndpoint again conn = some conn') : conn'.Good uri_handlers size := by
  have hReleased : conn.released.Good uri_handlers size := ⟨h.buffered, h.tidy, h.short, nofun, h.answers, h.errors⟩
  unfold closeLocalEndpoint at hClose
  dsimp only at hClose
  split at hClose
  · exact hAgain _ _ hReleased hClose
  · cases hClose
    exact ⟨h.buffered, h.tidy, h.short, nofun, h.answers, h.errors⟩

/-- The handler that is called for a request is one that it asks for. -/
theorem handlerFor_eq_some {request : HttpRequest} {uh : Bytes}
    (h : handlerFor uri_handlers request = some uh) : uh ∈ uri_handlers ∧ uh <+: request.uri := by
  unfold handlerFor at h
  split at h
  · cases h
  · have hPrefix := List.find?_some h
    exact ⟨List.mem_of_find?_eq_some h, List.isPrefixOf_iff_prefix.mp hPrefix⟩

theorem openEndpoint_good (h : conn.Good uri_handlers size) :
    (openEndpoint uri_handlers conn).Good uri_handlers size := by
  have hExpected : (sendContinueIfExpected conn).Good uri_handlers size := by
    unfold sendContinueIfExpected
    split
    · exact h.answer (fun _ _ hSame => by cases hSame) fun _ hSame => by cases hSame
    · exact h
  unfold openEndpoint
  split
  · rename_i hNew
    unfold openLocalEndpoint
    dsimp only
    cases hHandler : handlerFor uri_handlers (sendContinueIfExpected conn).mg_conn with
    | none =>
      have hOther : { sendContinueIfExpected conn with
          content_len := contentLen (sendContinueIfExpected conn).mg_conn
          endpoint_type := .other }.Good uri_handlers size :=
        ⟨hExpected.buffered, hExpected.tidy, hExpected.short, nofun, hExpected.answers,
          hExpected.errors⟩
      exact hOther.answer (fun _ _ hSame => by cases hSame) fun _ hSame => by cases hSame
    | some uh =>
      refine ⟨hExpected.buffered, hExpected.tidy, hExpected.short, fun _ => ⟨?_, ?_⟩,
        hExpected.answers, hExpected.errors⟩
      · rw [sendContinueIfExpected_eq]
        exact hNew.1
      · exact handlerFor_eq_some hHandler
  · exact h

/-- What is read has a cleaned URI. -/
theorem tidy_parseHttpMessage {buf : Bytes} {request : HttpRequest}
    (h : parseHttpMessage buf = some request) : Tidy request.uri := by
  unfold parseHttpMessage at h
  dsimp only at h
  split at h
  · cases h
  · cases h
    exact (tidy_removeDoubleDots false _).1

theorem takeRequest_good (h : conn.Good uri_handlers size) : (takeRequest conn).Good uri_handlers size := by
  unfold takeRequest
  split
  · exact h
  rename_i hZero
  have hNot : conn.endpoint_type ≠ .user := fun hUser => by
    have hLen := (h.handler hUser).1
    omega
  have hLeft (n : Nat) : (conn.local_iobuf.drop n).length ≤ size :=
    (List.drop_suffix n _).length_le.trans h.buffered
  split
  · dsimp only
    split
    · exact ⟨hLeft _, h.tidy, h.short, fun hUser => absurd hUser hNot, h.answers, h.errors⟩
    · rename_i request hParse
      have hHead :=
        (List.take_prefix (getRequestLen conn.local_iobuf).toNat conn.local_iobuf).length_le
      exact ⟨hLeft _, tidy_parseHttpMessage hParse,
        (length_getFullURL_le hParse).trans (hHead.trans h.buffered),
        fun hUser => absurd hUser hNot, h.answers, h.errors⟩
  · exact ⟨h.buffered, h.tidy, h.short, fun hUser => absurd hUser hNot, h.answers, h.errors⟩

theorem answerRequest_good (hAgain : Keeps uri_handlers size again) (h : conn.Good uri_handlers size)
    (hAnswer : answerRequest uri_handlers again conn = some conn') : conn'.Good uri_handlers size := by
  have hError {code : Nat} (hCode : code ∈ [400, 413, 505])
      (hSend : sendHttpError again code conn = some conn') : conn'.Good uri_handlers size := by
    refine closeLocalEndpoint_good hAgain (h.answer (fun _ _ hSame => ?_) fun _ hSame => ?_) hSend
    · cases hSame
    · cases hSame
      exact hCode
  unfold answerRequest at hAnswer
  dsimp only at hAnswer
  split at hAnswer
  · exact hError (by decide) hAnswer
  split at hAnswer
  · exact hError (by decide) hAnswer
  split at hAnswer
  · exact hError (by decide) hAnswer
  have hOpen := openEndpoint_good h
  split at hAnswer
  · rename_i hUser
    unfold callUriHandlerIfDataIsBuffered at hAnswer
    split at hAnswer
    · refine closeLocalEndpoint_good hAgain
        (hOpen.answer (fun uh request hSame => ?_) fun _ hSame => by cases hSame) hAnswer
      cases hSame
      obtain ⟨-, hMem, hPrefix⟩ := hOpen.handler hUser
      exact ⟨⟨hOpen.tidy, hMem, hPrefix⟩, hOpen.short⟩
    · cases hAnswer
      exact hOpen
  · cases hAnswer
    exact hOpen

theorem processRequest_good (fuel : Nat) :
    Keeps uri_handlers size (processRequest uri_handlers fuel) := by
  intro conn conn' h hProcess
  induction fuel generalizing conn conn' with
  | zero => cases hProcess
  | succ fuel ih => exact answerRequest_good ih (takeRequest_good h) hProcess

theorem readFromClients_good {chunks : List Bytes} (h : conn.Good uri_handlers size)
    (hRead : readFromClients uri_handlers conn chunks = some conn') :
    conn'.Good uri_handlers (size + chunks.flatten.length) := by
  induction chunks generalizing conn size with
  | nil =>
    cases hRead
    exact h
  | cons chunk chunks ih =>
    obtain ⟨next, hFirst, hLater⟩ := Option.bind_eq_some_iff.mp hRead
    have hNext := ih (processRequest_good _ _ _ (h.more chunk) hFirst) hLater
    rwa [Nat.add_assoc, ← List.length_append] at hNext

theorem accepted_good (uri_handlers : List Bytes) : Connection.accepted.Good uri_handlers 0 where
  buffered := Nat.le_refl 0
  tidy := tidy_nil
  short := Nat.le_refl 0
  handler := fun hUser => by cases hUser
  answers := fun _ _ hNone => by cases hNone
  errors := fun _ hNone => by cases hNone

/-- **What reaches a handler** has a cleaned URI, which begins as the handler asks for. -/
theorem handled_tidy {chunks : List Bytes}
    (h : readFromClients uri_handlers .accepted chunks = some conn) {uh : Bytes}
    {request : HttpRequest} (hHandled : .handled uh request ∈ conn.answers) :
    Answer.Called uri_handlers uh request :=
  ((readFromClients_good (accepted_good uri_handlers) h).answers uh request hHandled).1

/-- Its full URL is no longer than all that arrived. -/
theorem length_handled_le {chunks : List Bytes}
    (h : readFromClients uri_handlers .accepted chunks = some conn) {uh : Bytes}
    {request : HttpRequest} (hHandled : .handled uh request ∈ conn.answers) :
    (getFullURL request.connection).length ≤ chunks.flatten.length := by
  have hShort := ((readFromClients_good (accepted_good uri_handlers) h).answers uh request
    hHandled).2
  rwa [Nat.zero_add] at hShort

/-! ## What is opened -/

/-- Nothing is opened but files of this kind. -/
def OpensOnly (P : Bytes → Prop) (r r' : Reply) : Prop :=
  ∀ path ∈ r'.served, path ∈ r.served ∨ P path

instance (P : Bytes → Prop) : IsPreorder Reply (OpensOnly P) where
  refl _ _ hPath := .inl hPath
  trans _ _ _ h h' path hPath := (h' path hPath).elim (h path) .inr

instance (P : Bytes → Prop) : IsPreorder Exchange fun e e' => OpensOnly P e.reply e'.reply where
  refl e := refl_of (OpensOnly P) e.reply
  trans _ _ _ h h' := trans_of (OpensOnly P) h h'

section Opens

variable {P : Bytes → Prop} {files : Files}

theorem genericServeFile_opens {filepath : Bytes} (h : P filepath) :
    Frame (OpensOnly P) (genericServeFile files filepath) := by
  intro r path hPath
  unfold genericServeFile at hPath
  cases hFile : files filepath with
  | none =>
    rw [hFile] at hPath
    exact .inl hPath
  | some reply =>
    rw [hFile] at hPath
    rcases List.mem_append.mp hPath with hOld | hNew
    · exact .inl hOld
    · obtain rfl := List.mem_singleton.mp hNew
      exact .inr h

theorem mgSendData_opens (data : Bytes) : Frame (OpensOnly P) (mgSendData data) :=
  Frame.modify fun _ _ hPath => .inl hPath

/-- What is done about the packets opens nothing. -/
theorem onDebugSendPacketRequest_opens (conn : HttpRequest) :
    Frame (fun e e' => OpensOnly P e.reply e'.reply)
      (MyYahooWebServer.onDebugSendPacketRequest conn) := by
  have hExcept {α : Type} (x : Except Fault α) : Frame (fun e e' => OpensOnly P e.reply e'.reply)
      (MonadExcept.ofExcept x : Action Exchange α) := by
    cases x with
    | ok a => exact Frame.pure a
    | error fault => exact Frame.throw fault
  have hDispatch (build : Action Builder Bool) :
      Frame (fun e e' => OpensOnly P e.reply e'.reply)
        (MyYahooWebServer.dispatchPacket build) := by
    intro e
    unfold MyYahooWebServer.dispatchPacket
    cases build ⟨[]⟩ <;> exact refl_of (OpensOnly P) e.reply
  unfold MyYahooWebServer.onDebugSendPacketRequest
  dsimp only
  split
  · exact Frame.pure _
  refine Frame.bind (hExcept _) fun serviceId => ?_
  split
  · exact Frame.pure _
  exact Frame.bind (hExcept _) fun attributeId => Frame.bind (hDispatch _) fun _ => Frame.pure _

end Opens

/-! ## The root -/

/-- Below a directory of the server. -/
def BelowRoot (path : Bytes) : Prop := (resolved (ascii "htdoc")).Below (resolved path)

instance (path : Bytes) : Decidable (BelowRoot path) :=
  inferInstanceAs (Decidable (Path.Place.Below _ _))

/-- A cleaned URI leads down. -/
theorem belowRoot_append {rootPath uri : Bytes} (hRoot : BelowRoot rootPath) (hTidy : Tidy uri)
    (hBegins : ascii "/" <+: uri) : BelowRoot (rootPath ++ uri) := by
  obtain ⟨rest, rfl⟩ := hBegins
  have hSlash : isSeparator 47 = true := by decide
  refine hRoot.trans ?_
  unfold resolved
  show Path.Place.Below _ (Path.resolve (Path.stepsOf isSeparator 46 (rootPath ++ 47 :: rest)))
  rw [Path.stepsOf_append hSlash]
  refine Path.resolve_append_below _ (Path.stepsOf_ne_up (hTidy [] 47 rest rfl hSlash).2 ?_)
  rintro before c later rfl hc
  exact (hTidy (47 :: before) c later rfl hc).2

/-- A file that may be opened: one below the root, or what a URL names as an IMVironment. -/
def Opened (request : HttpRequest) (path : Bytes) : Prop :=
  BelowRoot path ∨ request.uri = ascii "/ycontent/" ∧
    ∃ name, YahooInsiderWebServer.ImvName (getFullURL request.connection) name ∧
      path = YahooInsiderWebServer.imvPath name

section Opened

variable {files : Files} {uh : Bytes} {request : HttpRequest}

theorem genericHandler_opens {rootPath : Bytes} (hRoot : BelowRoot rootPath)
    (hCalled : Answer.Called httpServerHandlers uh request) :
    Frame (OpensOnly (Opened request)) (genericHandler files request.connection rootPath) := by
  obtain rfl := List.mem_singleton.mp hCalled.registered
  exact genericServeFile_opens (.inl (belowRoot_append hRoot hCalled.tidy hCalled.begins))

/-- The files of the insider server, IMVironments apart. -/
theorem belowRoot_insider :
    BelowRoot (ascii "htdoc/insider.yahoo.com/roomTopics.xml") ∧
      ∀ source ∈ YahooInsiderWebServer.contentSources, BelowRoot source.2 := by
  decide +kernel

theorem yahooInsiderWebServer_opens :
    Frame (OpensOnly (Opened request))
      (YahooInsiderWebServer.onRequest files request.connection) := by
  by_cases hPage : request.connection.uri = some (ascii "/ycontent/")
  · cases hFind : Substring.find (ascii "?getimv=") (getFullURL request.connection) with
    | some position =>
      obtain ⟨name, hName⟩ :
          ∃ name, YahooInsiderWebServer.ImvName (getFullURL request.connection) name :=
        ⟨_, Substring.between_iff.mpr ⟨position, hFind, rfl⟩⟩
      rw [YahooInsiderWebServer.onRequest_imv hPage hName]
      exact genericServeFile_opens (.inr ⟨Option.some.inj hPage, _, hName, rfl⟩)
    | none =>
      have hSource (source : Bytes × Bytes)
          (hMem : source ∈ YahooInsiderWebServer.contentSources) :
          Frame (OpensOnly (Opened request)) (YahooInsiderWebServer.serveSource files
            (getFullURL request.connection) source) := by
        unfold YahooInsiderWebServer.serveSource
        split
        · exact Frame.bind (genericServeFile_opens (.inl (belowRoot_insider.2 source hMem)))
            fun _ => Frame.pure _
        · exact Frame.pure _
      unfold YahooInsiderWebServer.onRequest
      rw [if_neg (not_not.mpr hPage)]
      simp only [hFind]
      split
      · split
        · exact genericServeFile_opens (.inl belowRoot_insider.1)
        · exact Frame.pure _
      · exact Frame.bind (mgSendData_opens _) fun _ => Frame.bind (mgSendData_opens _) fun _ =>
          Frame.bind (Frame.forM_mem hSource) fun _ => Frame.bind (mgSendData_opens _) fun _ =>
            Frame.pure _
  · rw [YahooInsiderWebServer.onRequest, if_pos hPage]
    exact Frame.pure _

/-- What becomes of a reply. -/
theorem replying_opens {α : Type} {P : Bytes → Prop} {x : Action Reply α}
    (h : Frame (OpensOnly P) x) :
    Frame (fun e e' => OpensOnly P e.reply e'.reply) (replying x) :=
  Frame.zoom (fun _ _ => rfl) h

/-- The servers of the hosts. -/
theorem httpServerHosts_opens (hCalled : Answer.Called httpServerHandlers uh request) :
    ∀ host ∈ httpServerHosts files,
      Frame (fun e e' => OpensOnly (Opened request) e.reply e'.reply) (host.2 request) := by
  have hRoots : BelowRoot (ascii "htdoc") ∧ BelowRoot (ascii "htdoc/chat.yahoo.com") ∧
      BelowRoot (ascii "htdoc/my.yahoo.com") := by decide +kernel
  obtain ⟨hLocal, hChat, hMy⟩ := hRoots
  simp only [httpServerHosts, List.forall_mem_cons]
  refine ⟨replying_opens (genericHandler_opens hLocal hCalled),
    replying_opens (genericHandler_opens hChat hCalled),
    replying_opens yahooInsiderWebServer_opens, ?_, nofun⟩
  unfold MyYahooWebServer.onRequest
  dsimp only
  split
  · exact onDebugSendPacketRequest_opens request
  · exact replying_opens (genericHandler_opens hMy hCalled)

end Opened

/-- **A request goes to the server that was added last** for its host. -/
theorem find?_httpServer (files : Files) (host : Bytes) :
    (httpServer files).find? host =
      ((httpServerHosts files).reverse.find? fun e => host = e.1).map Prod.snd := by
  have hFind : (httpServer files).find? host = _ :=
    OrderedMap.find?_foldl_assign (httpServerHosts files) .empty host
  rw [hFind, show (OrderedMap.empty : OrderedMap Bytes HandlerFunction).find? host = none from rfl,
    Option.or_none]
  congr!

theorem onRequest_opens {files : Files} {uh : Bytes} {request : HttpRequest}
    (hCalled : Answer.Called httpServerHandlers uh request) :
    Frame (fun e e' => OpensOnly (Opened request) e.reply e'.reply)
      (MultilHostWebServer.onRequest (httpServer files) request) := by
  have hHandler : Frame (fun e e' => OpensOnly (Opened request) e.reply e'.reply)
      (MultilHostWebServer.handlerOf (httpServer files) request request) := by
    unfold MultilHostWebServer.handlerOf
    cases mgGetHeader request (ascii "Host") with
    | none => exact Frame.pure _
    | some headerHost =>
      dsimp only
      rw [find?_httpServer]
      cases hFind : (httpServerHosts files).reverse.find? fun e =>
          decide (headerHost.takeWhile (· ≠ 58) = e.1) with
      | none => exact Frame.pure _
      | some host =>
        exact httpServerHosts_opens hCalled host
          (List.mem_reverse.mp (List.mem_of_find?_eq_some hFind))
  refine Frame.bind hHandler fun handled => ?_
  split
  · exact Frame.bind (replying_opens (mgSendData_opens _)) fun _ => Frame.pure _
  · exact Frame.pure _

/-- **What the handler's calls open**, whatever arrives: files below the root, and what some URL
names as an IMVironment. -/
theorem httpServer_served (files : Files) (chunks : List Bytes) :
    ∃ conn, readFromClients httpServerHandlers .accepted chunks = some conn ∧
      ∀ path ∈ (finalState (serve (httpServer files) conn.answers ⟨⟨[], []⟩, []⟩)).reply.served,
        BelowRoot path ∨ ∃ uh request, .handled uh request ∈ conn.answers ∧
          request.uri = ascii "/ycontent/" ∧
          ∃ name, YahooInsiderWebServer.ImvName (getFullURL request.connection) name ∧
            path = YahooInsiderWebServer.imvPath name := by
  obtain ⟨conn, hRead⟩ := readFromClients_isSome httpServerHandlers .accepted chunks
  refine ⟨conn, hRead, ?_⟩
  let P (path : Bytes) : Prop := BelowRoot path ∨ ∃ uh request, .handled uh request ∈ conn.answers ∧
    request.uri = ascii "/ycontent/" ∧
    ∃ name, YahooInsiderWebServer.ImvName (getFullURL request.connection) name ∧
      path = YahooInsiderWebServer.imvPath name
  have hAnswer : ∀ a ∈ conn.answers, Frame (fun e e' => OpensOnly P e.reply e'.reply)
      (connectionCallback (httpServer files) a) := by
    intro a ha
    unfold connectionCallback
    split
    · rename_i uh request
      refine Frame.bind (fun e path hPath => ?_) fun _ => Frame.pure _
      exact (onRequest_opens (handled_tidy hRead ha) e path hPath).imp_right
        (.imp_right fun hImv => ⟨uh, request, ha, hImv⟩)
    · exact Frame.pure _
  intro path hPath
  exact (Frame.forM_mem hAnswer _ path hPath).resolve_left fun hNone => by cases hNone

/-! ## A form that is sent -/

section Form

variable {r : Request} {content : Bytes} {form : MyYahooWebServer.PacketForm}

/-- A request for the page of the form, with a text for its query or its content. -/
structure Request.Submits (r : Request) (content text : Bytes) : Prop where
  host : (mgGetHeader r.read (ascii "Host")).map (·.takeWhile (· ≠ 58)) =
    some (ascii "my.yahoo.com.localhost")
  page : r.path = ascii "/tearoff/channel.html"
  text : r.query_string = some text ∧ content = [] ∨
    r.query_string = none ∧ content = text ∧ r.request_method = ascii "POST"

theorem handlerOf_my (files : Files) {conn : HttpRequest} (hHost :
    (mgGetHeader conn (ascii "Host")).map (·.takeWhile (· ≠ 58)) =
      some (ascii "my.yahoo.com.localhost")) :
    MultilHostWebServer.handlerOf (httpServer files) conn =
      MyYahooWebServer.onRequest files (ascii "htdoc/my.yahoo.com") := by
  obtain ⟨headerHost, hHeader, hName⟩ := Option.map_eq_some_iff.mp hHost
  unfold MultilHostWebServer.handlerOf
  rw [hHeader]
  dsimp only
  rw [hName, find?_httpServer]
  rfl

/-- **A form that is sent** is dispatched as its packet, however its bytes arrive. -/
theorem form_sent (files : Files) (hWell : r.WellFormed) (hCarries : r.Carries content)
    (hSubmits : r.Submits content form.text)
    (hRows : ∀ row ∈ form.rows, row.value.length < MyYahooWebServer.sizeofBuffer ∧
      0 ∉ row.value ∧ Unterminated row.value)
    (hSize : RawHeader.size + (Builder.encode form.fields).length < Builder.PaxPayloadSize)
    {chunks : List Bytes} (hChunks : chunks.flatten = r.head ++ content) :
    ∃ conn, readFromClients httpServerHandlers .accepted chunks = some conn ∧
      serve (httpServer files) (told conn.answers) ⟨⟨[], []⟩, []⟩ =
        .ok () ⟨⟨[], []⟩, [form.packet]⟩ ∧
      PacketParser.parse collect (form.packet.buffer_.drop RawHeader.size) [] =
        .ok () form.fields := by
  obtain ⟨hHost, hPage, hText⟩ := hSubmits
  have hTold : ∃ conn, readFromClients httpServerHandlers .accepted chunks = some conn ∧
      told conn.answers = [r.answer content] := by
    by_cases hKept : shouldKeepAlive r.read = true
    · -- the connection is kept after a request without content only
      have hNone : content = [] := by
        rcases hText with ⟨-, hNone⟩ | ⟨-, -, hPost⟩
        · exact hNone
        · rw [shouldKeepAlive, Request.read, hPost] at hKept
          cases hKept
      subst hNone
      have hLater : Drains (httpStep httpServerHandlers)
          (if shouldKeepAlive r.read then .idle else .done) [] [] .idle [] := by
        rw [if_pos hKept]
        exact .waits rfl
      obtain ⟨conn, hRead, hTold, -⟩ :=
        hCarries.answered hWell hLater (fun _ => Nat.zero_le _) hChunks
      exact ⟨conn, hRead, hTold⟩
    · exact hCarries.answered_last hWell (Bool.eq_false_iff.mpr hKept) hChunks
  obtain ⟨conn, hRead, hTold⟩ := hTold
  have hSends : MyYahooWebServer.Sends { r.read with content } form.text :=
    hText.imp_right fun h => ⟨h.1, h.2.1⟩
  refine ⟨conn, hRead, ?_, MyYahooWebServer.parse_packet fun row hRow => (hRows row hRow).2.2⟩
  rw [hTold]
  have hServed := MyYahooWebServer.onRequest_form files (ascii "htdoc/my.yahoo.com") hPage hSends
    (fun row hRow => ⟨(hRows row hRow).1, (hRows row hRow).2.1⟩) hSize ⟨⟨[], []⟩, []⟩
  have hHandler : MultilHostWebServer.handlerOf (httpServer files) { r.read with content } = _ :=
    handlerOf_my files hHost
  show (connectionCallback (httpServer files) (r.answer content) >>= fun _ => pure ()) _ = _
  rw [bind_run, Request.answer, connectionCallback, bind_run, MultilHostWebServer.onRequest,
    bind_run, hHandler, hServed]
  rfl

/-- What the page suggests, with one more row. -/
def suggestedForm : MyYahooWebServer.PacketForm where
  serviceId := 1
  attributeId := 0
  rows := [⟨some 1, ascii "john"⟩, ⟨some 3, ascii "thesaint"⟩, ⟨some 14, ascii "some message"⟩,
    ⟨none, []⟩, ⟨some (-1), ascii "50% & more"⟩]

/-- The request with which a browser posts it. -/
def submission : Request where
  request_method := ascii "POST"
  path := ascii "/tearoff/channel.html"
  query_string := none
  http_version := ascii "1.1"
  http_headers := [(ascii "Host", ascii "my.yahoo.com.localhost:41337"),
    (ascii "Content-Length", Numeral.ofNat suggestedForm.text.length)]

theorem form_sent_suggested :
    ∃ conn, readFromClients httpServerHandlers .accepted [submission.head, suggestedForm.text] =
        some conn ∧
      serve (httpServer fun _ => none) (told conn.answers) ⟨⟨[], []⟩, []⟩ =
        .ok () ⟨⟨[], []⟩, [suggestedForm.packet]⟩ ∧
      PacketParser.parse collect (suggestedForm.packet.buffer_.drop RawHeader.size) [] =
        .ok () suggestedForm.fields := by
  have hWell : submission.WellFormed :=
    { request_method := by decide
      path := ⟨by decide, by decide, tidy_of_removeDoubleDots (by decide)⟩
      query_string := nofun
      http_version := by decide +kernel
      http_headers := by decide +kernel
      room := by decide }
  have hCarries : submission.Carries suggestedForm.text :=
    { path := by decide
      http_version := by decide
      http := by decide
      unexpected := by decide
      length := by decide +kernel
      short := by decide +kernel }
  exact form_sent _ hWell hCarries ⟨by decide, rfl, .inr ⟨rfl, rfl, rfl⟩⟩ (by decide +kernel)
    (by decide +kernel) (by simp)

end Form

end Giblet.YahooWeb
