import Giblet.Lib.Effect
import Giblet.Lib.Path
import Giblet.Lib.Substring
import Giblet.YMsg.Types

/-!
# YahooWeb — the insider web server

`YahooInsiderWebServer` answers what the messenger asks
`insider.yahoo.com/ycontent/` for. A request with `?getimv=` is answered with
an IMVironment: its name is cut out of the URL and made part of a path. The
web server takes `..` out of the URI, but the name comes from the query
string, which it leaves as it is.

* `onRequest_imv` — the path that a request with `?getimv=` opens.
* `imv_contained_iff` — the requests whose path stays in the directory.
-/

namespace Giblet.YahooWeb

open Effect YMsg

/-! ## Requests -/

/-- What is used of an `mg_connection`: the header `Host`, `uri` and `query_string`, any of
which may be null. -/
structure MgConnection where
  host : Option Bytes
  uri : Option Bytes
  query_string : Option Bytes
  deriving DecidableEq, Repr

/-- What is done about a request: the files that are served, and what is sent. -/
structure Reply where
  served : List Bytes
  sent : List Bytes
  deriving DecidableEq, Repr

/-- The files that can be opened, with their contents. -/
abbrev Files := Bytes → Option Bytes

/-- `std::string::substr`. -/
def substr (s : Bytes) (pos count : Nat) : Action Reply Bytes := fun r =>
  if pos > s.length then .error (.outOfRange "invalid string position") r
  else .ok ((s.drop pos).take count) r

/-- `mg_send_data`. -/
def mgSendData (data : Bytes) : Action Reply Unit :=
  modify fun r => { r with sent := r.sent ++ [data] }

/-- `GetFullURL`. -/
def getFullURL (conn : MgConnection) : Bytes :=
  conn.host.getD [] ++ conn.uri.getD [] ++
    match conn.query_string with
    | none => []
    | some query => ascii "?" ++ query

/-- `GenericServeFile`. -/
def genericServeFile (files : Files) (filepath : Bytes) : Action Reply Bool := fun r =>
  match files filepath with
  | none => .ok false r
  | some reply => .ok true ⟨r.served ++ [filepath], r.sent ++ [reply]⟩

namespace YahooInsiderWebServer

/-- What separates the parts of a query. -/
def ampersand : UInt8 := 38

/-- The content sources, each with the text that asks for it. -/
def contentSources : List (Bytes × Bytes) :=
  [(ascii "&filter=0", ascii "htdoc/insider.yahoo.com/filters.xml"),
    (ascii "&imv=0", ascii "htdoc/insider.yahoo.com/imvironments.xml"),
    (ascii "&system=0", ascii "htdoc/insider.yahoo.com/system.xml"),
    (ascii "&sms=0", ascii "htdoc/insider.yahoo.com/sms.xml"),
    (ascii "&chatcat=", ascii "htdoc/insider.yahoo.com/chatCategories.xml"),
    (ascii "&ab2=0", ascii "htdoc/insider.yahoo.com/addressbook.xml")]

/-- A content source is delivered if it is asked for; nobody looks whether that worked. -/
def serveSource (files : Files) (fullURL : Bytes) (source : Bytes × Bytes) : Action Reply Unit := do
  if (Substring.find source.1 fullURL).isSome then
    let _ ← genericServeFile files source.2

/-- The file of an IMVironment. -/
def imvPath (name : Bytes) : Bytes := ascii "htdoc/insider.yahoo.com/imv/" ++ name ++ ascii ".yim"

/-- `YahooInsiderWebServer::OnRequest`; what is printed is left out. -/
def onRequest (files : Files) (conn : MgConnection) : Action Reply Bool :=
  if conn.uri ≠ some (ascii "/ycontent/") then pure false
  else
    let fullURL := getFullURL conn
    match Substring.find (ascii "?getimv=") fullURL with
    | some position => do
      let getImvPos := position + 8
      let getImvEndPos := (Substring.findFrom ampersand getImvPos fullURL).getD fullURL.length
      let name ← substr fullURL getImvPos (getImvEndPos - getImvPos)
      genericServeFile files (imvPath name)
    | none =>
      if (Substring.find (ascii "?chatroom_") fullURL).isSome then
        -- this text is part of the one that was found
        if (Substring.find (ascii "chatroom_") fullURL).isSome then
          genericServeFile files (ascii "htdoc/insider.yahoo.com/roomTopics.xml")
        else pure false
      else do
        mgSendData (ascii "<?xml version=\"1.0\" encoding=\"utf-8\" ?>")
        mgSendData (ascii "<yahooinsider intl=\"us\">")
        contentSources.forM (serveSource files fullURL)
        mgSendData (ascii "</yahooinsider>")
        pure true

/-! ## The name of an IMVironment -/

/-- The name in a URL: what follows the first `?getimv=`, up to the next `&` or the end. -/
def ImvName (fullURL name : Bytes) : Prop :=
  Substring.Between (ascii "?getimv=") ampersand fullURL name

/-- **A request with `?getimv=`** opens the file of the name in its URL. -/
theorem onRequest_imv {files : Files} {conn : MgConnection} {name : Bytes}
    (hPage : conn.uri = some (ascii "/ycontent/")) (hName : ImvName (getFullURL conn) name) :
    onRequest files conn = genericServeFile files (imvPath name) := by
  obtain ⟨position, hFind, rfl⟩ := Substring.between_iff.mp hName
  obtain ⟨before, ⟨⟨after, hSplit⟩, -⟩, hBefore⟩ := Substring.find_eq_some_iff.mp hFind
  have hOpening : (ascii "?getimv=").length = 8 := by decide
  have hInside : ¬ position + 8 > (getFullURL conn).length := by
    rw [hSplit, List.length_append, List.length_append, hOpening, hBefore]
    omega
  unfold onRequest
  rw [if_neg (not_not.mpr hPage)]
  simp only [hFind]
  funext r
  rw [bind_run, substr, if_neg hInside]
  simp only [Substring.take_findFrom, hOpening]

/-- A file is served through the branch for IMVironments. -/
def ServesImv (files : Files) (conn : MgConnection) (path : Bytes) : Prop :=
  (Substring.find (ascii "?getimv=") (getFullURL conn)).isSome = true ∧
    path ∈ (finalState (onRequest files conn ⟨[], []⟩)).served

theorem served_genericServeFile (files : Files) (filepath : Bytes) :
    (finalState (genericServeFile files filepath ⟨[], []⟩)).served =
      if (files filepath).isSome then [filepath] else [] := by
  unfold genericServeFile
  cases files filepath <;> rfl

theorem servesImv_iff {files : Files} {conn : MgConnection} {path : Bytes} :
    ServesImv files conn path ↔ conn.uri = some (ascii "/ycontent/") ∧
      ∃ name, ImvName (getFullURL conn) name ∧ path = imvPath name ∧
        (files path).isSome = true := by
  unfold ServesImv
  constructor
  · rintro ⟨hImv, hServed⟩
    by_cases hPage : conn.uri = some (ascii "/ycontent/")
    · obtain ⟨position, hFind⟩ := Option.isSome_iff_exists.mp hImv
      obtain ⟨name, hName⟩ : ∃ name, ImvName (getFullURL conn) name :=
        ⟨_, Substring.between_iff.mpr ⟨position, hFind, rfl⟩⟩
      rw [onRequest_imv hPage hName, served_genericServeFile] at hServed
      split at hServed
      · obtain rfl := List.mem_singleton.mp hServed
        exact ⟨hPage, name, hName, rfl, by assumption⟩
      · cases hServed
    · rw [onRequest, if_pos hPage] at hServed
      cases hServed
  · rintro ⟨hPage, name, hName, rfl, hFile⟩
    obtain ⟨position, hFind, -⟩ := Substring.between_iff.mp hName
    refine ⟨by rw [hFind]; rfl, ?_⟩
    rw [onRequest_imv hPage hName, served_genericServeFile, if_pos hFile]
    exact List.mem_cons_self

/-! ## The directory -/

/-- `htdoc/insider.yahoo.com/imv`. -/
def imvDirectory : List Bytes := [ascii "htdoc", ascii "insider.yahoo.com", ascii "imv"]

/-- On Windows, either slash separates the names of a path. -/
def isSeparator (c : UInt8) : Bool := (ascii "/\\").contains c

/-- The path without `.` and `..`. -/
def resolved (path : Bytes) : Path.Place Bytes :=
  Path.resolve (Path.stepsOf isSeparator 46 path)

/-- The path is that of an IMVironment in the directory. -/
structure Contained (path : Bytes) : Prop where
  inside : (resolved path).Inside imvDirectory
  yim : ∃ dirs file, (resolved path).downs = dirs ++ [file] ∧ ascii ".yim" <:+ file

theorem resolved_imvPath (name : Bytes) :
    resolved (imvPath name) = (resolved (name ++ ascii ".yim")).within imvDirectory := by
  have hText : imvPath name = ascii "htdoc" ++ 47 :: (ascii "insider.yahoo.com" ++
      47 :: (ascii "imv" ++ 47 :: (name ++ ascii ".yim"))) := by
    have hDirectory : ascii "htdoc/insider.yahoo.com/imv/" = ascii "htdoc" ++
        47 :: (ascii "insider.yahoo.com" ++ 47 :: (ascii "imv" ++ [47])) := by decide
    rw [imvPath, hDirectory]
    simp only [List.append_assoc, List.cons_append, List.nil_append]
  have hNames : ∀ d ∈ imvDirectory, (∀ x ∈ d, isSeparator x = false) ∧
      Path.Step.ofName 46 d = .down d := by decide +kernel
  have hSlash : isSeparator 47 = true := by decide
  obtain ⟨⟨hFirst, hFirstDown⟩, ⟨hSecond, hSecondDown⟩, ⟨hThird, hThirdDown⟩, -⟩ := by
    simpa only [imvDirectory, List.forall_mem_cons] using hNames
  have hSteps : Path.stepsOf isSeparator 46 (imvPath name) =
      imvDirectory.map Path.Step.down ++ Path.stepsOf isSeparator 46 (name ++ ascii ".yim") := by
    rw [hText, Path.stepsOf_append_separator hFirst hSlash,
      Path.stepsOf_append_separator hSecond hSlash, Path.stepsOf_append_separator hThird hSlash,
      hFirstDown, hSecondDown, hThirdDown]
    rfl
  rw [resolved, hSteps, Path.resolve_append_down]
  rfl

/-- **The file of a name** stays in the directory exactly when the name returns to it. -/
theorem contained_imvPath_iff (name : Bytes) :
    Contained (imvPath name) ↔ (resolved (name ++ ascii ".yim")).Returns imvDirectory := by
  obtain ⟨dirs, last, hDowns⟩ : ∃ dirs last,
      (resolved (name ++ ascii ".yim")).downs = dirs ++ [last ++ ascii ".yim"] :=
    Path.resolve_ending (by decide +kernel) ⟨121, by decide, by decide⟩ name
  constructor
  · intro h
    have hInside := h.inside
    rw [resolved_imvPath, Path.inside_within_iff] at hInside
    exact hInside.1
  · intro hReturns
    refine ⟨?_, ?_⟩
    · rw [resolved_imvPath, Path.inside_within_iff]
      refine ⟨hReturns, fun hSame => ?_⟩
      -- none of the three names has the ending
      have hMem : last ++ ascii ".yim" ∈ imvDirectory := by
        apply List.mem_of_mem_drop
        rw [hSame, hDowns]
        exact List.mem_append_right _ List.mem_cons_self
      have hEnding : ∀ d ∈ imvDirectory, ¬ ascii ".yim" <:+ d := by decide
      exact hEnding _ hMem (List.suffix_append _ _)
    · rw [resolved_imvPath, Path.Place.within, hDowns, ← List.append_assoc]
      exact ⟨_, last ++ ascii ".yim", rfl, List.suffix_append _ _⟩

/-! ## Result -/

/-- **What is served stays in the directory**, whatever files there are, exactly when the name
in the URL returns to it. -/
theorem imv_contained_iff (conn : MgConnection) :
    (∀ files path, ServesImv files conn path → Contained path) ↔
      (conn.uri = some (ascii "/ycontent/") → ∀ name, ImvName (getFullURL conn) name →
        (resolved (name ++ ascii ".yim")).Returns imvDirectory) := by
  constructor
  · intro hContained hPage name hName
    rw [← contained_imvPath_iff]
    -- the file may be there
    exact hContained (fun _ => some []) _ (servesImv_iff.mpr ⟨hPage, name, hName, rfl, rfl⟩)
  · intro hReturns files path hServes
    obtain ⟨hPage, name, hName, rfl, -⟩ := servesImv_iff.mp hServes
    exact (contained_imvPath_iff name).mpr (hReturns hPage name hName)

/-- A request for a file three directories up. -/
def climbing : MgConnection where
  host := some (ascii "insider.yahoo.com")
  uri := some (ascii "/ycontent/")
  query_string := some (ascii "getimv=../../../secret&x=0")

/-- It is served. -/
theorem imv_not_contained :
    ¬ ∀ (files : Files) (conn : MgConnection) (path : Bytes),
      ServesImv files conn path → Contained path := by
  intro hEvery
  have hFind : (Substring.find (ascii "?getimv=") (getFullURL climbing)).isSome = true := by
    decide +kernel
  have hServed : imvPath (ascii "../../../secret") ∈
      (finalState (onRequest (fun _ => some []) climbing ⟨[], []⟩)).served := by
    decide +kernel
  have hContained := hEvery _ climbing _ ⟨hFind, hServed⟩
  have hAbove : ¬ (resolved (imvPath (ascii "../../../secret"))).Inside imvDirectory := by
    decide +kernel
  exact hAbove hContained.inside

end YahooInsiderWebServer

end Giblet.YahooWeb
