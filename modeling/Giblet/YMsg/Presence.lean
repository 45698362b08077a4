import Giblet.YMsg.Authentication

/-!
# YMsg — the two copies of a user's presence

`MockPresenceManagementLink` keeps the client's presence in its
`PresenceProperties`; each of the client's profiles that is a contact has a
copy of it in its `ContactInfo`. The five calls set both, along different
paths: the properties are replaced as a whole, a contact only in the fields
its `SetContact…` function names.

* `PresenceCall.run_spec` — what a call does to the properties and to every contact.
* `presenceAgrees_step_iff` — the calls after which the copies agree.
* `presenceAgrees_iff` — the runs in which they always do.
-/

namespace Giblet.YMsg

open Effect Run SessionContext MockPresenceManagementLink

/-! ## An event -/

/-- **An event** about a contact changes it and sends the packet about it. -/
theorem PresenceEvents.onContact_run {s : SessionContext} {id : Bytes} {c : ContactInfo}
    (change : ContactInfo → ContactInfo) (message : ContactInfo → Message)
    (hFind : s.contactManager_.contacts_.find? id = some c) :
    onContact (·.setContact id change) message s =
      send (message (change c))
        { s with contactManager_ := ⟨s.contactManager_.contacts_.adjust id change⟩ } := by
  unfold onContact
  rw [bind_run, get_run]
  simp only [ContactManager.setContact, hFind, Option.map_some, bind_run, setContacts, modify_run]

/-- An event about anybody else throws. -/
theorem PresenceEvents.onContact_none {s : SessionContext} {id : Bytes}
    (change : ContactInfo → ContactInfo) (message : ContactInfo → Message)
    (hFind : s.contactManager_.contacts_.find? id = none) :
    onContact (·.setContact id change) message s =
      .error (.runtimeError "Don't know how to handle idle contact not in list") s := by
  unfold onContact
  rw [bind_run, get_run]
  simp only [ContactManager.setContact, hFind, Option.map_none, throw_run]

/-! ## The calls -/

/-- A call of `MockPresenceManagementLink`. -/
inductive PresenceCall
  | setAvailable
  | setIdle (message : Bytes) (isBusy : Bool) (idleUnknown : Bytes)
  | setAway (availability : Availability) (isBusy : Bool)
  | setCustomStatus (message : Bytes) (isBusy : Bool)
  | setInvisible
  deriving DecidableEq

namespace PresenceCall

/-- What the call does. -/
def run : PresenceCall → SessionAction
  | setAvailable => MockPresenceManagementLink.setAvailable
  | setIdle message isBusy idleUnknown =>
    MockPresenceManagementLink.setIdle message isBusy idleUnknown
  | setAway availability isBusy => MockPresenceManagementLink.setAway availability isBusy
  | setCustomStatus message isBusy => MockPresenceManagementLink.setCustomStatus message isBusy
  | setInvisible => MockPresenceManagementLink.setInvisible

/-- The presence it notes. -/
def properties : PresenceCall → PresenceProperties
  | setAvailable => .setAvailable
  | setIdle message isBusy _ => .setIdle message isBusy
  | setAway availability isBusy => .setAway availability isBusy
  | setCustomStatus message isBusy => .setCustomStatus message isBusy
  | setInvisible => .setInvisible

/-- The change it makes to a contact. -/
def change : PresenceCall → ContactInfo → ContactInfo
  -- busy flag and message stay: a difference to the properties, which are replaced
  | setAvailable, c => { c with availability := .Available }
  | setIdle message isBusy idleUnknown, c =>
    { c with
      idleUnknown := idleUnknown
      availability := .Idle
      isBusy := isBusy
      customMessage := message }
  -- the message stays
  | setAway availability isBusy, c => { c with availability := availability, isBusy := isBusy }
  | setCustomStatus message isBusy, c =>
    { c with availability := .Custom, isBusy := isBusy, customMessage := message }
  | setInvisible, c => { c with availability := .Offline }

/-- The packet it sends about a contact, once changed. -/
def notification : PresenceCall → Bytes → ContactInfo → Message
  | setInvisible, profile, _ => .contactOffline profile
  | _, _, c => .updateContactStatus c

/-- All five calls have the same shape. -/
theorem run_eq (call : PresenceCall) : call.run = setPresence call.properties fun profile =>
    PresenceEvents.onContact (·.setContact profile call.change) (call.notification profile) := by
  cases call <;> rfl

/-- Doing it twice is doing it once. -/
theorem change_change (call : PresenceCall) (c : ContactInfo) :
    call.change (call.change c) = call.change c := by
  cases call <;> rfl

/-! ## The loop over the profiles -/

/-- The packet about this profile is too large. -/
def blocks (call : PresenceCall) (m : ContactManager) (profile : Bytes) : Bool :=
  match m.contacts_.find? profile with
  | none => false
  | some c => !decide (call.notification profile (call.change c)).Fits

/-- The profiles the loop gets to: a packet that is too large ends it. -/
def reached (call : PresenceCall) (m : ContactManager) : List Bytes → List Bytes
  | [] => []
  | profile :: rest =>
    -- an exception leaves the loop: the profiles behind this one are not visited
    profile :: if call.blocks m profile then [] else call.reached m rest

/-- The loop's body. -/
def visit (call : PresenceCall) (profile : Bytes) : SessionAction := do
  if (← get).contactManager_.isContact profile then
    PresenceEvents.onContact (·.setContact profile call.change) (call.notification profile)

/-- The session with a profile's contact changed. -/
def changed (call : PresenceCall) (s : SessionContext) (profile : Bytes) : SessionContext :=
  { s with contactManager_ := ⟨s.contactManager_.contacts_.adjust profile call.change⟩ }

theorem visit_run (call : PresenceCall) (profile : Bytes) (s : SessionContext) :
    call.visit profile s =
      match s.contactManager_.contacts_.find? profile with
      | none => .ok () s
      | some c =>
        send (call.notification profile (call.change c)) (call.changed s profile) := by
  unfold visit
  rw [bind_run, get_run]
  dsimp only
  rw [ContactManager.isContact, OrderedMap.contains_eq_isSome]
  cases hFind : s.contactManager_.contacts_.find? profile with
  | none => rfl
  | some c =>
    rw [Option.isSome_some, if_pos rfl, PresenceEvents.onContact_run call.change _ hFind]
    rfl

/-- What a profile's packet says does not change when contacts are changed by the same call. -/
theorem blocks_changed (call : PresenceCall) (s : SessionContext) (profile : Bytes) :
    call.blocks (call.changed s profile).contactManager_ = call.blocks s.contactManager_ := by
  funext other
  simp only [blocks, changed, OrderedMap.find?_adjust]
  by_cases hSame : other = profile
  · rw [if_pos hSame]
    cases s.contactManager_.contacts_.find? other with
    | none => rfl
    | some c => simp only [Option.map_some, change_change]
  · rw [if_neg hSame]

theorem reached_congr {call : PresenceCall} {m m' : ContactManager}
    (h : call.blocks m = call.blocks m') : call.reached m = call.reached m' := by
  funext profiles
  induction profiles with
  | nil => rfl
  | cons profile rest ih => rw [reached, reached, h, ih]

/-- What a call leaves of a session: the contacts it reached are changed, the
managers and the presence are otherwise as before. -/
structure Leaves (call : PresenceCall) (s : SessionContext) (reached : List Bytes)
    (s' : SessionContext) : Prop where
  properties : s'.properties_ = s.properties_
  profiles : s'.profileManager_ = s.profileManager_
  contacts : ∀ id, s'.contactManager_.contacts_.find? id =
    if id ∈ reached then (s.contactManager_.contacts_.find? id).map call.change
    else s.contactManager_.contacts_.find? id

/-- A call that went on after a contact was changed. -/
theorem Leaves.cons {call : PresenceCall} {s s' : SessionContext} {profile : Bytes}
    {rest : List Bytes} {m : Message}
    (h : call.Leaves ((call.changed s profile).push m) rest s') :
    call.Leaves s (profile :: rest) s' where
  properties := h.properties
  profiles := h.profiles
  contacts id := by
    rw [h.contacts]
    show (if id ∈ rest then
      ((s.contactManager_.contacts_.adjust profile call.change).find? id).map call.change
      else (s.contactManager_.contacts_.adjust profile call.change).find? id) = _
    rw [OrderedMap.find?_adjust]
    simp only [List.mem_cons]
    cases s.contactManager_.contacts_.find? id with
    | none => split_ifs <;> rfl
    | some c =>
      -- a profile that occurs twice is changed twice, which is changing it once
      by_cases hSame : id = profile
      · simp only [hSame, if_true, true_or, Option.map_some, change_change, ite_self]
      · simp only [hSame, if_false, false_or]

/-- **The loop**: it changes the contacts it reaches. -/
theorem visit_leaves (call : PresenceCall) (profiles : List Bytes) (s : SessionContext) :
    call.Leaves s (call.reached s.contactManager_ profiles)
      (finalState (profiles.forM call.visit s)) := by
  induction profiles generalizing s with
  | nil => exact ⟨rfl, rfl, fun id => (if_neg List.not_mem_nil).symm⟩
  | cons profile rest ih =>
    show call.Leaves s _ (finalState ((do call.visit profile; rest.forM call.visit) s))
    rw [bind_run, visit_run, reached, blocks]
    cases hFind : s.contactManager_.contacts_.find? profile with
    | none =>
      -- not a contact: the loop goes on, and nothing is there to be changed
      obtain ⟨hProperties, hProfiles, hContacts⟩ := ih s
      refine ⟨hProperties, hProfiles, fun id => ?_⟩
      simp only [Bool.false_eq_true, if_false, List.mem_cons]
      rw [hContacts]
      by_cases hSame : id = profile
      · rw [hSame, hFind]
        split_ifs <;> rfl
      · simp only [hSame, false_or]
    | some c =>
      dsimp only
      rw [send_run]
      by_cases hFits : (call.notification profile (call.change c)).Fits
      -- the profile's packet fits: the loop goes on, and what blocks it has not changed
      · simp only [if_pos hFits, decide_eq_true hFits, Bool.not_true, Bool.false_eq_true, if_false]
        rw [← reached_congr (blocks_changed call s profile)]
        exact (ih ((call.changed s profile).push _)).cons
      -- the contact is changed, and the packet about it ends the loop
      · simp only [if_neg hFits, decide_eq_false hFits, Bool.not_false, if_true, finalState_error]
        refine ⟨rfl, rfl, fun id => ?_⟩
        simp only [List.mem_singleton]
        exact (OrderedMap.find?_adjust s.contactManager_.contacts_ profile id call.change).trans
          (by congr)

/-- The packets about the profiles that are contacts. -/
def notices (call : PresenceCall) (m : ContactManager) (profiles : List Bytes) : List Message :=
  profiles.filterMap fun profile =>
    (m.contacts_.find? profile).map fun c => call.notification profile (call.change c)

/-- They do not change when contacts are changed by the same call. -/
theorem notices_changed (call : PresenceCall) (s : SessionContext) (profile : Bytes) :
    call.notices (call.changed s profile).contactManager_ = call.notices s.contactManager_ := by
  funext profiles
  refine List.filterMap_congr fun other _ => ?_
  simp only [changed, OrderedMap.find?_adjust]
  by_cases hSame : other = profile
  · rw [if_pos hSame, Option.map_map]
    refine congrArg (fun f => Option.map f _) (funext fun c => ?_)
    simp only [Function.comp, change_change]
  · rw [if_neg hSame]

/-- **What the loop sends**: the packets before the first one that is too large. -/
theorem visit_sends (call : PresenceCall) (profiles : List Bytes) (s : SessionContext) :
    (finalState (profiles.forM call.visit s)).connection_ =
        ((call.notices s.contactManager_ profiles).takeWhile fun m => decide m.Fits).foldl
          ClientConnection.push s.connection_ ∧
      (returned (profiles.forM call.visit s) = true ↔
        ∀ m ∈ call.notices s.contactManager_ profiles, m.Fits) := by
  induction profiles generalizing s with
  | nil => exact ⟨rfl, iff_of_true rfl fun _ h => absurd h List.not_mem_nil⟩
  | cons profile rest ih =>
    show (finalState ((do call.visit profile; rest.forM call.visit) s)).connection_ = _ ∧
      (returned ((do call.visit profile; rest.forM call.visit) s) = true ↔ _)
    rw [bind_run, visit_run]
    cases hFind : s.contactManager_.contacts_.find? profile with
    | none =>
      -- not a contact: nothing is said about it
      have hNotices : call.notices s.contactManager_ (profile :: rest) =
          call.notices s.contactManager_ rest := by
        rw [notices, List.filterMap_cons, hFind]
        rfl
      rw [hNotices]
      exact ih s
    | some c =>
      have hNotices : call.notices s.contactManager_ (profile :: rest) =
          call.notification profile (call.change c) :: call.notices s.contactManager_ rest := by
        rw [notices, List.filterMap_cons, hFind]
        rfl
      dsimp only
      rw [hNotices, send_run, List.takeWhile_cons, List.forall_mem_cons]
      by_cases hFits : (call.notification profile (call.change c)).Fits
      · have hRest := ih ((call.changed s profile).push
          (call.notification profile (call.change c)))
        simp only [hFits, decide_true, if_true, true_and]
        rw [← notices_changed call s profile]
        exact hRest
      -- the packet ends the loop
      · simp only [hFits, decide_false, Bool.false_eq_true, if_false]
        exact ⟨rfl, iff_of_false (by simp [returned]) fun h => h.1⟩

/-- Nothing blocks the loop when all its packets fit. -/
theorem reached_of_fits {call : PresenceCall} {m : ContactManager} {profiles : List Bytes}
    (h : ∀ notice ∈ call.notices m profiles, notice.Fits) : call.reached m profiles = profiles := by
  induction profiles with
  | nil => rfl
  | cons profile rest ih =>
    rw [notices, List.filterMap_cons] at h
    rw [reached, blocks]
    cases hFind : m.contacts_.find? profile with
    | none =>
      rw [hFind] at h
      exact congrArg _ (ih h)
    | some c =>
      rw [hFind, Option.map_some, List.forall_mem_cons] at h
      simp only [decide_eq_true h.1, Bool.not_true, Bool.false_eq_true, if_false]
      exact congrArg _ (ih h.2)

/-- **What a call does.** -/
theorem run_spec (call : PresenceCall) (s : SessionContext) :
    call.Leaves { s with properties_ := call.properties }
      (call.reached s.contactManager_ s.profileManager_.profiles_) (finalState (call.run s)) := by
  rw [run_eq]
  exact visit_leaves call s.profileManager_.profiles_ { s with properties_ := call.properties }

/-- **What a call sends**, and when it returns. -/
theorem run_sends (call : PresenceCall) (s : SessionContext) :
    (finalState (call.run s)).connection_ =
        ((call.notices s.contactManager_ s.profileManager_.profiles_).takeWhile fun m =>
          decide m.Fits).foldl ClientConnection.push s.connection_ ∧
      (returned (call.run s) = true ↔
        ∀ m ∈ call.notices s.contactManager_ s.profileManager_.profiles_, m.Fits) := by
  rw [run_eq]
  exact visit_sends call s.profileManager_.profiles_ { s with properties_ := call.properties }

end PresenceCall

/-! ## Agreement -/

/-- What contacts show of an availability: invisible users look offline. -/
def Availability.shown (availability : Availability) : Availability :=
  if availability = .Invisible then .Offline else availability

/-- A contact says what the presence says. -/
structure Agrees (p : PresenceProperties) (c : ContactInfo) : Prop where
  availability : c.availability = p.availability_.shown
  isBusy : c.isBusy = p.busy_
  customMessage : p.availability_ = .Custom → c.customMessage = p.message_

/-- Each of the client's profiles that is a contact agrees with the link's properties. -/
def SessionContext.PresenceAgrees (s : SessionContext) : Prop :=
  ∀ profile ∈ s.profileManager_.profiles_, ∀ c,
    s.contactManager_.contacts_.find? profile = some c → Agrees s.properties_ c

/-- What a call relies on to leave a contact as it leaves the presence. -/
def PresenceCall.ReliesOn : PresenceCall → ContactInfo → Prop
  | setAvailable, c => c.isBusy = false
  | setInvisible, c => c.isBusy = false
  | setAway availability _, c =>
    availability ≠ .Invisible ∧ (availability = .Custom → c.customMessage = [])
  | setIdle _ _ _, _ => True
  | setCustomStatus _ _, _ => True

/-- Each path resets a different subset of the fields; what it does not reset has to be
right already. -/
theorem PresenceCall.agrees_change_iff (call : PresenceCall) (c : ContactInfo) :
    Agrees call.properties (call.change c) ↔ call.ReliesOn c := by
  cases call with
  -- the flag is the old one
  | setAvailable => exact ⟨fun h => h.isBusy, fun h => ⟨rfl, h, fun h => by cases h⟩⟩
  -- all three fields are set
  | setIdle message isBusy idleUnknown =>
    exact ⟨fun _ => trivial, fun _ => ⟨rfl, rfl, fun _ => rfl⟩⟩
  | setCustomStatus message isBusy => exact ⟨fun _ => trivial, fun _ => ⟨rfl, rfl, fun _ => rfl⟩⟩
  | setInvisible => exact ⟨fun h => h.isBusy, fun h => ⟨rfl, h, fun h => by cases h⟩⟩
  -- the availability is shown as it is, and the message is the old one
  | setAway availability isBusy =>
    constructor
    · intro h
      refine ⟨fun hInvisible => ?_, h.customMessage⟩
      have hShown := h.availability
      subst hInvisible
      cases hShown
    · intro h
      exact ⟨(if_neg h.1).symm, rfl, h.2⟩

/-- The copies will agree after the call: what it changes it can rely on, and
what it does not get to shows the new presence already. -/
def SessionContext.Allows (s : SessionContext) (call : PresenceCall) : Prop :=
  ∀ profile ∈ s.profileManager_.profiles_, ∀ c,
    s.contactManager_.contacts_.find? profile = some c →
      if profile ∈ call.reached s.contactManager_ s.profileManager_.profiles_ then call.ReliesOn c
      else Agrees call.properties c

/-- **One call.** Whether the copies agree after it depends on the state before it alone. -/
theorem presenceAgrees_step_iff (call : PresenceCall) (s : SessionContext) :
    (finalState (call.run s)).PresenceAgrees ↔ s.Allows call := by
  obtain ⟨hProperties, hProfiles, hContacts⟩ := call.run_spec s
  unfold PresenceAgrees Allows
  rw [hProperties, hProfiles]
  refine forall₂_congr fun profile hProfile => ?_
  simp only [hContacts]
  by_cases hReached : profile ∈ call.reached s.contactManager_ s.profileManager_.profiles_
  -- a contact the loop reached agrees if its change does
  · simp only [if_pos hReached, ← call.agrees_change_iff]
    constructor
    · intro h c hFind
      exact h _ (by rw [hFind]; rfl)
    · intro h c hFind
      obtain ⟨c₀, hFind₀, rfl⟩ := Option.map_eq_some_iff.mp hFind
      exact h c₀ hFind₀
  · simp only [if_neg hReached]

/-! ## Runs -/

/-- A call returns, or throws. -/
def PresenceStep (s : SessionContext) (call : PresenceCall) (s' : SessionContext) : Prop :=
  s' = finalState (call.run s)

/-- The link has an initial availability, and the profiles that are contacts
were loaded with it. -/
def PresenceLoaded (s : SessionContext) : Prop :=
  ∃ initialAvailability, s.properties_ = .new initialAvailability ∧
    ∀ profile ∈ s.profileManager_.profiles_, ∀ c,
      s.contactManager_.contacts_.find? profile = some c →
        c.availability = initialAvailability ∧ c.isBusy = false ∧ c.customMessage = []

/-- The client is visible, or none of its profiles is a contact. -/
def SessionContext.StartsShown (s : SessionContext) : Prop :=
  s.properties_.availability_ = .Invisible → ∀ profile ∈ s.profileManager_.profiles_,
    s.contactManager_.contacts_.find? profile = none

/-- Contacts are loaded with the availability itself, not with what contacts show of it. -/
theorem PresenceLoaded.agrees_iff {s : SessionContext} (h : PresenceLoaded s) :
    s.PresenceAgrees ↔ s.StartsShown := by
  obtain ⟨initialAvailability, hProperties, hContacts⟩ := h
  unfold PresenceAgrees StartsShown
  rw [hProperties]
  constructor
  · intro hAgrees hInvisible profile hProfile
    cases hFind : s.contactManager_.contacts_.find? profile with
    | none => rfl
    | some c =>
      have hInvisible : initialAvailability = .Invisible := hInvisible
      -- an invisible client's contacts would have to be loaded as Offline
      have hShown := (hAgrees profile hProfile c hFind).availability
      rw [(hContacts profile hProfile c hFind).1, hInvisible] at hShown
      cases hShown
  · intro hShown profile hProfile c hFind
    obtain ⟨hAvailability, hBusy, hMessage⟩ := hContacts profile hProfile c hFind
    have hVisible : initialAvailability ≠ .Invisible := by
      intro hInvisible
      rw [hShown hInvisible profile hProfile] at hFind
      cases hFind
    exact ⟨hAvailability.trans (if_neg hVisible).symm, hBusy, fun _ => hMessage⟩

/-- The mock server starts its sessions so. -/
theorem newSession_presenceLoaded {env : Env} {handler : AuthenticationHandler}
    {contactManager : ContactManager}
    (hLoad : MockAuthenticationHandler.loadContacts
      (MockAuthenticationHandler.initialContacts env handler.initialAvailability_) =
        .ok contactManager)
    (connection : ClientConnection) (sessionId : UInt32) :
    PresenceLoaded
      (MockAuthenticationHandler.newSession handler contactManager connection sessionId) := by
  refine ⟨handler.initialAvailability_, rfl, ?_⟩
  intro profile hProfile c hFind
  obtain ⟨m, hLoad', hMem⟩ := MockAuthenticationHandler.loadContacts_initialContacts env
    handler.initialAvailability_
  obtain rfl : contactManager = m := Except.ok.inj (hLoad.symm.trans hLoad')
  have hId : c.id = profile := (MockAuthenticationHandler.loadContacts_keyed hLoad).find? hFind
  have hLoaded : c ∈ MockAuthenticationHandler.initialContacts env handler.initialAvailability_ :=
    (hMem c).mp (List.mem_map_of_mem (OrderedMap.mem_entries_of_find? hFind))
  simp only [MockAuthenticationHandler.initialContacts, List.mem_cons, List.not_mem_nil,
    or_false] at hLoaded
  subst hId
  rcases hLoaded with rfl | rfl | rfl | rfl | rfl | rfl | rfl
  -- jay, donna and david are nobody's profile, the other four may be
  · exact absurd hProfile
      (show ascii "jay" ∉ MockAuthenticationHandler.initialProfiles by decide)
  · exact absurd hProfile
      (show ascii "donna" ∉ MockAuthenticationHandler.initialProfiles by decide)
  · exact absurd hProfile
      (show ascii "david" ∉ MockAuthenticationHandler.initialProfiles by decide)
  all_goals exact ⟨rfl, rfl, rfl⟩

/-- **The copies agree in every state of a run** exactly when they do so at the start, and
each call is made in a state that allows it. -/
theorem presenceAgrees_iff {s₀ : SessionContext} (hLoaded : PresenceLoaded s₀)
    (calls : List PresenceCall) :
    (∀ history rest s, calls = history ++ rest → Runs PresenceStep s₀ history s →
        s.PresenceAgrees) ↔
      s₀.StartsShown ∧ ∀ history call rest s, calls = history ++ call :: rest →
        Runs PresenceStep s₀ history s → s.Allows call := by
  have hAlways (hStart : s₀.PresenceAgrees) := @Runs.always_iff _ _ PresenceStep
    PresenceAgrees Allows s₀ calls hStart (fun s call t _ hStep => by
      rw [hStep]
      exact presenceAgrees_step_iff call s) fun _ _ _ _ _ _ => ⟨_, rfl⟩
  constructor
  · intro hAgrees
    have hStart := hAgrees [] calls s₀ rfl (.nil s₀)
    exact ⟨hLoaded.agrees_iff.mp hStart, (hAlways hStart).mp hAgrees⟩
  · intro ⟨hStart, hAllowed⟩
    exact (hAlways (hLoaded.agrees_iff.mpr hStart)).mpr hAllowed

/-- The mock server's session for a client that logged in visibly. -/
def visibleSession : SessionContext :=
  MockAuthenticationHandler.newSession ⟨ascii "a", .Available⟩
    (match MockAuthenticationHandler.loadContacts
        (MockAuthenticationHandler.initialContacts .zeros .Available) with
      | .ok contactManager => contactManager
      | .error _ => ⟨.empty⟩)
    (.new 0 0) 0

theorem visibleSession_presenceLoaded : PresenceLoaded visibleSession := by
  obtain ⟨m, hLoad, -⟩ :=
    MockAuthenticationHandler.loadContacts_initialContacts .zeros .Available
  unfold visibleSession
  rw [hLoad]
  exact @newSession_presenceLoaded _ ⟨ascii "a", .Available⟩ _ hLoad _ _

theorem presenceAgrees_visibleSession :
    (∀ history rest s, [PresenceCall.setInvisible] = history ++ rest →
        Runs PresenceStep visibleSession history s → s.PresenceAgrees) ↔
      visibleSession.StartsShown ∧ ∀ history call rest s,
        [PresenceCall.setInvisible] = history ++ call :: rest →
        Runs PresenceStep visibleSession history s → s.Allows call :=
  presenceAgrees_iff visibleSession_presenceLoaded _

/-- The session after its client was busy, and became available. -/
def availableAgain : SessionContext :=
  finalState (PresenceCall.setAvailable.run
    (finalState ((PresenceCall.setAway .Busy true).run visibleSession)))

/-- Such a client is still busy in its own contacts. -/
theorem presence_stays_busy :
    ¬ ∀ s₀ calls s, PresenceLoaded s₀ → Runs PresenceStep s₀ calls s → s.PresenceAgrees := by
  intro hAll
  -- busy first, available again afterwards
  have hRun : Runs PresenceStep visibleSession
      ([.setAway .Busy true] ++ [.setAvailable]) availableAgain :=
    .snoc (.one rfl) rfl
  have hAgrees := hAll _ _ _ visibleSession_presenceLoaded hRun
  have hProfile : ascii "winky" ∈ availableAgain.profileManager_.profiles_ := by decide +kernel
  have hBusy : (availableAgain.contactManager_.contacts_.find? (ascii "winky")).map
      ContactInfo.isBusy = some true := by decide +kernel
  obtain ⟨c, hFind, hContact⟩ := Option.map_eq_some_iff.mp hBusy
  have hSame : c.isBusy = availableAgain.properties_.busy_ :=
    (hAgrees _ hProfile c hFind).isBusy
  have hFree : availableAgain.properties_.busy_ = false := by decide +kernel
  rw [hContact, hFree] at hSame
  cases hSame

end Giblet.YMsg
