import Giblet.YMsg.Authentication

/-!
# YMsg — a packet means only its own bytes

Whether what a V11 packet does depends on the bytes that come after it in the
receive buffer. Twelve services never look there. The other four — the two
kinds of message, service operations and `SetAway` — hand `data()` of a view
to a C string function, which stops at a byte of its own choosing.

`SelfContained` says when every conversion a packet leads to stops inside the
payload. `dispatchPacket_isolated_iff` is the result: this is exactly when
the packet means only its own bytes.
-/

namespace Giblet.YMsg

open Effect PacketParser Run

variable {π : Type}

/-! ## When the conversions stop -/

/-- Every encoding that is converted stops inside the payload. A null value
ends the process, so nothing after it is converted. -/
def EncodingsStop : List Token → Prop
  | [] => True
  | t :: ts =>
    if t.key = 97 then AtoiStops t.value ∧ (t.value ≠ .null → EncodingsStop ts)
    else EncodingsStop ts

/-- The payload object of a `ServiceOperation` packet. -/
def serviceOperationFields (payload : Bytes) : Payloads.ServiceOperation :=
  (finalState (parse Payloads.ServiceOperation.onKeyPair payload {}))

/-- The payload object of a `SetAway` packet. -/
def setAwayFields (payload : Bytes) : Payloads.SetAway :=
  (finalState (parse Payloads.SetAway.onKeyPair payload {}))

/-- The conversions that a packet of this service leads to stop inside its payload. -/
def SelfContained : V11.Service → Bytes → Prop
  | .privateMessage, payload => EncodingsStop (tokens payload).1
  | .massPrivateMessage, payload => EncodingsStop (tokens payload).1
  | .serviceOperation, payload =>
    (tokens payload).2 = none →
      (serviceOperationFields payload).operation.chars = ascii "TYPING" →
        AtoiStops (serviceOperationFields payload).action
  | .setAway, payload =>
    (tokens payload).2 = none →
      AtoiStops (setAwayFields payload).statusId ∧
        ∀ code, toEnum [] (setAwayFields payload).statusId = .ok code →
          (⟨code⟩ : Availability) ≠ .Invisible →
          (setAwayFields payload).busyState.chars ≠ [] →
            StolStops (setAwayFields payload).busyState
  | _, _ => True

/-- The fault of a conversion that ran past the end of the receive buffer. -/
def overread : Fault := .undefined .overread

/-- An outcome other than reading past the end of the buffer. -/
def Bounded {σ α : Type} (r : EStateM.Result Fault σ α) : Prop := ∀ s, r ≠ .error overread s

theorem Bounded.of_thrown {x : SessionAction} (h : Faults Fault.Thrown x) (s : SessionContext) :
    Bounded (x s) := by
  intro s' hRun
  exact h s overread s' hRun

/-- How the results below are proved: under `C` the buffer does not matter;
without it, a buffer that ends with the packet is read past its end, and one
that goes on with a NUL is not. -/
theorem isolated_iff {x : Bytes → SessionAction} {C : Prop} {s : SessionContext}
    (hStops : C → ∀ following, x following s = x [] s)
    (hOverreads : ¬ C → x [] s = .error overread s) (hBounded : Bounded (x [0] s)) :
    (∀ following₁ following₂, x following₁ s = x following₂ s) ↔ C := by
  constructor
  · intro hAll
    by_contra hC
    exact hBounded s (by rw [hAll [0] [], hOverreads hC])
  · intro hC following₁ following₂
    rw [hStops hC following₁, hStops hC following₂]

/-! ## Messages -/

theorem toEnum_zero_ne (value : StringView) : toEnum [0] value ≠ .error overread := by
  cases value with
  | null => simp [toEnum, atoi, StringView.memory, overread]
  | view chars beyond =>
    -- the NUL ends the number at the latest
    obtain ⟨scanned, hScan⟩ :=
      Option.isSome_iff_exists.mp (Numeral.scan_terminated_isSome (chars ++ beyond) [])
    simp only [toEnum, atoi, StringView.memory, hScan]
    simp

/-- Tokens whose encodings stop inside the payload are stored alike in every buffer. -/
theorem deliver_assignEncoding_stops (setEncoding : TextEncoding → π → π)
    (members : List (Int32 × (StringView → π → π))) (following : Bytes) {ts : List Token}
    (h : EncodingsStop ts) (e : Option Fault) (fields : π) :
    deliver (assignEncoding setEncoding members following) ts e fields =
      deliver (assignEncoding setEncoding members []) ts e fields := by
  -- on the tokens: the encodings are converted, the others stored as they are
  induction ts generalizing fields with
  | nil => cases e <;> rfl
  | cons t ts ih =>
    simp only [deliver, bind_run, assignEncoding]
    unfold EncodingsStop at h
    by_cases hKey : t.key = 97
    · rw [if_pos hKey] at h
      simp only [if_pos hKey, toEnum]
      rw [atoi_append h.1 following]
      cases hValue : t.value with
      -- converting a null pointer ends the process: nothing after it matters
      | null => rfl
      | view chars beyond =>
        have hRest := h.2 (by rw [hValue]; simp)
        cases atoi [] (.view chars beyond) with
        | error fault => rfl
        | ok code => exact ih hRest _
    · rw [if_neg hKey] at h
      simp only [if_neg hKey, assignMember, modify_run]
      exact ih h _

/-- Otherwise the buffer without anything after the packet is read past its end. -/
theorem deliver_assignEncoding_overreads (setEncoding : TextEncoding → π → π)
    (members : List (Int32 × (StringView → π → π))) {ts : List Token}
    (h : ¬ EncodingsStop ts) (e : Option Fault) (fields : π) :
    ∃ fields', deliver (assignEncoding setEncoding members []) ts e fields =
      .error overread fields' := by
  induction ts generalizing fields with
  | nil => exact absurd trivial h
  | cons t ts ih =>
    simp only [deliver, bind_run, assignEncoding]
    unfold EncodingsStop at h
    by_cases hKey : t.key = 97
    · rw [if_pos hKey] at h
      simp only [if_pos hKey, toEnum]
      -- this one stops, and a later one does not
      by_cases hStops : AtoiStops t.value
      · have hRest : t.value ≠ .null ∧ ¬ EncodingsStop ts := by
          refine ⟨?_, ?_⟩
          · intro hNull
            exact h ⟨hStops, fun hNe => absurd hNull hNe⟩
          · intro hTail
            exact h ⟨hStops, fun _ => hTail⟩
        -- a conversion that stops at a byte of the payload gives a number
        obtain ⟨code, hCode⟩ : ∃ code, atoi [] t.value = .ok code := by
          cases hValue : t.value with
          | null => exact absurd hValue hRest.1
          | view chars beyond =>
            rw [hValue] at hStops
            obtain ⟨scanned, hScan⟩ := Option.isSome_iff_exists.mp hStops
            exact ⟨clampLong scanned.value, by
              simp only [atoi, StringView.memory, List.append_nil, hScan]⟩
        rw [hCode]
        exact ih hRest.2 _
      · rw [(atoi_differs hStops).1]
        exact ⟨fields, rfl⟩
    · rw [if_neg hKey] at h
      simp only [if_neg hKey, assignMember, modify_run]
      exact ih h _

/-- With a NUL after the packet, it never is. -/
theorem deliver_assignEncoding_bounded (setEncoding : TextEncoding → π → π)
    (members : List (Int32 × (StringView → π → π))) (ts : List Token) {e : Option Fault}
    (he : e ≠ some overread) (fields : π) :
    Bounded (deliver (assignEncoding setEncoding members [0]) ts e fields) := by
  induction ts generalizing fields with
  | nil =>
    intro fields' hEq
    cases e with
    | none => simp [deliver, pure_run] at hEq
    | some fault =>
      simp only [deliver, throw_run, EStateM.Result.error.injEq] at hEq
      exact he (by rw [hEq.1])
  | cons t ts ih =>
    simp only [deliver, bind_run, assignEncoding]
    by_cases hKey : t.key = 97
    · simp only [if_pos hKey]
      cases hCode : toEnum [0] t.value with
      | error fault =>
        intro fields' hEq
        simp only [throw_run, EStateM.Result.error.injEq] at hEq
        exact toEnum_zero_ne t.value (by rw [hCode, hEq.1])
      | ok code => exact ih _
    · simp only [if_neg hKey, assignMember, modify_run]
      exact ih _

theorem tokens_fault_ne (payload : Bytes) : (tokens payload).2 ≠ some overread := by
  intro h
  simpa [overread] using tokens_fault h

/-- The two message services, in one statement. -/
theorem message_isolated_iff (setEncoding : TextEncoding → π → π)
    (members : List (Int32 × (StringView → π → π))) (fields : π) {process : π → SessionAction}
    (hProcess : ∀ f, Faults Fault.Thrown (process f)) (payload : Bytes) (s : SessionContext) :
    (∀ following₁ following₂,
      processPacket fields (assignEncoding setEncoding members following₁) process payload s =
        processPacket fields (assignEncoding setEncoding members following₂) process payload s) ↔
      EncodingsStop (tokens payload).1 := by
  -- the processor itself never looks at the buffer
  refine isolated_iff
    (x := fun following =>
      processPacket fields (assignEncoding setEncoding members following) process payload)
    ?_ ?_ ?_
  · intro hStops following
    simp only [processPacket, parse_eq_tokens]
    rw [deliver_assignEncoding_stops setEncoding members following hStops]
  · intro hStops
    obtain ⟨fields', hOver⟩ := deliver_assignEncoding_overreads setEncoding members hStops
      (tokens payload).2 fields
    simp only [processPacket, parse_eq_tokens, hOver]
  · intro s'
    simp only [processPacket, parse_eq_tokens]
    have hBounded := deliver_assignEncoding_bounded setEncoding members (tokens payload).1
      (tokens_fault_ne payload) fields
    cases hRun : deliver (assignEncoding setEncoding members [0]) (tokens payload).1
        (tokens payload).2 fields with
    | ok _ f => exact Bounded.of_thrown (hProcess f) s s'
    | error fault f =>
      intro hEq
      simp only [EStateM.Result.error.injEq] at hEq
      exact hBounded f (by rw [hRun, hEq.1])

/-! ## Service operations -/

/-- A payload object with a table of members does not depend on the buffer. -/
theorem processPacket_assignMember (members : List (Int32 × (StringView → π → π))) (fields : π)
    (process : π → SessionAction) (payload : Bytes) (s : SessionContext) :
    processPacket fields (assignMember members) process payload s =
      match (tokens payload).2 with
      | some e => .error e s
      | none => process (finalState (parse (assignMember members) payload fields)) s := by
  rw [processPacket, parse_assignMember]
  cases (tokens payload).2 <;> rfl

theorem serviceOperation_isolated_iff (env : Env) (payload : Bytes) (s : SessionContext) :
    (∀ following₁ following₂, V11.parse env .serviceOperation payload following₁ s =
      V11.parse env .serviceOperation payload following₂ s) ↔
      SelfContained .serviceOperation payload := by
  have hParse (following : Bytes) : V11.parse env .serviceOperation payload following s =
      match (tokens payload).2 with
      | some e => .error e s
      | none => Processors.serviceOperation following (serviceOperationFields payload) s :=
    processPacket_assignMember ..
  simp only [hParse, SelfContained]
  cases (tokens payload).2 with
  | some e => simp
  | none =>
    simp only [true_implies]
    generalize serviceOperationFields payload = fields
    -- only the action is converted, and only for `TYPING`
    refine isolated_iff (x := fun following => Processors.serviceOperation following fields)
      ?_ ?_ ?_
    · intro hStops following
      simp only [Processors.serviceOperation, toEnum]
      split
      · rename_i hTyping
        rw [atoi_append (hStops hTyping) following]
      · rfl
    · intro hStops
      obtain ⟨hTyping, hAction⟩ := Classical.not_imp.mp hStops
      simp only [Processors.serviceOperation, toEnum, if_pos hTyping, (atoi_differs hAction).1]
      rfl
    · simp only [Processors.serviceOperation]
      split
      · cases hCode : toEnum [0] fields.action with
        | error fault =>
          intro s' hEq
          simp only [throw_run, EStateM.Result.error.injEq] at hEq
          exact toEnum_zero_ne fields.action (by rw [hCode, hEq.1])
        | ok code => exact Bounded.of_thrown (SessionContext.send_thrown _) s
      · intro s' hEq
        cases hEq

/-! ## SetAway -/

theorem stol_zero_ne (value : StringView) : stol [0] value ≠ .error overread := by
  -- without a NUL of its own it meets the one behind the packet
  by_cases hStops : StolStops value
  · cases value with
    | null => simp [stol, StringView.memory, overread]
    | view chars beyond =>
      have hMem : (0 : UInt8) ∈ chars ++ beyond ++ [0] := by simp
      obtain ⟨scanned, hScan⟩ := Option.isSome_iff_exists.mp
        (Numeral.scan_terminated_isSome ((chars ++ beyond ++ [0]).takeWhile (· ≠ 0)) [])
      simp only [stol, StringView.memory, if_pos hMem, hScan]
      split_ifs <;> simp [overread]
  · exact (stol_differs hStops).2

theorem busyFlag_append {busyState : StringView}
    (h : busyState.chars ≠ [] → StolStops busyState) (following : Bytes) :
    Processors.busyFlag following busyState = Processors.busyFlag [] busyState := by
  unfold Processors.busyFlag
  split
  · rfl
  · rename_i hChars
    rw [stol_append (h hChars)]

theorem busyFlag_zero_ne (busyState : StringView) :
    Processors.busyFlag [0] busyState ≠ .error overread := by
  intro h
  unfold Processors.busyFlag at h
  split at h
  · cases h
  · cases hStol : stol [0] busyState with
    | error fault =>
      rw [hStol] at h
      exact stol_zero_ne busyState (by rw [hStol, Except.error.inj h])
    | ok n =>
      rw [hStol] at h
      cases h

/-- The presence operations `SetAway` chooses from throw or return. -/
theorem setPresence_onContact_bounded (properties : PresenceProperties)
    (change : Bytes → ContactManager → Option (ContactInfo × ContactManager))
    (message : Bytes → ContactInfo → Message) (s : SessionContext) :
    Bounded (MockPresenceManagementLink.setPresence properties
      (fun id => PresenceEvents.onContact (change id) (message id)) s) :=
  Bounded.of_thrown (MockPresenceManagementLink.setPresence_thrown _ fun _ =>
    PresenceEvents.onContact_thrown _ _) s

theorem setAway_zero_bounded (fields : Payloads.SetAway) (s : SessionContext) :
    Bounded (Processors.setAway [0] fields s) := by
  unfold Processors.setAway
  cases hCode : toEnum [0] fields.statusId with
  | error fault =>
    intro s' hEq
    simp only [throw_run, EStateM.Result.error.injEq] at hEq
    exact toEnum_zero_ne fields.statusId (by rw [hCode, hEq.1])
  | ok code =>
    simp only
    split
    · exact setPresence_onContact_bounded _ _ _ s
    · cases hBusy : Processors.busyFlag [0] fields.busyState with
      | error fault =>
        intro s' hEq
        simp only [throw_run, EStateM.Result.error.injEq] at hEq
        exact busyFlag_zero_ne fields.busyState (by rw [hBusy, hEq.1])
      | ok isBusy =>
        simp only
        -- each status ends in one of the presence operations
        split_ifs
        · exact setPresence_onContact_bounded _ _ _ s
        · exact setPresence_onContact_bounded _ _ _ s
        · exact setPresence_onContact_bounded _ _ _ s

theorem setAway_isolated_iff (env : Env) (payload : Bytes) (s : SessionContext) :
    (∀ following₁ following₂, V11.parse env .setAway payload following₁ s =
      V11.parse env .setAway payload following₂ s) ↔ SelfContained .setAway payload := by
  have hParse (following : Bytes) : V11.parse env .setAway payload following s =
      match (tokens payload).2 with
      | some e => .error e s
      | none => Processors.setAway following (setAwayFields payload) s :=
    processPacket_assignMember ..
  simp only [hParse, SelfContained]
  cases (tokens payload).2 with
  | some e => simp
  | none =>
    simp only [true_implies]
    generalize setAwayFields payload = fields
    -- the status is converted first, the busy state of a visible client after it
    refine isolated_iff (x := fun following => Processors.setAway following fields)
      ?_ ?_ (setAway_zero_bounded fields s)
    · rintro ⟨hStatus, hBusy⟩ following
      have hCode : toEnum following fields.statusId = toEnum [] fields.statusId :=
        atoi_append hStatus following
      unfold Processors.setAway
      rw [hCode]
      cases hStatusCode : toEnum [] fields.statusId with
      | error fault => rfl
      | ok code =>
        simp only
        split
        · rfl
        · rename_i hVisible
          rw [busyFlag_append (hBusy code hStatusCode hVisible) following]
    · intro hStops
      unfold Processors.setAway
      by_cases hStatus : AtoiStops fields.statusId
      · -- the status stops, so it is the busy state that does not
        have hBusy : ∃ code, toEnum [] fields.statusId = .ok code ∧
            (⟨code⟩ : Availability) ≠ .Invisible ∧ fields.busyState.chars ≠ [] ∧
            ¬ StolStops fields.busyState := by
          by_contra hNone
          refine hStops ⟨hStatus, fun code hCode hVisible hChars => ?_⟩
          by_contra hStol
          exact hNone ⟨code, hCode, hVisible, hChars, hStol⟩
        obtain ⟨code, hCode, hVisible, hChars, hStol⟩ := hBusy
        simp only [hCode, if_neg hVisible, Processors.busyFlag, if_neg hChars,
          (stol_differs hStol).1]
        rfl
      · have hOver : toEnum [] fields.statusId = .error overread := (atoi_differs hStatus).1
        rw [hOver]
        rfl

/-! ## Result -/

/-- **A packet means only its own bytes** exactly when every conversion it leads
to stops inside its payload. Whatever session it is processed in, and whatever
its header: the outcome, with the state of the session and the packets sent,
is then the same for every two buffers that start with the packet. -/
theorem dispatchPacket_isolated_iff (env : Env) (header : Header) (payload : Bytes)
    (s : SessionContext) :
    (∀ following₁ following₂, V11.dispatchPacket env header payload following₁ s =
      V11.dispatchPacket env header payload following₂ s) ↔
      ∀ service, V11.find header.serviceId = some service → SelfContained service payload := by
  unfold V11.dispatchPacket dispatch
  cases hFind : V11.find header.serviceId with
  | none => simp
  | some service =>
    simp only [Option.map_some, Option.some.injEq, forall_eq']
    cases service with
    | privateMessage => exact message_isolated_iff _ _ _ (fun _ => SessionContext.send_thrown _) ..
    | massPrivateMessage =>
      exact message_isolated_iff _ _ _ (fun _ => SessionContext.send_thrown _) ..
    | serviceOperation => exact serviceOperation_isolated_iff env payload s
    | setAway => exact setAway_isolated_iff env payload s
    -- the other services are not handed the buffer at all
    | _ => exact ⟨fun _ => trivial, fun _ _ _ => rfl⟩

/-- A `SetAway` packet that ends with its value: status 9, without a terminator. -/
def openEnded : Bytes := ascii "10" ++ [0xc0, 0x80] ++ ascii "9"

/-- In a session just begun, status 9 is taken when the next packet follows, and
status 99 when the buffer goes on with another `9`. -/
theorem dispatchPacket_reads_on :
    ¬ ∀ (history : List Arrival) (e : Nat × Endpoint Managers) (s : SessionContext),
      Runs (Endpoint.Step MockAuthenticationHandler.mock) (0, .new (.new 0 0)) history e →
      e.2.session = some s →
      ∀ env header payload following₁ following₂,
        V11.dispatchPacket env header payload following₁ s =
          V11.dispatchPacket env header payload following₂ s := by
  intro hEvery
  obtain ⟨hRun, hSome⟩ := authenticated_run
  obtain ⟨s, hSession⟩ := Option.isSome_iff_exists.mp hSome
  have hSame := hEvery _ _ s hRun hSession .zeros (.new 0 11 3 0) openEnded (ascii "YMSG")
    (ascii "9" ++ [0])
  -- both runs are evaluated in the session that the login leaves
  have hDiffers : ∀ s ∈ authenticated.2.session,
      (finalState (V11.dispatchPacket .zeros (.new 0 11 3 0) openEnded (ascii "YMSG")
          s)).properties_.availability_ = ⟨9⟩ ∧
        (finalState (V11.dispatchPacket .zeros (.new 0 11 3 0) openEnded (ascii "9" ++ [0])
          s)).properties_.availability_ = ⟨99⟩ := by
    decide +kernel
  obtain ⟨hNine, hNinetyNine⟩ := hDiffers s hSession
  rw [hSame, hNinetyNine] at hNine
  cases hNine

end Giblet.YMsg
