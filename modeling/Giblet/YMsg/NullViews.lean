import Giblet.YMsg.PacketIsolation

/-!
# YMsg — conversions and null views

A view that was never assigned has a null pointer, and so has the view of an
empty value. Three places hand a view's pointer to a C string function; only
the busy state is tested for being empty first.

`ValuesPresent` says when a packet's conversions find values to convert, and
`conversions_present_iff` that this is exactly when none of them is handed a
null pointer.
-/

namespace Giblet.YMsg

open Effect PacketParser Run SessionContext MockContactManagementLink MockProfileManagementLink

variable {π : Type}

/-- The fault of a conversion that was handed a null pointer. -/
def nullPointer : Fault := .undefined .nullPointer

/-- The outcome is not that of a conversion of a null pointer. -/
def NoNullPointer {σ α : Type} (r : EStateM.Result Fault σ α) : Prop :=
  ∀ s, r ≠ .error nullPointer s

/-! ## When values are present -/

/-- Every encoding that is converted has a value; what comes after a conversion that does
not return is not converted. -/
def EncodingsPresent (following : Bytes) : List Token → Prop
  | [] => True
  | t :: ts =>
    if t.key = 97 then
      t.value ≠ .null ∧ ∀ code, toEnum following t.value = .ok code → EncodingsPresent following ts
    else EncodingsPresent following ts

/-- The values that a packet of this service has converted are there. -/
def ValuesPresent (following : Bytes) : V11.Service → Bytes → Prop
  | .privateMessage, payload => EncodingsPresent following (tokens payload).1
  | .massPrivateMessage, payload => EncodingsPresent following (tokens payload).1
  | .serviceOperation, payload =>
    (tokens payload).2 = none →
      (serviceOperationFields payload).operation.chars = ascii "TYPING" →
        (serviceOperationFields payload).action ≠ .null
  | .setAway, payload => (tokens payload).2 = none → (setAwayFields payload).statusId ≠ .null
  | _, _ => True

/-! ## Conversions -/

theorem toEnum_eq_nullPointer_iff (following : Bytes) (value : StringView) :
    toEnum following value = .error nullPointer ↔ value = .null := by
  cases value with
  | null => exact iff_of_true rfl rfl
  | view chars beyond =>
    refine iff_of_false ?_ (by simp)
    simp only [toEnum, atoi, StringView.memory]
    split <;> simp [nullPointer]

theorem stol_view_ne_nullPointer (following chars beyond : Bytes) :
    stol following (.view chars beyond) ≠ .error nullPointer := by
  simp only [stol, StringView.memory]
  split
  · split
    · simp [nullPointer]
    · split_ifs <;> simp [nullPointer]
  · simp [nullPointer]

/-- The busy state is only converted if it is not empty. -/
theorem busyFlag_ne_nullPointer (following : Bytes) (busyState : StringView) :
    Processors.busyFlag following busyState ≠ .error nullPointer := by
  unfold Processors.busyFlag
  cases busyState with
  | null => simp [StringView.chars]
  | view chars beyond =>
    have hStol := stol_view_ne_nullPointer following chars beyond
    split
    · simp
    · cases hRun : stol following (.view chars beyond) with
      | error fault =>
        rw [hRun] at hStol
        exact fun h => hStol (by rw [Except.error.inj h])
      | ok n => simp

theorem NoNullPointer.of_thrown {σ : Type} {x : Action σ Unit} (h : Faults Fault.Thrown x) (s : σ) :
    NoNullPointer (x s) := by
  intro s' hRun
  exact h s nullPointer s' hRun

/-! ## Messages -/

/-- Storing tokens meets a null pointer exactly when an encoding is not there. -/
theorem deliver_assignEncoding_present (setEncoding : TextEncoding → π → π)
    (members : List (Int32 × (StringView → π → π))) (following : Bytes) (ts : List Token)
    {e : Option Fault} (he : e ≠ some nullPointer) (fields : π) :
    NoNullPointer (deliver (assignEncoding setEncoding members following) ts e fields) ↔
      EncodingsPresent following ts := by
  induction ts generalizing fields with
  | nil =>
    refine iff_of_true ?_ trivial
    intro fields' hEq
    cases e with
    | none => cases hEq
    | some fault =>
      cases hEq
      exact he rfl
  | cons t ts ih =>
    unfold EncodingsPresent
    simp only [deliver, bind_run, assignEncoding]
    by_cases hKey : t.key = 97
    · rw [if_pos hKey, if_pos hKey]
      cases hCode : toEnum following t.value with
      -- the conversion ran off the end, or stopped: only a null pointer matters here
      | error fault =>
        have hNull := toEnum_eq_nullPointer_iff following t.value
        rw [hCode] at hNull
        constructor
        · intro hNone
          refine ⟨fun h => ?_, fun code h => by cases h⟩
          obtain rfl := Except.error.inj (hNull.mpr h)
          exact hNone fields rfl
        · intro hPresent fields' hEq
          cases hEq
          exact hPresent.1 (hNull.mp rfl)
      -- a conversion that succeeded had a value, and the next pairs follow
      | ok code =>
        have hSome : t.value ≠ .null := by
          intro h
          rw [(toEnum_eq_nullPointer_iff following t.value).mpr h] at hCode
          cases hCode
        refine (ih _).trans ⟨fun h => ⟨hSome, fun code' hSame => h⟩, fun h => h.2 code rfl⟩
    -- the other keys are stored as they are
    · simp only [if_neg hKey, assignMember, modify_run]
      exact ih _

theorem tokens_fault_ne_nullPointer (payload : Bytes) : (tokens payload).2 ≠ some nullPointer := by
  intro h
  simpa [nullPointer] using tokens_fault h

/-- The two message services, in one statement. -/
theorem message_present_iff (setEncoding : TextEncoding → π → π)
    (members : List (Int32 × (StringView → π → π))) (fields : π) {process : π → SessionAction}
    (hProcess : ∀ f, Faults Fault.Thrown (process f)) (following payload : Bytes)
    (s : SessionContext) :
    NoNullPointer
        (processPacket fields (assignEncoding setEncoding members following) process payload s) ↔
      EncodingsPresent following (tokens payload).1 := by
  rw [← deliver_assignEncoding_present setEncoding members following (tokens payload).1
    (tokens_fault_ne_nullPointer payload) fields, ← parse_eq_tokens]
  unfold processPacket
  cases parse (assignEncoding setEncoding members following) payload fields with
  -- parsed to the end: what the processor does cannot involve a null pointer
  | ok _ f =>
    exact iff_of_true (.of_thrown (hProcess f) s) fun f' h => by cases h
  | error fault f =>
    refine ⟨fun h f' hEq => ?_, fun h s' hEq => ?_⟩
    · cases hEq
      exact h s rfl
    · cases hEq
      exact h f rfl

/-! ## Service operations and SetAway -/

theorem serviceOperation_present_iff (following : Bytes) (fields : Payloads.ServiceOperation)
    (s : SessionContext) :
    NoNullPointer (Processors.serviceOperation following fields s) ↔
      (fields.operation.chars = ascii "TYPING" → fields.action ≠ .null) := by
  unfold Processors.serviceOperation
  -- only TYPING looks at the action
  split
  · rename_i hTyping
    have hNull := toEnum_eq_nullPointer_iff following fields.action
    cases hCode : toEnum following fields.action with
    | error fault =>
      rw [hCode] at hNull
      refine ⟨fun h _ hAction => ?_, fun h s' hEq => ?_⟩
      · obtain rfl := Except.error.inj (hNull.mpr hAction)
        exact h s rfl
      · cases hEq
        exact h hTyping (hNull.mp rfl)
    | ok code =>
      refine iff_of_true (.of_thrown (SessionContext.send_thrown _) s) fun _ hAction => ?_
      rw [hNull.mpr hAction] at hCode
      cases hCode
  · rename_i hOther
    exact iff_of_true (fun s' h => by cases h) fun h => absurd h hOther

/-- The presence operations `SetAway` chooses from throw or return. -/
theorem setPresence_onContact_noNullPointer (properties : PresenceProperties)
    (change : Bytes → ContactManager → Option (ContactInfo × ContactManager))
    (message : Bytes → ContactInfo → Message) (s : SessionContext) :
    NoNullPointer (MockPresenceManagementLink.setPresence properties
      (fun id => PresenceEvents.onContact (change id) (message id)) s) :=
  .of_thrown (MockPresenceManagementLink.setPresence_thrown _ fun _ =>
    PresenceEvents.onContact_thrown _ _) s

theorem setAway_present_iff (following : Bytes) (fields : Payloads.SetAway) (s : SessionContext) :
    NoNullPointer (Processors.setAway following fields s) ↔ fields.statusId ≠ .null := by
  unfold Processors.setAway
  have hNull := toEnum_eq_nullPointer_iff following fields.statusId
  cases hCode : toEnum following fields.statusId with
  | error fault =>
    rw [hCode] at hNull
    refine ⟨fun h hStatus => ?_, fun h s' hEq => ?_⟩
    · obtain rfl := Except.error.inj (hNull.mpr hStatus)
      exact h s rfl
    · cases hEq
      exact h (hNull.mp rfl)
  -- the status was converted; the busy state is tested for being empty before it is converted
  | ok code =>
    refine iff_of_true ?_ fun hStatus => ?_
    · dsimp only
      split
      · exact setPresence_onContact_noNullPointer _ _ _ s
      · have hBusy := busyFlag_ne_nullPointer following fields.busyState
        cases hFlag : Processors.busyFlag following fields.busyState with
        | error fault =>
          rw [hFlag] at hBusy
          intro s' hEq
          cases hEq
          exact hBusy rfl
        | ok isBusy =>
          dsimp only
          split_ifs
          · exact setPresence_onContact_noNullPointer _ _ _ s
          · exact setPresence_onContact_noNullPointer _ _ _ s
          · exact setPresence_onContact_noNullPointer _ _ _ s
    · rw [hNull.mpr hStatus] at hCode
      cases hCode

/-- A payload object with a table of members is filled without conversions. -/
theorem processPacket_present_iff (members : List (Int32 × (StringView → π → π))) (fields : π)
    (process : π → SessionAction) (payload : Bytes) (s : SessionContext) :
    NoNullPointer (processPacket fields (assignMember members) process payload s) ↔
      ((tokens payload).2 = none →
        NoNullPointer (process (finalState (parse (assignMember members) payload fields)) s)) := by
  rw [processPacket_assignMember]
  have hFault := tokens_fault_ne_nullPointer payload
  revert hFault
  cases (tokens payload).2 with
  -- the payload parses to its end
  | none => exact fun _ => ⟨fun h _ => h, fun h => h rfl⟩
  -- an empty key: the parser throws before the processor runs
  | some e =>
    intro hFault
    refine iff_of_true (fun s' hEq => ?_) fun h => by cases h
    cases hEq
    exact hFault rfl

/-- A processor that converts nothing. -/
theorem processPacket_thrown (members : List (Int32 × (StringView → π → π))) (fields : π)
    {process : π → SessionAction} (hProcess : ∀ f, Faults Fault.Thrown (process f))
    (payload : Bytes) (s : SessionContext) :
    NoNullPointer (processPacket fields (assignMember members) process payload s) :=
  (processPacket_present_iff members fields process payload s).mpr fun _ =>
    .of_thrown (hProcess _) s

theorem changeBlockedUser_thrown (fields : Payloads.ChangeBlockedUser) :
    Faults Fault.Thrown (Processors.changeBlockedUser fields) := by
  unfold Processors.changeBlockedUser
  split
  · exact MockBlockedContactManagementLink.add_thrown _ _
  split
  · exact MockBlockedContactManagementLink.remove_thrown _ _
  · exact .pure _

/-- A packet nobody handles is parsed, and nothing is done with it. -/
theorem dispatch_none_noNullPointer (payload following : Bytes) (s : SessionContext) :
    NoNullPointer (dispatch none payload following s) := by
  intro s' hEq
  have hThrown : Effect.Faults Fault.Thrown
      (parse (fun _ _ => (pure () : EStateM Fault Unit Unit)) payload) :=
    parse_thrown (fun _ _ => .pure _) payload
  unfold dispatch at hEq
  dsimp only at hEq
  cases hParse : parse (fun _ _ => (pure () : EStateM Fault Unit Unit)) payload () with
  | ok _ u =>
    rw [hParse] at hEq
    cases hEq
  | error e u =>
    rw [hParse] at hEq
    cases hEq
    exact hThrown () _ _ hParse

/-- A `SetAway` packet has its status converted. -/
theorem processPacket_setAway_present_iff (payload following : Bytes) (s : SessionContext) :
    NoNullPointer (processPacket {} Payloads.SetAway.onKeyPair (Processors.setAway following)
      payload s) ↔ ValuesPresent following .setAway payload := by
  refine (processPacket_present_iff _ _ _ _ _).trans (imp_congr_right fun _ => ?_)
  exact setAway_present_iff following _ s

/-! ## Result -/

/-- **No conversion is handed a null pointer** exactly when the packet has a value wherever
one is converted, in every state of a session. -/
theorem conversions_present_iff (env : Env) (header : Header) (payload following : Bytes)
    (s : SessionContext) :
    NoNullPointer (V11.dispatchPacket env header payload following s) ↔
      ∀ service, V11.find header.serviceId = some service →
        ValuesPresent following service payload := by
  unfold V11.dispatchPacket
  cases hFind : V11.find header.serviceId with
  | none =>
    refine iff_of_true (dispatch_none_noNullPointer payload following s) ?_
    intro service hService
    cases hService
  | some service =>
    simp only [Option.map_some, Option.some.injEq, forall_eq']
    cases service with
    -- the two services that convert while they parse
    | privateMessage => exact message_present_iff _ _ _ (fun _ => send_thrown _) ..
    | massPrivateMessage => exact message_present_iff _ _ _ (fun _ => send_thrown _) ..
    -- the two that convert afterwards
    | serviceOperation =>
      refine (processPacket_present_iff _ _ _ _ _).trans (imp_congr_right fun _ => ?_)
      exact serviceOperation_present_iff following _ s
    | setAway => exact processPacket_setAway_present_iff payload following s
    -- what is left converts nothing
    | requestProfile =>
      exact iff_of_true
        (processPacket_thrown _ _ (fun _ => requestClientProfile_thrown) _ s) trivial
    | setAvailable =>
      have hPresence : ∀ fields, Effect.Faults Fault.Thrown (Processors.setAvailable fields) :=
        fun _ => MockPresenceManagementLink.setPresence_thrown _ fun _ =>
          PresenceEvents.onContact_thrown _ _
      exact iff_of_true (processPacket_thrown _ _ hPresence _ s) trivial
    | activateProfile | deactivateProfile =>
      exact iff_of_true (processPacket_thrown _ _ (fun _ => confirm_thrown _ _) _ s) trivial
    | addContact =>
      exact iff_of_true
        (processPacket_thrown _ _ (fun _ => addContact_thrown env _ _ _ _) _ s) trivial
    | renameContactGroup =>
      exact iff_of_true (processPacket_thrown _ _ (fun _ => renameGroup_thrown _ _) _ s) trivial
    | removeContact =>
      exact iff_of_true (processPacket_thrown _ _ (fun _ => removeContact_thrown _ _ _) _ s) trivial
    | denyContactAddRequest =>
      exact iff_of_true (processPacket_thrown _ _ (fun _ => denyRequest_thrown _ _ _) _ s) trivial
    | changeBlockedUser =>
      exact iff_of_true (processPacket_thrown _ _ changeBlockedUser_thrown _ s) trivial
    | chatLogin | chatJoin =>
      exact iff_of_true (processPacket_thrown _ _ (fun _ => send_thrown _) _ s) trivial

/-- In a session just begun, a `SetAway` packet without any key has its status converted. -/
theorem conversions_absent :
    ¬ ∀ (history : List Arrival) (e : Nat × Endpoint Managers) (s : SessionContext),
      Runs (Endpoint.Step MockAuthenticationHandler.mock) (0, .new (.new 0 0)) history e →
      e.2.session = some s →
      ∀ env header payload following,
        NoNullPointer (V11.dispatchPacket env header payload following s) := by
  intro hEvery
  obtain ⟨hRun, hSome⟩ := authenticated_run
  obtain ⟨s, hSession⟩ := Option.isSome_iff_exists.mp hSome
  have hNone := hEvery _ _ s hRun hSession .zeros (.new 0 11 3 0) [] []
  have hPresent := (processPacket_setAway_present_iff [] [] s).mp hNone
  exact hPresent (by decide +kernel) (by decide +kernel)

end Giblet.YMsg
