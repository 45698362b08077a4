import Giblet.Lib.Effect
import Giblet.Lib.Run
import Giblet.YMsg.Builder

/-!
# YMsg — the limit of a packet under construction

`Append` checks that the buffer, the key and two terminators stay below 64k,
and then also appends the value. So the buffer can grow beyond the limit,
which the next `Append` or `Send` notices.

* `append_keepsLimit_iff` — the `Append`s whose check would have caught the value, too.
* `limit_kept_iff` — the sequences of `Append`s that stay below the limit.
-/

namespace Giblet.YMsg.Builder

open Effect Run

/-! ## One field -/

/-- `Append` throws and leaves the buffer alone, or appends key and value with their
terminators and stays below the limit. -/
def KeepsLimit (b : Builder) (field : Int32 × Bytes) : Prop :=
  (∃ e, append field.1 field.2 b = .error e b) ∨
    append field.1 field.2 b = .ok () ⟨b.buffer_ ++ encodePair field⟩ ∧
      (b.buffer_ ++ encodePair field).length < PaxPayloadSize

/-- The check passes, and the value reaches the limit. -/
def Overlooked (b : Builder) (field : Int32 × Bytes) : Prop :=
  b.buffer_.length + (Numeral.ofInt field.1.toInt).length + 4 < PaxPayloadSize ∧
    PaxPayloadSize ≤ b.buffer_.length + (Numeral.ofInt field.1.toInt).length + 4 + field.2.length

theorem append_keepsLimit_iff (b : Builder) (field : Int32 × Bytes) :
    KeepsLimit b field ↔ ¬ Overlooked b field := by
  unfold KeepsLimit Overlooked
  rw [append_run, List.length_append, length_encodePair]
  by_cases hCheck : b.buffer_.length + (Numeral.ofInt field.1.toInt).length + 4 < PaxPayloadSize
  · simp only [if_pos hCheck, reduceCtorEq, exists_false, false_or, true_and]
    omega
  -- the check leaves the value out, but it throws early enough without it
  · simp only [if_neg hCheck]
    exact iff_of_true (.inl ⟨_, rfl⟩) fun h => hCheck h.1

/-! ## Sequences -/

/-- The buffer after `Initialize`. -/
def initialized (header : Header) : Builder := ⟨header.toRaw.store⟩

/-- An `Append` returns, or throws. -/
def AppendStep (b : Builder) (field : Int32 × Bytes) (b' : Builder) : Prop :=
  b' = finalState (append field.1 field.2 b)

/-- A buffer below the limit stays there, unless a value is overlooked. -/
theorem appendStep_iff {b b' : Builder} {field : Int32 × Bytes}
    (h : b.buffer_.length < PaxPayloadSize) (hStep : AppendStep b field b') :
    b'.buffer_.length < PaxPayloadSize ↔ ¬ Overlooked b field := by
  rw [hStep, append_run]
  unfold Overlooked
  by_cases hCheck : b.buffer_.length + (Numeral.ofInt field.1.toInt).length + 4 < PaxPayloadSize
  · rw [if_pos hCheck, finalState_ok]
    simp only [List.length_append, length_encodePair]
    omega
  · rw [if_neg hCheck]
    exact iff_of_true h fun hOverlooked => hCheck hOverlooked.1

theorem runs_of_appendAll {fields : List (Int32 × Bytes)} {b b' : Builder}
    (h : appendAll fields b = .ok () b') : Runs AppendStep b fields b' := by
  induction fields generalizing b with
  | nil =>
    obtain rfl := (EStateM.Result.ok.inj h).2
    exact .nil _
  | cons field rest ih =>
    obtain ⟨key, value⟩ := field
    simp only [appendAll, bind, EStateM.bind] at h
    cases hAppend : append key value b with
    | ok _ t =>
      rw [hAppend] at h
      exact .cons (by rw [AppendStep, hAppend, finalState_ok]) (ih h)
    | error e t =>
      rw [hAppend] at h
      cases h

/-- **The limit is kept** by every `Append` of a sequence, and `Send` does not throw when all
of them returned, exactly when no value is overlooked. -/
theorem limit_kept_iff (header : Header) (fields : List (Int32 × Bytes)) :
    ((∀ history field rest b, fields = history ++ field :: rest →
        Runs AppendStep (initialized header) history b → KeepsLimit b field) ∧
      ∀ b, appendAll fields (initialized header) = .ok () b →
        ∃ packet, send b = .ok packet ⟨[]⟩) ↔
      ∀ history field rest b, fields = history ++ field :: rest →
        Runs AppendStep (initialized header) history b → ¬ Overlooked b field := by
  have hStart : (initialized header).buffer_.length < PaxPayloadSize := by
    rw [initialized, RawHeader.length_store]
    decide +kernel
  -- the invariant: the buffer is below the limit
  have hAlways := @Runs.always_iff _ _ AppendStep (fun b => b.buffer_.length < PaxPayloadSize)
    (fun b field => ¬ Overlooked b field) _ fields hStart
    (fun b field b' h hStep => appendStep_iff h hStep) fun _ _ _ _ _ _ => ⟨_, rfl⟩
  simp only [append_keepsLimit_iff]
  constructor
  · exact fun h => h.1
  · intro hNever
    refine ⟨hNever, fun b hAppends => ?_⟩
    have hLimit := hAlways.mpr hNever fields [] b (List.append_nil _).symm
      (runs_of_appendAll hAppends)
    exact ⟨_, by rw [send_run, if_pos hLimit]⟩

/-- A value as long as the limit is overlooked in an empty packet. -/
theorem overlooked_of_length {value : Bytes} (hLength : value.length = PaxPayloadSize)
    (header : Header) : Overlooked (initialized header) (14, value) := by
  unfold Overlooked
  rw [initialized, RawHeader.length_store, hLength]
  have hCheck : RawHeader.size + (Numeral.ofInt ((14 : Int32), value).1.toInt).length + 4 <
      PaxPayloadSize :=
    (by decide +kernel : RawHeader.size + (Numeral.ofInt 14).length + 4 < PaxPayloadSize)
  exact ⟨hCheck, Nat.le_add_left _ _⟩

/-- It is appended to such a packet, which cannot be sent. -/
theorem limit_exceeded :
    ¬ ∀ (header : Header) (fields : List (Int32 × Bytes)),
      (∀ history field rest b, fields = history ++ field :: rest →
        Runs AppendStep (initialized header) history b → KeepsLimit b field) ∧
      ∀ b, appendAll fields (initialized header) = .ok () b →
        ∃ packet, send b = .ok packet ⟨[]⟩ := by
  intro hKept
  obtain ⟨value, hLength⟩ : ∃ value : Bytes, value.length = PaxPayloadSize :=
    ⟨List.replicate PaxPayloadSize 'a'.toNat.toUInt8, List.length_replicate⟩
  have hKeeps := (hKept (.new 0 0 0 0) [(14, value)]).1 [] (14, value) [] _ rfl (.nil _)
  exact (append_keepsLimit_iff _ _).mp hKeeps (overlooked_of_length hLength _)

end Giblet.YMsg.Builder
