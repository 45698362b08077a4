import Giblet.YMsg.Parser
import Mathlib.Data.List.TakeWhile

/-!
# YMsg — enumerations, and how they are read from a packet

The enumerations of `Types.h` that a packet can carry are not validated when
they are read: `to_enum` casts whatever `atoi` gives. They are therefore
wrapped integers with named values here. The ones that only the server
chooses are closed enumerations.

`atoi` and `stol` are handed a view's `data()`, which knows no end: they read
on through the receive buffer until a byte stops them (`atoi_append`,
`stol_append` say when that byte lies inside the payload).
-/

namespace Giblet.YMsg

/-! ## Enumerations -/

/-- `detail::Availability`. -/
structure Availability where
  code : Int32
  deriving DecidableEq, Repr

namespace Availability

/-- A placeholder; no part of the protocol. -/
def Offline : Availability := ⟨-1⟩
def Available : Availability := ⟨0⟩
def Brb : Availability := ⟨1⟩
def Busy : Availability := ⟨2⟩
/-- Only ever sent by a client. -/
def Invisible : Availability := ⟨12⟩
def Custom : Availability := ⟨99⟩
def Idle : Availability := ⟨999⟩

end Availability

/-- `detail::TextEncoding`. -/
structure TextEncoding where
  code : Int32
  deriving DecidableEq, Repr

def TextEncoding.None : TextEncoding := ⟨1⟩

/-- `detail::TypingStatus`. -/
structure TypingStatus where
  code : Int32
  deriving DecidableEq, Repr

/-- `detail::AuthenticationMethod`. -/
inductive AuthenticationMethod
  | None
  | InApp
  | HTTPS
  deriving DecidableEq, Repr

def AuthenticationMethod.code : AuthenticationMethod → Int
  | .None => 0
  | .InApp => 1
  | .HTTPS => 2

/-- `detail::ContactBlockedStatus`. -/
inductive ContactBlockedStatus
  | Blocked
  | Unblocked
  deriving DecidableEq, Repr

def ContactBlockedStatus.code : ContactBlockedStatus → Int
  | .Blocked => 1
  | .Unblocked => 2

/-- `detail::AddContactRequestResultStatus`, the values the server sends. -/
inductive AddContactRequestResultStatus
  | AddPending
  | GeneralFailure
  | DuplicateContact
  | ContactDoesNotExist
  | GroupAlreadyExists
  deriving DecidableEq, Repr

def AddContactRequestResultStatus.code : AddContactRequestResultStatus → Int
  | .AddPending => 0
  | .GeneralFailure => 1
  | .DuplicateContact => 2
  | .ContactDoesNotExist => 3
  | .GroupAlreadyExists => 8

/-- `detail::RemoveContactStatus`, the values the server sends. -/
inductive RemoveContactStatus
  | Success
  | GeneralFailure
  deriving DecidableEq, Repr

def RemoveContactStatus.code : RemoveContactStatus → Int
  | .Success => 0
  | .GeneralFailure => 1

/-! ## Conversions -/

/-- `std::atoi(value.data())`, in a receive buffer in which `following` comes
after the payload. -/
def atoi (following : Bytes) (value : StringView) : Except Fault Int32 :=
  match value.memory following with
  | none => .error (.undefined .nullPointer)
  | some mem =>
    match Numeral.scan mem with
    -- no byte of the buffer stopped it
    | none => .error (.undefined .overread)
    | some scanned => .ok (clampLong scanned.value)

/-- `std::stol(value.data())`: the pointer becomes a `std::string`, which ends
at the first NUL in memory. -/
def stol (following : Bytes) (value : StringView) : Except Fault Int32 :=
  match value.memory following with
  | none => .error (.undefined .nullPointer)
  | some mem =>
    -- making the string is what needs the NUL
    if 0 ∈ mem then
      match Numeral.scan (mem.takeWhile (· ≠ 0) ++ [0]) with
      | none => .error (.undefined .overread)
      | some scanned =>
        if scanned.digits = 0 then
          .error (.invalidArgument "invalid stol argument")
        else if scanned.value < -2 ^ 31 ∨ 2 ^ 31 ≤ scanned.value then
          .error (.outOfRange "stol argument out of range")
        else
          .ok (clampLong scanned.value)
    else
      .error (.undefined .overread)

/-! ## What lies after the packet -/

/-- `atoi` meets a byte that stops it inside the payload, or a null pointer. -/
def AtoiStops : StringView → Prop
  | .null => True
  | .view chars beyond => (Numeral.scan (chars ++ beyond)).isSome = true

/-- `stol` meets its NUL inside the payload, or a null pointer. -/
def StolStops : StringView → Prop
  | .null => True
  | .view chars beyond => 0 ∈ chars ++ beyond

instance : DecidablePred AtoiStops
  | .null => .isTrue trivial
  | .view chars beyond =>
    inferInstanceAs (Decidable ((Numeral.scan (chars ++ beyond)).isSome = true))

instance : DecidablePred StolStops
  | .null => .isTrue trivial
  | .view chars beyond => inferInstanceAs (Decidable (0 ∈ chars ++ beyond))

/-- A conversion that stops inside the payload does not depend on what follows. -/
theorem atoi_append {value : StringView} (h : AtoiStops value) (following : Bytes) :
    atoi following value = atoi [] value := by
  cases value with
  | null => rfl
  | view chars beyond =>
    obtain ⟨scanned, hScan⟩ := Option.isSome_iff_exists.mp h
    simp only [atoi, StringView.memory, List.append_nil, hScan,
      Numeral.scan_append hScan following]

theorem stol_append {value : StringView} (h : StolStops value) (following : Bytes) :
    stol following value = stol [] value := by
  cases value with
  | null => rfl
  | view chars beyond =>
    have hFollowing : 0 ∈ chars ++ beyond ++ following := List.mem_append_left _ h
    -- the string ends at the payload's own NUL
    have hTake : (chars ++ beyond ++ following).takeWhile (· ≠ 0) =
        (chars ++ beyond).takeWhile (· ≠ 0) := by
      rw [List.takeWhile_append, if_neg]
      intro hLength
      have hAll : (chars ++ beyond).takeWhile (· ≠ 0) = chars ++ beyond :=
        (List.takeWhile_prefix _).eq_of_length hLength
      have hMem : (0 : UInt8) ∈ (chars ++ beyond).takeWhile (· ≠ 0) := by
        rw [hAll]
        exact h
      simpa using List.mem_takeWhile_imp hMem
    simp only [stol, StringView.memory, List.append_nil, if_pos hFollowing,
      if_pos (show (0 : UInt8) ∈ chars ++ beyond from h), hTake]

/-- A conversion that does not stop inside the payload depends on whether
anything follows: with nothing there it reads past the end of the buffer. -/
theorem atoi_differs {value : StringView} (h : ¬ AtoiStops value) :
    atoi [] value = .error (.undefined .overread) ∧ ∃ n, atoi [0] value = .ok n := by
  cases value with
  | null => exact absurd trivial h
  | view chars beyond =>
    have hNone : Numeral.scan (chars ++ beyond) = none := by
      simpa [AtoiStops] using h
    -- with a NUL behind it, every number ends
    obtain ⟨scanned, hScan⟩ :=
      Option.isSome_iff_exists.mp (Numeral.scan_terminated_isSome (chars ++ beyond) [])
    refine ⟨?_, clampLong scanned.value, ?_⟩
    · simp only [atoi, StringView.memory, List.append_nil, hNone]
    · simp only [atoi, StringView.memory, hScan]

theorem stol_differs {value : StringView} (h : ¬ StolStops value) :
    stol [] value = .error (.undefined .overread) ∧
      stol [0] value ≠ .error (.undefined .overread) := by
  cases value with
  | null => exact absurd trivial h
  | view chars beyond =>
    have hNone : ¬ (0 : UInt8) ∈ chars ++ beyond := h
    refine ⟨?_, ?_⟩
    · simp only [stol, StringView.memory, List.append_nil, if_neg hNone]
    -- a string can be made, and what `stol` makes of it is no overread
    · have hMem : (0 : UInt8) ∈ chars ++ beyond ++ [0] := by simp
      obtain ⟨scanned, hScan⟩ := Option.isSome_iff_exists.mp
        (Numeral.scan_terminated_isSome ((chars ++ beyond ++ [0]).takeWhile (· ≠ 0)) [])
      simp only [stol, StringView.memory, if_pos hMem, hScan]
      split_ifs <;> simp

end Giblet.YMsg
