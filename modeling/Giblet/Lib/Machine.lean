import Giblet.Lib.ByteStream
import Giblet.Lib.Displacement
import Giblet.Lib.Run

/-!
# Machine — code in a byte-addressed store

A machine fetches an instruction, does what it does to the state, and goes on
behind it or elsewhere. What the instructions do is left open; an instruction
is known by its bytes up to a relative operand, which leads from the address
behind the instruction. The store holds code and the slots that code jumps
through; what else a program reads and writes belongs to the state.

* `Moved` — some code lies at another address in another store, with relative
  operands that lead to the same places.
* `Moved.passes_iff` — moved code, with a jump back behind it, leads to the
  same places with the same states.
* `Rerouted.simulates` — code that was replaced by a way to its copy: the
  program goes on as it did before, but for what is done on that way.
-/

namespace Machine

open ByteStream Run

variable {w : Nat} {σ : Type}

/-! ## Instructions -/

/-- How an instruction hands control over: to the one behind it, along its relative operand, to
an address, or to the address in a slot of the store. -/
inductive Exit (w : Nat)
  | next
  | relative
  | absolute (a : BitVec w)
  | through (slot : BitVec w)
  deriving DecidableEq

/-- The instructions of a machine. No instruction begins like another one. -/
structure InstructionSet (w : Nat) (σ : Type) where
  /-- The bytes of relative operand behind these bytes, if they are an instruction up to it. -/
  operand : List UInt8 → Option Nat
  /-- The new state and the exit; the address behind the instruction may matter. -/
  effect : List UInt8 → BitVec w → σ → Option (σ × Exit w)
  nonempty : operand [] = none
  unique : ∀ {front front' : List UInt8} {r r' : Nat}, operand front = some r →
    operand front' = some r' → front <+: front' → front = front'
  /-- Only an instruction with a relative operand follows it. -/
  relative : ∀ {front : List UInt8} {next : BitVec w} {st st' : σ},
    effect front next st = some (st', .relative) → operand front ≠ some 0

/-- The program counter, and what else there is. -/
structure Config (w : Nat) (σ : Type) where
  pc : BitVec w
  state : σ

/-- Where a relative operand leads to. -/
def leads (next : BitVec w) (operand : List UInt8) : BitVec w :=
  Displacement.target next (BitVec.ofNat (8 * operand.length) (word operand))

/-- The address in a slot. -/
def pointerAt (memory : Nat → UInt8) (slot : BitVec w) : BitVec w :=
  BitVec.ofNat w (word (slice memory slot.toNat (w / 8)))

/-- Where an exit leads to. -/
def Exit.goes (memory : Nat → UInt8) (next : BitVec w) (operand : List UInt8) : Exit w → BitVec w
  | .next => next
  | .relative => leads next operand
  | .absolute a => a
  | .through slot => pointerAt memory slot

/-- The address behind an instruction. -/
def behind (a : BitVec w) (front operand : List UInt8) : BitVec w :=
  a + BitVec.ofNat w (front.length + operand.length)

/-- The instruction at an address. -/
structure Fetches (set : InstructionSet w σ) (memory : Nat → UInt8) (a : BitVec w)
    (front operand : List UInt8) : Prop where
  known : set.operand front = some operand.length
  bytes : slice memory a.toNat (front.length + operand.length) = front ++ operand

/-- One instruction is carried out. -/
inductive Step (set : InstructionSet w σ) (memory : Nat → UInt8) :
    Config w σ → Exit w → Config w σ → Prop
  | intro {a : BitVec w} {front operand : List UInt8} {st st' : σ} {e : Exit w}
      (fetch : Fetches set memory a front operand)
      (run : set.effect front (behind a front operand) st = some (st', e)) :
      Step set memory ⟨a, st⟩ e ⟨e.goes memory (behind a front operand) operand, st'⟩

/-- Some number of instructions later. -/
def Reaches (set : InstructionSet w σ) (memory : Nat → UInt8) (c d : Config w σ) : Prop :=
  ∃ es, Runs (Step set memory) c es d

section

variable {set : InstructionSet w σ} {memory memory' : Nat → UInt8} {a b : BitVec w}
  {front front' operand operand' : List UInt8} {c d : Config w σ} {n : Nat}

/-! ## Fetching -/

theorem Fetches.pos (h : Fetches set memory a front operand) :
    0 < front.length + operand.length := by
  have hFront : front ≠ [] := by
    rintro rfl
    have hKnown := h.known
    rw [set.nonempty] at hKnown
    cases hKnown
  have := List.length_pos_iff.mpr hFront
  omega

theorem Fetches.front_eq (h : Fetches set memory a front operand) :
    slice memory a.toNat front.length = front := by
  have hBytes := h.bytes
  rw [slice_add] at hBytes
  exact (List.append_inj hBytes (length_slice ..)).1

theorem Fetches.operand_eq (h : Fetches set memory a front operand) :
    slice memory (a.toNat + front.length) operand.length = operand := by
  have hBytes := h.bytes
  rw [slice_add] at hBytes
  exact (List.append_inj hBytes (length_slice ..)).2

theorem slice_prefix (memory : Nat → UInt8) (a : Nat) {m n : Nat} (h : m ≤ n) :
    slice memory a m <+: slice memory a n := by
  obtain ⟨k, rfl⟩ := Nat.exists_eq_add_of_le h
  rw [slice_add]
  exact List.prefix_append _ _

/-- The bytes leave no choice. -/
theorem Fetches.unique (h : Fetches set memory a front operand)
    (h' : Fetches set memory a front' operand') : front = front' ∧ operand = operand' := by
  have hFront : front = front' := by
    rcases Nat.le_total front.length front'.length with hLe | hLe
    · have hPrefix := slice_prefix memory a.toNat hLe
      rw [h.front_eq, h'.front_eq] at hPrefix
      exact set.unique h.known h'.known hPrefix
    · have hPrefix := slice_prefix memory a.toNat hLe
      rw [h.front_eq, h'.front_eq] at hPrefix
      exact (set.unique h'.known h.known hPrefix).symm
  subst hFront
  have hLength : operand.length = operand'.length := Option.some.inj (h.known.symm.trans h'.known)
  refine ⟨rfl, ?_⟩
  rw [← h.operand_eq, ← h'.operand_eq, hLength]

theorem Fetches.congr (h : Fetches set memory a front operand)
    (hSame : ∀ x, a.toNat ≤ x → x < a.toNat + (front.length + operand.length) →
      memory x = memory' x) : Fetches set memory' a front operand :=
  ⟨h.known, (slice_congr hSame).symm.trans h.bytes⟩

/-- A machine does one thing at a time. -/
theorem Step.unique {e e' : Exit w} {d' : Config w σ} (h : Step set memory c e d)
    (h' : Step set memory c e' d') : e = e' ∧ d = d' := by
  cases h with
  | intro fetch run =>
    cases h' with
    | intro fetch' run' =>
      obtain ⟨rfl, rfl⟩ := fetch.unique fetch'
      cases run.symm.trans run'
      exact ⟨rfl, rfl⟩

theorem Reaches.refl (c : Config w σ) : Reaches set memory c c := ⟨[], .nil c⟩

theorem Reaches.of_step {e : Exit w} (h : Step set memory c e d) : Reaches set memory c d :=
  ⟨[e], .one h⟩

theorem Reaches.trans {f : Config w σ} (h : Reaches set memory c d) (h' : Reaches set memory d f) :
    Reaches set memory c f := by
  obtain ⟨es, hRun⟩ := h
  obtain ⟨es', hRun'⟩ := h'
  induction hRun' with
  | nil => exact ⟨es, hRun⟩
  | snoc _ hLast ih =>
    obtain ⟨all, hAll⟩ := ih
    exact ⟨_, hAll.snoc hLast⟩

/-! ## Code that moves -/

/-- What an instruction does depends neither on its place nor on which of the stores it is in. -/
structure Portable (set : InstructionSet w σ) (memory memory' : Nat → UInt8)
    (front : List UInt8) : Prop where
  anywhere : ∀ next next' st, set.effect front next st = set.effect front next' st
  slots : ∀ next st st' slot, set.effect front next st = some (st', .through slot) →
    pointerAt memory slot = pointerAt memory' slot

/-- The instructions in the `n` bytes from `a` on lie from `b` on in the other store. -/
inductive Moved (set : InstructionSet w σ) (memory memory' : Nat → UInt8) :
    BitVec w → BitVec w → Nat → Prop
  | done (a b : BitVec w) : Moved set memory memory' a b 0
  | next {a b : BitVec w} {front operand operand' : List UInt8} {n : Nat}
      (fetch : Fetches set memory a front operand)
      (copy : Fetches set memory' b front operand')
      (same : operand'.length ≠ 0 →
        leads (behind b front operand') operand' = leads (behind a front operand) operand)
      (portable : Portable set memory memory' front)
      (later : Moved set memory memory' (behind a front operand) (behind b front operand') n) :
      Moved set memory memory' a b (front.length + operand.length + n)

/-- A copy's operand is as wide as the original's. -/
theorem Fetches.length_eq (h : Fetches set memory a front operand)
    (h' : Fetches set memory' b front operand') : operand.length = operand'.length :=
  Option.some.inj (h.known.symm.trans h'.known)

theorem behind_add (a : BitVec w) (front operand : List UInt8) (n : Nat) :
    behind a front operand + BitVec.ofNat w n =
      a + BitVec.ofNat w (front.length + operand.length + n) := by
  rw [behind, add_assoc, ← BitVec.ofNat_add]

/-- **One step of moved code.** It hands over to the same place, unless it goes on behind. -/
theorem moved_goes (copy : Fetches set memory' b front operand')
    (hSame : operand'.length ≠ 0 →
      leads (behind b front operand') operand' = leads (behind a front operand) operand)
    (hPortable : Portable set memory memory' front) {st st' : σ} {e : Exit w}
    (hRun : set.effect front (behind a front operand) st = some (st', e)) :
    Step set memory' ⟨b, st⟩ e
      ⟨if e = .next then behind b front operand'
        else e.goes memory (behind a front operand) operand, st'⟩ := by
  have hStep := Step.intro copy ((hPortable.anywhere _ (behind a front operand) st).trans hRun)
  cases e with
  | next => exact hStep
  | relative =>
    have hOperand : operand'.length ≠ 0 := fun hZero =>
      set.relative hRun (copy.known.trans (congrArg some hZero))
    rw [Exit.goes, hSame hOperand] at hStep
    exact hStep
  | absolute target => exact hStep
  | through slot =>
    rw [Exit.goes, ← hPortable.slots _ _ _ _ hRun] at hStep
    exact hStep

/-! ## Straight ahead -/

/-- The `n` bytes from an address on lead somewhere: control is handed elsewhere, or goes on
behind them. -/
inductive Passes (set : InstructionSet w σ) (memory : Nat → UInt8) :
    BitVec w → Nat → σ → Config w σ → Prop
  | ends (a : BitVec w) (st : σ) : Passes set memory a 0 st ⟨a, st⟩
  | leaves {a : BitVec w} {front operand : List UInt8} {n : Nat} {st st' : σ} {e : Exit w}
      (fetch : Fetches set memory a front operand)
      (run : set.effect front (behind a front operand) st = some (st', e))
      (elsewhere : e ≠ .next) :
      Passes set memory a (front.length + operand.length + n) st
        ⟨e.goes memory (behind a front operand) operand, st'⟩
  | on {a : BitVec w} {front operand : List UInt8} {n : Nat} {st st' : σ} {d : Config w σ}
      (fetch : Fetches set memory a front operand)
      (run : set.effect front (behind a front operand) st = some (st', .next))
      (later : Passes set memory (behind a front operand) n st' d) :
      Passes set memory a (front.length + operand.length + n) st d

theorem passes_zero {st : σ} : Passes set memory a 0 st d ↔ d = ⟨a, st⟩ := by
  constructor
  · intro h
    generalize hZero : 0 = n at h
    cases h with
    | ends => rfl
    | leaves fetch => have := fetch.pos; omega
    | on fetch => have := fetch.pos; omega
  · rintro rfl
    exact .ends a st

/-- **What comes first.** -/
theorem passes_of_fetch (fetch : Fetches set memory a front operand) {st : σ} :
    Passes set memory a (front.length + operand.length + n) st d ↔
      ∃ st' e, set.effect front (behind a front operand) st = some (st', e) ∧
        (e = .next ∧ Passes set memory (behind a front operand) n st' d ∨
          e ≠ .next ∧ d = ⟨e.goes memory (behind a front operand) operand, st'⟩) := by
  constructor
  · intro h
    generalize hAll : front.length + operand.length + n = m at h
    cases h with
    | ends => have := fetch.pos; omega
    | leaves fetch' run elsewhere =>
      obtain ⟨rfl, rfl⟩ := fetch.unique fetch'
      exact ⟨_, _, run, .inr ⟨elsewhere, rfl⟩⟩
    | on fetch' run later =>
      obtain ⟨rfl, rfl⟩ := fetch.unique fetch'
      obtain rfl := Nat.add_left_cancel hAll
      exact ⟨_, _, run, .inl ⟨rfl, later⟩⟩
  · rintro ⟨st', e, hRun, ⟨rfl, hLater⟩ | ⟨hElsewhere, rfl⟩⟩
    · exact .on fetch hRun hLater
    · exact .leaves fetch hRun hElsewhere

/-- An instruction that leads somewhere and does nothing else. -/
structure JumpsTo (set : InstructionSet w σ) (memory : Nat → UInt8) (a : BitVec w)
    (front operand : List UInt8) (target : BitVec w) : Prop where
  fetch : Fetches set memory a front operand
  effect : ∀ next st, set.effect front next st = some (st, .relative)
  leads : leads (behind a front operand) operand = target

theorem JumpsTo.step {target : BitVec w} (h : JumpsTo set memory a front operand target) (st : σ) :
    Step set memory ⟨a, st⟩ .relative ⟨target, st⟩ := by
  have hStep := Step.intro h.fetch (h.effect (behind a front operand) st)
  rw [Exit.goes, h.leads] at hStep
  exact hStep

/-- **Moved code with a jump back** leads exactly where the code led, with the same state. -/
theorem Moved.passes_iff (h : Moved set memory memory' a b n)
    (hBack : JumpsTo set memory' (b + BitVec.ofNat w n) front operand (a + BitVec.ofNat w n))
    {st : σ} : Passes set memory a n st d ↔
      Passes set memory' b (n + (front.length + operand.length)) st d := by
  -- on the instructions; the jump comes behind the last one
  induction h generalizing st with
  | done a b =>
    have hFetch : Fetches set memory' b front operand := by simpa using hBack.fetch
    have hLeads : leads (behind b front operand) operand = a := by simpa using hBack.leads
    have hJump := @passes_of_fetch w σ set memory' b front operand d 0 hFetch st
    rw [Nat.add_zero] at hJump
    rw [passes_zero, Nat.zero_add, hJump]
    constructor
    · rintro rfl
      exact ⟨st, .relative, hBack.effect _ _, .inr ⟨nofun, by rw [Exit.goes, hLeads]⟩⟩
    · rintro ⟨st', e, hRun, hRest⟩
      cases (hBack.effect _ _).symm.trans hRun
      rcases hRest with ⟨hNext, -⟩ | ⟨-, rfl⟩
      · cases hNext
      · rw [Exit.goes, hLeads]
  | next fetch copy same portable later ih =>
    rename_i a b first op op' n
    have hLength := fetch.length_eq copy
    have hBehind (st' : σ) := @ih (by rwa [behind_add, behind_add, ← hLength]) st'
    rw [Nat.add_assoc (first.length + op.length), passes_of_fetch fetch]
    conv_rhs => rw [hLength]
    rw [passes_of_fetch copy]
    constructor
    · rintro ⟨st', e, hRun, hRest⟩
      refine ⟨st', e, (portable.anywhere _ _ st).trans hRun, ?_⟩
      rcases hRest with ⟨rfl, hRest⟩ | ⟨hElsewhere, rfl⟩
      · exact .inl ⟨rfl, (hBehind st').mp hRest⟩
      · refine .inr ⟨hElsewhere, ?_⟩
        have hStep := moved_goes copy same portable hRun
        rw [if_neg hElsewhere] at hStep
        exact (hStep.unique (.intro copy ((portable.anywhere _ _ st).trans hRun))).2
    · rintro ⟨st', e, hRun, hRest⟩
      have hRun' := (portable.anywhere (behind a first op) _ st).trans hRun
      refine ⟨st', e, hRun', ?_⟩
      rcases hRest with ⟨rfl, hRest⟩ | ⟨hElsewhere, rfl⟩
      · exact .inl ⟨rfl, (hBehind st').mpr hRest⟩
      · refine .inr ⟨hElsewhere, ?_⟩
        have hStep := moved_goes copy same portable hRun'
        rw [if_neg hElsewhere] at hStep
        exact ((Step.intro copy hRun).unique hStep).2

/-! ## A way to the copy -/

/-- The address is one of the `n` from `a` on. -/
def InBlock (a : BitVec w) (n : Nat) (x : BitVec w) : Prop := (x - a).toNat < n

instance (a : BitVec w) (n : Nat) (x : BitVec w) : Decidable (InBlock a n x) :=
  inferInstanceAs (Decidable (_ < _))

theorem inBlock_add {k n : Nat} (h : n < 2 ^ w) (hk : k ≤ n) (a : BitVec w) :
    InBlock a n (a + BitVec.ofNat w k) ↔ k < n := by
  rw [InBlock, add_sub_cancel_left, BitVec.toNat_ofNat, Nat.mod_eq_of_lt (by omega)]

/-- What comes in at `a` is changed by `f`. -/
def entering (f : σ → σ) (a : BitVec w) (c : Config w σ) : Config w σ :=
  if c.pc = a then ⟨a, f c.state⟩ else c

/-- The `n` bytes from `a` on were moved to `b`, and where they lay there is a way to the copy,
on which `f` is done; there is a way back behind the copy. `changed` is what differs between the
two stores. -/
structure Rerouted (set : InstructionSet w σ) (memory memory' : Nat → UInt8)
    (changed : Nat → Prop) (f : σ → σ) (a b : BitVec w) (n : Nat) : Prop where
  pos : 0 < n
  small : n < 2 ^ w
  moved : Moved set memory memory' a b n
  enter : ∀ st, Reaches set memory' ⟨a, st⟩ ⟨b, f st⟩
  back : ∀ st, Reaches set memory' ⟨b + BitVec.ofNat w n, st⟩ ⟨a + BitVec.ofNat w n, st⟩
  unchanged : ∀ x, ¬changed x → memory x = memory' x

/-- A step of a program that enters the block at its start only, and has no instruction or slot
elsewhere where something was changed. -/
structure Regular (set : InstructionSet w σ) (memory : Nat → UInt8) (changed : Nat → Prop)
    (a : BitVec w) (n : Nat) (c : Config w σ) (e : Exit w) (d : Config w σ) : Prop where
  step : Step set memory c e d
  enters : InBlock a n d.pc → d.pc = a ∨ InBlock a n c.pc ∧ e = .next
  code : ¬InBlock a n c.pc → ∀ front operand, Fetches set memory c.pc front operand →
    ∀ x, c.pc.toNat ≤ x → x < c.pc.toNat + (front.length + operand.length) → ¬changed x
  slots : ¬InBlock a n c.pc → ∀ slot, e = .through slot →
    ∀ x, slot.toNat ≤ x → x < slot.toNat + w / 8 → ¬changed x

/-- A step of the program in which `f` is done whenever the block is entered. -/
def Intercepted (set : InstructionSet w σ) (memory : Nat → UInt8) (changed : Nat → Prop)
    (f : σ → σ) (a : BitVec w) (n : Nat) (c : Config w σ) (e : Exit w) (d : Config w σ) : Prop :=
  ∃ d₀, Regular set memory changed a n c e d₀ ∧ d = entering f a d₀

/-- Where the program is, and where it is after the change: at the same place outside the block,
on its way into the block, or at the same place of the copy. -/
inductive Corresponds (set : InstructionSet w σ) (memory memory' : Nat → UInt8) (f : σ → σ)
    (a b : BitVec w) (n : Nat) : Config w σ → Config w σ → Prop
  | same {c : Config w σ} (out : ¬InBlock a n c.pc) : Corresponds set memory memory' f a b n c c
  | enters (st : σ) : Corresponds set memory memory' f a b n ⟨a, f st⟩ ⟨a, st⟩
  | copy {k rest : Nat} {st : σ} (split : k + rest = n) (pos : 0 < rest)
      (moved : Moved set memory memory' (a + BitVec.ofNat w k) (b + BitVec.ofNat w k) rest) :
      Corresponds set memory memory' f a b n
        ⟨a + BitVec.ofNat w k, st⟩ ⟨b + BitVec.ofNat w k, st⟩

namespace Rerouted

variable {changed : Nat → Prop} {f : σ → σ} {t u : Config w σ} {e : Exit w}

theorem corresponds_entering (hStart : InBlock a n c.pc → c.pc = a) :
    Corresponds set memory memory' f a b n (entering f a c) c := by
  unfold entering
  split
  · rename_i hPc
    obtain ⟨pc, st⟩ := c
    cases hPc
    exact .enters st
  · rename_i hPc
    exact .same fun hIn => hPc (hStart hIn)

/-- A step in the copy. -/
theorem step_copy (h : Rerouted set memory memory' changed f a b n) {k rest : Nat} {st : σ}
    (hSplit : k + rest = n) (hPos : 0 < rest)
    (hMoved : Moved set memory memory' (a + BitVec.ofNat w k) (b + BitVec.ofNat w k) rest)
    (hStep : Regular set memory changed a n ⟨a + BitVec.ofNat w k, st⟩ e u) :
    ∃ u', Reaches set memory' ⟨b + BitVec.ofNat w k, st⟩ u' ∧
      Corresponds set memory memory' f a b n (entering f a u) u' := by
  generalize hA : a + BitVec.ofNat w k = x at hMoved hStep
  generalize hB : b + BitVec.ofNat w k = y at hMoved
  cases hMoved with
  | done => exact absurd hPos (Nat.lt_irrefl 0)
  | next fetch copy same portable later =>
    rename_i front operand operand' left
    have hLength := fetch.length_eq copy
    have hEnters := hStep.enters
    have hSize := fetch.pos
    cases hStep.step with
    | intro fetch' run =>
      obtain ⟨rfl, rfl⟩ := fetch.unique fetch'
      have hCopy := moved_goes copy same portable run
      by_cases hNext : e = .next
      -- on to the next instruction, or behind the last one and back
      · subst hNext
        rw [if_pos rfl] at hCopy
        have hOn : behind x front operand =
            a + BitVec.ofNat w (k + (front.length + operand.length)) := by
          rw [behind, ← hA, add_assoc, ← BitVec.ofNat_add]
        have hOnCopy : behind y front operand' =
            b + BitVec.ofNat w (k + (front.length + operand.length)) := by
          rw [behind, ← hB, hLength, add_assoc, ← BitVec.ofNat_add]
        rw [Exit.goes, hOn]
        rw [hOnCopy] at hCopy
        by_cases hLeft : left = 0
        · have hAll : k + (front.length + operand.length) = n := by omega
          rw [hAll] at hCopy ⊢
          refine ⟨_, (Reaches.of_step hCopy).trans (h.back _), corresponds_entering fun hIn => ?_⟩
          exact absurd ((inBlock_add h.small (Nat.le_refl n) a).mp hIn) (Nat.lt_irrefl n)
        · have hOnPos : 0 < k + (front.length + operand.length) := by omega
          have hSmall := h.small
          have hInside : a + BitVec.ofNat w (k + (front.length + operand.length)) ≠ a := by
            intro hSame
            -- the start would lie behind the block that ends there
            have hBehind := inBlock_add (n := k + (front.length + operand.length)) (by omega)
              (Nat.le_refl _) a
            rw [hSame, InBlock, sub_self] at hBehind
            exact absurd (hBehind.mp hOnPos) (Nat.lt_irrefl _)
          refine ⟨_, .of_step hCopy, ?_⟩
          rw [entering, if_neg hInside]
          rw [hOn, hOnCopy] at later
          exact .copy (by omega) (by omega) later
      · rw [if_neg hNext] at hCopy
        refine ⟨_, .of_step hCopy, corresponds_entering fun hIn => ?_⟩
        rcases hEnters hIn with hStart | ⟨-, hOn⟩
        · exact hStart
        · exact absurd hOn hNext

/-- A step elsewhere. -/
theorem step_same (h : Rerouted set memory memory' changed f a b n) (hOut : ¬InBlock a n t.pc)
    (hStep : Regular set memory changed a n t e u) :
    ∃ u', Reaches set memory' t u' ∧
      Corresponds set memory memory' f a b n (entering f a u) u' := by
  have hEnters := hStep.enters
  have hSlots := hStep.slots hOut
  have hCode := hStep.code hOut
  cases hStep.step with
  | intro fetch run =>
    rename_i x front operand st st'
    have hFetch : Fetches set memory' x front operand := fetch.congr fun y hLow hHigh =>
      h.unchanged y (hCode front operand fetch y hLow hHigh)
    have hGoes : e.goes memory' (behind x front operand) operand =
        e.goes memory (behind x front operand) operand := by
      cases e with
      | through slot =>
        rw [Exit.goes, Exit.goes, pointerAt, pointerAt]
        rw [slice_congr fun y hLow hHigh => h.unchanged y (hSlots slot rfl y hLow hHigh)]
      | next => rfl
      | relative => rfl
      | absolute => rfl
    have hSame := Step.intro hFetch run
    rw [hGoes] at hSame
    refine ⟨_, .of_step hSame, corresponds_entering fun hIn => ?_⟩
    rcases hEnters hIn with hStart | ⟨hBlock, -⟩
    · exact hStart
    · exact absurd hBlock hOut

/-- **Step.** -/
theorem step (h : Rerouted set memory memory' changed f a b n) {t' : Config w σ}
    (hCorresponds : Corresponds set memory memory' f a b n t t')
    (hStep : Intercepted set memory changed f a n t e u) :
    ∃ u', Reaches set memory' t' u' ∧ Corresponds set memory memory' f a b n u u' := by
  obtain ⟨u, hStep, rfl⟩ := hStep
  cases hCorresponds with
  | same out => exact h.step_same out hStep
  | copy split pos moved => exact h.step_copy split pos moved hStep
  -- at the start of the block the way leads to the copy
  | enters st =>
    have hStart : ∀ y : BitVec w, y + BitVec.ofNat w 0 = y := fun y => by simp
    have hMoved : Moved set memory memory' (a + BitVec.ofNat w 0) (b + BitVec.ofNat w 0) n := by
      rw [hStart, hStart]
      exact h.moved
    obtain ⟨u', hReaches, hNext⟩ := h.step_copy (Nat.zero_add n) h.pos hMoved
      (by rwa [hStart])
    rw [hStart] at hReaches
    exact ⟨u', (h.enter st).trans hReaches, hNext⟩

/-- **Run.** What the program with `f` on the way into the block reaches, the changed one
reaches. -/
theorem simulates (h : Rerouted set memory memory' changed f a b n) {es : List (Exit w)}
    (hRun : Runs (Intercepted set memory changed f a n) c es d) (hOut : ¬InBlock a n c.pc) :
    ∃ d', Reaches set memory' c d' ∧ Corresponds set memory memory' f a b n d d' := by
  refine hRun.invariant
    (I := fun _ t => ∃ t', Reaches set memory' c t' ∧ Corresponds set memory memory' f a b n t t')
    ⟨c, .refl c, .same hOut⟩ ?_
  rintro ls t e u - ⟨t', hReaches, hCorresponds⟩ hStep
  obtain ⟨u', hOn, hNext⟩ := h.step hCorresponds hStep
  exact ⟨u', hReaches.trans hOn, hNext⟩

/-- Outside the block, the place and the state are the same. -/
theorem eq_of_corresponds (h : Rerouted set memory memory' changed f a b n)
    (hOut : ¬InBlock a n t.pc) (hCorresponds : Corresponds set memory memory' f a b n t u) :
    t = u := by
  cases hCorresponds with
  | same => rfl
  | enters st =>
    refine absurd ?_ hOut
    rw [InBlock, sub_self]
    exact h.pos
  | copy split pos =>
    refine absurd ?_ hOut
    exact (inBlock_add h.small (by omega) a).mpr (by omega)

end Rerouted

end

end Machine
