import Mathlib.Data.Int.Order.Basic
import Mathlib.Order.Basic
import Mathlib.Tactic

set_option autoImplicit false

/-! # Monotonic time

`std::time::Instant` and `std::time::Duration`, in nanoseconds. A `Duration` is a natural
number. An `Instant` is a point of the monotonic clock that the platform can represent: on
Linux a signed 64-bit number of seconds and a fraction, on Windows a nonnegative `Duration`
since the boot epoch. The bounds are part of the type, so `instant ± duration` is partial and
`none` is the panic of `Instant::add` and `Instant::sub`.
-/

namespace Narrowd

/-- The platforms the daemon is built for, as far as clocks and paths differ on them. -/
inductive Platform
  | linux
  | windows
  deriving DecidableEq, Repr

/-- `u64::MAX`. -/
def u64Max : Nat := 2 ^ 64 - 1

/-- The earliest representable instant, in nanoseconds. -/
def Platform.instantMin : Platform → Int
  | .linux => -(2 ^ 63 * 1000000000)
  | .windows => 0

/-- The latest representable instant, in nanoseconds. -/
def Platform.instantMax : Platform → Int
  | .linux => (2 ^ 63 - 1) * 1000000000 + 999999999
  | .windows => (2 ^ 64 - 1) * 1000000000 + 999999999

/-- A span of time, in nanoseconds. -/
abbrev Duration := Nat

namespace Duration

def fromSecs (secs : Nat) : Duration := secs * 1000000000

def fromMillis (millis : Nat) : Duration := millis * 1000000

/-- `Duration::MAX`. -/
def max : Duration := u64Max * 1000000000 + 999999999

def saturatingMul (d : Duration) (factor : Nat) : Duration := min (d * factor) max

end Duration

/-- A representable point of the platform's monotonic clock. -/
@[ext]
structure Instant (p : Platform) where
  ns : Int
  min_le : p.instantMin ≤ ns
  le_max : ns ≤ p.instantMax
  deriving DecidableEq

variable {d : Duration}

namespace Instant

variable {p : Platform}

theorem ns_injective : Function.Injective (Instant.ns : Instant p → Int) :=
  fun _ _ h => Instant.ext h

instance : LinearOrder (Instant p) := LinearOrder.lift' Instant.ns ns_injective

variable {i j : Instant p}

theorem le_iff : i ≤ j ↔ i.ns ≤ j.ns := Iff.rfl

theorem lt_iff : i < j ↔ i.ns < j.ns := Iff.rfl

/-- The epoch of the clock. -/
def zero (p : Platform) : Instant p :=
  ⟨0, by cases p <;> decide, by cases p <;> decide⟩

/-- The instant at `n` nanoseconds, if there is one. -/
def ofNs? (p : Platform) (n : Int) : Option (Instant p) :=
  if h : p.instantMin ≤ n ∧ n ≤ p.instantMax then some ⟨n, h.1, h.2⟩ else none

/-- `Instant + Duration`; `none` is the panic on overflow. -/
def checkedAdd (i : Instant p) (d : Duration) : Option (Instant p) := ofNs? p (i.ns + d)

/-- `Instant - Duration`; `none` is the panic on underflow. -/
def checkedSub (i : Instant p) (d : Duration) : Option (Instant p) := ofNs? p (i.ns - d)

/-- `saturating_duration_since`: zero when `earlier` is the later of the two. -/
def saturatingDurationSince (i earlier : Instant p) : Duration := (i.ns - earlier.ns).toNat

/-- Instants are no further apart than the longest `Duration`. -/
theorem saturatingDurationSince_le_max (i earlier : Instant p) :
    i.saturatingDurationSince earlier ≤ Duration.max := by
  have hmax := i.le_max
  have hmin := earlier.min_le
  show (i.ns - earlier.ns).toNat ≤ ((2 ^ 64 - 1) * 1000000000 + 999999999 : Nat)
  cases p <;> simp only [Platform.instantMin, Platform.instantMax] at hmin hmax <;> omega

/-- A span from the same instant to a later one is longer. -/
theorem saturatingDurationSince_le (h : i ≤ j) (earlier : Instant p) :
    i.saturatingDurationSince earlier ≤ j.saturatingDurationSince earlier := by
  have hns := le_iff.mp h
  unfold saturatingDurationSince
  exact Int.toNat_le_toNat (by omega)

/-! ## When the arithmetic succeeds -/

theorem ofNs?_eq_some {n : Int} : ofNs? p n = some i ↔ i.ns = n := by
  unfold ofNs?
  split
  · next h =>
      constructor
      · intro hi; cases hi; rfl
      · intro hi; subst hi; rfl
  · next h =>
      constructor
      · intro hi; cases hi
      · intro hi; exact absurd ⟨hi ▸ i.min_le, hi ▸ i.le_max⟩ h

theorem checkedAdd_eq_some :
    i.checkedAdd d = some j ↔ j.ns = i.ns + d := ofNs?_eq_some

theorem checkedSub_eq_some :
    i.checkedSub d = some j ↔ j.ns = i.ns - d := ofNs?_eq_some

theorem ofNs?_isSome {n : Int} :
    (ofNs? p n).isSome ↔ p.instantMin ≤ n ∧ n ≤ p.instantMax := by
  unfold ofNs?
  split <;> simp_all

/-- Adding a duration can only overflow upwards. -/
theorem checkedAdd_isSome : (i.checkedAdd d).isSome ↔ i.ns + d ≤ p.instantMax := by
  have := i.min_le
  rw [checkedAdd, ofNs?_isSome]
  omega

/-- Subtracting a duration can only overflow downwards. -/
theorem checkedSub_isSome : (i.checkedSub d).isSome ↔ p.instantMin ≤ i.ns - d := by
  have := i.le_max
  rw [checkedSub, ofNs?_isSome]
  omega

end Instant

end Narrowd
