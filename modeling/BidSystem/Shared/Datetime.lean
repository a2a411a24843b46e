import BidSystem.Shared.Python
import Mathlib.Algebra.Order.Ring.Int
import Mathlib.Data.Int.Order.Lemmas
import Mathlib.Tactic.GCongr
import Mathlib.Tactic.Positivity
import Mathlib.Tactic.Ring

/-!
# Timezone-aware datetimes

`datetime` has the years 1 to 9999.  An aware datetime is a wall clock reading
in that range with an offset from UTC, and its UTC reading can be outside of it.

`int(value.timestamp())` goes through a `float`: the microseconds since the
epoch are divided by a million, correctly rounded to 53 significant bits, and
truncated.  Up to the year 2242 that is plain truncation; in the last
microseconds of the year 9999 it is the year 10000.

`datetime.fromtimestamp(seconds, tz=UTC)` fails in three ways, depending on how
far out of range the timestamp is.
-/

namespace BidSystem

/-- The first second of the year 1, since the epoch. -/
def minTimestamp : ℤ := -62135596800

/-- The last second of the year 9999, since the epoch. -/
def maxTimestamp : ℤ := 253402300799

/-- `datetime` can hold this reading. -/
def InCalendar (reading : ℤ) : Prop :=
  minTimestamp * second ≤ reading ∧ reading < (maxTimestamp + 1) * second

instance (reading : ℤ) : Decidable (InCalendar reading) :=
  inferInstanceAs (Decidable (_ ∧ _))

/-- A timezone-aware `datetime`: what its wall clock shows, and its offset from UTC. -/
structure AwareDatetime where
  wall : ℤ
  utcoffset : Duration
  inCalendar : InCalendar wall

/-- The instant of a datetime. -/
def AwareDatetime.instant (value : AwareDatetime) : Instant := value.wall - value.utcoffset

/-- A result that `datetime` may not be able to hold. -/
def datetimeOf (instant : Instant) : Except PyError Instant :=
  if InCalendar instant then .ok instant else .error .overflowError

/-- `value.astimezone(UTC)`. -/
def AwareDatetime.astimezoneUtc (value : AwareDatetime) : Except PyError Instant :=
  datetimeOf value.instant

theorem datetimeOf_ok_iff {instant : Instant} {result : Instant} :
    datetimeOf instant = .ok result ↔ InCalendar instant ∧ result = instant := by
  unfold datetimeOf
  split_ifs with inside
  · exact ⟨fun same => ⟨inside, (Except.ok.inj same).symm⟩, fun holds => congrArg _ holds.2.symm⟩
  · exact ⟨nofun, fun holds => absurd holds.1 inside⟩

/-! ## Whole seconds -/

/-- The quotient rounded to the nearest integer, half to even. -/
def roundHalfEven (numerator : ℤ) (denominator : ℤ) : ℤ :=
  let quotient := numerator / denominator
  let rest := numerator % denominator
  if 2 * rest < denominator then quotient
  else if denominator < 2 * rest then quotient + 1
  else if quotient % 2 = 0 then quotient
  else quotient + 1

/-- `int(value.timestamp())`.  Below one second a `float` has more binary places
than are kept here, which truncation drops. -/
def wholeSeconds (instant : Instant) : ℤ :=
  let places := 52 - Nat.log2 (instant.natAbs / 1000000)
  (roundHalfEven (instant * 2 ^ places) second).tdiv (2 ^ places)

/-- Rounding does not go below an integer. -/
theorem le_roundHalfEven {numerator denominator bound : ℤ} (positive : 0 < denominator)
    (above : bound * denominator ≤ numerator) : bound ≤ roundHalfEven numerator denominator := by
  have quotient : bound ≤ numerator / denominator := (Int.le_ediv_iff_mul_le positive).mpr above
  unfold roundHalfEven
  dsimp only
  split_ifs <;> omega

/-- Whole seconds do not go below a whole second. -/
theorem le_wholeSeconds {seconds : ℤ} {instant : Instant} (above : seconds * second ≤ instant) :
    seconds ≤ wholeSeconds instant := by
  unfold wholeSeconds
  generalize 52 - Nat.log2 (instant.natAbs / 1000000) = places
  have positive : (0 : ℤ) < 2 ^ places := by positivity
  have scaled : seconds * 2 ^ places * second ≤ instant * 2 ^ places := by
    calc seconds * 2 ^ places * second = seconds * second * 2 ^ places := by ring
      _ ≤ instant * 2 ^ places := by gcongr
  have rounded := le_roundHalfEven (by decide) scaled
  calc seconds = (seconds * 2 ^ places).tdiv (2 ^ places) :=
        (Int.mul_tdiv_cancel _ positive.ne').symm
    _ ≤ _ := Int.tdiv_le_tdiv positive rounded

/-- **From 1970 to the year 2514** whole seconds are the seconds that have passed. -/
theorem wholeSeconds_eq_ediv {instant : ℤ} (past : 0 ≤ instant)
    (near : instant < 2 ^ 34 * second) : wholeSeconds instant = instant / second := by
  have small : instant.natAbs / 1000000 < 2 ^ 34 := by
    unfold second at near
    omega
  have exponent : Nat.log2 (instant.natAbs / 1000000) ≤ 33 := by
    by_cases zero : instant.natAbs / 1000000 = 0
    · rw [zero]
      decide
    · exact Nat.lt_succ_iff.mp ((Nat.log2_lt zero).mpr small)
  refine le_antisymm ?_ (le_wholeSeconds (Int.ediv_mul_le _ (by decide)))
  unfold wholeSeconds
  obtain ⟨places, isPlaces⟩ : ∃ places, places = 52 - Nat.log2 (instant.natAbs / 1000000) :=
    ⟨_, rfl⟩
  rw [← isPlaces]
  have fine : (2 : ℤ) ^ 19 ≤ 2 ^ places := pow_le_pow_right₀ (by decide) (by omega)
  have positive : (0 : ℤ) < 2 ^ places := by positivity
  have next : instant + 1 ≤ (instant / second + 1) * second := by
    unfold second
    omega
  -- The rounding error, half of `second`, is less than the microsecond to the next second.
  have rounded : roundHalfEven (instant * 2 ^ places) second ≤
      (instant / second + 1) * 2 ^ places - 1 := by
    have scaled : (instant + 1) * 2 ^ places ≤ (instant / second + 1) * second * 2 ^ places := by
      gcongr
    have expanded : (instant / second + 1) * second * 2 ^ places =
        ((instant / second + 1) * 2 ^ places) * second := by ring
    have expanded' : (instant + 1) * 2 ^ places = instant * 2 ^ places + 2 ^ places := by ring
    rw [expanded, expanded'] at scaled
    generalize (instant / second + 1) * 2 ^ places = bound at scaled ⊢
    generalize instant * 2 ^ places = numerator at scaled ⊢
    unfold roundHalfEven second at *
    dsimp only
    split_ifs <;> omega
  have nonneg : 0 ≤ roundHalfEven (instant * 2 ^ places) second :=
    le_roundHalfEven (by decide) (by rw [zero_mul]; positivity)
  rw [Int.tdiv_eq_ediv_of_nonneg nonneg]
  refine Int.lt_add_one_iff.mp ((Int.ediv_lt_iff_lt_mul positive).mpr ?_)
  omega

/-- The timestamps that glibc's `gmtime` can break down. -/
def GmtimeSupports (seconds : ℤ) : Prop :=
  -67768040609740800 ≤ seconds ∧ seconds ≤ 67768036191676799

instance (seconds : ℤ) : Decidable (GmtimeSupports seconds) :=
  inferInstanceAs (Decidable (_ ∧ _))

/-- `datetime.fromtimestamp(seconds, tz=UTC)`. -/
def fromTimestamp (seconds : ℤ) : Except PyError Instant :=
  if seconds < -2 ^ 63 ∨ 2 ^ 63 ≤ seconds then .error .overflowError
  else if GmtimeSupports seconds then
    if seconds < minTimestamp ∨ maxTimestamp < seconds then
      .error (.valueError "year is out of range")
    else .ok (seconds * second)
  else .error .osError

/-- A timestamp of the calendar is a datetime. -/
theorem fromTimestamp_of_inCalendar {seconds : ℤ}
    (inside : minTimestamp ≤ seconds ∧ seconds ≤ maxTimestamp) :
    fromTimestamp seconds = .ok (seconds * second) := by
  have supported : GmtimeSupports seconds := by
    unfold GmtimeSupports minTimestamp maxTimestamp at *
    omega
  have notLarge : ¬ (seconds < -2 ^ 63 ∨ 2 ^ 63 ≤ seconds) := by
    unfold GmtimeSupports at supported
    omega
  rw [fromTimestamp, if_neg notLarge, if_pos supported, if_neg (by omega)]

theorem fromTimestamp_ok_iff {seconds : ℤ} {instant : Instant} :
    fromTimestamp seconds = .ok instant ↔
      (minTimestamp ≤ seconds ∧ seconds ≤ maxTimestamp) ∧ instant = seconds * second := by
  constructor
  · intro converted
    by_cases inside : minTimestamp ≤ seconds ∧ seconds ≤ maxTimestamp
    · rw [fromTimestamp_of_inCalendar inside] at converted
      exact ⟨inside, (Except.ok.inj converted).symm⟩
    · have outside : seconds < minTimestamp ∨ maxTimestamp < seconds := by omega
      unfold fromTimestamp at converted
      split_ifs at converted
  · rintro ⟨inside, rfl⟩
    exact fromTimestamp_of_inCalendar inside

/-- **A `ValueError` is all that `fromtimestamp` raises exactly in the range of `gmtime`.** -/
theorem fromTimestamp_escapes_iff {seconds : ℤ} {error : PyError}
    (failed : fromTimestamp seconds = .error error) :
    (∀ message, error ≠ .valueError message) ↔ ¬ GmtimeSupports seconds := by
  unfold fromTimestamp at failed
  split_ifs at failed with tooLarge supported outside
  · cases failed
    refine ⟨fun _ => ?_, fun _ _ => PyError.noConfusion⟩
    unfold GmtimeSupports
    omega
  · cases failed
    exact ⟨fun escapes => absurd rfl (escapes _), fun unsupported => absurd supported unsupported⟩
  · cases failed
    exact ⟨fun _ => supported, fun _ _ => PyError.noConfusion⟩

end BidSystem
