import BidSystem.Outbox.Contract
import Mathlib.Tactic.Linarith

/-!
# Backoff

The time of the next attempt: `base_delay_seconds`, doubled with every attempt and
bounded by `max_delay_seconds`, and rounded to microseconds by `timedelta`.

`apply_failure` releases the claim before it computes that time.  The power of
two may be too large for a `float`, the delay for a `timedelta`, and the time for
a `datetime`; each raises, and then the event is left without its claim but still
processing.
-/

namespace BidSystem.Outbox

/-- The microseconds of `timedelta(seconds=seconds)`. -/
def microseconds (seconds : ℚ) : Duration := roundHalfEven (seconds.num * second) seconds.den

/-- The delay after so many attempts, in seconds. -/
def backoff (policy : RetryPolicy) (attemptCount : ℕ) : ℚ :=
  min (policy.baseDelaySeconds * 2 ^ (attemptCount - 1)) policy.maxDelaySeconds

/-- The time of the next attempt can be computed. -/
structure Representable (policy : RetryPolicy) (attemptCount : ℕ) (now : Instant) : Prop where
  power : attemptCount ≤ 1024
  duration : -999999999 * 86400 * second ≤ microseconds (backoff policy attemptCount) ∧
    microseconds (backoff policy attemptCount) < 1000000000 * 86400 * second
  calendar : InCalendar (now + microseconds (backoff policy attemptCount))

/-! ## Rounding -/

/-- A rounded quotient is at most one half away, and even if it is exactly one half away. -/
theorem roundHalfEven_spec (numerator : ℤ) {denominator : ℤ} (positive : 0 < denominator) :
    2 * numerator - denominator ≤ 2 * (roundHalfEven numerator denominator * denominator) ∧
      2 * (roundHalfEven numerator denominator * denominator) ≤ 2 * numerator + denominator ∧
      (roundHalfEven numerator denominator % 2 = 0 ∨
        (2 * numerator - denominator < 2 * (roundHalfEven numerator denominator * denominator) ∧
          2 * (roundHalfEven numerator denominator * denominator) < 2 * numerator + denominator)) := by
  have split := Int.emod_add_mul_ediv numerator denominator
  have low := Int.emod_nonneg numerator positive.ne'
  have high := Int.emod_lt_of_pos numerator positive
  unfold roundHalfEven
  dsimp only
  generalize numerator / denominator = quotient at split ⊢
  generalize numerator % denominator = rest at split low high ⊢
  have product : denominator * quotient = quotient * denominator := mul_comm _ _
  have next : (quotient + 1) * denominator = quotient * denominator + denominator := by ring
  rw [product] at split
  split_ifs with below above even
  · refine ⟨by omega, by omega, .inr ⟨by omega, by omega⟩⟩
  · rw [next]
    refine ⟨by omega, by omega, .inr ⟨by omega, by omega⟩⟩
  · exact ⟨by omega, by omega, .inl even⟩
  · rw [next]
    exact ⟨by omega, by omega, .inl (by omega)⟩

/-- **Rounding is monotone** in the quotient. -/
theorem roundHalfEven_mono {first second firstBelow secondBelow : ℤ} (firstPositive : 0 < firstBelow)
    (secondPositive : 0 < secondBelow) (ordered : first * secondBelow ≤ second * firstBelow) :
    roundHalfEven first firstBelow ≤ roundHalfEven second secondBelow := by
  obtain ⟨-, highFirst, tieFirst⟩ := roundHalfEven_spec first firstPositive
  obtain ⟨lowSecond, -, tieSecond⟩ := roundHalfEven_spec second secondPositive
  generalize roundHalfEven first firstBelow = rounded at *
  generalize roundHalfEven second secondBelow = other at *
  by_contra greater
  have both : 0 < firstBelow * secondBelow := mul_pos firstPositive secondPositive
  -- Both quotients are then one half above `other`, and both roundings are even.
  have lower : (2 * rounded - 1) * (firstBelow * secondBelow) ≤ 2 * (first * secondBelow) := by
    nlinarith [mul_le_mul_of_nonneg_right highFirst secondPositive.le]
  have upper : 2 * (second * firstBelow) ≤ (2 * other + 1) * (firstBelow * secondBelow) := by
    nlinarith [mul_le_mul_of_nonneg_right lowSecond firstPositive.le]
  have close : 2 * rounded - 1 ≤ 2 * other + 1 := by
    refine le_of_mul_le_mul_right (lower.trans (le_trans ?_ upper)) both
    omega
  have same : rounded = other + 1 := by omega
  rw [same] at lower
  have evenFirst : rounded % 2 = 0 := by
    refine tieFirst.resolve_right fun strict => ?_
    rw [same] at strict
    nlinarith [mul_lt_mul_of_pos_right strict.2 secondPositive]
  have evenSecond : other % 2 = 0 := by
    refine tieSecond.resolve_right fun strict => ?_
    nlinarith [mul_lt_mul_of_pos_right strict.1 firstPositive]
  omega

theorem microseconds_mono {first second : ℚ} (ordered : first ≤ second) :
    microseconds first ≤ microseconds second := by
  unfold microseconds
  refine roundHalfEven_mono (by exact_mod_cast first.den_pos) (by exact_mod_cast second.den_pos) ?_
  have cross := (Rat.le_iff first second).mp ordered
  have positive : 0 < BidSystem.second := by decide
  nlinarith

/-! ## The time of the next attempt -/

section Retry

variable {policy : RetryPolicy} {attemptCount : ℕ} {now : Instant}

/-- The delay is never below the base and never above the maximum. -/
theorem backoff_bounds (policy : RetryPolicy) (attemptCount : ℕ) :
    policy.baseDelaySeconds ≤ backoff policy attemptCount ∧
      backoff policy attemptCount ≤ policy.maxDelaySeconds := by
  have grows : (1 : ℚ) ≤ 2 ^ (attemptCount - 1) := one_le_pow₀ (by norm_num)
  refine ⟨le_min ?_ policy.maxDelayNotBelowBase, min_le_right _ _⟩
  exact le_mul_of_one_le_right policy.baseDelayPositive.le grows

theorem timedeltaSeconds_ok_iff {seconds : ℚ} {duration : Duration} :
    timedeltaSeconds seconds = .ok duration ↔
      (-999999999 * 86400 * second ≤ microseconds seconds ∧
        microseconds seconds < 1000000000 * 86400 * second) ∧ duration = microseconds seconds := by
  unfold timedeltaSeconds
  dsimp only
  split_ifs with inside
  · exact ⟨fun same => ⟨inside, (Except.ok.inj same).symm⟩, fun same => congrArg _ same.2.symm⟩
  · exact ⟨nofun, fun same => absurd same.1 inside⟩

/-- **When the time of the next attempt can be computed**, and what it is. -/
theorem retryAt_ok_iff (attempted : 1 ≤ attemptCount) {availableAt : Instant} :
    OutboxEvent.retryAt policy attemptCount now = .ok availableAt ↔
      Representable policy attemptCount now ∧
        availableAt = now + microseconds (backoff policy attemptCount) := by
  have exponent : (attemptCount : ℤ) - 1 = ((attemptCount - 1 : ℕ) : ℤ) := by omega
  have delay (power : ℚ) (isPower : power = 2 ^ (attemptCount - 1)) :
      min (policy.baseDelaySeconds * power) policy.maxDelaySeconds = backoff policy attemptCount := by
    rw [isPower, backoff]
  unfold OutboxEvent.retryAt floatPower
  rw [bind_ok_iff]
  constructor
  · rintro ⟨power, isPower, rest⟩
    split_ifs at isPower with tooLarge
    cases isPower
    rw [bind_ok_iff] at rest
    obtain ⟨duration, isDuration, isTime⟩ := rest
    rw [exponent, zpow_natCast, delay _ rfl] at isDuration
    obtain ⟨inside, rfl⟩ := timedeltaSeconds_ok_iff.mp isDuration
    obtain ⟨inCalendar, same⟩ := datetimeOf_ok_iff.mp isTime
    exact ⟨⟨by omega, inside, inCalendar⟩, same⟩
  · rintro ⟨⟨power, inside, inCalendar⟩, rfl⟩
    refine ⟨_, if_neg (by omega), ?_⟩
    rw [bind_ok_iff]
    refine ⟨microseconds (backoff policy attemptCount), ?_, datetimeOf_ok_iff.mpr ⟨inCalendar, rfl⟩⟩
    rw [exponent, zpow_natCast, delay _ rfl]
    exact timedeltaSeconds_ok_iff.mpr ⟨inside, rfl⟩

end Retry

namespace OutboxEvent

/-- What `apply_failure` may do: raise and leave the event alone, put it back for
a time within the bounds, or give it up. -/
def Recovers (policy : RetryPolicy) (now : Instant) (event : OutboxEvent)
    (result : Except PyError Unit × OutboxEvent) : Prop :=
  (∃ raised, result.1 = .error raised ∧ result.2 = event) ∨
    result.1 = .ok () ∧ result.2.claimedAt = none ∧ result.2.claimedUntil = none ∧
      result.2.claimToken = none ∧ result.2.lastError.isSome = true ∧
      (result.2.status = .deadLetter ∨
        result.2.status = .pending ∧
          now + microseconds policy.baseDelaySeconds ≤ result.2.availableAt ∧
          result.2.availableAt ≤ now + microseconds policy.maxDelaySeconds)

variable {event : OutboxEvent} {claimToken : String}

/-- The holder of a claim has put the event back or given it up, if the time of
the next attempt is not needed or can be computed. -/
theorem recovers_of_representable (holding : event.holds claimToken = true)
    (attempted : 1 ≤ event.attemptCount) {policy : RetryPolicy} {now : Instant} {error : String}
    (possible : policy.maxAttempts ≤ event.attemptCount ∨
      Representable policy event.attemptCount now) :
    Recovers policy now event (event.applyFailure claimToken now error policy) := by
  unfold applyFailure
  rw [if_pos holding]
  by_cases exhausted : policy.maxAttempts ≤ event.attemptCount
  · rw [if_pos exhausted]
    exact .inr ⟨rfl, rfl, rfl, rfl, rfl, .inl rfl⟩
  · rw [if_neg exhausted, (retryAt_ok_iff attempted).mpr ⟨possible.resolve_left exhausted, rfl⟩]
    obtain ⟨atLeast, atMost⟩ := backoff_bounds policy event.attemptCount
    have aboveBase := microseconds_mono atLeast
    have belowMax := microseconds_mono atMost
    exact .inr ⟨rfl, rfl, rfl, rfl, rfl, .inr ⟨rfl, Int.add_le_add_left aboveBase now,
      Int.add_le_add_left belowMax now⟩⟩

/-- Otherwise the event has lost its claim and nothing else has happened. -/
theorem not_recovers (holding : event.holds claimToken = true)
    (attempted : 1 ≤ event.attemptCount) {policy : RetryPolicy} {now : Instant} {error : String}
    (fewer : event.attemptCount < policy.maxAttempts)
    (impossible : ¬ Representable policy event.attemptCount now) :
    ¬ Recovers policy now event (event.applyFailure claimToken now error policy) := by
  have raises : ∃ raised, retryAt policy event.attemptCount now = .error raised := by
    cases retry : retryAt policy event.attemptCount now with
    | error raised => exact ⟨raised, rfl⟩
    | ok availableAt => exact absurd ((retryAt_ok_iff attempted).mp retry).1 impossible
  obtain ⟨raised, retry⟩ := raises
  unfold applyFailure
  rw [if_pos holding, if_neg (not_le.mpr fewer), retry]
  rintro (⟨_, -, same⟩ | ⟨ok, -⟩)
  · have lost := congrArg OutboxEvent.claimToken same
    rw [(holds_iff.mp holding).2] at lost
    cases lost
  · cases ok

/-- Two attempts, three million years apart. -/
def slowRetry : RetryPolicy where
  maxAttempts := 2
  baseDelaySeconds := 100000000000000
  maxDelaySeconds := 100000000000000
  maxAttemptsAtLeastOne := by decide
  baseDelayPositive := by decide
  maxDelayNotBelowBase := le_refl _

end OutboxEvent

end BidSystem.Outbox
