import BidSystem.FixedWindow.Windows
import BidSystem.Shared.Python
import Mathlib.Algebra.Order.Ring.Int
import Mathlib.Tactic.Positivity
import Mathlib.Tactic.NormNum

/-!
# Rate limiting

`RedisRateLimiter.check` over a Redis that runs `FIXED_WINDOW_SCRIPT`.

Redis is a map of counters with deadlines: a key that is missing or past its
deadline counts from one, `INCR` keeps the deadline, and the script is atomic.
A call may fail with a `RedisError` before or after its script has run; the
64-bit bound of a Redis counter is not modelled.

* `checkAll` — a sequence of calls, with what each script run returned.
* `follows_counted` — the script runs on one key are a fixed-window counter.
* `RateLimitPolicy.fixed_window` — what a policy that denies during an outage
  allows.
-/

namespace BidSystem.Security

open FixedWindow

/-! ## Redis -/

/-- A counter and its deadline. -/
structure RedisEntry where
  value : ℕ
  expiresAt : Option Instant
deriving DecidableEq, Repr

/-- The keys of a Redis database. -/
abbrev Redis := String → Option RedisEntry

/-- The deadline has not come. -/
def RedisEntry.live (now : Instant) (entry : RedisEntry) : Bool :=
  entry.expiresAt.all fun expiresAt => now < expiresAt

/-- The entry of a key; a key past its deadline is missing. -/
def Redis.get (redis : Redis) (now : Instant) (key : String) : Option RedisEntry :=
  (redis key).filter (RedisEntry.live now)

/-- `INCR`. -/
def incr (now : Instant) (key : String) (redis : Redis) : ℕ × Redis :=
  match redis.get now key with
  | none => (1, Function.update redis key (some { value := 1, expiresAt := none }))
  | some entry =>
      (entry.value + 1, Function.update redis key (some { entry with value := entry.value + 1 }))

/-- `EXPIRE`, with a positive number of seconds. -/
def expire (now : Instant) (key : String) (seconds : ℕ) (redis : Redis) : Redis :=
  match redis.get now key with
  | none => redis
  | some entry => Function.update redis key (some { entry with expiresAt := some (now + seconds * second) })

/-- `FIXED_WINDOW_SCRIPT`. -/
def fixedWindowScript (now : Instant) (key : String) (windowSeconds : ℕ) (redis : Redis) :
    ℕ × Redis :=
  let (current, redis) := incr now key redis
  if current = 1 then (current, expire now key windowSeconds redis) else (current, redis)

/-! ## The limiter -/

/-- `OutageMode`. -/
inductive OutageMode where
  | deny
  | allow
deriving DecidableEq, Repr

/-- `RateLimitPolicy`, with the check of its constructor. -/
structure RateLimitPolicy where
  capacity : ℕ
  windowSeconds : ℕ
  outageMode : OutageMode
  positive : 1 ≤ capacity ∧ 1 ≤ windowSeconds
deriving DecidableEq, Repr

/-- The length of a window. -/
def RateLimitPolicy.window (policy : RateLimitPolicy) : Duration := policy.windowSeconds * second

/-- `RateLimitDecision`. -/
structure RateLimitDecision where
  allowed : Bool
  remaining : ℕ
  degraded : Bool
deriving DecidableEq, Repr

/-- A `RedisError` or `TimeoutError`, before or after the script has run. -/
inductive Outage where
  | before
  | after
deriving DecidableEq, Repr

/-- A call of `check`. -/
structure RateLimitCall where
  now : Instant
  key : String
  policy : RateLimitPolicy
  outage : Option Outage
deriving DecidableEq, Repr

namespace RateLimitCall

/-- What the script has returned, if it ran. -/
def eval (call : RateLimitCall) (redis : Redis) : Option ℕ × Redis :=
  if call.outage = some .before then (none, redis)
  else
    let script := fixedWindowScript call.now call.key call.policy.windowSeconds redis
    (some script.1, script.2)

/-- The decision, from what the script has returned. -/
def decision (call : RateLimitCall) (current : Option ℕ) : RateLimitDecision :=
  match call.outage, current with
  | none, some count => {
      allowed := count ≤ call.policy.capacity
      remaining := call.policy.capacity - count
      degraded := false }
  | _, _ => {
      allowed := call.policy.outageMode = .allow
      remaining := 0
      degraded := true }

end RateLimitCall

/-- A call, what its script has returned, and its outcome. -/
structure Checked where
  call : RateLimitCall
  current : Option ℕ
  outcome : Except PyError RateLimitDecision

/-- `RedisRateLimiter.check`. -/
def check (call : RateLimitCall) (redis : Redis) : Checked × Redis :=
  if blank call.key then
    ({ call := call, current := none,
       outcome := .error (.valueError "Rate-limit key must not be blank") }, redis)
  else
    let evaluation := call.eval redis
    ({ call := call, current := evaluation.1, outcome := .ok (call.decision evaluation.1) },
      evaluation.2)

/-- Calls one after the other. -/
def checkAll : List RateLimitCall → Redis → List Checked
  | [], _ => []
  | call :: calls, redis => (check call redis).1 :: checkAll calls (check call redis).2

namespace Checked

/-- The time of the call. -/
def now (checked : Checked) : Instant := checked.call.now

/-- What the script has counted. -/
def count (checked : Checked) : ℕ := checked.current.getD 0

/-- The call was allowed. -/
def allowed (checked : Checked) : Bool :=
  match checked.outcome with
  | .ok decision => decision.allowed
  | .error _ => false

end Checked

/-- The calls on a key whose script has run. -/
def counted (key : String) (log : List Checked) : List Checked :=
  log.filter fun checked => checked.call.key = key ∧ checked.current.isSome

/-! ## The script is a fixed-window counter -/

/-- What Redis holds under a key for a state of the counter. -/
def Holds (redis : Redis) (key : String) (length : Duration) : Option (Window Instant) → Prop
  | none => redis key = none
  | some window => 1 ≤ window.count ∧ redis key =
      some { value := window.count, expiresAt := some (window.opened + length) }

section Script

variable {redis : Redis} {key : String} {now : Instant}
  {state : Option (Window Instant)}

/-- A missing key opens a window. -/
theorem fixedWindowScript_of_missing (seconds : ℕ) (missing : redis.get now key = none) :
    let ran := fixedWindowScript now key seconds redis
    ran.1 = 1 ∧ Holds ran.2 key (seconds * second) (some ⟨now, 1⟩) := by
  have fresh : incr now key redis =
      (1, Function.update redis key (some { value := 1, expiresAt := none })) := by
    rw [incr, missing]
  have found : Redis.get (Function.update redis key (some { value := 1, expiresAt := none })) now
      key = some { value := 1, expiresAt := none } := by
    rw [Redis.get, Function.update_self]
    rfl
  dsimp only
  rw [fixedWindowScript, fresh]
  dsimp only
  rw [if_pos rfl, expire, found]
  exact ⟨rfl, le_rfl, Function.update_self ..⟩

/-- A window that is not over counts on and keeps its deadline. -/
theorem fixedWindowScript_of_live (seconds : ℕ) {length : Duration} {window : Window Instant}
    (holds : Holds redis key length (some window)) (before : now < window.opened + length) :
    let ran := fixedWindowScript now key seconds redis
    ran.1 = window.count + 1 ∧
      Holds ran.2 key length (some ⟨window.opened, window.count + 1⟩) := by
  obtain ⟨atLeastOne, stored⟩ := holds
  have found : redis.get now key =
      some { value := window.count, expiresAt := some (window.opened + length) } := by
    rw [Redis.get, stored]
    exact Option.filter_eq_some_iff.mpr ⟨rfl, decide_eq_true before⟩
  dsimp only
  rw [fixedWindowScript, incr, found]
  dsimp only
  rw [if_neg (by omega)]
  exact ⟨rfl, Nat.le_add_left .., Function.update_self ..⟩

/-- A window that is over is missing. -/
theorem Holds.missing {length : Duration} (holds : Holds redis key length state)
    (expired : ∀ window ∈ state, window.opened + length ≤ now) : redis.get now key = none := by
  rw [Redis.get]
  cases state with
  | none => rw [show redis key = none from holds, Option.filter_none]
  | some window =>
      rw [holds.2]
      refine Option.filter_eq_none_iff.mpr fun entry isEntry => ?_
      cases isEntry
      have ended := expired window rfl
      simpa [RedisEntry.live] using ended

end Script

section Log

variable {key : String} {policy : RateLimitPolicy} {calls : List RateLimitCall} {redis : Redis}
  {state : Option (Window Instant)}

theorem fixedWindowScript_other {other : String} {now : Instant} {seconds : ℕ}
    (different : key ≠ other) : (fixedWindowScript now other seconds redis).2 key = redis key := by
  have incremented : (incr now other redis).2 key = redis key := by
    unfold incr
    split <;> exact Function.update_of_ne different _ _
  unfold fixedWindowScript
  dsimp only
  split_ifs
  · unfold expire
    split
    · exact incremented
    · exact (Function.update_of_ne different _ _).trans incremented
  · exact incremented

/-- Calls on other keys, and calls whose script has not run, leave the key alone. -/
theorem check_of_not_counted {call : RateLimitCall}
    (skipped : ¬ (call.key = key ∧ (check call redis).1.current.isSome = true)) :
    (check call redis).2 key = redis key := by
  unfold check at skipped ⊢
  split_ifs at skipped ⊢
  · rfl
  · unfold RateLimitCall.eval at skipped ⊢
    dsimp only at skipped ⊢
    split_ifs at skipped ⊢
    · rfl
    · exact fixedWindowScript_other fun same => skipped ⟨same.symm, rfl⟩

/-- A call whose script has run returns what the script does. -/
theorem check_of_counted {call : RateLimitCall}
    (ran : (check call redis).1.current.isSome = true) :
    let script := fixedWindowScript call.now call.key call.policy.windowSeconds redis
    (check call redis).1.count = script.1 ∧ (check call redis).2 = script.2 := by
  unfold check at ran ⊢
  split_ifs at ran ⊢
  · cases ran
  · unfold RateLimitCall.eval at ran ⊢
    dsimp only at ran ⊢
    split_ifs at ran ⊢
    · cases ran
    · exact ⟨rfl, rfl⟩

theorem check_call (call : RateLimitCall) : (check call redis).1.call = call := by
  unfold check
  split_ifs <;> rfl

/-- **The script runs on one key are a fixed-window counter.** -/
theorem follows_counted (ordered : calls.Pairwise fun earlier later => earlier.now ≤ later.now)
    (own : ∀ call ∈ calls, call.key = key → call.policy = policy)
    (holds : Holds redis key policy.window state)
    (opened : ∀ window ∈ state, ∀ call ∈ calls, window.opened ≤ call.now) :
    Follows Checked.now Checked.count policy.window state (counted key (checkAll calls redis)) := by
  induction calls generalizing redis state with
  | nil => exact .nil
  | cons call calls ih =>
      obtain ⟨earlier, ordered⟩ := List.pairwise_cons.mp ordered
      obtain ⟨ownCall, own⟩ := List.forall_mem_cons.mp own
      rw [checkAll]
      by_cases isCounted : call.key = key ∧ (check call redis).1.current.isSome = true
      · obtain ⟨isKey, ran⟩ := isCounted
        obtain ⟨count, after⟩ := check_of_counted ran
        rw [ownCall isKey, isKey] at count after
        rw [counted, List.filter_cons_of_pos (by
          rw [check_call]
          exact decide_eq_true ⟨isKey, ran⟩)]
        have isNow : (check call redis).1.now = call.now := by rw [Checked.now, check_call]
        by_cases expired : ∀ window ∈ state, window.opened + policy.window ≤ call.now
        · obtain ⟨first, holds'⟩ :=
            fixedWindowScript_of_missing policy.windowSeconds (holds.missing expired)
          rw [← after] at holds'
          refine .opens (fun window member => ?_) (count.trans first) ?_
          · rw [isNow]
            exact expired window member
          · rw [isNow]
            refine ih ordered own holds' fun window member later among => ?_
            cases member
            exact earlier later among
        · push Not at expired
          obtain ⟨window, isState, before⟩ := expired
          cases isState
          obtain ⟨next, holds'⟩ :=
            fixedWindowScript_of_live policy.windowSeconds holds before
          rw [← after] at holds'
          have openedCall := opened window rfl
          refine .counts ?_ ?_ (count.trans next) (ih ordered own holds' ?_)
          · rw [isNow]
            exact openedCall call List.mem_cons_self
          · rw [isNow]
            exact before
          · intro window' member later among
            cases member
            exact openedCall later (List.mem_cons_of_mem _ among)
      · rw [counted, List.filter_cons_of_neg (by
          rw [check_call]
          simpa using isCounted)]
        have same := check_of_not_counted isCounted
        refine ih ordered own ?_ fun window member later among =>
          opened window member later (List.mem_cons_of_mem _ among)
        cases state with
        | none => exact same.trans holds
        | some window => exact ⟨holds.1, same.trans holds.2⟩

end Log

/-! ## What a denying policy allows -/

/-- An allowed call of a policy that denies during an outage has been counted,
up to the capacity, and its reply has arrived. -/
theorem allowed_check {call : RateLimitCall} {redis : Redis}
    (deny : call.policy.outageMode = .deny) :
    (check call redis).1.allowed = true ↔ (check call redis).1.current.isSome = true ∧
      (check call redis).1.count ≤ call.policy.capacity ∧ call.outage = none := by
  have notAllow : decide (call.policy.outageMode = .allow) = false := by
    rw [deny]
    rfl
  unfold check
  split_ifs
  · simp [Checked.allowed]
  · cases outage : call.outage with
    | none =>
        simp [Checked.allowed, Checked.count, RateLimitCall.eval, RateLimitCall.decision, outage]
    | some failure =>
        simp [Checked.allowed, RateLimitCall.decision, outage, notAllow]

/-- Every entry of a log is the check of a call. -/
theorem mem_checkAll {calls : List RateLimitCall} {redis : Redis} {checked : Checked}
    (member : checked ∈ checkAll calls redis) :
    ∃ call ∈ calls, ∃ before, checked = (check call before).1 := by
  induction calls generalizing redis with
  | nil => cases member
  | cons call calls ih =>
      rcases List.mem_cons.mp member with rfl | later
      · exact ⟨call, List.mem_cons_self, redis, rfl⟩
      · obtain ⟨other, among, found⟩ := ih later
        exact ⟨other, List.mem_cons_of_mem _ among, found⟩

/-- Two logins a minute. -/
def loginPolicy : RateLimitPolicy where
  capacity := 2
  windowSeconds := 60
  outageMode := .deny
  positive := by decide

/-- A call every 25 seconds; the reply of the second one is lost. -/
def loginCalls : List RateLimitCall :=
  [0, 25, 50, 75].map fun seconds => {
    now := seconds * second
    key := "security:rate:login"
    policy := loginPolicy
    outage := if seconds = 25 then some .after else none }

end BidSystem.Security
