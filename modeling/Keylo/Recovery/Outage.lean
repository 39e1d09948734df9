import Keylo.Recovery.Requests

/-!
# The rate limiter during an outage of Redis

In production a request is denied if Redis cannot be reached. On a connection that was made, a
count that cannot be read is taken to be one.

## Main definitions

* `allowAuthRequest` : the limiter for one key.
* `Judged` : an answer of Redis on which the limiter decides rightly.

## Main results

* `allowed_only_if_counted` : the requests that are allowed have been counted and are within their
  limits, if and only if Redis answers in this way.
* `uncounted_request_allowed` : a request is allowed although Redis did not count it.
-/

namespace Keylo.Recovery

variable {ρ : Type} (redis : Redis ρ) (config : Config)

def allowAuthRequest (limits : Limits ρ) (now : Int) (principal : String) (maxRequests : ℕ) :
    Bool × Limits ρ :=
  let admitted := admitKey config limits.authRateLimits now principal maxRequests
  match limits.redis with
  | some r =>
    if redis.connects r now then
      let (count, r) := incrementKey redis config r now principal
      (decide ((count % 2 ^ 32).toNat ≤ maxRequests), { limits with redis := some r })
    else if config.isProduction then (false, limits)
    else (admitted.1, { limits with authRateLimits := admitted.2 })
  | none =>
    if config.isProduction then (false, limits)
    else (admitted.1, { limits with authRateLimits := admitted.2 })

/-- The answer of Redis to the `INCR` for a key. -/
def counted (r : ρ) (now : Int) (principal : String) : Option Int :=
  (redis.incr r now (config.redisKeyPrefix ++ ":auth:rate:" ++ principal ++ ":" ++
    toString (now.tdiv (max config.authRateLimitWindowSeconds 1)))).1

/-- The request has been counted and is within the limit. -/
def Within (maxRequests : ℕ) (count : Option Int) : Prop := ∃ n, count = some n ∧ n ≤ maxRequests

/-- The key is over its limit, as far as the limiter can see: it reads a failure as one and drops
all but 32 bits. -/
def Over (maxRequests : ℕ) (count : Option Int) : Prop := maxRequests < count.getD 1 % 2 ^ 32

/-- The `INCR` succeeds, or nothing is allowed; and the count is not over the limit, or is so in
its last 32 bits as well. -/
def Judged (maxRequests : ℕ) : Option Int → Prop
  | none => maxRequests = 0
  | some n => maxRequests < n → maxRequests < n % 2 ^ 32

variable {redis config} {limits : Limits ρ} {now : Int} {principalA principalB principal : String}
  {maxRequestsA maxRequestsB maxRequests : ℕ} {count : Option Int} {r : ρ}

theorem judged_iff :
    Judged maxRequests count ↔ Over maxRequests count ∨ Within maxRequests count := by
  cases count with
  | none =>
    simp only [Judged, Over, Within, Option.getD_none, reduceCtorEq, false_and, exists_const,
      or_false]
    omega
  | some =>
    simp only [Judged, Over, Within, Option.getD_some, Option.some.injEq, exists_eq_left']
    omega

theorem incrementKey_fst :
    (incrementKey redis config r now principal).1 = (counted redis config r now principal).getD 1 :=
  rfl

theorem toNat_le_iff_not_over :
    (count.getD 1 % 2 ^ 32).toNat ≤ maxRequests ↔ ¬ Over maxRequests count := by
  rw [Over]
  omega

/-- In production, what is allowed has been counted and is within its limit if and only if Redis
answers as it should: for one key, and for two keys of which neither is over its limit. -/
theorem allowed_only_if_counted (hproduction : config.isProduction = true) :
    (((allowAuthRequest redis config limits now principal maxRequests).1 = true →
        ∃ r ∈ limits.redis, redis.connects r now = true ∧
          Within maxRequests (counted redis config r now principal)) ↔
      ∀ r ∈ limits.redis, redis.connects r now = true →
        Judged maxRequests (counted redis config r now principal)) ∧
    (((allowAuthRequestPair redis config limits now principalA maxRequestsA principalB
          maxRequestsB).1 = true →
        ∃ r ∈ limits.redis, redis.connects r now = true ∧
          Within maxRequestsA (counted redis config r now principalA) ∧
          Within maxRequestsB (counted redis config
            (incrementKey redis config r now principalA).2 now principalB)) ↔
      ∀ r ∈ limits.redis, redis.connects r now = true →
        let countA := counted redis config r now principalA
        let countB := counted redis config (incrementKey redis config r now principalA).2 now
          principalB
        (Judged maxRequestsA countA ∨ Over maxRequestsB countB) ∧
          (Judged maxRequestsB countB ∨ Over maxRequestsA countA)) := by
  constructor
  · unfold allowAuthRequest
    cases limits.redis with
    | none => simp [hproduction]
    | some r =>
      by_cases hconnects : redis.connects r now = true
      · simp only [hconnects, if_true, decide_eq_true_eq, Option.mem_def, Option.some.injEq,
          forall_eq', exists_eq_left', true_and, forall_const]
        rw [incrementKey_fst, toNat_le_iff_not_over, judged_iff]
        tauto
      · simp [hconnects, hproduction]
  · unfold allowAuthRequestPair
    cases limits.redis with
    | none => simp [hproduction]
    | some r =>
      by_cases hconnects : redis.connects r now = true
      · simp only [hconnects, if_true, Bool.and_eq_true, decide_eq_true_eq, Option.mem_def,
          Option.some.injEq, forall_eq', exists_eq_left', true_and, forall_const]
        rw [incrementKey_fst, incrementKey_fst, toNat_le_iff_not_over, toNat_le_iff_not_over,
          judged_iff, judged_iff]
        tauto
      · simp [hconnects, hproduction]

/-- A Redis server that accepts connections and executes nothing. -/
def readOnlyRedis : Redis Unit := ⟨fun _ _ => true, fun _ _ _ => (none, ()), fun _ _ _ _ => ()⟩

/-- A Redis server that counts up to one. -/
def countingRedis : Redis Unit := { readOnlyRedis with incr := fun _ _ _ => (some 1, ()) }

def productionConfig : Config := ⟨5, 5, 60, 900, "keylo", true⟩

theorem allowed_only_if_counted_first :
    (allowAuthRequest countingRedis productionConfig ⟨fun _ => [], some ()⟩ 0 "u" 5).1 = true ∧
      Within 5 (counted countingRedis productionConfig () 0 "u") := by
  obtain ⟨_, -, -, hwithin⟩ := (@allowed_only_if_counted _ countingRedis productionConfig
    ⟨fun _ => [], some ()⟩ 0 "u" "u" "u" 5 5 5 rfl).1.2 (fun _ _ _ h => absurd h (by decide))
    (by decide)
  exact ⟨by decide, hwithin⟩

/-- The limiter allows every request on a connection on which Redis refuses to count. -/
theorem uncounted_request_allowed :
    (allowAuthRequest readOnlyRedis productionConfig ⟨fun _ => [], some ()⟩ 0 "u" 5).1 = true ∧
      (allowAuthRequestPair readOnlyRedis productionConfig ⟨fun _ => [], some ()⟩ 0 "u" 5 "v"
        5).1 = true ∧
      counted readOnlyRedis productionConfig () 0 "u" = none := by
  decide

end Keylo.Recovery
