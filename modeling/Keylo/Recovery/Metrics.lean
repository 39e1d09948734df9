import Mathlib.Data.List.Basic
import Mathlib.Data.UInt

/-!
# Runtime metrics

The counters of `state.rs` and the text in which `GET /metrics` prints them. A counter is an
`AtomicU64` and wraps around.

## Main definitions

* `RuntimeMetrics` : the counters.
* `RuntimeMetrics.prometheusText` : their text.
* `RuntimeMetrics.withoutDurations` : the counters with all figures about the duration of HTTP
  requests at zero.
-/

namespace Keylo

/-- The outcomes of a delivery that fails. -/
inductive MailDeliveryError
  | invalidMessage
  | notConfigured
  | timeout
  | temporarilyUnavailable
  | rejected
deriving DecidableEq, Repr

/-- A histogram with the fixed upper bounds 10, 50, 100, 500 and 1000 milliseconds. -/
structure DurationHistogram where
  total : UInt64 := 0
  count : UInt64 := 0
  le10 : UInt64 := 0
  le50 : UInt64 := 0
  le100 : UInt64 := 0
  le500 : UInt64 := 0
  le1000 : UInt64 := 0
deriving DecidableEq, Repr

/-- `record_duration`. -/
def DurationHistogram.record (h : DurationHistogram) (milliseconds : UInt64) :
    DurationHistogram where
  total := h.total + milliseconds
  count := h.count + 1
  le10 := if milliseconds ≤ 10 then h.le10 + 1 else h.le10
  le50 := if milliseconds ≤ 50 then h.le50 + 1 else h.le50
  le100 := if milliseconds ≤ 100 then h.le100 + 1 else h.le100
  le500 := if milliseconds ≤ 500 then h.le500 + 1 else h.le500
  le1000 := if milliseconds ≤ 1000 then h.le1000 + 1 else h.le1000

structure RuntimeMetrics where
  requestsTotal : UInt64 := 0
  responses2xxTotal : UInt64 := 0
  responses4xxTotal : UInt64 := 0
  responses5xxTotal : UInt64 := 0
  authenticationSuccessesTotal : UInt64 := 0
  authenticationFailuresTotal : UInt64 := 0
  authorizationDenialsTotal : UInt64 := 0
  refreshReplaysTotal : UInt64 := 0
  rateLimitRejectionsTotal : UInt64 := 0
  inFlight : UInt64 := 0
  duration : DurationHistogram := {}
  databaseReadiness : DurationHistogram := {}
  databaseReadinessSuccessesTotal : UInt64 := 0
  databaseReadinessFailuresTotal : UInt64 := 0
  redisReadiness : DurationHistogram := {}
  redisReadinessSuccessesTotal : UInt64 := 0
  redisReadinessFailuresTotal : UInt64 := 0
  mailDeliverySuccessesTotal : UInt64 := 0
  mailDeliveryInvalidMessageTotal : UInt64 := 0
  mailDeliveryNotConfiguredTotal : UInt64 := 0
  mailDeliveryTimeoutsTotal : UInt64 := 0
  mailDeliveryTemporarilyUnavailableTotal : UInt64 := 0
  mailDeliveryRejectedTotal : UInt64 := 0
deriving DecidableEq, Repr

namespace RuntimeMetrics

variable (m : RuntimeMetrics)

def requestStarted : RuntimeMetrics :=
  { m with requestsTotal := m.requestsTotal + 1, inFlight := m.inFlight + 1 }

/-- The counter of the class of a status code. -/
def countStatus (status : ℕ) : RuntimeMetrics :=
  match status / 100 with
  | 2 => { m with responses2xxTotal := m.responses2xxTotal + 1 }
  | 4 => { m with responses4xxTotal := m.responses4xxTotal + 1 }
  | 5 => { m with responses5xxTotal := m.responses5xxTotal + 1 }
  | _ => m

def requestFinished (status : ℕ) (milliseconds : UInt64) : RuntimeMetrics :=
  let m := m.countStatus status
  { m with duration := m.duration.record milliseconds, inFlight := m.inFlight - 1 }

/-- The paths whose outcomes count as authentications. -/
def authenticationPaths : List String :=
  ["/v1/auth/token", "/v1/admin/token", "/v1/service/token", "/v1/oidc/login",
    "/v1/upstream/oidc/callback"]

def securityOutcome (path : String) (status : ℕ) : RuntimeMetrics :=
  let m :=
    if path ∈ authenticationPaths then
      if 200 ≤ status ∧ status < 300 then
        { m with authenticationSuccessesTotal := m.authenticationSuccessesTotal + 1 }
      else if 400 ≤ status ∧ status < 600 then
        { m with authenticationFailuresTotal := m.authenticationFailuresTotal + 1 }
      else m
    else m
  if status = 403 then { m with authorizationDenialsTotal := m.authorizationDenialsTotal + 1 }
  else m

def rateLimitRejectionObserved : RuntimeMetrics :=
  { m with rateLimitRejectionsTotal := m.rateLimitRejectionsTotal + 1 }

def observeMailDelivery : Except MailDeliveryError Unit → RuntimeMetrics
  | .ok () => { m with mailDeliverySuccessesTotal := m.mailDeliverySuccessesTotal + 1 }
  | .error .invalidMessage =>
    { m with mailDeliveryInvalidMessageTotal := m.mailDeliveryInvalidMessageTotal + 1 }
  | .error .notConfigured =>
    { m with mailDeliveryNotConfiguredTotal := m.mailDeliveryNotConfiguredTotal + 1 }
  | .error .timeout => { m with mailDeliveryTimeoutsTotal := m.mailDeliveryTimeoutsTotal + 1 }
  | .error .temporarilyUnavailable =>
    { m with
      mailDeliveryTemporarilyUnavailableTotal := m.mailDeliveryTemporarilyUnavailableTotal + 1 }
  | .error .rejected => { m with mailDeliveryRejectedTotal := m.mailDeliveryRejectedTotal + 1 }

/-! ### The text -/

/-- The line that declares a metric. -/
def typeLine (name kind : String) : String := "# TYPE " ++ name ++ " " ++ kind

/-- The line of a value without a label. -/
def sampleLine (name : String) (value : UInt64) : String := name ++ " " ++ toString value.toNat

/-- The line of a value with one label. -/
def labelledLine (name label labelValue : String) (value : UInt64) : String :=
  name ++ "\x7b" ++ label ++ "=\"" ++ labelValue ++ "\"\x7d " ++ toString value.toNat

def counterLines (name : String) (value : UInt64) : List String :=
  [typeLine name "counter", sampleLine name value]

def histogramLines (name : String) (h : DurationHistogram) : List String :=
  let bucket := labelledLine (name ++ "_bucket") "le"
  [typeLine name "histogram", bucket "10" h.le10, bucket "50" h.le50, bucket "100" h.le100,
    bucket "500" h.le500, bucket "1000" h.le1000, bucket "+Inf" h.count,
    sampleLine (name ++ "_sum") h.total,
    sampleLine (name ++ "_count") h.count]

def mailLines : List String :=
  let outcome := labelledLine "keylo_mail_deliveries_total" "outcome"
  [typeLine "keylo_mail_deliveries_total" "counter",
    outcome "success" m.mailDeliverySuccessesTotal,
    outcome "invalid_message" m.mailDeliveryInvalidMessageTotal,
    outcome "not_configured" m.mailDeliveryNotConfiguredTotal,
    outcome "timeout" m.mailDeliveryTimeoutsTotal,
    outcome "temporarily_unavailable" m.mailDeliveryTemporarilyUnavailableTotal,
    outcome "rejected" m.mailDeliveryRejectedTotal]

def prometheusLines : List String :=
  m.mailLines ++ counterLines "keylo_http_requests_total" m.requestsTotal ++
    [typeLine "keylo_http_responses_total" "counter",
      labelledLine "keylo_http_responses_total" "status_class" "2xx" m.responses2xxTotal,
      labelledLine "keylo_http_responses_total" "status_class" "4xx" m.responses4xxTotal,
      labelledLine "keylo_http_responses_total" "status_class" "5xx" m.responses5xxTotal] ++
    counterLines "keylo_authentication_successes_total" m.authenticationSuccessesTotal ++
    counterLines "keylo_authentication_failures_total" m.authenticationFailuresTotal ++
    counterLines "keylo_authorization_denials_total" m.authorizationDenialsTotal ++
    counterLines "keylo_refresh_replays_total" m.refreshReplaysTotal ++
    counterLines "keylo_rate_limit_rejections_total" m.rateLimitRejectionsTotal ++
    [typeLine "keylo_http_requests_in_flight" "gauge",
      sampleLine "keylo_http_requests_in_flight" m.inFlight] ++
    histogramLines "keylo_http_request_duration_milliseconds" m.duration ++
    histogramLines "keylo_database_readiness_duration_milliseconds" m.databaseReadiness ++
    counterLines "keylo_database_readiness_successes_total" m.databaseReadinessSuccessesTotal ++
    counterLines "keylo_database_readiness_failures_total" m.databaseReadinessFailuresTotal ++
    histogramLines "keylo_redis_readiness_duration_milliseconds" m.redisReadiness ++
    counterLines "keylo_redis_readiness_successes_total" m.redisReadinessSuccessesTotal ++
    counterLines "keylo_redis_readiness_failures_total" m.redisReadinessFailuresTotal

/-- Prometheus text exposition. -/
def prometheusText : String := String.join (m.prometheusLines.map (· ++ "\n"))

/-! ### Durations -/

/-- The counters without the figures about the duration of requests; the number of requests is
not one of them. -/
def withoutDurations : RuntimeMetrics := { m with duration := { count := m.duration.count } }

/-- The counters without those of mail deliveries. -/
def withoutMail : RuntimeMetrics :=
  { m with
    mailDeliverySuccessesTotal := 0
    mailDeliveryInvalidMessageTotal := 0
    mailDeliveryNotConfiguredTotal := 0
    mailDeliveryTimeoutsTotal := 0
    mailDeliveryTemporarilyUnavailableTotal := 0
    mailDeliveryRejectedTotal := 0 }

variable {m} {m' : RuntimeMetrics} {status : ℕ} {path : String} {milliseconds : UInt64}
  {delivery : Except MailDeliveryError Unit}

/-- Durations only affect the figures about durations. -/
theorem withoutDurations_requestFinished :
    (m.requestFinished status milliseconds).withoutDurations =
      (m.withoutDurations.requestFinished status 0).withoutDurations := by
  unfold requestFinished countStatus
  split <;> rfl

theorem withoutDurations_securityOutcome :
    (m.securityOutcome path status).withoutDurations =
      m.withoutDurations.securityOutcome path status := by
  unfold securityOutcome
  split_ifs <;> rfl

theorem withoutDurations_observeMailDelivery :
    (m.observeMailDelivery delivery).withoutDurations =
      m.withoutDurations.observeMailDelivery delivery := by
  unfold observeMailDelivery
  split <;> rfl

theorem withoutMail_requestFinished :
    (m.requestFinished status milliseconds).withoutMail =
      m.withoutMail.requestFinished status milliseconds := by
  unfold requestFinished countStatus
  split <;> rfl

theorem withoutMail_securityOutcome :
    (m.securityOutcome path status).withoutMail = m.withoutMail.securityOutcome path status := by
  unfold securityOutcome
  split_ifs <;> rfl

theorem withoutMail_observeMailDelivery :
    (m.observeMailDelivery delivery).withoutMail = m.withoutMail := by
  unfold observeMailDelivery
  split <;> rfl

end RuntimeMetrics

end Keylo
