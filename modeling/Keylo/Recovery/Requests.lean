import Keylo.Foundation.System
import Keylo.PasswordReset
import Keylo.Recovery.Metrics

/-!
# Recovery requests and what they reveal

A recovery request is answered in the same way whether or not there is an account for its
identifier. The mail that is sent for an account is counted, and the counters are printed by
`GET /metrics`, which needs no token either. So the answers of a sequence of both kinds of requests
depend on the accounts through the number of mails and through nothing else.

Redis is not part of the source and enters as a parameter.

## Main definitions

* `allowAuthRequestPair` : the rate limiter.
* `requestPasswordReset`, `metrics` : the two handlers.
* `machine` : the server, which answers both.

## Main results

* `answers_eq_of_mailMatchesBeforeMetrics` : two servers that differ in their accounts answer alike
  if every recovery request before a read of the metrics sends the same mail in both.
* `metrics_reveal_account` : otherwise the metrics may tell them apart.
-/

namespace Keylo.Recovery

open Relational

/-! ### The rate limiter -/

/-- The commands of a Redis server, on its state and at a Unix time. -/
structure Redis (ρ : Type) where
  /-- Whether a connection is made. -/
  connects : ρ → Int → Bool
  /-- `INCR`; there is no count if the command fails. -/
  incr : ρ → Int → String → Option Int × ρ
  /-- `EXPIRE`. -/
  expire : ρ → Int → String → Int → ρ

structure Config where
  authRateLimitMaxRequests : ℕ
  authGlobalRateLimitMaxRequests : ℕ
  authRateLimitWindowSeconds : Int
  tokenExpirySeconds : Int
  redisKeyPrefix : String := "keylo"
  isProduction : Bool := false

/-- The state of the limiter: the recent requests of a key in this process, and a Redis server if
one is configured. -/
structure Limits (ρ : Type) where
  authRateLimits : String → List Int := fun _ => []
  redis : Option ρ := none

variable {ρ : Type} (crates : Crates) (redis : Redis ρ) (config : Config)

/-- The count of a key in Redis, which expires with the window. -/
def incrementKey (r : ρ) (now : Int) (principal : String) : Int × ρ :=
  let bucket := now.tdiv (max config.authRateLimitWindowSeconds 1)
  let key := config.redisKeyPrefix ++ ":auth:rate:" ++ principal ++ ":" ++ toString bucket
  let (count, r) := redis.incr r now key
  let count := count.getD 1
  (count, if count = 1 then redis.expire r now key config.authRateLimitWindowSeconds else r)

/-- One key of the limiter in this process. -/
def admitKey (limits : String → List Int) (now : Int) (principal : String) (maxRequests : ℕ) :
    Bool × (String → List Int) :=
  let entries := (limits principal).filter fun ts => ts > now - config.authRateLimitWindowSeconds
  if entries.length % 2 ^ 32 ≥ maxRequests then (false, Function.update limits principal entries)
  else (true, Function.update limits principal (entries ++ [now]))

variable (limits : Limits ρ) (now : Int)

/-- Both keys in this process; each counts the request even if the other refuses it. -/
def admitPair (principalA : String) (maxRequestsA : ℕ)
    (principalB : String) (maxRequestsB : ℕ) : Bool × Limits ρ :=
  let (allowedA, entries) := admitKey config limits.authRateLimits now principalA maxRequestsA
  let (allowedB, entries) := admitKey config entries now principalB maxRequestsB
  (allowedA && allowedB, { limits with authRateLimits := entries })

def allowAuthRequestPair (principalA : String) (maxRequestsA : ℕ)
    (principalB : String) (maxRequestsB : ℕ) : Bool × Limits ρ :=
  match limits.redis with
  | some r =>
    if redis.connects r now then
      let (countA, r) := incrementKey redis config r now principalA
      let (countB, r) := incrementKey redis config r now principalB
      (decide ((countA % 2 ^ 32).toNat ≤ maxRequestsA) &&
        decide ((countB % 2 ^ 32).toNat ≤ maxRequestsB), { limits with redis := some r })
    else if config.isProduction then (false, limits)
    else admitPair config limits now principalA maxRequestsA principalB maxRequestsB
  | none =>
    if config.isProduction then (false, limits)
    else admitPair config limits now principalA maxRequestsA principalB maxRequestsB

/-! ### The handlers -/

structure Response where
  status : ℕ
  body : String
deriving DecidableEq, Repr

def errorResponse (status : ℕ) (error message : String) : Response :=
  ⟨status, "\x7b\"error\":\"" ++ error ++ "\",\"message\":\"" ++ message ++
    "\",\"success\":false\x7d"⟩

def passwordResetAcceptedMessage : String :=
  "If the account can be recovered, a password reset message will be sent"

def acceptedResponse : Response :=
  ⟨200, "\x7b\"data\":\x7b\"message\":\"" ++ passwordResetAcceptedMessage ++
    "\",\"status\":\"accepted\"\x7d,\"success\":true\x7d"⟩

def identifierRateKey (identifier : String) : String :=
  "password-reset:identifier:" ++ crates.hexEncode (crates.sha256 identifier)

/-- The verdict of the limiter on a recovery request, and its state afterwards. -/
def admission (identifier clientIp : String) : Bool × Limits ρ :=
  allowAuthRequestPair redis config limits now (identifierRateKey crates identifier)
    config.authRateLimitMaxRequests ("password-reset:ip:" ++ clientIp)
    config.authGlobalRateLimitMaxRequests

/-- The state of the server, as far as the two handlers use it. -/
structure Server (ρ : Type) where
  db : Db := {}
  limits : Limits ρ := {}
  metrics : RuntimeMetrics := {}

/-- What a request does not determine itself: the random values of a token, the delivery of a mail
and the time the request takes. -/
structure Environment where
  token : String := ""
  tokenId : String := ""
  delivery : Except MailDeliveryError Unit := .ok ()
  milliseconds : UInt64 := 0

variable (server : Server ρ) (environment : Environment)

/-- Issues a token for the account of the identifier and sends it; a token that is not delivered is
revoked. -/
def sendPasswordReset (identifier : String) : Response × Server ρ :=
  match issuePasswordResetToken crates server.db environment.token environment.tokenId identifier
      config.tokenExpirySeconds with
  | .error _ => (errorResponse 500 "database_error" "Database error", server)
  | .ok (none, db) => (acceptedResponse, { server with db := db })
  | .ok (some issued, db) =>
    let metrics := server.metrics.observeMailDelivery environment.delivery
    match environment.delivery with
    | .error _ =>
      (acceptedResponse,
        { server with db := revokePasswordResetToken db issued.id, metrics := metrics })
    | .ok () => (acceptedResponse, { server with db := db, metrics := metrics })

def requestPasswordReset (identifier clientIp : String) : Response × Server ρ :=
  let identifier := trim identifier
  let (allowed, limits) :=
    admission crates redis config server.limits server.db.clock.timestamp identifier clientIp
  let server := { server with limits := limits }
  if !allowed then
    (errorResponse 429 "too_many_requests" "Too many requests",
      { server with metrics := server.metrics.rateLimitRejectionObserved })
  else if identifier.isEmpty then (acceptedResponse, server)
  else sendPasswordReset crates config server environment identifier

variable (print : RuntimeMetrics → String)

/-- The response of `GET /metrics`; `print` is the text of the counters. -/
def metrics : Response := ⟨200, print server.metrics⟩

/-! ### The server -/

inductive Request
  | requestPasswordReset (identifier clientIp : String)
  | metrics
deriving DecidableEq, Repr

def Request.path : Request → String
  | .requestPasswordReset _ _ => "/v1/auth/password-reset/request"
  | .metrics => "/metrics"

/-- A request, the time at which it arrives and what it does not determine itself. -/
structure Arrival where
  request : Request
  now : Time
  environment : Environment := {}

/-- The handler of a request. -/
def handle (environment : Environment) (server : Server ρ) : Request → Response × Server ρ
  | .requestPasswordReset identifier clientIp =>
    requestPasswordReset crates redis config server environment identifier clientIp
  | .metrics => (metrics server print, server)

/-- One request with the counting of requests around it (`request_response_logging_middleware`). -/
def serve (arrival : Arrival) (server : Server ρ) : Response × Server ρ :=
  let started : Server ρ :=
    { server with
      db := { server.db with clock := arrival.now }, metrics := server.metrics.requestStarted }
  let (response, finished) :=
    handle crates redis config print arrival.environment started arrival.request
  (response,
    { finished with
      metrics := (finished.metrics.requestFinished response.status
        arrival.environment.milliseconds).securityOutcome arrival.request.path response.status })

/-- The server that prints its metrics by `print`. -/
def machine : Transition.Machine (Server ρ) Arrival Response where
  step server arrival := serve crates redis config print arrival server

/-- The transaction of the request is carried out. -/
def NoDatabaseError (server : Server ρ) (arrival : Arrival) : Prop :=
  ∀ identifier clientIp, arrival.request = .requestPasswordReset identifier clientIp →
    (issuePasswordResetToken crates { server.db with clock := arrival.now }
      arrival.environment.token arrival.environment.tokenId (trim identifier)
      config.tokenExpirySeconds).isOk = true

/-! ### One request -/

variable {crates redis config} {server server' : Server ρ} {environment environment' : Environment}
  {identifier clientIp : String} {print : RuntimeMetrics → String} {arrival arrival' : Arrival}
  {db : Db} {db' : Db} {delivery : Except MailDeliveryError Unit}
  {π : RuntimeMetrics → RuntimeMetrics}

theorem eligibleUser_congr (h : db'.users = db.users) :
    eligibleUser db' identifier = eligibleUser db identifier := by
  simp only [eligibleUser, eligibleByEmail, eligibleByUsername, h]

/-- The counters after the mail of a request, if there is one. -/
def countMail (db : Db) (identifier : String) (delivery : Except MailDeliveryError Unit)
    (m : RuntimeMetrics) : RuntimeMetrics :=
  if (eligibleUser db identifier).isSome then m.observeMailDelivery delivery else m

theorem issuePasswordResetToken_cases {token tokenId : String} {lifetime : Int}
    (h : (issuePasswordResetToken crates db token tokenId identifier lifetime).isOk = true) :
    ∃ issued db', issuePasswordResetToken crates db token tokenId identifier lifetime =
        .ok (issued, db') ∧ issued.isSome = (eligibleUser db identifier).isSome ∧
      db'.users = db.users := by
  unfold issuePasswordResetToken at h ⊢
  cases heligible : eligibleUser db identifier with
  | none => exact ⟨none, db, rfl, rfl, rfl⟩
  | some =>
    simp only [heligible] at h ⊢
    unfold insertResetToken at h ⊢
    split at h
    · cases h
    · exact ⟨_, _, rfl, rfl, rfl⟩

/-- A recovery request for which no database error occurs is accepted, and the mail it may send is
counted. -/
theorem sendPasswordReset_eq
    (h : (issuePasswordResetToken crates server.db environment.token environment.tokenId identifier
      config.tokenExpirySeconds).isOk = true) :
    ∃ db : Db, db.users = server.db.users ∧
      sendPasswordReset crates config server environment identifier =
        (acceptedResponse,
          { server with
            db := db
            metrics := countMail server.db identifier environment.delivery server.metrics }) := by
  obtain ⟨issued, db, hissued, heligible, husers⟩ := issuePasswordResetToken_cases h
  unfold sendPasswordReset countMail
  rw [hissued, ← heligible]
  cases issued with
  | none => exact ⟨db, husers, rfl⟩
  | some issued =>
    cases environment.delivery with
    | ok => exact ⟨db, husers, rfl⟩
    | error => exact ⟨revokePasswordResetToken db issued.id, husers, rfl⟩

/-- The response and the counters of a recovery request are determined by the verdict of the
limiter and by the mail. -/
theorem requestPasswordReset_eq
    (h : (issuePasswordResetToken crates server.db environment.token environment.tokenId
      (trim identifier) config.tokenExpirySeconds).isOk = true) :
    ∃ db : Db, db.users = server.db.users ∧
      requestPasswordReset crates redis config server environment identifier clientIp =
        match admission crates redis config server.limits server.db.clock.timestamp
          (trim identifier) clientIp with
        | (false, limits) =>
          (errorResponse 429 "too_many_requests" "Too many requests",
            ⟨db, limits, server.metrics.rateLimitRejectionObserved⟩)
        | (true, limits) =>
          if (trim identifier).isEmpty then (acceptedResponse, ⟨db, limits, server.metrics⟩)
          else (acceptedResponse,
            ⟨db, limits,
              countMail server.db (trim identifier) environment.delivery server.metrics⟩) := by
  unfold requestPasswordReset
  rcases hadmitted : admission crates redis config server.limits server.db.clock.timestamp
    (trim identifier) clientIp with ⟨_ | _, limits⟩
  · exact ⟨server.db, rfl, by simp only [hadmitted]; rfl⟩
  · by_cases hempty : (trim identifier).isEmpty = true
    · exact ⟨server.db, rfl, by simp [hadmitted, hempty]⟩
    · obtain ⟨db, husers, hsent⟩ := @sendPasswordReset_eq ρ crates config
        { server with limits := limits } environment (trim identifier) h
      exact ⟨db, husers, by simp [hadmitted, hempty, hsent]⟩

/-! ### Two servers -/

/-- What is left of the counters by `π` is not affected by durations. -/
structure Blurs (π : RuntimeMetrics → RuntimeMetrics) : Prop where
  started : ∀ {m m' : RuntimeMetrics}, π m = π m' → π m.requestStarted = π m'.requestStarted
  rejected : ∀ {m m' : RuntimeMetrics}, π m = π m' →
    π m.rateLimitRejectionObserved = π m'.rateLimitRejectionObserved
  finished : ∀ {m m' : RuntimeMetrics} (status : ℕ) (a b : UInt64) (path : String), π m = π m' →
    π ((m.requestFinished status a).securityOutcome path status) =
      π ((m'.requestFinished status b).securityOutcome path status)

theorem blurs_withoutDurations : Blurs RuntimeMetrics.withoutDurations where
  started {m m'} h := congrArg RuntimeMetrics.requestStarted h
  rejected {m m'} h := congrArg RuntimeMetrics.rateLimitRejectionObserved h
  finished {m m'} status a b path h := by
    simp only [RuntimeMetrics.withoutDurations_securityOutcome]
    rw [RuntimeMetrics.withoutDurations_requestFinished,
      @RuntimeMetrics.withoutDurations_requestFinished m' status b, h]

/-- The counters that depend neither on durations nor on mails. -/
def withoutDurationsAndMail (m : RuntimeMetrics) : RuntimeMetrics := m.withoutMail.withoutDurations

theorem blurs_withoutDurationsAndMail : Blurs withoutDurationsAndMail where
  started {m m'} h := congrArg RuntimeMetrics.requestStarted h
  rejected {m m'} h := congrArg RuntimeMetrics.rateLimitRejectionObserved h
  finished {m m'} status a b path h := by
    simp only [withoutDurationsAndMail, RuntimeMetrics.withoutMail_securityOutcome,
      RuntimeMetrics.withoutMail_requestFinished]
    exact blurs_withoutDurations.finished status a b path h

/-- The two servers agree in the limiter and in what `π` leaves of the counters. -/
structure Alike (π : RuntimeMetrics → RuntimeMetrics) (server server' : Server ρ) : Prop where
  limits : server.limits = server'.limits
  metrics : π server.metrics = π server'.metrics

/-- The mails that the two servers may send for the requests are counted alike. -/
def MailsAlike (π : RuntimeMetrics → RuntimeMetrics) (server server' : Server ρ)
    (arrival arrival' : Arrival) : Prop :=
  ∀ identifier clientIp, arrival.request = .requestPasswordReset identifier clientIp →
    ∀ m m' : RuntimeMetrics, π m = π m' →
      π (countMail server.db (trim identifier) arrival.environment.delivery m) =
        π (countMail server'.db (trim identifier) arrival'.environment.delivery m')

/-- Two recovery requests get the same response, and the servers stay alike. -/
theorem Alike.requestPasswordReset (hπ : Blurs π) (h : Alike π server server')
    (hclock : server.db.clock = server'.db.clock)
    (hok : (issuePasswordResetToken crates server.db environment.token environment.tokenId
      (trim identifier) config.tokenExpirySeconds).isOk = true)
    (hok' : (issuePasswordResetToken crates server'.db environment'.token environment'.tokenId
      (trim identifier) config.tokenExpirySeconds).isOk = true)
    (hmail : ∀ m m' : RuntimeMetrics, π m = π m' →
      π (countMail server.db (trim identifier) environment.delivery m) =
        π (countMail server'.db (trim identifier) environment'.delivery m')) :
    let served := requestPasswordReset crates redis config server environment identifier clientIp
    let served' := requestPasswordReset crates redis config server' environment' identifier clientIp
    served.1 = served'.1 ∧ Alike π served.2 served'.2 ∧
      served.2.db.users = server.db.users ∧ served'.2.db.users = server'.db.users := by
  obtain ⟨db, husers, heq⟩ := @requestPasswordReset_eq ρ crates redis config server environment
    identifier clientIp hok
  obtain ⟨db', husers', heq'⟩ := @requestPasswordReset_eq ρ crates redis config server'
    environment' identifier clientIp hok'
  rw [← h.limits, ← hclock] at heq'
  simp only [heq, heq']
  rcases admission crates redis config server.limits server.db.clock.timestamp (trim identifier)
    clientIp with ⟨_ | _, limits⟩
  · exact ⟨rfl, ⟨rfl, hπ.rejected h.metrics⟩, husers, husers'⟩
  · by_cases hempty : (trim identifier).isEmpty = true
    · simp only [hempty, if_true]
      exact ⟨trivial, ⟨rfl, h.metrics⟩, husers, husers'⟩
    · simp only [hempty, Bool.false_eq_true, if_false]
      exact ⟨trivial, ⟨rfl, hmail _ _ h.metrics⟩, husers, husers'⟩

/-- Two servers that are alike give the same response to a request, and stay alike. -/
theorem Alike.serve (hπ : Blurs π) (h : Alike π server server')
    (hrequest : arrival.request = arrival'.request) (hnow : arrival.now = arrival'.now)
    (hok : NoDatabaseError crates config server arrival)
    (hok' : NoDatabaseError crates config server' arrival')
    (hmail : MailsAlike π server server' arrival arrival')
    (hprint : arrival.request = .metrics →
      print server.metrics.requestStarted = print server'.metrics.requestStarted) :
    let served := serve crates redis config print arrival server
    let served' := serve crates redis config print arrival' server'
    served.1 = served'.1 ∧ Alike π served.2 served'.2 ∧
      served.2.db.users = server.db.users ∧ served'.2.db.users = server'.db.users := by
  obtain ⟨request, now, environment⟩ := arrival
  obtain ⟨request', now', environment'⟩ := arrival'
  obtain rfl : request = request' := hrequest
  obtain rfl : now = now' := hnow
  have hstarted : Alike π
      { server with
        db := { server.db with clock := now }, metrics := server.metrics.requestStarted }
      { server' with
        db := { server'.db with clock := now }, metrics := server'.metrics.requestStarted } :=
    ⟨h.limits, hπ.started h.metrics⟩
  cases request with
  | metrics =>
    simp only [Recovery.serve, handle, Recovery.metrics, hprint rfl]
    exact ⟨trivial, ⟨h.limits, hπ.finished 200 environment.milliseconds environment'.milliseconds
      Request.metrics.path (hπ.started h.metrics)⟩, trivial, trivial⟩
  | requestPasswordReset identifier clientIp =>
    obtain ⟨hresponse, halike, husers, husers'⟩ :=
      @Alike.requestPasswordReset ρ crates redis config _ _ environment environment' identifier
        clientIp π hπ hstarted rfl (hok identifier clientIp rfl) (hok' identifier clientIp rfl)
        (hmail identifier clientIp rfl)
    simp only [Recovery.serve, handle, hresponse]
    exact ⟨trivial, ⟨halike.limits, hπ.finished _ _ _ _ halike.metrics⟩, husers, husers'⟩

/-! ### Sequences of requests -/

/-- The same mail is sent and has the same outcome, whichever of the two user tables is used. -/
def MailMatches (db db' : Db) (p : Arrival × Arrival) : Prop :=
  ∀ identifier clientIp, p.1.request = .requestPasswordReset identifier clientIp →
    (eligibleUser db (trim identifier)).isSome = (eligibleUser db' (trim identifier)).isSome ∧
      ((eligibleUser db (trim identifier)).isSome →
        p.1.environment.delivery = p.2.environment.delivery)

/-- The metrics are still read. -/
def MetricsFollow (ps : List (Arrival × Arrival)) : Prop := ∃ p ∈ ps, p.1.request = .metrics

/-- The mails of all recovery requests after which the metrics are read match. -/
def MailMatchesBeforeMetrics (db db' : Db) : List (Arrival × Arrival) → Prop
  | [] => True
  | p :: ps => (MetricsFollow ps → MailMatches db db' p) ∧ MailMatchesBeforeMetrics db db' ps

theorem withoutDurationsAndMail_countMail {m : RuntimeMetrics} :
    withoutDurationsAndMail (countMail db identifier delivery m) = withoutDurationsAndMail m := by
  unfold countMail withoutDurationsAndMail
  split
  · rw [RuntimeMetrics.withoutMail_observeMailDelivery]
  · rfl

theorem mailsAlike_withoutDurationsAndMail :
    MailsAlike withoutDurationsAndMail server server' arrival arrival' := by
  intro identifier clientIp _ m m' h
  rw [withoutDurationsAndMail_countMail, withoutDurationsAndMail_countMail, h]

theorem MailMatches.mailsAlike (h : MailMatches db db' (arrival, arrival'))
    (husers : server.db.users = db.users) (husers' : server'.db.users = db'.users) :
    MailsAlike RuntimeMetrics.withoutDurations server server' arrival arrival' := by
  intro identifier clientIp hrequest m m' hm
  obtain ⟨heligible, hdelivery⟩ := h identifier clientIp hrequest
  unfold countMail
  rw [eligibleUser_congr husers, eligibleUser_congr husers', ← heligible]
  split
  · next hsome =>
    rw [hdelivery hsome, RuntimeMetrics.withoutDurations_observeMailDelivery,
      RuntimeMetrics.withoutDurations_observeMailDelivery, hm]
  · exact hm

/-- The printed text, without the figures of durations. -/
def printed (m : RuntimeMetrics) : String := m.withoutDurations.prometheusText

/-- What relates two servers while the paired requests `ps` are still to come: they have the same
limiter and the same counters apart from those of mails, and these too if they are still read. -/
structure Unwound (crates : Crates) (redis : Redis ρ) (config : Config) (db db' : Db)
    (ps : List (Arrival × Arrival)) (server server' : Server ρ) : Prop where
  users : server.db.users = db.users
  users' : server'.db.users = db'.users
  same : ∀ p ∈ ps, p.1.request = p.2.request ∧ p.1.now = p.2.now
  carried : (machine crates redis config printed).Always (NoDatabaseError crates config) server
    (ps.map Prod.fst)
  carried' : (machine crates redis config printed).Always (NoDatabaseError crates config) server'
    (ps.map Prod.snd)
  matched : MailMatchesBeforeMetrics db db' ps
  alike : Alike withoutDurationsAndMail server server'
  read : MetricsFollow ps → Alike RuntimeMetrics.withoutDurations server server'

theorem Unwound.step {p : Arrival × Arrival} {ps : List (Arrival × Arrival)}
    (h : Unwound crates redis config db db' (p :: ps) server server') :
    (serve crates redis config printed p.1 server).1 =
        (serve crates redis config printed p.2 server').1 ∧
      Unwound crates redis config db db' ps (serve crates redis config printed p.1 server).2
        (serve crates redis config printed p.2 server').2 := by
  obtain ⟨hok, hcarried⟩ := h.carried
  obtain ⟨hok', hcarried'⟩ := h.carried'
  obtain ⟨hmatch, hmatched⟩ := h.matched
  obtain ⟨hrequest, hnow⟩ := h.same p List.mem_cons_self
  have hprint : p.1.request = .metrics →
      printed server.metrics.requestStarted = printed server'.metrics.requestStarted := by
    intro hmetrics
    have hread := h.read ⟨p, List.mem_cons_self, hmetrics⟩
    exact congrArg RuntimeMetrics.prometheusText (blurs_withoutDurations.started hread.metrics)
  obtain ⟨hresponse, halike, husers, husers'⟩ :=
    @Alike.serve ρ crates redis config server server' printed p.1 p.2 withoutDurationsAndMail
      blurs_withoutDurationsAndMail h.alike hrequest hnow hok hok'
      mailsAlike_withoutDurationsAndMail hprint
  refine ⟨hresponse, husers.trans h.users, husers'.trans h.users',
    fun q hq => h.same q (List.mem_cons_of_mem p hq), hcarried, hcarried', hmatched, halike, ?_⟩
  intro hfollow
  have hread : Alike RuntimeMetrics.withoutDurations server server' :=
    h.read (hfollow.imp fun q hq => ⟨List.mem_cons_of_mem p hq.1, hq.2⟩)
  exact (@Alike.serve ρ crates redis config server server' printed p.1 p.2
    RuntimeMetrics.withoutDurations blurs_withoutDurations hread hrequest hnow hok hok'
    ((hmatch hfollow).mailsAlike h.users h.users') hprint).2.1

/-- Two servers that differ only in the users, and in the outcomes of mails, give the same answers
to a sequence of recovery requests and reads of the metrics if, before the metrics are read, mails
are sent for the same requests and with the same outcomes. -/
theorem answers_eq_of_mailMatchesBeforeMetrics (crates : Crates) (redis : Redis ρ) (config : Config)
    (server : Server ρ) (users : Table User) (ps : List (Arrival × Arrival))
    (hsame : ∀ p ∈ ps, p.1.request = p.2.request ∧ p.1.now = p.2.now)
    (hcarried : (machine crates redis config printed).Always (NoDatabaseError crates config) server
      (ps.map Prod.fst))
    (hcarried' : (machine crates redis config printed).Always (NoDatabaseError crates config)
      { server with db := { server.db with users := users } } (ps.map Prod.snd))
    (hmatched : MailMatchesBeforeMetrics server.db { server.db with users := users } ps) :
    (machine crates redis config printed).outputs server (ps.map Prod.fst) =
      (machine crates redis config printed).outputs
        { server with db := { server.db with users := users } } (ps.map Prod.snd) := by
  refine (machine crates redis config printed).outputs_eq_of_unwinding
    (R := Unwound crates redis config server.db { server.db with users := users })
    (fun p ps server server' h => h.step) ?_
  exact ⟨rfl, rfl, hsame, hcarried, hcarried', hmatched, ⟨rfl, rfl⟩, fun _ => ⟨rfl, rfl⟩⟩

/-- A Redis server that is never used. -/
def noRedis : Redis Unit := ⟨fun _ _ => false, fun r _ _ => (none, r), fun r _ _ _ => r⟩

/-- Few requests are allowed. -/
def sampleConfig : Config where
  authRateLimitMaxRequests := 5
  authGlobalRateLimitMaxRequests := 10
  authRateLimitWindowSeconds := 60
  tokenExpirySeconds := 900

/-- An account that can be recovered. -/
def sampleUsers (id : String) : Table User :=
  .single
    { id := id, username := id, email := "u@e", passwordHash := some "h", emailVerified := true }

def sampleServer : Server Unit := { db := { users := sampleUsers "u" } }

/-- A recovery request for the email of the account, whose mail has the given outcome. -/
def recovery (now : Time) (tokenId : String) (delivery : Except MailDeliveryError Unit) :
    Arrival where
  request := .requestPasswordReset "u@e" "10.0.0.1"
  now := now
  environment := { token := tokenId, tokenId := tokenId, delivery := delivery }

theorem noDatabaseError_recovery {server : Server Unit} {now : Time} {tokenId : String}
    (h : (issuePasswordResetToken Crates.readable { server.db with clock := now } tokenId tokenId
      (trim "u@e") sampleConfig.tokenExpirySeconds).isOk = true) :
    NoDatabaseError Crates.readable sampleConfig server (recovery now tokenId delivery) := by
  intro identifier clientIp hrequest
  obtain ⟨rfl, rfl⟩ := Request.requestPasswordReset.inj hrequest
  exact h

theorem answers_eq_of_mailMatchesBeforeMetrics_renamed :
    let ps : List (Arrival × Arrival) :=
      [(recovery 1 "a" (.ok ()), recovery 1 "a" (.ok ())), (⟨.metrics, 2, {}⟩, ⟨.metrics, 2, {}⟩),
        (recovery 3 "b" (.ok ()), recovery 3 "b" (.error .timeout))]
    (machine Crates.readable noRedis sampleConfig printed).outputs sampleServer (ps.map Prod.fst) =
      (machine Crates.readable noRedis sampleConfig printed).outputs
        { sampleServer with db := { sampleServer.db with users := sampleUsers "v" } }
        (ps.map Prod.snd) := by
  refine answers_eq_of_mailMatchesBeforeMetrics Crates.readable noRedis sampleConfig sampleServer
    (sampleUsers "v") _ (by simp [recovery]) ?_ ?_ ?_
  · exact ⟨noDatabaseError_recovery (by decide +kernel), nofun,
      noDatabaseError_recovery (by decide +kernel), trivial⟩
  · exact ⟨noDatabaseError_recovery (by decide +kernel), nofun,
      noDatabaseError_recovery (by decide +kernel), trivial⟩
  · refine ⟨fun _ identifier clientIp hrequest => ?_, fun _ _ _ => nofun,
      fun ⟨_, h, _⟩ => absurd h List.not_mem_nil, trivial⟩
    obtain ⟨rfl, rfl⟩ := Request.requestPasswordReset.inj hrequest
    exact ⟨by decide +kernel, fun _ => rfl⟩

/-- One recovery request and one read of the metrics tell whether there is an account. -/
theorem metrics_reveal_account :
    let arrivals : List Arrival := [recovery 1 "a" (.ok ()), ⟨.metrics, 2, {}⟩]
    let server' : Server Unit := { sampleServer with db := { sampleServer.db with users := ∅ } }
    let served := machine Crates.readable noRedis sampleConfig printed
    served.Always (NoDatabaseError Crates.readable sampleConfig) sampleServer arrivals ∧
      served.Always (NoDatabaseError Crates.readable sampleConfig) server' arrivals ∧
      served.outputs sampleServer arrivals ≠ served.outputs server' arrivals := by
  refine ⟨⟨noDatabaseError_recovery (by decide +kernel), nofun, trivial⟩,
    ⟨noDatabaseError_recovery (by decide +kernel), nofun, trivial⟩, ?_⟩
  decide +kernel

end Keylo.Recovery
