import Keylo.ClientSecrets
import Keylo.Foundation.Locks
import Keylo.Http

/-!
# The setup wizard

`setup_initialize` of `handlers/setup.rs` with the settings of `db/settings.rs`, statement by
statement. A call takes an advisory lock on a connection of its own, looks once more whether the
setup has been completed, and then seeds the default clients and marks the setup as completed, each
by a separate statement on some other connection.

Every statement may fail, before or after the server has carried it out; every connection may be
lost, and with it the lock that was taken on it; and every request may be cancelled, which gives the
connection back to the pool with the lock still taken.

## Main definitions

* `Setup.Phase` : how far a call has come.
* `Setup.protocol` : the statements of the calls, and all that happens around them.
* `Setup.record` : the answers of the calls.
-/

namespace Keylo

open Relational Function

/-! ### Settings -/

section Settings

variable (db : Db)

/-- `SELECT value FROM system_settings`. -/
def getSetting (key : String) : Option SettingValue :=
  (db.systemSettings.lookup Setting.key key).map Setting.value

/-- `SET value = EXCLUDED.value`. -/
def replaceValue (value : SettingValue) : Assignment Setting :=
  ⟨fun s => { s with value := value }, fun _ _ => rfl⟩

def upsertSetting (key : String) (value : SettingValue) : Db :=
  { db with systemSettings := db.systemSettings.upsert ⟨key, value⟩ (replaceValue value) }

def setupCompleted : Bool :=
  ((getSetting db "setup.completed").bind SettingValue.asBool).getD false

end Settings

namespace Setup

open Transition

/-! ### Requests and answers -/

/-- What the handler reads of the configuration and of the state of the server. -/
structure SetupConfig where
  enableSetupWizard : Bool := true
  production : Bool := false
  validateForSetupInitialization : Except String Unit := .ok ()
  adminClientId : Option String := none
  adminClientSecret : Option String := none
  /-- The server has been started with a database. -/
  hasPool : Bool := true
  databaseUrl : String := ""
  jwtPrivateKeyPem : String
  jwtPublicKeyPem : String
  oidcIssuer : String

structure SetupInitializeRequest where
  adminClientId : Option String := none
  adminClientSecret : Option String := none

structure SetupEndpoints where
  issuer : String
  jwksUri : String
  discoveryUri : String
  adminTokenEndpoint : String
  userTokenEndpoint : String
  serviceTokenEndpoint : String
deriving DecidableEq, Repr

structure SetupInitializeResponse where
  completed : Bool
  adminClientId : String
  endpoints : SetupEndpoints
deriving DecidableEq, Repr

variable (config : SetupConfig)

/-- The endpoints that the answer names. -/
def setupEndpoints : SetupEndpoints where
  issuer := config.oidcIssuer
  jwksUri := config.oidcIssuer ++ "/.well-known/jwks.json"
  discoveryUri := config.oidcIssuer ++ "/.well-known/keylo-configuration"
  adminTokenEndpoint := config.oidcIssuer ++ "/v1/admin/token"
  userTokenEndpoint := config.oidcIssuer ++ "/v1/auth/token"
  serviceTokenEndpoint := config.oidcIssuer ++ "/v1/service/token"

def isBlank (s : String) : Bool := (trim s).isEmpty

def firstNonBlank (primary fallback : Option String) : Option String :=
  (primary.filter fun value => !isBlank value).or (fallback.filter fun value => !isBlank value)

/-- The trimmed value of a field that must not be blank. -/
def normalizedRequired (fieldName : String) : Option String → Except AuthError String
  | none => .error (.invalidRequest (fieldName ++ " is required"))
  | some value =>
    if isBlank value then .error (.invalidRequest (fieldName ++ " is required"))
    else .ok (trim value)

/-- The admin client that a call is to seed. -/
structure Credentials where
  adminClientId : String
  adminClientSecret : String

/-- The checks before anything is written. -/
def credentials (payload : SetupInitializeRequest) : Except AuthError Credentials := do
  if config.production then
    match config.validateForSetupInitialization with
    | .ok () => pure ()
    | .error e => throw (.invalidRequest e)
  let adminClientId ← normalizedRequired "admin_client_id"
    (firstNonBlank payload.adminClientId config.adminClientId)
  let adminClientSecret ← normalizedRequired "admin_client_secret"
    (firstNonBlank payload.adminClientSecret config.adminClientSecret)
  pure ⟨adminClientId, adminClientSecret⟩

def hasJwtKeys : Bool := !isBlank config.jwtPrivateKeyPem && !isBlank config.jwtPublicKeyPem

/-! ### Calls -/

/-- The statements of `seed_default_clients_with_admin` and `mark_setup_completed`. -/
inductive Statement
  | seedWeb
  | readWeb
  | mirrorWeb (displayName : String) (active : Bool)
  | seedAdmin
  | readAdmin
  | mirrorAdmin (displayName : String) (active : Bool)
  | markCompleted
  | markCompletedAt

/-- What a call is going to answer, if its lock can be released. -/
inductive Ending
  | refused
  | failed (e : AuthError)
  | initialized

variable (κ : Type*)

/-- How far a call has come; `k` is the connection on which it has taken the lock. -/
inductive Phase
  | idle
  | answered (result : Except AuthError SetupInitializeResponse)
  | checking (payload : SetupInitializeRequest)
  | connecting (r : Credentials)
  | migrating (r : Credentials)
  | locking (r : Credentials)
  | rechecking (k : κ) (r : Credentials)
  | initializing (k : κ) (r : Credentials) (statement : Statement)
  | releasing (k : κ) (r : Credentials) (ending : Ending)

def Phase.isReady {κ : Type*} : Phase κ → Bool
  | .idle | .answered _ => true
  | _ => false

/-- The connection on which the call has taken the lock. -/
def Phase.connection {κ : Type*} : Phase κ → Option κ
  | .rechecking k _ | .initializing k _ _ | .releasing k _ _ => some k
  | _ => none

/-- The outcome of a statement: it has been carried out, or not, or has been although the server
did not learn of it. -/
inductive Verdict
  | done
  | failed
  | lost
deriving DecidableEq

/-- The outcome of a statement, with the connection that the pool has chosen, and all that is random
or depends on the time. -/
structure Reply where
  connection : κ
  verdict : Verdict := .done
  message : String := ""
  salt : String := ""
  completedAt : String := ""

/-- The database, the lock, the connections that have been lost, and those that calls have taken
from the pool for the lock. -/
structure Store (ι : Type*) where
  db : Db
  lock : AdvisoryLock κ
  lost : κ → Bool
  taken : κ → Option ι

inductive Input
  | call (payload : SetupInitializeRequest)
  | proceed (reply : Reply κ)
  /-- The client goes away. -/
  | cancel

variable {κ} {ι : Type*} [DecidableEq κ] (crates : Crates) (i : ι) (s : Store κ ι)

def reject (e : AuthError) : Store κ ι × Phase κ := (s, .answered (.error e))

/-- The connection goes back to the pool. -/
def giveBack (k : κ) : Store κ ι := { s with taken := update s.taken k none }

/-- The first look at the setting; a query that fails counts as a setup that is not completed. -/
def check (payload : SetupInitializeRequest) (reply : Reply κ) : Store κ ι × Phase κ :=
  if (config.hasPool || !isBlank config.databaseUrl) && reply.verdict == .done &&
      setupCompleted s.db then
    reject s .forbidden
  else
    match credentials config payload with
    | .error e => reject s e
    | .ok r => (s, .connecting r)

/-- `database_pool_from_config`. -/
def connect (r : Credentials) (reply : Reply κ) : Store κ ι × Phase κ :=
  if config.hasPool then (s, .migrating r)
  else if isBlank config.databaseUrl then reject s (.invalidRequest "DATABASE_URL is required")
  else if reply.verdict = .done then (s, .migrating r)
  else reject s (.databaseError reply.message)

/-- The migrations write neither clients nor settings. -/
def migrate (r : Credentials) (reply : Reply κ) : Store κ ι × Phase κ :=
  if reply.verdict ≠ .done then reject s (.databaseError reply.message)
  else if !hasJwtKeys config then
    reject s
      (.invalidRequest "JWT keys are missing; Keylo should auto-generate them during startup")
  else (s, .locking r)

/-- `pg_try_advisory_lock`, on a connection that nobody else uses. -/
def acquire (r : Credentials) (reply : Reply κ) : Option (Store κ ι × Phase κ) :=
  let k := reply.connection
  if s.lost k || (s.taken k).isSome then none
  else
    match reply.verdict, AdvisoryLock.tryLock k s.lock with
    | .failed, _ => some (reject s (.databaseError reply.message))
    | .lost, lock =>
      some (reject { s with lock := lock.getD s.lock } (.databaseError reply.message))
    | .done, none => some (reject s (.conflict "Setup initialization is already running"))
    | .done, some lock =>
      some ({ s with lock := lock, taken := update s.taken k (some i) }, .rechecking k r)

/-- The second look at the setting. -/
def recheck (k : κ) (r : Credentials) (reply : Reply κ) : Store κ ι × Phase κ :=
  if reply.verdict ≠ .done then
    (s, .releasing k r (.failed (.databaseError reply.message)))
  else if setupCompleted s.db then (s, .releasing k r .refused)
  else (s, .initializing k r .seedWeb)

/-- What a statement does, and the one that follows it. -/
def execute (r : Credentials) (reply : Reply κ) (db : Db) :
    Statement → Except String (Db × Option Statement)
  | .seedWeb =>
    match crates.bcryptHash reply.salt "web-secret" with
    | none => .error hashFailure
    | some hash => .ok (seedWebClient db hash, some .readWeb)
  | .readWeb =>
    match readOwner db .client "web" with
    | none => .ok (db, some .seedAdmin)
    | some (displayName, active) => .ok (db, some (.mirrorWeb displayName active))
  | .mirrorWeb displayName active =>
    .ok (upsertPrincipal db .client "web" displayName active, some .seedAdmin)
  | .seedAdmin =>
    match crates.bcryptHash reply.salt r.adminClientSecret with
    | none => .error hashFailure
    | some hash => .ok (seedAdminClient db r.adminClientId hash, some .readAdmin)
  | .readAdmin =>
    match readOwner db .client r.adminClientId with
    | none => .ok (db, some .markCompleted)
    | some (displayName, active) => .ok (db, some (.mirrorAdmin displayName active))
  | .mirrorAdmin displayName active =>
    .ok (upsertPrincipal db .client r.adminClientId displayName active, some .markCompleted)
  | .markCompleted => .ok (upsertSetting db "setup.completed" (.bool true), some .markCompletedAt)
  | .markCompletedAt =>
    .ok (upsertSetting db "setup.completed_at" (.string reply.completedAt), none)

/-- A statement of the initialization. -/
def runStatement (k : κ) (r : Credentials) (statement : Statement) (reply : Reply κ) :
    Store κ ι × Phase κ :=
  match execute crates r reply s.db statement, reply.verdict with
  | .error e, _ => (s, .releasing k r (.failed (.databaseError e)))
  | .ok _, .failed => (s, .releasing k r (.failed (.databaseError reply.message)))
  | .ok (db, _), .lost =>
    ({ s with db := db }, .releasing k r (.failed (.databaseError reply.message)))
  | .ok (db, some statement), .done => ({ s with db := db }, .initializing k r statement)
  | .ok (db, none), .done => ({ s with db := db }, .releasing k r .initialized)

/-- The answer of a call whose lock has been released, or has not. -/
def conclude (r : Credentials) (released : Except String Unit) :
    Ending → Except AuthError SetupInitializeResponse
  | .failed e => .error e
  | .refused =>
    match released with
    | .ok () => .error .forbidden
    | .error e => .error (.databaseError e)
  | .initialized =>
    match released with
    | .ok () => .ok ⟨true, r.adminClientId, setupEndpoints config⟩
    | .error e => .error (.databaseError e)

/-- `pg_advisory_unlock`, on the connection on which the lock has been taken. -/
def release (k : κ) (r : Credentials) (ending : Ending) (reply : Reply κ) : Store κ ι × Phase κ :=
  if s.lost k || reply.verdict == .failed then
    (giveBack s k, .answered (conclude config r (.error reply.message) ending))
  else
    ({ giveBack s k with lock := AdvisoryLock.unlock k s.lock },
      .answered (conclude config r
        (if reply.verdict = .done then .ok () else .error reply.message) ending))

/-- The next statement of a call. -/
def proceed (reply : Reply κ) : Phase κ → Option (Store κ ι × Phase κ)
  | .idle | .answered _ => none
  | .checking payload => some (check config s payload reply)
  | .connecting r => some (connect config s r reply)
  | .migrating r => some (migrate config s r reply)
  | .locking r => acquire i s r reply
  | .rechecking k r => some (recheck s k r reply)
  | .initializing k r statement => some (runStatement crates s k r statement reply)
  | .releasing k r ending => some (release config s k r ending reply)

/-- A call is answered at once if the wizard is not enabled. -/
def start (payload : SetupInitializeRequest) : Store κ ι × Phase κ :=
  if config.enableSetupWizard then (s, .checking payload) else reject s .notFound

def next (i : ι) : Input κ → Store κ ι → Phase κ → Option (Store κ ι × Phase κ)
  | .call payload, s, phase => if phase.isReady then some (start config s payload) else none
  | .proceed reply, s, phase => proceed config crates i s reply phase
  | .cancel, s, phase =>
    -- a statement that is in flight has taken effect before, as a step of its own, or never does
    if phase.isReady then none else some (phase.connection.elim s (giveBack s), .idle)

variable (κ) in
/-- What happens around the calls. -/
inductive Event
  /-- A connection is lost. -/
  | disconnect (k : κ)
  /-- Other requests change anything but the settings. -/
  | other (db : Db)

def surroundings : Event κ → Store κ ι → Option (Store κ ι)
  | .disconnect k, s => some { s with
      lock := AdvisoryLock.disconnect k s.lock, lost := update s.lost k true }
  | .other db, s => some { s with db := { db with systemSettings := s.db.systemSettings } }

variable (κ ι) in
/-- The statements of the calls, named by `ι`, on connections named by `κ`. -/
def protocol : Protocol ι (Store κ ι) (Phase κ) (Input κ) (Event κ) where
  next := next config crates
  env := surroundings

/-! ### Answers -/

/-- What has been answered, and which calls have changed clients. -/
structure History (ι : Type*) where
  successes : ℕ := 0
  /-- The call that is running has changed the table of clients. -/
  changed : ι → Bool := fun _ => false
  /-- The errors, and whether the call had changed the table. -/
  failures : List (AuthError × Bool) := []

/-- Records the answer of a call. -/
def History.answer (history : History ι) (i : ι) : Phase κ → History ι
  | .answered (.ok _) => { history with successes := history.successes + 1 }
  | .answered (.error e) =>
    { history with failures := (e, history.changed i) :: history.failures }
  | _ => history

/-- Records what a step of a call has done. -/
def record [DecidableEq ι] (history : History ι) (c : Config ι (Store κ ι) (Phase κ))
    (l : Action ι (Input κ) (Event κ)) (c' : Config ι (Store κ ι) (Phase κ)) : History ι :=
  match l with
  | .environment _ => history
  | .request i a =>
    let changed :=
      match a with
      | .call _ => false
      | _ => history.changed i || decide (c'.shared.db.clients ≠ c.shared.db.clients)
    { history with changed := update history.changed i changed }.answer i (c'.request i)

end Setup

end Keylo
