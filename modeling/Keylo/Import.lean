import Keylo.Accounts
import Keylo.Http

/-!
# Import of users from other systems

The import of `handlers/user.rs`, which administrators call with a batch of users and the public
endpoint for migration at login with a single one. An item is resolved to a local account by the
mapping of its external id, then by its email, then by its username; an account found in one of
these ways is updated with the fields of the item. The mapping is stored in any case.

## Main definitions

* `resolveUser` : the account of an item.
* `importItem`, `runThirdPartyImport` : the import.
* `importThirdPartyUsers`, `jitRegisterUser` : the handlers.
-/

namespace Keylo.Import

open Relational Handler

/-! ### Requests and responses -/

structure ThirdPartyUserImportItem where
  externalUserId : String
  username : String
  email : String
  password : Option String := none
  active : Option Bool := none
  roles : Option (List String) := none

structure ThirdPartyUserImportRequest where
  provider : String
  users : List ThirdPartyUserImportItem
  dryRun : Option Bool := none

structure ThirdPartyJitRegisterRequest where
  provider : String
  item : ThirdPartyUserImportItem

inductive MigrationErrorCode
  | invalidInput
  | conflict
  | mappingError
  | roleAssignmentFailed
  | internalError
  | providerInvalid
deriving DecidableEq, Repr

inductive ImportStatus
  | created
  | updated
  | linked
  | failed
  | dryRun
deriving DecidableEq, Repr

structure ThirdPartyUserImportResultItem where
  externalUserId : String
  userId : Option String
  status : ImportStatus
  errorCode : Option MigrationErrorCode := none
  message : Option String := none
deriving DecidableEq, Repr

structure ThirdPartyUserImportSummary where
  total : Nat
  created : Nat
  updated : Nat
  linked : Nat
  failed : Nat
deriving DecidableEq, Repr

structure ThirdPartyUserImportOutput where
  provider : String
  dryRun : Bool
  summary : ThirdPartyUserImportSummary
  results : List ThirdPartyUserImportResultItem
deriving DecidableEq, Repr

/-- The error response of the two handlers. -/
structure MigrationError where
  status : Nat
  errorCode : MigrationErrorCode
  message : String
deriving DecidableEq, Repr

structure ThirdPartyJitRegisterResponse where
  provider : String
  migrationStatus : ImportStatus
  userId : String
  accessToken : String
  expiresIn : Int
deriving DecidableEq, Repr

/-! ### One item -/

def mapItemErrorCode (e : String) : MigrationErrorCode :=
  if contains e "duplicate key" then .conflict else .internalError

/-- The result of an item that fails (`push_failed_result`). -/
def failedResult (externalUserId : String) (userId : Option String) (code : MigrationErrorCode)
    (message : String) : ThirdPartyUserImportResultItem :=
  ⟨externalUserId, userId, .failed, some code, some message⟩

/-- The fields of an item without surrounding blanks. -/
def trimItem (item : ThirdPartyUserImportItem) : ThirdPartyUserImportItem :=
  { item with
    externalUserId := trim item.externalUserId
    username := trim item.username
    email := trim item.email }

/-- The checks on a trimmed item before the database is read. -/
def validateItem (item : ThirdPartyUserImportItem) :
    Except ThirdPartyUserImportResultItem Unit :=
  if item.externalUserId.isEmpty || item.username.isEmpty || item.email.isEmpty then
    .error (failedResult item.externalUserId none .invalidInput
      "external_user_id/username/email are required")
  else
    match item.password with
    | none => .ok ()
    | some password =>
      match validatePasswordComplexity password with
      | .error message => .error (failedResult item.externalUserId none .invalidInput message)
      | .ok () => .ok ()

variable (crates : Crates)

/-- The digest under which the subject of an external identity is stored. -/
def externalSubjectHash (externalUserId : String) : String :=
  crates.hexEncode (crates.sha256 externalUserId)

/-- The user an external identity is mapped to. -/
def getMappedUserId (db : Db) (provider externalUserId : String) : Option String :=
  (db.externalUserMappings.lookup ExternalUserMapping.subject
    (provider, externalSubjectHash crates externalUserId)).map ExternalUserMapping.userId

/-- `SET user_id = EXCLUDED.user_id`. -/
def setMappedUser (userId : String) : Assignment ExternalUserMapping :=
  ⟨fun m => { m with userId := userId }, fun _ _ => rfl⟩

/-- `INSERT … ON CONFLICT (provider, external_user_id) DO UPDATE`. -/
def upsertExternalUserMapping (db : Db) (provider externalUserId userId : String) : Db :=
  { db with
    externalUserMappings := db.externalUserMappings.upsert
      ⟨provider, externalSubjectHash crates externalUserId, userId⟩ (setMappedUser userId) }

theorem mem_upsertExternalUserMapping {crates : Crates} {db : Db}
    {provider externalUserId userId : String} {m : ExternalUserMapping} :
    m ∈ (upsertExternalUserMapping crates db provider externalUserId userId).externalUserMappings ↔
      m = ⟨provider, externalSubjectHash crates externalUserId, userId⟩ ∨
        m ∈ db.externalUserMappings ∧
          m.subject ≠ (provider, externalSubjectHash crates externalUserId) := by
  refine (Table.mem_upsert fun q _ hclash => ?_).trans ?_
  · obtain ⟨rfl, hsubject⟩ :
        provider = q.provider ∧ externalSubjectHash crates externalUserId = q.externalUserId := by
      simpa [clash, ExternalUserMapping.subject] using hclash
    rw [hsubject]
    rfl
  · exact or_congr_right (and_congr_right fun _ => Keyed.ofKey_clash_eq_false.trans ne_comm)

/-- The account of an item, its status, and the counter of the summary that it counts for. -/
structure Resolved where
  user : User
  status : ImportStatus
  counter : Option ImportStatus

variable (provider : String) (item : ThirdPartyUserImportItem)

/-- The changes an import makes to an existing account. -/
def itemChanges : UserChanges where
  username := some item.username
  email := some item.email
  password := item.password
  active := some (item.active.getD true)

/-- An account found by its email or username is updated; an error is only logged. -/
def linkUser (user : User) : DbM ThirdPartyUserImportResultItem Resolved := do
  let _ ← Program.attempt (updateUser crates user.id (itemChanges item))
  pure ⟨user, .linked, some .linked⟩

/-- A new account; an error of the deactivation is only logged. -/
def createImportedUser (message : String) : DbM ThirdPartyUserImportResultItem Resolved := do
  let user ← ExceptT.adapt
    (fun e => failedResult item.externalUserId none (mapItemErrorCode e) (message ++ e))
    (createUser crates
      { username := item.username, email := item.email, password := item.password })
  if !item.active.getD true then
    let _ ← Program.attempt (Handler.setUserActive user.id false)
  pure ⟨user, .created, some .created⟩

/-- The account of a mapped identity is updated. The mapping may have lost its account. -/
def updateMappedUser (existingUserId : String) :
    DbM ThirdPartyUserImportResultItem Resolved := do
  match ← ExceptT.adapt (fun e => failedResult item.externalUserId none .internalError
      ("failed to load mapped user: " ++ e))
    (fetch fun db => db.users.lookup User.id existingUserId) with
  | none => createImportedUser crates item "failed to create remapped user: "
  | some user =>
    match ← ExceptT.adapt (fun e => failedResult item.externalUserId (some user.id)
        (mapItemErrorCode e) ("failed to update mapped user: " ++ e))
      (updateUser crates user.id (itemChanges item)) with
    | some updatedUser => pure ⟨updatedUser, .updated, some .updated⟩
    | none => pure ⟨user, .updated, none⟩

/-- The account of a valid item: by its mapping, by its email, by its username, or a new one. -/
def resolveUser : DbM ThirdPartyUserImportResultItem Resolved := do
  match ← ExceptT.adapt (fun e => failedResult item.externalUserId none .mappingError
      ("failed to query mapping: " ++ e))
    (fetch fun db => getMappedUserId crates db provider item.externalUserId) with
  | some existingUserId => updateMappedUser crates item existingUserId
  | none =>
    match ← ExceptT.adapt (fun e => failedResult item.externalUserId none .internalError
        ("failed to lookup user by email: " ++ e))
      (fetch fun db => db.users.lookup User.email item.email) with
    | some user => linkUser crates item user
    | none =>
      match ← ExceptT.adapt (fun e => failedResult item.externalUserId none .internalError
          ("failed to lookup user by username: " ++ e))
        (fetch fun db => db.users.lookup User.username item.username) with
      | some user => linkUser crates item user
      | none => createImportedUser crates item "failed to create user: "

/-- Assigns the roles with the given names, up to the first one that cannot be assigned. -/
def assignRoles (externalUserId userId : String) :
    List String → DbM ThirdPartyUserImportResultItem Unit
  | [] => pure ()
  | roleName :: roleNames => do
    match ← ExceptT.adapt (fun e => failedResult externalUserId (some userId) .roleAssignmentFailed
        ("failed to query role: " ++ e))
      (fetch fun db => db.roles.lookup Role.name (trim roleName)) with
    | none =>
      throw (failedResult externalUserId (some userId) .invalidInput
        ("role not found: " ++ trim roleName))
    | some role =>
      ExceptT.adapt (fun e => failedResult externalUserId (some userId) .roleAssignmentFailed
        ("failed to assign role: " ++ e)) (assignRoleToUser userId role.id)
      assignRoles externalUserId userId roleNames

/-- Stores the mapping of a resolved item and assigns its roles. -/
def bindUser (resolved : Resolved) :
    DbM ThirdPartyUserImportResultItem ThirdPartyUserImportResultItem := do
  ExceptT.adapt (fun e => failedResult item.externalUserId (some resolved.user.id) .mappingError
      ("failed to upsert external mapping: " ++ e))
    (atomically fun _ db =>
      if db.users.any (·.id == resolved.user.id) then
        .ok ((), upsertExternalUserMapping crates db provider item.externalUserId resolved.user.id)
      else .error foreignKeyViolation)
  assignRoles item.externalUserId resolved.user.id (item.roles.getD [])
  pure ⟨item.externalUserId, some resolved.user.id, resolved.status, none, none⟩

/-- The result of an item, and the counter it counts for besides the one of failures. -/
structure ItemOutcome where
  counter : Option ImportStatus := none
  result : ThirdPartyUserImportResultItem

/-- The import of a trimmed and valid item. -/
def importValidItem : Statements ItemOutcome := do
  match ← (resolveUser crates provider item).run with
  | .error failure => pure { result := failure }
  | .ok resolved =>
    match ← (bindUser crates provider item resolved).run with
    | .error failure => pure ⟨resolved.counter, failure⟩
    | .ok result => pure ⟨resolved.counter, result⟩

def importItem (dryRun : Bool) (item : ThirdPartyUserImportItem) : Statements ItemOutcome :=
  match validateItem (trimItem item) with
  | .error failure => pure { result := failure }
  | .ok () =>
    if dryRun then
      pure { result := ⟨(trimItem item).externalUserId, none, .dryRun, none, some "validated"⟩ }
    else importValidItem crates provider (trimItem item)

/-! ### Batches -/

/-- The largest batch. The number is irreducible so that it is compared, not counted. -/
@[irreducible] def maxImportBatchSize : Nat := 10000

def importItems (dryRun : Bool) : List ThirdPartyUserImportItem → Statements (List ItemOutcome)
  | [] => pure []
  | item :: items => do
    let outcome ← importItem crates provider dryRun item
    let outcomes ← importItems dryRun items
    pure (outcome :: outcomes)

/-- The counters at the end of an import. -/
def summarize (outcomes : List ItemOutcome) : ThirdPartyUserImportSummary where
  total := outcomes.length
  created := outcomes.countP fun outcome => outcome.counter == some .created
  updated := outcomes.countP fun outcome => outcome.counter == some .updated
  linked := outcomes.countP fun outcome => outcome.counter == some .linked
  failed := outcomes.countP fun outcome => outcome.result.status == .failed

def runThirdPartyImport (users : List ThirdPartyUserImportItem) (dryRun : Bool) :
    Statements ThirdPartyUserImportOutput :=
  if maxImportBatchSize < users.length then
    pure {
      provider := provider
      dryRun := dryRun
      summary := ⟨users.length, 0, 0, 0, users.length⟩
      results := [failedResult "" none .invalidInput
        ("Batch too large: " ++ toString users.length ++ " items exceed maximum of " ++
          toString maxImportBatchSize)] }
  else do
    let outcomes ← importItems crates provider dryRun users
    pure ⟨provider, dryRun, summarize outcomes, outcomes.map ItemOutcome.result⟩

/-! ### Handlers -/

/-- The name of the provider of a request. -/
def normalizedProvider (provider : String) : Except MigrationError String :=
  let provider := crates.toLowercase (trim provider)
  if provider.isEmpty then .error ⟨400, .providerInvalid, "provider must not be empty"⟩
  else .ok provider

def importThirdPartyUsers (req : ThirdPartyUserImportRequest) :
    DbM MigrationError ThirdPartyUserImportOutput :=
  if req.users.isEmpty then throw ⟨400, .invalidInput, "users must not be empty"⟩
  else
    match normalizedProvider crates req.provider with
    | .error e => throw e
    | .ok provider =>
      liftM (runThirdPartyImport crates provider req.users (req.dryRun.getD false))

/-- The status code of a failed migration. -/
def MigrationErrorCode.statusCode : MigrationErrorCode → Nat
  | .conflict => 409
  | .invalidInput | .providerInvalid => 400
  | _ => 500

/-- The error response for the first result of a failed migration. -/
def firstFailure (results : List ThirdPartyUserImportResultItem) : MigrationError :=
  let code := (results.head?.bind fun result => result.errorCode).getD .internalError
  let message := (results.head?.bind fun result => result.message).getD "jit migration failed"
  ⟨code.statusCode, code, message⟩

/-- The claims of the access token for a migrated user. -/
def jitClaims (user : User) (principal : Option Principal) (isAdmin : Bool)
    (now expirySeconds : Int) (jti : String) : Claims where
  sub := "user:" ++ user.username
  uid := some user.id
  principalId := principal.map Principal.id
  principalType := some .user
  aud := "admin-backend"
  scope := if isAdmin then ["read", "write", "admin"] else ["read", "write"]
  role := [if isAdmin then "admin" else "user"]
  iat := now
  exp := now + expirySeconds
  jti := jti

/-- Signs a user in that has just been migrated. Neither a password nor the flag of the account is
checked. -/
def mintMigratedToken (keys : JwtKeys) (expirySeconds : Int)
    (result : ThirdPartyUserImportResultItem) :
    DbM MigrationError ThirdPartyJitRegisterResponse := do
  match result.userId with
  | none => throw ⟨500, .internalError, "jit migration user_id missing"⟩
  | some userId =>
    match ← ExceptT.adapt
        (fun e => ⟨500, .internalError, "failed to load migrated user: " ++ e⟩)
        (fetch fun db => db.users.lookup User.id userId) with
    | none => throw ⟨404, .internalError, "migrated user not found"⟩
    | some user =>
      let isAdmin ← isUserAdmin user.id
      let principal ← ExceptT.adapt
        (fun _ => ⟨500, .internalError, "failed to resolve principal"⟩)
        (Handler.ensureUserPrincipal user.id)
      let time ← now
      let jti ← draw
      match keys.signToken
          (jitClaims user principal isAdmin (Time.timestamp time) expirySeconds jti) with
      | .error _ => throw ⟨500, .internalError, "failed to mint access token"⟩
      | .ok accessToken =>
        pure ⟨provider, result.status, user.id, accessToken, expirySeconds⟩

def jitRegisterUser (keys : JwtKeys) (expirySeconds : Int) (req : ThirdPartyJitRegisterRequest) :
    DbM MigrationError ThirdPartyJitRegisterResponse :=
  match normalizedProvider crates req.provider with
  | .error e => throw e
  | .ok provider => do
    let output ← runThirdPartyImport crates provider [req.item] false
    if 0 < output.summary.failed then throw (firstFailure output.results)
    else
      match output.results.head? with
      | none => throw ⟨500, .internalError, "jit migration produced empty result"⟩
      | some result => mintMigratedToken provider keys expirySeconds result

end Keylo.Import
