import Keylo.Accounts
import Keylo.Http
import Keylo.Organizations
import Keylo.PasswordReset

/-!
# Public endpoints

The handlers of `handlers/user.rs`, `handlers/auth.rs` and `handlers/password_reset.rs` that serve
requests without a bearer token: registration, login, refresh and password reset. The rate limiter,
the login lock and the mail server are consulted; audit records and metrics are left out.

## Main definitions

* `AppState` : the configuration of the server.
* `registerUser`, `authToken`, `authRefresh`, `requestPasswordReset`, `confirmPasswordReset`.
-/

namespace Keylo.Anonymous

open Relational Handler

/-- What the handlers read of the state of the server. -/
structure AppState where
  crates : Crates
  jwtKeys : JwtKeys
  tokenExpirySeconds : Int
  refreshTokenExpirySeconds : Int
  sessionPolicy : String

variable (state : AppState)

/-! ### Registration -/

structure CreateUserRequest where
  username : String
  email : String
  password : Option String := none

/-- The response to an account that could not be created. -/
def registrationError (e : String) : ApiError :=
  if e = uniqueViolation then conflictResponse "Username or email already exists"
  else internalErrorResponse ("Failed to create user: " ++ e)

def registerUser (req : CreateUserRequest) : DbM ApiError User :=
  match req.password.elim (.ok ()) validatePasswordComplexity with
  | .error message => throw (badRequestResponse message)
  | .ok () => ExceptT.adapt registrationError (createUser state.crates
      { username := req.username, email := req.email, password := req.password })

/-! ### Tokens and sessions -/

structure AuthBody where
  accessToken : String
  refreshToken : Option String
  expiresIn : Int
  passwordChangeRequired : Bool := false
deriving DecidableEq, Repr

def accessScope (isAdmin : Bool) : List String :=
  if isAdmin then ["read", "write", "admin"] else ["read", "write"]

/-- The roles in the tokens of users; tokens are also issued to administrative clients. -/
def claimRole (isAdmin : Bool) : List String := if isAdmin then ["admin"] else ["user"]

def sign (claims : Claims) : DbM AuthError String :=
  match state.jwtKeys.signToken claims with
  | .ok token => pure token
  | .error e => throw e

/-- The organization a login asks for, if the principal is an active member of it. -/
def resolveRequestedOrganizationSessionScope (requestedOrganizationId : Option String)
    (principal : Principal) : DbM AuthError (Option String) :=
  match requestedOrganizationId with
  | none => pure none
  | some organizationId =>
    if (trim organizationId).isEmpty then
      throw (.invalidRequest "organization_id must not be empty")
    else do
      match ← ExceptT.adapt
          (fun _ => .databaseError "Failed to resolve organization membership")
          (fetch fun db =>
            getActiveOrganizationMembership db (trim organizationId) principal.id) with
      | some membership => pure (some membership.organizationId)
      | none => throw .forbidden

/-- Whether the policy of the server allows one session of the principal only. -/
def singleSessionApplies (principal : Principal) : Bool :=
  if state.sessionPolicy = "single_user_session" then principal.principalType == .user
  else state.sessionPolicy == "single_principal_session"

/-- Refuses a second session, or ends the first one. -/
def enforceRefreshSessionPolicy (principal : Principal) (forceTakeover : Bool) :
    DbM AuthError Unit :=
  if !singleSessionApplies state principal then pure ()
  else do
    let active ← ExceptT.adapt (fun _ => .databaseError "Failed to check refresh sessions")
      (fetch fun db => hasActiveRefreshSessionForPrincipal db principal.id)
    if !active then pure ()
    else if !forceTakeover then throw (.conflict "active_session_exists")
    else
      ExceptT.adapt (fun _ => .databaseError "Failed to revoke refresh sessions")
        (atomically fun _ db => .ok ((),
          revokePrincipalRefreshSessions db principal.id (some "session_takeover")))

def mapRefreshSessionCreationError (e : String) : AuthError :=
  if e = "organization_session_context_inactive" then .forbidden
  else .databaseError "Failed to create refresh session"

/-! ### Login -/

structure AuthPayload where
  clientId : String
  clientSecret : String
  force : Option Bool := none
  organizationId : Option String := none

/-- Two quotas and the lock of the account. -/
def enforcePasswordLoginLimits : DbM AuthError Unit := do
  let withinGlobalLimit ← consult
  if !withinGlobalLimit then throw .tooManyRequests
  else
    let withinLimit ← consult
    if !withinLimit then throw .tooManyRequests
    else
      let unlocked ← consult
      if !unlocked then throw .tooManyRequests else pure ()

/-- The user that the credentials are for, if they are right. -/
def checkPassword (clientSecret : String) : Option User → Except AuthError (Option User)
  | none => .ok none
  | some user =>
    if !user.active then .ok none
    else
      match user.passwordHash with
      | none => .ok none
      | some passwordHash =>
        match state.crates.bcryptVerify clientSecret passwordHash with
        | none => .error .wrongCredentials
        | some valid => .ok (if valid then some user else none)

variable (payload : AuthPayload)

/-- The claims of the two tokens of a login. -/
def loginClaims (user : User) (principal : Option Principal)
    (organizationId : Option String) (now : Int) : Claims where
  sub := "user:" ++ payload.clientId
  uid := some user.id
  principalId := principal.map Principal.id
  principalType := some .user
  organizationId := organizationId
  aud := "admin-backend"
  passwordChangeRequired := user.passwordChangeRequired
  iat := now
  jti := ""

/-- The claims of the tokens of a client. -/
def clientClaims (principal : Option Principal) : Claims where
  sub := "client:" ++ payload.clientId
  principalId := principal.map Principal.id
  principalType := some .client
  aud := "admin-backend"
  jti := ""

/-- What the tokens of a login are signed for. -/
structure Subject where
  clientId : String
  principal : Option Principal
  /-- What the claims of the tokens have in common. -/
  claims : Claims
  isAdmin : Bool
  /-- The refresh token is stored in `refresh_tokens` as well. -/
  legacy : Bool := false

/-- The subject of a login of `auth_token`. -/
def userSubject (user : User) (isAdmin : Bool)
    (principal : Option Principal) (organizationId : Option String) (now : Int) : Subject where
  clientId := "user:" ++ payload.clientId
  principal := principal
  claims := loginClaims payload user principal organizationId now
  isAdmin := isAdmin

/-- The subject of a login of `admin_token`. -/
def clientSubject (principal : Option Principal) : Subject where
  clientId := payload.clientId
  principal := principal
  claims := clientClaims payload principal
  isAdmin := true
  legacy := true

/-- The claims of the access token of a login. -/
def Subject.accessClaims (subject : Subject) (now : Int) (jti : String) : Claims :=
  { subject.claims with
    scope := accessScope subject.isAdmin, role := claimRole subject.isAdmin, iat := now
    exp := now + state.tokenExpirySeconds, jti := jti }

/-- The claims of the refresh token of a login. -/
def Subject.refreshClaims (subject : Subject) (now : Int) (jti : String) : Claims :=
  { subject.claims with
    scope := ["refresh"], tokenType := .refresh, iat := now
    exp := now + state.refreshTokenExpirySeconds, jti := jti }

/-- The organization of the session, and the policy on further sessions. -/
def prepareSession : Option Principal → DbM AuthError (Option String)
  | none => if payload.organizationId.isSome then throw .invalidToken else pure none
  | some principal => do
    let organizationId ←
      resolveRequestedOrganizationSessionScope payload.organizationId principal
    enforceRefreshSessionPolicy state principal (payload.force.getD false)
    pure organizationId

/-- Stores the session of a login. -/
def storeSession (organizationId : Option String)
    (refreshToken accessJti : String) (refreshClaims : Claims) :
    Option Principal → DbM AuthError Unit
  | none => pure ()
  | some principal => do
    let sessionId ← draw
    ExceptT.adapt mapRefreshSessionCreationError
      (atomically fun _ db => createRefreshSession state.crates db
        { sessionId := sessionId, principalId := principal.id
          clientId := "user:" ++ payload.clientId, organizationId := organizationId
          refreshTokenId := refreshClaims.jti, refreshToken := refreshToken
          accessJti := accessJti, expiresAt := refreshClaims.exp })

/-- The part of a login after the password has been checked. -/
def issueTokens (user : User) : DbM AuthError AuthBody := do
  let time ← now
  let isAdmin ← isUserAdmin user.id
  let principal ← ExceptT.adapt (fun _ => .databaseError "Failed to resolve principal")
    (Handler.ensureUserPrincipal user.id)
  let organizationId ← prepareSession state payload principal
  let claims := loginClaims payload user principal organizationId (Time.timestamp time)
  let accessJti ← draw
  let accessToken ← sign state
    { claims with
      scope := accessScope isAdmin, role := claimRole isAdmin
      exp := Time.timestamp time + state.tokenExpirySeconds, jti := accessJti }
  let refreshJti ← draw
  let refreshClaims :=
    { claims with
      scope := ["refresh"], tokenType := .refresh
      exp := Time.timestamp time + state.refreshTokenExpirySeconds, jti := refreshJti }
  let refreshToken ← sign state refreshClaims
  storeSession state payload organizationId refreshToken accessJti refreshClaims principal
  pure ⟨accessToken, some refreshToken, state.tokenExpirySeconds, user.passwordChangeRequired⟩

def authToken : DbM AuthError AuthBody :=
  if payload.clientId.isEmpty || payload.clientSecret.isEmpty then throw .missingCredentials
  else do
    enforcePasswordLoginLimits
    let found ← ExceptT.adapt (fun _ => .databaseError "Failed to get user")
      (fetch fun db => db.users.lookup User.username payload.clientId)
    match checkPassword state payload.clientSecret found with
    | .error e => throw e
    | .ok none => throw .wrongCredentials
    | .ok (some user) => issueTokens state payload user

/-! ### Refresh -/

/-- The claims of an access token for a user or an administrative client, from their rows. -/
def accessClaimsForPrincipal (principal : Principal) (now : Int) (jti : String) :
    DbM AuthError Claims :=
  match principal.principalType with
  | .user => do
    match (← ExceptT.adapt (fun _ => .databaseError "Failed to get user")
        (fetch fun db => db.users.lookup User.id principal.refId)).filter User.active with
    | none => throw .invalidToken
    | some user =>
      let isAdmin ← isUserAdmin user.id
      pure {
        sub := "user:" ++ user.username, uid := some user.id, principalId := some principal.id
        principalType := some .user, passwordChangeRequired := user.passwordChangeRequired
        aud := "admin-backend", scope := accessScope isAdmin, role := claimRole isAdmin
        iat := now, exp := now + state.tokenExpirySeconds, jti := jti }
  | .client => do
    -- a query that fails counts as a client that is no administrator
    match ← Program.attempt (fetch fun db =>
        db.clients.any fun c => c.id == principal.refId && c.active && c.isAdminClient) with
    | .ok true =>
      pure {
        sub := "client:" ++ principal.refId, principalId := some principal.id
        principalType := some .client, aud := "admin-backend", scope := accessScope true
        role := claimRole true, iat := now, exp := now + state.tokenExpirySeconds, jti := jti }
    | _ => throw .insufficientRole
  | _ => throw .tokenTypeInvalid

variable (refreshToken : String)

/-- The token of a session in an organization needs an active membership. -/
def checkRefreshOrganization (refreshClaims : Claims) : DbM AuthError Unit :=
  match refreshClaims.organizationId with
  | none => pure ()
  | some organizationId =>
    if refreshClaims.principalType ≠ some .user then throw .invalidToken
    else
      match refreshClaims.principalId with
      | none => throw .invalidToken
      | some principalId => do
        match ← ExceptT.adapt
            (fun _ => .databaseError "Failed to resolve organization membership")
            (fetch fun db => getActiveOrganizationMembership db organizationId principalId) with
        | some _ => pure ()
        | none =>
          let _ ← Program.attempt (atomically fun _ db => .ok (revokeRefreshSessionByToken
            state.crates db refreshToken (some "organization_membership_inactive")))
          throw .invalidToken

/-- The response to a token whose session has been rotated. -/
def refreshedBody (refreshClaims : Claims) (session : ConsumedRefreshSession)
    (newRefreshToken : String) (now : Int) (accessJti : String) : DbM AuthError AuthBody := do
  match (← ExceptT.adapt (fun _ => .databaseError "Failed to get principal")
      (fetch fun db => db.principals.lookup Principal.id session.principalId)).filter
        Principal.active with
  | none => throw .invalidToken
  | some principal =>
    let claims ← accessClaimsForPrincipal state principal now accessJti
    let accessToken ← sign state { claims with organizationId := refreshClaims.organizationId }
    pure ⟨accessToken, some newRefreshToken, state.tokenExpirySeconds,
      claims.passwordChangeRequired⟩

/-- The access token and the session that replace a token of a client. -/
def migratedSession (clientId : String) (now : Int) (accessJti refreshJti : String) :
    DbM AuthError (String × CreateRefreshSessionParams) := do
  match ← ExceptT.adapt (fun _ => .databaseError "Failed to resolve principal")
      (Handler.ensureClientPrincipal clientId) with
  | none => throw .invalidToken
  | some principal =>
    let claims ← accessClaimsForPrincipal state principal now accessJti
    let accessToken ← sign state claims
    let migratedClaims : Claims :=
      { sub := "client:" ++ clientId, principalId := some principal.id
        principalType := some .client, aud := "admin-backend", scope := ["refresh"]
        tokenType := .refresh, iat := now, exp := now + state.refreshTokenExpirySeconds
        jti := refreshJti }
    let migratedRefreshToken ← sign state migratedClaims
    let sessionId ← draw
    pure (accessToken,
      { sessionId := sessionId, principalId := principal.id, clientId := clientId
        refreshTokenId := migratedClaims.jti, refreshToken := migratedRefreshToken
        accessJti := claims.jti, expiresAt := migratedClaims.exp })

/-- A token from before there were sessions belongs to a client, and is replaced by a session. -/
def migrateRefreshToken (now : Int) (accessJti refreshJti : String) : DbM AuthError AuthBody := do
  match ← Program.attempt (atomically fun _ db =>
      .ok (consumeRefreshToken state.crates db refreshToken)) with
  | .ok (some (_, clientId)) =>
    let issued ← migratedSession state clientId now accessJti refreshJti
    ExceptT.adapt (fun _ => .databaseError "Failed to create refresh session")
      (atomically fun _ db => createRefreshSession state.crates db issued.2)
    pure ⟨issued.1, some issued.2.refreshToken, state.tokenExpirySeconds, false⟩
  | _ => throw .invalidToken

/-- Consumes the token, once its signature and its organization have been checked. -/
def rotateRefreshToken (refreshClaims : Claims) : DbM AuthError AuthBody := do
  let time ← now
  let accessJti ← draw
  let refreshJti ← draw
  let newRefreshToken ← sign state
    { refreshClaims with
      customerSupportGrantId := none, scope := ["refresh"], role := []
      iat := Time.timestamp time, jti := refreshJti, tokenType := .refresh }
  match ← ExceptT.adapt (fun _ => .databaseError "Failed to consume refresh session")
      (atomically fun _ db => consumeAndRotateRefreshSession state.crates db refreshToken
        refreshClaims.organizationId ⟨refreshJti, newRefreshToken, accessJti⟩) with
  | .consumed session =>
    refreshedBody state refreshClaims session newRefreshToken (Time.timestamp time) accessJti
  | .replayed _ | .organizationScopeMismatch | .organizationContextInactive => throw .invalidToken
  | .notFound =>
    if refreshClaims.organizationId.isSome then throw .invalidToken
    else migrateRefreshToken state refreshToken (Time.timestamp time) accessJti refreshJti

def authRefresh : DbM AuthError AuthBody :=
  match state.jwtKeys.decodeToken refreshToken with
  | .error _ => throw .invalidToken
  | .ok refreshClaims =>
    if refreshClaims.tokenType ≠ .refresh then throw .tokenTypeInvalid
    else do
      checkRefreshOrganization state refreshToken refreshClaims
      rotateRefreshToken state refreshToken refreshClaims

/-! ### Password reset -/

/-- The error response of the reset handlers. -/
structure ResetError where
  status : Nat
  error : String
  message : String
deriving DecidableEq, Repr

def tooManyResets : ResetError := ⟨429, "too_many_requests", "Too many requests"⟩

def resetDatabaseError (_ : String) : ResetError := ⟨500, "database_error", "Database error"⟩

def invalidResetToken : ResetError :=
  ⟨400, "invalid_password_reset_token", "Invalid or expired password reset token"⟩

/-- Sends a token to the account of the identifier. The response is the same whether or not there
is one; a token that is not delivered is revoked. -/
def requestPasswordReset (identifier : String) : DbM ResetError Unit := do
  let withinLimits ← consult
  if !withinLimits then throw tooManyResets
  else if (trim identifier).isEmpty then pure ()
  else
    match ← ExceptT.adapt resetDatabaseError (atomically fun o db =>
        issuePasswordResetToken state.crates db o.uuid o.uuid' (trim identifier)
          state.tokenExpirySeconds) with
    | none => pure ()
    | some issued =>
      let delivered ← consult
      if delivered then pure ()
      else
        let _ ← Program.attempt
          (atomically fun _ db => .ok ((), revokePasswordResetToken db issued.id))
        pure ()

structure PasswordResetConfirmRequest where
  token : String
  newPassword : String

def confirmPasswordReset (request : PasswordResetConfirmRequest) : DbM ResetError Unit := do
  let withinLimits ← consult
  if !withinLimits then throw tooManyResets
  else if (trim request.token).isEmpty then throw invalidResetToken
  else
    match validatePasswordComplexity request.newPassword with
    | .error message => throw ⟨400, "invalid_password", message⟩
    | .ok () =>
      match ← ExceptT.adapt resetDatabaseError (atomically fun o db =>
          consumePasswordResetToken state.crates db o.salt (trim request.token)
            request.newPassword) with
      | .reset .. => pure ()
      | .invalid => throw invalidResetToken

end Keylo.Anonymous
