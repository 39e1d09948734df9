import Keylo.Anonymous.Handlers
import Keylo.ClientSecrets
import Keylo.Foundation.Locks
import Keylo.Oidc.Codes

/-!
# Logins and changes of credentials, statement by statement

The handlers that create sessions (`auth_token`, `admin_token`, `issue_external_user_session` of
`handlers/auth.rs` and `login` of `handlers/oidc.rs`), and the transactions of `db/user.rs` that
change the password of a user or disable the account.

A login reads and verifies the credentials, resolves its principal, applies the policy on sessions,
signs its tokens and stores its session, all in statements of their own. A change of credentials
is one transaction: it locks the row of the user, revokes the sessions that it sees, and what it has
written is seen by others when it commits.

## Main definitions

* `Login`, `Issued` : a login before the policy on sessions, and its signed tokens.
* `Change` : the changes of credentials.
* `protocol` : all of them, interleaved.
-/

namespace Keylo.Logins

open Relational Transition Handler Anonymous

/-! ### Logins -/

/-- The tokens of a login, and what is stored with them. -/
structure Issued where
  session : Option CreateRefreshSessionParams
  /-- The id, the client, the text and the expiry of a row of `refresh_tokens`. -/
  token : Option (String × String × String × Int) := none
  body : AuthBody

/-- A login whose credentials have been accepted, up to the policy on sessions. -/
structure Login where
  /-- The user whose password has been verified. -/
  user : Option User
  principal : Option Principal
  force : Bool
  /-- What is left to do between the policy and the session. -/
  issue : Statements (Except AuthError Issued)
  /-- The response to a session that could not be stored. -/
  creationError : String → AuthError

variable (state : AppState)

/-- Signs the tokens of a login. -/
def signTokens (subject : Subject) (time : Time) : DbM AuthError Issued := do
  let issuedAt := Time.timestamp time
  let accessJti ← draw
  let accessToken ← sign state (subject.accessClaims state issuedAt accessJti)
  let refreshJti ← draw
  let exp := issuedAt + state.refreshTokenExpirySeconds
  let refreshToken ← sign state (subject.refreshClaims state issuedAt refreshJti)
  let sessionId ← draw
  pure
    { session := subject.principal.map fun principal =>
        { sessionId := sessionId, principalId := principal.id, clientId := subject.clientId
          organizationId := subject.claims.organizationId, refreshTokenId := refreshJti
          refreshToken := refreshToken, accessJti := accessJti, expiresAt := exp }
      token :=
        if subject.legacy then some (refreshJti, subject.clientId, refreshToken, exp) else none
      body := ⟨accessToken, some refreshToken, state.tokenExpirySeconds,
        subject.claims.passwordChangeRequired⟩ }

def sessionCreationFailed (_ : String) : AuthError :=
  .databaseError "Failed to create refresh session"

variable (payload : AuthPayload)

/-- The organization of a session; without a principal there is none to ask for. -/
def sessionOrganization : Option Principal → DbM AuthError (Option String)
  | none => if payload.organizationId.isSome then throw .invalidToken else pure none
  | some principal => resolveRequestedOrganizationSessionScope payload.organizationId principal

/-- `auth_token` from the verified password to the policy on sessions. -/
def userLogin (user : User) : DbM AuthError Login := do
  let time ← now
  let isAdmin ← isUserAdmin user.id
  let principal ← ExceptT.adapt (fun _ => .databaseError "Failed to resolve principal")
    (Handler.ensureUserPrincipal user.id)
  let organizationId ← sessionOrganization payload principal
  pure
    { user := some user, principal := principal, force := payload.force.getD false
      issue := (signTokens state (userSubject payload user isAdmin principal organizationId
        (Time.timestamp time)) time).run
      creationError := mapRefreshSessionCreationError }

/-- `admin_token` from the accepted secret to the policy on sessions. -/
def clientLogin : DbM AuthError Login := do
  let time ← now
  let principal ← ExceptT.adapt (fun _ => .databaseError "Failed to resolve principal")
    (Handler.ensureClientPrincipal payload.clientId)
  pure
    { user := none, principal := principal, force := payload.force.getD false
      issue := (signTokens state (clientSubject payload principal) time).run
      creationError := sessionCreationFailed }

/-- `admin_token` up to the policy on sessions. -/
def adminToken : DbM AuthError Login :=
  if payload.clientId.isEmpty || payload.clientSecret.isEmpty then throw .missingCredentials
  else if payload.organizationId.isSome then
    throw (.invalidRequest "organization_id is only supported by /v1/auth/token")
  else do
    let withinLimits ← consult
    if !withinLimits then throw .tooManyRequests
    else
      let unlocked ← consult
      if !unlocked then throw .tooManyRequests
      else
        match ← ExceptT.adapt (fun _ => .databaseError "Failed to get client")
            (fetch fun db => getClientAuthInfo db payload.clientId) with
        | none => throw .wrongCredentials
        | some (storedSecret, isAdminClient) =>
          if !(state.crates.bcryptVerify payload.clientSecret storedSecret).getD false then
            throw .wrongCredentials
          else if !isAdminClient then throw .insufficientRole
          else clientLogin state payload

/-- The claims of the tokens of a user who has been verified by an identity source. -/
def externalClaims (user : User) (principal : Principal) (organizationId : Option String) :
    Claims where
  sub := "user:" ++ user.username
  uid := some user.id
  principalId := some principal.id
  principalType := some .user
  organizationId := organizationId
  aud := "admin-backend"
  passwordChangeRequired := user.passwordChangeRequired
  jti := ""

/-- The part of `issue_external_user_session` after the policy on sessions. -/
def issueExternal (user : User) (principal : Principal) (sessionClientId : String)
    (organizationId : Option String) : DbM AuthError Issued := do
  let time ← now
  let isAdmin ← isUserAdmin user.id
  signTokens state
    { clientId := sessionClientId, principal := some principal, isAdmin := isAdmin
      claims := externalClaims user principal organizationId } time

/-- The principal is an active member of the organization of the session, if there is one. -/
def checkExternalOrganization (principal : Principal) : Option String → DbM AuthError Unit
  | none => pure ()
  | some organizationId => do
    match ← ExceptT.adapt
        (fun _ => .databaseError "Failed to validate external login organization")
        (fetch fun db => getActiveOrganizationMembership db organizationId principal.id) with
    | some _ => pure ()
    | none => throw .forbidden

/-- `issue_external_user_session` up to the policy on sessions, which is never overridden. -/
def issueExternalUserSession (user : User) (sessionClientId : String)
    (organizationId : Option String) : DbM AuthError Login :=
  if !user.active then throw .forbidden
  else do
    match ← ExceptT.adapt (fun _ => .databaseError "Failed to resolve user principal")
        (Handler.ensureUserPrincipal user.id) with
    | none => throw .invalidToken
    | some principal =>
      checkExternalOrganization principal organizationId
      pure
        { user := none, principal := some principal, force := false
          issue := (issueExternal state user principal sessionClientId organizationId).run
          creationError := sessionCreationFailed }

/-! ### Browser sessions -/

structure OidcLoginRequest where
  username : String
  password : String
  authorization : Oidc.AuthorizeRequest

/-- The client and, for a client of an organization, the organization are active. -/
def oidcClientContextIsActive (db : Db) (clientId : String) : Bool :=
  db.oidcClients.any fun client =>
    client.clientId == clientId && client.active &&
      client.organizationId.all fun organizationId =>
        db.organizations.any fun organization =>
          organization.id == organizationId && organization.status == .active

def validatedAuthorizationClient (request : Oidc.AuthorizeRequest) : DbM AuthError OidcClient := do
  match ← ExceptT.adapt AuthError.databaseError
      (fetch fun db => db.oidcClients.lookup OidcClient.clientId request.clientId) with
  | none => throw .notFound
  | some client =>
    match Oidc.validateAuthorizationRequest client request with
    | .error message => throw (.invalidRequest message)
    | .ok _ =>
      let active ← ExceptT.adapt AuthError.databaseError
        (fetch fun db => oidcClientContextIsActive db client.clientId)
      if active then pure client else throw .notFound

def browserSessionHash (crates : Crates) (session : String) : String :=
  crates.hexEncode (crates.sha256 session)

def createBrowserSession (crates : Crates) (db : Db) (id rawSession userId : String)
    (expiresAt : Int) : Except String Db :=
  if db.users.any fun user => user.id == userId then
    match db.browserSessions.insert
      { id := id, sessionHash := browserSessionHash crates rawSession, userId := userId
        expiresAt := .ofTimestamp expiresAt } with
    | none => .error uniqueViolation
    | some browserSessions => .ok { db with browserSessions := browserSessions }
  else .error foreignKeyViolation

/-- A password that is about to be verified. -/
inductive PasswordRequest
  | token (payload : AuthPayload)
  | browser (request : OidcLoginRequest) (client : OidcClient)

/-- `auth_token` up to the query for the user. -/
def authToken : DbM AuthError PasswordRequest :=
  if payload.clientId.isEmpty || payload.clientSecret.isEmpty then throw .missingCredentials
  else do
    enforcePasswordLoginLimits
    pure (.token payload)

/-- `login` of `handlers/oidc.rs` up to the query for the user. -/
def oidcLogin (request : OidcLoginRequest) : DbM AuthError PasswordRequest := do
  let client ← validatedAuthorizationClient request.authorization
  enforcePasswordLoginLimits
  pure (.browser request client)

/-! ### Changes of credentials -/

inductive Change
  | changeUserPassword (userId currentPassword newPassword : String)
  | resetUserPassword (userId password : String)
  | updateUser (userId : String) (changes : UserChanges)
  | setUserActive (userId : String) (active : Bool)

def Change.userId : Change → String
  | .changeUserPassword userId .. | .resetUserPassword userId _ | .updateUser userId _
  | .setUserActive userId _ => userId

/-- The reason for which the sessions of the user are revoked, if they are. -/
def Change.reason : Change → Option String
  | .changeUserPassword .. => some "password_changed"
  | .resetUserPassword .. => some "password_reset"
  | .updateUser _ changes =>
    if changes.active = some false then some "user_disabled"
    else if changes.password.isSome then some "password_updated"
    else none
  | .setUserActive _ active => if active then none else some "user_disabled"

/-- The new row of the user, from the row that is found; there is none if nothing is written. -/
def Change.row (crates : Crates) (salt : String) (found : Option User) :
    Change → Except String (Option User)
  | .changeUserPassword _ currentPassword newPassword =>
    match found.filter User.active with
    | none => .ok none
    | some user =>
      match user.passwordHash with
      | none => .ok none
      | some passwordHash =>
        match crates.bcryptVerify currentPassword passwordHash with
        | none => .error hashFailure
        | some false => .ok none
        | some true =>
          (hashPassword crates salt (some newPassword)).map fun passwordHash =>
            some { user with passwordHash := passwordHash, passwordChangeRequired := false }
  | .resetUserPassword _ password =>
    (hashPassword crates salt (some password)).map fun passwordHash =>
      found.map fun user =>
        { user with passwordHash := passwordHash, passwordChangeRequired := true }
  | .updateUser _ changes =>
    (hashPassword crates salt changes.password).map fun passwordHash =>
      found.map (changes.apply passwordHash)
  | .setUserActive _ active => .ok (found.map fun user => { user with active := active })

/-- A change that has not been committed: the new row, and the sessions that it has revoked. -/
structure Transaction where
  change : Change
  began : Time
  user : User
  refreshSessions : List String := []
  browserSessions : List String := []

/-- Revokes the refresh sessions of the user that the transaction sees. -/
def Transaction.revokeRefresh (t : Transaction) (db : Db) : Transaction :=
  { t with
    refreshSessions :=
      (db.refreshSessions.select (isSessionOf db t.change.userId)).map RefreshSession.id }

/-- Revokes the browser sessions of the user that the transaction sees. -/
def Transaction.revokeBrowser (t : Transaction) (db : Db) : Transaction :=
  { t with
    browserSessions :=
      (db.browserSessions.select (isBrowserSessionOf t.change.userId)).map BrowserSession.id }

/-- What the transaction has written becomes visible. -/
def Transaction.commit (t : Transaction) (db : Db) : Except String Db :=
  match db.users.tryUpdate (fun u => u.id == t.change.userId) fun _ => t.user with
  | none => .error uniqueViolation
  | some users =>
    let db' :=
      if db.users.any fun u => u.id == t.change.userId && u.email != t.user.email then
        revokePendingTokens db t.change.userId
      else db
    .ok { db' with
      users := users
      refreshSessions := db.refreshSessions.update (fun s => t.refreshSessions.contains s.id)
        (revokeSession t.began t.change.reason)
      browserSessions := db.browserSessions.update (fun s => t.browserSessions.contains s.id)
        (revokeBrowserSession t.began) }

/-! ### Requests -/

inductive Answer
  | tokens (body : AuthBody)
  /-- The consent page, with the cookie of a new browser session. -/
  | consent (rawSession : String)
  | retry
  | changed (done : Bool)

/-- How far a request has come. -/
inductive Phase
  | idle
  | limiting (rest : Statements (Except AuthError PasswordRequest))
  | reading (request : PasswordRequest)
  | resolving (user : Option User) (rest : Statements (Except AuthError Login))
  | checking (login : Login)
  | takingOver (login : Login)
  | issuing (login : Login) (rest : Statements (Except AuthError Issued))
  | storing (login : Login) (issued : Issued)
  | storingToken (issued : Issued)
  | admitting (client : OidcClient) (user : User)
  | opening (user : User)
  | changing (change : Change)
  | revokingRefresh (t : Transaction)
  | revokingBrowser (t : Transaction)
  | committing (t : Transaction)
  | mirroring (rest : Statements (Except String (Option Principal)))
  | answered (result : Except AuthError Answer)

inductive Call
  | authToken (payload : AuthPayload)
  | adminToken (payload : AuthPayload)
  /-- The user has been read by the caller. -/
  | issueExternalUserSession (user : User) (sessionClientId : String)
      (organizationId : Option String)
  | oidcLogin (request : OidcLoginRequest)
  | change (change : Change)

inductive Input
  | call (c : Call)
  | proceed (o : Oracle)

/-- The database, and the rows of users that are locked. -/
structure Store (ι : Type*) where
  db : Db
  locks : Locks String ι

def Phase.isReady : Phase → Bool
  | .idle | .answered _ => true
  | _ => false

def receive : Call → Phase
  | .authToken payload => .limiting (authToken payload).run
  | .adminToken payload => .resolving none (adminToken state payload).run
  | .issueExternalUserSession user sessionClientId organizationId =>
    .resolving none (issueExternalUserSession state user sessionClientId organizationId).run
  | .oidcLogin request => .limiting (oidcLogin request).run
  | .change change => .changing change

variable {ι : Type*} (i : ι) (s : Store ι) (o : Oracle)

def refuse (e : AuthError) : Phase := .answered (.error e)

def databaseFailure (e : String) : Phase := refuse (.databaseError e)

/-- One statement or transaction; if it fails nothing is written. -/
def statement {π : Type} (failed : String → π)
    (f : Db → Except String (π × Db)) : Store ι × π :=
  match outcome (fun _ => f) o s.db with
  | .ok (phase, db) => ({ s with db := db }, phase)
  | .error e => ({ s with db := s.db.tick o.elapsed }, failed e)

/-- The next statement of a part of a handler. -/
def runPart {ε α π : Type} (part : Statements (Except ε α) → π)
    (failed : ε → π) (done : α → π) (rest : Statements (Except ε α)) : Store ι × π :=
  let r := rest.advance o s.db part failed done
  ({ s with db := r.1 }, r.2)

/-- The user of an `auth_token` request, with its password verified. -/
def readToken (db : Db) : Phase :=
  match checkPassword state payload.clientSecret
      (db.users.lookup User.username payload.clientId) with
  | .error e => refuse e
  | .ok none => refuse .wrongCredentials
  | .ok (some user) => .resolving (some user) (userLogin state payload user).run

/-- The user of a browser login, with its password verified. -/
def readBrowser (request : OidcLoginRequest) (client : OidcClient) (db : Db) : Phase :=
  match (db.users.lookup User.username request.username).filter User.active with
  | none => .answered (.ok .retry)
  | some user =>
    match user.passwordHash with
    | none => .answered (.ok .retry)
    | some passwordHash =>
      if !(state.crates.bcryptVerify request.password passwordHash).getD false then
        .answered (.ok .retry)
      else if user.passwordChangeRequired then refuse .passwordChangeRequired
      else .admitting client user

def read : PasswordRequest → Store ι × Phase
  | .token payload =>
    statement s o (fun _ => refuse (.databaseError "Failed to get user"))
      fun db => .ok (readToken state payload db, db)
  | .browser request client =>
    statement s o databaseFailure fun db => .ok (readBrowser state request client db, db)

/-- The policy on sessions is applied to a login with a principal. -/
def governed (login : Login) : Option Principal :=
  login.principal.filter (singleSessionApplies state)

/-- Looks for another session of the principal. -/
def check (login : Login) : Store ι × Phase :=
  match governed state login with
  | none => (s, .issuing login login.issue)
  | some principal =>
    statement s o (fun _ => refuse (.databaseError "Failed to check refresh sessions")) fun db =>
      .ok (if !hasActiveRefreshSessionForPrincipal db principal.id then .issuing login login.issue
        else if !login.force then refuse (.conflict "active_session_exists")
        else .takingOver login, db)

/-- Ends the other sessions of the principal. -/
def takeOver (login : Login) : Store ι × Phase :=
  statement s o (fun _ => refuse (.databaseError "Failed to revoke refresh sessions")) fun db =>
    .ok (.issuing login login.issue, login.principal.elim db fun principal =>
      revokePrincipalRefreshSessions db principal.id (some "session_takeover"))

/-- What follows a stored session. -/
def stored (issued : Issued) : Phase :=
  if issued.token.isSome then .storingToken issued else .answered (.ok (.tokens issued.body))

/-- `create_refresh_session` with the foreign key of the session. -/
def storeSession (params : CreateRefreshSessionParams) (db : Db) : Except String Db :=
  match createRefreshSession state.crates db params with
  | .error e => .error e
  | .ok (_, db') =>
    if db.principals.any fun principal => principal.id == params.principalId then .ok db'
    else .error foreignKeyViolation

/-- The transaction locks the row of the user of a session in an organization. -/
def waits [DecidableEq ι] (params : CreateRefreshSessionParams) : Bool :=
  params.organizationId.isSome && s.db.principals.any fun principal =>
    principal.id == params.principalId && principal.principalType == .user &&
      !s.locks.available i principal.refId

def store [DecidableEq ι] (login : Login) (issued : Issued) : Option (Store ι × Phase) :=
  match issued.session with
  | none => some (s, stored issued)
  | some params =>
    if waits i s params then none
    else some (statement s o (fun e => refuse (login.creationError e)) fun db =>
      (storeSession state params db).map fun db' => (stored issued, db'))

/-- Stores the token of `admin_token`. -/
def storeToken (issued : Issued) : Store ι × Phase :=
  match issued.token with
  | none => (s, .answered (.ok (.tokens issued.body)))
  | some (tokenId, clientId, token, expiresAt) =>
    statement s o (fun _ => refuse (.databaseError "Failed to create refresh token")) fun db =>
      (createRefreshToken state.crates db tokenId clientId token expiresAt).map fun db' =>
        (.answered (.ok (.tokens issued.body)), db')

def checkContext (client : OidcClient) (user : User) : Store ι × Phase :=
  statement s o databaseFailure fun db =>
    .ok (if Oidc.oidcClientUserContextIsActive db client.clientId user.id client.organizationId
      then .opening user else .answered (.ok .retry), db)

def openSession (user : User) : Store ι × Phase :=
  statement s o databaseFailure fun db =>
    (createBrowserSession state.crates db o.uuid o.uuid' user.id
      (Time.timestamp db.clock + 28800)).map fun db' => (.answered (.ok (.consent o.uuid')), db')

variable [DecidableEq ι]

/-- The first statement of a change locks the row, and waits for others that have locked it. -/
def lockRow (change : Change) : Option (Store ι × Phase) :=
  if !s.locks.available i change.userId then none
  else
    let db := s.db.tick o.elapsed
    some <|
      match o.fault with
      | some e => ({ s with db := db }, databaseFailure e)
      | none =>
        match change.row state.crates o.salt (db.users.lookup User.id change.userId) with
        | .error e => ({ s with db := db }, databaseFailure e)
        | .ok none => ({ s with db := db }, .answered (.ok (.changed false)))
        | .ok (some user) =>
          let t : Transaction := { change := change, began := db.clock, user := user }
          (⟨db, s.locks.acquire i [change.userId]⟩,
            if change.reason.isSome then .revokingRefresh t else .committing t)

/-- A transaction that fails is rolled back. -/
def inTransaction (f : Db → Phase) : Store ι × Phase :=
  match o.fault with
  | some e => (⟨s.db.tick o.elapsed, s.locks.release i⟩, databaseFailure e)
  | none => ({ s with db := s.db.tick o.elapsed }, f (s.db.tick o.elapsed))

/-- The response to a change; `update_user` refreshes the principal first. -/
def committed : Change → Phase
  | .updateUser userId _ => .mirroring (Handler.ensureUserPrincipal userId).run
  | _ => .answered (.ok (.changed true))

def commitChange (t : Transaction) : Store ι × Phase :=
  statement { s with locks := s.locks.release i } o databaseFailure fun db =>
    (t.commit db).map fun db' => (committed t.change, db')

/-- The next statement of a request. -/
def proceed : Phase → Option (Store ι × Phase)
  | .idle | .answered _ => none
  | .limiting rest => some (runPart s o .limiting refuse .reading rest)
  | .reading request => some (read state s o request)
  | .resolving user rest => some (runPart s o (.resolving user) refuse .checking rest)
  | .checking login => some (check state s o login)
  | .takingOver login => some (takeOver s o login)
  | .issuing login rest => some (runPart s o (.issuing login) refuse (.storing login) rest)
  | .storing login issued => store state i s o login issued
  | .storingToken issued => some (storeToken state s o issued)
  | .admitting client user => some (checkContext s o client user)
  | .opening user => some (openSession state s o user)
  | .changing change => lockRow state i s o change
  | .revokingRefresh t =>
    some (inTransaction i s o fun db => .revokingBrowser (t.revokeRefresh db))
  | .revokingBrowser t => some (inTransaction i s o fun db => .committing (t.revokeBrowser db))
  | .committing t => some (commitChange i s o t)
  | .mirroring rest =>
    some (runPart s o .mirroring databaseFailure (fun _ => .answered (.ok (.changed true))) rest)

def next (i : ι) : Input → Store ι → Phase → Option (Store ι × Phase)
  | .call c, s, phase => if phase.isReady then some (s, receive state c) else none
  | .proceed o, s, phase => proceed state i s o phase

/-- Other requests let time pass, and rotate, revoke and delete sessions, but create none. They may
change all other tables, as far as every session keeps its principal. -/
def continues (db other : Db) : Bool :=
  db.clock ≤ other.clock &&
    (other.refreshSessions.rows.all fun s => s.revokedAt.isSome ||
      db.refreshSessions.any fun s' => s'.id == s.id && s'.principalId == s.principalId &&
        s'.revokedAt.isNone && s'.expiresAt == s.expiresAt) &&
    (other.browserSessions.rows.all fun s => s.revokedAt.isSome ||
      db.browserSessions.any fun s' => s'.id == s.id && s'.userId == s.userId &&
        s'.revokedAt.isNone && s'.expiresAt == s.expiresAt) &&
    other.refreshSessions.rows.all fun s => other.principals.any fun p => p.id == s.principalId

variable (ι) in
/-- The statements of the requests, named by `ι`, and all other writes. -/
def protocol : Protocol ι (Store ι) Phase Input Db where
  next := next state
  env other s := if continues s.db other then some { s with db := other } else none

end Keylo.Logins
