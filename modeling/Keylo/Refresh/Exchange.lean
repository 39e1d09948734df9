import Keylo.Refresh.Chains
import Keylo.Tokens.Blacklist

/-!
# The handlers that issue and exchange refresh tokens

The handlers of `handlers/auth.rs` that issue, exchange and revoke refresh tokens, up to their
statements. They run the transactions of `db/refresh_session.rs` and single statements on
`refresh_tokens`, the table from before there were sessions. `admin_token` stores its token in
both; `auth_refresh` goes to the older table only if it has found no session for its token.

A login begins here when its credentials have been accepted. Every token that is signed has a
random identifier, so that it has never been signed before, and nobody has seen it before it has
been returned.

## Main definitions

* `Phase` : how far a handler has come.
* `protocol` : the statements of the handlers.
* `record` : the refresh tokens that have been exchanged or logged out, and the access tokens of
  every login.
-/

namespace Keylo.Exchange

open Relational Transition Anonymous

/-! ### Requests -/

/-- The tokens of a response, and the session that belongs to them. -/
structure Tokens where
  sessionId : Option String
  accessToken : String
  refreshToken : String

/-- The tokens of a login that have been signed. -/
structure SignedTokens extends Tokens where
  jti : String
  exp : Int

inductive Call
  | authToken (payload : AuthPayload) (user : User) (isAdmin : Bool) (principal : Option Principal)
      (organizationId : Option String)
  | adminToken (payload : AuthPayload) (principal : Option Principal)
  | authRefresh (refreshToken : String)
  | authLogoutRefreshToken (refreshToken : String)
  /-- The claims are those of the access token. -/
  | authSelectOrganizationContext (accessToken : String) (claims : Claims) (organizationId : String)
  /-- A revocation of sessions by any other handler. -/
  | revokeSessions (c : Refresh.Call)
  | revokeClientRefreshTokens (clientId : String)

inductive Outcome
  | rejected
  | issued (tokens : Tokens)
  /-- A session has been rotated. -/
  | rotated (refreshToken : String) (tokens : Tokens)
  /-- A token without a session has been replaced by a session. -/
  | migrated (refreshToken : String) (tokens : Tokens)
  /-- An access token has been replaced by one for an organization. -/
  | selected (accessToken newAccessToken : String)
  | loggedOut (refreshToken : String)
  | revoked

/-- How far a handler has come. -/
inductive Phase
  | idle
  | answered (outcome : Outcome)
  | signing (login : Subject)
  | storingSession (login : Subject) (tokens : SignedTokens)
  | storingToken (login : Subject) (tokens : SignedTokens)
  | checkingMembership (refreshToken : String) (refreshClaims : Claims)
  | revokingInactive
  | rotating (refreshToken : String) (refreshClaims : Claims)
  | consuming (refreshToken : String) (refreshClaims : Claims) (now : Time)
      (new : Replacement)
  /-- The claims of the access token are read. -/
  | completing (refreshToken sessionId newRefreshToken : String)
      (body : Statements (Except AuthError AuthBody))
  | migrating (refreshToken : String) (now : Time) (accessJti refreshJti : String)
  /-- The token has been consumed, and the tokens of its session are signed. -/
  | issuing (refreshToken : String)
      (session : Statements (Except AuthError (String × CreateRefreshSessionParams)))
  | storingMigrated (refreshToken : String) (tokens : Tokens)
  | loggingOut (refreshToken : String)
  | revokingToken (refreshToken : String)
  /-- The membership of the user is checked. -/
  | selecting (accessToken : String) (claims : Claims)
      (organizationId : Statements (Except AuthError String))
  | reissuing (accessToken : String) (claims : Claims) (organizationId : String)
  | revokingSessions

/-- A handler, and the last transaction it has begun. -/
structure Task where
  phase : Phase
  transaction : Refresh.Task := .idle

def Phase.isReady : Phase → Bool
  | .idle | .answered _ => true
  | _ => false

/-- The sessions, and the tokens that have been signed and returned. -/
structure Store (ι : Type*) where
  sessions : Refresh.Store ι
  signed : List String
  issued : List String

inductive Input
  | call (c : Call)
  /-- A step of the transaction. -/
  | proceed
  /-- The transaction is aborted. -/
  | abort (error : String)
  /-- The handler goes on. -/
  | handle (o : Oracle) (sessionId : String)

/-! ### Steps of handlers -/

variable {ι : Type*} [DecidableEq ι] (state : AppState) (s : Store ι) (o : Oracle)

def reject : Store ι × Task := (s, ⟨.answered .rejected, .idle⟩)

def answer (outcome : Outcome) : Store ι × Task := (s, ⟨.answered outcome, .idle⟩)

/-- The response with a new refresh token. -/
def give (outcome : Tokens → Outcome) (tokens : Tokens) : Store ι × Task :=
  answer { s with issued := tokens.refreshToken :: s.issued } (outcome tokens)

/-- The handler begins a transaction. -/
def begin (phase : Phase) (c : Refresh.Call) : Store ι × Task :=
  (s, ⟨phase, Refresh.start s.sessions.db.clock c⟩)

def withDb (db : Db) : Store ι := { s with sessions := { s.sessions with db := db } }

/-- Signs the tokens of a login, and stores its session. -/
def signLogin (sessionId : String) (login : Subject) : Option (Store ι × Task) :=
  let now := s.sessions.db.clock.timestamp
  match state.jwtKeys.signToken (login.accessClaims state now o.uuid),
    state.jwtKeys.signToken (login.refreshClaims state now o.uuid') with
  | .ok accessToken, .ok refreshToken =>
    if s.signed.contains refreshToken then none
    else
      let s := { s with signed := refreshToken :: s.signed }
      let exp := (login.refreshClaims state now o.uuid').exp
      match login.principal with
      | some principal =>
        some (begin s (.storingSession login
            ⟨⟨some sessionId, accessToken, refreshToken⟩, o.uuid', exp⟩) (.createRefreshSession
          { sessionId := sessionId, principalId := principal.id, clientId := login.clientId
            organizationId := login.claims.organizationId, refreshTokenId := o.uuid'
            refreshToken := refreshToken, accessJti := o.uuid, expiresAt := exp }))
      | none =>
        if login.legacy then
          some (s, ⟨.storingToken login ⟨⟨none, accessToken, refreshToken⟩, o.uuid', exp⟩, .idle⟩)
        else some (give s .issued ⟨none, accessToken, refreshToken⟩)
  | _, _ => some (reject s)

/-- The session of a login has been stored. -/
def sessionStored (login : Subject) (tokens : SignedTokens) : Refresh.Task → Store ι × Task
  | .returned .created =>
    if login.legacy then (s, ⟨.storingToken login tokens, .idle⟩)
    else give s .issued tokens.toTokens
  | _ => reject s

/-- Stores the token of a login of `admin_token`. -/
def storeToken (login : Subject) (tokens : SignedTokens) : Store ι × Task :=
  if o.fault.isSome then reject s
  else
    match createRefreshToken state.crates s.sessions.db tokens.jti login.clientId
      tokens.refreshToken tokens.exp with
    | .error _ => reject s
    | .ok db => give (withDb s db) .issued tokens.toTokens

variable (refreshToken : String)

/-- The token of a session in an organization needs an active membership. -/
def checkMembership (refreshClaims : Claims) : Store ι × Task :=
  match refreshClaims.organizationId with
  | none => (s, ⟨.rotating refreshToken refreshClaims, .idle⟩)
  | some organizationId =>
    if refreshClaims.principalType ≠ some .user then reject s
    else
      match refreshClaims.principalId with
      | none => reject s
      | some principalId =>
        if o.fault.isSome then reject s
        else if (getActiveOrganizationMembership s.sessions.db organizationId principalId).isSome
        then (s, ⟨.rotating refreshToken refreshClaims, .idle⟩)
        else begin s .revokingInactive
          (.revokeRefreshSessionByToken refreshToken (some "organization_membership_inactive"))

/-- Signs the replacement of the token, and consumes it. -/
def signReplacement (refreshClaims : Claims) : Option (Store ι × Task) :=
  let now := s.sessions.db.clock
  match state.jwtKeys.signToken
    { refreshClaims with
      customerSupportGrantId := none, scope := ["refresh"], role := []
      iat := now.timestamp, jti := o.uuid', tokenType := .refresh } with
  | .error _ => some (reject s)
  | .ok text =>
    if s.signed.contains text then none
    else some (begin { s with signed := text :: s.signed }
      (.consuming refreshToken refreshClaims now ⟨o.uuid', text, o.uuid⟩)
      (.consumeAndRotateRefreshSession refreshToken refreshClaims.organizationId
        ⟨o.uuid', text, o.uuid⟩))

/-- What follows the attempt to consume the token. -/
def consumed (refreshClaims : Claims) (now : Time) (new : Replacement) :
    Refresh.Task → Store ι × Task
  | .returned (.consumed (.consumed session)) =>
    (s, ⟨.completing refreshToken session.sessionId new.refreshToken
      (refreshedBody state refreshClaims session new.refreshToken now.timestamp new.accessJti).run,
      .idle⟩)
  | .returned (.consumed .notFound) =>
    if refreshClaims.organizationId.isSome then reject s
    else (s, ⟨.migrating refreshToken now new.accessJti new.refreshTokenId, .idle⟩)
  | _ => reject s

/-- A statement of a part of a handler that only reads tokens and sessions. -/
def runStatement {α : Type} (phase : Statements (Except AuthError α) → Phase)
    (done : α → Option (Store ι × Task)) :
    Statements (Except AuthError α) → Option (Store ι × Task)
  | .done (.ok a) => done a
  | .done (.error _) => some (reject s)
  | .statement write next =>
    some (withDb s (write o s.sessions.db), ⟨phase (next o s.sessions.db), .idle⟩)

/-- Consumes a token without a session. -/
def migrate (now : Time) (accessJti refreshJti : String) : Store ι × Task :=
  if o.fault.isSome then reject s
  else
    match consumeRefreshToken state.crates s.sessions.db refreshToken with
    | (none, db) => reject (withDb s db)
    | (some (_, clientId), db) => (withDb s db, ⟨.issuing refreshToken
      (migratedSession state clientId now.timestamp accessJti refreshJti).run, .idle⟩)

/-- Stores the session that replaces a token. -/
def storeMigrated (issued : String × CreateRefreshSessionParams) : Option (Store ι × Task) :=
  let params := issued.2
  if s.signed.contains params.refreshToken then none
  else some (begin { s with signed := params.refreshToken :: s.signed }
    (.storingMigrated refreshToken ⟨some params.sessionId, issued.1, params.refreshToken⟩)
    (.createRefreshSession params))

def migratedStored (tokens : Tokens) : Refresh.Task → Store ι × Task
  | .returned .created => give s (.migrated refreshToken) tokens
  | _ => reject s

/-- A token that has no session is revoked where it is stored. -/
def loggedOut : Refresh.Task → Store ι × Task
  | .returned (.revokedByToken (some _)) => answer s (.loggedOut refreshToken)
  | .returned (.revokedByToken none) => (s, ⟨.revokingToken refreshToken, .idle⟩)
  | _ => reject s

def revokeToken : Store ι × Task :=
  if o.fault.isSome then reject s
  else answer (withDb s (revokeRefreshTokenByToken state.crates s.sessions.db refreshToken))
    (.loggedOut refreshToken)

/-- The checks of `auth_select_organization_context`; the result is the organization. -/
def selectContext (claims : Claims) (organizationId : String) : DbM AuthError String :=
  if claims.tokenType ≠ .access || claims.principalType ≠ some .user then throw .forbidden
  else
    match claims.uid with
    | none => throw .invalidToken
    | some userId => do
      let found ← ExceptT.adapt (fun _ => .databaseError "Failed to resolve principal")
        (fetch fun db =>
          match claims.principalId with
          | some principalId => db.principals.lookup Principal.id principalId
          | none => db.principals.lookup Principal.id (principalId .user userId))
      match found with
      | none => throw .invalidToken
      | some principal =>
        if principal.principalType ≠ .user || principal.refId ≠ userId || !principal.active then
          throw .invalidToken
        else do
          match ← ExceptT.adapt
              (fun _ => .databaseError "Failed to resolve organization membership")
              (fetch fun db => getActiveOrganizationMembership db organizationId principal.id) with
          | none => throw .forbidden
          | some membership => pure membership.organizationId

/-- Signs an access token with the claims of another one and a new expiry. -/
def reissue (accessToken : String) (claims : Claims) (organizationId : String) :
    Store ι × Task :=
  let now := s.sessions.db.clock.timestamp
  match state.jwtKeys.signToken
    { claims with
      organizationId := some organizationId, iat := now, exp := now + state.tokenExpirySeconds
      jti := o.uuid, tokenType := .access } with
  | .error _ => reject s
  | .ok newAccessToken => answer s (.selected accessToken newAccessToken)

/-- The next statement of a handler whose transaction has ended. -/
def handle (sessionId : String) (transaction : Refresh.Task) :
    Phase → Option (Store ι × Task)
  | .idle | .answered _ => none
  | .signing login => signLogin state s o sessionId login
  | .storingSession login tokens => some (sessionStored s login tokens transaction)
  | .storingToken login tokens => some (storeToken state s o login tokens)
  | .checkingMembership refreshToken refreshClaims =>
    some (checkMembership s o refreshToken refreshClaims)
  | .revokingInactive => some (reject s)
  | .rotating refreshToken refreshClaims => signReplacement state s o refreshToken refreshClaims
  | .consuming refreshToken refreshClaims now new =>
    some (consumed state s refreshToken refreshClaims now new transaction)
  | .completing refreshToken sessionId newRefreshToken body =>
    runStatement s o (.completing refreshToken sessionId newRefreshToken)
      (fun body => some (give s (.rotated refreshToken)
        ⟨some sessionId, body.accessToken, newRefreshToken⟩)) body
  | .migrating refreshToken now accessJti refreshJti =>
    some (migrate state s o refreshToken now accessJti refreshJti)
  | .issuing refreshToken session =>
    runStatement s o (.issuing refreshToken) (storeMigrated s refreshToken) session
  | .storingMigrated refreshToken tokens =>
    some (migratedStored s refreshToken tokens transaction)
  | .loggingOut refreshToken => some (loggedOut s refreshToken transaction)
  | .revokingToken refreshToken => some (revokeToken state s o refreshToken)
  | .selecting accessToken claims organizationId =>
    runStatement s o (.selecting accessToken claims)
      (fun organizationId => some (s, ⟨.reissuing accessToken claims organizationId, .idle⟩))
      organizationId
  | .reissuing accessToken claims organizationId =>
    some (reissue state s o accessToken claims organizationId)
  | .revokingSessions => some (answer s .revoked)

/-! ### Calls -/

/-- The transaction revokes sessions. -/
def isRevocation : Refresh.Call → Bool
  | .createRefreshSession _ | .consumeAndRotateRefreshSession .. => false
  | .revokeRefreshSession .. | .revokeRefreshSessionByToken .. | .revokeScope .. => true

/-- The handlers that decode a refresh token. Only the server signs tokens, and a token that has
not been returned is not known to anybody. -/
def decoded (accept : Claims → Store ι × Task) : Option (Store ι × Task) :=
  match state.jwtKeys.decodeToken refreshToken with
  | .error _ => some (reject s)
  | .ok refreshClaims =>
    if refreshClaims.tokenType ≠ .refresh then some (reject s)
    else if s.issued.contains refreshToken then some (accept refreshClaims)
    else none

def call : Call → Option (Store ι × Task)
  | .authToken payload user isAdmin principal organizationId =>
    some (s, ⟨.signing (userSubject payload user isAdmin principal organizationId 0), .idle⟩)
  | .adminToken payload principal => some (s, ⟨.signing (clientSubject payload principal), .idle⟩)
  | .authRefresh refreshToken =>
    decoded state s refreshToken fun refreshClaims =>
      (s, ⟨.checkingMembership refreshToken refreshClaims, .idle⟩)
  | .authLogoutRefreshToken refreshToken =>
    decoded state s refreshToken fun _ => begin s (.loggingOut refreshToken)
      (.revokeRefreshSessionByToken refreshToken (some "user_logout"))
  | .authSelectOrganizationContext accessToken claims organizationId =>
    -- the middleware has accepted the token, which nobody else could sign
    if state.jwtKeys.signToken claims = .ok accessToken ∧
        s.sessions.db.clock.timestamp - leeway ≤ claims.exp then
      some (s, ⟨.selecting accessToken claims (selectContext claims organizationId).run, .idle⟩)
    else none
  | .revokeSessions c => if isRevocation c then some (begin s .revokingSessions c) else none
  | .revokeClientRefreshTokens clientId =>
    some (answer (withDb s (revokeClientRefreshTokens s.sessions.db clientId)) .revoked)

/-- A step of the transaction of a handler. -/
def transact (i : ι) (a : Refresh.Input) (t : Task) : Option (Store ι × Task) :=
  (Refresh.next state.crates i a s.sessions t.transaction).map fun r =>
    ({ s with sessions := r.1 }, { t with transaction := r.2 })

def next (i : ι) : Input → Store ι → Task → Option (Store ι × Task)
  | .call c, s, t => if t.phase.isReady then call state s c else none
  | .proceed, s, t => transact state s i .proceed t
  | .abort error, s, t => transact state s i (.fail error) t
  | .handle o sessionId, s, t =>
    if t.transaction.isReady then handle state s o sessionId t.transaction t.phase else none

/-- Time passes, and other requests change anything but sessions and refresh tokens. -/
def surroundings (other : Db) (s : Store ι) : Option (Store ι) :=
  (Refresh.surroundings { other with refreshTokens := s.sessions.db.refreshTokens } s.sessions).map
    fun sessions => { s with sessions := sessions }

variable (ι) in
/-- The statements of the handlers, named by `ι`, and all other writes. -/
def protocol : Protocol ι (Store ι) Task Input Db where
  next := next state
  env := surroundings

/-! ### Answers -/

/-- The answers of a run. -/
structure History where
  /-- The refresh tokens that have been exchanged. -/
  exchanged : List String := []
  /-- The refresh tokens that have been logged out. -/
  loggedOut : List String := []
  /-- The access tokens, each with the session of the login it comes from. -/
  access : List (String × String) := []

variable (history : History)

/-- Records the access token of a response. -/
def Tokens.record (tokens : Tokens) : History :=
  { history with
    access := (tokens.sessionId.map fun sessionId => (sessionId, tokens.accessToken)).toList ++
      history.access }

def Outcome.record : Outcome → History
  | .issued tokens => tokens.record history
  | .rotated refreshToken tokens | .migrated refreshToken tokens =>
    tokens.record { history with exchanged := refreshToken :: history.exchanged }
  | .selected accessToken newAccessToken =>
    { history with
      access := ((history.access.filter fun entry => entry.2 == accessToken).map fun entry =>
        (entry.1, newAccessToken)) ++ history.access }
  | .loggedOut refreshToken => { history with loggedOut := refreshToken :: history.loggedOut }
  | .rejected | .revoked => history

def Phase.record : Phase → History
  | .answered outcome => outcome.record history
  | _ => history

/-- Records the answer of a request when it is given. -/
def record (_ : Config ι (Store ι) Task) (l : Action ι Input Db)
    (c' : Config ι (Store ι) Task) : History :=
  match l with
  | .request i _ => (c'.request i).phase.record history
  | .environment _ => history

end Keylo.Exchange
