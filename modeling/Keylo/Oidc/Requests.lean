import Keylo.Foundation.System
import Keylo.Http
import Keylo.Oidc.Codes

/-!
# The authorization and token endpoints

The end of an authorization (`authorize_for_user`) and the token endpoint (`token`) of
`handlers/oidc.rs` as a protocol. As for the MFA endpoints, a request moves through phases that
end with one statement each.

Everything else that happens to clients, users, principals, organizations and memberships is a
step of the environment: it may replace these tables by any others and discard any codes. This
covers the lifecycle operations, which delete codes or leave them alone.

## Main definitions

* `Phase` : where a request stands.
* `next` : the next phase of a request.
* `protocol` : the interleaving of all requests and of the lifecycle changes.

## Main results

* `effect_of_next` : what a step of a request can do.
-/

namespace Keylo.Oidc

open Relational Transition

/-- The error format of the token endpoint. -/
structure OidcProtocolError where
  status : Nat
  error : String
  description : String
deriving DecidableEq, Repr

def invalidGrant (description : String) : OidcProtocolError :=
  ⟨400, "invalid_grant", description⟩

/-- `impl From<AuthError> for OidcProtocolError`. -/
def OidcProtocolError.ofAuthError : AuthError → OidcProtocolError
  | .unauthorized | .wrongCredentials | .missingCredentials =>
    ⟨401, "invalid_client", "client authentication failed"⟩
  | .invalidRequest message => ⟨400, "invalid_request", message⟩
  | _ => ⟨500, "server_error", "the authorization server could not complete the request"⟩

/-- The claims of an OIDC access token. -/
structure OidcAccessTokenClaims where
  iss : String
  sub : String
  aud : String
  exp : Int
  iat : Int
  jti : String
  scope : String
  tokenType : String
  organizationId : Option String
deriving DecidableEq, Repr

/-- The claims of an ID token. -/
structure OidcIdTokenClaims where
  iss : String
  sub : String
  aud : String
  exp : Int
  iat : Int
  nonce : String
  organizationId : Option String
  name : Option String
  email : Option String
  emailVerified : Option Bool
deriving DecidableEq, Repr

/-- The response of the token endpoint, with the claims of the two signed tokens. -/
structure OidcTokenResponse where
  accessToken : OidcAccessTokenClaims
  idToken : OidcIdTokenClaims
  tokenType : String
  expiresIn : Int
  scope : String
deriving DecidableEq, Repr

/-- The requests of the two endpoints. An authorization is made for the user of a browser
session. -/
inductive Request
  | authorize (request : AuthorizeRequest) (userId : String)
  | token (request : TokenRequest)
deriving DecidableEq, Repr

/-- Where a request stands, with the local variables its handler still needs. -/
inductive Phase
  /-- Nothing has been done yet. -/
  | received (request : Request)
  /-- `authorize_for_user` has validated the request against its client. -/
  | authorizeContext (request : AuthorizeRequest) (userId : String)
      (organizationId : Option String) (scopes : List String)
  /-- `authorize_for_user` has found a live context. -/
  | authorizeCreate (request : AuthorizeRequest) (userId : String)
      (organizationId : Option String) (scopes : List String)
  /-- `authorize_for_user` has answered; a success redirects with the code. -/
  | redirected (response : Except AuthError String)
  /-- `token` has authenticated the client. -/
  | tokenCode (request : TokenRequest) (clientId : String) (organizationId : Option String)
  /-- `token` has checked the binding of the code. -/
  | tokenConsume (request : TokenRequest) (clientId : String) (organizationId : Option String)
  /-- `token` has consumed the code. -/
  | tokenUser (clientId : String) (authorization : OidcAuthorizationCode)
  /-- `token` has answered. -/
  | exchanged (response : Except OidcProtocolError OidcTokenResponse)
deriving DecidableEq

/-- What a phase does not compute itself: an error of the database, a failure to sign, and the
random values it draws. -/
structure Input where
  fault : Option String := none
  signFault : Bool := false
  id : String := ""
  code : String := ""
  jti : String := ""

/-- The libraries and the configuration of the server. -/
structure Server where
  crates : Crates
  oidcIssuer : String
  tokenExpirySeconds : Int

variable (S : Server) (a : Input) (db : Db)

/-! ### Authorization -/

section

variable (request : AuthorizeRequest) (userId : String) (organizationId : Option String)
  (scopes : List String)

def authorizeForUser : Phase :=
  match a.fault with
  | some message => .redirected (.error (.databaseError message))
  | none =>
    match db.oidcClients.lookup OidcClient.clientId request.clientId with
    | none => .redirected (.error .notFound)
    | some client =>
      match validateAuthorizationRequest client request with
      | .error message => .redirected (.error (.invalidRequest message))
      | .ok scopes => .authorizeContext request userId client.organizationId scopes

def authorizeContext : Phase :=
  match a.fault with
  | some message => .redirected (.error (.databaseError message))
  | none =>
    if oidcClientUserContextIsActive db request.clientId userId organizationId then
      .authorizeCreate request userId organizationId scopes
    else .redirected (.error .forbidden)

/-- The grant of a validated authorization request. -/
def authorizationOf (now : Time) : OidcAuthorizationCode where
  clientId := request.clientId
  organizationId := organizationId
  userId := userId
  redirectUri := request.redirectUri
  scopes := scopes
  nonce := request.nonce
  codeChallenge := request.codeChallenge
  expiresAt := now.timestamp + 300

def authorizeCreate : Db × Phase :=
  match a.fault with
  | some message => (db, .redirected (.error (.databaseError message)))
  | none =>
    match createAuthorizationCode S.crates db a.id a.code
        (authorizationOf request userId organizationId scopes db.clock) with
    | .error message => (db, .redirected (.error (.databaseError message)))
    | .ok db' => (db', .redirected (.ok a.code))

end

/-! ### Token -/

/-- The trimmed text, if anything is left of it. -/
def trimmedNonempty (s : String) : Option String :=
  if (trim s).isEmpty then none else some (trim s)

/-- The credentials of an `Authorization` header. -/
def basicCredentials (C : Crates) (basic : String) : Except AuthError (String × Option String) :=
  match splitOnce isWhitespace basic with
  | none => .error .unauthorized
  | some (scheme, encoded) =>
    if !eqIgnoreAsciiCase scheme "Basic" || (trim encoded).isEmpty then .error .unauthorized
    else
      match ((C.base64StandardDecode (trim encoded)).bind C.fromUtf8).bind
          (splitOnce (· == ':')) with
      | none => .error .unauthorized
      | some (encodedClientId, encodedClientSecret) =>
        match decodeFormComponent encodedClientId, decodeFormComponent encodedClientSecret with
        | some clientId, some clientSecret =>
          if (trim clientId).isEmpty || clientSecret.isEmpty then .error .unauthorized
          else .ok (clientId, some clientSecret)
        | _, _ => .error .unauthorized
where
  /-- A form component: `+` stands for a space, and the rest is percent-encoded. -/
  decodeFormComponent (value : String) : Option String :=
    C.urlDecode (String.ofList (value.toList.map fun c => if c == '+' then ' ' else c))

/-- The one client authentication method of a token request. -/
def tokenClientCredentials (C : Crates) (request : TokenRequest) :
    Except AuthError (String × Option String) :=
  let formClientId := request.clientId.bind trimmedNonempty
  match request.authorization.bind trimmedNonempty with
  | some basic =>
    if formClientId.isSome || request.clientSecret.isSome then
      .error (.invalidRequest
        "OIDC token request must use exactly one client authentication method")
    else basicCredentials C basic
  | none =>
    match formClientId with
    | none => .error (.invalidRequest "OIDC token request is missing client_id")
    | some clientId => .ok (clientId, request.clientSecret)

/-- A client that is active and, if it is confidential, has presented its secret, and if it is
public, has presented none. -/
def isAuthenticated (C : Crates) (client : OidcClient) (clientSecret : Option String) : Bool :=
  client.active &&
    !(client.clientType == .confidential &&
      !clientSecret.any fun secret =>
        client.clientSecretHash.any fun hash => (C.bcryptVerify secret hash).getD false) &&
    !(client.clientType == .publicClient && clientSecret.isSome)

theorem isAuthenticated_eq_true {C : Crates} {client : OidcClient} {clientSecret : Option String} :
    isAuthenticated C client clientSecret = true ↔ client.active = true ∧
      (client.clientType = .confidential → ∃ secret ∈ clientSecret,
        ∃ hash ∈ client.clientSecretHash, C.bcryptVerify secret hash = some true) ∧
      (client.clientType = .publicClient → clientSecret = none) := by
  simp only [isAuthenticated, Bool.and_eq_true, Bool.not_eq_true', Bool.and_eq_false_imp,
    beq_iff_eq, Bool.not_eq_false', Option.any_eq_true, Option.isSome_eq_false_iff,
    Option.isNone_iff_eq_none, Option.getD_eq_iff, and_assoc]
  simp [Option.mem_def]

/-- A phase that ends a token request with an error. -/
def Phase.refuse (e : AuthError) : Phase := .exchanged (.error (.ofAuthError e))

def token (request : TokenRequest) : Phase :=
  if request.grantType != "authorization_code" then
    .refuse (.invalidRequest "only grant_type=authorization_code is supported")
  else
    match tokenClientCredentials S.crates request with
    | .error e => .refuse e
    | .ok (clientId, clientSecret) =>
      match a.fault with
      | some message => .refuse (.databaseError message)
      | none =>
        match db.oidcClients.lookup OidcClient.clientId clientId with
        | none => .refuse .unauthorized
        | some client =>
          if isAuthenticated S.crates client clientSecret then
            .tokenCode request clientId client.organizationId
          else .refuse .unauthorized

/-- The authorization belongs to the client and to the request. -/
def isBound (request : TokenRequest) (clientId : String) (organizationId : Option String)
    (authorization : OidcAuthorizationCode) : Bool :=
  authorization.clientId == clientId && authorization.organizationId == organizationId &&
    authorization.redirectUri == request.redirectUri &&
    verifyPkceS256 S.crates request.codeVerifier authorization.codeChallenge

def tokenCode (request : TokenRequest) (clientId : String) (organizationId : Option String) :
    Phase :=
  match a.fault with
  | some message => .refuse (.databaseError message)
  | none =>
    match getActiveAuthorizationCode S.crates db request.code with
    | none => .exchanged (.error (invalidGrant "authorization code is invalid or expired"))
    | some authorization =>
      if isBound S request clientId organizationId authorization then
        .tokenConsume request clientId organizationId
      else
        .exchanged (.error (invalidGrant "authorization code binding or PKCE verification failed"))

def tokenConsume (request : TokenRequest) (clientId : String) (organizationId : Option String) :
    Db × Phase :=
  match a.fault with
  | some message => (db, .refuse (.databaseError message))
  | none =>
    match consumeAuthorizationCodeForClient S.crates db request.code clientId organizationId with
    | (none, db') =>
      (db', .exchanged (.error (invalidGrant "authorization code is no longer active")))
    | (some authorization, db') => (db', .tokenUser clientId authorization)

/-- The tokens for a user and a consumed grant with a nonce. -/
def tokenResponse (clientId : String) (authorization : OidcAuthorizationCode) (user : User)
    (nonce : String) : OidcTokenResponse where
  accessToken := {
    iss := S.oidcIssuer
    sub := user.id
    aud := clientId
    exp := db.clock.timestamp + S.tokenExpirySeconds
    iat := db.clock.timestamp
    jti := a.jti
    scope := " ".intercalate authorization.scopes
    tokenType := "Bearer"
    organizationId := authorization.organizationId }
  idToken := {
    iss := S.oidcIssuer
    sub := user.id
    aud := clientId
    exp := db.clock.timestamp + S.tokenExpirySeconds
    iat := db.clock.timestamp
    nonce := nonce
    organizationId := authorization.organizationId
    name := if authorization.scopes.contains "profile" then some user.username else none
    email := if authorization.scopes.contains "email" then some user.email else none
    emailVerified :=
      if authorization.scopes.contains "email" then some user.emailVerified else none }
  tokenType := "Bearer"
  expiresIn := S.tokenExpirySeconds
  scope := " ".intercalate authorization.scopes

def tokenUser (clientId : String) (authorization : OidcAuthorizationCode) : Phase :=
  match a.fault with
  | some message => .refuse (.databaseError message)
  | none =>
    match (db.users.lookup User.id authorization.userId).filter User.active with
    | none => .refuse .invalidToken
    | some user =>
      if a.signFault then .refuse .tokenCreation
      else
        match authorization.nonce with
        | none => .refuse .invalidToken
        | some nonce =>
          .exchanged (.ok (tokenResponse S a db clientId authorization user nonce))

/-! ### The protocol -/

/-- The next phase of a request. -/
def next : Phase → Option (Db × Phase)
  | .received (.authorize request userId) => some (db, authorizeForUser a db request userId)
  | .authorizeContext request userId organizationId scopes =>
    some (db, authorizeContext a db request userId organizationId scopes)
  | .authorizeCreate request userId organizationId scopes =>
    some (authorizeCreate S a db request userId organizationId scopes)
  | .redirected _ => none
  | .received (.token request) => some (db, token S a db request)
  | .tokenCode request clientId organizationId =>
    some (db, tokenCode S a db request clientId organizationId)
  | .tokenConsume request clientId organizationId =>
    some (tokenConsume S a db request clientId organizationId)
  | .tokenUser clientId authorization => some (db, tokenUser S a db clientId authorization)
  | .exchanged _ => none

/-- A change of everything the endpoints only read, with the codes it discards. -/
structure Lifecycle where
  elapsed : Nat := 0
  users : Table User
  principals : Table Principal
  organizations : Table Organization
  memberships : Table Membership
  oidcClients : Table OidcClient
  discarded : AuthorizationCodeRow → Bool

def Lifecycle.apply (b : Lifecycle) : Db :=
  { db with
    clock := db.clock + b.elapsed
    users := b.users
    principals := b.principals
    organizations := b.organizations
    memberships := b.memberships
    oidcClients := b.oidcClients
    authorizationCodes := db.authorizationCodes.delete b.discarded }

/-- All requests, interleaved with lifecycle changes. -/
def protocol (ι : Type*) : Protocol ι Db Phase Input Lifecycle where
  next _ a db := next S a db
  env b db := some (b.apply db)

/-- The requests `r` before any of them has been handled. -/
def received {ι : Type*} (db : Db) (r : ι → Request) : Config ι Db Phase :=
  ⟨db, fun i => .received (r i)⟩

/-! ### What a phase does -/

variable {S a db} {db' : Db} {p p' : Phase} {organizationId : Option String}

/-- An authorization that has not answered yet. -/
def Phase.authorizes : Phase → Bool
  | .received (.authorize ..) | .authorizeContext .. | .authorizeCreate .. => true
  | _ => false

/-- A token request that has not answered yet and has not consumed a code. -/
def Phase.exchanges : Phase → Bool
  | .received (.token _) | .tokenCode .. | .tokenConsume .. => true
  | _ => false

/-- The steps of a request: the phase before it, the database after it and the next phase. -/
inductive Effect (S : Server) (a : Input) (db : Db) : Phase → Db → Phase → Prop
  | validated {request : AuthorizeRequest} {userId} {client : OidcClient}
      {scopes}
      (hclient : db.oidcClients.lookup OidcClient.clientId request.clientId = some client)
      (hscopes : validateAuthorizationRequest client request = .ok scopes) :
      Effect S a db (.received (.authorize request userId)) db
        (.authorizeContext request userId client.organizationId scopes)
  | live {request : AuthorizeRequest} {userId organizationId scopes}
      (hlive : oidcClientUserContextIsActive db request.clientId userId organizationId = true) :
      Effect S a db (.authorizeContext request userId organizationId scopes) db
        (.authorizeCreate request userId organizationId scopes)
  | rejected {p : Phase} {e} (hp : p.authorizes) :
      Effect S a db p db (.redirected (.error e))
  | created {request userId organizationId scopes db'}
      (h : createAuthorizationCode S.crates db a.id a.code
        (authorizationOf request userId organizationId scopes db.clock) = .ok db') :
      Effect S a db (.authorizeCreate request userId organizationId scopes) db'
        (.redirected (.ok a.code))
  | authenticated {request clientId clientSecret}
      {client : OidcClient}
      (hcredentials : tokenClientCredentials S.crates request = .ok (clientId, clientSecret))
      (hclient : db.oidcClients.lookup OidcClient.clientId clientId = some client)
      (hauth : isAuthenticated S.crates client clientSecret = true) :
      Effect S a db (.received (.token request)) db
        (.tokenCode request clientId client.organizationId)
  | bound {request : TokenRequest} {clientId organizationId authorization}
      (hread : getActiveAuthorizationCode S.crates db request.code = some authorization)
      (hbound : isBound S request clientId organizationId authorization = true) :
      Effect S a db (.tokenCode request clientId organizationId) db
        (.tokenConsume request clientId organizationId)
  | consumed {request : TokenRequest} {clientId organizationId authorization db'}
      (h : consumeAuthorizationCodeForClient S.crates db request.code clientId organizationId =
        (some authorization, db')) :
      Effect S a db (.tokenConsume request clientId organizationId) db'
        (.tokenUser clientId authorization)
  | issued {clientId nonce} {authorization : OidcAuthorizationCode} {user}
      (huser : db.users.lookup User.id authorization.userId = some user)
      (hnonce : authorization.nonce = some nonce) :
      Effect S a db (.tokenUser clientId authorization) db
        (.exchanged (.ok (tokenResponse S a db clientId authorization user nonce)))
  | refused {p : Phase} {e} (hp : p.exchanges) :
      Effect S a db p db (.exchanged (.error e))
  | failed {clientId authorization} {e : OidcProtocolError}
      (he : e.error = "server_error") :
      Effect S a db (.tokenUser clientId authorization) db (.exchanged (.error e))

theorem effect_authorizeForUser (request : AuthorizeRequest) (userId : String) :
    Effect S a db (.received (.authorize request userId)) db
      (authorizeForUser a db request userId) := by
  unfold authorizeForUser
  split
  · exact .rejected rfl
  split
  · exact .rejected rfl
  case h_2 client hclient =>
    split
    · exact .rejected rfl
    case h_2 scopes hscopes => exact .validated hclient hscopes

theorem effect_authorizeContext (request : AuthorizeRequest) (userId : String)
    (organizationId : Option String) (scopes : List String) :
    Effect S a db (.authorizeContext request userId organizationId scopes) db
      (authorizeContext a db request userId organizationId scopes) := by
  unfold authorizeContext
  split
  · exact .rejected rfl
  split_ifs with hlive
  · exact .live hlive
  · exact .rejected rfl

theorem effect_authorizeCreate {request : AuthorizeRequest} {userId : String} {scopes : List String}
    (h : authorizeCreate S a db request userId organizationId scopes = (db', p')) :
    Effect S a db (.authorizeCreate request userId organizationId scopes) db' p' := by
  unfold authorizeCreate at h
  split at h
  · cases h
    exact .rejected rfl
  split at h
  · cases h
    exact .rejected rfl
  case h_2 db₁ hcreate =>
    cases h
    exact .created hcreate

theorem effect_token (request : TokenRequest) :
    Effect S a db (.received (.token request)) db (token S a db request) := by
  unfold token
  split_ifs with hgrant
  · exact .refused rfl
  split
  · exact .refused rfl
  case h_2 clientId clientSecret hcredentials =>
    split
    · exact .refused rfl
    split
    · exact .refused rfl
    case h_2 client hclient =>
      split_ifs with hauth
      · exact .authenticated hcredentials hclient hauth
      · exact .refused rfl

theorem effect_tokenCode (request : TokenRequest) (clientId : String)
    (organizationId : Option String) :
    Effect S a db (.tokenCode request clientId organizationId) db
      (tokenCode S a db request clientId organizationId) := by
  unfold tokenCode
  split
  · exact .refused rfl
  split
  · exact .refused rfl
  case h_2 authorization hread =>
    split_ifs with hbound
    · exact .bound hread hbound
    · exact .refused rfl

theorem effect_tokenConsume {request : TokenRequest} {clientId : String}
    (h : tokenConsume S a db request clientId organizationId = (db', p')) :
    Effect S a db (.tokenConsume request clientId organizationId) db' p' := by
  unfold tokenConsume at h
  split at h
  · cases h
    exact .refused rfl
  split at h
  case h_1 db₁ hconsume =>
    cases h
    rw [consume_eq_none hconsume]
    exact .refused rfl
  case h_2 authorization db₁ hconsume =>
    cases h
    exact .consumed hconsume

/-- After the code has been consumed, only errors of the server are left. -/
theorem effect_tokenUser (clientId : String) (authorization : OidcAuthorizationCode) :
    Effect S a db (.tokenUser clientId authorization) db
      (tokenUser S a db clientId authorization) := by
  unfold tokenUser
  split
  · exact .failed rfl
  split
  · exact .failed rfl
  case h_2 user huser =>
    split_ifs
    · exact .failed rfl
    split
    · exact .failed rfl
    case h_2 nonce hnonce => exact .issued (Option.filter_eq_some_iff.1 huser).1 hnonce

theorem effect_of_next (h : next S a db p = some (db', p')) : Effect S a db p db' p' := by
  cases p with
  | received request =>
    cases request with
    | authorize request userId =>
      cases h
      exact effect_authorizeForUser request userId
    | token request =>
      cases h
      exact effect_token request
  | authorizeContext request userId organizationId scopes =>
    cases h
    exact effect_authorizeContext request userId organizationId scopes
  | authorizeCreate => exact effect_authorizeCreate (Option.some.inj h)
  | tokenCode request clientId organizationId =>
    cases h
    exact effect_tokenCode request clientId organizationId
  | tokenConsume => exact effect_tokenConsume (Option.some.inj h)
  | tokenUser clientId authorization =>
    cases h
    exact effect_tokenUser clientId authorization
  | redirected | exchanged => cases h

end Keylo.Oidc
