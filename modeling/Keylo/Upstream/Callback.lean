import Keylo.Logins.Effects
import Keylo.Upstream.Login

/-!
# Upstream logins, sources and links, statement by statement

The callback of an upstream login (`complete_oidc_upstream_login` of `handlers/identity.rs`), the
update of an identity source (`update_identity_source` of `db/identity.rs`), the requests that
unlink an account from a source, and the imports that write mappings.

A callback consumes its authorization, reads the source, exchanges the code, reads the source once
more to see whether its trust has changed, resolves the user and stores the session, all in
statements of their own. What the identity provider answers is part of the request. An update of a
source is one transaction, which locks the source, revokes the sessions that it sees, and is seen by
others when it commits.

## Main definitions

* `consumeState`, `identifyUser`, `prepareSession` : the parts of a callback.
* `Update` : an update of a source that has not been committed.
* `protocol` : all of them, interleaved.
-/

namespace Keylo.Callback

open Relational Transition Handler Anonymous Upstream Import
open Logins (statement runPart)

/-! ### Authorizations -/

/-- What is read of the configuration of a source. -/
structure OidcUpstreamConfig where
  issuer : String
  clientId : String

/-- The server, with the parser of the configuration of sources. -/
structure Server where
  state : AppState
  parseConfig : String → Except String OidcUpstreamConfig

structure CallbackQuery where
  state : Option String := none
  code : Option String := none
  error : Option String := none

/-- What the identity provider answers. -/
structure Exchange where
  /-- The claims of the ID Token, if the code is exchanged and the signature is valid. -/
  claims : Except AuthError OidcUpstreamIdTokenClaims
  userinfo : Option (Except AuthError Value) := none

/-- `SET consumed_at = NOW()`. -/
def consumeAuthorization (now : Time) : Assignment UpstreamAuthorization :=
  ⟨fun a => { a with consumedAt := some now }, fun _ _ => rfl⟩

section Callbacks

variable (server : Server)

def opaqueHash (value : String) : String :=
  server.state.crates.hexEncode (server.state.crates.sha256 value)

/-- Consumes the authorization of a state once. -/
def consumeOidcUpstreamAuthorization (db : Db) (state : String) :
    Option UpstreamAuthorization × Db :=
  let pending (a : UpstreamAuthorization) : Bool :=
    a.stateHash == opaqueHash server state && a.consumedAt.isNone && db.clock < a.expiresAt
  (db.upstreamAuthorizations.find? pending,
    { db with
      upstreamAuthorizations :=
        db.upstreamAuthorizations.update pending (consumeAuthorization db.clock) })

/-- The audiences of a token. -/
def audiences : Value → List Value
  | .array values => values
  | value => [value]

def validateOidcUpstreamIdTokenClaims (claims : OidcUpstreamIdTokenClaims)
    (issuer clientId nonceHash : String) (now : Int) : Except String Unit :=
  if claims.iss ≠ issuer || trim claims.sub = "" then
    .error "Upstream ID Token issuer or subject is invalid"
  else if !(audiences claims.aud).any (fun value => value.asStr == some clientId) ||
      !claims.azp.all (· == clientId) ||
      (1 < (audiences claims.aud).length && claims.azp != some clientId) || claims.exp ≤ now then
    .error "Upstream ID Token audience or expiry is invalid"
  else
    match claims.nonce with
    | none => .error "Upstream ID Token nonce is missing"
    | some nonce =>
      if opaqueHash server nonce ≠ nonceHash then
        .error "Upstream ID Token nonce does not match the authorization transaction"
      else .ok ()

/-- The authorization of the state, which can be used only once. -/
def consumeState (stateValue : String) : DbM AuthError UpstreamAuthorization := do
  match ← ExceptT.adapt AuthError.databaseError (atomically fun _ db =>
      .ok (consumeOidcUpstreamAuthorization server db stateValue)) with
  | none => throw (.invalidRequest "Invalid or expired OIDC callback state")
  | some transaction => pure transaction

/-- The source of an authorization. -/
def activeSource (sourceId : String) : DbM AuthError IdentitySource := do
  match (← ExceptT.adapt AuthError.databaseError
      (fetch fun db => db.identitySources.lookup IdentitySource.id sourceId)).filter
        fun source => source.active && source.sourceType == .oidcUpstream with
  | none => throw .notFound
  | some source => pure source

/-- The claims of the ID Token, validated and completed by UserInfo. -/
def validatedClaims (config : OidcUpstreamConfig) (nonceHash : String) (exchange : Exchange) :
    DbM AuthError OidcUpstreamIdTokenClaims :=
  match exchange.claims with
  | .error e => throw e
  | .ok claims => do
    let time ← now
    match validateOidcUpstreamIdTokenClaims server claims config.issuer config.clientId nonceHash
        (Time.timestamp time) with
    | .error e => throw (.invalidRequest e)
    | .ok () =>
      match exchange.userinfo with
      | none => pure claims
      | some (.error e) => throw e
      | some (.ok userinfo) =>
        match mergeOidcUpstreamUserinfo claims userinfo with
        | .error e => throw (.invalidRequest e)
        | .ok claims => pure claims

/-- `complete_oidc_upstream_login` up to the second look at the source. -/
def identifyUser (query : CallbackQuery) (exchange : Exchange) :
    DbM AuthError (IdentitySource × OidcUpstreamIdTokenClaims) :=
  match query.state with
  | none => throw (.invalidRequest "Missing OIDC callback state")
  | some stateValue =>
    if query.error.isSome then do
      let _ ← consumeState server stateValue
      throw (.invalidRequest "Upstream OIDC authorization was denied")
    else if query.code.isNone then throw (.invalidRequest "Missing OIDC authorization code")
    else do
      let transaction ← consumeState server stateValue
      let source ← activeSource transaction.sourceId
      match server.parseConfig source.config with
      | .error e => throw (.invalidRequest e)
      | .ok config =>
        let claims ← validatedClaims server config transaction.nonceHash exchange
        pure (source, claims)

end Callbacks

/-- The policy of the source is the one under which the callback has begun. -/
def identitySourceTrustIsUnchanged (transactionSource currentSource : IdentitySource) : Bool :=
  currentSource.active && currentSource.sourceType == .oidcUpstream &&
    transactionSource.config == currentSource.config &&
    transactionSource.claimMapping == currentSource.claimMapping &&
    transactionSource.allowedUserClass == currentSource.allowedUserClass &&
    transactionSource.organizationStrategy == currentSource.organizationStrategy &&
    transactionSource.organizationId == currentSource.organizationId

/-- The claim mapping of a source as a JSON object. -/
def claimMappingValue (source : IdentitySource) : Value :=
  .object (source.claimMapping.map fun entry => (entry.1, .string entry.2))

section Sessions

variable (server : Server) (source : IdentitySource)

/-- From the resolved user to the session that is to be stored. -/
def prepareSession (user : User) : DbM AuthError Logins.Issued := do
  let organizationId ←
    ExceptT.adapt (fun _ => .databaseError "Failed to resolve identity source organization")
      (identitySourceLoginOrganization source user.id)
  let login ← Logins.issueExternalUserSession server.state user (oidcMappingProvider source)
    organizationId
  -- an upstream login takes no session over
  login.principal.elim (pure ()) fun principal =>
    enforceRefreshSessionPolicy server.state principal false
  ExceptT.mk login.issue

end Sessions

/-! ### Updates of sources -/

/-- The fields of `update_identity_source`; a missing field is left as it is. -/
structure UpdateIdentitySourceParams where
  id : String
  displayName : Option String := none
  description : Option String := none
  config : Option String := none
  claimMapping : Option (List (String × String)) := none
  jitEnabled : Option Bool := none
  autoLinkEnabled : Option Bool := none
  active : Option Bool := none
  allowedUserClass : Option UserClass := none
  organizationStrategy : Option OrganizationStrategy := none
  organizationId : Option String := none

/-- The row of a source after an update. -/
def UpdateIdentitySourceParams.apply (params : UpdateIdentitySourceParams)
    (previous : IdentitySource) : IdentitySource :=
  let strategy := params.organizationStrategy.getD previous.organizationStrategy
  { previous with
    displayName := params.displayName.getD previous.displayName
    description := params.description.or previous.description
    config := params.config.getD previous.config
    claimMapping := params.claimMapping.getD previous.claimMapping
    jitEnabled := params.jitEnabled.getD previous.jitEnabled
    autoLinkEnabled := params.autoLinkEnabled.getD previous.autoLinkEnabled
    active := params.active.getD previous.active
    allowedUserClass := params.allowedUserClass.getD previous.allowedUserClass
    organizationStrategy := strategy
    organizationId :=
      if strategy = .none then none else params.organizationId.or previous.organizationId }

/-- The kind of the organizations whose members have the class. -/
def organizationKindOf : UserClass → OrganizationKind
  | .externalCustomer => .customer
  | .internalEmployee => .internal

/-- The error for an organization of the other kind. -/
def organizationKindError : UserClass → String
  | .externalCustomer => "identity_source_external_customer_requires_customer_organization"
  | .internalEmployee => "identity_source_internal_employee_requires_internal_organization"

/-- A fixed organization has to be active and of the kind of the class of its users. -/
def validateFixedOrganization (db : Db) (source : IdentitySource) : Except String Unit :=
  match source.organizationStrategy, source.organizationId with
  | .none, none => .ok ()
  | .fixed, some organizationId =>
    match db.organizations.lookup Organization.id organizationId with
    | none => .error "identity_source_organization_not_found"
    | some organization =>
      if organization.status ≠ .active then .error "identity_source_organization_not_active"
      else if organization.kind ≠ organizationKindOf source.allowedUserClass then
        .error (organizationKindError source.allowedUserClass)
      else .ok ()
  | _, _ => .error "identity_source_organization_policy_invalid"

/-- The configuration or the policy of the source is another one. -/
def isReconfigured (previous source : IdentitySource) : Bool :=
  previous.config != source.config || previous.claimMapping != source.claimMapping ||
    previous.allowedUserClass != source.allowedUserClass ||
    previous.organizationStrategy != source.organizationStrategy ||
    previous.organizationId != source.organizationId

/-- The reason for which an update revokes the sessions of the source, if it does. -/
def withdrawalReason (previous source : IdentitySource) : Option String :=
  if previous.active && !source.active && previous.sourceType == .oidcUpstream then
    some "identity_source_disabled"
  else if previous.active && source.active && previous.sourceType == .oidcUpstream &&
      isReconfigured previous source then
    some "identity_source_reconfigured"
  else none

/-- An update that has not been committed: the new row, and the sessions and authorizations that it
has revoked and deleted. -/
structure Update where
  previous : IdentitySource
  source : IdentitySource
  began : Time
  sessions : List String := []
  authorizations : List String := []

def Update.reason (u : Update) : Option String := withdrawalReason u.previous u.source

/-- The update disables the source, or changes what is trusted. -/
def Update.withdraws (u : Update) : Bool :=
  (u.previous.active && !u.source.active) || isReconfigured u.previous u.source

/-- Revokes the sessions of the source that the transaction sees. -/
def Update.revoke (u : Update) (db : Db) : Update :=
  { u with
    sessions := (db.refreshSessions.select fun s =>
      s.clientId == oidcMappingProvider u.source && s.revokedAt.isNone).map RefreshSession.id }

/-- Deletes the pending authorizations of the source that the transaction sees. -/
def Update.discard (u : Update) (db : Db) : Update :=
  { u with
    authorizations := (db.upstreamAuthorizations.select fun a =>
      a.sourceId == u.source.id && a.consumedAt.isNone).map UpstreamAuthorization.id }

/-- What the transaction has written becomes visible. -/
def Update.commit (u : Update) (db : Db) : Except String Db :=
  match db.identitySources.tryUpdate (fun s => s.id == u.source.id) fun _ => u.source with
  | none => .error uniqueViolation
  | some identitySources =>
    .ok { db with
      identitySources := identitySources
      refreshSessions := db.refreshSessions.update (fun s => u.sessions.contains s.id)
        (revokeSession u.began u.reason)
      upstreamAuthorizations := db.upstreamAuthorizations.delete fun a =>
        u.authorizations.contains a.id }

/-! ### Unlinked accounts -/

inductive UnlinkResult
  | unlinked
  | notFound
  | lastLoginMethod

/-- The transaction of `unlink_external_user_mapping`. -/
def unlinkExternalUserMapping (db : Db) (provider userId : String) : UnlinkResult × Db :=
  match db.users.lookup User.id userId with
  | none => (.notFound, db)
  | some user =>
    if !Unlink.hasMapping db userId (· == provider) then (.notFound, db)
    else if user.passwordHash.isNone && !Unlink.hasMapping db userId (· != provider) &&
        !Unlink.hasOauthAccount db userId (fun _ => true) then
      (.lastLoginMethod, db)
    else
      (.unlinked,
        { db with
          externalUserMappings := db.externalUserMappings.delete fun m =>
            m.provider == provider && m.userId == userId })

/-- How an unlink of a mapping ends, statement by statement. -/
def UnlinkResult.phase (userId : String) : UnlinkResult → Unlink.Phase
  | unlinked => .unlinked userId
  | notFound => .answered .notFound
  | lastLoginMethod => .answered .lastLoginMethod

/-- The statements of the transaction, when no other request comes between them. -/
theorem steps_unlinkExternalUserMapping {ι : Type*} [DecidableEq ι] (crates : Crates) (i : ι)
    (db : Db) (provider userId : String) :
    ∃ locks, Relation.ReflTransGen
      (fun a b => Unlink.proceed crates i a.1 a.2 = some b)
      ((⟨db, fun _ => none⟩, .called (.unlinkExternalUserMapping provider userId)) :
        Unlink.Store ι × Unlink.Phase)
      (⟨(unlinkExternalUserMapping db provider userId).2, locks⟩,
        (unlinkExternalUserMapping db provider userId).1.phase userId) := by
  unfold unlinkExternalUserMapping
  split
  · rename_i hnone
    exact ⟨_, .single (by simp only [Unlink.proceed, Unlink.lockUser, hnone]; rfl)⟩
  rename_i user huser
  have hlock : Unlink.lockUser i ⟨db, fun _ => none⟩ provider userId =
      some (⟨db, Locks.acquire (fun _ => none) i [.user userId]⟩,
        .locked provider userId user.passwordHash.isSome) := by
    simp only [Unlink.lockUser, huser]
    exact if_pos rfl
  split_ifs with hmapping hlast
  · rw [Bool.not_eq_true'] at hmapping
    exact ⟨_, .head hlock (.single (if_neg (by simp [hmapping])))⟩
  · rw [Bool.not_eq_true', Bool.not_eq_false] at hmapping
    refine ⟨_, .head hlock (.head (if_pos hmapping) (.head rfl (.single (if_pos ?_))))⟩
    simpa using hlast
  · rw [Bool.not_eq_true', Bool.not_eq_false] at hmapping
    -- The rows that go with the commit are those the statement has deleted.
    rw [Table.delete_congr fun m hm => show _ = decide (m ∈ db.externalUserMappings.select fun m =>
      m.provider == provider && m.userId == userId) from
        Bool.eq_iff_iff.2 (by simp [Table.mem_select, hm])]
    refine ⟨_, .head hlock (.head (if_pos hmapping) (.head rfl (.head (if_neg ?_)
      (.head (if_pos ?_) (.single rfl)))))⟩
    · simpa using hlast
    · simp [Locks.available, Locks.acquire]

/-! ### Requests -/

inductive Call
  | completeOidcUpstreamLogin (query : CallbackQuery) (exchange : Exchange)
  | updateIdentitySource (params : UpdateIdentitySourceParams)
  /-- The request of the user, or of an administrator. -/
  | unlink (sourceId userId reason : String)
  | importThirdPartyUsers (request : ThirdPartyUserImportRequest)
  | jitRegisterUser (request : ThirdPartyJitRegisterRequest)

/-- The provider of the mappings that an import writes. -/
def Call.importProvider (crates : Crates) : Call → Option String
  | .importThirdPartyUsers request => (normalizedProvider crates request.provider).toOption
  | .jitRegisterUser request => (normalizedProvider crates request.provider).toOption
  | _ => none

inductive Answer
  | tokens (body : AuthBody)
  | source (source : Option IdentitySource)
  | imported (output : ThirdPartyUserImportOutput)
  | registered (response : ThirdPartyJitRegisterResponse)
  | migrationError (error : MigrationError)
  | error (error : AuthError)

/-- How far a request has come. -/
inductive Phase
  | idle
  | identifying (rest : Statements (Except AuthError (IdentitySource × OidcUpstreamIdTokenClaims)))
  | rechecking (source : IdentitySource) (claims : OidcUpstreamIdTokenClaims)
  /-- The user is resolved; `looked` says whether its mapping has been looked up. -/
  | resolving (source : IdentitySource) (claims : OidcUpstreamIdTokenClaims)
      (profile : OidcUpstreamProfile) (looked : Bool) (rest : Statements (Except AuthError User))
  | preparing (source : IdentitySource) (user : User)
      (rest : Statements (Except AuthError Logins.Issued))
  | storing (source : IdentitySource) (user : User) (issued : Logins.Issued)
  | updating (params : UpdateIdentitySourceParams)
  | revoking (update : Update)
  | discarding (update : Update)
  | committing (update : Update)
  /-- An update has disabled the source or changed its trust. -/
  | withdrawn (source : IdentitySource)
  | finding (sourceId userId reason : String)
  | deleting (source : IdentitySource) (userId reason : String)
  | mirroring (source : IdentitySource) (userId reason : String)
      (rest : Statements (Except String (Option Principal)))
  | ending (source : IdentitySource) (userId reason : String) (principal : Principal)
  | auditing (source : IdentitySource) (userId : String)
  /-- The account was unlinked, and the request has succeeded. -/
  | unlinked (source : IdentitySource) (userId : String)
  | importing (provider : Option String)
      (rest : Statements (Except MigrationError ThirdPartyUserImportOutput))
  | registering (provider : Option String)
      (rest : Statements (Except MigrationError ThirdPartyJitRegisterResponse))
  | answered (answer : Answer)

inductive Input
  | call (call : Call)
  | proceed (o : Oracle)

/-- The database, and the sources that are locked. -/
abbrev Store := Logins.Store

section Requests

variable (server : Server)

def receive (call : Call) : Phase :=
  match call with
  | .completeOidcUpstreamLogin query exchange =>
    .identifying (identifyUser server query exchange).run
  | .updateIdentitySource params => .updating params
  | .unlink sourceId userId reason => .finding sourceId userId reason
  | .importThirdPartyUsers request =>
    .importing (call.importProvider server.state.crates)
      (importThirdPartyUsers server.state.crates request).run
  | .jitRegisterUser request =>
    .registering (call.importProvider server.state.crates)
      (jitRegisterUser server.state.crates server.state.jwtKeys server.state.tokenExpirySeconds
        request).run

variable {ι : Type*}

def refuse (e : AuthError) : Phase := .answered (.error e)

def databaseFailure (e : String) : Phase := refuse (.databaseError e)

/-- The source is read again; if its trust is unchanged, the profile is made from its claim
mapping. -/
def recheck (db : Db) (source : IdentitySource) (claims : OidcUpstreamIdTokenClaims) : Phase :=
  match (db.identitySources.lookup IdentitySource.id source.id).filter
      (identitySourceTrustIsUnchanged source) with
  | none => refuse .forbidden
  | some current =>
    match oidcUpstreamProfileWithMapping claims (claimMappingValue current) with
    | .error e => refuse (.invalidRequest e)
    | .ok profile =>
      .resolving current claims profile false
        (resolveOidcUpstreamUser server.state.crates current profile).run

def store (s : Store ι) (o : Oracle) (issued : Logins.Issued) : Store ι × Phase :=
  match issued.session with
  | none => (s, .answered (.tokens issued.body))
  | some params =>
    statement s o (fun _ => refuse (.databaseError "Failed to create refresh session")) fun db =>
      (Logins.storeSession server.state params db).map fun db' =>
        (.answered (.tokens issued.body), db')

/-- The answer to an update that is committed. -/
def Update.answer (u : Update) : Phase :=
  if u.withdraws then .withdrawn u.source else .answered (.source (some u.source))

/-- The source with the given id, if it is an upstream source. -/
def upstreamSource (db : Db) (sourceId : String) : Option IdentitySource :=
  (db.identitySources.lookup IdentitySource.id sourceId).filter fun source =>
    source.sourceType == .oidcUpstream

/-- What follows the transaction of an unlink. -/
def unlinkPhase (source : IdentitySource) (userId reason : String) : UnlinkResult → Phase
  | .notFound => refuse .notFound
  | .lastLoginMethod => refuse (.conflict "Cannot unlink the last available login method")
  | .unlinked => .mirroring source userId reason (Handler.ensureUserPrincipal userId).run

variable [DecidableEq ι] (i : ι)

/-- The first statement of an update locks the source, and waits for others that have locked it. -/
def lockSource (s : Store ι) (o : Oracle) (params : UpdateIdentitySourceParams) :
    Option (Store ι × Phase) :=
  if !s.locks.available i params.id then none
  else
    let db := s.db.tick o.elapsed
    some <|
      match o.fault with
      | some e => ({ s with db := db }, databaseFailure e)
      | none =>
        match db.identitySources.lookup IdentitySource.id params.id with
        | none => ({ s with db := db }, .answered (.source none))
        | some previous =>
          let u : Update := { previous := previous, source := params.apply previous
                              began := db.clock }
          match validateFixedOrganization db u.source with
          | .error e => ({ s with db := db }, databaseFailure e)
          | .ok () =>
            (⟨db, s.locks.acquire i [params.id]⟩,
              if u.reason.isSome then .revoking u else .committing u)

/-- A transaction that fails is rolled back. -/
def inTransaction (s : Store ι) (o : Oracle) (f : Db → Phase) : Store ι × Phase :=
  match o.fault with
  | some e => (⟨s.db.tick o.elapsed, s.locks.release i⟩, databaseFailure e)
  | none => ({ s with db := s.db.tick o.elapsed }, f (s.db.tick o.elapsed))

/-- The next statement of a request. -/
def proceed (s : Store ι) (o : Oracle) : Phase → Option (Store ι × Phase)
  | .idle | .answered _ | .withdrawn _ | .unlinked .. => none
  | .identifying rest =>
    some (runPart s o .identifying refuse (fun r => .rechecking r.1 r.2) rest)
  | .rechecking source claims =>
    some (statement s o (fun _ => refuse (.databaseError "Failed to revalidate identity source"))
      fun db => .ok (recheck server db source claims, db))
  | .resolving source claims profile _ rest =>
    some (runPart s o (.resolving source claims profile true) refuse
      (fun user => .preparing source user (prepareSession server source user).run) rest)
  | .preparing source user rest =>
    some (runPart s o (.preparing source user) refuse (.storing source user) rest)
  | .storing _ _ issued => some (store server s o issued)
  | .updating params => lockSource i s o params
  | .revoking u => some (inTransaction i s o fun db => .discarding (u.revoke db))
  | .discarding u => some (inTransaction i s o fun db => .committing (u.discard db))
  | .committing u =>
    some (statement { s with locks := s.locks.release i } o databaseFailure fun db =>
      (u.commit db).map fun db' => (u.answer, db'))
  | .finding sourceId userId reason =>
    some (statement s o databaseFailure fun db =>
      .ok ((upstreamSource db sourceId).elim (refuse .notFound) fun source =>
        .deleting source userId reason, db))
  | .deleting source userId reason =>
    some (statement s o databaseFailure fun db =>
      let r := unlinkExternalUserMapping db (oidcMappingProvider source) userId
      .ok (unlinkPhase source userId reason r.1, r.2))
  | .mirroring source userId reason rest =>
    some (runPart s o (.mirroring source userId reason)
      (fun _ => refuse (.databaseError "Failed to resolve user principal"))
      (fun principal => principal.elim (.auditing source userId) fun principal =>
        .ending source userId reason principal) rest)
  | .ending source userId reason principal =>
    some (statement s o (fun _ => refuse (.databaseError "Failed to revoke upstream sessions"))
      fun db => .ok (.auditing source userId,
        revokePrincipalClientRefreshSessions db principal.id (oidcMappingProvider source)
          (some reason)))
  | .auditing source userId =>
    some (statement s o (fun _ => refuse (.databaseError "Failed to audit identity unlink"))
      fun db => .ok (.unlinked source userId, db))
  | .importing provider rest =>
    some (runPart s o (.importing provider) (fun e => .answered (.migrationError e))
      (fun output => .answered (.imported output)) rest)
  | .registering provider rest =>
    some (runPart s o (.registering provider) (fun e => .answered (.migrationError e))
      (fun response => .answered (.registered response)) rest)

/-- A request is made once. -/
def next : Input → Store ι → Phase → Option (Store ι × Phase)
  | .call call, s, .idle => some (s, receive server call)
  | .call _, _, _ => none
  | .proceed o, s, phase => proceed server i s o phase

end Requests

/-- A provider of upstream mappings, or a client of upstream logins. -/
def isUpstream (name : String) : Bool := "oidc_upstream:".toList.isPrefixOf name.toList

/-- No session that was opened through the source is unrevoked. -/
def isClear (db : Db) (source : IdentitySource) : Bool :=
  db.refreshSessions.rows.all fun s =>
    s.revokedAt.isSome || s.clientId != oidcMappingProvider source

/-- Other requests open no sessions of upstream logins and write no mappings. They create sources,
but change none, and delete the sessions of a user together with the user. -/
def continues (db other : Db) : Bool :=
  (db.identitySources.rows.all fun source => decide (source ∈ other.identitySources)) &&
    (other.identitySources.rows.all fun source =>
      decide (source ∈ db.identitySources) || isClear other source) &&
    (other.refreshSessions.rows.all fun s =>
      s.revokedAt.isSome || !isUpstream s.clientId ||
        db.refreshSessions.any fun s' => s'.id == s.id && s'.principalId == s.principalId &&
          s'.clientId == s.clientId && s'.revokedAt.isNone) &&
    (db.users.rows.all fun u => other.users.any (·.id == u.id) ||
      other.refreshSessions.rows.all fun s => s.principalId != principalId .user u.id) &&
    other.externalUserMappings.rows.all fun m => decide (m ∈ db.externalUserMappings)

/-- The statements of the requests, named by `ι`, and all other writes. -/
def protocol (server : Server) (ι : Type*) [DecidableEq ι] :
    Protocol ι (Store ι) Phase Input Db where
  next := next server
  env other s := if continues s.db other then some { s with db := other } else none

end Keylo.Callback
