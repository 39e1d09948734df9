import Keylo.Users

/-!
# Refresh sessions

The functions of `db/refresh_session.rs` that create, rotate and revoke refresh sessions, and the
tokens of `db/mod.rs` from before there were sessions. Tokens are stored as digests.

## Main definitions

* `createRefreshSession`, `consumeAndRotateRefreshSession` : the transactions.
* `LiveRefreshToken` : the tokens that can be consumed.

## Main results

* `liveRefreshToken_of_consumed` : a token that is consumed was live.
-/

namespace Keylo

open Relational

/-- The digest under which a token is stored. -/
def tokenHash (crates : Crates) (token : String) : String := crates.hexEncode (crates.sha256 token)

variable (crates : Crates) (db : Db)

/-! ### New sessions -/

/-- Whether a session of the principal in the organization may exist, by the rows that the
transaction locks. -/
def lockActiveOrganizationSessionContext (organizationId principalId : String) : Bool :=
  match db.organizations.lookup Organization.id organizationId with
  | none => false
  | some organization =>
    if organization.status ≠ .active then false
    else
      match db.principals.lookup Principal.id principalId with
      | none => false
      | some principal =>
        if !principal.active || principal.principalType != .user then false
        else
          match db.users.lookup User.id principal.refId with
          | none => false
          | some user =>
            if !user.active || user.userClass == .externalCustomer && organization.kind != .customer
            then false
            else
              match db.memberships.lookup Membership.key (organizationId, principalId) with
              | none => false
              | some membership => membership.status == .active

structure CreateRefreshSessionParams where
  sessionId : String
  principalId : String
  clientId : String
  organizationId : Option String := none
  refreshTokenId : String
  refreshToken : String
  accessJti : String
  /-- A Unix timestamp. -/
  expiresAt : Int

/-- The row of a new session. -/
abbrev CreateRefreshSessionParams.session (params : CreateRefreshSessionParams) :
    RefreshSession where
  id := params.sessionId
  principalId := params.principalId
  clientId := params.clientId
  currentRefreshTokenId := params.refreshTokenId
  currentAccessJti := params.accessJti
  organizationId := params.organizationId
  expiresAt := .ofTimestamp params.expiresAt

/-- The row of its first token. -/
abbrev CreateRefreshSessionParams.token (params : CreateRefreshSessionParams) :
    RefreshSessionToken where
  tokenId := params.refreshTokenId
  sessionId := params.sessionId
  tokenHash := tokenHash crates params.refreshToken
  expiresAt := .ofTimestamp params.expiresAt

/-- Stores a session and its first token. -/
def createRefreshSession (params : CreateRefreshSessionParams) : Except String (Unit × Db) :=
  if params.organizationId.any fun organizationId =>
      !lockActiveOrganizationSessionContext db organizationId params.principalId then
    .error "organization_session_context_inactive"
  else
    match db.refreshSessions.insert params.session with
    | none => .error uniqueViolation
    | some sessions =>
      match db.refreshSessionTokens.insert (params.token crates) with
      | none => .error uniqueViolation
      | some tokens =>
        .ok ((), { db with refreshSessions := sessions, refreshSessionTokens := tokens })

/-! ### Rotation -/

/-- The session of a consumed token. -/
structure ConsumedRefreshSession where
  sessionId : String
  principalId : String
  clientId : String
  organizationId : Option String
  expiresAt : Int
deriving DecidableEq, Repr

inductive ConsumeRefreshSessionResult
  | consumed (session : ConsumedRefreshSession)
  | notFound
  | replayed (sessionId : String)
  | organizationScopeMismatch
  | organizationContextInactive
deriving DecidableEq, Repr

variable (now : Time)

/-- `SET consumed_at = NOW()`. -/
def consumeSessionToken : Assignment RefreshSessionToken :=
  ⟨fun t => { t with consumedAt := some now }, fun _ _ => rfl⟩

/-- `SET revoked_at = COALESCE(revoked_at, NOW())`. -/
def revokeSessionToken : Assignment RefreshSessionToken :=
  ⟨fun t => { t with revokedAt := t.revokedAt.or (some now) }, fun _ _ => rfl⟩

/-- Revokes the selected sessions, where the transaction has begun at `now`. -/
def revokeSessionsAt (selected : RefreshSession → Bool) (reason : Option String) : Db :=
  { db with refreshSessions := db.refreshSessions.update selected (revokeSession now reason) }

def revokeRefreshSession (sessionId : String) (reason : Option String) : Db :=
  revokeSessionsAt db db.clock (fun s => s.id == sessionId) reason

/-- The token with the given text and its session. -/
def refreshSessionOfToken (refreshToken : String) : Option (RefreshSessionToken × RefreshSession) :=
  match db.refreshSessionTokens.lookup RefreshSessionToken.tokenHash
      (tokenHash crates refreshToken) with
  | none => none
  | some token =>
    match db.refreshSessions.lookup RefreshSession.id token.sessionId with
    | none => none
    | some session => some (token, session)

/-- `SET current_refresh_token_id = $2, current_access_jti = $3, rotated_at = NOW()`. -/
def rotateSession (newRefreshTokenId newAccessJti : String) : Assignment RefreshSession :=
  ⟨fun s =>
    { s with
      currentRefreshTokenId := newRefreshTokenId, currentAccessJti := newAccessJti
      rotatedAt := some now }, fun _ _ => rfl⟩

/-- The identifiers and the text of the tokens that replace a consumed one. -/
structure Replacement where
  refreshTokenId : String
  refreshToken : String
  accessJti : String
deriving DecidableEq, Repr

/-- The row of the token that replaces one of the session. -/
abbrev Replacement.token (new : Replacement) (session : RefreshSession) : RefreshSessionToken where
  tokenId := new.refreshTokenId
  sessionId := session.id
  tokenHash := tokenHash crates new.refreshToken
  expiresAt := .ofTimestamp session.expiresAt.timestamp

/-- The writes that consume a token and store its replacement. -/
def rotate (refreshToken : String) (session : RefreshSession) (new : Replacement) :
    Except String (ConsumeRefreshSessionResult × Db) :=
  match (db.refreshSessionTokens.update (fun t => t.tokenHash == tokenHash crates refreshToken)
      (consumeSessionToken now)).insert (new.token crates session) with
  | none => .error uniqueViolation
  | some tokens =>
    .ok (.consumed ⟨session.id, session.principalId, session.clientId, session.organizationId,
        session.expiresAt.timestamp⟩,
      { db with
        refreshSessionTokens := tokens
        refreshSessions := db.refreshSessions.update (fun s => s.id == session.id)
          (rotateSession now new.refreshTokenId new.accessJti) })

/-- The part of the transaction after the rows of the token and of its session have been locked.
A token that is used again revokes its session. -/
def consumeLocked (refreshToken : String) (token : RefreshSessionToken)
    (session : RefreshSession) (new : Replacement) :
    Except String (ConsumeRefreshSessionResult × Db) :=
  if !(now < token.expiresAt) || !(now < session.expiresAt) then .ok (.notFound, db)
  else if token.consumedAt.isSome || token.revokedAt.isSome || session.revokedAt.isSome then
    .ok (.replayed session.id,
      revokeSessionsAt db now (fun s => s.id == session.id) (some "refresh_token_replay"))
  else rotate crates db now refreshToken session new

/-- Consumes a token and stores its replacement. -/
def consumeAndRotateRefreshSession (refreshToken : String) (expectedOrganizationId : Option String)
    (new : Replacement) : Except String (ConsumeRefreshSessionResult × Db) :=
  match refreshSessionOfToken crates db refreshToken with
  | none => .ok (.notFound, db)
  | some (token, session) =>
    if session.organizationId ≠ expectedOrganizationId then .ok (.organizationScopeMismatch, db)
    else if session.organizationId.any fun organizationId =>
        !lockActiveOrganizationSessionContext db organizationId session.principalId then
      .ok (.organizationContextInactive,
        revokeRefreshSession db session.id (some "organization_context_inactive"))
    else consumeLocked crates db db.clock refreshToken token session new

/-- Revokes a token and its session. -/
def revokeRefreshSessionByToken (refreshToken : String) (reason : Option String) :
    Option String × Db :=
  match db.refreshSessionTokens.lookup RefreshSessionToken.tokenHash
      (tokenHash crates refreshToken) with
  | none => (none, db)
  | some token =>
    (some token.sessionId, revokeRefreshSession
      { db with
        refreshSessionTokens :=
          db.refreshSessionTokens.update (fun t => t.tokenHash == tokenHash crates refreshToken)
            (revokeSessionToken db.clock) }
      token.sessionId reason)

/-! ### Sessions of a principal -/

def hasActiveRefreshSessionForPrincipal (principalId : String) : Bool :=
  db.refreshSessions.any fun s =>
    s.principalId == principalId && s.revokedAt.isNone && db.clock < s.expiresAt

/-- The sessions that one of the bulk revocations is about. -/
inductive SessionScope
  | principal (principalId : String)
  | organization (organizationId : String)
  | client (clientId : String)
  | principalClient (principalId clientId : String)
deriving DecidableEq, Repr

/-- The sessions that a bulk revocation selects. -/
def SessionScope.selects (scope : SessionScope) (now : Time) (s : RefreshSession) : Bool :=
  match scope with
  | .principal principalId => s.principalId == principalId && s.revokedAt.isNone
  | .organization organizationId =>
    s.organizationId == some organizationId && s.revokedAt.isNone && now < s.expiresAt
  | .client clientId => s.clientId == clientId && s.revokedAt.isNone
  | .principalClient principalId clientId =>
    s.principalId == principalId && s.clientId == clientId && s.revokedAt.isNone

/-- A bulk revocation. -/
def revokeScope (scope : SessionScope) (reason : Option String) : Db :=
  revokeSessionsAt db db.clock (scope.selects db.clock) reason

def revokePrincipalRefreshSessions (principalId : String) (reason : Option String) : Db :=
  revokeScope db (.principal principalId) reason

def revokePrincipalClientRefreshSessions (principalId clientId : String) (reason : Option String) :
    Db :=
  revokeScope db (.principalClient principalId clientId) reason

/-! ### Tokens without a session -/

/-- `SET revoked = TRUE`. -/
def revokeLegacyToken : Assignment RefreshToken :=
  ⟨fun t => { t with revoked := true }, fun _ _ => rfl⟩

/-- Stores a token without a session. -/
def createRefreshToken (tokenId clientId token : String) (expiresAt : Int) : Except String Db :=
  match db.refreshTokens.insert
    { id := tokenId, clientId := clientId, tokenHash := tokenHash crates token
      expiresAt := .ofTimestamp expiresAt } with
  | none => .error uniqueViolation
  | some refreshTokens => .ok { db with refreshTokens := refreshTokens }

def revokeRefreshTokenByToken (token : String) : Db :=
  { db with
    refreshTokens := db.refreshTokens.update (fun t => t.tokenHash == tokenHash crates token)
      revokeLegacyToken }

def revokeClientRefreshTokens (clientId : String) : Db :=
  { db with
    refreshTokens := db.refreshTokens.update (fun t => t.clientId == clientId) revokeLegacyToken }

/-- The row is an unexpired token, not revoked, with the given text. -/
def isUnused (token : String) (t : RefreshToken) : Bool :=
  t.tokenHash == tokenHash crates token && db.clock < t.expiresAt && !t.revoked

/-- Consumes a token from before there were sessions; the result is its id and its client. -/
def consumeRefreshToken (token : String) : Option (String × String) × Db :=
  let unused := isUnused crates db token
  ((db.refreshTokens.find? unused).map fun t => (t.id, t.clientId),
    { db with refreshTokens := db.refreshTokens.update unused revokeLegacyToken })

/-! ### Live tokens -/

variable {crates db} {db' : Db} {refreshToken : String} {new : Replacement} {now : Time}
  {organizationId : Option String} {consumed : ConsumedRefreshSession} {session : RefreshSession}

/-- The token is stored, unused and unexpired, and so is its session, which is one of the
principal. -/
def LiveRefreshToken (crates : Crates) (db : Db) (refreshToken principalId : String) : Prop :=
  ∃ token session, refreshSessionOfToken crates db refreshToken = some (token, session) ∧
    session.principalId = principalId ∧
    token.consumedAt = none ∧ token.revokedAt = none ∧ db.clock < token.expiresAt ∧
    session.revokedAt = none ∧ db.clock < session.expiresAt

theorem createRefreshSession_eq_ok {params : CreateRefreshSessionParams} {u : Unit}
    (h : createRefreshSession crates db params = .ok (u, db')) :
    (∀ organizationId ∈ params.organizationId,
      lockActiveOrganizationSessionContext db organizationId params.principalId = true) ∧
    ∃ sessions tokens,
      db.refreshSessions.insert params.session = some sessions ∧
      db.refreshSessionTokens.insert (params.token crates) = some tokens ∧
      db' = { db with refreshSessions := sessions, refreshSessionTokens := tokens } := by
  unfold createRefreshSession at h
  split_ifs at h with hcontext
  split at h
  · cases h
  rename_i sessions hsessions
  split at h
  · cases h
  rename_i tokens htokens
  cases h
  refine ⟨fun organizationId horganization => ?_, sessions, tokens, hsessions, htokens, rfl⟩
  rw [Option.mem_def] at horganization
  simpa [horganization] using hcontext

/-- A token that is consumed is unused and unexpired, and so is its session. -/
theorem consumeLocked_eq_consumed {token : RefreshSessionToken}
    (h : consumeLocked crates db now refreshToken token session new =
      .ok (.consumed consumed, db')) :
    rotate crates db now refreshToken session new = .ok (.consumed consumed, db') ∧
      token.consumedAt = none ∧ token.revokedAt = none ∧ now < token.expiresAt ∧
      session.revokedAt = none ∧ now < session.expiresAt := by
  unfold consumeLocked at h
  split at h
  · cases h
  rename_i hunexpired
  split at h
  · cases h
  rename_i hunused
  simp only [Bool.or_eq_true, not_or, Bool.not_eq_true', decide_eq_false_iff_not, not_not,
    Option.isSome_iff_ne_none, ne_eq] at hunexpired hunused
  exact ⟨h, hunused.1.1, hunused.1.2, hunexpired.1, hunused.2, hunexpired.2⟩

theorem rotate_eq_ok {result : ConsumeRefreshSessionResult}
    (h : rotate crates db now refreshToken session new = .ok (result, db')) :
    result = .consumed ⟨session.id, session.principalId, session.clientId, session.organizationId,
        session.expiresAt.timestamp⟩ ∧
      ∃ tokens, (db.refreshSessionTokens.update
          (fun t => t.tokenHash == tokenHash crates refreshToken)
          (consumeSessionToken now)).insert (new.token crates session) = some tokens ∧
        db' = { db with
          refreshSessionTokens := tokens
          refreshSessions := db.refreshSessions.update (fun s => s.id == session.id)
            (rotateSession now new.refreshTokenId new.accessJti) } := by
  unfold rotate at h
  split at h
  · cases h
  rename_i tokens htokens
  cases h
  exact ⟨rfl, tokens, htokens, rfl⟩

section Consumed

variable (h : consumeAndRotateRefreshSession crates db refreshToken organizationId new =
      .ok (.consumed consumed, db'))

include h

/-- A token that is consumed is stored, unused and unexpired, and so is its session. -/
theorem consumeAndRotateRefreshSession_eq_consumed :
    ∃ token session, refreshSessionOfToken crates db refreshToken = some (token, session) ∧
      consumed = ⟨session.id, session.principalId, session.clientId, session.organizationId,
        session.expiresAt.timestamp⟩ ∧
      token.consumedAt = none ∧ token.revokedAt = none ∧ db.clock < token.expiresAt ∧
      session.revokedAt = none ∧ db.clock < session.expiresAt := by
  unfold consumeAndRotateRefreshSession at h
  split at h
  · cases h
  rename_i token session hfound
  split at h
  · cases h
  split at h
  · cases h
  obtain ⟨hrotate, hlive⟩ := consumeLocked_eq_consumed h
  obtain ⟨heq, -⟩ := rotate_eq_ok hrotate
  cases heq
  exact ⟨token, session, hfound, rfl, hlive⟩

/-- A token that is consumed was live. -/
theorem liveRefreshToken_of_consumed :
    LiveRefreshToken crates db refreshToken consumed.principalId := by
  obtain ⟨token, session, hfound, rfl, hlive⟩ := consumeAndRotateRefreshSession_eq_consumed h
  exact ⟨token, session, hfound, rfl, hlive⟩

end Consumed

end Keylo
