import Keylo.Foundation.Locks
import Keylo.Sessions

/-!
# Transactions on refresh sessions

The transactions of `db/refresh_session.rs` up to their locks. A rotation reads the session of its
token without a lock, checks the organization of the session, and then locks the rows of the token
and of the session before it looks at them again. A bulk revocation selects its sessions when it
begins and looks at each of them again once it has locked it.

## Main definitions

* `protocol` : the statements of the transactions.
* `Effect` : what a step of a transaction does to the sessions and tokens.
* `Current` : what a transaction that has locked rows knows about them.

## Main results

* `stepFacts_of_next` : the effect of every step.
* `Current.step` : no other transaction changes a row that is locked.
-/

namespace Keylo.Refresh

open Relational Transition Table

/-! ### Transactions -/

/-- The rows that transactions lock. -/
inductive Row
  | token (tokenHash : String)
  | session (id : String)
deriving DecidableEq

/-- The database, and the transactions that have locked a row and not yet committed. -/
structure Store (ι : Type*) where
  db : Db
  locks : Locks Row ι

inductive Call
  | createRefreshSession (params : CreateRefreshSessionParams)
  | consumeAndRotateRefreshSession (refreshToken : String) (expectedOrganizationId : Option String)
      (new : Replacement)
  | revokeRefreshSession (sessionId : String) (reason : Option String)
  | revokeRefreshSessionByToken (refreshToken : String) (reason : Option String)
  | revokeScope (scope : SessionScope) (reason : Option String)

inductive Result
  | created
  | consumed (result : ConsumeRefreshSessionResult)
  | revoked (found : Bool)
  | revokedByToken (sessionId : Option String)
  | revokedScope (count : ℕ)
  | failed (error : String)
deriving DecidableEq, Repr

/-- What a transaction is about to do; `now` is the time at which it has begun. -/
inductive Task
  | idle
  | returned (result : Result)
  | creating (params : CreateRefreshSessionParams)
  | readingCandidate (now : Time) (refreshToken : String) (expectedOrganizationId : Option String)
      (new : Replacement)
  /-- The session belongs to an organization. -/
  | checkingContext (now : Time) (refreshToken : String) (new : Replacement)
      (sessionId principalId organizationId : String)
  /-- The organization, the user or the membership is not active. -/
  | revokingInactive (now : Time) (sessionId : String)
  | lockingToken (now : Time) (refreshToken : String) (new : Replacement)
  /-- The token is locked. -/
  | lockingSession (now : Time) (refreshToken : String) (new : Replacement)
  /-- The token and its session are locked. -/
  | rotating (now : Time) (refreshToken : String) (new : Replacement) (token : RefreshSessionToken)
      (session : RefreshSession)
  | revoking (now : Time) (sessionId : String) (reason : Option String)
  | findingToken (now : Time) (refreshToken : String) (reason : Option String)
  /-- The token is locked. -/
  | revokingToken (now : Time) (refreshToken : String) (reason : Option String) (sessionId : String)
  | selecting (now : Time) (scope : SessionScope) (reason : Option String)
  | revokingSelected (now : Time) (scope : SessionScope) (reason : Option String)
      (sessionIds : List String)

/-- The transaction has ended, and another one can begin. -/
def Task.isReady : Task → Bool
  | .idle | .returned _ => true
  | _ => false

inductive Input
  | call (c : Call)
  | proceed
  /-- The transaction is aborted. -/
  | fail (error : String)

variable {ι : Type*} [DecidableEq ι] (crates : Crates) (i : ι) (s : Store ι)

/-- The transaction ends. -/
def finish (db : Db) (result : Result) : Store ι × Task :=
  (⟨db, s.locks.release i⟩, .returned result)

/-- `create_refresh_session`; the rows of the organization stay locked until the commit. -/
def create (params : CreateRefreshSessionParams) : Store ι × Task :=
  match createRefreshSession crates s.db params with
  | .error e => finish i s s.db (.failed e)
  | .ok ((), db) => finish i s db .created

section

variable (now : Time) (refreshToken : String) (new : Replacement)

/-- Reads the session of the token. -/
def readCandidate (expectedOrganizationId : Option String) : Store ι × Task :=
  match refreshSessionOfToken crates s.db refreshToken with
  | none => finish i s s.db (.consumed .notFound)
  | some (_, session) =>
    if session.organizationId ≠ expectedOrganizationId then
      finish i s s.db (.consumed .organizationScopeMismatch)
    else
      match session.organizationId with
      | none => (s, .lockingToken now refreshToken new)
      | some organizationId =>
        (s, .checkingContext now refreshToken new session.id session.principalId organizationId)

/-- Locks and reads the rows of the organization, the user and the membership. -/
def checkContext (sessionId principalId organizationId : String) : Store ι × Task :=
  if lockActiveOrganizationSessionContext s.db organizationId principalId then
    (s, .lockingToken now refreshToken new)
  else (s, .revokingInactive now sessionId)

/-- The revocation of a session whose organization is not active, and the commit. -/
def revokeInactive (sessionId : String) : Option (Store ι × Task) :=
  if s.locks.available i (.session sessionId) then
    some (finish i s (revokeSessionsAt s.db now (fun r => r.id == sessionId)
      (some "organization_context_inactive")) (.consumed .organizationContextInactive))
  else none

/-- Locks the token. -/
def lockToken : Option (Store ι × Task) :=
  match refreshSessionOfToken crates s.db refreshToken with
  | none => some (finish i s s.db (.consumed .notFound))
  | some (token, _) =>
    if s.locks.available i (.token token.tokenHash) then
      some ({ s with locks := s.locks.acquire i [.token token.tokenHash] },
        .lockingSession now refreshToken new)
    else none

/-- Locks the session of the token, and reads both rows as they are then. -/
def lockSession : Option (Store ι × Task) :=
  match refreshSessionOfToken crates s.db refreshToken with
  | none => some (finish i s s.db (.consumed .notFound))
  | some (token, session) =>
    if s.locks.available i (.session session.id) then
      some ({ s with locks := s.locks.acquire i [.session session.id] },
        .rotating now refreshToken new token session)
    else none

/-- The statements that follow the locks, and the commit. -/
def rotateLocked (token : RefreshSessionToken) (session : RefreshSession) : Store ι × Task :=
  match consumeLocked crates s.db now refreshToken token session new with
  | .error e => finish i s s.db (.failed e)
  | .ok (result, db) => finish i s db (.consumed result)

/-- `revoke_refresh_session` is a single statement. -/
def revoke (sessionId : String) (reason : Option String) : Option (Store ι × Task) :=
  if s.locks.available i (.session sessionId) then
    some (finish i s (revokeSessionsAt s.db now (fun r => r.id == sessionId) reason)
      (.revoked (s.db.refreshSessions.any fun r => r.id == sessionId)))
  else none

/-- Locks the token that is to be revoked. -/
def findToken (reason : Option String) : Option (Store ι × Task) :=
  match s.db.refreshSessionTokens.lookup RefreshSessionToken.tokenHash
      (tokenHash crates refreshToken) with
  | none => some (finish i s s.db (.revokedByToken none))
  | some token =>
    if s.locks.available i (.token token.tokenHash) then
      some ({ s with locks := s.locks.acquire i [.token token.tokenHash] },
        .revokingToken now refreshToken reason token.sessionId)
    else none

/-- Revokes the token with the given digest. -/
def revokeTokenAt (db : Db) (now : Time) (hash : String) : Db :=
  { db with
    refreshSessionTokens := db.refreshSessionTokens.update (fun t => t.tokenHash == hash)
      (revokeSessionToken now) }

/-- The revocation of a locked token and of its session, and the commit. -/
def revokeToken (reason : Option String) (sessionId : String) : Option (Store ι × Task) :=
  if s.locks.available i (.session sessionId) then
    some (finish i s (revokeSessionsAt (revokeTokenAt s.db now (tokenHash crates refreshToken)) now
      (fun r => r.id == sessionId) reason) (.revokedByToken (some sessionId)))
  else none

/-- The sessions that a bulk revocation finds when it begins. -/
def selectScope (scope : SessionScope) (reason : Option String) : Store ι × Task :=
  (s, .revokingSelected now scope reason
    ((s.db.refreshSessions.select (scope.selects now)).map RefreshSession.id))

/-- The sessions that have been found and are still selected once they are locked. -/
def stillSelected (scope : SessionScope) (sessionIds : List String) (r : RefreshSession) : Bool :=
  sessionIds.contains r.id && scope.selects now r

/-- The revocation of the selected sessions, and the commit. -/
def revokeSelected (scope : SessionScope) (reason : Option String)
    (sessionIds : List String) : Option (Store ι × Task) :=
  if sessionIds.all fun id => s.locks.available i (.session id) then
    some (finish i s (revokeSessionsAt s.db now (stillSelected now scope sessionIds) reason)
      (.revokedScope (s.db.refreshSessions.select (stillSelected now scope sessionIds)).length))
  else none

/-- The first statement of a transaction that begins at the given time. -/
def start : Call → Task
  | .createRefreshSession params => .creating params
  | .consumeAndRotateRefreshSession refreshToken expectedOrganizationId new =>
    .readingCandidate now refreshToken expectedOrganizationId new
  | .revokeRefreshSession sessionId reason => .revoking now sessionId reason
  | .revokeRefreshSessionByToken refreshToken reason => .findingToken now refreshToken reason
  | .revokeScope scope reason => .selecting now scope reason

end

/-- The next statements of a transaction. -/
def proceed : Task → Option (Store ι × Task)
  | .idle | .returned _ => none
  | .creating params => some (create crates i s params)
  | .readingCandidate now refreshToken expectedOrganizationId new =>
    some (readCandidate crates i s now refreshToken new expectedOrganizationId)
  | .checkingContext now refreshToken new sessionId principalId organizationId =>
    some (checkContext s now refreshToken new sessionId principalId organizationId)
  | .revokingInactive now sessionId => revokeInactive i s now sessionId
  | .lockingToken now refreshToken new => lockToken crates i s now refreshToken new
  | .lockingSession now refreshToken new => lockSession crates i s now refreshToken new
  | .rotating now refreshToken new token session =>
    some (rotateLocked crates i s now refreshToken new token session)
  | .revoking now sessionId reason => revoke i s now sessionId reason
  | .findingToken now refreshToken reason => findToken crates i s now refreshToken reason
  | .revokingToken now refreshToken reason sessionId =>
    revokeToken crates i s now refreshToken reason sessionId
  | .selecting now scope reason => some (selectScope s now scope reason)
  | .revokingSelected now scope reason sessionIds =>
    revokeSelected i s now scope reason sessionIds

def next (i : ι) : Input → Store ι → Task → Option (Store ι × Task)
  | .call c, s, t => if t.isReady then some (s, start s.db.clock c) else none
  | .proceed, s, t => proceed crates i s t
  | .fail error, s, t => if t.isReady then none else some (finish i s s.db (.failed error))

/-- Time passes, and other requests change anything but the sessions and their tokens. -/
def surroundings (other : Db) (s : Store ι) : Option (Store ι) :=
  if s.db.clock ≤ other.clock then
    some { s with
      db := { other with
        refreshSessions := s.db.refreshSessions
        refreshSessionTokens := s.db.refreshSessionTokens } }
  else none

variable (ι) in
/-- The statements of the transactions, named by `ι`, and all other writes. -/
def protocol : Protocol ι (Store ι) Task Input Db where
  next := next crates
  env := surroundings

/-! ### Later states of rows -/

/-- A later state of a token. -/
structure TokenFollows (t t' : RefreshSessionToken) : Prop where
  tokenId : t'.tokenId = t.tokenId
  sessionId : t'.sessionId = t.sessionId
  tokenHash : t'.tokenHash = t.tokenHash
  expiresAt : t'.expiresAt = t.expiresAt
  consumedAt : t.consumedAt.isSome → t'.consumedAt.isSome
  revokedAt : t.revokedAt.isSome → t'.revokedAt.isSome

/-- A later state of a session. -/
structure SessionFollows (r r' : RefreshSession) : Prop where
  id : r'.id = r.id
  principalId : r'.principalId = r.principalId
  clientId : r'.clientId = r.clientId
  organizationId : r'.organizationId = r.organizationId
  expiresAt : r'.expiresAt = r.expiresAt
  revokedAt : r.revokedAt.isSome → r'.revokedAt.isSome

theorem TokenFollows.refl (t : RefreshSessionToken) : TokenFollows t t :=
  ⟨rfl, rfl, rfl, rfl, fun h => h, fun h => h⟩

theorem SessionFollows.refl (r : RefreshSession) : SessionFollows r r :=
  ⟨rfl, rfl, rfl, rfl, rfl, fun h => h⟩

theorem tokenFollows_consume (now : Time) (t : RefreshSessionToken) :
    TokenFollows t ((consumeSessionToken now).apply t) :=
  ⟨rfl, rfl, rfl, rfl, fun _ => rfl, fun h => h⟩

theorem isSome_or_some {α : Type*} (o : Option α) (a : α) : (o.or (some a)).isSome = true := by
  cases o <;> rfl

theorem tokenFollows_revoke (now : Time) (t : RefreshSessionToken) :
    TokenFollows t ((revokeSessionToken now).apply t) :=
  ⟨rfl, rfl, rfl, rfl, fun h => h, fun _ => isSome_or_some _ _⟩

theorem sessionFollows_revoke (now : Time) (reason : Option String) (r : RefreshSession) :
    SessionFollows r ((revokeSession now reason).apply r) :=
  ⟨rfl, rfl, rfl, rfl, rfl, fun _ => isSome_or_some _ _⟩

theorem sessionFollows_rotate (now : Time) (tokenId jti : String) (r : RefreshSession) :
    SessionFollows r ((rotateSession now tokenId jti).apply r) :=
  ⟨rfl, rfl, rfl, rfl, rfl, fun h => h⟩

/-- Every token and every session is there in a later state, and is the same unless its row is
`free`. -/
structure Moves (free : Row → Prop) (db db' : Db) : Prop where
  tokens : ∀ t ∈ db.refreshSessionTokens, ∃ t' ∈ db'.refreshSessionTokens,
    TokenFollows t t' ∧ (t' = t ∨ free (.token t.tokenHash))
  sessions : ∀ r ∈ db.refreshSessions, ∃ r' ∈ db'.refreshSessions,
    SessionFollows r r' ∧ (r' = r ∨ free (.session r.id))

variable {free : Row → Prop} {db db' : Db} {q : RefreshSession → Bool}

theorem Moves.of_eq (htokens : db'.refreshSessionTokens = db.refreshSessionTokens)
    (hsessions : db'.refreshSessions = db.refreshSessions) : Moves free db db' where
  tokens t ht := ⟨t, htokens ▸ ht, .refl t, .inl rfl⟩
  sessions r hr := ⟨r, hsessions ▸ hr, .refl r, .inl rfl⟩

theorem exists_token_of_update {tokens : Table RefreshSessionToken}
    {p : RefreshSessionToken → Bool} {f : Assignment RefreshSessionToken}
    (hf : ∀ t, TokenFollows t (f.apply t))
    (hp : ∀ t ∈ tokens, p t = true → free (.token t.tokenHash)) {t : RefreshSessionToken}
    (ht : t ∈ tokens) :
    ∃ t' ∈ tokens.update p f, TokenFollows t t' ∧ (t' = t ∨ free (.token t.tokenHash)) := by
  refine ⟨_, mem_update.2 ⟨t, ht, rfl⟩, ?_⟩
  split_ifs with hpt
  · exact ⟨hf t, .inr (hp t ht hpt)⟩
  · exact ⟨.refl t, .inl rfl⟩

theorem exists_session_of_update {sessions : Table RefreshSession} {f : Assignment RefreshSession}
    (hf : ∀ r, SessionFollows r (f.apply r))
    (hq : ∀ r ∈ sessions, q r = true → free (.session r.id)) {r : RefreshSession}
    (hr : r ∈ sessions) :
    ∃ r' ∈ sessions.update q f, SessionFollows r r' ∧ (r' = r ∨ free (.session r.id)) := by
  refine ⟨_, mem_update.2 ⟨r, hr, rfl⟩, ?_⟩
  split_ifs with hqr
  · exact ⟨hf r, .inr (hq r hr hqr)⟩
  · exact ⟨.refl r, .inl rfl⟩

/-! ### The effect of a step -/

/-- The revocation of the tokens with `p` and of the sessions with `q`. -/
def revokeRows (db : Db) (now : Time) (reason : Option String) (p : RefreshSessionToken → Bool)
    (q : RefreshSession → Bool) : Db :=
  { db with
    refreshSessionTokens := db.refreshSessionTokens.update p (revokeSessionToken now)
    refreshSessions := db.refreshSessions.update q (revokeSession now reason) }

theorem revokeSessionsAt_eq (db : Db) (now : Time) (q : RefreshSession → Bool)
    (reason : Option String) :
    revokeSessionsAt db now q reason = revokeRows db now reason (fun _ => false) q := by
  unfold revokeSessionsAt revokeRows
  rw [update_eq_self fun _ _ => rfl]

/-- A rotation of an unused token of an unrevoked session. -/
structure IsRotation (crates : Crates) (refreshToken : String) (session : RefreshSession)
    (new : Replacement) (db db' : Db) : Prop where
  rotated : ∃ now result, rotate crates db now refreshToken session new = .ok (result, db')
  session_mem : session ∈ db.refreshSessions
  session_live : session.revokedAt = none
  token : ∃ t ∈ db.refreshSessionTokens, t.tokenHash = tokenHash crates refreshToken ∧
    t.sessionId = session.id ∧ t.consumedAt = none ∧ t.revokedAt = none

/-- What a step of a transaction does to the sessions and tokens, where it can lock the rows that
are `free`, and adds tokens with `added`. -/
inductive Effect (crates : Crates) (free : Row → Prop) (added : RefreshSessionToken → Prop)
    (db : Db) : Db → Prop
  | same : Effect crates free added db db
  | created {params : CreateRefreshSessionParams} {db' : Db}
      (h : createRefreshSession crates db params = .ok ((), db'))
      (hadded : added
        { tokenId := params.refreshTokenId, sessionId := params.sessionId
          tokenHash := tokenHash crates params.refreshToken
          expiresAt := .ofTimestamp params.expiresAt }) : Effect crates free added db db'
  | rotated {refreshToken} {session : RefreshSession} {new : Replacement} {db' : Db}
      (h : IsRotation crates refreshToken session new db db')
      (htoken : free (.token (tokenHash crates refreshToken)))
      (hsession : free (.session session.id))
      (hadded : added
        { tokenId := new.refreshTokenId, sessionId := session.id
          tokenHash := tokenHash crates new.refreshToken
          expiresAt := .ofTimestamp session.expiresAt.timestamp }) : Effect crates free added db db'
  | revoked {now : Time} {reason : Option String} {p}
      {q : RefreshSession → Bool}
      (hp : ∀ t ∈ db.refreshSessionTokens, p t = true → free (.token t.tokenHash))
      (hq : ∀ r ∈ db.refreshSessions, q r = true → free (.session r.id)) :
      Effect crates free added db (revokeRows db now reason p q)

variable {crates} {i} {s} {s' : Store ι} {t t' : Task} {a : Input}
  {added : RefreshSessionToken → Prop} {token : RefreshSessionToken} {session : RefreshSession}

/-- Every token after the step is an earlier one, or has been added. -/
theorem Effect.backward (h : Effect crates free added db db') :
    ∀ t' ∈ db'.refreshSessionTokens,
      (∃ t ∈ db.refreshSessionTokens, TokenFollows t t') ∨ added t' := by
  intro t' ht'
  cases h with
  | same => exact .inl ⟨t', ht', .refl t'⟩
  | created h hadded =>
    obtain ⟨-, sessions, tokens, -, htokens, rfl⟩ := createRefreshSession_eq_ok h
    obtain rfl | ht' := (mem_of_insert_eq_some htokens).1 ht'
    · exact .inr hadded
    · exact .inl ⟨t', ht', .refl t'⟩
  | rotated h _ _ hadded =>
    obtain ⟨now, result, hrotate⟩ := h.rotated
    obtain ⟨-, tokens, htokens, rfl⟩ := rotate_eq_ok hrotate
    obtain rfl | ht' := (mem_of_insert_eq_some htokens).1 ht'
    · exact .inr hadded
    obtain ⟨t, ht, rfl⟩ := mem_update.1 ht'
    refine .inl ⟨t, ht, ?_⟩
    split_ifs
    · exact tokenFollows_consume now t
    · exact .refl t
  | revoked =>
    obtain ⟨t, ht, rfl⟩ := mem_update.1 ht'
    refine .inl ⟨t, ht, ?_⟩
    split_ifs
    · exact tokenFollows_revoke _ t
    · exact .refl t

theorem Effect.moves (h : Effect crates free added db db') : Moves free db db' := by
  cases h with
  | same => exact .of_eq rfl rfl
  | created h =>
    obtain ⟨-, sessions, tokens, hsessions, htokens, rfl⟩ := createRefreshSession_eq_ok h
    exact ⟨fun t ht => ⟨t, (mem_of_insert_eq_some htokens).2 (.inr ht), .refl t, .inl rfl⟩,
      fun r hr => ⟨r, (mem_of_insert_eq_some hsessions).2 (.inr hr), .refl r, .inl rfl⟩⟩
  | rotated h =>
    obtain ⟨now, result, hrotate⟩ := h.rotated
    obtain ⟨-, tokens, htokens, rfl⟩ := rotate_eq_ok hrotate
    refine ⟨fun t ht => ?_, fun r hr => ?_⟩
    · have hfree : ∀ t ∈ db.refreshSessionTokens, (t.tokenHash == tokenHash crates _) = true →
          free (.token t.tokenHash) := fun t _ hp => by rwa [beq_iff_eq.1 hp]
      obtain ⟨t', ht', hfollows⟩ := exists_token_of_update (tokenFollows_consume now) hfree ht
      exact ⟨t', (mem_of_insert_eq_some htokens).2 (.inr ht'), hfollows⟩
    · refine exists_session_of_update (sessionFollows_rotate now _ _) (fun r _ hq => ?_) hr
      rwa [beq_iff_eq.1 hq]
  | revoked hp hq =>
    exact ⟨fun t ht => exists_token_of_update (tokenFollows_revoke _) hp ht,
      fun r hr => exists_session_of_update (sessionFollows_revoke _ _) hq hr⟩

/-! ### Locked rows -/

/-- The request has locked the row. -/
def Holds (i : ι) (s : Store ι) (row : Row) : Prop := s.locks row = some i

/-- What a transaction knows about the rows it has read. -/
def Current (crates : Crates) (i : ι) (s : Store ι) : Task → Prop
  | .checkingContext _ _ _ sessionId _ _ | .revokingInactive _ sessionId =>
    ∃ r ∈ s.db.refreshSessions, r.id = sessionId
  | .lockingSession _ refreshToken _ => Holds i s (.token (tokenHash crates refreshToken))
  | .rotating _ refreshToken _ token session =>
    Holds i s (.token (tokenHash crates refreshToken)) ∧ Holds i s (.session session.id) ∧
      token ∈ s.db.refreshSessionTokens ∧ token.tokenHash = tokenHash crates refreshToken ∧
      session ∈ s.db.refreshSessions ∧ token.sessionId = session.id
  | .revokingToken _ refreshToken _ sessionId =>
    Holds i s (.token (tokenHash crates refreshToken)) ∧
      ∃ t ∈ s.db.refreshSessionTokens, t.tokenHash = tokenHash crates refreshToken ∧
        t.sessionId = sessionId
  | _ => True

theorem mem_of_refreshSessionOfToken {refreshToken : String}
    (h : refreshSessionOfToken crates db refreshToken = some (token, session)) :
    token ∈ db.refreshSessionTokens ∧ token.tokenHash = tokenHash crates refreshToken ∧
      session ∈ db.refreshSessions ∧ session.id = token.sessionId := by
  unfold refreshSessionOfToken at h
  split at h
  · cases h
  rename_i token' htoken
  split at h
  · cases h
  rename_i session' hsession
  cases h
  obtain ⟨htmem, hhash⟩ := lookup_eq_some_iff.1 htoken
  obtain ⟨hsmem, hid⟩ := lookup_eq_some_iff.1 hsession
  exact ⟨htmem, hhash, hsmem, hid⟩

/-- The tokens that the step after `t` may add. -/
def Task.Adds (crates : Crates) : Task → RefreshSessionToken → Prop
  | .creating params, row => row.tokenHash = tokenHash crates params.refreshToken ∧
    row.expiresAt = .ofTimestamp params.expiresAt
  | .rotating _ _ new _ _, row => row.tokenHash = tokenHash crates new.refreshToken
  | _, _ => False

/-- What a step of a transaction does, and what it knows afterwards. -/
structure StepFacts (crates : Crates) (i : ι) (s s' : Store ι) (t t' : Task) : Prop where
  effect : Effect crates (fun row => s.locks.available i row = true) (t.Adds crates) s.db s'.db
  locks : Locks.Keeps (some i) s.locks s'.locks
  current : Current crates i s' t'

theorem stepFacts_finish {db : Db} {result : Result}
    (h : Effect crates (fun row => s.locks.available i row = true) (t.Adds crates) s.db db) :
    StepFacts crates i s ⟨db, s.locks.release i⟩ t (.returned result) :=
  ⟨h, Locks.keeps_release, trivial⟩

theorem stepFacts_same (h : Current crates i s t') : StepFacts crates i s s t t' :=
  ⟨.same, .refl, h⟩

variable {now : Time} {reason : Option String}

theorem effect_revokeSessionsAt (hq : ∀ r ∈ db.refreshSessions, q r = true → free (.session r.id)) :
    Effect crates free added db (revokeSessionsAt db now q reason) := by
  rw [revokeSessionsAt_eq]
  exact .revoked (fun _ _ => nofun) hq

theorem effect_revokeOne {sessionId : String} (h : free (.session sessionId)) :
    Effect crates free added db (revokeSessionsAt db now (fun r => r.id == sessionId) reason) :=
  effect_revokeSessionsAt fun r _ hr => by rwa [beq_iff_eq.1 hr]

/-! ### Every step of a transaction -/

/-- The token that the transaction is about to look up. -/
def Task.looksUp : Task → Option String
  | .readingCandidate _ refreshToken _ _ | .lockingToken _ refreshToken _
  | .lockingSession _ refreshToken _ => some refreshToken
  | _ => none

/-- What the next statements of a transaction do, and how it goes on. -/
inductive Proceeds (crates : Crates) (i : ι) (s : Store ι) : Task → Store ι → Task → Prop
  | failed {t e} : Proceeds crates i s t ⟨s.db, s.locks.release i⟩ (.returned (.failed e))
  | created {params db} (h : createRefreshSession crates s.db params = .ok ((), db)) :
      Proceeds crates i s (.creating params) ⟨db, s.locks.release i⟩ (.returned .created)
  | notFound {t refreshToken} (ht : t.looksUp = some refreshToken)
      (h : refreshSessionOfToken crates s.db refreshToken = none) :
      Proceeds crates i s t ⟨s.db, s.locks.release i⟩ (.returned (.consumed .notFound))
  | mismatch {now refreshToken organizationId new} :
      Proceeds crates i s (.readingCandidate now refreshToken organizationId new)
        ⟨s.db, s.locks.release i⟩ (.returned (.consumed .organizationScopeMismatch))
  | candidate {now refreshToken organizationId new} :
      Proceeds crates i s (.readingCandidate now refreshToken organizationId new) s
        (.lockingToken now refreshToken new)
  | organization {now refreshToken organizationId new organizationId'} {session : RefreshSession}
      (h : session ∈ s.db.refreshSessions) :
      Proceeds crates i s (.readingCandidate now refreshToken organizationId new) s
        (.checkingContext now refreshToken new session.id session.principalId organizationId')
  | active {now refreshToken new sessionId principalId organizationId} : Proceeds crates i s
      (.checkingContext now refreshToken new sessionId principalId organizationId) s
      (.lockingToken now refreshToken new)
  | inactive {now refreshToken new sessionId principalId organizationId} : Proceeds crates i s
      (.checkingContext now refreshToken new sessionId principalId organizationId) s
      (.revokingInactive now sessionId)
  | revokedInactive {now sessionId reason} (h : s.locks.available i (.session sessionId) = true) :
      Proceeds crates i s (.revokingInactive now sessionId)
        ⟨revokeSessionsAt s.db now (fun r => r.id == sessionId) reason, s.locks.release i⟩
        (.returned (.consumed .organizationContextInactive))
  | lockedToken {now refreshToken new token session}
      (h : refreshSessionOfToken crates s.db refreshToken = some (token, session))
      (havailable : s.locks.available i (.token token.tokenHash) = true) :
      Proceeds crates i s (.lockingToken now refreshToken new)
        { s with locks := s.locks.acquire i [.token token.tokenHash] }
        (.lockingSession now refreshToken new)
  | lockedSession {now refreshToken new token session}
      (h : refreshSessionOfToken crates s.db refreshToken = some (token, session))
      (havailable : s.locks.available i (.session session.id) = true) :
      Proceeds crates i s (.lockingSession now refreshToken new)
        { s with locks := s.locks.acquire i [.session session.id] }
        (.rotating now refreshToken new token session)
  | consumed {now refreshToken new token session result db}
      (h : consumeLocked crates s.db now refreshToken token session new = .ok (result, db)) :
      Proceeds crates i s (.rotating now refreshToken new token session)
        ⟨db, s.locks.release i⟩ (.returned (.consumed result))
  | revoked {now sessionId reason found} (h : s.locks.available i (.session sessionId) = true) :
      Proceeds crates i s (.revoking now sessionId reason)
        ⟨revokeSessionsAt s.db now (fun r => r.id == sessionId) reason, s.locks.release i⟩
        (.returned (.revoked found))
  | tokenNotFound {now refreshToken reason} : Proceeds crates i s
      (.findingToken now refreshToken reason) ⟨s.db, s.locks.release i⟩
      (.returned (.revokedByToken none))
  | tokenLocked {now refreshToken reason token} (h : token ∈ s.db.refreshSessionTokens)
      (hhash : token.tokenHash = tokenHash crates refreshToken)
      (havailable : s.locks.available i (.token token.tokenHash) = true) :
      Proceeds crates i s (.findingToken now refreshToken reason)
        { s with locks := s.locks.acquire i [.token token.tokenHash] }
        (.revokingToken now refreshToken reason token.sessionId)
  | tokenRevoked {now refreshToken reason sessionId}
      (h : s.locks.available i (.session sessionId) = true) :
      Proceeds crates i s (.revokingToken now refreshToken reason sessionId)
        ⟨revokeSessionsAt (revokeTokenAt s.db now (tokenHash crates refreshToken)) now
          (fun r => r.id == sessionId) reason, s.locks.release i⟩
        (.returned (.revokedByToken (some sessionId)))
  | selected {now scope reason sessionIds} : Proceeds crates i s (.selecting now scope reason) s
      (.revokingSelected now scope reason sessionIds)
  | revokedSelected {now scope reason sessionIds count}
      (h : ∀ id ∈ sessionIds, s.locks.available i (.session id) = true) :
      Proceeds crates i s (.revokingSelected now scope reason sessionIds)
        ⟨revokeSessionsAt s.db now (stillSelected now scope sessionIds) reason,
          s.locks.release i⟩ (.returned (.revokedScope count))

theorem proceeds_of_proceed (h : proceed crates i s t = some (s', t')) :
    Proceeds crates i s t s' t' := by
  cases t with
  | idle | returned => cases h
  | creating =>
    simp only [proceed, create, Option.some.injEq] at h
    split at h <;> cases h
    · exact .failed
    · exact .created ‹_›
  | readingCandidate =>
    simp only [proceed, readCandidate, Option.some.injEq] at h
    split at h
    · cases h
      exact .notFound rfl ‹_›
    rename_i token session hfound
    split_ifs at h
    · cases h
      exact .mismatch
    split at h <;> cases h
    · exact .candidate
    · exact .organization (mem_of_refreshSessionOfToken hfound).2.2.1
  | checkingContext =>
    simp only [proceed, checkContext, Option.some.injEq] at h
    split_ifs at h <;> cases h
    · exact .active
    · exact .inactive
  | revokingInactive =>
    simp only [proceed, revokeInactive] at h
    split_ifs at h with havailable
    cases h
    exact .revokedInactive havailable
  | lockingToken =>
    simp only [proceed, lockToken] at h
    split at h
    · cases h
      exact .notFound rfl ‹_›
    split_ifs at h with havailable
    cases h
    exact .lockedToken ‹_› havailable
  | lockingSession =>
    simp only [proceed, lockSession] at h
    split at h
    · cases h
      exact .notFound rfl ‹_›
    split_ifs at h with havailable
    cases h
    exact .lockedSession ‹_› havailable
  | rotating =>
    simp only [proceed, rotateLocked, Option.some.injEq] at h
    split at h <;> cases h
    · exact .failed
    · exact .consumed ‹_›
  | revoking =>
    simp only [proceed, revoke] at h
    split_ifs at h with havailable
    cases h
    exact .revoked havailable
  | findingToken =>
    simp only [proceed, findToken] at h
    split at h
    · cases h
      exact .tokenNotFound
    rename_i token hfound
    obtain ⟨htoken, hhash⟩ := lookup_eq_some_iff.1 hfound
    split_ifs at h with havailable
    cases h
    exact .tokenLocked htoken hhash havailable
  | revokingToken =>
    simp only [proceed, revokeToken] at h
    split_ifs at h with havailable
    cases h
    exact .tokenRevoked havailable
  | selecting =>
    cases h
    exact .selected
  | revokingSelected =>
    simp only [proceed, revokeSelected] at h
    split_ifs at h with havailable
    cases h
    exact .revokedSelected (List.all_eq_true.1 havailable)

theorem proceeds_of_next (h : next crates i a s t = some (s', t')) :
    (t.isReady = true ∧ s' = s ∧ ∃ now c, t' = start now c) ∨ Proceeds crates i s t s' t' := by
  cases a with
  | call c =>
    simp only [next] at h
    split_ifs at h with hready
    cases h
    exact .inl ⟨hready, rfl, _, c, rfl⟩
  | proceed => exact .inr (proceeds_of_proceed h)
  | fail =>
    simp only [next] at h
    split_ifs at h
    cases h
    exact .inr .failed

/-- The rotation of a token whose rows are locked. -/
theorem effect_consumeLocked {refreshToken : String} {new : Replacement}
    {result : ConsumeRefreshSessionResult}
    (h : Current crates i s (.rotating now refreshToken new token session))
    (hconsume : consumeLocked crates s.db now refreshToken token session new = .ok (result, db)) :
    Effect crates (fun row => s.locks.available i row = true)
      ((Task.rotating now refreshToken new token session).Adds crates) s.db db := by
  obtain ⟨hheld, hheld', htoken, hhash, hsession, hid⟩ := h
  have hfree := Locks.available_of_held hheld'
  by_cases hconsumed : ∃ consumed, result = .consumed consumed
  · obtain ⟨consumed, rfl⟩ := hconsumed
    obtain ⟨hrotate, hunused, hunrevoked, -, hlive, -⟩ := consumeLocked_eq_consumed hconsume
    exact .rotated ⟨⟨now, _, hrotate⟩, hsession, hlive,
      token, htoken, hhash, hid, hunused, hunrevoked⟩ (Locks.available_of_held hheld) hfree rfl
  · unfold consumeLocked at hconsume
    split_ifs at hconsume
    · cases hconsume
      exact .same
    · cases hconsume
      exact effect_revokeOne hfree
    · exact absurd ⟨_, (rotate_eq_ok hconsume).1⟩ hconsumed

theorem stepFacts_of_proceeds (hcurrent : Current crates i s t)
    (h : Proceeds crates i s t s' t') : StepFacts crates i s s' t t' := by
  cases h with
  | created h => exact stepFacts_finish (.created h ⟨rfl, rfl⟩)
  | candidate | active | selected => exact stepFacts_same trivial
  | organization h => exact stepFacts_same ⟨_, h, rfl⟩
  | inactive => exact stepFacts_same hcurrent
  | revokedInactive h | revoked h => exact stepFacts_finish (effect_revokeOne h)
  | lockedToken h havailable =>
    refine ⟨.same, Locks.keeps_acquire (by simpa using havailable), ?_⟩
    rw [(mem_of_refreshSessionOfToken h).2.1]
    exact Locks.acquire_of_mem (List.mem_singleton.2 rfl)
  | @lockedSession now refreshToken new token session h havailable =>
    obtain ⟨htoken, hhash, hsession, hid⟩ := mem_of_refreshSessionOfToken h
    have hheld : s.locks.acquire i [.session session.id] _ = some i :=
      Locks.acquire_of_held hcurrent
    exact ⟨.same, Locks.keeps_acquire (by simpa using havailable), hheld,
      Locks.acquire_of_mem (List.mem_singleton.2 rfl), htoken, hhash, hsession, hid.symm⟩
  | consumed h => exact stepFacts_finish (effect_consumeLocked hcurrent h)
  | tokenLocked h hhash havailable =>
    refine ⟨.same, Locks.keeps_acquire (by simpa using havailable), ?_, _, h, hhash, rfl⟩
    rw [← hhash]
    exact Locks.acquire_of_mem (List.mem_singleton.2 rfl)
  | tokenRevoked =>
    refine stepFacts_finish (.revoked (fun t _ ht => ?_) fun r _ hr => ?_)
    · rw [beq_iff_eq.1 ht]
      exact Locks.available_of_held hcurrent.1
    · rwa [beq_iff_eq.1 hr]
  | revokedSelected h =>
    refine stepFacts_finish (effect_revokeSessionsAt fun r _ hr => ?_)
    simp only [stillSelected, Bool.and_eq_true, List.contains_iff_mem] at hr
    exact h r.id hr.1
  | _ => exact stepFacts_finish .same

omit [DecidableEq ι] in
theorem current_start (c : Call) : Current crates i s (start now c) := by
  cases c <;> trivial

theorem stepFacts_of_next (hcurrent : Current crates i s t)
    (h : next crates i a s t = some (s', t')) : StepFacts crates i s s' t t' := by
  obtain ⟨-, rfl, now, c, rfl⟩ | h := proceeds_of_next h
  · exact stepFacts_same (current_start c)
  · exact stepFacts_of_proceeds hcurrent h

omit [DecidableEq ι] in
/-- The rows that a transaction has read stay as they are as long as it holds their locks. -/
theorem Current.step {mover : Option ι} (h : Current crates i s t)
    (hlocks : Locks.Keeps mover s.locks s'.locks) (hother : some i ≠ mover)
    (hmoves : Moves (fun row => ∀ j, s.locks row = some j → some j = mover) s.db s'.db) :
    Current crates i s' t := by
  have hholds : ∀ row, Holds i s row → Holds i s' row := fun row hrow => hlocks row i hrow hother
  have htoken : ∀ t ∈ s.db.refreshSessionTokens, Holds i s (.token t.tokenHash) →
      t ∈ s'.db.refreshSessionTokens := by
    intro t ht hheld
    obtain ⟨t', ht', -, rfl | hfree⟩ := hmoves.tokens t ht
    · exact ht'
    · exact absurd (hfree i hheld) hother
  have hsession : ∀ r ∈ s.db.refreshSessions, Holds i s (.session r.id) →
      r ∈ s'.db.refreshSessions := by
    intro r hr hheld
    obtain ⟨r', hr', -, rfl | hfree⟩ := hmoves.sessions r hr
    · exact hr'
    · exact absurd (hfree i hheld) hother
  cases t with
  | checkingContext | revokingInactive =>
    obtain ⟨r, hr, hid⟩ := h
    obtain ⟨r', hr', hfollows, -⟩ := hmoves.sessions r hr
    exact ⟨r', hr', hfollows.id.trans hid⟩
  | lockingSession => exact hholds _ h
  | rotating now refreshToken new token session =>
    obtain ⟨hheld, hheld', hmem, hhash, hmem', hid⟩ := h
    exact ⟨hholds _ hheld, hholds _ hheld', htoken token hmem (by rwa [hhash]), hhash,
      hsession session hmem' hheld', hid⟩
  | revokingToken =>
    obtain ⟨hheld, t, ht, hhash, hid⟩ := h
    exact ⟨hholds _ hheld, t, htoken t ht (by rwa [hhash]), hhash, hid⟩
  | _ => trivial

end Keylo.Refresh
