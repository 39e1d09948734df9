import Keylo.Tokens.Blacklist

/-!
# Exchanging refresh tokens

`auth_refresh` exchanges a token if the rows that it reads allow it: those of a session, or, where
no session answers for the token, the row of a token from before there were sessions. This holds
for every call that is undisturbed: no statement of it fails, the rows do not change meanwhile, and
the identifiers that it draws are new.

## Main definitions

* `Redeemable` : the rows by which a token is exchanged.
* `Undisturbed` : the inputs of the statements of an undisturbed call.

## Main results

* `consume_cases` : the outcomes of the transaction that consumes a token.
* `wpWith_rotateRefreshToken`, `authRefresh_ok_iff` : an undisturbed call exchanges a token exactly
  if it is redeemable.
-/

namespace Keylo.Redemption

open Relational Table Anonymous Program

/-- The owner of a principal gets access tokens: an active user, or an active administrator
client. -/
def ownerIsActive (db : Db) (principalType : PrincipalType) (refId : String) : Bool :=
  match principalType with
  | .user => (db.users.lookup User.id refId).any User.active
  | .client => db.clients.any fun c => c.id == refId && c.active && c.isAdminClient
  | _ => false

/-- The holder of a session is an active principal whose owner gets access tokens. -/
def HolderActive (db : Db) (principalId : String) : Prop :=
  ∃ principal, db.principals.lookup Principal.id principalId = some principal ∧
    principal.active = true ∧ ownerIsActive db principal.principalType principal.refId = true

/-- A stored token, its session and the holder of the session are such that the token can be
exchanged. -/
structure Live (db : Db) (claims : Claims) (row : RefreshSessionToken) (session : RefreshSession) :
    Prop where
  organization : session.organizationId = claims.organizationId
  context : ∀ organizationId ∈ session.organizationId,
    lockActiveOrganizationSessionContext db organizationId session.principalId = true
  unexpired : db.clock < row.expiresAt ∧ db.clock < session.expiresAt
  unused : row.consumedAt = none ∧ row.revokedAt = none ∧ session.revokedAt = none
  holder : HolderActive db session.principalId

/-- The row of a token from before there were sessions, and its client. -/
def LegacyLive (crates : Crates) (db : Db) (token : String) : Prop :=
  ∃ row ∈ db.refreshTokens, row.tokenHash = tokenHash crates token ∧ db.clock < row.expiresAt ∧
    row.revoked = false ∧ ownerIsActive db .client row.clientId = true

/-- The rows by which `auth_refresh` exchanges a token: those of a live session, or, where no
session answers for the token or it has expired, its row from before there were sessions. -/
def Redeemable (crates : Crates) (db : Db) (token : String) (claims : Claims) : Prop :=
  match refreshSessionOfToken crates db token with
  | some (row, session) => Live db claims row session ∨
      session.organizationId = claims.organizationId ∧
      ¬ (db.clock < row.expiresAt ∧ db.clock < session.expiresAt) ∧
      claims.organizationId = none ∧ LegacyLive crates db token
  | none => claims.organizationId = none ∧ LegacyLive crates db token

/-- The identifier is new, and so are the tokens that are signed with it. -/
structure Fresh (state : AppState) (db : Db) (uuid : String) : Prop where
  session : ∀ row ∈ db.refreshSessions, row.id ≠ uuid
  tokenId : ∀ row ∈ db.refreshSessionTokens, row.tokenId ≠ uuid
  tokenHash : ∀ claims token, claims.jti = uuid → state.jwtKeys.signToken claims = .ok token →
    ∀ row ∈ db.refreshSessionTokens, row.tokenHash ≠ tokenHash state.crates token

/-- What the statements of an undisturbed call meet. -/
def Undisturbed (state : AppState) (db : Db) (o : Oracle) : Prop := o.Prompt ∧ Fresh state db o.uuid

variable {state : AppState} {db : Db} {token : String} {claims : Claims} {P : Oracle → Prop}
  {now : Int} {jti : String}

theorem wpWith_sign {Q : Except AuthError String → Db → Prop} {text : String}
    (htext : state.jwtKeys.signToken claims = .ok text) (h : Q (.ok text) db) :
    (sign state claims).run.wpWith P db Q := by
  unfold sign
  rw [htext]
  exact wpWith_pure h

theorem wpWith_isUserAdmin (hP : ∀ o, P o → o.Prompt) {userId : String} {Q : Bool → Db → Prop}
    (h : ∀ isAdmin, Q isAdmin db) : (Handler.isUserAdmin userId).wpWith P db Q :=
  wpWith_bind (wpWith_fetch hP (wpWith_pure (h _)))

/-- Access tokens are for active owners. -/
theorem wpWith_accessClaimsForPrincipal (hP : ∀ o, P o → o.Prompt) (principal : Principal) :
    (accessClaimsForPrincipal state principal now jti).run.wpWith P db fun r db' =>
      db' = db ∧ ((∃ claims, r = .ok claims) ↔
        ownerIsActive db principal.principalType principal.refId = true) := by
  unfold accessClaimsForPrincipal
  cases htype : principal.principalType with
  | user =>
    refine wpWith_bindExcept (wpWith_adapt (wpWith_fetch hP ?_))
    dsimp only [Except.mapError]
    cases huser : db.users.lookup User.id principal.refId with
    | none => exact wpWith_pure ⟨rfl, by simp [ownerIsActive, huser]⟩
    | some user =>
      cases hactive : user.active with
      | false =>
        simp only [Option.filter_some, hactive, Bool.false_eq_true, if_false]
        exact wpWith_pure ⟨rfl, by simp [ownerIsActive, huser, hactive]⟩
      | true =>
        simp only [Option.filter_some, hactive, if_true]
        refine wpWith_bindExcept (wpWith_lift (wpWith_isUserAdmin hP fun isAdmin => ?_))
        exact wpWith_pure ⟨rfl, by simp [ownerIsActive, huser, hactive]⟩
  | client =>
    refine wpWith_bindExcept (wpWith_attempt (wpWith_fetch hP ?_))
    dsimp only
    split
    · rename_i hadmin
      exact wpWith_pure ⟨rfl, by simpa [ownerIsActive] using hadmin⟩
    · rename_i hadmin
      refine wpWith_pure ⟨rfl, ?_⟩
      simpa [ownerIsActive] using hadmin
  | service | device => exact wpWith_pure ⟨rfl, by simp [ownerIsActive]⟩

variable (hsigns : ∀ claims, ∃ text, state.jwtKeys.signToken claims = .ok text)

include hsigns in
theorem wpWith_refreshedBody (hP : ∀ o, P o → o.Prompt)
    {session : ConsumedRefreshSession} {text : String} :
    (refreshedBody state claims session text now jti).run.wpWith P db fun r _ =>
      (∃ body, r = .ok body) ↔ HolderActive db session.principalId := by
  unfold HolderActive
  refine wpWith_bindExcept (wpWith_adapt (wpWith_fetch hP ?_))
  dsimp only [Except.mapError]
  cases hprincipal : db.principals.lookup Principal.id session.principalId with
  | none => exact wpWith_pure (by simp)
  | some principal =>
    cases hactive : principal.active with
    | false =>
      simp only [Option.filter_some, hactive, Bool.false_eq_true, if_false]
      exact wpWith_pure (by simp [hactive])
    | true =>
      simp only [Option.filter_some, hactive, if_true]
      refine wpWith_bindExcept (wpWith_mono (wpWith_accessClaimsForPrincipal hP principal) ?_)
      rintro r _ ⟨rfl, hr⟩
      cases r with
      | error e => simpa [hactive] using hr
      | ok accessClaims =>
        obtain ⟨accessToken, hsign⟩ := hsigns
          { accessClaims with organizationId := claims.organizationId }
        refine wpWith_bindExcept (wpWith_sign hsign (wpWith_pure ?_))
        simpa [hactive] using hr

theorem wpWith_ensureClientPrincipal (hP : ∀ o, P o → o.Prompt) {clientId : String}
    {Q : Except String (Option Principal) → Db → Prop}
    (hnone : readOwner db .client clientId = none → Q (.ok none) db)
    (hsome : ∀ name active, readOwner db .client clientId = some (name, active) →
      Q (.ok (some ⟨.client, clientId, name, active⟩))
        (upsertPrincipal db .client clientId name active)) :
    (Handler.ensureClientPrincipal clientId).run.wpWith P db Q := by
  refine wpWith_bindExcept (wpWith_fetch hP ?_)
  dsimp only
  cases howner : readOwner db .client clientId with
  | none => exact wpWith_pure (hnone howner)
  | some owner =>
    exact wpWith_bindExcept (wpWith_atomically hP fun _ _ => wpWith_pure (hsome _ _ howner))

/-- The live row of a token is the one that the statement finds. -/
theorem legacyLive_iff : LegacyLive state.crates db token ↔
    ∃ row, db.refreshTokens.find? (isUnused state.crates db token) = some row ∧
      ownerIsActive db .client row.clientId = true := by
  constructor
  · rintro ⟨row, hrow, hhash, hexpires, hrevoked, howner⟩
    cases hfind : db.refreshTokens.find? (isUnused state.crates db token) with
    | none =>
      simpa [isUnused, hhash, hexpires, hrevoked] using List.find?_eq_none.1 hfind row hrow
    | some found =>
      have hfound := List.find?_some hfind
      simp only [isUnused, Bool.and_eq_true, beq_iff_eq, decide_eq_true_eq] at hfound
      have heq : found = row :=
        eq_of_key (List.mem_of_find?_eq_some hfind) hrow (hfound.1.1.trans hhash.symm)
      exact ⟨found, rfl, heq ▸ howner⟩
  · rintro ⟨row, hfind, howner⟩
    have hfound := List.find?_some hfind
    simp only [isUnused, Bool.and_eq_true, beq_iff_eq, decide_eq_true_eq,
      Bool.not_eq_true'] at hfound
    exact ⟨row, List.mem_of_find?_eq_some hfind, hfound.1.1, hfound.1.2, hfound.2, howner⟩

theorem exists_insert_token {tokens : Table RefreshSessionToken} {row : RefreshSessionToken}
    (hid : ∀ other ∈ tokens, other.tokenId ≠ row.tokenId)
    (hhash : ∀ other ∈ tokens, other.tokenHash ≠ row.tokenHash) :
    ∃ tokens', tokens.insert row = some tokens' :=
  exists_insert_iff.2 fun other hother => by
    simpa [clash] using ⟨(hid other hother).symm, (hhash other hother).symm⟩

theorem wpWith_createRefreshSession (hP : ∀ o, P o → o.Prompt) {params : CreateRefreshSessionParams}
    {Q : Except String Unit → Db → Prop} (hsession : Fresh state db params.sessionId)
    (htoken : Fresh state db params.refreshTokenId) (hjti : claims.jti = params.refreshTokenId)
    (hsign : state.jwtKeys.signToken claims = .ok params.refreshToken)
    (horganization : params.organizationId = none) (h : ∀ db', Q (.ok ()) db') :
    (atomically fun _ db => createRefreshSession state.crates db params).run.wpWith P db Q := by
  refine wpWith_atomically hP fun _ _ => ?_
  rw [createRefreshSession, if_neg (by simp [horganization])]
  obtain ⟨sessions, hsessions⟩ : ∃ sessions, db.refreshSessions.insert params.session =
      some sessions :=
    exists_insert_iff.2 fun row hrow => by simpa [clash] using (hsession.session row hrow).symm
  obtain ⟨tokens, htokens⟩ : ∃ tokens, db.refreshSessionTokens.insert (params.token state.crates) =
      some tokens :=
    exists_insert_token htoken.tokenId (htoken.tokenHash claims _ hjti hsign)
  simp only [hsessions, htokens]
  exact h _

include hsigns in
/-- A token from before there were sessions is exchanged if it is live. -/
theorem wpWith_migrateRefreshToken {accessJti refreshJti : String}
    (hfresh : Fresh state db refreshJti) :
    (migrateRefreshToken state token now accessJti refreshJti).run.wpWith (Undisturbed state db) db
      fun r _ => (∃ body, r = .ok body) ↔ LegacyLive state.crates db token := by
  have hP : ∀ o, Undisturbed state db o → o.Prompt := fun o ho => ho.1
  simp only [legacyLive_iff]
  refine wpWith_bindExcept (wpWith_attempt (wpWith_atomically hP fun o ho => ?_))
  dsimp only [consumeRefreshToken]
  cases hrow : db.refreshTokens.find? (isUnused state.crates db token) with
  | none => exact wpWith_pure (by simp)
  | some row =>
    dsimp only [Option.map]
    refine wpWith_bindExcept (wpWith_bindExcept (wpWith_adapt (wpWith_ensureClientPrincipal hP
      (fun hnone => ?_) fun name active hsome => ?_)))
    · refine wpWith_pure ?_
      have hlookup : db.clients.lookup Client.id row.clientId = none := by
        simpa [readOwner] using hnone
      have hmissing : ownerIsActive db .client row.clientId = false := by
        simp only [ownerIsActive, any_eq_false]
        intro c hc
        have hne : (c.id == row.clientId) = false := by
          simpa using List.find?_eq_none.1 hlookup c hc
        simp [hne]
      simp [hmissing]
    · dsimp only [Except.mapError]
      refine wpWith_bindExcept (wpWith_mono (wpWith_accessClaimsForPrincipal hP _) ?_)
      rintro r _ ⟨rfl, hr⟩
      -- consuming the row and refreshing the principal leave the clients alone
      replace hr : (∃ claims, r = .ok claims) ↔ ownerIsActive db .client row.clientId = true := hr
      cases r with
      | error e => simpa using hr
      | ok accessClaims =>
        obtain ⟨accessToken, haccess⟩ := hsigns accessClaims
        refine wpWith_bindExcept (wpWith_sign haccess ?_)
        obtain ⟨refreshToken, hrefresh⟩ := hsigns _
        refine wpWith_bindExcept (wpWith_sign hrefresh ?_)
        refine wpWith_bindExcept (wpWith_lift (wpWith_draw hP fun o ho => wpWith_pure ?_))
        refine wpWith_bindExcept (wpWith_adapt (wpWith_createRefreshSession hP
          ⟨ho.2.session, ho.2.tokenId, ho.2.tokenHash⟩
          ⟨hfresh.session, hfresh.tokenId, hfresh.tokenHash⟩ rfl hrefresh rfl fun db' => ?_))
        exact wpWith_pure (by simpa using hr)

/-- The organization of a token that is reported active is checked again. -/
theorem wpWith_checkRefreshOrganization (hP : ∀ o, P o → o.Prompt)
    (horganization : organizationClaimIsActive db claims = true) :
    (checkRefreshOrganization state token claims).run.wpWith P db fun r db' =>
      r = .ok () ∧ db' = db := by
  unfold checkRefreshOrganization
  cases horg : claims.organizationId with
  | none => exact wpWith_pure ⟨rfl, rfl⟩
  | some organizationId =>
    simp only [organizationClaimIsActive, horg, Bool.and_eq_true, beq_iff_eq] at horganization
    obtain ⟨htype, hmember⟩ := horganization
    dsimp only
    rw [if_neg (by simp [htype])]
    cases hprincipal : claims.principalId with
    | none => simp [hprincipal] at hmember
    | some principalId =>
      rw [hprincipal, Option.any_some, Option.isSome_iff_exists] at hmember
      obtain ⟨membership, hmember⟩ := hmember
      refine wpWith_bindExcept (wpWith_adapt (wpWith_fetch hP ?_))
      dsimp only [Except.mapError]
      rw [hmember]
      exact wpWith_pure ⟨rfl, rfl⟩

/-- What is left to decide whether the token is redeemable, after its row has been consumed. -/
def Decides (crates : Crates) (db : Db) (token : String) (claims : Claims) (redeemable : Prop)
    (db' : Db) : ConsumeRefreshSessionResult → Prop
  | .consumed session => redeemable ↔ HolderActive db' session.principalId
  | .notFound =>
    db' = db ∧ (redeemable ↔ claims.organizationId = none ∧ LegacyLive crates db token)
  | _ => ¬ redeemable

section Consume

variable {new : Replacement} (hfresh : Fresh state db new.refreshTokenId) {newClaims : Claims}
  (hjti : newClaims.jti = new.refreshTokenId)
  (hsign : state.jwtKeys.signToken newClaims = .ok new.refreshToken)

include hfresh hjti hsign

/-- The token and its session are those of the organization, and its context is active. -/
theorem consumeLocked_cases {row : RefreshSessionToken} {session : RefreshSession}
    (hscope : session.organizationId = claims.organizationId)
    (hcontext : ∀ organizationId ∈ session.organizationId,
      lockActiveOrganizationSessionContext db organizationId session.principalId = true) :
    ∃ result db', consumeLocked state.crates db db.clock token row session new =
        .ok (result, db') ∧
      Decides state.crates db token claims (Live db claims row session ∨
        session.organizationId = claims.organizationId ∧
        ¬ (db.clock < row.expiresAt ∧ db.clock < session.expiresAt) ∧
        claims.organizationId = none ∧ LegacyLive state.crates db token) db' result := by
  unfold consumeLocked
  split
  · rename_i hexpired
    have hexpired : ¬ (db.clock < row.expiresAt ∧ db.clock < session.expiresAt) := by
      simpa [imp_iff_not_or] using hexpired
    exact ⟨_, _, rfl, rfl, fun h => (h.resolve_left fun hlive => hexpired hlive.unexpired).2.2,
      fun h => .inr ⟨hscope, hexpired, h⟩⟩
  rename_i hunexpired
  have hunexpired : db.clock < row.expiresAt ∧ db.clock < session.expiresAt := by
    simpa using hunexpired
  simp only [not_true_eq_false, hunexpired, and_false, false_and, and_self, or_false]
  split
  · rename_i hused
    refine ⟨_, _, rfl, fun hlive => ?_⟩
    simp [hlive.unused] at hused
  rename_i hunused
  obtain ⟨tokens, htokens⟩ : ∃ tokens, (db.refreshSessionTokens.update
      (fun t => t.tokenHash == tokenHash state.crates token)
        (consumeSessionToken db.clock)).insert (new.token state.crates session) = some tokens :=
    exists_insert_update.2 (exists_insert_token hfresh.tokenId
      (hfresh.tokenHash newClaims _ hjti hsign))
  rw [rotate, htokens]
  exact ⟨_, _, rfl, fun hlive => hlive.holder,
    fun hholder => ⟨hscope, hcontext, hunexpired, by simpa [and_assoc] using hunused, hholder⟩⟩

theorem consume_cases (token : String) (claims : Claims) :
    ∃ result db', consumeAndRotateRefreshSession state.crates db token claims.organizationId new =
        .ok (result, db') ∧
      Decides state.crates db token claims (Redeemable state.crates db token claims) db'
        result := by
  unfold consumeAndRotateRefreshSession Redeemable
  cases refreshSessionOfToken state.crates db token with
  | none => exact ⟨_, _, rfl, rfl, Iff.rfl⟩
  | some found =>
    obtain ⟨row, session⟩ := found
    dsimp only
    split
    · rename_i hscope
      refine ⟨_, _, rfl, ?_⟩
      rintro (hlive | ⟨hsame, -⟩)
      · exact hscope hlive.organization
      · exact hscope hsame
    rename_i hscope
    split
    · rename_i hcontext
      refine ⟨_, _, rfl, ?_⟩
      obtain ⟨organizationId, horganization, hinactive⟩ := (Option.any_eq_true _ _).1 hcontext
      rintro (hlive | ⟨hsame, -, hnone, -⟩)
      · rw [hlive.context organizationId horganization] at hinactive
        cases hinactive
      · cases (hsame.trans hnone).symm.trans horganization
    rename_i hcontext
    exact consumeLocked_cases hfresh hjti hsign (not_not.1 hscope)
      (by simpa [Option.any_eq_false] using hcontext)

end Consume

include hsigns in
/-- An undisturbed call exchanges a token if it is redeemable. -/
theorem wpWith_rotateRefreshToken :
    (rotateRefreshToken state token claims).run.wpWith (Undisturbed state db) db fun r _ =>
      (∃ body, r = .ok body) ↔ Redeemable state.crates db token claims := by
  have hP : ∀ o, Undisturbed state db o → o.Prompt := fun o ho => ho.1
  refine wpWith_bindExcept (wpWith_lift (wpWith_now hP ?_))
  refine wpWith_bindExcept (wpWith_lift (wpWith_draw hP fun access _ => ?_))
  refine wpWith_bindExcept (wpWith_lift (wpWith_draw hP fun o ho => ?_))
  obtain ⟨text, htext⟩ := hsigns _
  refine wpWith_bindExcept (wpWith_sign htext ?_)
  refine wpWith_bindExcept (wpWith_adapt (wpWith_atomically hP fun _ _ => ?_))
  obtain ⟨result, db', hconsume, hresult⟩ :=
    @consume_cases _ _ ⟨o.uuid, text, access.uuid⟩ ho.2 _ rfl htext token claims
  rw [hconsume]
  cases result with
  | consumed session =>
    refine wpWith_mono (wpWith_refreshedBody hsigns hP) fun r _ hr => ?_
    exact hr.trans hresult.symm
  | replayed | organizationScopeMismatch | organizationContextInactive =>
    exact wpWith_pure (by simpa [Decides] using hresult)
  | notFound =>
    obtain ⟨rfl, hresult⟩ := hresult
    rw [hresult]
    dsimp only [Except.mapError]
    split
    · rename_i horganization
      exact wpWith_pure (by simp [Option.isSome_iff_ne_none.1 horganization])
    · rename_i horganization
      rw [Bool.not_eq_true, Option.isSome_eq_false_iff, Option.isNone_iff_eq_none] at horganization
      simpa [horganization] using wpWith_migrateRefreshToken hsigns ho.2

include hsigns in
/-- An undisturbed call of the handler, for a token whose organization is active. -/
theorem authRefresh_ok_iff (hdecode : state.jwtKeys.decodeToken token = .ok claims)
    (htype : claims.tokenType = .refresh)
    (horganization : organizationClaimIsActive db claims = true) {inputs : ℕ → Oracle}
    (hinputs : ∀ n, Undisturbed state db (inputs n)) :
    (∃ body, ((authRefresh state token).run.run inputs db).1 = .ok body) ↔
      Redeemable state.crates db token claims := by
  suffices h : (authRefresh state token).run.wpWith (Undisturbed state db) db fun r _ =>
      (∃ body, r = .ok body) ↔ Redeemable state.crates db token claims from h inputs hinputs
  simp only [authRefresh, hdecode, htype, ne_eq, not_true_eq_false, if_false]
  refine wpWith_bindExcept (wpWith_mono
    (wpWith_checkRefreshOrganization (fun o ho => ho.1) horganization) ?_)
  rintro _ _ ⟨rfl, rfl⟩
  exact wpWith_rotateRefreshToken hsigns

end Keylo.Redemption
