import Keylo.Upstream.Callback

/-!
# What the requests about upstream identities write

The parts of the requests keep the sources, open no session, and write only the mappings that they
are meant to write. Every step of a request has one of a few effects on the store.

## Main definitions

* `Writes` : what a statement may do to sources, sessions, users and mappings.
* `Phase.Sound` : what a request that has come to a phase has established.
* `Effect` : the effects of a step.

## Main results

* `Effect.sessions`, `Effect.sources`, `Effect.users`, `Effect.mappings` : what a step can do to
  sessions, sources, users and mappings.
* `good_of_next` : every step of a request in a sound phase has one of the effects, and leads to a
  sound phase.
-/

namespace Keylo.Callback

open Relational Transition Handler Anonymous Upstream Import Table
open Logins (statement runPart)
open Program (guarantees_pure Ensures ensures_return ensures_throw)

/-! ### Statements -/

/-- The user exists. -/
def HasUser (db : Db) (id : String) : Prop := ∃ u ∈ db.users, u.id = id

/-- Sources are unchanged, no session is opened, a user that is deleted has no sessions left, and
every mapping is an old one or `new`. -/
structure Writes (new : Db → ExternalUserMapping → Prop) (db db' : Db) : Prop where
  sources : db'.identitySources = db.identitySources
  sessions : ∀ s ∈ db'.refreshSessions, s.revokedAt = none → s ∈ db.refreshSessions
  users : ∀ id, HasUser db id → HasUser db' id ∨
    ∀ s ∈ db'.refreshSessions, s.principalId ≠ principalId .user id
  mappings : ∀ m ∈ db'.externalUserMappings, m ∈ db.externalUserMappings ∨ new db m

/-- The mapping is one of the provider. -/
def Imported (provider : Option String) (_ : Db) (m : ExternalUserMapping) : Prop :=
  provider = some m.provider

/-- The mapping is one of the subject of the profile, which has had none. -/
def Links (crates : Crates) (source : IdentitySource) (profile : OidcUpstreamProfile) (db : Db)
    (m : ExternalUserMapping) : Prop :=
  m.subject = (oidcMappingProvider source, externalSubjectHash crates profile.externalSubject) ∧
    ∀ m' ∈ db.externalUserMappings, m'.subject ≠ m.subject

/-- No mapping is new. -/
def Nothing (_ : Db) (_ : ExternalUserMapping) : Prop := False

section Writes

variable {new : Db → ExternalUserMapping → Prop} {crates : Crates} {db db' : Db}
  {userId salt : String}

theorem Writes.of_users (hsources : db'.identitySources = db.identitySources)
    (hsessions : db'.refreshSessions = db.refreshSessions)
    (husers : ∀ id, HasUser db id → HasUser db' id)
    (hmappings : db'.externalUserMappings = db.externalUserMappings) : Writes new db db' where
  sources := hsources
  sessions _ hs _ := hsessions ▸ hs
  users id h := .inl (husers id h)
  mappings _ hm := .inl (hmappings ▸ hm)

theorem Writes.of_eq (hsources : db'.identitySources = db.identitySources)
    (hsessions : db'.refreshSessions = db.refreshSessions) (husers : db'.users = db.users)
    (hmappings : db'.externalUserMappings = db.externalUserMappings) : Writes new db db' :=
  .of_users hsources hsessions (fun _ h => by rwa [HasUser, husers]) hmappings

theorem Writes.of_nothing (h : Writes Nothing db db') : Writes new db db' where
  sources := h.sources
  sessions := h.sessions
  users := h.users
  mappings m hm := .inl ((h.mappings m hm).resolve_right id)

instance : Mirrors (Writes new) where
  tick _ _ := .of_eq rfl rfl rfl rfl
  mirror _ _ _ _ _ _ := .of_eq rfl rfl rfl rfl

variable {n : ℕ}

theorem Writes.of_tick (h : Writes Nothing (db.tick n) db') : Writes new db db' :=
  .of_nothing ⟨h.sources, h.sessions, h.users, h.mappings⟩

/-- A revocation opens no session. -/
theorem writes_revoke {p : RefreshSession → Bool} {now : Time} {reason : Option String}
    (hsources : db'.identitySources = db.identitySources)
    (hsessions : db'.refreshSessions = db.refreshSessions.update p (revokeSession now reason))
    (husers : ∀ id, HasUser db id → HasUser db' id)
    (hmappings : db'.externalUserMappings = db.externalUserMappings) : Writes new db db' where
  sources := hsources
  sessions s hs hrevoked := by
    rw [hsessions] at hs
    exact (Logins.eq_of_not_revoked hs hrevoked).1
  users id h := .inl (husers id h)
  mappings _ hm := .inl (hmappings ▸ hm)

theorem writes_insertUser {id : String} {newUser : NewUser} {user : User}
    (h : insertUser crates db salt id newUser = .ok (user, db')) : Writes new db db' := by
  obtain ⟨-, -, -, -, users, hinsert, rfl⟩ := insertUser_eq_ok h
  refine .of_users rfl rfl ?_ rfl
  rintro _ ⟨u, hu, rfl⟩
  exact ⟨u, (mem_of_insert_eq_some hinsert).2 (.inr hu), rfl⟩

theorem HasUser.of_update {users : Table User} {p : User → Bool} {f : User → User}
    (h : HasUser db userId) (husers : db'.users = users)
    (hmem : ∀ {u'}, u' ∈ users ↔ ∃ u ∈ db.users, (if p u = true then f u else u) = u')
    (hid : ∀ u, (f u).id = u.id) : HasUser db' userId := by
  obtain ⟨u, hu, rfl⟩ := h
  refine ⟨if p u = true then f u else u, husers ▸ hmem.2 ⟨u, hu, rfl⟩, ?_⟩
  split_ifs
  · exact hid u
  · rfl

theorem writes_updateUserRow {changes : UserChanges} {user : Option User}
    (h : updateUserRow crates db salt userId changes = .ok (user, db')) : Writes new db db' := by
  unfold updateUserRow at h
  split at h
  · cases h
  split at h
  · cases h
    exact .of_eq rfl rfl rfl rfl
  split at h
  · cases h
  rename_i users hupdate
  cases h
  -- The row is updated first, then tokens and sessions are revoked.
  have husers {db' : Db} (hdb' : db'.users = users) (id : String) (h : HasUser db id) :
      HasUser db' id :=
    h.of_update hdb' (mem_of_tryUpdate_eq_some hupdate) fun _ => rfl
  split_ifs <;> first
    | exact writes_revoke rfl rfl (husers rfl) rfl
    | exact .of_users rfl rfl (husers rfl) rfl

theorem writes_setUserActive (active : Bool) : Writes new db (setUserActive db userId active) := by
  unfold setUserActive
  split
  · exact .of_eq rfl rfl rfl rfl
  have husers {db' : Db} (hdb' : db'.users =
      db.users.update (fun u => u.id == userId) (setActive active)) (id : String)
      (h : HasUser db id) : HasUser db' id :=
    h.of_update hdb' mem_update fun _ => rfl
  dsimp only
  split_ifs
  · exact .of_users rfl rfl (husers rfl) rfl
  · exact writes_revoke rfl rfl (husers rfl) rfl

theorem writes_markUserEmailVerified : Writes new db (markUserEmailVerified db userId) :=
  .of_users rfl rfl (fun _ h => h.of_update rfl mem_update fun _ => rfl) rfl

theorem writes_foldl_insertRole (roleIds : List String) :
    Writes Nothing db (roleIds.foldl (fun db roleId => insertRole db userId roleId) db) := by
  induction roleIds generalizing db with
  | nil => exact .of_eq rfl rfl rfl rfl
  | cons roleId roleIds ih =>
    obtain ⟨hsources, hsessions, husers, hmappings⟩ := @ih (insertRole db userId roleId)
    exact ⟨hsources, hsessions, husers, hmappings⟩

theorem writes_assignRolesToUser {roleIds : List String}
    (h : assignRolesToUser db userId roleIds = .ok db') : Writes new db db' := by
  obtain ⟨_, -, -, -, rfl⟩ := assignRolesToUser_eq_ok h
  exact .of_nothing (writes_foldl_insertRole roleIds)

theorem writes_upsertOrganizationMembership {organizationId principalId status : String}
    {managementRole : Option String} {membership : Membership}
    (h : upsertOrganizationMembership db organizationId principalId status managementRole =
      .ok (membership, db')) : Writes new db db' := by
  obtain ⟨_, _, _, -, -, -, rfl⟩ := upsertOrganizationMembership_eq_ok h
  split_ifs <;> first | exact .of_eq rfl rfl rfl rfl | exact writes_revoke rfl rfl (fun _ => id) rfl

theorem writes_deleteUser : Writes new db (deleteUser db userId) := by
  unfold deleteUser
  split
  · exact .of_eq rfl rfl rfl rfl
  dsimp only
  split_ifs
  · exact .of_eq rfl rfl rfl rfl
  refine ⟨rfl, fun _ hs _ => (mem_delete.1 hs).1, fun id => ?_,
    fun _ hm => .inl (mem_delete.1 hm).1⟩
  rintro ⟨u, hu, rfl⟩
  by_cases hid : u.id = userId
  · right
    rintro s hs
    simpa [hid] using (mem_delete.1 hs).2
  · exact .inl ⟨u, mem_delete.2 ⟨hu, by simpa using hid⟩, rfl⟩

theorem writes_insertMapping {source : IdentitySource} {profile : OidcUpstreamProfile}
    (h : insertMapping crates (db.tick n) (oidcMappingProvider source) profile.externalSubject
      userId = .ok db') : Writes (Links crates source profile) db db' := by
  unfold insertMapping at h
  split_ifs at h
  split at h
  · cases h
  rename_i hcreate
  cases h
  obtain ⟨mappings, hinsert, rfl⟩ := Option.map_eq_some_iff.1 hcreate
  refine ⟨rfl, fun _ hs _ => hs, fun _ => .inl, fun m hm => ?_⟩
  obtain rfl | hm := (mem_of_insert_eq_some hinsert).1 hm
  · exact .inr ⟨rfl, fun m' hm' => key_ne_of_insert hinsert hm'⟩
  · exact .inl hm

theorem writes_upsertExternalUserMapping {provider externalUserId : String} :
    Writes (Imported (some provider)) db
      (upsertExternalUserMapping crates (db.tick n) provider externalUserId userId) := by
  refine ⟨rfl, fun _ hs _ => hs, fun _ => .inl, fun m hm => ?_⟩
  obtain rfl | ⟨hm, -⟩ := mem_upsertExternalUserMapping.1 hm
  · exact .inr rfl
  · exact .inl hm

end Writes

/-! ### Parts of requests -/

section Parts

variable {new : Db → ExternalUserMapping → Prop} {crates : Crates} {source : IdentitySource}
  {profile : OidcUpstreamProfile} {provider : String}

theorem guarantees_updateUser (userId : String) (changes : UserChanges) :
    (updateUser crates userId changes).run.Guarantees (Writes new) := by
  refine .bindExcept (guarantees_atomically fun _ _ _ _ _ h =>
    (writes_updateUserRow h).of_tick) fun user => ?_
  cases user with
  | none => exact guarantees_pure _
  | some user =>
    exact .bindExcept (guarantees_ensurePrincipal .user user.id) fun _ => guarantees_pure _

theorem guarantees_createUser (newUser : NewUser) :
    (createUser crates newUser).run.Guarantees (Writes new) :=
  .bindExcept (guarantees_atomically fun _ _ _ _ _ h => (writes_insertUser h).of_tick)
    fun user => .bindExcept (guarantees_ensurePrincipal .user user.id) fun _ => guarantees_pure _

theorem guarantees_setActive (userId : String) (active : Bool) :
    (Handler.setUserActive userId active).run.Guarantees (Writes new) := by
  refine guarantees_atomically ?_
  rintro _ _ _ _ _ ⟨⟩
  exact (writes_setUserActive active).of_tick

theorem guarantees_assignRole (userId roleId : String) :
    (assignRoleToUser userId roleId).run.Guarantees (Writes new) := by
  refine .bindExcept (guarantees_ensurePrincipal .user userId) fun principal => ?_
  cases principal with
  | none => exact guarantees_pure _
  | some =>
    dsimp only
    split
    · exact guarantees_pure _
    refine guarantees_atomically fun _ _ _ _ _ h => ?_
    split at h
    · cases h
    rename_i hassign
    cases h
    exact (writes_assignRolesToUser hassign).of_tick

theorem guarantees_linkUser (item : ThirdPartyUserImportItem) (user : User) :
    (linkUser crates item user).run.Guarantees (Writes new) :=
  .bindExcept (.attempt (guarantees_updateUser _ _)) fun _ => guarantees_pure _

theorem guarantees_createImportedUser (item : ThirdPartyUserImportItem) (message : String) :
    (createImportedUser crates item message).run.Guarantees (Writes new) := by
  refine .bindExcept (.adapt (guarantees_createUser _)) fun user => ?_
  split
  · exact .bindExcept (.attempt (guarantees_setActive _ _)) fun _ => guarantees_pure _
  · exact guarantees_pure _

theorem guarantees_resolveUser (item : ThirdPartyUserImportItem) :
    (resolveUser crates provider item).run.Guarantees (Writes new) := by
  refine .bindExcept (.adapt guarantees_fetch) fun mapped => ?_
  cases mapped with
  | some =>
    refine .bindExcept (.adapt guarantees_fetch) fun user => ?_
    cases user with
    | none => exact guarantees_createImportedUser _ _
    | some =>
      refine .bindExcept (.adapt (guarantees_updateUser _ _)) fun updated => ?_
      cases updated <;> exact guarantees_pure _
  | none =>
    refine .bindExcept (.adapt guarantees_fetch) fun user => ?_
    cases user with
    | some => exact guarantees_linkUser _ _
    | none =>
      refine .bindExcept (.adapt guarantees_fetch) fun user => ?_
      cases user with
      | some => exact guarantees_linkUser _ _
      | none => exact guarantees_createImportedUser _ _

theorem guarantees_assignRoles (externalUserId userId : String) (roleNames : List String) :
    (assignRoles externalUserId userId roleNames).run.Guarantees (Writes new) := by
  induction roleNames with
  | nil => exact guarantees_pure _
  | cons roleName roleNames ih =>
    refine .bindExcept (.adapt guarantees_fetch) fun role => ?_
    cases role with
    | none => exact guarantees_pure _
    | some => exact .bindExcept (.adapt (guarantees_assignRole _ _)) fun _ => ih

theorem guarantees_bindUser (item : ThirdPartyUserImportItem) (resolved : Resolved) :
    (bindUser crates provider item resolved).run.Guarantees
      (Writes (Imported (some provider))) := by
  refine .bindExcept (.adapt (guarantees_atomically ?_)) fun _ =>
    .bindExcept (guarantees_assignRoles _ _ _) fun _ => guarantees_pure _
  intro _ _ _ _ _ h
  split_ifs at h
  cases h
  exact writes_upsertExternalUserMapping

/-- An import writes mappings of its provider only. -/
theorem guarantees_importItem (dryRun : Bool) (item : ThirdPartyUserImportItem) :
    (importItem crates provider dryRun item).Guarantees (Writes (Imported (some provider))) := by
  unfold importItem
  split
  · exact guarantees_pure _
  split_ifs
  · exact guarantees_pure _
  refine .bind (guarantees_resolveUser _) fun resolved => ?_
  cases resolved with
  | error => exact guarantees_pure _
  | ok =>
    refine .bind (guarantees_bindUser _ _) fun result => ?_
    cases result <;> exact guarantees_pure _

theorem guarantees_importItems (dryRun : Bool) (items : List ThirdPartyUserImportItem) :
    (importItems crates provider dryRun items).Guarantees (Writes (Imported (some provider))) := by
  induction items with
  | nil => exact guarantees_pure _
  | cons item items ih =>
    exact .bind (guarantees_importItem dryRun item) fun _ => .bind ih fun _ => guarantees_pure _

theorem guarantees_runThirdPartyImport (users : List ThirdPartyUserImportItem) (dryRun : Bool) :
    (runThirdPartyImport crates provider users dryRun).Guarantees
      (Writes (Imported (some provider))) := by
  unfold runThirdPartyImport
  split
  · exact guarantees_pure _
  · exact .bind (guarantees_importItems dryRun users) fun _ => guarantees_pure _

theorem guarantees_importThirdPartyUsers (request : ThirdPartyUserImportRequest) :
    (importThirdPartyUsers crates request).run.Guarantees
      (Writes (Imported (Call.importProvider crates (.importThirdPartyUsers request)))) := by
  unfold importThirdPartyUsers
  split
  · exact guarantees_pure _
  split
  · exact guarantees_pure _
  rename_i provider hprovider
  rw [Call.importProvider, hprovider]
  exact .liftExcept (guarantees_runThirdPartyImport _ _)

theorem guarantees_jitRegisterUser (keys : JwtKeys) (expirySeconds : Int)
    (request : ThirdPartyJitRegisterRequest) :
    (jitRegisterUser crates keys expirySeconds request).run.Guarantees
      (Writes (Imported (Call.importProvider crates (.jitRegisterUser request)))) := by
  unfold jitRegisterUser
  split
  · exact guarantees_pure _
  rename_i provider hprovider
  rw [Call.importProvider, hprovider]
  refine .bindExcept (.liftExcept (guarantees_runThirdPartyImport _ _)) fun output => ?_
  split
  · exact guarantees_pure _
  split
  · exact guarantees_pure _
  · exact guarantees_mintMigratedToken _ _ _ _

theorem guarantees_resolveOidcUpstreamUser :
    (resolveOidcUpstreamUser crates source profile).run.Guarantees
      (Writes (Links crates source profile)) := by
  have hlink (db : Db) (n : ℕ) (userId : String) (db' : Db)
      (h : insertMapping crates (db.tick n) (oidcMappingProvider source) profile.externalSubject
        userId = .ok db') : Writes (Links crates source profile) db db' := writes_insertMapping h
  refine .bindExcept (guarantees_findOidcUpstreamUser hlink) fun resolution => ?_
  cases resolution with
  | existing =>
    refine .bindExcept ?_ fun _ => guarantees_pure _
    unfold applyUpstreamEmailVerification
    split
    · exact guarantees_pure _
    refine .adapt (guarantees_atomically ?_)
    rintro _ _ _ _ _ ⟨⟩
    exact writes_markUserEmailVerified.of_tick
  | jit =>
    refine .bindExcept (.adapt (guarantees_atomically fun _ _ _ _ _ h =>
      (writes_insertUser h).of_tick)) fun user => ?_
    exact guarantees_bindJitUser hlink
      (fun _ _ _ _ _ _ h => (writes_upsertOrganizationMembership h).of_tick)
      (fun _ _ _ => writes_deleteUser.of_tick) user

end Parts

/-! ### Logins -/

section Logins

variable {server : Server} {source : IdentitySource} {user : User}

/-- The claims are those of an ID Token that was valid for the source, completed by UserInfo. -/
def Validated (server : Server) (source : IdentitySource) (claims : OidcUpstreamIdTokenClaims) :
    Prop :=
  ∃ config token nonceHash now, server.parseConfig source.config = .ok config ∧
    validateOidcUpstreamIdTokenClaims server token config.issuer config.clientId nonceHash now =
      .ok () ∧
    (claims = token ∨ ∃ userinfo, mergeOidcUpstreamUserinfo token userinfo = .ok claims)

theorem guarantees_consumeState (stateValue : String) :
    (consumeState server stateValue).run.Guarantees (Writes Nothing) := by
  refine .bindExcept (.adapt (guarantees_atomically ?_)) fun transaction => ?_
  · rintro _ _ _ _ _ ⟨⟩
    exact .of_eq rfl rfl rfl rfl
  · cases transaction <;> exact guarantees_pure _

theorem ensures_validatedClaims {config : OidcUpstreamConfig}
    (hconfig : server.parseConfig source.config = .ok config) (nonceHash : String)
    (exchange : Exchange) :
    Ensures (Writes Nothing) (Validated server source)
      (validatedClaims server config nonceHash exchange) := by
  unfold validatedClaims
  split
  · exact ensures_throw
  rename_i token _
  refine .of_guarantees (.liftExcept guarantees_now) fun time => ?_
  split
  · exact ensures_throw
  rename_i hvalid
  split
  · exact ensures_return ⟨config, token, nonceHash, _, hconfig, hvalid, .inl rfl⟩
  · exact ensures_throw
  rename_i userinfo _
  split
  · exact ensures_throw
  rename_i hmerge
  exact ensures_return
    ⟨config, token, nonceHash, _, hconfig, hvalid, .inr ⟨userinfo, hmerge⟩⟩

theorem ensures_identifyUser (query : CallbackQuery) (exchange : Exchange) :
    Ensures (Writes Nothing) (fun result => Validated server result.1 result.2)
      (identifyUser server query exchange) := by
  unfold identifyUser
  split
  · exact ensures_throw
  split_ifs
  · exact .of_guarantees (guarantees_consumeState _) fun _ => ensures_throw
  · exact ensures_throw
  refine .of_guarantees (guarantees_consumeState _) fun transaction =>
    .of_guarantees (.bindExcept (.adapt guarantees_fetch) fun found => ?_) fun source => ?_
  · split <;> exact guarantees_pure _
  split
  · exact ensures_throw
  rename_i config hconfig
  exact .bind (ensures_validatedClaims hconfig _ _) fun claims hclaims => ensures_return hclaims

theorem id_of_owner {principal : Principal} {t : PrincipalType} {refId : String}
    (h : principal.owner = (t, refId)) : principal.id = principalId t refId := by
  obtain ⟨htype, hrefId⟩ := Prod.mk.inj h
  rw [Principal.id, htype, hrefId]

/-- The session is one of the user, opened through the source. -/
def IssuedThrough (source : IdentitySource) (user : User) (issued : Logins.Issued) : Prop :=
  ∀ params ∈ issued.session,
    params.clientId = oidcMappingProvider source ∧ params.principalId = principalId .user user.id

/-- What is left of a login only signs tokens for the user. -/
structure LoginThrough (source : IdentitySource) (user : User) (login : Logins.Login) : Prop where
  guarantees : login.issue.Guarantees (Writes Nothing)
  issued : login.issue.Results fun r => ∀ issued, r = .ok issued → IssuedThrough source user issued

theorem ensures_loginThrough (organizationId : Option String) :
    Ensures (Writes Nothing) (LoginThrough source user)
      (Logins.issueExternalUserSession server.state user (oidcMappingProvider source)
        organizationId) := by
  obtain ⟨hguarantees, hresults⟩ := @Logins.ensures_issueExternalUserSession server.state
    (Writes Nothing) _ user (oidcMappingProvider source) organizationId
  refine ⟨hguarantees, hresults.mono fun _ hresult login hr => ?_⟩
  obtain ⟨-, principal, howner, -, hissue⟩ := hresult login hr
  refine ⟨hissue ▸ Logins.guarantees_issueExternal _ _ _ _, ?_⟩
  rw [hissue]
  refine .bindExcept_of_forall fun _ => .bindExcept_of_forall fun _ =>
    (Logins.results_signTokens_session _ _).mono fun _ h issued hr params hparams => ?_
  obtain ⟨hclient, p, hp, hid⟩ := h issued hr params hparams
  cases hp
  exact ⟨hclient, hid.trans (id_of_owner howner)⟩

theorem guarantees_enforcePolicy (principal : Option Principal) :
    (principal.elim (pure ()) fun principal =>
      enforceRefreshSessionPolicy server.state principal false).run.Guarantees
        (Writes Nothing) := by
  cases principal with
  | none => exact guarantees_pure _
  | some principal =>
    dsimp only [Option.elim, enforceRefreshSessionPolicy]
    split
    · exact guarantees_pure _
    · refine .bindExcept (.adapt guarantees_fetch) fun _ => ?_
      split <;> exact guarantees_pure _

theorem ensures_prepareSession :
    Ensures (Writes Nothing) (IssuedThrough source user) (prepareSession server source user) :=
  .of_guarantees (.adapt (guarantees_identitySourceLoginOrganization user.id)) fun organizationId =>
  .bind (ensures_loginThrough organizationId) fun login hlogin =>
  .of_guarantees (guarantees_enforcePolicy login.principal) fun _ =>
  ⟨hlogin.guarantees, hlogin.issued⟩

end Logins

/-! ### Phases -/

/-- The mappings that a request may write in a phase. -/
def Phase.adds (crates : Crates) : Phase → Db → ExternalUserMapping → Prop
  | .resolving source _ profile _ _ => Links crates source profile
  | .importing provider _ => Imported provider
  | .registering provider _ => Imported provider
  | _ => Nothing

/-- The provider for which a request imports users. -/
def Phase.imports : Phase → Option String
  | .importing provider _ => provider
  | .registering provider _ => provider
  | _ => none

/-- What a request that has come to the phase has established. -/
def Phase.Sound (server : Server) : Phase → Prop
  | .identifying rest => rest.Guarantees (Writes Nothing) ∧
      rest.Results fun r => ∀ result, r = .ok result → Validated server result.1 result.2
  | .rechecking source claims => Validated server source claims
  | .resolving source claims profile _ rest => Validated server source claims ∧
      oidcUpstreamProfileWithMapping claims (claimMappingValue source) = .ok profile ∧
      rest.Guarantees (Writes (Links server.state.crates source profile))
  | .preparing source user rest => rest.Guarantees (Writes Nothing) ∧
      rest.Results fun r => ∀ issued, r = .ok issued → IssuedThrough source user issued
  | .storing source user issued => IssuedThrough source user issued
  | .mirroring _ userId _ rest => rest.Guarantees (Writes Nothing) ∧
      rest.Results fun r => ∀ found, r = .ok found → ∀ principal ∈ found,
        principal.owner = (.user, userId)
  | .ending _ userId _ principal => principal.owner = (.user, userId)
  | .importing provider rest => rest.Guarantees (Writes (Imported provider))
  | .registering provider rest => rest.Guarantees (Writes (Imported provider))
  | _ => True

/-- A request that is not past the second look of a login at its source, and neither in the
transaction of an update nor past the one of an unlink. -/
def Phase.isPlain : Phase → Bool
  | .idle | .identifying _ | .rechecking .. | .updating _ | .finding .. | .deleting ..
  | .importing .. | .registering .. | .answered _ => true
  | _ => false

section Effects

variable {ι : Type*} [DecidableEq ι]

/-- The effects of a step of the request `i` on the store and its phase. -/
inductive Effect (server : Server) (i : ι) (s : Store ι) (phase : Phase) :
    Store ι → Phase → Prop
  | plain {db'} {phase' : Phase} (hplain : phase'.isPlain = true)
      (himports : phase ≠ .idle → phase'.imports = none ∨ phase'.imports = phase.imports)
      (hwrites : Writes (phase.adds server.state.crates) s.db db') :
      Effect server i s phase { s with db := db' } phase'
  | trusted {source current : IdentitySource} {claims profile rest} (n : ℕ)
      (hphase : phase = .rechecking source claims) (hcurrent : current ∈ s.db.identitySources)
      (hid : current.id = source.id) (hactive : current.active = true)
      (htype : current.sourceType = .oidcUpstream) :
      Effect server i s phase { s with db := s.db.tick n }
        (.resolving current claims profile false rest)
  | resolving {source claims profile looked rest rest' db'}
      (hphase : phase = .resolving source claims profile looked rest)
      (hwrites : Writes (Links server.state.crates source profile) s.db db') :
      Effect server i s phase { s with db := db' } (.resolving source claims profile true rest')
  | resolved {source claims profile looked user rest rest'}
      (hphase : phase = .resolving source claims profile looked rest) :
      Effect server i s phase s (.preparing source user rest')
  | preparing {source user rest rest' db'}
      (hphase : phase = .preparing source user rest) (hwrites : Writes Nothing s.db db') :
      Effect server i s phase { s with db := db' } (.preparing source user rest')
  | prepared {source user issued rest}
      (hphase : phase = .preparing source user rest) :
      Effect server i s phase s (.storing source user issued)
  | stored {source user} {issued : Logins.Issued}
      {params db' answer} (n : ℕ)
      (hphase : phase = .storing source user issued) (hparams : params ∈ issued.session)
      (hstore : Logins.storeSession server.state params (s.db.tick n) = .ok db') :
      Effect server i s phase { s with db := db' } (.answered answer)
  | locked {params : UpdateIdentitySourceParams} {u : Update} (n : ℕ)
      (hphase : phase = .updating params) (hfree : s.locks.available i u.source.id = true)
      (hprevious : u.previous ∈ s.db.identitySources)
      (hsource : u.source = params.apply u.previous) :
      Effect server i s phase ⟨s.db.tick n, s.locks.acquire i [u.source.id]⟩
        (if u.reason.isSome = true then .revoking u else .committing u)
  | revoked {u : Update} (n : ℕ) (hphase : phase = .revoking u) :
      Effect server i s phase { s with db := s.db.tick n } (.discarding (u.revoke (s.db.tick n)))
  | discarded {u : Update} (n : ℕ) (hphase : phase = .discarding u) :
      Effect server i s phase { s with db := s.db.tick n } (.committing (u.discard (s.db.tick n)))
  | aborted {answer} (n : ℕ) :
      Effect server i s phase ⟨s.db.tick n, s.locks.release i⟩ (.answered answer)
  | committed {u : Update} {db'} (n : ℕ) (hphase : phase = .committing u)
      (hcommit : u.commit (s.db.tick n) = .ok db') :
      Effect server i s phase ⟨db', s.locks.release i⟩ u.answer
  | unlinked {source userId reason db'}
      (hphase : phase = .deleting source userId reason) (huser : HasUser db' userId)
      (hwrites : Writes Nothing s.db db') :
      Effect server i s phase { s with db := db' }
        (.mirroring source userId reason (Handler.ensureUserPrincipal userId).run)
  | mirroring {source userId reason o db'}
      {rest rest' : Statements (Except String (Option Principal))}
      (hphase : phase = .mirroring source userId reason rest)
      (hnext : rest.next o s.db = some (db', rest')) (hwrites : Writes Nothing s.db db') :
      Effect server i s phase { s with db := db' } (.mirroring source userId reason rest')
  | missing {source userId reason}
      (hphase : phase = .mirroring source userId reason (.done (.ok none))) :
      Effect server i s phase s (.auditing source userId)
  | mirrored {source userId reason principal rest}
      (hphase : phase = .mirroring source userId reason rest) :
      Effect server i s phase s (.ending source userId reason principal)
  | ended {source userId reason} {principal : Principal} (n : ℕ)
      (hphase : phase = .ending source userId reason principal) :
      Effect server i s phase
        { s with
          db := revokePrincipalClientRefreshSessions (s.db.tick n) principal.id
            (oidcMappingProvider source) (some reason) }
        (.auditing source userId)
  | audited {source userId} (n : ℕ)
      (hphase : phase = .auditing source userId) :
      Effect server i s phase { s with db := s.db.tick n } (.unlinked source userId)

/-! ### Steps -/

variable {server : Server} {i : ι} {s s' : Store ι} {phase phase' : Phase} {o : Oracle}
  {Q : Store ι → Phase → Prop}

omit [DecidableEq ι] in
theorem of_runPart {ε α : Type} {part : Statements (Except ε α) → Phase} {failed : ε → Phase}
    {done : α → Phase} {rest : Statements (Except ε α)}
    (h : some (runPart s o part failed done rest) = some (s', phase'))
    (hfailed : ∀ e, Q s (failed e)) (hdone : ∀ a, rest = .done (.ok a) → Q s (done a))
    (hpart : ∀ db' rest', rest.next o s.db = some (db', rest') →
      Q { s with db := db' } (part rest')) : Q s' phase' := by
  obtain ⟨rfl, rfl⟩ := Prod.ext_iff.1 (Option.some.inj h)
  exact Program.advance_cases (C := fun r => Q { s with db := r.1 } r.2) hfailed hdone hpart

/-- A step has one of the effects, and the phase after it is sound. -/
def Good (server : Server) (i : ι) (s : Store ι) (phase : Phase) (s' : Store ι) (phase' : Phase) :
    Prop := Effect server i s phase s' phase' ∧ phase'.Sound server

/-- Every step from the phase, if it is sound, is good. -/
def Advances (server : Server) (i : ι) (s : Store ι) (o : Oracle) (phase : Phase) : Prop :=
  phase.Sound server → ∀ s' phase', proceed server i s o phase = some (s', phase') →
    Good server i s phase s' phase'

theorem good_refuse (e : AuthError) (n : ℕ) :
    Good server i s phase { s with db := s.db.tick n } (refuse e) :=
  ⟨.plain rfl (fun _ => .inl rfl) (Ticks.tick _ _), trivial⟩

omit [DecidableEq ι] in
theorem of_statement {failed : String → Phase} {f : Db → Except String (Phase × Db)}
    (h : some (statement s o failed f) = some (s', phase'))
    (hok : ∀ phase' db', f (s.db.tick o.elapsed) = .ok (phase', db') →
      Q { s with db := db' } phase')
    (hfailed : ∀ e, Q { s with db := s.db.tick o.elapsed } (failed e) := by
      intro; exact good_refuse _ _) : Q s' phase' := by
  obtain ⟨rfl, rfl⟩ := Prod.ext_iff.1 (Option.some.inj h)
  unfold statement
  cases h : outcome (fun _ => f) o s.db with
  | error e => exact hfailed e
  | ok r => exact hok r.1 r.2 (outcome_eq_ok h)

theorem good_end (answer : Answer) : Good server i s phase s (.answered answer) :=
  ⟨.plain rfl (fun _ => .inl rfl) (.of_eq rfl rfl rfl rfl), trivial⟩

theorem good_identifying {rest : Statements (Except AuthError _)} :
    Advances server i s o (.identifying rest) := by
  intro hsound s' phase' h
  refine of_runPart h (fun e => good_end _) (fun r hdone => ?_) fun db' rest' hnext => ?_
  · subst hdone
    exact ⟨.plain rfl (fun _ => .inl rfl) (.of_eq rfl rfl rfl rfl),
      Program.results_done.1 hsound.2 r rfl⟩
  · obtain ⟨hwrites, hrest'⟩ := hsound.1.next hnext
    exact ⟨.plain rfl (fun _ => .inl rfl) hwrites.of_nothing, hrest', hsound.2.next hnext⟩

variable {source : IdentitySource} {n : ℕ} {claims : OidcUpstreamIdTokenClaims}

theorem good_rechecking : Advances server i s o (.rechecking source claims) := by
  intro hsound s' phase' h
  refine of_statement h ?_
  rintro _ _ ⟨⟩
  unfold recheck
  split
  · exact good_refuse _ _
  rename_i current hcurrent
  obtain ⟨hlookup, htrust⟩ := Option.filter_eq_some_iff.1 hcurrent
  obtain ⟨hmem, hid⟩ := lookup_eq_some_iff.1 hlookup
  simp only [identitySourceTrustIsUnchanged, Bool.and_eq_true, beq_iff_eq] at htrust
  obtain ⟨⟨⟨⟨⟨⟨hactive, htype⟩, hconfig⟩, -⟩, -⟩, -⟩, -⟩ := htrust
  split
  · exact good_refuse _ _
  rename_i profile hprofile
  refine ⟨.trusted _ rfl hmem hid hactive htype, ?_, hprofile,
    guarantees_resolveOidcUpstreamUser⟩
  obtain ⟨config, token, nonceHash, now, hparse, hvalid⟩ := hsound
  exact ⟨config, token, nonceHash, now, hconfig ▸ hparse, hvalid⟩

theorem good_resolving {profile : OidcUpstreamProfile} {looked : Bool}
    {rest : Statements (Except AuthError User)} :
    Advances server i s o (.resolving source claims profile looked rest) := by
  intro hsound s' phase' h
  refine of_runPart h (fun e => good_end _)
    (fun user _ => ⟨.resolved rfl, ensures_prepareSession⟩)
    fun db' rest' hnext => ?_
  obtain ⟨hwrites, hrest'⟩ := hsound.2.2.next hnext
  exact ⟨.resolving rfl hwrites, hsound.1, hsound.2.1, hrest'⟩

theorem good_preparing {user : User} {rest : Statements (Except AuthError Logins.Issued)} :
    Advances server i s o (.preparing source user rest) := by
  intro hsound s' phase' h
  refine of_runPart h (fun e => good_end _) (fun issued hdone => ?_) fun db' rest' hnext => ?_
  · subst hdone
    exact ⟨.prepared rfl, Program.results_done.1 hsound.2 issued rfl⟩
  · obtain ⟨hwrites, hrest'⟩ := hsound.1.next hnext
    exact ⟨.preparing rfl hwrites, hrest', hsound.2.next hnext⟩

theorem good_storing {user : User} {issued : Logins.Issued} :
    Advances server i s o (.storing source user issued) := by
  intro _ s' phase' h
  simp only [proceed, store] at h
  split at h
  · cases h
    exact good_end _
  rename_i params hparams
  refine of_statement h fun phase' db' h => ?_
  obtain ⟨db₁, hstore, heq⟩ := map_eq_ok.1 h
  cases heq
  exact ⟨.stored _ rfl hparams hstore, trivial⟩

theorem good_lockSource {params : UpdateIdentitySourceParams} :
    Advances server i s o (.updating params) := by
  intro _ s' phase' h
  simp only [proceed, lockSource] at h
  split_ifs at h with hfree
  split at h
  · cases h
    exact good_refuse _ _
  split at h
  · cases h
    exact ⟨.plain rfl (fun _ => .inl rfl) (Ticks.tick _ _), trivial⟩
  rename_i previous hprevious
  obtain ⟨hmem, hid⟩ := lookup_eq_some_iff.1 hprevious
  split at h
  · cases h
    exact good_refuse _ _
  have hid' : (params.apply previous).id = params.id := hid
  have havailable : s.locks.available i (params.apply previous).id = true := by
    simpa [hid'] using hfree
  let u : Update :=
    { previous := previous, source := params.apply previous
      began := (s.db.tick o.elapsed).clock }
  have hlocked : Effect server i s (.updating params)
      ⟨s.db.tick o.elapsed, s.locks.acquire i [u.source.id]⟩
      (if u.reason.isSome = true then .revoking u else .committing u) :=
    .locked o.elapsed rfl havailable hmem rfl
  rw [show u.source.id = params.id from hid] at hlocked
  cases h
  refine ⟨hlocked, ?_⟩
  split_ifs <;> trivial

/-- A statement of a transaction fails, and everything is rolled back, or it succeeds. -/
theorem good_inTransaction {f : Db → Phase}
    (h : some (inTransaction i s o f) = some (s', phase'))
    (hok : ∀ n, Good server i s phase { s with db := s.db.tick n } (f (s.db.tick n))) :
    Good server i s phase s' phase' := by
  unfold inTransaction at h
  split at h <;> cases h
  · exact ⟨.aborted _, trivial⟩
  · exact hok o.elapsed

theorem good_committing {u : Update} : Advances server i s o (.committing u) := by
  intro _ s' phase' h
  refine of_statement h (fun phase' db' h => ?_) fun _ => ⟨.aborted _, trivial⟩
  obtain ⟨db₁, hcommit, heq⟩ := map_eq_ok.1 h
  cases heq
  refine ⟨.committed _ rfl hcommit, ?_⟩
  unfold Update.answer
  split_ifs <;> trivial

variable {userId reason : String}

theorem good_finding {sourceId : String} :
    Advances server i s o (.finding sourceId userId reason) := by
  intro _ s' phase' h
  refine of_statement h ?_
  rintro _ _ ⟨⟩
  cases upstreamSource (s.db.tick o.elapsed) sourceId with
  | none => exact good_refuse _ _
  | some => exact ⟨.plain rfl (fun _ => .inl rfl) (Ticks.tick _ _), trivial⟩

theorem good_deleting : Advances server i s o (.deleting source userId reason) := by
  intro _ s' phase' h
  refine of_statement h ?_
  rintro _ _ ⟨⟩
  unfold unlinkExternalUserMapping
  split
  · exact good_refuse _ _
  rename_i user huser
  split_ifs
  · exact good_refuse _ _
  · exact good_refuse _ _
  obtain ⟨hmem, hid⟩ := lookup_eq_some_iff.1 huser
  refine ⟨.unlinked rfl ⟨user, hmem, hid⟩ ⟨rfl, fun _ hs _ => hs, fun _ => .inl, ?_⟩,
    guarantees_ensurePrincipal .user userId, Logins.results_ensurePrincipal .user userId⟩
  exact fun m hm => .inl (mem_delete.1 hm).1

theorem good_mirroring {rest : Statements (Except String (Option Principal))} :
    Advances server i s o (.mirroring source userId reason rest) := by
  intro hsound s' phase' h
  refine of_runPart h (fun e => good_end _) (fun found hdone => ?_) fun db' rest' hnext => ?_
  · subst hdone
    cases found with
    | none => exact ⟨.missing rfl, trivial⟩
    | some principal =>
      exact ⟨.mirrored rfl, Program.results_done.1 hsound.2 _ rfl principal rfl⟩
  · obtain ⟨hwrites, hrest'⟩ := hsound.1.next hnext
    exact ⟨.mirroring rfl hnext hwrites, hrest', hsound.2.next hnext⟩

/-- What is left of an import. -/
theorem good_importing {ε α : Type} {provider : Option String} {rest : Statements (Except ε α)}
    {failed : ε → Answer} {done : α → Answer} (part : Statements (Except ε α) → Phase)
    (hplain : ∀ rest, (part rest).isPlain = true)
    (himports : ∀ rest, (part rest).imports = phase.imports)
    (hadds : phase.adds server.state.crates = Imported provider)
    (hpart : ∀ rest, rest.Guarantees (Writes (Imported provider)) → (part rest).Sound server)
    (hrest : rest.Guarantees (Writes (Imported provider)))
    (h : some (runPart s o part (fun e => .answered (failed e)) (fun a => .answered (done a))
      rest) = some (s', phase')) : Good server i s phase s' phase' := by
  refine of_runPart h (fun _ => good_end _) (fun _ _ => good_end _) fun db' rest' hnext => ?_
  obtain ⟨hwrites, hrest'⟩ := hrest.next hnext
  exact ⟨.plain (hplain rest') (fun _ => .inr (himports rest')) (hadds ▸ hwrites),
    hpart rest' hrest'⟩

theorem advances (phase : Phase) : Advances server i s o phase := by
  cases phase with
  | identifying => exact good_identifying
  | rechecking => exact good_rechecking
  | resolving => exact good_resolving
  | preparing => exact good_preparing
  | storing => exact good_storing
  | updating => exact good_lockSource
  | revoking => exact fun _ _ _ h => good_inTransaction h fun n => ⟨.revoked n rfl, trivial⟩
  | discarding => exact fun _ _ _ h => good_inTransaction h fun n => ⟨.discarded n rfl, trivial⟩
  | committing => exact good_committing
  | finding => exact good_finding
  | deleting => exact good_deleting
  | mirroring => exact good_mirroring
  | ending =>
    intro _ _ _ h
    refine of_statement h ?_
    rintro _ _ ⟨⟩
    exact ⟨.ended _ rfl, trivial⟩
  | auditing =>
    intro _ _ _ h
    refine of_statement h ?_
    rintro _ _ ⟨⟩
    exact ⟨.audited _ rfl, trivial⟩
  | importing provider =>
    exact fun hsound _ _ => good_importing (.importing provider) (fun _ => rfl) (fun _ => rfl) rfl
      (fun _ => id) hsound
  | registering provider =>
    exact fun hsound _ _ => good_importing (.registering provider) (fun _ => rfl) (fun _ => rfl)
      rfl (fun _ => id) hsound
  | _ =>
    intro _ _ _ h
    cases h

theorem sound_receive (call : Call) : (receive server call).Sound server := by
  cases call with
  | completeOidcUpstreamLogin query exchange =>
    exact ensures_identifyUser query exchange
  | updateIdentitySource | unlink => trivial
  | importThirdPartyUsers request => exact guarantees_importThirdPartyUsers request
  | jitRegisterUser request => exact guarantees_jitRegisterUser _ _ request

theorem isPlain_receive (call : Call) : (receive server call).isPlain = true := by
  cases call <;> rfl

theorem good_of_next {input : Input} (hsound : phase.Sound server)
    (h : next server i input s phase = some (s', phase')) : Good server i s phase s' phase' := by
  cases input with
  | proceed => exact advances phase hsound _ _ h
  | call call =>
    cases phase <;> cases h
    exact ⟨.plain (isPlain_receive call) (fun hidle => absurd rfl hidle) (.of_eq rfl rfl rfl rfl),
      sound_receive call⟩

/-! ### What the effects have in common -/

theorem isUpstream_oidcMappingProvider (source : IdentitySource) :
    isUpstream (oidcMappingProvider source) = true := by
  simp [isUpstream, oidcMappingProvider]

theorem oidcMappingProvider_inj {source' : IdentitySource}
    (h : oidcMappingProvider source = oidcMappingProvider source') : source.id = source'.id := by
  simpa [oidcMappingProvider] using h

/-- A session that is stored is the only one that is added. -/
theorem storeSession_eq_ok {params : CreateRefreshSessionParams} {db db' : Db}
    (h : Logins.storeSession server.state params (db.tick n) = .ok db') :
    ∃ new : RefreshSession, new.clientId = params.clientId ∧
      new.principalId = params.principalId ∧ (∀ t ∈ db.refreshSessions, t.id ≠ new.id) ∧
      (∀ t, t ∈ db'.refreshSessions ↔ t = new ∨ t ∈ db.refreshSessions) ∧
      db'.identitySources = db.identitySources ∧ db'.users = db.users ∧
      db'.externalUserMappings = db.externalUserMappings := by
  unfold Logins.storeSession at h
  split at h
  · cases h
  rename_i hcreate
  split_ifs at h
  cases h
  obtain ⟨-, sessions, tokens, hsessions, -, rfl⟩ := createRefreshSession_eq_ok hcreate
  exact ⟨_, rfl, rfl, fun t ht => key_ne_of_insert hsessions ht,
    fun t => mem_of_insert_eq_some hsessions, rfl, rfl, rfl⟩

theorem commit_eq_ok {u : Update} {db db' : Db} (h : u.commit db = .ok db') :
    (∀ row, row ∈ db'.identitySources ↔
      ∃ old ∈ db.identitySources, (if old.id == u.source.id then u.source else old) = row) ∧
    db'.refreshSessions = db.refreshSessions.update (fun t => u.sessions.contains t.id)
      (revokeSession u.began u.reason) ∧ db'.users = db.users ∧
    db'.externalUserMappings = db.externalUserMappings := by
  unfold Update.commit at h
  split at h
  · cases h
  rename_i hupdate
  cases h
  exact ⟨fun row => mem_of_tryUpdate_eq_some hupdate, rfl, rfl, rfl⟩

variable (heffect : Effect server i s phase s' phase')

include heffect

/-- An unrevoked session has been one before, or is the one that a login stores. -/
theorem Effect.sessions (hsound : phase.Sound server) {t : RefreshSession}
    (ht : t ∈ s'.db.refreshSessions) (hrevoked : t.revokedAt = none) :
    t ∈ s.db.refreshSessions ∨ ∃ source user issued, phase = .storing source user issued ∧
      t.clientId = oidcMappingProvider source ∧ t.principalId = principalId .user user.id ∧
      ∀ r ∈ s.db.refreshSessions, r.id ≠ t.id := by
  cases heffect with
  | plain _ _ hwrites | resolving _ hwrites | preparing _ hwrites | unlinked _ _ hwrites
  | mirroring _ _ hwrites => exact .inl (hwrites.sessions t ht hrevoked)
  | ended => exact .inl (Logins.eq_of_not_revoked ht hrevoked).1
  | committed n hphase hcommit =>
    rw [(commit_eq_ok hcommit).2.1] at ht
    exact .inl (Logins.eq_of_not_revoked ht hrevoked).1
  | stored n hphase hparams hstore =>
    subst hphase
    obtain ⟨new, hclient, hprincipal, hfresh, hmem, -⟩ := storeSession_eq_ok hstore
    obtain ⟨hthrough, huser⟩ := hsound _ hparams
    obtain rfl | ht := (hmem t).1 ht
    · exact .inr ⟨_, _, _, rfl, hclient.trans hthrough, hprincipal.trans huser, hfresh⟩
    · exact .inl ht
  | _ => exact .inl ht

/-- A user that is gone has no sessions left. -/
theorem Effect.users {id : String}
    (h : HasUser s.db id) :
    HasUser s'.db id ∨ ∀ t ∈ s'.db.refreshSessions, t.principalId ≠ principalId .user id := by
  cases heffect with
  | plain _ _ hwrites | resolving _ hwrites | preparing _ hwrites | unlinked _ _ hwrites
  | mirroring _ _ hwrites => exact hwrites.users id h
  | committed n hphase hcommit =>
    rw [HasUser, (commit_eq_ok hcommit).2.2.1]
    exact .inl h
  | stored n hphase hparams hstore =>
    obtain ⟨_, -, -, -, -, -, husers, -⟩ := storeSession_eq_ok hstore
    rw [HasUser, husers]
    exact .inl h
  | _ => exact .inl h

/-- Only a commit changes a source, and only its own. -/
theorem Effect.sources :
    s'.db.identitySources = s.db.identitySources ∨ ∃ u db' n, phase = .committing u ∧
      u.commit (s.db.tick n) = .ok db' ∧ s'.db = db' := by
  cases heffect with
  | plain _ _ hwrites | resolving _ hwrites | preparing _ hwrites | unlinked _ _ hwrites
  | mirroring _ _ hwrites => exact .inl hwrites.sources
  | committed n hphase hcommit => exact .inr ⟨_, _, n, hphase, hcommit, rfl⟩
  | stored n hphase hparams hstore =>
    obtain ⟨_, -, -, -, -, hsources, -⟩ := storeSession_eq_ok hstore
    exact .inl hsources
  | _ => exact .inl rfl

/-- A mapping has been there before, or it is one that the phase may write. -/
theorem Effect.mappings {m : ExternalUserMapping}
    (hm : m ∈ s'.db.externalUserMappings) :
    m ∈ s.db.externalUserMappings ∨ phase.adds server.state.crates s.db m := by
  cases heffect with
  | plain _ _ hwrites => exact hwrites.mappings m hm
  | resolving hphase hwrites =>
    subst hphase
    exact hwrites.mappings m hm
  | preparing _ hwrites | unlinked _ _ hwrites | mirroring _ _ hwrites =>
    exact .inl ((hwrites.mappings m hm).resolve_right id)
  | committed n hphase hcommit => exact .inl ((commit_eq_ok hcommit).2.2.2 ▸ hm)
  | stored n hphase hparams hstore =>
    obtain ⟨_, -, -, -, -, -, -, hmappings⟩ := storeSession_eq_ok hstore
    exact .inl (hmappings ▸ hm)
  | _ => exact .inl hm

/-- An import goes on for the same provider. -/
theorem Effect.imports (hidle : phase ≠ .idle) :
    phase'.imports = none ∨ phase'.imports = phase.imports := by
  cases heffect with
  | plain _ himports => exact himports hidle
  | locked => split_ifs <;> exact .inl rfl
  | committed =>
    unfold Update.answer
    split_ifs <;> exact .inl rfl
  | _ => exact .inl rfl

theorem Effect.locks :
    Locks.Keeps (some i) s.locks s'.locks := by
  cases heffect with
  | locked n hphase hfree => exact Locks.keeps_acquire (by simpa using hfree)
  | aborted | committed => exact Locks.keeps_release
  | _ => exact .refl

end Effects

end Keylo.Callback
