import Keylo.Anonymous.Frames
import Keylo.Memberships
import Keylo.Upstream.Profile
import Keylo.Upstream.Unlink

/-!
# Users of upstream identities

The functions of `handlers/identity.rs` and `db/identity.rs` that turn the profile of a verified
upstream identity into a local user: by its mapping, by its email address, or by a new account. All
statements are transactions of their own.

The metadata of mappings are not modelled; whether they have to be written is a verdict of the
oracle. An audit record is a statement that may fail.

## Main definitions

* `findOidcUpstreamUser`, `jitUser`, `bindJitUser` : the parts of
  `resolve_oidc_upstream_user`, up to the changes of accounts.
* `applyUpstreamEmailVerification` : the address of an account is marked as verified.
* `resolveOidcUpstreamUser` : the whole function.

## Main results

* `guarantees_findOidcUpstreamUser`, `guarantees_bindJitUser` : what the parts guarantee, from what
  their writes do.
-/

namespace Keylo.Upstream

open Relational Import
open Program (guarantees_pure)

/-- The provider of the mappings of a source. -/
def oidcMappingProvider (source : IdentitySource) : String := "oidc_upstream:" ++ source.id

/-- The profile verifies the local address. -/
def upstreamEmailMatchesLocal (profile : OidcUpstreamProfile) (localEmail : String) : Bool :=
  profile.emailVerified && eqIgnoreAsciiCase profile.email (trim localEmail)

/-- `SET email_verified = TRUE`. -/
def setEmailVerified : Assignment User :=
  ⟨fun u => { u with emailVerified := true }, fun _ _ => rfl⟩

/-- The account is found by its id alone; its address is not compared with anything. -/
def markUserEmailVerified (db : Db) (userId : String) : Db :=
  { db with
    users := db.users.update (fun u => u.id == userId && !u.emailVerified) setEmailVerified }

/-- An audit record. -/
def audit (message : String) : DbM AuthError Unit :=
  ExceptT.adapt (fun _ => .databaseError message) (fetch fun _ => ())

section Mappings

variable (crates : Crates) (source : IdentitySource) (profile : OidcUpstreamProfile)

/-- The fallback for a user name that is taken. -/
def oidcJitUsername : String :=
  profile.username ++ "-" ++
    crates.hexEncode ((crates.sha256 (source.id ++ ":" ++ profile.externalSubject)).take 4)

/-- `create_external_user_mapping`, with the constraints of its table. -/
def insertMapping (db : Db) (provider externalUserId userId : String) : Except String Db :=
  if !Unlink.userExists db userId then .error foreignKeyViolation
  else
    match Unlink.createExternalUserMapping crates db provider externalUserId userId with
    | none => .error uniqueViolation
    | some db' => .ok db'

/-- Binds the subject once; a binding to another user is a conflict. -/
def createOidcUserMapping (userId : String) : DbM AuthError Unit := do
  match ← Program.attempt (atomically fun _ db =>
      (insertMapping crates db (oidcMappingProvider source) profile.externalSubject userId).map
        fun db' => ((), db')) with
  | .ok () => audit "Failed to audit OIDC identity link"
  | .error e =>
    if e = uniqueViolation then do
      let existingUserId ←
        ExceptT.adapt (fun _ => .databaseError "Failed to resolve OIDC mapping conflict")
          (fetch fun db =>
            getMappedUserId crates db (oidcMappingProvider source) profile.externalSubject)
      if existingUserId = some userId then pure ()
      else throw (.conflict "Upstream OIDC identity is already linked to another Keylo user")
    else throw (.databaseError "Failed to create OIDC user mapping")

/-- Stores the address that was observed, unless the mapping has it already. -/
def recordOidcEmailChange : DbM AuthError Unit := do
  let observed ← consult
  if observed then pure ()
  else
    let isObject ← consult
    if !isObject then throw (.databaseError "OIDC identity mapping metadata is invalid")
    else
      ExceptT.adapt (fun _ => .databaseError "Failed to record external email change")
        (fetch fun _ => ())
      let updated ← consult
      if updated then audit "Failed to audit external email change" else pure ()

end Mappings

/-! ### Organizations of sources -/

variable (source : IdentitySource) (userId : String)

/-- The organization of a source, if the user is an active member of it. -/
def identitySourceLoginOrganization : DbM String (Option String) :=
  match source.organizationId with
  | none => pure none
  | some organizationId => do
    match ← Handler.ensureUserPrincipal userId with
    | none => throw "identity_source_user_principal_not_found"
    | some principal =>
      let membership ← fetch fun db =>
        getActiveOrganizationMembership db organizationId principal.id
      pure (membership.map Membership.organizationId)

/-- Makes the user an active member of the organization of the source. -/
def ensureIdentitySourceMembership : DbM String Unit :=
  match source.organizationId with
  | none => pure ()
  | some organizationId => do
    match ← Handler.ensureUserPrincipal userId with
    | none => throw "identity_source_user_principal_not_found"
    | some principal =>
      let isMember ← fetch fun db => db.memberships.any fun m =>
        m.organizationId == organizationId && m.principalId == principal.id
      if isMember then pure ()
      else
        atomically fun _ db =>
          (upsertOrganizationMembership db organizationId principal.id "active" none).map
            fun r => ((), r.2)

/-- A source with a fixed organization accepts its active members only. -/
def checkSourceOrganization : DbM AuthError Unit :=
  if source.organizationStrategy = .fixed then do
    let organizationId ←
      ExceptT.adapt (fun _ => .databaseError "Failed to validate identity source organization")
        (identitySourceLoginOrganization source userId)
    if organizationId.isNone then throw .forbidden else pure ()
  else pure ()

/-! ### Resolution -/

/-- How the user of a profile is found. -/
inductive Resolution
  | existing (user : User)
  /-- A new account with a name that was free. -/
  | jit (username : String)

section Resolve

variable (crates : Crates) (source : IdentitySource) (profile : OidcUpstreamProfile)

/-- The account of a mapped identity. -/
def checkMappedUser (userId : String) : DbM AuthError Resolution := do
  match (← ExceptT.adapt (fun _ => .databaseError "Failed to load mapped user")
      (fetch fun db => db.users.lookup User.id userId)).filter User.active with
  | none => throw .forbidden
  | some user =>
    if user.userClass ≠ source.allowedUserClass then throw .forbidden
    else
      checkSourceOrganization source user.id
      recordOidcEmailChange
      pure (.existing user)

/-- An account with the address of the profile is linked if the source allows it. -/
def linkEmailUser (user : User) : DbM AuthError Resolution :=
  if !source.autoLinkEnabled || !profile.emailVerified then
    throw (.conflict "An existing Keylo account requires an explicit identity link")
  else if !user.active then throw .forbidden
  else if user.userClass ≠ source.allowedUserClass then
    throw (.conflict "The existing Keylo account is not eligible for this identity source")
  else do
    checkSourceOrganization source user.id
    createOidcUserMapping crates source profile user.id
    pure (.existing user)

/-- The name of a new account. -/
def chooseUsername : DbM AuthError Resolution :=
  if !source.jitEnabled then throw .forbidden
  else do
    let taken ← ExceptT.adapt (fun _ => .databaseError "Failed to look up OIDC username")
      (fetch fun db => db.users.lookup User.username profile.username)
    pure (.jit (if taken.isSome then oidcJitUsername crates source profile else profile.username))

/-- `resolve_oidc_upstream_user` up to the changes of accounts. -/
def findOidcUpstreamUser : DbM AuthError Resolution := do
  match ← ExceptT.adapt (fun _ => .databaseError "Failed to resolve OIDC user mapping")
      (fetch fun db =>
        getMappedUserId crates db (oidcMappingProvider source) profile.externalSubject) with
  | some userId => checkMappedUser source userId
  | none =>
    match ← ExceptT.adapt (fun _ => .databaseError "Failed to look up OIDC email")
        (fetch fun db => db.users.lookup User.email profile.email) with
    | some user => linkEmailUser crates source profile user
    | none => chooseUsername crates source profile

/-- The account of a new user of a source, which has no password. -/
def jitUser (username : String) : NewUser where
  username := username
  email := profile.email
  emailVerified := profile.emailVerified
  userClass := source.allowedUserClass

def jitError (e : String) : AuthError :=
  if e = uniqueViolation then .conflict "OIDC account conflicts with an existing Keylo user"
  else .databaseError "Failed to create JIT OIDC user"

/-- The account that was just created is deleted again. -/
def cleanUp (userId message : String) (error : AuthError) : DbM AuthError User := do
  ExceptT.adapt (fun _ => .databaseError message)
    (atomically fun _ db => .ok ((), deleteUser db userId))
  throw error

/-- A new account gets its principal, its membership and its mapping, or is deleted again. -/
def bindJitUser (user : User) : DbM AuthError User := do
  let _ ← ExceptT.adapt jitError (Handler.ensureUserPrincipal user.id)
  match ← Program.attempt (ensureIdentitySourceMembership source user.id) with
  | .error e =>
    cleanUp user.id "Failed to clean up JIT user after organization assignment"
      (.databaseError ("Failed to assign JIT identity source organization: " ++ e))
  | .ok () =>
    match ← Program.attempt (createOidcUserMapping crates source profile user.id) with
    | .error e => cleanUp user.id "Failed to clean up conflicting JIT OIDC user" e
    | .ok () => pure user

/-- The account is marked if the address that was read is the one of the profile. -/
def applyUpstreamEmailVerification (user : User) : DbM AuthError Unit :=
  if !upstreamEmailMatchesLocal profile user.email then pure ()
  else
    ExceptT.adapt (fun _ => .databaseError "Failed to persist email verification")
      (atomically fun _ db => .ok ((), markUserEmailVerified db user.id))

def resolveOidcUpstreamUser : DbM AuthError User := do
  match ← findOidcUpstreamUser crates source profile with
  | .existing user =>
    applyUpstreamEmailVerification profile user
    pure user
  | .jit username =>
    let user ← ExceptT.adapt jitError
      (atomically fun o db => insertUser crates db o.salt o.uuid (jitUser source profile username))
    bindJitUser crates source profile user

end Resolve

/-! ### Guarantees -/

section Guarantees

variable {G : Db → Db → Prop} {crates : Crates} {source : IdentitySource}
  {profile : OidcUpstreamProfile}
  (hlink : ∀ db n userId db',
    insertMapping crates (db.tick n) (oidcMappingProvider source) profile.externalSubject userId =
      .ok db' → G db db')

section Ticks

variable [Ticks G]

theorem guarantees_audit (message : String) : (audit message).run.Guarantees G :=
  .adapt guarantees_fetch

theorem guarantees_recordOidcEmailChange : recordOidcEmailChange.run.Guarantees G := by
  refine .bindExcept (.liftExcept guarantees_consult) fun _ => ?_
  split
  · exact guarantees_pure _
  refine .bindExcept (.liftExcept guarantees_consult) fun _ => ?_
  split
  · exact guarantees_pure _
  refine .bindExcept (.adapt guarantees_fetch) fun _ =>
    .bindExcept (.liftExcept guarantees_consult) fun _ => ?_
  split
  · exact guarantees_audit _
  · exact guarantees_pure _

include hlink in
theorem guarantees_createOidcUserMapping (userId : String) :
    (createOidcUserMapping crates source profile userId).run.Guarantees G := by
  refine .bindExcept (.attempt (guarantees_atomically fun _ db n _ db' h => ?_)) fun r => ?_
  · obtain ⟨_, hinsert, hdb'⟩ := map_eq_ok.1 h
    cases hdb'
    exact hlink db n userId _ hinsert
  · cases r with
    | ok => exact guarantees_audit _
    | error =>
      dsimp only
      split
      · refine .bindExcept (.adapt guarantees_fetch) fun _ => ?_
        split <;> exact guarantees_pure _
      · exact guarantees_pure _

end Ticks

variable [Anonymous.Mirrors G]

theorem guarantees_identitySourceLoginOrganization (userId : String) :
    (identitySourceLoginOrganization source userId).run.Guarantees G := by
  unfold identitySourceLoginOrganization
  split
  · exact guarantees_pure _
  refine .bindExcept (Anonymous.guarantees_ensurePrincipal .user userId) fun principal => ?_
  cases principal with
  | none => exact guarantees_pure _
  | some => exact .bindExcept guarantees_fetch fun _ => guarantees_pure _

theorem guarantees_checkSourceOrganization (userId : String) :
    (checkSourceOrganization source userId).run.Guarantees G := by
  unfold checkSourceOrganization
  split
  · refine .bindExcept (.adapt (guarantees_identitySourceLoginOrganization userId))
      fun _ => ?_
    split <;> exact guarantees_pure _
  · exact guarantees_pure _

include hlink in
theorem guarantees_findOidcUpstreamUser :
    (findOidcUpstreamUser crates source profile).run.Guarantees G := by
  refine .bindExcept (.adapt guarantees_fetch) fun mapped => ?_
  cases mapped with
  | some =>
    refine .bindExcept (.adapt guarantees_fetch) fun found => ?_
    split
    · exact guarantees_pure _
    split
    · exact guarantees_pure _
    · exact .bindExcept (guarantees_checkSourceOrganization _) fun _ =>
        .bindExcept (guarantees_recordOidcEmailChange) fun _ => guarantees_pure _
  | none =>
    refine .bindExcept (.adapt guarantees_fetch) fun found => ?_
    cases found with
    | some =>
      dsimp only [linkEmailUser]
      split_ifs
      · exact guarantees_pure _
      · exact guarantees_pure _
      · exact guarantees_pure _
      · exact .bindExcept (guarantees_checkSourceOrganization _) fun _ =>
          .bindExcept (guarantees_createOidcUserMapping hlink _) fun _ => guarantees_pure _
    | none =>
      dsimp only [chooseUsername]
      split_ifs
      · exact guarantees_pure _
      · exact .bindExcept (.adapt guarantees_fetch) fun _ => guarantees_pure _

variable (hmember : ∀ db n organizationId principalId membership db',
    upsertOrganizationMembership (db.tick n) organizationId principalId "active" none =
      .ok (membership, db') → G db db')
  (hdelete : ∀ db n userId, G db (deleteUser (db.tick n) userId))

include hmember in
theorem guarantees_ensureIdentitySourceMembership (userId : String) :
    (ensureIdentitySourceMembership source userId).run.Guarantees G := by
  unfold ensureIdentitySourceMembership
  split
  · exact guarantees_pure _
  refine .bindExcept (Anonymous.guarantees_ensurePrincipal .user userId) fun principal => ?_
  cases principal with
  | none => exact guarantees_pure _
  | some =>
    refine .bindExcept guarantees_fetch fun _ => ?_
    split
    · exact guarantees_pure _
    refine guarantees_atomically fun _ db n _ _ h => ?_
    obtain ⟨r, hupsert, hdb'⟩ := map_eq_ok.1 h
    cases hdb'
    exact hmember db n _ _ r.1 r.2 hupsert

include hlink hmember hdelete in
theorem guarantees_bindJitUser (user : User) :
    (bindJitUser crates source profile user).run.Guarantees G := by
  have hclean (message : String) (error : AuthError) :
      (cleanUp user.id message error).run.Guarantees G := by
    refine .bindExcept (.adapt (guarantees_atomically ?_)) fun _ => guarantees_pure _
    rintro _ db n _ _ ⟨⟩
    exact hdelete db n user.id
  refine .bindExcept (.adapt (Anonymous.guarantees_ensurePrincipal .user user.id)) fun _ =>
    .bindExcept (.attempt (guarantees_ensureIdentitySourceMembership hmember user.id)) fun r => ?_
  cases r with
  | error => exact hclean _ _
  | ok =>
    refine .bindExcept (.attempt (guarantees_createOidcUserMapping hlink user.id)) fun r => ?_
    cases r with
    | error e => exact hclean _ e
    | ok => exact guarantees_pure _

end Guarantees

end Keylo.Upstream
