import Keylo.Crates
import Keylo.Rbac

/-!
# Accounts

The functions of `db/user.rs`, and the promotion of `db/organization.rs`, that write the rows of
users. Of a function that refreshes the principal of its user after its transaction, this is the
transaction; other requests may run in between.

## Main definitions

* `validatePasswordComplexity` : the passwords of new accounts.
* `insertUser` : new accounts.
* `updateUserRow` : changes of an account.
* `setUserActive`, `deleteUser`, `provisionUserWithRoles`.
* `promoteUserToInternalEmployee` : the change of the class of an account.

## Main results

* `insertUser_eq_ok`, `updateUserRow_eq_ok`, `setUserActive_eq`, … : what the transactions do to
  users and principals.
-/

namespace Keylo

open Relational Table

/-! ### Passwords and sessions -/

/-- The characters of which a password has at least one. -/
def specialCharacters : String := "!@#$%^&*()_+-=[]\x7b\x7d|;':\",./<>?"

/-- The checks on a password; its length is counted in bytes. -/
def validatePasswordComplexity (password : String) : Except String Unit :=
  if password.utf8ByteSize < 8 then
    .error "Password must be at least 8 characters long"
  else if !password.toList.any isAsciiUppercase then
    .error "Password must contain at least one uppercase letter"
  else if !password.toList.any isAsciiLowercase then
    .error "Password must contain at least one lowercase letter"
  else if !password.toList.any isAsciiDigit then
    .error "Password must contain at least one digit"
  else if !password.toList.any specialCharacters.toList.contains then
    .error "Password must contain at least one special character"
  else .ok ()

/-- The error of a password that bcrypt does not hash. -/
def hashFailure : String := "bcrypt failed"

/-- `hash_password` of an optional password, with the salt it draws. -/
def hashPassword (crates : Crates) (salt : String) : Option String → Except String (Option String)
  | none => .ok none
  | some password =>
    match crates.bcryptHash salt password with
    | none => .error hashFailure
    | some passwordHash => .ok (some passwordHash)

/-- `SET revoked_at = COALESCE(revoked_at, NOW()), revoke_reason = COALESCE(revoke_reason, …)`. -/
def revokeSession (now : Time) (reason : Option String) : Assignment RefreshSession :=
  ⟨fun s => { s with
    revokedAt := s.revokedAt.or (some now), revokeReason := s.revokeReason.or reason },
    fun _ _ => rfl⟩

/-- `SET revoked_at = COALESCE(revoked_at, NOW())`. -/
def revokeResetToken (now : Time) : Assignment PasswordResetToken :=
  ⟨fun t => { t with revokedAt := t.revokedAt.or (some now) }, fun _ _ => rfl⟩

/-- `SET revoked_at = COALESCE(revoked_at, NOW())`. -/
def revokeEmailToken (now : Time) : Assignment EmailVerificationToken :=
  ⟨fun t => { t with revokedAt := t.revokedAt.or (some now) }, fun _ _ => rfl⟩

/-- `SET revoked_at = COALESCE(revoked_at, NOW())`. -/
def revokeBrowserSession (now : Time) : Assignment BrowserSession :=
  ⟨fun s => { s with revokedAt := s.revokedAt.or (some now) }, fun _ _ => rfl⟩

variable (db : Db) (userId : String)

/-- A refresh session of a principal of the user that is not revoked. -/
def isSessionOf (s : RefreshSession) : Bool :=
  s.revokedAt.isNone && db.principals.any fun p =>
    p.id == s.principalId && p.principalType == .user && p.refId == userId

/-- A browser session of the user that is not revoked. -/
def isBrowserSessionOf (userId : String) (s : BrowserSession) : Bool :=
  s.userId == userId && s.revokedAt.isNone

/-- Revokes the live refresh sessions and browser sessions of a user. -/
def revokeUserSessions (db : Db) (userId reason : String) : Db :=
  { db with
    refreshSessions :=
      db.refreshSessions.update (isSessionOf db userId) (revokeSession db.clock (some reason))
    browserSessions :=
      db.browserSessions.update (isBrowserSessionOf userId) (revokeBrowserSession db.clock) }

/-- Revokes the pending password reset tokens of a user. -/
def revokePendingResetTokens : Db :=
  { db with
    passwordResetTokens := db.passwordResetTokens.update
      (fun t => t.userId == userId && t.consumedAt.isNone && t.revokedAt.isNone)
      (revokeResetToken db.clock) }

/-- Revokes the pending email verification tokens of a user. -/
def revokePendingEmailTokens : Db :=
  { db with
    emailVerificationTokens := db.emailVerificationTokens.update
      (fun t => t.userId == userId && t.consumedAt.isNone && t.revokedAt.isNone)
      (revokeEmailToken db.clock) }

/-- Revokes the tokens that have been sent to a former email address. -/
def revokePendingTokens : Db :=
  revokePendingResetTokens (revokePendingEmailTokens db userId) userId

/-! ### New accounts -/

/-- What the caller of `create_user` decides about a new account. -/
structure NewUser where
  username : String
  email : String
  password : Option String := none
  emailVerified : Bool := false
  userClass : UserClass := .externalCustomer
deriving DecidableEq

variable (crates : Crates) (db : Db)

variable (salt id : String) (new : NewUser)

/-- The insert of `create_user_with_email_verified_as_class`, with the id and the salt it draws. -/
def insertUser : Except String (User × Db) :=
  match hashPassword crates salt new.password with
  | .error e => .error e
  | .ok passwordHash =>
    let user : User :=
      { id := id, username := new.username, email := new.email, passwordHash := passwordHash,
        active := true, userClass := new.userClass, emailVerified := new.emailVerified }
    match db.users.insert user with
    | none => .error uniqueViolation
    | some users => .ok (user, { db with users := users })

/-- The error for the first name without a role. -/
def checkRoleNames (roleNames : List String) : Except String Unit :=
  match roleNames.find? fun name => !db.roles.any fun r => r.name == name with
  | some name => .error ("role_not_bound: role name not found: " ++ name)
  | none => .ok ()

/-- The roles of a provisioned user, given by ids and by names. -/
def provisionedRoles (roleIds roleNames : List String) : List String :=
  sortedRoleIds (trimmedRoleIds roleIds ++
    (db.roles.select fun r => roleNames.contains r.name).map Role.id)

/-- The class that a request names. -/
def parseUserClass (userClass : String) : Except String UserClass :=
  if trim userClass = "internal_employee" then .ok .internalEmployee
  else if trim userClass = "external_customer" then .ok .externalCustomer
  else .error "invalid_user_class"

/-- The user and the principal of a provisioning request. -/
def insertUserWithPrincipal : Except String (User × Db) :=
  match insertUser crates db salt id new with
  | .error e => .error e
  | .ok (user, db) =>
    match db.principals.insert ⟨.user, id, new.username, true⟩ with
    | none => .error uniqueViolation
    | some principals => .ok (user, { db with principals := principals })

/-- The user, the principal and the roles of a provisioning request. -/
def storeProvisionedUser (roleIds : List String) : Except String (User × Db) :=
  match insertUserWithPrincipal crates db salt id new with
  | .error e => .error e
  | .ok (user, db) => .ok (user, roleIds.foldl (fun db roleId => insertRole db id roleId) db)

/-- Creates a user, its principal and its roles in one transaction. -/
def provisionUserWithRoles (roleIds roleNames : List String) : Except String (User × Db) :=
  match insertUserWithPrincipal crates db salt id new with
  | .error e => .error e
  | .ok (user, db) =>
    match checkRoleNames db roleNames with
    | .error e => .error e
    | .ok () =>
      let ids := provisionedRoles db roleIds roleNames
      match checkRoles db (fun roleId => "role_not_bound: role id not found: " ++ roleId)
          new.userClass ids with
      | .error e => .error e
      | .ok () => .ok (user, ids.foldl (fun db roleId => insertRole db id roleId) db)

/-- `provision_user_with_roles` for an account of a given class. -/
def provisionUserWithRolesAsClass (userClass : String)
    (roleIds roleNames : List String) : Except String (User × Db) :=
  match parseUserClass userClass with
  | .error e => .error e
  | .ok userClass =>
    provisionUserWithRoles crates db salt id { new with userClass := userClass } roleIds roleNames

/-! ### Changes of an account -/

/-- The fields of `update_user`; a missing field is left as it is. -/
structure UserChanges where
  username : Option String := none
  email : Option String := none
  password : Option String := none
  active : Option Bool := none

/-- The `SET` clause of `update_user`. -/
def UserChanges.apply (changes : UserChanges) (passwordHash : Option String) (user : User) : User :=
  { user with
    username := changes.username.getD user.username
    email := changes.email.getD user.email
    emailVerified := changes.email.all (· == user.email) && user.emailVerified
    passwordHash := passwordHash.or user.passwordHash
    active := changes.active.getD user.active }

/-- The transaction of `update_user`: the row, the tokens sent to a former email address, and the
sessions of a user that is disabled or gets a new password. -/
def updateUserRow (salt userId : String) (changes : UserChanges) :
    Except String (Option User × Db) :=
  match hashPassword crates salt changes.password with
  | .error e => .error e
  | .ok passwordHash =>
    match db.users.lookup User.id userId with
    | none => .ok (none, db)
    | some user =>
      match db.users.tryUpdate (fun u => u.id == userId) (changes.apply passwordHash) with
      | none => .error uniqueViolation
      | some users =>
        let db := { db with users := users }
        let db :=
          if changes.email.all (· == user.email) then db else revokePendingTokens db userId
        let db :=
          if changes.active = some false then revokeUserSessions db userId "user_disabled"
          else if changes.password.isSome then revokeUserSessions db userId "password_updated"
          else db
        .ok (some (changes.apply passwordHash user), db)

/-- `SET active = $2`. -/
def setActive (active : Bool) : Assignment User :=
  ⟨fun u => { u with active := active }, fun _ _ => rfl⟩

/-- Changes the flag of a user, and revokes the sessions of a user that is disabled. The principal
of the user is not refreshed. -/
def setUserActive (userId : String) (active : Bool) : Db :=
  match db.users.lookup User.id userId with
  | none => db
  | some _ =>
    let db := { db with users := db.users.update (fun u => u.id == userId) (setActive active) }
    if active then db else revokeUserSessions db userId "user_disabled"

/-- `ON DELETE SET NULL` of `machine_credentials.created_by_principal_id`. -/
def forgetCreator : Assignment MachineCredential :=
  ⟨fun c => { c with createdByPrincipalId := none }, fun _ _ => rfl⟩

/-- Deletes a user and its principal; the rows that refer to them go with them. The grants of
customer support keep their holder from being deleted (`ON DELETE RESTRICT`). -/
def deleteUser (userId : String) : Db :=
  match db.users.lookup User.id userId with
  | none => db
  | some _ =>
    let id := principalId .user userId
    if db.supportGrants.any fun g => g.supportPrincipalId == id then db
    else { db with
      users := db.users.delete fun u => u.id == userId
      principals := db.principals.delete fun p => p.principalType == .user && p.refId == userId
      principalRoles := db.principalRoles.delete fun pr => pr.principalId == id
      memberships := db.memberships.delete fun m => m.principalId == id
      roleBindings := db.roleBindings.delete fun b => b.principalId == id
      refreshSessions := db.refreshSessions.delete fun s => s.principalId == id
      refreshSessionTokens := db.refreshSessionTokens.delete fun t =>
        db.refreshSessions.any fun s => s.id == t.sessionId && s.principalId == id
      browserSessions := db.browserSessions.delete fun s => s.userId == userId
      machineCredentials :=
        (db.machineCredentials.delete fun c => c.principalId == id).update
          (fun c => c.createdByPrincipalId == some id) forgetCreator
      userRoles := db.userRoles.delete fun ur => ur.userId == userId
      externalUserMappings := db.externalUserMappings.delete fun m => m.userId == userId
      passwordResetTokens := db.passwordResetTokens.delete fun t => t.userId == userId
      emailVerificationTokens := db.emailVerificationTokens.delete fun t => t.userId == userId
      userOauthAccounts := db.userOauthAccounts.delete fun a => a.userId == userId
      authorizationCodes := db.authorizationCodes.delete fun c => c.grant.userId == userId
      totpCredentials := db.totpCredentials.delete fun c => c.userId == userId
      recoveryCodes := db.recoveryCodes.delete fun c => c.userId == userId
      recentVerifications := db.recentVerifications.delete fun v => v.userId == userId }

/-- The user holds a platform role in one of the two tables. -/
def hasPlatformRole (userId : String) : Bool :=
  (db.userRoles.any fun ur => ur.userId == userId &&
    db.roles.any fun r => r.id == ur.roleId && r.scope == .platform) ||
  db.principals.any fun p => p.principalType == .user && p.refId == userId &&
    db.principalRoles.any fun pr => pr.principalId == p.id &&
      db.roles.any fun r => r.id == pr.roleId && r.scope == .platform

/-- `SET user_class = $2`. -/
def assignUserClass (userClass : UserClass) : Assignment User :=
  ⟨fun u => { u with userClass := userClass }, fun _ _ => rfl⟩

/-- A user with a platform role keeps its class. -/
def ensureUserClassChange (user : User) (userClass : UserClass) : Except String Unit :=
  if user.userClass ≠ userClass ∧ hasPlatformRole db user.id = true then
    .error (if userClass = .externalCustomer then "cannot_demote_user_with_platform_roles"
      else "cannot_promote_user_with_existing_platform_roles")
  else .ok ()

/-- The update of `set_user_class`. -/
def writeUserClass (userId : String) (userClass : UserClass) : Db :=
  { db with users := db.users.update (fun u => u.id == userId) (assignUserClass userClass) }

/-- `SET user_class = 'internal_employee'`. -/
def setInternalEmployee : Assignment User := assignUserClass .internalEmployee

/-- The active owner of the internal organization. -/
def internalOwner : Assignment Membership :=
  ⟨fun m => { m with status := .active, managementRole := .owner }, fun _ _ => rfl⟩

/-- A customer with a platform role is not promoted. -/
def ensurePromotion (user : User) : Except String Unit :=
  if user.userClass = .externalCustomer && hasPlatformRole db user.id then
    .error "cannot_promote_user_with_existing_platform_roles"
  else .ok ()

/-- The writes of a promotion: the class of the user, its principal and its membership. -/
def writePromotion (user : User) : Db :=
  let db := upsertPrincipal
    { db with users := db.users.update (fun u => u.id == user.id) setInternalEmployee }
    .user user.id user.username user.active
  { db with
    memberships := db.memberships.upsert
      ⟨"org-internal", principalId .user user.id, .active, .owner⟩ internalOwner }

/-- Promotes a user, refreshes its principal and makes it an owner of the internal organization, in
one transaction. -/
def promoteUserToInternalEmployee (userId : String) : Except String Db :=
  match db.users.lookup User.id userId with
  | none => .ok db
  | some user =>
    match ensurePromotion db user with
    | .error e => .error e
    | .ok () => .ok (writePromotion db user)

/-! ### What the transactions do -/

variable {crates db} {db' : Db} {salt id userId : String} {user : User} {new : NewUser}

section Insert

variable (h : insertUser crates db salt id new = .ok (user, db'))

include h

theorem insertUser_eq_ok :
    user.id = id ∧ user.username = new.username ∧ user.email = new.email ∧ user.active = true ∧
      ∃ users, db.users.insert user = some users ∧ db' = { db with users := users } := by
  unfold insertUser at h
  split at h
  · cases h
  dsimp only at h
  split at h
  · cases h
  rename_i users hinsert
  cases h
  exact ⟨rfl, rfl, rfl, rfl, users, hinsert, rfl⟩

theorem userClass_of_insertUser : user.userClass = new.userClass := by
  unfold insertUser at h
  split at h
  · cases h
  dsimp only at h
  split at h <;> cases h
  rfl

theorem setsOwner_insertUser : SetsOwner db db' (.user, id) (some (new.username, true)) := by
  obtain ⟨rfl, hname, -, hactive, users, hinsert, rfl⟩ := insertUser_eq_ok h
  have hsets : SetsOwner db { db with users := users } (.user, user.id) _ :=
    setsOwner_user (x := some user) rfl rfl fun _ => lookup_insert hinsert
  simpa [hname, hactive] using hsets

end Insert

theorem insertUserWithPrincipal_eq_ok
    (h : insertUserWithPrincipal crates db salt id new = .ok (user, db')) :
    ∃ users principals, insertUser crates db salt id new = .ok (user, { db with users := users }) ∧
      db.principals.insert ⟨.user, id, new.username, true⟩ = some principals ∧
      db' = { db with users := users, principals := principals } := by
  unfold insertUserWithPrincipal at h
  split at h
  · cases h
  rename_i user₁ db₁ hinsert
  obtain ⟨-, -, -, -, users, -, rfl⟩ := insertUser_eq_ok hinsert
  split at h
  · cases h
  rename_i principals hprincipal
  cases h
  exact ⟨users, principals, hinsert, hprincipal, rfl⟩

/-- A provisioned user has a principal and the same roles in both tables. -/
theorem storeProvisionedUser_eq_ok {roleIds : List String}
    (h : storeProvisionedUser crates db salt id new roleIds = .ok (user, db')) :
    ∃ users principals userRoles principalRoles,
      insertUser crates db salt id new = .ok (user, { db with users := users }) ∧
      db.principals.insert ⟨.user, id, new.username, true⟩ = some principals ∧
      db' = { db with
        users := users
        principals := principals
        userRoles := userRoles
        principalRoles := principalRoles } ∧
      AddsRoles db db' id roleIds := by
  unfold storeProvisionedUser at h
  split at h
  · cases h
  rename_i user₁ db₁ hstored
  obtain ⟨users, principals, hinsert, hprincipal, rfl⟩ := insertUserWithPrincipal_eq_ok hstored
  cases h
  obtain ⟨userRoles, principalRoles, hfold, huser, hroles⟩ :=
    foldl_insertRole { db with users := users, principals := principals } id roleIds
  rw [hfold]
  exact ⟨users, principals, userRoles, principalRoles, hinsert, hprincipal, rfl, huser, hroles⟩

/-- A provisioning request that succeeds has checked its roles and stores them. -/
theorem storeProvisionedUser_of_provision {roleIds roleNames : List String}
    (h : provisionUserWithRoles crates db salt id new roleIds roleNames = .ok (user, db')) :
    storeProvisionedUser crates db salt id new (provisionedRoles db roleIds roleNames) =
        .ok (user, db') ∧
      ∀ r ∈ provisionedRoles db roleIds roleNames, new.userClass = .internalEmployee ∧
        ∃ role ∈ db.roles, role.id = r ∧ role.scope = .platform ∧
          role.assignableTo.Admits .user := by
  unfold provisionUserWithRoles at h
  unfold storeProvisionedUser
  split at h
  · cases h
  rename_i user₁ db₁ hstored
  obtain ⟨users, principals, -, -, rfl⟩ := insertUserWithPrincipal_eq_ok hstored
  split at h
  · cases h
  dsimp only at h
  split at h
  · cases h
  rename_i hcheck
  have hchecked := checkRoles_eq_ok hcheck
  cases h
  exact ⟨rfl, hchecked⟩

variable {changes : UserChanges}

theorem updateUserRow_eq_ok_none
    (h : updateUserRow crates db salt userId changes = .ok (none, db')) : db' = db := by
  unfold updateUserRow at h
  split at h
  · cases h
  split at h
  · cases h
    rfl
  · split at h <;> cases h

section Update

variable (h : updateUserRow crates db salt userId changes = .ok (some user, db'))

include h

/-- Apart from the row of the user, an update changes sessions and tokens only. -/
theorem updateUserRow_eq_ok :
    ∃ old passwordHash users passwordResetTokens emailVerificationTokens refreshSessions
        browserSessions,
      db.users.lookup User.id userId = some old ∧ user = changes.apply passwordHash old ∧
      db.users.tryUpdate (fun u => u.id == userId) (changes.apply passwordHash) = some users ∧
      db' = { db with
        users := users
        passwordResetTokens := passwordResetTokens
        emailVerificationTokens := emailVerificationTokens
        refreshSessions := refreshSessions
        browserSessions := browserSessions } := by
  unfold updateUserRow at h
  split at h
  · cases h
  rename_i passwordHash hhash
  split at h
  · cases h
  rename_i old hold
  split at h
  · cases h
  rename_i users hupdate
  cases h
  split_ifs <;> exact ⟨old, passwordHash, users, _, _, _, _, hold, rfl, hupdate, rfl⟩

/-- The pending reset tokens of a user are revoked if the email changes. -/
theorem passwordResetTokens_updateUserRow :
    ∃ old, db.users.lookup User.id userId = some old ∧ db'.passwordResetTokens =
      if changes.email.all (· == old.email) then db.passwordResetTokens
      else (revokePendingResetTokens db userId).passwordResetTokens := by
  unfold updateUserRow at h
  split at h
  · cases h
  split at h
  · cases h
  rename_i old hold
  split at h
  · cases h
  cases h
  refine ⟨old, hold, ?_⟩
  split_ifs <;> rfl

theorem lookup_updateUserRow (id : String) :
    db'.users.lookup User.id id =
      if userId = id then some user else db.users.lookup User.id id := by
  obtain ⟨old, passwordHash, users, _, _, _, _, hold, rfl, hupdate, rfl⟩ := updateUserRow_eq_ok h
  rw [lookup_tryUpdate hupdate fun _ => rfl]
  split_ifs with hid
  · subst hid
    simp [hold, (lookup_eq_some_iff.1 hold).2]
  cases hl : db.users.lookup User.id id with
  | none => rfl
  | some u =>
    have hu : u.id = id := (lookup_eq_some_iff.1 hl).2
    simp [hu, Ne.symm hid]

theorem setsOwner_updateUserRow :
    SetsOwner db db' (.user, userId) (some (user.username, user.active)) := by
  obtain ⟨-, -, _, _, _, _, _, -, -, -, hdb'⟩ := updateUserRow_eq_ok h
  exact setsOwner_user (x := some user) (by rw [hdb']) (by rw [hdb']) (lookup_updateUserRow h)

end Update

/-- A change of the flag alone is not mirrored: the principals stay as they are. -/
theorem setUserActive_eq (h : db.users.lookup User.id userId = some user) (active : Bool) :
    (setUserActive db userId active).principals = db.principals ∧
      SetsOwner db (setUserActive db userId active) (.user, userId)
        (some (user.username, active)) := by
  have hsets : SetsOwner db
      { db with users := db.users.update (fun u => u.id == userId) (setActive active) }
      (.user, userId) _ :=
    setsOwner_user rfl rfl (lookup_update_of_key (fun _ => rfl)
      (fun _ hu => by simpa using hu) h (by simpa using (lookup_eq_some_iff.1 h).2))
  unfold setUserActive
  rw [h]
  cases active <;> exact ⟨rfl, hsets⟩

end Keylo
