import Mathlib.Data.List.Sort
import Keylo.Principals
import Keylo.Text

/-!
# Roles

The role rules and the transactions of `db/rbac.rs` and `db/principal.rs` that assign and revoke
platform roles. For a user a platform role is stored twice, in `user_roles` and in
`principal_roles`.

## Main definitions

* `ensurePlatformRoleAssignment`, `ensureUserCanReceivePlatformRole` : who may receive a role.
* `userIsPlatformAdmin` : the administrators of the platform.
* `createRoleWithScope`, `updateRole`, `assignPermissionToRole` : roles and their
  permissions.
* `assignRoleToPrincipal`, `assignRolesToUser`, `revokeRoleFromUser`, `revokeRoleFromPrincipal` :
  the transactions.
-/

namespace Keylo

open Relational Table

/-! ### Role rules -/

def ensureRoleAssignableToPrincipalType (roleId : String) (assignableTo : AssignableTo)
    (principalType : PrincipalType) : Except String Unit :=
  if assignableTo = .all ∨ assignableTo = .only principalType then .ok ()
  else
    .error ("role_not_assignable_to_principal_type: role=" ++ roleId ++ ", principal_type=" ++
      principalType.text)

/-- Only platform roles are stored in `user_roles` and `principal_roles`. -/
def ensurePlatformRoleAssignment (roleId : String) (assignableTo : AssignableTo)
    (scope : RoleScope) (principalType : PrincipalType) : Except String Unit :=
  if scope ≠ .platform then
    .error ("organization_role_requires_organization_binding: role=" ++ roleId)
  else ensureRoleAssignableToPrincipalType roleId assignableTo principalType

/-- Customer accounts do not receive platform roles. -/
def ensureUserCanReceivePlatformRole (roleId : String) (assignableTo : AssignableTo)
    (scope : RoleScope) (userClass : UserClass) : Except String Unit :=
  match ensurePlatformRoleAssignment roleId assignableTo scope .user with
  | .error e => .error e
  | .ok () =>
    if userClass = .internalEmployee then .ok ()
    else .error ("external_customer_cannot_receive_platform_role: role=" ++ roleId)

variable (db : Db)

/-- Administrators are employees with one of two platform roles, whatever `principal_roles` says. -/
def userIsPlatformAdmin (userId : String) : Bool :=
  db.users.any fun u => u.id == userId && u.active && u.userClass == .internalEmployee &&
    db.userRoles.any fun ur => ur.userId == userId &&
      db.roles.any fun r => r.id == ur.roleId && r.scope == .platform &&
        (r.name == "super_admin" || r.name == "admin")

/-! ### Roles and their permissions -/

def createRoleWithScope (id name : String) (assignableTo : AssignableTo) (system : Bool)
    (scope : RoleScope) : Except String Db :=
  match db.roles.insert
      { id := id, name := name, assignableTo := assignableTo, scope := scope,
        system := system } with
  | some roles => .ok { db with roles := roles }
  | none => .error uniqueViolation

/-- The text of `roles.assignable_to`. -/
def AssignableTo.text : AssignableTo → String
  | .all => "all"
  | .only principalType => principalType.text

/-- A role that has been assigned keeps admitting the principals that hold it. -/
def ensureRoleAssignableToUpdateIsCompatible (roleId : String) (assignableTo : AssignableTo) :
    Except String Unit :=
  let conflict (existing : String) :=
    "role_assignable_to_conflicts_with_existing_assignments: role=" ++ roleId ++
      ", assignable_to=" ++ assignableTo.text ++ ", existing_principal_type=" ++ existing
  match assignableTo with
  | .all => .ok ()
  | .only principalType =>
    if principalType != .user && db.userRoles.any fun ur => ur.roleId == roleId then
      .error (conflict "user")
    else
      match db.principals.find? fun p => p.principalType != principalType &&
          db.principalRoles.any fun pr => pr.principalId == p.id && pr.roleId == roleId with
      | some p => .error (conflict p.principalType.text)
      | none => .ok ()

/-- The check of an edit that sets `assignable_to`. -/
def checkRoleEdit (roleId : String) (assignableTo : Option AssignableTo) : Except String Unit :=
  assignableTo.elim (.ok ()) (ensureRoleAssignableToUpdateIsCompatible db roleId)

/-- The role that customer support needs. -/
def customerSupportRoleName : String := "customer_support"

/-- The trigger on `roles` that keeps the role of customer support as it is. -/
def enforceCustomerSupportRoleInvariants (old new : Role) : Bool :=
  !(old.name == customerSupportRoleName || new.name == customerSupportRoleName) ||
    new.name == customerSupportRoleName && new.scope == .platform &&
      new.assignableTo == .only .user && new.system

/-- The update of an edit; everything about a role but its scope may change. -/
def writeRole (roleId : String) (name : Option String) (assignableTo : Option AssignableTo)
    (system : Option Bool) (expectedVersion : Option Int) : Except String Db :=
  let edited := fun r : Role => r.id == roleId && expectedVersion.all (· == r.version)
  let edit := fun r : Role =>
    { r with
      name := name.getD r.name
      assignableTo := assignableTo.getD r.assignableTo
      system := system.getD r.system
      version := r.version + 1 }
  if db.roles.any fun r => edited r && !enforceCustomerSupportRoleInvariants r (edit r) then
    .error "customer_support role has incompatible configuration"
  else
    match db.roles.tryUpdate edited edit with
    | some roles => .ok { db with roles := roles }
    | none => .error uniqueViolation

/-- Changes a role. The check is not in the transaction of the update. -/
def updateRole (roleId : String) (name : Option String) (assignableTo : Option AssignableTo)
    (system : Option Bool) (expectedVersion : Option Int) : Except String Db :=
  match checkRoleEdit db roleId assignableTo with
  | .error e => .error e
  | .ok () => writeRole db roleId name assignableTo system expectedVersion

def assignPermissionToRole (roleId permissionId : String) : Db :=
  { db with rolePermissions := db.rolePermissions.insertIgnore ⟨roleId, permissionId⟩ }

def revokePermissionFromRole (roleId permissionId : String) : Db :=
  { db with
    rolePermissions :=
      db.rolePermissions.delete fun rp => rp.roleId == roleId && rp.permissionId == permissionId }

/-! ### Assignments -/

/-- `INSERT INTO user_roles … ON CONFLICT DO NOTHING`. -/
def insertUserRole (userId roleId : String) : Db :=
  { db with userRoles := db.userRoles.insertIgnore ⟨userId, roleId⟩ }

/-- `INSERT INTO principal_roles … ON CONFLICT DO NOTHING`. -/
def insertPrincipalRole (principalId roleId : String) : Db :=
  { db with principalRoles := db.principalRoles.insertIgnore ⟨principalId, roleId⟩ }

/-- A platform role of a user is stored twice. -/
def insertRole (userId roleId : String) : Db :=
  insertPrincipalRole (insertUserRole db userId roleId) (principalId .user userId) roleId

/-- Assigns a platform role to any principal; for a user the role is stored twice. Apart from the
class of a user, only the type of the principal is compared with the role. -/
def assignRoleToPrincipal (id roleId : String) : Except String Db :=
  match db.principals.lookup Principal.id id, db.roles.lookup Role.id roleId with
  | some principal, some role =>
    match ensurePlatformRoleAssignment roleId role.assignableTo role.scope
        principal.principalType with
    | .error e => .error e
    | .ok () =>
      if principal.principalType = .user then
        match db.users.lookup User.id principal.refId with
        | none => .error ("user_not_found: " ++ principal.refId)
        | some user =>
          match ensureUserCanReceivePlatformRole roleId role.assignableTo role.scope
              user.userClass with
          | .error e => .error e
          | .ok () => .ok (insertRole db principal.refId roleId)
      else .ok (insertPrincipalRole db id roleId)
  | _, _ => .error "principal_or_role_not_found"

/-- The nonempty role ids of a request, trimmed. -/
def trimmedRoleIds (roleIds : List String) : List String :=
  (roleIds.map trim).filter fun roleId => !roleId.isEmpty

/-- `sort` and `dedup`. -/
def sortedRoleIds (roleIds : List String) : List String := (roleIds.insertionSort (· ≤ ·)).dedup

/-- The distinct nonempty role ids of a request, trimmed and sorted. -/
def normalizedRoleIds (roleIds : List String) : List String :=
  sortedRoleIds (trimmedRoleIds roleIds)

/-- The first error of the checks on the roles for a user, or the error for an unknown role. -/
def checkRoles (notFound : String → String) (userClass : UserClass) :
    List String → Except String Unit
  | [] => .ok ()
  | roleId :: roleIds =>
    match db.roles.lookup Role.id roleId with
    | none => .error (notFound roleId)
    | some role =>
      match ensureUserCanReceivePlatformRole roleId role.assignableTo role.scope userClass with
      | .error e => .error e
      | .ok () => checkRoles notFound userClass roleIds

/-- The transaction of `assign_roles_to_user_batch`, on normalized role ids. -/
def assignRolesToUser (userId : String) (roleIds : List String) : Except String Db :=
  match db.users.lookup User.id userId with
  | none => .error "user_not_found"
  | some user =>
    match checkRoles db (fun _ => "role_not_found") user.userClass roleIds with
    | .error e => .error e
    | .ok () => .ok (roleIds.foldl (fun db roleId => insertRole db userId roleId) db)

/-- The principal of the user is refreshed before the transaction, and stays so if it fails. -/
def assignRolesToUserBatch (userId : String) (roleIds : List String) : Except String Unit × Db :=
  match ensureUserPrincipal db userId with
  | none => (.error "user_not_found", db)
  | some db =>
    if (normalizedRoleIds roleIds).isEmpty then (.ok (), db)
    else
      match assignRolesToUser db userId (normalizedRoleIds roleIds) with
      | .error e => (.error e, db)
      | .ok db' => (.ok (), db')

/-! ### Revocations -/

def revokeRoleFromUser (userId roleId : String) : Db :=
  match db.users.lookup User.id userId with
  | none => db
  | some _ =>
    { db with
      userRoles := db.userRoles.delete fun ur => ur.userId == userId && ur.roleId == roleId
      principalRoles := db.principalRoles.delete fun pr =>
        (db.principals.any fun p =>
          p.id == pr.principalId && p.principalType == .user && p.refId == userId) &&
        pr.roleId == roleId }

def revokeRoleFromPrincipal (id roleId : String) : Except String Db :=
  match db.principals.lookup Principal.id id with
  | none => .ok db
  | some principal =>
    let principalRoles :=
      db.principalRoles.delete fun pr => pr.principalId == id && pr.roleId == roleId
    if principal.principalType = .user then
      match db.users.lookup User.id principal.refId with
      | none => .error ("user_not_found: " ++ principal.refId)
      | some _ =>
        .ok { db with
          principalRoles := principalRoles
          userRoles :=
            db.userRoles.delete fun ur => ur.userId == principal.refId && ur.roleId == roleId }
    else .ok { db with principalRoles := principalRoles }

/-! ### What the transactions do -/

variable {db} {db' : Db} {roleId userId : String}

theorem mem_insertUserRole {ur : UserRole} :
    ur ∈ (insertUserRole db userId roleId).userRoles ↔ ur = ⟨userId, roleId⟩ ∨ ur ∈ db.userRoles :=
  mem_insertIgnore fun _ _ h => (by simpa [clash] using h : _ = _).symm

variable {id : String} {roleIds : List String}

theorem mem_insertPrincipalRole {pr : PrincipalRole} :
    pr ∈ (insertPrincipalRole db id roleId).principalRoles ↔
      pr = ⟨id, roleId⟩ ∨ pr ∈ db.principalRoles :=
  mem_insertIgnore fun _ _ h => (by simpa [clash] using h : _ = _).symm

/-- Both tables have the roles added for the user. -/
structure AddsRoles (db db' : Db) (userId : String) (roleIds : List String) : Prop where
  user : ∀ ur, ur ∈ db'.userRoles ↔ (∃ r ∈ roleIds, ur = ⟨userId, r⟩) ∨ ur ∈ db.userRoles
  principal : ∀ pr, pr ∈ db'.principalRoles ↔
    (∃ r ∈ roleIds, pr = ⟨principalId .user userId, r⟩) ∨ pr ∈ db.principalRoles

/-- Roles assigned to a user one after the other are in both tables; no other table changes. -/
theorem foldl_insertRole (db : Db) (userId : String) (roleIds : List String) :
    ∃ userRoles principalRoles,
      roleIds.foldl (fun db roleId => insertRole db userId roleId) db =
        { db with userRoles := userRoles, principalRoles := principalRoles } ∧
      AddsRoles db { db with userRoles := userRoles, principalRoles := principalRoles } userId
        roleIds := by
  induction roleIds generalizing db with
  | nil => exact ⟨db.userRoles, db.principalRoles, rfl, by simp, by simp⟩
  | cons r roleIds ih =>
    obtain ⟨userRoles, principalRoles, hfold, huser, hprincipal⟩ := ih (insertRole db userId r)
    refine ⟨userRoles, principalRoles, by rw [List.foldl_cons, hfold]; rfl, ?_, ?_⟩
    · intro ur
      have hmem : ur ∈ (insertRole db userId r).userRoles ↔ _ := mem_insertUserRole
      rw [huser, hmem, List.exists_mem_cons_iff, or_left_comm, or_assoc]
    · intro pr
      have hmem : pr ∈ (insertRole db userId r).principalRoles ↔ _ := mem_insertPrincipalRole
      have hframe : (insertUserRole db userId r).principalRoles = db.principalRoles := rfl
      rw [hprincipal, hmem, hframe, List.exists_mem_cons_iff, or_left_comm, or_assoc]

theorem assignRolesToUser_eq_ok (h : assignRolesToUser db userId roleIds = .ok db') :
    ∃ user ∈ db.users, user.id = userId ∧
      checkRoles db (fun _ => "role_not_found") user.userClass roleIds = .ok () ∧
      db' = roleIds.foldl (fun db roleId => insertRole db userId roleId) db := by
  unfold assignRolesToUser at h
  split at h
  · cases h
  rename_i user huser
  obtain ⟨hmem, hid⟩ := lookup_eq_some_iff.1 huser
  split at h
  · cases h
  rename_i hroles
  cases h
  exact ⟨user, hmem, hid, hroles, rfl⟩

/-- The principals of a type may hold the role. -/
def AssignableTo.Admits (assignableTo : AssignableTo) (principalType : PrincipalType) : Prop :=
  assignableTo = .all ∨ assignableTo = .only principalType

instance (assignableTo : AssignableTo) (principalType : PrincipalType) :
    Decidable (assignableTo.Admits principalType) :=
  inferInstanceAs (Decidable (_ ∨ _))

variable {assignableTo : AssignableTo} {userClass : UserClass} {scope : RoleScope}

theorem ensurePlatformRoleAssignment_eq_ok {principalType : PrincipalType}
    (h : ensurePlatformRoleAssignment roleId assignableTo scope principalType = .ok ()) :
    scope = .platform ∧ assignableTo.Admits principalType := by
  unfold ensurePlatformRoleAssignment ensureRoleAssignableToPrincipalType at h
  split_ifs at h with hscope hadmits
  exact ⟨not_not.1 hscope, hadmits⟩

theorem ensureUserCanReceivePlatformRole_eq_ok
    (h : ensureUserCanReceivePlatformRole roleId assignableTo scope userClass = .ok ()) :
    scope = .platform ∧ assignableTo.Admits .user ∧ userClass = .internalEmployee := by
  unfold ensureUserCanReceivePlatformRole at h
  split at h
  · cases h
  rename_i hok
  split_ifs at h with hclass
  obtain ⟨hscope, hadmits⟩ := ensurePlatformRoleAssignment_eq_ok hok
  exact ⟨hscope, hadmits, hclass⟩

/-- An edit that passes the check admits the principals that hold the role in one of the two
tables. -/
theorem ensureRoleAssignableToUpdateIsCompatible_eq_ok
    (h : ensureRoleAssignableToUpdateIsCompatible db roleId assignableTo = .ok ()) :
    (∀ ur ∈ db.userRoles, ur.roleId = roleId → assignableTo.Admits .user) ∧
      ∀ p ∈ db.principals, ∀ pr ∈ db.principalRoles, pr.principalId = p.id → pr.roleId = roleId →
        assignableTo.Admits p.principalType := by
  cases assignableTo with
  | all => exact ⟨fun _ _ _ => .inl rfl, fun _ _ _ _ _ _ => .inl rfl⟩
  | only =>
    simp only [ensureRoleAssignableToUpdateIsCompatible] at h
    split_ifs at h with huser
    split at h
    · cases h
    rename_i hnone
    constructor
    · rintro ur hur rfl
      by_contra hadmits
      refine huser (Bool.and_eq_true_iff.2 ⟨?_, any_eq_true.2 ⟨ur, hur, by simp⟩⟩)
      rw [bne_iff_ne]
      rintro rfl
      exact hadmits (.inr rfl)
    · rintro p hp pr hpr hid rfl
      by_contra hadmits
      have hp := List.find?_eq_none.1 hnone p hp
      refine hp (Bool.and_eq_true_iff.2 ⟨?_, any_eq_true.2 ⟨pr, hpr, by simp [hid]⟩⟩)
      rw [bne_iff_ne]
      rintro rfl
      exact hadmits (.inr rfl)

theorem writeRole_eq_ok {name : Option String} {assignableTo : Option AssignableTo}
    {system : Option Bool} {expectedVersion : Option Int}
    (h : writeRole db roleId name assignableTo system expectedVersion = .ok db') :
    ∃ roles, db' = { db with roles := roles } ∧ ∀ role, role ∈ roles ↔
      ∃ r ∈ db.roles, (if r.id == roleId && expectedVersion.all (· == r.version) then
        { r with
          name := name.getD r.name
          assignableTo := assignableTo.getD r.assignableTo
          system := system.getD r.system
          version := r.version + 1 } else r) = role := by
  simp only [writeRole] at h
  split at h
  · cases h
  split at h
  · rename_i roles hroles
    cases h
    exact ⟨roles, rfl, fun _ => mem_of_tryUpdate_eq_some hroles⟩
  · cases h

/-- The roles that pass the checks are platform roles for users, and the user is an employee. -/
theorem checkRoles_eq_ok {notFound : String → String}
    (h : checkRoles db notFound userClass roleIds = .ok ()) :
    ∀ r ∈ roleIds, userClass = .internalEmployee ∧ ∃ role ∈ db.roles, role.id = r ∧
      role.scope = .platform ∧ role.assignableTo.Admits .user := by
  induction roleIds with
  | nil => exact nofun
  | cons r roleIds ih =>
    unfold checkRoles at h
    split at h
    · cases h
    rename_i role hrole
    split at h
    · cases h
    rename_i hok
    obtain ⟨hscope, hadmits, hclass⟩ := ensureUserCanReceivePlatformRole_eq_ok hok
    obtain ⟨hmem, hid⟩ := lookup_eq_some_iff.1 hrole
    exact List.forall_mem_cons.2 ⟨⟨hclass, role, hmem, hid, hscope, hadmits⟩, ih h⟩

theorem revokeRoleFromPrincipal_eq_ok (h : revokeRoleFromPrincipal db id roleId = .ok db') :
    db' = db ∧ (∀ p ∈ db.principals, p.id ≠ id) ∨ ∃ p ∈ db.principals, p.id = id ∧
      db' = { db with
        principalRoles :=
          db.principalRoles.delete fun pr => pr.principalId == id && pr.roleId == roleId
        userRoles :=
          if p.principalType = .user then
            db.userRoles.delete fun ur => ur.userId == p.refId && ur.roleId == roleId
          else db.userRoles } := by
  unfold revokeRoleFromPrincipal at h
  split at h
  · rename_i hnone
    cases h
    exact .inl ⟨rfl, lookup_eq_none_iff.1 hnone⟩
  · rename_i p hp
    obtain ⟨hmem, hid⟩ := lookup_eq_some_iff.1 hp
    refine .inr ⟨p, hmem, hid, ?_⟩
    dsimp only at h
    split_ifs at h ⊢
    · split at h
      · cases h
      · cases h
        rfl
    · cases h
      rfl

/-- The role admits the type of the principal, and a user who gets it is an employee. -/
theorem assignRoleToPrincipal_eq_ok (h : assignRoleToPrincipal db id roleId = .ok db') :
    ∃ p ∈ db.principals, p.id = id ∧
      (∃ role ∈ db.roles, role.id = roleId ∧ role.scope = .platform ∧
        role.assignableTo.Admits p.principalType) ∧
      (p.principalType = .user → ∃ user ∈ db.users, user.id = p.refId ∧
        user.userClass = .internalEmployee) ∧
      db' = if p.principalType = .user then insertRole db p.refId roleId
        else insertPrincipalRole db id roleId := by
  unfold assignRoleToPrincipal at h
  split at h
  case h_1 p role hp hrole =>
    obtain ⟨hmem, hid⟩ := lookup_eq_some_iff.1 hp
    obtain ⟨hrole, hroleId⟩ := lookup_eq_some_iff.1 hrole
    split at h
    · cases h
    rename_i hok
    obtain ⟨hscope, hadmits⟩ := ensurePlatformRoleAssignment_eq_ok hok
    refine ⟨p, hmem, hid, ⟨role, hrole, hroleId, hscope, hadmits⟩, ?_⟩
    split_ifs at h ⊢ with hplatform
    · split at h
      · cases h
      · rename_i user huser
        obtain ⟨huser, huserId⟩ := lookup_eq_some_iff.1 huser
        split at h
        · cases h
        rename_i hreceive
        cases h
        have hclass := (ensureUserCanReceivePlatformRole_eq_ok hreceive).2.2
        exact ⟨fun _ => ⟨user, huser, huserId, hclass⟩, rfl⟩
    · cases h
      exact ⟨fun huser => absurd huser hplatform, rfl⟩
  case h_2 => cases h

end Keylo
