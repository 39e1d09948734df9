import Mathlib.Data.String.Basic
import Keylo.Http
import Keylo.Organizations
import Keylo.Text

/-!
# Authorization checks

The decision of `routes/authorization.rs`, with the queries of `db/principal.rs` it rests on. A
check resolves its target to a permission, selects the one role scope the target admits, and asks
for a role of that scope that grants the permission.

Texts are ordered by code points, which is one of the collations a database may use; only the
choice among several permissions of one resource depends on it.

## Main definitions

* `checkOne` : the decision on one check.
* `principalHasPermission`, `principalHasOrganizationPermission` : the permissions granted by
  platform roles and by the roles of one organization.
* `permissionForResource` : the permission required for a resource.
-/

namespace Keylo.Authorization

open Relational

/-- One authorization check: a permission, or the coordinates of a resource. -/
structure AuthorizeCheckRequest where
  permission : Option String := none
  app : Option String := none
  resourceType : Option String := none
  resourceCode : Option String := none
deriving DecidableEq, Repr

structure AuthorizeCheckResponse where
  allowed : Bool
  decision : String
  reason : String
  principalId : String
  matchedPermission : Option String
deriving DecidableEq, Repr

/-- What a check is about: a permission, or a resource of an organization or of the platform. -/
inductive AuthorizationTargetKind
  | permission
  | resource (organizationId : Option String)
deriving DecidableEq, Repr

structure ResolvedAuthorizationTarget where
  permissionName : Option String
  kind : AuthorizationTargetKind
deriving DecidableEq, Repr

/-- The roles a check may rest on. -/
inductive AuthorizationRoleScope
  | platform
  | organization (organizationId : String)
  | crossOrganization
deriving DecidableEq, Repr

/-- The only role scope allowed for a target under the signed context. -/
def AuthorizationTargetKind.roleScope (organizationId : Option String) :
    AuthorizationTargetKind → AuthorizationRoleScope
  | .permission => organizationId.elim .platform .organization
  | .resource (some resourceOrganizationId) =>
    if organizationId = some resourceOrganizationId then .organization resourceOrganizationId
    else .crossOrganization
  | .resource none => .platform

/-- The permission that grants everything. -/
def wildcard : String := "*:*:*"

variable (db : Db)

/-! ### Queries -/

/-- The role carries the permission or the wildcard. -/
def roleGrants (roleId permissionName : String) : Bool :=
  db.rolePermissions.any fun rp => rp.roleId == roleId &&
    db.permissions.any fun p =>
      p.id == rp.permissionId && (p.name == permissionName || p.name == wildcard)

/-- The principal is a machine, or stands for an internal employee. -/
def mayHoldPlatformRole (principal : Principal) : Bool :=
  principal.principalType != .user ||
    db.users.any fun u => u.id == principal.refId && u.userClass == .internalEmployee

def principalHasPermission (principalId permissionName : String) : Bool :=
  db.principalRoles.any fun pr => pr.principalId == principalId &&
    (db.roles.any fun r => r.id == pr.roleId && r.scope == .platform) &&
    (db.principals.any fun principal =>
      principal.id == pr.principalId && mayHoldPlatformRole db principal) &&
    roleGrants db pr.roleId permissionName

/-- The organization, the membership of the principal in it, and the principal are active. -/
def isLiveMember (organizationId principalId : String) : Bool :=
  db.memberships.any fun membership =>
    membership.organizationId == organizationId && membership.principalId == principalId &&
    membership.status == .active &&
    db.organizations.any fun organization => organization.id == membership.organizationId &&
      organization.status == .active &&
      db.principals.any fun principal => principal.id == membership.principalId &&
        principal.active && mayActInOrganization db principal organization

def principalHasOrganizationPermission (principalId organizationId permissionName : String) :
    Bool :=
  db.roleBindings.any fun binding =>
    binding.principalId == principalId && binding.organizationId == organizationId &&
    (db.roles.any fun r => r.id == binding.roleId && r.scope == .organization) &&
    isLiveMember db binding.organizationId binding.principalId &&
    roleGrants db binding.roleId permissionName

variable (app resourceType resourceCode : String) (organizationId : Option String)

/-- The active resources with the given coordinates that are visible in a context. -/
def isCandidate (r : Resource) : Bool :=
  r.app == app && r.resourceType == resourceType && r.code == resourceCode && r.active &&
    (r.organizationId == none || r.organizationId == organizationId)

/-- The candidate resource; a resource of the context comes before a platform resource. -/
def candidateResource : Option Resource :=
  (db.resources.select (isCandidate app resourceType resourceCode organizationId)).argmin fun r =>
    if r.organizationId.isSome && r.organizationId == organizationId then 0 else 1

/-- The names of the permissions bound to a resource. -/
def permissionNames (resourceId : String) : List String :=
  (db.resourcePermissions.select fun rp => rp.resourceId == resourceId).flatMap fun rp =>
    (db.permissions.select fun p => p.id == rp.permissionId).map Permission.name

/-- The first permission bound to the candidate resource, with the owner of the resource. -/
def permissionForResource : Option (String × Option String) :=
  match candidateResource db app resourceType resourceCode organizationId with
  | none => none
  | some r => ((permissionNames db r.id).argmin id).map fun name => (name, r.organizationId)

/-! ### The decision -/

/-- The errors of the two statements of a check, if they fail. -/
structure Faults where
  resolve : Option String := none
  decide : Option String := none

/-- The nonempty permission a request names directly. -/
def AuthorizeCheckRequest.directPermission (request : AuthorizeCheckRequest) : Option String :=
  (request.permission.map trim).filter fun permission => !permission.isEmpty

def resolvePermissionTarget (faults : Faults) (request : AuthorizeCheckRequest)
    (organizationId : Option String) : Except AuthError ResolvedAuthorizationTarget :=
  match request.directPermission with
  | some permission => .ok ⟨some permission, .permission⟩
  | none =>
    match request.app, request.resourceType, request.resourceCode with
    | some app, some resourceType, some resourceCode =>
      match faults.resolve with
      | some message => .error (.databaseError message)
      | none =>
        match permissionForResource db app resourceType resourceCode organizationId with
        | some (name, owner) => .ok ⟨some name, .resource owner⟩
        | none => .ok ⟨none, .resource none⟩
    | _, _, _ => .ok ⟨none, .permission⟩

variable (principal : Principal)

/-- Whether the principal holds a role of the scope that grants the permission. -/
def holds (permission : String) : AuthorizationRoleScope → Bool
  | .platform => principalHasPermission db principal.id permission
  | .organization organizationId =>
    principalHasOrganizationPermission db principal.id organizationId permission
  | .crossOrganization => false

/-- A denial because no permission was found for the target. -/
def notResolved : AuthorizeCheckResponse :=
  ⟨false, "deny", "permission_not_resolved", principal.id, none⟩

/-- The answer for a permission that was found. -/
def decided (permission : String) (allowed : Bool) : AuthorizeCheckResponse where
  allowed := allowed
  decision := if allowed then "allow" else "deny"
  reason := if allowed then "permission_granted" else "permission_not_bound"
  principalId := principal.id
  matchedPermission := some permission

/-- The answer for a target under the role scope it admits. -/
def checkTarget (faults : Faults) (principal : Principal) (permissionName : Option String) :
    AuthorizationRoleScope → Except AuthError AuthorizeCheckResponse
  | .crossOrganization => .ok (notResolved principal)
  | scope =>
    match permissionName with
    | none => .ok (notResolved principal)
    | some permission =>
      match faults.decide with
      | some message => .error (.databaseError message)
      | none => .ok (decided principal permission (holds db principal permission scope))

def checkOne (faults : Faults) (principal : Principal) (request : AuthorizeCheckRequest)
    (organizationId : Option String) : Except AuthError AuthorizeCheckResponse :=
  match resolvePermissionTarget db faults request organizationId with
  | .error e => .error e
  | .ok target =>
    checkTarget db faults principal target.permissionName (target.kind.roleScope organizationId)

end Keylo.Authorization
