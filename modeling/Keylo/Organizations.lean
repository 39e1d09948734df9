import Keylo.Schema

/-!
# Organization managers

The checks of `db/organization.rs` on members. An active member has an active membership in an
active organization. The check that precedes every delegated write asks for more: the actor must
be a live human owner or administrator.
-/

namespace Keylo

open Relational

/-- The principal is a machine, or stands for an active user whose class is admitted by the kind
of the organization. -/
def mayActInOrganization (db : Db) (principal : Principal) (organization : Organization) : Bool :=
  principal.principalType != .user ||
    db.users.any fun u => u.id == principal.refId && u.active &&
      (u.userClass != .externalCustomer || organization.kind == .customer)

/-- The membership of an active member. -/
def getActiveOrganizationMembership (db : Db) (organizationId principalId : String) :
    Option Membership :=
  db.memberships.find? fun membership =>
    membership.organizationId == organizationId && membership.principalId == principalId &&
    membership.status == .active &&
    (db.organizations.any fun organization =>
      organization.id == organizationId && organization.status == .active &&
      db.principals.any fun principal =>
        principal.id == principalId && principal.active &&
        mayActInOrganization db principal organization)

/-- The organization exists and is active, or the error of the check. -/
def requireActiveOrganization (db : Db) (organizationId : String) (missing inactive : String) :
    Except String Organization :=
  match db.organizations.lookup Organization.id organizationId with
  | none => .error missing
  | some organization =>
    if organization.status = .active then .ok organization else .error inactive

/-- The checks on the actor of a delegated write, in the order of the source. -/
def lockActiveOrganizationManager (db : Db) (organizationId actorPrincipalId : String) :
    Except String Unit := do
  let organization ←
    requireActiveOrganization db organizationId "organization_not_found" "organization_not_active"
  let some actor := db.principals.lookup Principal.id actorPrincipalId
    | throw "organization_manager_principal_not_found"
  let user := if actor.principalType = .user then db.users.lookup User.id actor.refId else none
  if actor.principalType = .user ∧ user.isNone then
    throw "organization_principal_user_not_found"
  let some membership :=
      db.memberships.lookup Membership.key (organizationId, actorPrincipalId)
    | throw "organization_manager_membership_not_found"
  let some user := user
    | throw "organization_manager_requires_user_principal"
  if !actor.active || !user.active then
    throw "organization_manager_principal_inactive"
  if user.userClass = .externalCustomer ∧ organization.kind ≠ .customer then
    throw "external_customer_requires_customer_organization"
  if membership.status ≠ .active then
    throw "organization_manager_membership_not_active"
  if membership.managementRole = .member then
    throw "organization_manager_role_required"

end Keylo
