import Keylo.Rbac

/-!
# Grants of customer support

The functions of `db/customer_support.rs` that check the grants by which an internal employee may
read the data of a customer. Introspection asks them about the tokens of customer support.

## Main definitions

* `liveDecision` : the check of a grant against the rows that have been read for it.
* `getLiveCustomerSupportAccessContext` : the check on a database that does not change meanwhile.
-/

namespace Keylo

open Relational

/-- An identifier of a request, without the blanks around it. -/
def requiredIdentifier (field value : String) : Except String String :=
  if (trim value).isEmpty then .error (field ++ "_required") else .ok (trim value)

variable (db : Db)

/-! ### The support principal -/

/-- What is read about the principal of a grant. -/
structure CustomerSupportPrincipalState where
  principalType : PrincipalType
  principalActive : Bool
  userActive : Option Bool
  userClass : Option UserClass
  hasCustomerSupportRole : Bool
deriving DecidableEq, Repr

def hasCustomerSupportRole (principalId : String) : Bool :=
  db.principalRoles.any fun pr => pr.principalId == principalId &&
    db.roles.any fun r => r.id == pr.roleId && r.name == customerSupportRoleName &&
      r.scope == .platform && r.assignableTo == .only .user && r.system

def getLiveCustomerSupportPrincipalState (principalId : String) :
    Option CustomerSupportPrincipalState :=
  (db.principals.lookup Principal.id principalId).map fun principal =>
    let user := if principal.principalType = .user then
      db.users.lookup User.id principal.refId else none
    { principalType := principal.principalType
      principalActive := principal.active
      userActive := user.map User.active
      userClass := user.map User.userClass
      hasCustomerSupportRole := hasCustomerSupportRole db principalId }

def ensureActiveCustomerSupportPrincipal (state : CustomerSupportPrincipalState) :
    Except String Unit :=
  if state.principalType ≠ .user then .error "customer_support_principal_requires_user"
  else if !state.principalActive || state.userActive != some true then
    .error "customer_support_principal_not_active"
  else if state.userClass ≠ some .internalEmployee then
    .error "customer_support_principal_requires_internal_employee"
  else if !state.hasCustomerSupportRole then .error "customer_support_role_required"
  else .ok ()

/-- The check on the row of the organization. -/
def ensureActiveCustomerOrganization : Option Organization → Except String Unit
  | none => .error "customer_support_organization_not_found"
  | some organization =>
    if organization.kind ≠ .customer then .error "customer_support_organization_not_customer"
    else if organization.status ≠ .active then .error "customer_support_organization_not_active"
    else .ok ()

/-! ### Decisions -/

structure CustomerSupportAccessContext where
  grantId : String
  supportPrincipalId : String
  organizationId : String
  reason : String
  expiresAt : Time
  operations : List SupportOperation
deriving DecidableEq, Repr

structure CustomerSupportAccessDecision where
  allowed : Bool
  denialReason : Option String
  reasonSnapshot : String
  context : Option CustomerSupportAccessContext
deriving DecidableEq, Repr

def deniedCustomerSupportAccess (grant : Option SupportGrant) (denialReason : String) :
    CustomerSupportAccessDecision :=
  ⟨false, some denialReason, (grant.map SupportGrant.reason).getD "unavailable", none⟩

def allowedCustomerSupportAccess (grant : SupportGrant) : CustomerSupportAccessDecision :=
  ⟨true, none, grant.reason, some ⟨grant.id, grant.supportPrincipalId, grant.organizationId,
    grant.reason, grant.expiresAt, grant.operations⟩⟩

/-- The decision on a grant, from the rows that are read for it one after the other. -/
def liveDecision (now : Time) (grant : Option SupportGrant) (organization : Option Organization)
    (principal : Option CustomerSupportPrincipalState)
    (supportPrincipalId organizationId : String) : CustomerSupportAccessDecision :=
  match grant with
  | none => deniedCustomerSupportAccess none "customer_support_grant_not_found"
  | some grant =>
    let denied := deniedCustomerSupportAccess (some grant)
    if grant.supportPrincipalId ≠ supportPrincipalId then
      denied "customer_support_principal_mismatch"
    else if grant.organizationId ≠ organizationId then
      denied "customer_support_organization_mismatch"
    else if grant.revokedAt.isSome then denied "customer_support_grant_revoked"
    else if grant.expiresAt ≤ now then denied "customer_support_grant_expired"
    else
      match ensureActiveCustomerOrganization organization with
      | .error reason => denied reason
      | .ok () =>
        match principal with
        | none => denied "customer_support_principal_not_found"
        | some principal =>
          match ensureActiveCustomerSupportPrincipal principal with
          | .error reason => denied reason
          | .ok () => allowedCustomerSupportAccess grant

def getLiveCustomerSupportAccessContext (grantId supportPrincipalId organizationId : String) :
    Except String CustomerSupportAccessDecision := do
  let grantId ← requiredIdentifier "customer_support_grant_id" grantId
  let supportPrincipalId ← requiredIdentifier "customer_support_principal_id" supportPrincipalId
  let organizationId ← requiredIdentifier "customer_support_organization_id" organizationId
  pure (liveDecision db.clock (db.supportGrants.lookup SupportGrant.id grantId)
    (db.organizations.lookup Organization.id organizationId)
    (getLiveCustomerSupportPrincipalState db supportPrincipalId) supportPrincipalId organizationId)

end Keylo
