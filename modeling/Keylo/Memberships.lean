import Keylo.Organizations
import Keylo.Users

/-!
# Organizations and their members

The transactions of `db/organization.rs` on the status of an organization and on memberships.
Memberships are written by platform administrators and, after a check of the manager's own
membership, by the owners and administrators of an organization. A change that ends an active
organization or membership also revokes sessions and discards authorization codes.

## Main definitions

* `lockOrganizationManagerContext` : the check that precedes delegated writes.
* `setOrganizationStatus`, `upsertOrganizationMembership`,
  `upsertOrganizationMembershipAsManager`, `joinOrganizationMembership`.
* `assignOrganizationRole`, `assignOrganizationRoleAsManager` : the roles of members.

## Main results

* `upsertOrganizationMembership_eq_ok`, `upsertOrganizationMembershipAsManager_eq_ok`,
  `setOrganizationStatus_eq_ok` : what the transactions write.
-/

namespace Keylo

open Relational Table

/-! ### Texts of requests -/

/-- The status with the given text (`is_valid_organization_status`). -/
def organizationStatus? : String → Option OrganizationStatus
  | "active" => some .active
  | "disabled" => some .disabled
  | "archived" => some .archived
  | _ => none

def OrganizationStatus.text : OrganizationStatus → String
  | .active => "active"
  | .disabled => "disabled"
  | .archived => "archived"

/-- The status with the given text (`is_valid_membership_status`). -/
def membershipStatus? : String → Option MembershipStatus
  | "pending" => some .pending
  | "active" => some .active
  | "suspended" => some .suspended
  | "removed" => some .removed
  | _ => none

def MembershipStatus.text : MembershipStatus → String
  | .pending => "pending"
  | .active => "active"
  | .suspended => "suspended"
  | .removed => "removed"

/-- The role with the given text (`is_valid_management_role`). -/
def managementRole? : String → Option ManagementRole
  | "member" => some .member
  | "admin" => some .admin
  | "owner" => some .owner
  | _ => none

/-- The status and the optional role of a membership request. -/
def parseMembership (status : String) (managementRole : Option String) :
    Except String (MembershipStatus × Option ManagementRole) :=
  match membershipStatus? (trim status) with
  | none => .error "invalid_organization_membership_status"
  | some status =>
    match managementRole with
    | none => .ok (status, none)
    | some role =>
      match managementRole? (trim role) with
      | none => .error "invalid_organization_management_role"
      | some role => .ok (status, some role)

variable {managementRole : Option String} {status : String}

theorem parseMembership_eq_ok {newStatus : MembershipStatus} {newRole : Option ManagementRole}
    (h : parseMembership status managementRole = .ok (newStatus, newRole)) :
    membershipStatus? (trim status) = some newStatus ∧ newRole.isSome = managementRole.isSome := by
  unfold parseMembership at h
  split at h
  · cases h
  rename_i hstatus
  split at h
  · cases h
    exact ⟨hstatus, rfl⟩
  · split at h <;> cases h
    exact ⟨hstatus, rfl⟩

/-- Lifecycle steps are reversible, and an archive is only left for an active state. -/
def isValidOrganizationStatusTransition : OrganizationStatus → OrganizationStatus → Bool
  | .active, .disabled | .active, .archived | .disabled, .active | .disabled, .archived
  | .archived, .active => true
  | current, next => current == next

/-! ### Managers -/

structure LockedOrganizationManagerContext where
  target : Principal
  targetMembership : Option Membership
  targetUserActive : Option Bool
  actorManagementRole : ManagementRole
deriving DecidableEq, Repr

variable (db : Db)

/-- The user of a principal, if it is one of a user. -/
def userOfPrincipal (principal : Principal) : Option User :=
  if principal.principalType = .user then db.users.lookup User.id principal.refId else none

/-- The checks on the actor and the target of a delegated write, in the order of the source. -/
def lockOrganizationManagerContext (organizationId actorPrincipalId targetPrincipalId : String) :
    Except String LockedOrganizationManagerContext := do
  let organization ←
    requireActiveOrganization db organizationId "organization_not_found" "organization_not_active"
  let some actor := db.principals.lookup Principal.id actorPrincipalId
    | throw "organization_manager_principal_not_found"
  let some target := db.principals.lookup Principal.id targetPrincipalId
    | throw "organization_target_principal_not_found"
  if actor.principalType = .user ∧ (userOfPrincipal db actor).isNone ∨
      target.principalType = .user ∧ (userOfPrincipal db target).isNone then
    throw "organization_principal_user_not_found"
  let some membership :=
      db.memberships.lookup Membership.key (organizationId, actorPrincipalId)
    | throw "organization_manager_membership_not_found"
  let some user := userOfPrincipal db actor
    | throw "organization_manager_requires_user_principal"
  if !actor.active || !user.active then
    throw "organization_manager_principal_inactive"
  if user.userClass = .externalCustomer ∧ organization.kind ≠ .customer then
    throw "external_customer_requires_customer_organization"
  if membership.status ≠ .active then
    throw "organization_manager_membership_not_active"
  if membership.managementRole = .member then
    throw "organization_manager_role_required"
  if (userOfPrincipal db target).any fun targetUser =>
      targetUser.userClass == .externalCustomer && organization.kind != .customer then
    throw "external_customer_requires_customer_organization"
  return {
    target := target
    targetMembership := db.memberships.lookup Membership.key (organizationId, targetPrincipalId)
    targetUserActive := (userOfPrincipal db target).map User.active
    actorManagementRole := membership.managementRole }

/-! ### Writes -/

/-- `SET status = EXCLUDED.status, management_role = COALESCE($6, management_role)`. -/
def setMembership (status : MembershipStatus) (managementRole : Option ManagementRole) :
    Assignment Membership :=
  ⟨fun m => { m with status := status, managementRole := managementRole.getD m.managementRole },
    fun _ _ => rfl⟩

variable (organizationId principalId : String)

/-- The row that a write stores for a member. -/
def membershipAfter (status : MembershipStatus)
    (managementRole : Option ManagementRole) : Membership :=
  (db.memberships.lookup Membership.key (organizationId, principalId)).elim
    ⟨organizationId, principalId, status, managementRole.getD .member⟩
    (setMembership status managementRole).apply

/-- `INSERT … ON CONFLICT (organization_id, principal_id) DO UPDATE`. -/
def writeMembership (status : MembershipStatus) (managementRole : Option ManagementRole) : Db :=
  { db with
    memberships := db.memberships.upsert
      ⟨organizationId, principalId, status, managementRole.getD .member⟩
      (setMembership status managementRole) }

/-- Revokes the live sessions of an organization. -/
def revokeOrganizationSessions (organizationId reason : String) : Db :=
  { db with
    refreshSessions := db.refreshSessions.update
      (fun s => s.organizationId == some organizationId && s.revokedAt.isNone &&
        db.clock < s.expiresAt)
      (revokeSession db.clock (some reason)) }

/-- Revokes the live sessions of a member in the organization. -/
def revokeMemberSessions (organizationId principalId reason : String) : Db :=
  { db with
    refreshSessions := db.refreshSessions.update
      (fun s => s.organizationId == some organizationId && s.principalId == principalId &&
        s.revokedAt.isNone && db.clock < s.expiresAt)
      (revokeSession db.clock (some reason)) }

/-- Discards the pending codes of an organization. -/
def discardOrganizationCodes (organizationId : String) : Db :=
  { db with
    authorizationCodes := db.authorizationCodes.delete fun code =>
      code.grant.organizationId == some organizationId && code.consumedAt.isNone }

/-- Discards the pending codes of a member in the organization. -/
def discardMemberCodes : Db :=
  { db with
    authorizationCodes := db.authorizationCodes.delete fun code =>
      code.grant.organizationId == some organizationId && code.consumedAt.isNone &&
        db.principals.any fun p =>
          p.principalType == .user && p.refId == code.grant.userId && p.id == principalId }

/-- `SET status = $2`. -/
def setStatus (status : OrganizationStatus) : Assignment Organization :=
  ⟨fun o => { o with status := status }, fun _ _ => rfl⟩

/-- `UPDATE organizations SET status = $2 WHERE id = $1`. -/
def writeStatus (organizationId : String) (status : OrganizationStatus) : Db :=
  { db with
    organizations := db.organizations.update (fun o => o.id == organizationId) (setStatus status) }

/-- Changes the status of an organization; the result is the status before. -/
def setOrganizationStatus (organizationId status : String) :
    Except String (Option OrganizationStatus × Db) :=
  match organizationStatus? (trim status) with
  | none => .error "invalid_organization_status"
  | some status =>
    match db.organizations.lookup Organization.id organizationId with
    | none => .ok (none, db)
    | some organization =>
      if !isValidOrganizationStatusTransition organization.status status then
        .error "invalid_organization_status_transition"
      else
        let db' := writeStatus db organizationId status
        if organization.status = .active ∧ status ≠ .active then
          .ok (some organization.status, discardOrganizationCodes
            (revokeOrganizationSessions db' organizationId ("organization_" ++ status.text))
            organizationId)
        else .ok (some organization.status, db')

/-- The write of a platform administrator. -/
def upsertOrganizationMembership (organizationId principalId status : String)
    (managementRole : Option String) : Except String (Membership × Db) :=
  match parseMembership status managementRole with
  | .error e => .error e
  | .ok (status, managementRole) =>
    match db.organizations.lookup Organization.id organizationId,
        db.principals.lookup Principal.id principalId with
    | some organization, some principal =>
      let userClass := (userOfPrincipal db principal).map User.userClass
      if organization.status ≠ .active ∧ (status = .pending ∨ status = .active) then
        .error "organization_not_active"
      else if status = .active ∧ principal.active = false then .error "principal_not_active"
      else if userClass = some .externalCustomer ∧ organization.kind ≠ .customer then
        .error "external_customer_requires_customer_organization"
      else if (managementRole.any (· ≠ .member)) ∧
          (principal.principalType ≠ .user ∨ userClass = none) then
        .error "organization_management_role_requires_user_principal"
      else
        let membership := membershipAfter db organizationId principalId status managementRole
        let db' := writeMembership db organizationId principalId status managementRole
        if status ≠ .active then
          .ok (membership, discardMemberCodes
            (revokeMemberSessions db' organizationId principalId
              ("organization_membership_" ++ status.text))
            organizationId principalId)
        else .ok (membership, db')
    | _, _ => .error "organization_or_principal_not_found"

/-- The write of an owner or administrator of the organization. -/
def upsertOrganizationMembershipAsManager
    (organizationId actorPrincipalId targetPrincipalId status : String)
    (managementRole : Option String) : Except String (Membership × Db) :=
  match parseMembership status managementRole with
  | .error e => .error e
  | .ok (status, managementRole) =>
    match lockOrganizationManagerContext db organizationId actorPrincipalId targetPrincipalId with
    | .error e => .error e
    | .ok context =>
      if status = .active ∧
          (context.target.active = false ∨ context.targetUserActive = some false) then
        .error "organization_target_principal_inactive"
      else if context.target.principalType ≠ .user ∧ (managementRole.any (· ≠ .member)) then
        .error "organization_management_role_requires_user_principal"
      else if context.actorManagementRole = .admin ∧ managementRole = some .owner then
        .error "organization_owner_role_required"
      else if context.actorManagementRole = .admin ∧
          (context.targetMembership.any fun m => m.managementRole = .owner) ∧
          (status ≠ .active ∨ (managementRole.any (· ≠ .owner))) then
        .error "organization_owner_role_required"
      else
        -- a repeated invitation does not downgrade an active member
        match context.targetMembership.filter fun m => status = .pending ∧ m.status = .active with
        | some membership => .ok (membership, db)
        | none =>
          let membership :=
            membershipAfter db organizationId targetPrincipalId status managementRole
          let db' := writeMembership db organizationId targetPrincipalId status managementRole
          if status ≠ .active then
            .ok (membership, revokeMemberSessions db' organizationId targetPrincipalId
              ("organization_membership_" ++ status.text))
          else .ok (membership, db')

def inviteOrganizationMemberAsManager
    (organizationId actorPrincipalId targetPrincipalId : String)
    (managementRole : Option String) : Except String (Membership × Db) :=
  upsertOrganizationMembershipAsManager db organizationId actorPrincipalId targetPrincipalId
    "pending" managementRole

def updateOrganizationMembershipAsManager
    (organizationId actorPrincipalId targetPrincipalId status : String)
    (managementRole : Option String) : Except String (Membership × Db) :=
  upsertOrganizationMembershipAsManager db organizationId actorPrincipalId targetPrincipalId
    status managementRole

/-- Accepts a pending invitation. -/
def joinOrganizationMembership (organizationId principalId : String) :
    Except String (Membership × Db) := do
  let organization ←
    requireActiveOrganization db organizationId "organization_not_found" "organization_not_active"
  let some principal := db.principals.lookup Principal.id principalId
    | throw "organization_target_principal_not_found"
  if principal.principalType ≠ .user then
    throw "organization_join_requires_user_principal"
  let some user := db.users.lookup User.id principal.refId
    | throw "organization_target_user_not_found"
  if !principal.active || !user.active then
    throw "organization_target_principal_inactive"
  if user.userClass = .externalCustomer ∧ organization.kind ≠ .customer then
    throw "external_customer_requires_customer_organization"
  let some membership := db.memberships.lookup Membership.key (organizationId, principalId)
    | throw "organization_invitation_not_found"
  if membership.status = .active then return (membership, db)
  if membership.status ≠ .pending then throw "organization_membership_not_joinable"
  return (membershipAfter db organizationId principalId .active none,
    { db with
      memberships := db.memberships.update
        (fun m => m.key == (organizationId, principalId) && m.status == .pending)
        (setMembership .active none) })

/-! ### Organization roles -/

/-- Binds a role of organizations to a principal it admits. -/
def bindOrganizationRole (organizationId : String) (principal : Principal) (role : Role) :
    Except String Db :=
  if role.scope ≠ .organization then .error "role_not_organization_scoped"
  else
    match ensureRoleAssignableToPrincipalType role.id role.assignableTo principal.principalType with
    | .error e => .error e
    | .ok () =>
      .ok { db with
        roleBindings := db.roleBindings.insertIgnore ⟨organizationId, principal.id, role.id⟩ }

/-- The principal and the role of a binding, if the organization and the membership are active. -/
def memberAndRole (organizationId principalId roleId : String) : Option (Principal × Role) := do
  let organization ← db.organizations.lookup Organization.id organizationId
  let membership ← db.memberships.lookup Membership.key (organizationId, principalId)
  let principal ← db.principals.lookup Principal.id principalId
  let role ← db.roles.lookup Role.id roleId
  guard (organization.status = .active ∧ membership.status = .active)
  return (principal, role)

def assignOrganizationRole (organizationId principalId roleId : String) : Except String Db :=
  match memberAndRole db organizationId principalId roleId with
  | none => .error "organization_membership_or_role_not_found_or_inactive"
  | some (principal, role) => bindOrganizationRole db organizationId principal role

def assignOrganizationRoleAsManager
    (organizationId actorPrincipalId targetPrincipalId roleId : String) : Except String Db := do
  let context ←
    lockOrganizationManagerContext db organizationId actorPrincipalId targetPrincipalId
  let some membership := context.targetMembership
    | throw "organization_target_membership_not_found"
  if membership.status ≠ .active ∨ context.target.active = false ∨
      context.targetUserActive = some false then
    throw "organization_target_membership_not_active"
  let some role := db.roles.lookup Role.id roleId
    | throw "organization_role_not_found"
  bindOrganizationRole db organizationId context.target role

/-! ### What the transactions do -/

variable {db} {db' : Db} {organizationId principalId actorPrincipalId targetPrincipalId : String}
  {context : LockedOrganizationManagerContext} {m membership : Membership}

/-- A delegated write is made by an active owner or administrator. -/
theorem lockOrganizationManagerContext_eq_ok
    (h : lockOrganizationManagerContext db organizationId actorPrincipalId targetPrincipalId =
      .ok context) :
    ∃ manager, db.memberships.lookup Membership.key (organizationId, actorPrincipalId) =
        some manager ∧
      manager.status = .active ∧ manager.managementRole = context.actorManagementRole ∧
      manager.managementRole ≠ .member ∧
      db.principals.lookup Principal.id targetPrincipalId = some context.target ∧
      context.targetMembership =
        db.memberships.lookup Membership.key (organizationId, targetPrincipalId) := by
  simp only [lockOrganizationManagerContext, bind, Except.bind, pure, Except.pure, throw, throwThe,
    MonadExceptOf.throw] at h
  split at h
  · cases h
  split at h
  · split at h
    · rename_i target htarget
      split at h
      · cases h
      split at h
      · rename_i manager hmanager
        split at h
        · split_ifs at h with _ _ hactive hrole
          cases h
          exact ⟨manager, hmanager, not_not.1 hactive, rfl, hrole, htarget, rfl⟩
        · cases h
      · cases h
    · cases h
  · cases h

@[simp] theorem membershipAfter_status (db : Db) (organizationId principalId : String)
    (status : MembershipStatus) (managementRole : Option ManagementRole) :
    (membershipAfter db organizationId principalId status managementRole).status = status := by
  unfold membershipAfter
  cases db.memberships.lookup Membership.key (organizationId, principalId) <;> rfl

@[simp] theorem membershipAfter_key (db : Db) (organizationId principalId : String)
    (status : MembershipStatus) (managementRole : Option ManagementRole) :
    (membershipAfter db organizationId principalId status managementRole).key =
      (organizationId, principalId) := by
  unfold membershipAfter
  cases h : db.memberships.lookup Membership.key (organizationId, principalId) with
  | none => rfl
  | some => exact (lookup_eq_some_iff.1 h).2

/-- A write stores the row of the member and leaves all others alone. -/
theorem lookup_writeMembership (status : MembershipStatus) (managementRole : Option ManagementRole)
    (key : String × String) :
    (writeMembership db organizationId principalId status managementRole).memberships.lookup
        Membership.key key =
      if (organizationId, principalId) = key then
        some (membershipAfter db organizationId principalId status managementRole)
      else db.memberships.lookup Membership.key key := by
  refine (lookup_upsert (fun _ => rfl) fun a b h => by simpa [clash] using h).trans ?_
  by_cases hkey : (organizationId, principalId) = key
  · subst hkey
    rfl
  · exact (if_neg hkey).trans (if_neg hkey).symm

theorem mem_writeMembership {status : MembershipStatus} {managementRole : Option ManagementRole} :
    m ∈ (writeMembership db organizationId principalId status managementRole).memberships ↔
      m = membershipAfter db organizationId principalId status managementRole ∨
        m ∈ db.memberships ∧ m.key ≠ (organizationId, principalId) := by
  rw [mem_iff_lookup Membership.key, lookup_writeMembership,
    mem_iff_lookup Membership.key (t := db.memberships)]
  split_ifs with hkey
  · simp [← hkey, eq_comm]
  have hne : m ≠ membershipAfter db organizationId principalId status managementRole := by
    rintro rfl
    exact hkey (membershipAfter_key ..).symm
  simp [hne, Ne.symm hkey]

/-- A delegated write leaves everything as it is, or writes one membership and revokes sessions of
the member unless the membership is active. An administrator who is no owner grants no ownership,
and writes the membership of an owner only to make it active. -/
theorem upsertOrganizationMembershipAsManager_eq_ok
    (h : upsertOrganizationMembershipAsManager db organizationId actorPrincipalId targetPrincipalId
      status managementRole = .ok (membership, db')) :
    ∃ newStatus newRole context,
      parseMembership status managementRole = .ok (newStatus, newRole) ∧
      lockOrganizationManagerContext db organizationId actorPrincipalId targetPrincipalId =
        .ok context ∧
      (context.actorManagementRole = .admin → newRole ≠ some .owner ∧
        ∀ m, context.targetMembership = some m → m.managementRole = .owner →
          newStatus = .active ∧ newRole = none) ∧
      (membership.status = .active ∧ db' = db ∨ membership.status = newStatus ∧
        db' = if newStatus ≠ .active then
          revokeMemberSessions
            (writeMembership db organizationId targetPrincipalId newStatus newRole)
            organizationId targetPrincipalId ("organization_membership_" ++ newStatus.text)
        else writeMembership db organizationId targetPrincipalId newStatus newRole) := by
  unfold upsertOrganizationMembershipAsManager at h
  split at h
  · cases h
  rename_i newStatus newRole hparse
  split at h
  · cases h
  rename_i context hlock
  split at h
  · cases h
  split at h
  · cases h
  split at h
  · cases h
  rename_i howner
  split at h
  · cases h
  rename_i htarget
  refine ⟨newStatus, newRole, context, hparse, hlock, fun hadmin => ?_, ?_⟩
  · have hrole : newRole ≠ some .owner := fun hrole => howner ⟨hadmin, hrole⟩
    refine ⟨hrole, fun m hm hmrole => ?_⟩
    simp only [hadmin, hm, hmrole, Option.any_some, decide_true, true_and, not_or,
      not_not, Option.any_eq_true, not_exists, not_and, decide_eq_true_eq] at htarget
    refine ⟨htarget.1, ?_⟩
    cases newRole with
    | none => rfl
    | some role => exact absurd (congrArg some (htarget.2 role rfl)) hrole
  · split at h
    · rename_i m hm
      cases h
      have hactive := (Option.filter_eq_some_iff.1 hm).2
      simp only [decide_eq_true_eq] at hactive
      exact .inl ⟨hactive.2, rfl⟩
    · dsimp only at h
      split at h <;> cases h
      · rename_i hinactive
        exact .inr ⟨membershipAfter_status .., (if_pos hinactive).symm⟩
      · rename_i hactive
        exact .inr ⟨membershipAfter_status .., (if_neg hactive).symm⟩

/-- A write of the platform writes one membership and, unless the membership is active, revokes the
sessions of the member and discards the pending codes. -/
theorem upsertOrganizationMembership_eq_ok
    (h : upsertOrganizationMembership db organizationId principalId status managementRole =
      .ok (membership, db')) :
    ∃ newStatus newRole principal,
      parseMembership status managementRole = .ok (newStatus, newRole) ∧
      db.principals.lookup Principal.id principalId = some principal ∧
      membership.status = newStatus ∧
      db' = if newStatus ≠ .active then
          discardMemberCodes
            (revokeMemberSessions
              (writeMembership db organizationId principalId newStatus newRole)
              organizationId principalId ("organization_membership_" ++ newStatus.text))
            organizationId principalId
        else writeMembership db organizationId principalId newStatus newRole := by
  unfold upsertOrganizationMembership at h
  split at h
  · cases h
  rename_i newStatus newRole hparse
  split at h
  · rename_i organization principal _ hprincipal
    dsimp only at h
    split_ifs at h with _ _ _ _ hinactive <;> cases h
    · exact ⟨newStatus, newRole, principal, hparse, hprincipal, membershipAfter_status ..,
        (if_pos hinactive).symm⟩
    · exact ⟨newStatus, newRole, principal, hparse, hprincipal, membershipAfter_status ..,
        (if_neg hinactive).symm⟩
  · cases h

/-- A change of status writes the organization and, if it ends an active organization, revokes its
sessions and discards its pending codes. -/
theorem setOrganizationStatus_eq_ok {previous : Option OrganizationStatus}
    (h : setOrganizationStatus db organizationId status = .ok (previous, db')) :
    (previous = none ∧ db' = db) ∨
      ∃ newStatus organization, organizationStatus? (trim status) = some newStatus ∧
        db.organizations.lookup Organization.id organizationId = some organization ∧
        db' = if organization.status = .active ∧ newStatus ≠ .active then
            discardOrganizationCodes
              (revokeOrganizationSessions (writeStatus db organizationId newStatus)
                organizationId ("organization_" ++ newStatus.text))
              organizationId
          else writeStatus db organizationId newStatus := by
  unfold setOrganizationStatus at h
  split at h
  · cases h
  rename_i newStatus hstatus
  split at h
  · cases h
    exact .inl ⟨rfl, rfl⟩
  rename_i organization horganization
  dsimp only at h
  split at h
  · cases h
  split at h <;> cases h
  · rename_i hends
    exact .inr ⟨newStatus, organization, hstatus, horganization, (if_pos hends).symm⟩
  · rename_i hends
    exact .inr ⟨newStatus, organization, hstatus, horganization, (if_neg hends).symm⟩

/-- An accepted invitation changes memberships only. -/
theorem joinOrganizationMembership_eq_ok
    (h : joinOrganizationMembership db organizationId principalId = .ok (membership, db')) :
    ∃ memberships, db' = { db with memberships } := by
  simp only [joinOrganizationMembership, bind, Except.bind, pure, Except.pure, throw, throwThe,
    MonadExceptOf.throw] at h
  split at h
  · cases h
  split at h
  · split at h
    · cases h
    · split at h
      · split_ifs at h
        split at h
        · split_ifs at h <;> cases h <;> exact ⟨_, rfl⟩
        · cases h
      · cases h
  · cases h

theorem bindOrganizationRole_eq_ok {principal : Principal} {role : Role}
    (h : bindOrganizationRole db organizationId principal role = .ok db') :
    role.assignableTo.Admits principal.principalType ∧
      db' = { db with
        roleBindings := db.roleBindings.insertIgnore ⟨organizationId, principal.id, role.id⟩ } := by
  unfold bindOrganizationRole ensureRoleAssignableToPrincipalType at h
  split_ifs at h with hscope hadmits
  cases h
  exact ⟨hadmits, rfl⟩

theorem assignOrganizationRole_eq_ok {roleId : String}
    (h : assignOrganizationRole db organizationId principalId roleId = .ok db') :
    ∃ principal ∈ db.principals, ∃ role ∈ db.roles,
      bindOrganizationRole db organizationId principal role = .ok db' := by
  unfold assignOrganizationRole at h
  split at h
  · cases h
  rename_i principal role hmember
  simp only [memberAndRole, Option.bind_eq_bind, Option.bind_eq_some_iff, Option.pure_def,
    Option.some.injEq, Prod.mk.injEq] at hmember
  obtain ⟨_, -, _, -, principal, hprincipal, role, hrole, -, -, rfl, rfl⟩ := hmember
  exact ⟨principal, (lookup_eq_some_iff.1 hprincipal).1, role,
    (lookup_eq_some_iff.1 hrole).1, h⟩

theorem assignOrganizationRoleAsManager_eq_ok {roleId : String}
    (h : assignOrganizationRoleAsManager db organizationId actorPrincipalId targetPrincipalId
      roleId = .ok db') :
    ∃ principal ∈ db.principals, ∃ role ∈ db.roles,
      bindOrganizationRole db organizationId principal role = .ok db' := by
  simp only [assignOrganizationRoleAsManager, bind, Except.bind, throw, throwThe,
    MonadExceptOf.throw] at h
  split at h
  · cases h
  rename_i context hlock
  obtain ⟨_, -, -, -, -, htarget, -⟩ := lockOrganizationManagerContext_eq_ok hlock
  split at h
  · split_ifs at h
    split at h
    · rename_i role hrole
      exact ⟨context.target, (lookup_eq_some_iff.1 htarget).1, role,
        (lookup_eq_some_iff.1 hrole).1, h⟩
    · cases h
  · cases h

end Keylo
