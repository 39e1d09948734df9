import Keylo.Foundation.System
import Keylo.Authorization.Check
import Keylo.Machines
import Keylo.Rbac

/-!
# Machines of an organization and platform roles

A service or device belongs to the platform or to one organization, and a check on a platform
resource rests on platform roles whatever the context is. The assignment of a platform role
compares the role with the type of the principal only, so a machine of an organization can receive
one and is then answered `allowed` on a platform resource (`tenant_service_allowed`). No other
operation gives such a machine a platform role (`no_platform_authority`).

## Main definitions

* `administration` : the operations on machines and roles, in any order.
* `AllowedByPlatformRole` : a check allowed on the strength of a platform role.
* `Contained` : platform roles are held by known principals that belong to no organization.

## Main results

* `Contained.execute` : what keeps platform roles contained.
* `no_platform_authority` : no check of such a machine rests on a platform role.
-/

namespace Keylo.Authorization

open Relational Transition Table

/-! ### Operations -/

/-- The tables that other parts of the program may change between two operations. -/
structure Surroundings where
  users : Table User := ∅
  clients : Table Client := ∅
  organizations : Table Organization := ∅
  memberships : Table Membership := ∅
  permissions : Table Permission := ∅
  roleBindings : Table RoleBinding := ∅
  resources : Table Resource := ∅
  resourcePermissions : Table ResourcePermission := ∅

/-- The operations on machines, principals and platform roles. -/
inductive Operation
  | createServiceClient (serviceId name : String) (organizationId : Option String)
  | createServiceClientAsOrganizationManager (organizationId actorPrincipalId : String)
      (serviceId name : String) (paramsOrganizationId : Option String)
  | createDevice (deviceId displayName : String) (organizationId : Option String)
  | createDeviceAsOrganizationManager (organizationId actorPrincipalId : String)
      (deviceId displayName : String) (paramsOrganizationId : Option String)
  | createRoleWithScope (id name : String) (assignableTo : AssignableTo) (system : Bool)
      (scope : RoleScope)
  | updateRole (roleId : String) (name : Option String) (assignableTo : Option AssignableTo)
      (system : Option Bool) (expectedVersion : Option Int)
  | assignPermissionToRole (roleId permissionId : String)
  | revokePermissionFromRole (roleId permissionId : String)
  | assignRoleToPrincipal (principalId roleId : String)
  | assignRolesToUserBatch (userId : String) (roleIds : List String)
  | revokeRoleFromPrincipal (principalId roleId : String)
  | revokeRoleFromUser (userId roleId : String)
  | environment (surroundings : Surroundings)

/-- The database after an operation. -/
def execute (db : Db) : Operation → Db
  | .createServiceClient serviceId name organizationId =>
    commit db (createServiceClient db serviceId name organizationId)
  | .createServiceClientAsOrganizationManager organizationId actor serviceId name params =>
    commit db
      (createServiceClientAsOrganizationManager db organizationId actor serviceId name params)
  | .createDevice deviceId displayName organizationId =>
    commit db (createDevice db deviceId displayName organizationId)
  | .createDeviceAsOrganizationManager organizationId actor deviceId displayName params =>
    commit db
      (createDeviceAsOrganizationManager db organizationId actor deviceId displayName params)
  | .createRoleWithScope id name assignableTo system scope =>
    commit db (createRoleWithScope db id name assignableTo system scope)
  | .updateRole roleId name assignableTo system expectedVersion =>
    commit db (updateRole db roleId name assignableTo system expectedVersion)
  | .assignPermissionToRole roleId permissionId => assignPermissionToRole db roleId permissionId
  | .revokePermissionFromRole roleId permissionId =>
    revokePermissionFromRole db roleId permissionId
  | .assignRoleToPrincipal principalId roleId =>
    commit db (assignRoleToPrincipal db principalId roleId)
  | .assignRolesToUserBatch userId roleIds => (assignRolesToUserBatch db userId roleIds).2
  | .revokeRoleFromPrincipal principalId roleId =>
    commit db (revokeRoleFromPrincipal db principalId roleId)
  | .revokeRoleFromUser userId roleId => revokeRoleFromUser db userId roleId
  | .environment surroundings =>
    { db with
      users := surroundings.users
      clients := surroundings.clients
      organizations := surroundings.organizations
      memberships := surroundings.memberships
      permissions := surroundings.permissions
      roleBindings := surroundings.roleBindings
      resources := surroundings.resources
      resourcePermissions := surroundings.resourcePermissions }

/-- The operations on machines and roles; a check changes nothing. -/
def administration : System Db Operation where
  step db operation := some (execute db operation)

/-- The check is allowed, and the roles it rests on are platform roles. -/
def AllowedByPlatformRole (db : Db) (faults : Faults) (principal : Principal)
    (request : AuthorizeCheckRequest) (organizationId : Option String) : Prop :=
  ∃ target response,
    resolvePermissionTarget db faults request organizationId = .ok target ∧
    target.kind.roleScope organizationId = .platform ∧
    checkOne db faults principal request organizationId = .ok response ∧ response.allowed = true

/-- The operation assigns no platform role to a machine of an organization. -/
def SparesTenantMachines (db : Db) : Operation → Prop
  | .assignRoleToPrincipal principalId _ => (getMachinePrincipalScope db principalId).join = none
  | _ => True

instance (db : Db) : (operation : Operation) → Decidable (SparesTenantMachines db operation)
  | .assignRoleToPrincipal principalId _ =>
    inferInstanceAs (Decidable ((getMachinePrincipalScope db principalId).join = none))
  | .createServiceClient .. | .createServiceClientAsOrganizationManager .. | .createDevice ..
  | .createDeviceAsOrganizationManager .. | .createRoleWithScope .. | .updateRole ..
  | .assignPermissionToRole .. | .revokePermissionFromRole .. | .assignRolesToUserBatch ..
  | .revokeRoleFromPrincipal .. | .revokeRoleFromUser .. | .environment .. => .isTrue trivial

/-! ### Who holds platform roles -/

/-- Services are registered, and every platform role is held by a principal that belongs to no
organization. -/
structure Contained (db : Db) : Prop where
  services : ∀ p ∈ db.principals, p.principalType = .service →
    ∃ s ∈ db.serviceClients, s.serviceId = p.refId
  holders : ∀ pr ∈ db.principalRoles,
    ∃ p ∈ db.principals, p.id = pr.principalId ∧ (p.storedScope db).join = none

variable {db db' : Db}

theorem storedScope_of_user {p : Principal} (h : p.principalType = .user) :
    p.storedScope db = none := by
  simp only [Principal.storedScope, h]

section Contained

variable (h : Contained db) {scope : Option String}

include h

/-- Roles may be added for holders that belong to no organization. -/
theorem Contained.of_roles (hprincipals : db'.principals = db.principals)
    (hservices : db'.serviceClients = db.serviceClients)
    (hscopes : db'.deviceScopes = db.deviceScopes)
    (hroles : ∀ pr ∈ db'.principalRoles, pr ∈ db.principalRoles ∨
      ∃ p ∈ db.principals, p.id = pr.principalId ∧ (p.storedScope db).join = none) :
    Contained db' := by
  have hscope : ∀ p : Principal, p.storedScope db' = p.storedScope db := fun p => by
    simp only [Principal.storedScope, hservices, hscopes]
  constructor
  · rw [hprincipals, hservices]
    exact h.services
  · simp only [hprincipals, hscope]
    exact fun pr hpr => (hroles pr hpr).elim (h.holders pr) id

/-- New principals do not disturb the holders of roles, whose scopes stay as they were. -/
theorem Contained.of_principals (hroles : db'.principalRoles = db.principalRoles)
    (hservices : ∀ p ∈ db'.principals, p.principalType = .service →
      ∃ s ∈ db'.serviceClients, s.serviceId = p.refId)
    (hkept : ∀ p ∈ db.principals, ∃ p' ∈ db'.principals, p'.id = p.id ∧
      p'.storedScope db' = p.storedScope db) : Contained db' := by
  refine ⟨hservices, fun pr hpr => ?_⟩
  obtain ⟨p, hp, hid, hscope⟩ := h.holders pr (hroles ▸ hpr)
  obtain ⟨p', hp', hid', hscope'⟩ := hkept p hp
  exact ⟨p', hp', hid'.trans hid, hscope'.symm ▸ hscope⟩

theorem Contained.upsertUser (userId displayName : String) (active : Bool) :
    Contained (upsertPrincipal db .user userId displayName active) := by
  refine h.of_principals rfl (fun p hp htype => ?_) (fun p hp => ?_)
  · obtain rfl | ⟨hp, -⟩ := mem_upsertPrincipal.1 hp
    · cases htype
    · exact h.services p hp htype
  · by_cases howner : p.owner = (.user, userId)
    · obtain ⟨htype, href⟩ := Prod.ext_iff.1 howner
      exact ⟨⟨.user, userId, displayName, active⟩, mem_upsertPrincipal.2 (.inl rfl),
        principalId_inj.2 ⟨htype.symm, href.symm⟩,
        (storedScope_of_user rfl).trans (storedScope_of_user htype).symm⟩
    · exact ⟨p, mem_upsertPrincipal.2 (.inr ⟨hp, howner⟩), rfl, rfl⟩

/-- A new service has no principal yet, so it holds no role. -/
theorem Contained.insertServiceClient {serviceId name : String}
    (hdb : insertServiceClient db serviceId name scope = .ok db') : Contained db' := by
  obtain ⟨serviceClients, memberships, hinsert, rfl⟩ := insertServiceClient_eq_ok hdb
  have hmem : ∀ s, s ∈ serviceClients ↔ _ := fun _ => mem_of_insert_eq_some hinsert
  -- a principal of the new service would have a registered service of the same id
  have hfresh : ∀ p ∈ db.principals, p.owner ≠ (.service, serviceId) := by
    intro p hp howner
    obtain ⟨htype, href⟩ := Prod.ext_iff.1 howner
    obtain ⟨s, hs, hid⟩ := h.services p hp htype
    have hclash := exists_insert_iff.1 ⟨_, hinsert⟩ s hs
    simp_all [clash, Principal.owner]
  refine h.of_principals rfl (fun p hp htype => ?_) (fun p hp => ?_)
  · obtain rfl | ⟨hp, -⟩ := mem_upsertPrincipal.1 hp
    · exact ⟨_, (hmem _).2 (.inl rfl), rfl⟩
    · obtain ⟨s, hs, hid⟩ := h.services p hp htype
      exact ⟨s, (hmem s).2 (.inr hs), hid⟩
  · refine ⟨p, mem_upsertPrincipal.2 (.inr ⟨hp, hfresh p hp⟩), rfl, ?_⟩
    have hlookup : serviceClients.lookup ServiceClient.serviceId p.refId = _ :=
      lookup_insert hinsert
    have hne : p.principalType = .service → serviceId ≠ p.refId := fun htype href =>
      hfresh p hp (Prod.ext_iff.2 ⟨htype, href.symm⟩)
    cases htype : p.principalType <;>
      simp_all [Principal.storedScope, upsertPrincipal]

/-- A new device has no principal yet, so it holds no role. -/
theorem Contained.insertDevice {deviceId displayName : String}
    (hdb : insertDevice db deviceId displayName scope = .ok db') : Contained db' := by
  obtain ⟨principals, deviceScopes, memberships, hprincipal, hscope, rfl⟩ :=
    insertDevice_eq_ok hdb
  have hmem : ∀ p, p ∈ principals ↔ _ := fun _ => mem_of_insert_eq_some hprincipal
  have hfresh : ∀ p ∈ db.principals, p.id ≠ principalId .device deviceId := by
    intro p hp hid
    have hclash := exists_insert_iff.1 ⟨_, hprincipal⟩ p hp
    obtain ⟨htype, href⟩ := principalId_inj.1 hid
    simp [clash, Principal.owner, htype, href] at hclash
  refine h.of_principals rfl (fun p hp htype => ?_) (fun p hp => ?_)
  · obtain rfl | hp := (hmem p).1 hp
    · cases htype
    · exact h.services p hp htype
  · refine ⟨p, (hmem p).2 (.inr hp), rfl, ?_⟩
    have hlookup : deviceScopes.lookup DeviceScope.principalId p.id = _ :=
      lookup_insert hscope
    rw [if_neg (hfresh p hp).symm] at hlookup
    simp only [Principal.storedScope, hlookup]

variable {roleId id : String}

theorem Contained.assignRoleToPrincipal (hspare : (getMachinePrincipalScope db id).join = none)
    (hdb : assignRoleToPrincipal db id roleId = .ok db') : Contained db' := by
  obtain ⟨p, hp, rfl, -, -, rfl⟩ := assignRoleToPrincipal_eq_ok hdb
  have hscope : (p.storedScope db).join = none := by
    simpa [getMachinePrincipalScope, lookup_eq_some_iff.2 ⟨hp, rfl⟩] using hspare
  split_ifs with htype
  · refine h.of_roles rfl rfl rfl fun pr hpr => ?_
    obtain rfl | hpr := mem_insertPrincipalRole.1 hpr
    · exact .inr ⟨p, hp, by simp [Principal.id, htype], hscope⟩
    · exact .inl hpr
  · refine h.of_roles rfl rfl rfl fun pr hpr => ?_
    obtain rfl | hpr := mem_insertPrincipalRole.1 hpr
    · exact .inr ⟨p, hp, rfl, hscope⟩
    · exact .inl hpr

theorem Contained.assignRolesToUser {userId : String} {roleIds : List String}
    (huser : ∃ p ∈ db.principals, p.owner = (.user, userId))
    (hdb : assignRolesToUser db userId roleIds = .ok db') : Contained db' := by
  obtain ⟨-, -, -, -, rfl⟩ := assignRolesToUser_eq_ok hdb
  obtain ⟨userRoles, principalRoles, hfold, -, hroles⟩ := foldl_insertRole db userId roleIds
  rw [hfold]
  refine h.of_roles rfl rfl rfl fun pr hpr => ?_
  obtain ⟨r, -, rfl⟩ | hpr := (hroles pr).1 hpr
  · obtain ⟨p, hp, howner⟩ := huser
    obtain ⟨htype, href⟩ := Prod.ext_iff.1 howner
    exact .inr ⟨p, hp, principalId_inj.2 ⟨htype, href⟩, by rw [storedScope_of_user htype]; rfl⟩
  · exact .inl hpr

theorem Contained.assignRolesToUserBatch (userId : String) (roleIds : List String) :
    Contained (assignRolesToUserBatch db userId roleIds).2 := by
  unfold Keylo.assignRolesToUserBatch
  split
  · exact h
  rename_i db₁ hensure
  obtain ⟨owner, -, rfl⟩ := Option.map_eq_some_iff.1 hensure
  have h₁ := h.upsertUser userId owner.1 owner.2
  split_ifs
  · exact h₁
  split
  · exact h₁
  · rename_i hassign
    exact h₁.assignRolesToUser ⟨_, mem_upsertPrincipal.2 (.inl rfl), rfl⟩ hassign

theorem Contained.revokeRoleFromPrincipal (hdb : revokeRoleFromPrincipal db id roleId = .ok db') :
    Contained db' := by
  obtain ⟨rfl, -⟩ | ⟨p, -, -, rfl⟩ := revokeRoleFromPrincipal_eq_ok hdb
  · exact h
  · exact h.of_roles rfl rfl rfl fun pr hpr => .inl (mem_delete.1 hpr).1

theorem Contained.updateRole {name : Option String} {assignableTo : Option AssignableTo}
    {system : Option Bool} {expectedVersion : Option Int}
    (hdb : updateRole db roleId name assignableTo system expectedVersion = .ok db') :
    Contained db' := by
  unfold Keylo.updateRole at hdb
  split at hdb
  · cases hdb
  · obtain ⟨roles, rfl, -⟩ := writeRole_eq_ok hdb
    exact h.of_roles rfl rfl rfl fun _ => .inl

/-- A transaction keeps platform roles contained if it does so when it commits. -/
theorem Contained.commit {result : Except String Db}
    (hok : ∀ db', result = .ok db' → Contained db') : Contained (commit db result) := by
  cases result with
  | error => exact h
  | ok db' => exact hok db' rfl

/-- Platform roles stay contained, unless one is assigned to a machine of an organization. -/
theorem Contained.execute (operation : Operation) (hspare : SparesTenantMachines db operation) :
    Contained (execute db operation) := by
  cases operation with
  | createServiceClient =>
    refine h.commit fun db' hdb => ?_
    obtain ⟨scope, hinsert⟩ := createServiceClient_eq_ok hdb
    exact h.insertServiceClient hinsert
  | createServiceClientAsOrganizationManager =>
    exact h.commit fun db' hdb =>
      h.insertServiceClient (createServiceClientAsOrganizationManager_eq_ok hdb)
  | createDevice =>
    refine h.commit fun db' hdb => ?_
    obtain ⟨scope, hinsert⟩ := createDevice_eq_ok hdb
    exact h.insertDevice hinsert
  | createDeviceAsOrganizationManager =>
    exact h.commit fun db' hdb =>
      h.insertDevice (createDeviceAsOrganizationManager_eq_ok hdb)
  | createRoleWithScope =>
    refine h.commit fun db' hdb => ?_
    unfold createRoleWithScope at hdb
    split at hdb <;> cases hdb
    exact h.of_roles rfl rfl rfl fun _ => .inl
  | updateRole =>
    exact h.commit fun db' hdb => h.updateRole hdb
  | assignPermissionToRole | revokePermissionFromRole | environment =>
    exact h.of_roles rfl rfl rfl fun _ => .inl
  | assignRoleToPrincipal =>
    exact h.commit fun db' hdb => h.assignRoleToPrincipal hspare hdb
  | assignRolesToUserBatch userId roleIds => exact h.assignRolesToUserBatch userId roleIds
  | revokeRoleFromPrincipal =>
    exact h.commit fun db' hdb => h.revokeRoleFromPrincipal hdb
  | revokeRoleFromUser =>
    unfold Authorization.execute revokeRoleFromUser
    dsimp only
    split
    · exact h
    · exact h.of_roles rfl rfl rfl fun pr hpr => .inl (mem_delete.1 hpr).1

end Contained

/-! ### Checks of machines -/

variable {request : AuthorizeCheckRequest} {organizationId : Option String} {principal : Principal}
  {faults : Faults}

/-- A check that is allowed under the platform scope rests on a role of the principal. -/
theorem AllowedByPlatformRole.exists_role
    (h : AllowedByPlatformRole db faults principal request organizationId) :
    ∃ pr ∈ db.principalRoles, pr.principalId = principal.id := by
  obtain ⟨target, response, htarget, hscope, hcheck, hallowed⟩ := h
  simp only [checkOne, htarget, hscope, checkTarget] at hcheck
  split at hcheck
  · cases hcheck
    cases hallowed
  split at hcheck
  · cases hcheck
  cases hcheck
  obtain ⟨pr, hpr, hgrant⟩ := any_eq_true.1 hallowed
  simp only [Bool.and_eq_true, beq_iff_eq] at hgrant
  exact ⟨pr, hpr, hgrant.1.1.1⟩

theorem Contained.not_allowedByPlatformRole (h : Contained db)
    (htenant : (getMachinePrincipalScope db principal.id).join.isSome) :
    ¬ AllowedByPlatformRole db faults principal request organizationId := by
  intro hallowed
  obtain ⟨pr, hpr, hid⟩ := hallowed.exists_role
  obtain ⟨p, hp, hpid, hscope⟩ := h.holders pr hpr
  have hlookup : db.principals.lookup Principal.id principal.id = some p :=
    lookup_eq_some_iff.2 ⟨hp, hpid.trans hid⟩
  simp [getMachinePrincipalScope, hlookup, hscope] at htenant

/-- In every state reached by operations that assign no platform role to a machine of an
organization, no such machine is answered `allowed` on the strength of a platform role. -/
theorem no_platform_authority (db db' : Db) (operations : List Operation) (hdb : Contained db)
    (hspare : administration.Along (fun db operation _ => SparesTenantMachines db operation) db
      operations)
    (hrun : administration.run db operations = some db') (faults : Faults)
    (principal : Principal) (request : AuthorizeCheckRequest) (organizationId : Option String)
    (htenant : (getMachinePrincipalScope db' principal.id).join.isSome) :
    ¬ AllowedByPlatformRole db' faults principal request organizationId := by
  have hcontained : Contained db' := by
    refine administration.run_invariant_along (fun s l s' hs hspare hstep => ?_) hdb hspare hrun
    cases hstep
    exact hs.execute l hspare
  exact hcontained.not_allowedByPlatformRole htenant

/-- An organization, and a platform role for a platform resource. -/
def platformDb : Db where
  organizations := .single { id := "o", kind := .customer }
  roles := .single { id := "r", name := "reader", scope := .platform }
  permissions := .single { id := "p", name := "jobs:read" }
  rolePermissions := .single ⟨"r", "p"⟩
  resources := .single { id := "1", app := "ops", resourceType := "api", code := "jobs" }
  resourcePermissions := .single ⟨"1", "p"⟩

def tenantMachine : Principal where
  principalType := .service
  refId := "s"
  displayName := "orders"

def jobsRequest : AuthorizeCheckRequest where
  app := some "ops"
  resourceType := some "api"
  resourceCode := some "jobs"

/-- The role goes to a service of the platform; the service of the organization stays without. -/
theorem no_platform_authority_platformDb :
    ∃ db', administration.run platformDb
        [.createServiceClient "s" "orders" (some "o"), .createServiceClient "t" "jobs" none,
          .assignRoleToPrincipal "service-t" "r"] = some db' ∧
      getMachinePrincipalScope db' "service-s" = some (some "o") ∧
      ¬ AllowedByPlatformRole db' {} tenantMachine jobsRequest (some "o") := by
  refine ⟨_, rfl, by decide +kernel, ?_⟩
  refine no_platform_authority platformDb _
    [.createServiceClient "s" "orders" (some "o"), .createServiceClient "t" "jobs" none,
      .assignRoleToPrincipal "service-t" "r"] ⟨?_, ?_⟩ (by decide +kernel) rfl {} tenantMachine
    jobsRequest (some "o") (by decide +kernel)
  · exact fun p hp => absurd hp not_mem_empty
  · exact fun pr hpr => absurd hpr not_mem_empty

/-- A service of an organization receives a platform role and may then use a platform resource,
under the context of the organization. -/
theorem tenant_service_allowed :
    ∃ db', administration.run platformDb
        [.createServiceClient "s" "orders" (some "o"), .assignRoleToPrincipal "service-s" "r"] =
          some db' ∧
      getMachinePrincipalScope db' "service-s" = some (some "o") ∧
      AllowedByPlatformRole db' {} tenantMachine jobsRequest (some "o") :=
  ⟨_, rfl, by decide +kernel, ⟨some "jobs:read", .resource none⟩,
    decided tenantMachine "jobs:read" true, by decide +kernel, rfl, by decide +kernel, rfl⟩

end Keylo.Authorization
