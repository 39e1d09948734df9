import Keylo.Authorization.Check

/-!
# Tenant isolation of authorization decisions

Two databases that agree on everything but the data of other organizations and the assignments of
platform roles give the same answer to every check in the context of an organization, unless the
check names a platform resource (`checkOne_isolated`).

## Main definitions

* `Agree` : the databases agree on what an organization may see.

## Main results

* `resolvePermissionTarget_eq` : the target of a check is found in the data of the organization and
  of the platform.
-/

namespace Keylo.Authorization

open Relational Table

/-- A resource of the platform or of the organization `o`. -/
def Visible (o : String) (r : Resource) : Prop :=
  r.organizationId = none ∨ r.organizationId = some o

/-- The databases agree on everything a check in the context of the organization `o` may depend
on. Nothing is said about the memberships, role bindings and resources of other organizations,
about the permissions bound to their resources, and about the roles of users and principals. -/
structure Agree (o : String) (db db' : Db) : Prop where
  users : Table.AgreeOn (fun _ => True) db.users db'.users
  principals : Table.AgreeOn (fun _ => True) db.principals db'.principals
  organizations : Table.AgreeOn (fun _ => True) db.organizations db'.organizations
  roles : Table.AgreeOn (fun _ => True) db.roles db'.roles
  permissions : Table.AgreeOn (fun _ => True) db.permissions db'.permissions
  rolePermissions : Table.AgreeOn (fun _ => True) db.rolePermissions db'.rolePermissions
  memberships : Table.AgreeOn (fun m => m.organizationId = o) db.memberships db'.memberships
  roleBindings : Table.AgreeOn (fun b => b.organizationId = o) db.roleBindings db'.roleBindings
  resources : Table.AgreeOn (Visible o) db.resources db'.resources
  resourcePermissions : ∀ r ∈ db.resources, Visible o r →
    Table.AgreeOn (fun rp => rp.resourceId = r.id) db.resourcePermissions db'.resourcePermissions

/-- The coordinates of the request name an active platform resource. -/
def NamesPlatformResource (db : Db) (request : AuthorizeCheckRequest) : Prop :=
  ∃ r ∈ db.resources, r.organizationId = none ∧ r.active = true ∧ request.app = some r.app ∧
    request.resourceType = some r.resourceType ∧ request.resourceCode = some r.code

variable {o : String} {db db' : Db}

theorem visible_of_isCandidate {app resourceType resourceCode : String} {r : Resource}
    (hr : isCandidate app resourceType resourceCode (some o) r = true) : Visible o r := by
  simp only [isCandidate, Bool.and_eq_true, Bool.or_eq_true, beq_iff_eq] at hr
  exact hr.2

/-! ### Roles of the organization -/

section Agree

variable (h : Agree o db db')

include h

theorem roleGrants_eq (roleId permissionName : String) :
    roleGrants db roleId permissionName = roleGrants db' roleId permissionName := by
  simp only [roleGrants, h.permissions.any]
  exact h.rolePermissions.any _

theorem isLiveMember_eq (principalId : String) :
    isLiveMember db o principalId = isLiveMember db' o principalId := by
  simp only [isLiveMember, mayActInOrganization, h.users.any, h.principals.any,
    h.organizations.any]
  refine h.memberships.any_eq fun m hm => ?_
  simp only [Bool.and_eq_true, beq_iff_eq] at hm
  exact hm.1.1.1

/-- Permissions in an organization come from the data of the organization only. -/
theorem principalHasOrganizationPermission_eq (principalId permissionName : String) :
    principalHasOrganizationPermission db principalId o permissionName =
      principalHasOrganizationPermission db' principalId o permissionName := by
  have hbody : ∀ d : Db, principalHasOrganizationPermission d principalId o permissionName =
      d.roleBindings.any fun binding =>
        binding.principalId == principalId && binding.organizationId == o &&
        (d.roles.any fun r => r.id == binding.roleId && r.scope == .organization) &&
        isLiveMember d o binding.principalId && roleGrants d binding.roleId permissionName := by
    intro d
    refine congrArg d.roleBindings.any (funext fun binding => ?_)
    by_cases ho : binding.organizationId = o
    · rw [ho]
    · simp [beq_false_of_ne ho]
  simp only [hbody, h.roles.any, isLiveMember_eq h, roleGrants_eq h]
  refine h.roleBindings.any_eq fun b hb => ?_
  simp only [Bool.and_eq_true, beq_iff_eq] at hb
  exact hb.1.1.1.2

/-! ### Targets -/

theorem candidateResource_eq (app resourceType resourceCode : String) :
    candidateResource db app resourceType resourceCode (some o) =
      candidateResource db' app resourceType resourceCode (some o) := by
  refine argmin_congr (fun r => h.resources.mem_select_iff fun _ => visible_of_isCandidate) ?_
  intro r hr r' hr' hrank
  obtain ⟨hmem, hcand⟩ := mem_select.1 hr
  obtain ⟨hmem', hcand'⟩ := mem_select.1 hr'
  -- the rank tells the resource of the organization from the one of the platform
  have howner : r.organizationId = r'.organizationId := by
    rcases visible_of_isCandidate hcand with hv | hv <;>
      rcases visible_of_isCandidate hcand' with hv' | hv' <;> simp [hv, hv'] at hrank ⊢
  simp only [isCandidate, Bool.and_eq_true, beq_iff_eq] at hcand hcand'
  have hidentity : r.identity = r'.identity := by
    simp only [Resource.identity, howner, hcand.1.1.1.1, hcand.1.1.1.2, hcand.1.1.2,
      hcand'.1.1.1.1, hcand'.1.1.1.2, hcand'.1.1.2]
  exact eq_of_key hmem hmem' hidentity

theorem permissionForResource_eq (app resourceType resourceCode : String) :
    permissionForResource db app resourceType resourceCode (some o) =
      permissionForResource db' app resourceType resourceCode (some o) := by
  unfold permissionForResource
  rw [← candidateResource_eq h]
  cases hcand : candidateResource db app resourceType resourceCode (some o) with
  | none => rfl
  | some r =>
    obtain ⟨hr, hvisible⟩ := mem_select.1 (List.argmin_mem hcand)
    have hbound := h.resourcePermissions r hr (visible_of_isCandidate hvisible)
    have hnames : ∀ name, name ∈ permissionNames db r.id ↔ name ∈ permissionNames db' r.id := by
      intro name
      simp only [permissionNames, List.mem_flatMap, List.mem_map]
      refine exists_congr fun rp => and_congr ?_ (exists_congr fun p => and_congr ?_ Iff.rfl)
      · exact hbound.mem_select_iff fun _ hq => by simpa using hq
      · exact h.permissions.mem_select_iff fun _ _ => trivial
    have hmin : (permissionNames db r.id).argmin id = (permissionNames db' r.id).argmin id :=
      argmin_congr hnames fun _ _ _ _ heq => heq
    simp only [hmin]

/-- The target of a check depends on the data of the organization and of the platform only. -/
theorem resolvePermissionTarget_eq (faults : Faults) (request : AuthorizeCheckRequest) :
    resolvePermissionTarget db faults request (some o) =
      resolvePermissionTarget db' faults request (some o) := by
  simp only [resolvePermissionTarget, permissionForResource_eq h]

theorem checkTarget_eq (faults : Faults) (principal : Principal) {permissionName : Option String}
    {scope : AuthorizationRoleScope}
    (hscope : ∀ name, permissionName = some name →
      scope = .organization o ∨ scope = .crossOrganization) :
    checkTarget db faults principal permissionName scope =
      checkTarget db' faults principal permissionName scope := by
  cases permissionName with
  | none => cases scope <;> rfl
  | some name =>
    rcases hscope name rfl with rfl | rfl
    · simp only [checkTarget, holds, principalHasOrganizationPermission_eq h]
    · rfl

end Agree

/-- In the context of an organization, a check is decided by platform roles, by the roles of this
organization, or not at all. -/
theorem roleScope_cases (kind : AuthorizationTargetKind) :
    kind.roleScope (some o) = .platform ∨ kind.roleScope (some o) = .organization o ∨
      kind.roleScope (some o) = .crossOrganization := by
  cases kind with
  | permission => exact .inr (.inl rfl)
  | resource owner =>
    cases owner with
    | none => exact .inl rfl
    | some o' =>
      by_cases ho : o = o'
      · exact .inr (.inl (by simp [AuthorizationTargetKind.roleScope, ho]))
      · exact .inr (.inr (by simp [AuthorizationTargetKind.roleScope, ho]))

/-- A request that names no platform resource is never decided by platform roles. -/
theorem roleScope_ne_platform {faults : Faults} {request : AuthorizeCheckRequest}
    {target : ResolvedAuthorizationTarget} {name : String}
    (hrequest : request.directPermission ≠ none ∨ ¬ NamesPlatformResource db request)
    (htarget : resolvePermissionTarget db faults request (some o) = .ok target)
    (hname : target.permissionName = some name) :
    target.kind.roleScope (some o) ≠ .platform := by
  unfold resolvePermissionTarget at htarget
  split at htarget
  · cases htarget
    nofun
  case h_2 hdirect =>
    have hplatform := hrequest.resolve_left fun hne => hne hdirect
    split at htarget
    case h_1 app resourceType resourceCode happ htype hcode =>
      split at htarget
      · cases htarget
      split at htarget
      case h_1 name' owner hres =>
        cases htarget
        unfold permissionForResource at hres
        split at hres
        · cases hres
        case h_2 r hr =>
          obtain ⟨_, -, hpair⟩ := Option.map_eq_some_iff.1 hres
          obtain ⟨hmem, hcand⟩ := mem_select.1 (List.argmin_mem hr)
          cases hpair
          rcases visible_of_isCandidate hcand with hv | hv
          · simp only [isCandidate, Bool.and_eq_true, beq_iff_eq] at hcand
            exact absurd ⟨r, hmem, hv, hcand.1.2, by rw [happ, hcand.1.1.1.1],
              by rw [htype, hcand.1.1.1.2], by rw [hcode, hcand.1.1.2]⟩ hplatform
          · simp [AuthorizationTargetKind.roleScope, hv]
      case h_2 =>
        cases htarget
        cases hname
    case h_2 =>
      cases htarget
      cases hname

/-- **Tenant isolation.**  In the context of an organization, a check that names a permission, or
coordinates of no active platform resource, has the same answer in all databases that agree on the
data of this organization and of the platform: the data of other organizations and the assignments
of platform roles neither influence a decision nor are revealed by it. -/
theorem checkOne_isolated (faults : Faults) (o : String) (db db' : Db) (principal : Principal)
    (request : AuthorizeCheckRequest) (hagree : Agree o db db')
    (hrequest : request.directPermission ≠ none ∨ ¬ NamesPlatformResource db request) :
    checkOne db faults principal request (some o) =
      checkOne db' faults principal request (some o) := by
  unfold checkOne
  rw [← resolvePermissionTarget_eq hagree]
  cases htarget : resolvePermissionTarget db faults request (some o) with
  | error => rfl
  | ok target =>
    refine checkTarget_eq hagree faults principal fun name hname => ?_
    exact (roleScope_cases target.kind).resolve_left
      (roleScope_ne_platform hrequest htarget hname)

def tenantService : Principal where
  principalType := .service
  refId := "s"
  displayName := "orders"

def tenantResource : Resource where
  id := "1"
  app := "shop"
  resourceType := "api"
  code := "orders"
  organizationId := some "o"

/-- A service of the organization `o` with a role for its only resource. -/
def tenantDb : Db where
  principals := .single tenantService
  organizations := .single { id := "o", kind := .customer }
  memberships := .single { organizationId := "o", principalId := "service-s" }
  roles := .single { id := "r", name := "reader", scope := .organization }
  permissions := .single { id := "p", name := "orders:read" }
  rolePermissions := .single ⟨"r", "p"⟩
  roleBindings := .single ⟨"o", "service-s", "r"⟩
  resources := .single tenantResource
  resourcePermissions := .single ⟨"1", "p"⟩

/-- The same database with a resource of another organization under the same coordinates, bound to
the same permission, and with a role assigned to the service itself. -/
def sharedDb : Db :=
  { tenantDb with
    principalRoles := .single ⟨"service-s", "r"⟩
    resources :=
      ⟨[tenantResource, { tenantResource with id := "2", organizationId := some "x" }], by decide⟩
    resourcePermissions := ⟨[⟨"1", "p"⟩, ⟨"2", "p"⟩], by decide⟩ }

theorem agree_sharedDb : Agree "o" tenantDb sharedDb where
  users _ _ := Iff.rfl
  principals _ _ := Iff.rfl
  organizations _ _ := Iff.rfl
  roles _ _ := Iff.rfl
  permissions _ _ := Iff.rfl
  rolePermissions _ _ := Iff.rfl
  memberships _ _ := Iff.rfl
  roleBindings _ _ := Iff.rfl
  resources r hr := by
    simp only [mem_def, single, sharedDb, tenantDb, List.mem_cons, List.not_mem_nil, or_false]
    refine ⟨.inl, fun h => h.resolve_right ?_⟩
    rintro rfl
    simp [Visible] at hr
  resourcePermissions r hr _ := by
    have hid : r.id = "1" := by
      obtain rfl : r = tenantResource := mem_single.1 hr
      rfl
    intro rp hrp
    simp only [mem_def, single, sharedDb, tenantDb, List.mem_cons, List.not_mem_nil, or_false]
    refine ⟨.inl, fun h => h.resolve_right ?_⟩
    rintro rfl
    simp [hid] at hrp

theorem checkOne_isolated_sharedDb :
    checkOne sharedDb {} tenantService
        { app := some "shop", resourceType := some "api", resourceCode := some "orders" }
        (some "o") =
      .ok (decided tenantService "orders:read" true) := by
  rw [← checkOne_isolated {} "o" tenantDb sharedDb tenantService
    { app := some "shop", resourceType := some "api", resourceCode := some "orders" }
    agree_sharedDb (.inr ?_)]
  · decide +kernel
  · rintro ⟨r, hr, hnone, -⟩
    obtain rfl : r = tenantResource := mem_single.1 hr
    cases hnone

end Keylo.Authorization
