import Keylo.Resources.Monotone

/-!
# The resource check and the resource tree

A resource may have several permissions. The tree of a principal contains a resource, with its
ancestors, if any of them is granted to the principal in the scope of the tree. The check of the
resource asks for one of them only, the first by name, so that it denies a resource of the tree
whose other permissions are granted. Without such a resource the two agree, up to resources whose
parents form a cycle, which are not in the tree.

## Main definitions

* `IsEntitled` : the principal holds the wildcard or a permission of the resource.
* `permittedPart` : the resources of a tree that are no mere ancestors.

## Main results

* `check_agrees_iff` : when the check, the permissions and the tree agree.
* `other_permission_denied` : a resource of the tree that the check denies.
-/

namespace Keylo

open Relational Authorization Table

variable (db : Db) (principal : Principal) (c : Option String) (r : Resource)

/-- The principal holds the permission, or the wildcard, in the scope of the context. -/
def holdsIn (name : String) : Bool := holds db principal name (c.elim .platform .organization)

/-- The check of a resource by its coordinates, with a database that answers. -/
def checkResource : Except AuthError AuthorizeCheckResponse :=
  checkOne db {} principal
    { app := some r.app, resourceType := some r.resourceType, resourceCode := some r.code } c

/-- The principal holds the wildcard or one of the permissions that are bound to the resource. -/
def IsEntitled : Prop :=
  holdsIn db principal c wildcard = true ∨
    ∃ name ∈ permissionNames db r.id, holdsIn db principal c name = true

/-- The resources of the tree of a principal that are there for their own permissions. -/
def permittedPart (app resourceType : String) : List Resource :=
  (flatResources (authorizedResourcesForPrincipalInOrganization db principal.id c app
    resourceType)).filter fun r => principalHasWildcardInOrganization db principal.id c ||
      (permittedResources db (effectiveRoles db principal.id c) c app resourceType).contains r

/-- The check allows what the principal is entitled to, which is the permitted part of the tree. -/
def Agrees : Prop :=
  ∃ response, checkResource db principal c r = .ok response ∧
    (response.allowed = true ↔ IsEntitled db principal c r) ∧
    (IsEntitled db principal c r ↔ r ∈ permittedPart db principal c r.app r.resourceType)

/-- The principal holds the first permission of the resource by name. -/
def HoldsFirst : Prop :=
  ∃ name ∈ permissionNames db r.id, (∀ other ∈ permissionNames db r.id, name ≤ other) ∧
    holdsIn db principal c name = true

/-- The resources among which the parents of the resource are looked for: the active ones of the
scope, and for a principal with the wildcard those of the application and the type. -/
def parentRows : List Resource :=
  db.resources.select fun s => s.organizationId == c && s.active &&
    (!holdsIn db principal c wildcard || s.app == r.app && s.resourceType == r.resourceType)

variable {db principal c r} {name : String}

/-! ### Permissions of roles -/

theorem roleGrants_iff {roleId : String} : roleGrants db roleId name = true ↔
    ∃ rp ∈ db.rolePermissions, rp.roleId = roleId ∧ ∃ p ∈ db.permissions,
      p.id = rp.permissionId ∧ (p.name = name ∨ p.name = wildcard) := by
  simp [roleGrants]

theorem holdsIn_iff : holdsIn db principal c name = true ↔
    ∃ roleId ∈ effectiveRoles db principal.id c, roleGrants db roleId name = true := by
  cases c <;> simp [holdsIn, holds, principalHasPermission, principalHasOrganizationPermission,
    effectiveRoles, and_assoc]

theorem holdsIn_wildcard : principalHasWildcardInOrganization db principal.id c =
    holdsIn db principal c wildcard := by
  cases c <;> rfl

theorem mem_permissionNames : name ∈ permissionNames db r.id ↔
    ∃ b ∈ db.resourcePermissions, b.resourceId = r.id ∧ ∃ p ∈ db.permissions,
      p.id = b.permissionId ∧ p.name = name := by
  simp [permissionNames, and_assoc]

/-- The order by scope puts a resource of the context before the others. -/
theorem candidateResource_eq (hr : r ∈ db.resources) (hscope : r.organizationId = c)
    (hactive : r.active = true) : candidateResource db r.app r.resourceType r.code c = some r := by
  have hcandidate : r ∈ db.resources.select (isCandidate r.app r.resourceType r.code c) :=
    mem_select.2 ⟨hr, by simp [isCandidate, hscope, hactive]⟩
  cases hfirst : candidateResource db r.app r.resourceType r.code c with
  | none => simp [List.argmin_eq_none.1 hfirst] at hcandidate
  | some m =>
    have hle := List.le_of_mem_argmin hcandidate hfirst
    obtain ⟨hm, hmatch⟩ := mem_select.1 (List.argmin_mem hfirst)
    simp only [isCandidate, Bool.and_eq_true, Bool.or_eq_true, beq_iff_eq] at hmatch
    obtain ⟨⟨⟨⟨happ, htype⟩, hcode⟩, -⟩, horganization⟩ := hmatch
    have hsame : m.organizationId = c := by
      obtain hnone | hsame := horganization
      · cases c <;> simp_all
      · exact hsame
    have hidentity : m.identity = r.identity := by
      simp [Resource.identity, happ, htype, hcode, hsame, hscope]
    rw [eq_of_key hm hr hidentity]

section Agreement

variable (hr : r ∈ db.resources) (hscope : r.organizationId = c) (hactive : r.active = true)

include hr hscope hactive

/-- The check is allowed if the first permission is held. -/
theorem checkResource_eq_ok (hbound : permissionNames db r.id ≠ []) :
    ∃ response, checkResource db principal c r = .ok response ∧
      (response.allowed = true ↔ HoldsFirst db principal c r) := by
  cases hfirst : (permissionNames db r.id).argmin id with
  | none => exact absurd (List.argmin_eq_none.1 hfirst) hbound
  | some first =>
    refine ⟨decided principal first (holdsIn db principal c first), ?_, ?_⟩
    · cases c <;> simp [checkResource, checkOne, resolvePermissionTarget, permissionForResource,
        AuthorizeCheckRequest.directPermission, candidateResource_eq hr hscope hactive, hfirst,
        AuthorizationTargetKind.roleScope, checkTarget, holdsIn, hscope]
    · have hmem := List.argmin_mem hfirst
      have hle : ∀ other ∈ permissionNames db r.id, first ≤ other :=
        fun other hother => List.le_of_mem_argmin hother hfirst
      refine ⟨fun hallowed => ⟨first, hmem, hle, hallowed⟩, ?_⟩
      rintro ⟨name, hname, hle', hholds⟩
      rwa [le_antisymm (hle' first hmem) (hle name hname)] at hholds

/-- The tree looks for parents among the rows of the principal, which have them all. -/
theorem rooted_authorizedRows_iff
    (hrow : r ∈ authorizedRows db principal.id c r.app r.resourceType) :
    Rooted (orderResources (authorizedRows db principal.id c r.app r.resourceType)) r ↔
      Rooted (parentRows db principal c r) r := by
  have hids : ((orderResources (authorizedRows db principal.id c r.app r.resourceType)).map
      Resource.id).Nodup :=
    ((orderResources_perm _).map Resource.id).nodup_iff.2 nodup_authorizedRows_ids
  have hrow' : r ∈ parentRows db principal c r := by simp [parentRows, hr, hscope, hactive]
  have hparents : ∀ child ∈ authorizedRows db principal.id c r.app r.resourceType,
      ∀ p ∈ parentRows db principal c r, child.parentId = some p.id →
        p ∈ authorizedRows db principal.id c r.app r.resourceType := by
    intro child hchild p hp hparent
    rw [authorizedRows_eq, holdsIn_wildcard] at hchild ⊢
    cases hwildcard : holdsIn db principal c wildcard with
    | true => simp_all [parentRows, isSelected]
    | false =>
      simp only [parentRows, mem_select, hwildcard, Bool.and_eq_true, beq_iff_eq] at hp
      rw [hwildcard] at hchild
      exact closed_permittedAndAncestors child hchild p hp.1 hp.2.1.1 hp.2.1.2 hparent
  have hsubset : ∀ p ∈ authorizedRows db principal.id c r.app r.resourceType,
      p ∈ parentRows db principal c r := by
    intro p hp
    rw [authorizedRows_eq, holdsIn_wildcard] at hp
    cases hwildcard : holdsIn db principal c wildcard with
    | true => simp_all [parentRows, isSelected]
    | false =>
      rw [hwildcard] at hp
      have hlive := live_of_mem_permittedAndAncestors hp
      simp [parentRows, hwildcard, hlive]
  rw [← mem_orderResources] at hrow
  constructor
  · intro h
    refine h.of_parents hids (fun child hchild _ p hp hparent => ?_) hrow hrow'
    exact mem_orderResources.2 (hparents child (mem_orderResources.1 hchild) p hp hparent)
  · intro h
    refine h.of_parents (nodup_select_ids _) (fun child _ _ p hp _ => ?_) hrow' hrow
    exact hsubset p (mem_orderResources.1 hp)

variable (hkeys : ∀ b ∈ db.resourcePermissions, ∃ p ∈ db.permissions, p.id = b.permissionId)

include hkeys

/-- Without the wildcard, the permitted resources are those with a permission that is held. -/
theorem mem_permittedResources (hwildcard : holdsIn db principal c wildcard = false) :
    r ∈ permittedResources db (effectiveRoles db principal.id c) c r.app r.resourceType ↔
      IsEntitled db principal c r := by
  simp only [permittedResources, mem_select, hr, isSelected, hscope, hactive, beq_self_eq_true,
    Bool.and_true, Bool.true_and, true_and, any_eq_true, Bool.and_eq_true, beq_iff_eq,
    List.contains_iff_mem, IsEntitled, hwildcard, Bool.false_eq_true, false_or]
  constructor
  · rintro ⟨b, hb, hid, rp, hrp, hsame, hrole⟩
    obtain ⟨p, hp, hpid⟩ := hkeys b hb
    refine ⟨p.name, mem_permissionNames.2 ⟨b, hb, hid, p, hp, hpid, rfl⟩, holdsIn_iff.2 ?_⟩
    exact ⟨rp.roleId, hrole, roleGrants_iff.2
      ⟨rp, hrp, rfl, p, hp, hpid.trans hsame.symm, .inl rfl⟩⟩
  · rintro ⟨_, hname, hholds⟩
    obtain ⟨b, hb, hid, p, hp, hpid, rfl⟩ := mem_permissionNames.1 hname
    obtain ⟨roleId, hrole, hgrants⟩ := holdsIn_iff.1 hholds
    obtain ⟨rp, hrp, rfl, q, hq, hqid, hsame | hall⟩ := roleGrants_iff.1 hgrants
    · obtain rfl : q = p := eq_of_clash hq hp (by simp [clash, hsame])
      exact ⟨b, hb, hid, rp, hrp, hqid.symm.trans hpid, hrole⟩
    · have hwild : holdsIn db principal c wildcard = true :=
        holdsIn_iff.2 ⟨rp.roleId, hrole, roleGrants_iff.2 ⟨rp, hrp, rfl, q, hq, hqid, .inl hall⟩⟩
      rw [hwildcard] at hwild
      cases hwild

theorem mem_permittedPart : r ∈ permittedPart db principal c r.app r.resourceType ↔
    IsEntitled db principal c r ∧ Rooted (parentRows db principal c r) r := by
  rw [permittedPart, List.mem_filter, mem_tree_iff,
    and_congr_right (rooted_authorizedRows_iff hr hscope hactive), authorizedRows_eq,
    holdsIn_wildcard]
  cases hwildcard : holdsIn db principal c wildcard with
  | true => simp [IsEntitled, hwildcard, isSelected, hr, hscope, hactive]
  | false =>
    have hiff := mem_permittedResources hr hscope hactive hkeys hwildcard
    simp only [Bool.false_or, List.contains_iff_mem, hiff, Bool.false_eq_true, if_false]
    refine ⟨fun h => ⟨h.2, h.1.2⟩, fun h => ⟨⟨?_, h.2⟩, h.1⟩⟩
    exact mem_visibleResources_of_mem (fun s hs => (mem_select.1 hs).1) (hiff.2 h.1)

/-- The check, the permissions and the tree agree on a resource exactly if a principal that is
entitled to it holds its first permission, and the parents of the resource end at a root. -/
theorem check_agrees_iff (hbound : permissionNames db r.id ≠ []) :
    Agrees db principal c r ↔ (IsEntitled db principal c r →
      HoldsFirst db principal c r ∧ Rooted (parentRows db principal c r) r) := by
  obtain ⟨response, hcheck, hallowed⟩ :=
    @checkResource_eq_ok db principal c r hr hscope hactive hbound
  have hentitled : HoldsFirst db principal c r → IsEntitled db principal c r :=
    fun ⟨name, hname, _, hholds⟩ => .inr ⟨name, hname, hholds⟩
  simp only [Agrees, hcheck, Except.ok.injEq, exists_eq_left', hallowed,
    mem_permittedPart hr hscope hactive hkeys]
  constructor
  · rintro ⟨hfirst, hrooted⟩ h
    exact ⟨hfirst.2 h, (hrooted.1 h).2⟩
  · intro h
    exact ⟨⟨hentitled, fun he => (h he).1⟩, fun he => ⟨he, (h he).2⟩, And.left⟩

end Agreement

/-- The client that has been granted the first permission of the report. -/
def console : Principal := ⟨.client, "c", "Console", true⟩

theorem check_agrees_iff_report : Agrees reportsDb console none report :=
  (check_agrees_iff (by decide) rfl rfl (by decide) (by decide)).2 fun _ =>
    ⟨⟨"report:read", by decide, by decide, by decide⟩,
      .child (p := { id := "1", app := "crm", resourceType := "menu", code := "m" }) (by decide)
        (by decide) (.root (by decide))⟩

/-- The report has another permission, which comes first. -/
def editorsDb : Db where
  __ := reportsDb
  permissions := ⟨[{ id := "e", name := "report:edit" }, { id := "p", name := "report:read" }],
    by decide⟩
  resourcePermissions := ⟨[⟨"2", "e"⟩, ⟨"2", "p"⟩], by decide⟩

theorem other_permission_denied :
    report ∈ permittedPart editorsDb console none "crm" "report" ∧
      (checkResource editorsDb console none report).map (·.allowed) = .ok false ∧
      ¬ Agrees editorsDb console none report := by
  have hpermitted : report ∈ permittedPart editorsDb console none "crm" "report" := by decide
  have hdenied : (checkResource editorsDb console none report).map (·.allowed) = .ok false := by
    decide
  refine ⟨hpermitted, hdenied, ?_⟩
  rintro ⟨response, hcheck, hallowed, hentitled⟩
  rw [hcheck] at hdenied
  rw [show response.allowed = false from Except.ok.inj hdenied] at hallowed
  exact absurd (hallowed.2 (hentitled.2 hpermitted)) Bool.false_ne_true

end Keylo
