import Keylo.Resources.Forest

/-!
# Trees after a grant

A principal without wildcard access sees the resources that its roles permit together with their
active ancestors in the scope, of whatever application and type. A principal with wildcard access
sees the active resources of the requested application and type, and no others. A new permission
of a role therefore never takes a resource of the requested kind out of the tree, while wildcard
access takes out the ancestors of other kinds.

## Main definitions

* `Closed` : a set of resources with their active ancestors in the scope.
* `grantPermission` : the database with one more row of `role_permissions`.

## Main results

* `closed_visibleResources` : the rounds of the recursive query are enough.
* `mem_tree_grantPermission_iff` : what remains in the tree of a principal after a grant.
-/

namespace Keylo

open Relational Authorization Table

variable {db : Db} {organizationId : Option String} {visible rows rows' : List Resource}
  {r : Resource} {n : ℕ} {principalId app resourceType : String}

/-! ### The recursive query -/

/-- The set contains the active parents in the scope of its members. -/
def Closed (db : Db) (organizationId : Option String) (visible : List Resource) : Prop :=
  ∀ child ∈ visible, ∀ p ∈ db.resources, p.organizationId = organizationId → p.active = true →
    child.parentId = some p.id → p ∈ visible

theorem mem_round : (r ∈ db.resources.select fun r => visible.contains r ||
      r.organizationId == organizationId && r.active &&
        visible.any fun child => child.parentId == some r.id) ↔
    r ∈ db.resources ∧ (r ∈ visible ∨ r.organizationId = organizationId ∧ r.active = true ∧
      ∃ child ∈ visible, child.parentId = some r.id) := by
  simp [and_assoc]

/-- What the given resources have and children pass on to their parents, the query's result
has. -/
theorem visibleResources_induction {P : Resource → Prop} (hbase : ∀ r ∈ visible, P r)
    (hstep : ∀ child p, P child → p ∈ db.resources → p.organizationId = organizationId →
      p.active = true → child.parentId = some p.id → P p) :
    ∀ r ∈ visibleResources db organizationId n visible, P r := by
  induction n generalizing visible with
  | zero => exact hbase
  | succ n ih =>
    refine ih fun r hr => ?_
    obtain ⟨hr, hvisible | ⟨horganization, hactive, child, hchild, hparent⟩⟩ := mem_round.1 hr
    · exact hbase r hvisible
    · exact hstep child r (hbase child hchild) hr horganization hactive hparent

theorem mem_visibleResources_of_mem (hsub : ∀ r ∈ visible, r ∈ db.resources) (hr : r ∈ visible) :
    r ∈ visibleResources db organizationId n visible := by
  induction n generalizing visible with
  | zero => exact hr
  | succ n ih =>
    refine ih (fun s hs => (mem_round.1 hs).1) (mem_round.2 ⟨hsub r hr, .inl hr⟩)

theorem Closed.visibleResources (h : Closed db organizationId visible)
    (hsub : ∀ r ∈ visible, r ∈ db.resources) :
    Closed db organizationId (visibleResources db organizationId n visible) := by
  have hmem : ∀ r ∈ Keylo.visibleResources db organizationId n visible, r ∈ visible :=
    visibleResources_induction (fun _ => id) fun child p hchild hp horganization hactive hparent =>
      h child hchild p hp horganization hactive hparent
  intro child hchild p hp horganization hactive hparent
  exact mem_visibleResources_of_mem hsub
    (h child (hmem child hchild) p hp horganization hactive hparent)

/-- Fewer rows are selected by a condition that is stronger, and not met by one of the rows. -/
theorem length_select_lt {R : Type*} [Keyed R] {t : Table R} {p q : R → Bool} {r : R}
    (himp : ∀ r ∈ t, q r = true → p r = true) (hr : r ∈ t) (hp : p r = true) (hq : q r = false) :
    (t.select q).length < (t.select p).length := by
  have heq : t.select q = (t.select p).filter q := by
    rw [Table.select, Table.select, List.filter_filter]
    refine List.filter_congr fun s hs => ?_
    cases hqs : q s with
    | false => rfl
    | true => rw [himp s hs hqs]; rfl
  rw [heq]
  exact List.length_filter_lt_length_iff_exists.2
    ⟨r, mem_select.2 ⟨hr, hp⟩, by simp [hq]⟩

/-- As many rounds as there are resources left to be found close the set: a round that finds no
resource leaves the set closed. -/
theorem closed_visibleResources (hsub : ∀ r ∈ visible, r ∈ db.resources)
    (hn : (db.resources.select fun r => !visible.contains r).length ≤ n) :
    Closed db organizationId (visibleResources db organizationId n visible) := by
  induction n generalizing visible with
  | zero =>
    intro child _ p hp _ _ _
    have hnil := List.length_eq_zero_iff.1 (Nat.le_zero.1 hn)
    have hnot : p ∉ db.resources.select fun r => !visible.contains r := by
      rw [hnil]
      exact List.not_mem_nil
    change p ∈ visible
    simpa [hp] using hnot
  | succ n ih =>
    by_cases hclosed : Closed db organizationId visible
    · exact hclosed.visibleResources hsub
    refine ih (fun r hr => (mem_round.1 hr).1) ?_
    simp only [Closed, not_forall] at hclosed
    obtain ⟨child, hchild, p, hp, horganization, hactive, hparent, hnot⟩ := hclosed
    have hfound := mem_round.2 ⟨hp, .inr ⟨horganization, hactive, child, hchild, hparent⟩⟩
    refine Nat.le_of_lt_succ (lt_of_lt_of_le (length_select_lt (fun r hr hleft => ?_) hp ?_ ?_) hn)
    · rw [Bool.not_eq_true', ← Bool.not_eq_true, List.contains_iff_mem] at hleft ⊢
      exact fun h => hleft (mem_round.2 ⟨hr, .inl h⟩)
    · simpa using hnot
    · rw [Bool.not_eq_false', List.contains_iff_mem]
      exact hfound

/-! ### Other sets of resources -/

/-- A resource that is rooted in one set is rooted in another, if the first contains the parents
that are visible in the second. -/
theorem Rooted.of_parents (hrooted : Rooted rows r) (hids : (rows.map Resource.id).Nodup)
    (hparents : ∀ child ∈ rows, child ∈ rows' → ∀ p ∈ rows', child.parentId = some p.id → p ∈ rows)
    (hr : r ∈ rows) (hr' : r ∈ rows') : Rooted rows' r := by
  induction hrooted with
  | @root r h =>
    refine .root (visibleParent_eq_none.2 fun id hid hmem => ?_)
    obtain ⟨p, hp, rfl⟩ := List.mem_map.1 hmem
    exact visibleParent_eq_none.1 h p.id hid (List.mem_map_of_mem (hparents r hr hr' p hp hid))
  | @child r p hp h _ ih =>
    have hparent := (visibleParent_eq_some.1 h).1
    by_cases hp' : p ∈ rows'
    · exact .child hp' (visibleParent_eq_some.2 ⟨hparent, List.mem_map_of_mem hp'⟩) (ih hp hp')
    refine .root (visibleParent_eq_none.2 fun id hid hmem => hp' ?_)
    obtain rfl : p.id = id := Option.some.inj (hparent.symm.trans hid)
    obtain ⟨q, hq, hqid⟩ := List.mem_map.1 hmem
    have hqrows := hparents r hr hr' q hq (by rw [hqid]; exact hparent)
    rwa [← List.inj_on_of_nodup_map hids hqrows hp hqid]

theorem nodup_select_ids (p : Resource → Bool) : ((db.resources.select p).map Resource.id).Nodup :=
  List.pairwise_map.2 ((db.resources.unique.filter p).imp fun hclash heq => by
    simp [clash, heq] at hclash)

theorem nodup_visibleResources_ids (h : (visible.map Resource.id).Nodup) :
    ((visibleResources db organizationId n visible).map Resource.id).Nodup := by
  induction n generalizing visible with
  | zero => exact h
  | succ n ih => exact ih (nodup_select_ids _)

/-! ### The rows of a principal -/

/-- The resources that a principal without wildcard access sees. -/
def permittedAndAncestors (db : Db) (principalId : String) (organizationId : Option String)
    (app resourceType : String) : List Resource :=
  visibleResources db organizationId (db.resources.select fun _ => true).length
    (permittedResources db (effectiveRoles db principalId organizationId) organizationId app
      resourceType)

theorem authorizedRows_eq : authorizedRows db principalId organizationId app resourceType =
    if principalHasWildcardInOrganization db principalId organizationId then
      db.resources.select (isSelected organizationId app resourceType)
    else permittedAndAncestors db principalId organizationId app resourceType := rfl

theorem closed_permittedAndAncestors : Closed db organizationId
    (permittedAndAncestors db principalId organizationId app resourceType) := by
  refine closed_visibleResources (fun r hr => (mem_select.1 hr).1) ?_
  exact (List.monotone_filter_right _ fun _ _ => rfl).length_le

/-- Every resource that is seen is an active one of the scope. -/
theorem live_of_mem_permittedAndAncestors
    (hr : r ∈ permittedAndAncestors db principalId organizationId app resourceType) :
    r ∈ db.resources ∧ r.organizationId = organizationId ∧ r.active = true := by
  refine visibleResources_induction (P := fun r =>
    r ∈ db.resources ∧ r.organizationId = organizationId ∧ r.active = true) (fun r hr => ?_)
    (fun child p _ hp horganization hactive _ => ⟨hp, horganization, hactive⟩) r hr
  obtain ⟨hr, hpermitted⟩ := mem_select.1 hr
  simp only [isSelected, Bool.and_eq_true, beq_iff_eq] at hpermitted
  exact ⟨hr, hpermitted.1.1.2, hpermitted.1.2⟩

theorem nodup_authorizedRows_ids :
    ((authorizedRows db principalId organizationId app resourceType).map Resource.id).Nodup := by
  rw [authorizedRows_eq]
  split
  · exact nodup_select_ids _
  · exact nodup_visibleResources_ids (nodup_select_ids _)

theorem mem_tree_iff :
    r ∈ flatResources (authorizedResourcesForPrincipalInOrganization db principalId organizationId
        app resourceType) ↔
      r ∈ authorizedRows db principalId organizationId app resourceType ∧
        Rooted (orderResources (authorizedRows db principalId organizationId app resourceType))
          r := by
  rw [authorizedResourcesForPrincipalInOrganization, mem_flatten_buildTree, mem_orderResources]
  exact ((orderResources_perm _).map Resource.id).nodup_iff.2 nodup_authorizedRows_ids

/-! ### One more permission -/

/-- The database with one more row of `role_permissions`. -/
def grantPermission (db : Db) (grant : RolePermission) : Db :=
  { db with rolePermissions := db.rolePermissions.insertIgnore grant }

variable {grant : RolePermission}

theorem mem_rolePermissions_grantPermission {rp : RolePermission} (h : rp ∈ db.rolePermissions) :
    rp ∈ (grantPermission db grant).rolePermissions :=
  (mem_insertIgnore fun _ _ hclash => (by simpa [clash] using hclash : _ = _).symm).2 (.inr h)

theorem roleGrants_grantPermission {roleId permissionName : String}
    (h : roleGrants db roleId permissionName = true) :
    roleGrants (grantPermission db grant) roleId permissionName = true := by
  obtain ⟨rp, hrp, hgrants⟩ := any_eq_true.1 h
  exact any_eq_true.2 ⟨rp, mem_rolePermissions_grantPermission hrp, hgrants⟩

theorem principalHasWildcard_grantPermission
    (h : principalHasWildcardInOrganization db principalId organizationId = true) :
    principalHasWildcardInOrganization (grantPermission db grant) principalId organizationId =
      true := by
  cases organizationId with
  | none =>
    obtain ⟨pr, hpr, hcondition⟩ := any_eq_true.1 h
    simp only [Bool.and_eq_true] at hcondition
    refine any_eq_true.2 ⟨pr, hpr, ?_⟩
    simp only [Bool.and_eq_true]
    exact ⟨hcondition.1, roleGrants_grantPermission hcondition.2⟩
  | some =>
    obtain ⟨binding, hbinding, hcondition⟩ := any_eq_true.1 h
    simp only [Bool.and_eq_true] at hcondition
    refine any_eq_true.2 ⟨binding, hbinding, ?_⟩
    simp only [Bool.and_eq_true]
    exact ⟨hcondition.1, roleGrants_grantPermission hcondition.2⟩

theorem effectiveRoles_grantPermission :
    effectiveRoles (grantPermission db grant) principalId organizationId =
      effectiveRoles db principalId organizationId := by
  cases organizationId <;> rfl

theorem permittedResources_grantPermission {roles : List String}
    (hr : r ∈ permittedResources db roles organizationId app resourceType) :
    r ∈ permittedResources (grantPermission db grant) roles organizationId app resourceType := by
  obtain ⟨hr, hpermitted⟩ := mem_select.1 hr
  obtain ⟨hselected, hbound⟩ := Bool.and_eq_true_iff.1 hpermitted
  obtain ⟨binding, hbinding, hgranted⟩ := any_eq_true.1 hbound
  obtain ⟨hresource, hrole⟩ := Bool.and_eq_true_iff.1 hgranted
  obtain ⟨rp, hrp, hcondition⟩ := any_eq_true.1 hrole
  refine mem_select.2 ⟨hr, Bool.and_eq_true_iff.2 ⟨hselected, any_eq_true.2
    ⟨binding, hbinding, Bool.and_eq_true_iff.2 ⟨hresource, any_eq_true.2 ?_⟩⟩⟩⟩
  exact ⟨rp, mem_rolePermissions_grantPermission hrp, hcondition⟩

theorem permittedAndAncestors_grantPermission
    (hr : r ∈ permittedAndAncestors db principalId organizationId app resourceType) :
    r ∈ permittedAndAncestors (grantPermission db grant) principalId organizationId app
      resourceType := by
  have hall : ∀ r ∈ permittedAndAncestors db principalId organizationId app resourceType,
      r ∈ permittedAndAncestors (grantPermission db grant) principalId organizationId app
        resourceType := by
    refine visibleResources_induction (fun r hr => ?_)
      fun child p hchild hp horganization hactive hparent =>
        closed_permittedAndAncestors child hchild p hp horganization hactive hparent
    refine mem_visibleResources_of_mem (fun s hs => (mem_select.1 hs).1) ?_
    rw [effectiveRoles_grantPermission]
    exact permittedResources_grantPermission hr
  exact hall r hr

/-- Without wildcard access before, what remains in the tree is what remains in the rows. -/
theorem mem_tree_of_mem_rows
    (hwildcard : principalHasWildcardInOrganization db principalId organizationId = false)
    (hr : r ∈ flatResources (authorizedResourcesForPrincipalInOrganization db principalId
      organizationId app resourceType))
    (hr' : r ∈ authorizedRows (grantPermission db grant) principalId organizationId app
      resourceType)
    (hlive : ∀ s ∈ authorizedRows (grantPermission db grant) principalId organizationId app
      resourceType, s ∈ db.resources ∧ s.organizationId = organizationId ∧ s.active = true) :
    r ∈ flatResources (authorizedResourcesForPrincipalInOrganization (grantPermission db grant)
      principalId organizationId app resourceType) := by
  have hrows : authorizedRows db principalId organizationId app resourceType =
      permittedAndAncestors db principalId organizationId app resourceType := by
    rw [authorizedRows_eq, hwildcard]
    rfl
  obtain ⟨hr, hrooted⟩ := mem_tree_iff.1 hr
  refine mem_tree_iff.2 ⟨hr', hrooted.of_parents
    (((orderResources_perm _).map Resource.id).nodup_iff.2 nodup_authorizedRows_ids)
    (fun child hchild _ p hp hparent => ?_) (mem_orderResources.2 hr) (mem_orderResources.2 hr')⟩
  rw [mem_orderResources, hrows] at hchild ⊢
  obtain ⟨hp, horganization, hactive⟩ := hlive p (mem_orderResources.1 hp)
  exact closed_permittedAndAncestors child hchild p hp horganization hactive hparent

/-- After one more permission of a role, a resource of the tree is in it as before, unless the
permission gives wildcard access that the principal did not have and the resource is an ancestor
of another application or type. -/
theorem mem_tree_grantPermission_iff (grant : RolePermission)
    (hr : r ∈ flatResources (authorizedResourcesForPrincipalInOrganization db principalId
      organizationId app resourceType)) :
    r.id ∈ (flatResources (authorizedResourcesForPrincipalInOrganization (grantPermission db grant)
        principalId organizationId app resourceType)).map Resource.id ↔
      principalHasWildcardInOrganization (grantPermission db grant) principalId organizationId =
          principalHasWildcardInOrganization db principalId organizationId ∨
        r.app = app ∧ r.resourceType = resourceType := by
  cases hbefore : principalHasWildcardInOrganization db principalId organizationId with
  | true =>
    have hafter : principalHasWildcardInOrganization (grantPermission db grant) principalId
        organizationId = true := principalHasWildcard_grantPermission hbefore
    have hrows : authorizedRows (grantPermission db grant) principalId organizationId app
        resourceType = authorizedRows db principalId organizationId app resourceType := by
      rw [authorizedRows_eq, authorizedRows_eq, hbefore, hafter]
      rfl
    refine iff_of_true (List.mem_map_of_mem ?_) (.inl hafter)
    rw [mem_tree_iff, hrows]
    exact mem_tree_iff.1 hr
  | false =>
    have hrow : r ∈ permittedAndAncestors db principalId organizationId app resourceType := by
      simpa [authorizedRows_eq, hbefore] using (mem_tree_iff.1 hr).1
    cases hafter : principalHasWildcardInOrganization (grantPermission db grant) principalId
      organizationId with
    | false =>
      have hrows : authorizedRows (grantPermission db grant) principalId organizationId app
          resourceType = permittedAndAncestors (grantPermission db grant) principalId
            organizationId app resourceType := by
        rw [authorizedRows_eq, hafter]
        rfl
      refine iff_of_true (List.mem_map_of_mem (mem_tree_of_mem_rows hbefore hr ?_ ?_)) (.inl rfl)
      · exact hrows ▸ permittedAndAncestors_grantPermission hrow
      · rw [hrows]
        intro s hs
        have hlive := live_of_mem_permittedAndAncestors hs
        exact hlive
    | true =>
      have hrows : ∀ s, s ∈ authorizedRows (grantPermission db grant) principalId organizationId
          app resourceType ↔ s ∈ db.resources ∧ s.app = app ∧ s.resourceType = resourceType ∧
            s.organizationId = organizationId ∧ s.active = true := fun s => by
        rw [authorizedRows_eq, hafter]
        simp [isSelected, and_assoc, grantPermission]
      obtain ⟨hmem, horganization, hactive⟩ := live_of_mem_permittedAndAncestors hrow
      simp only [Bool.true_eq_false, false_or]
      constructor
      · intro hid
        obtain ⟨s, hs, hsid⟩ := List.mem_map.1 hid
        obtain ⟨hs, happ, htype, -⟩ := (hrows s).1 (mem_tree_iff.1 hs).1
        obtain rfl : s = r := eq_of_key hs hmem hsid
        exact ⟨happ, htype⟩
      · rintro ⟨happ, htype⟩
        refine List.mem_map_of_mem (mem_tree_of_mem_rows hbefore hr ?_ fun s hs => ?_)
        · exact (hrows r).2 ⟨hmem, happ, htype, horganization, hactive⟩
        · obtain ⟨hs, -, -, horganization, hactive⟩ := (hrows s).1 hs
          exact ⟨hs, horganization, hactive⟩

/-- A report below a menu. -/
def report : Resource where
  id := "2"
  app := "crm"
  resourceType := "report"
  code := "r"
  parentId := some "1"

/-- The client `c` may see the report. -/
def reportsDb : Db where
  principals := .single { principalType := .client, refId := "c", displayName := "Console" }
  roles := .single { id := "r", name := "reader" }
  permissions := ⟨[{ id := "w", name := "*:*:*" }, { id := "p", name := "report:read" }], by decide⟩
  rolePermissions := .single ⟨"r", "p"⟩
  principalRoles := .single ⟨Keylo.principalId .client "c", "r"⟩
  resources := ⟨[report, { id := "1", app := "crm", resourceType := "menu", code := "m" }],
    by decide⟩
  resourcePermissions := .single ⟨"2", "p"⟩

/-- The report remains in the tree of the client when its role gets wildcard access. -/
theorem mem_tree_grantPermission_iff_report :
    ∃ r ∈ flatResources (authorizedResourcesForPrincipalInOrganization reportsDb
        (Keylo.principalId .client "c") none "crm" "report"),
      r.id = "2" ∧ (r.id ∈ (flatResources (authorizedResourcesForPrincipalInOrganization
          (grantPermission reportsDb ⟨"r", "w"⟩) (Keylo.principalId .client "c") none "crm"
          "report")).map Resource.id ↔
        principalHasWildcardInOrganization (grantPermission reportsDb ⟨"r", "w"⟩)
            (Keylo.principalId .client "c") none =
          principalHasWildcardInOrganization reportsDb (Keylo.principalId .client "c") none ∨
        r.app = "crm" ∧ r.resourceType = "report") := by
  have hr : report ∈ flatResources
      (authorizedResourcesForPrincipalInOrganization reportsDb (Keylo.principalId .client "c") none
        "crm" "report") := by decide
  exact ⟨_, hr, rfl, mem_tree_grantPermission_iff ⟨"r", "w"⟩ hr⟩

/-- The menu above the report does not. -/
theorem menu_lost_by_wildcard :
    "1" ∈ (flatResources (authorizedResourcesForPrincipalInOrganization reportsDb
        (Keylo.principalId .client "c") none "crm" "report")).map Resource.id ∧
      "1" ∉ (flatResources (authorizedResourcesForPrincipalInOrganization
        (grantPermission reportsDb ⟨"r", "w"⟩) (Keylo.principalId .client "c") none "crm"
        "report")).map Resource.id := by
  decide

end Keylo
