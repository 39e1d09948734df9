import Mathlib.Data.List.Sort
import Keylo.Authorization.Check
import Keylo.Foundation.System
import Keylo.Resources.Store

/-!
# Resource trees

The tree of the resources a principal may see, as `db/resource.rs` builds it from the rows of one
scope. The builder starts at the resources without a visible parent and descends from there, so
the resources on a cycle of parents, and those below one, are not in the tree. Nothing in the
writes of `Resources.Store` prevents such a cycle: creating an existing resource anew moves it
below any resource of its scope, itself and its own descendants included.

## Main definitions

* `buildTree` : the tree builder.
* `authorizedResourcesForPrincipalInOrganization` : the tree of a principal.
* `Resources.system` : sequences of writes.

## Main results

* `buildTree_reaches` : the tree of an acyclic set of resources contains all of them.
* `Resources.forest_of_movesOutside` : writes that move no resource below itself keep the resources
  acyclic, and their trees complete.
-/

namespace Keylo

open Relational Table

/-! ### The builder -/

/-- A resource, the permissions bound to it and the nodes below it. -/
inductive ResourceTreeNode
  | node (resource : Resource) (permissions : List Permission) (children : List ResourceTreeNode)

/-- The resource is that of the node or of one below it. -/
inductive ResourceTreeNode.Reaches : ResourceTreeNode → Resource → Prop
  | root (resource permissions children) : Reaches (.node resource permissions children) resource
  | child {resource r permissions children} {c : ResourceTreeNode} (hc : c ∈ children)
      (h : c.Reaches r) : Reaches (.node resource permissions children) r

/-- The order of siblings. -/
def Precedes (left right : Resource) : Prop :=
  left.displayOrder < right.displayOrder ∨
    left.displayOrder = right.displayOrder ∧ left.code ≤ right.code

instance : DecidableRel Precedes := fun _ _ => inferInstanceAs (Decidable (_ ∨ _))

/-- The resources on one level, in their order. -/
def orderResources (resources : List Resource) : List Resource := resources.insertionSort Precedes

/-- The two maps that the builder empties, as the lists of their entries. -/
structure TreeBuilder where
  childrenByParent : List (Option String × Resource)
  permissionMap : List (String × Permission)

/-- `children_by_parent.remove`. -/
def TreeBuilder.removeChildren (b : TreeBuilder) (parentId : Option String) :
    List Resource × TreeBuilder :=
  ((b.childrenByParent.filter fun entry => entry.1 == parentId).map Prod.snd,
    { b with childrenByParent := b.childrenByParent.filter fun entry => entry.1 != parentId })

/-- `permission_map.remove`. -/
def TreeBuilder.removePermissions (b : TreeBuilder) (resourceId : String) :
    List Permission × TreeBuilder :=
  ((b.permissionMap.filter fun entry => entry.1 == resourceId).map Prod.snd,
    { b with permissionMap := b.permissionMap.filter fun entry => entry.1 != resourceId })

/-- The nodes of the given resources, where `level` builds what is below each of them. -/
def buildNodes (level : Option String → TreeBuilder → List ResourceTreeNode × TreeBuilder) :
    List Resource → TreeBuilder → List ResourceTreeNode × TreeBuilder
  | [], b => ([], b)
  | resource :: resources, b =>
    let (permissions, b) := b.removePermissions resource.id
    let (children, b) := level (some resource.id) b
    let (nodes, b) := buildNodes level resources b
    (.node resource permissions children :: nodes, b)

/-- The nodes below a parent. Every level with a node takes an entry out of the map, so the size
of the map bounds the depth of the recursion. -/
def buildLevel : ℕ → Option String → TreeBuilder → List ResourceTreeNode × TreeBuilder
  | 0, _, b => ([], b)
  | n + 1, parentId, b =>
    let (children, b) := b.removeChildren parentId
    buildNodes (buildLevel n) (orderResources children) b

/-- The parent of a resource, if it is among the given ones. -/
def visibleParent (resources : List Resource) (resource : Resource) : Option String :=
  resource.parentId.filter fun parentId => resources.any fun r => r.id == parentId

def buildTree (resources : List Resource) (permissionMap : List (String × Permission)) :
    List ResourceTreeNode :=
  (buildLevel resources.length none
    ⟨resources.map fun r => (visibleParent resources r, r), permissionMap⟩).1

/-! ### The tree of a principal -/

variable (db : Db)

open Authorization in
/-- Wildcard access, from the roles that belong to the requested scope. -/
def principalHasWildcardInOrganization (principalId : String) : Option String → Bool
  | none => principalHasPermission db principalId wildcard
  | some organizationId => principalHasOrganizationPermission db principalId organizationId wildcard

open Authorization in
/-- The roles of the principal in the requested scope. -/
def effectiveRoles (principalId : String) : Option String → List String
  | none =>
    (db.principalRoles.select fun pr => pr.principalId == principalId &&
      (db.roles.any fun r => r.id == pr.roleId && r.scope == .platform) &&
      db.principals.any fun principal =>
        principal.id == pr.principalId && mayHoldPlatformRole db principal).map PrincipalRole.roleId
  | some organizationId =>
    (db.roleBindings.select fun binding =>
      binding.principalId == principalId && binding.organizationId == organizationId &&
      (db.roles.any fun r => r.id == binding.roleId && r.scope == .organization) &&
      isLiveMember db binding.organizationId binding.principalId).map RoleBinding.roleId

/-- The active resources of one application, type and scope. -/
def isSelected (organizationId : Option String) (app resourceType : String) (r : Resource) : Bool :=
  r.app == app && r.resourceType == resourceType && r.organizationId == organizationId && r.active

/-- The selected resources with a permission of one of the roles. -/
def permittedResources (roles : List String) (organizationId : Option String)
    (app resourceType : String) : List Resource :=
  db.resources.select fun r => isSelected organizationId app resourceType r &&
    db.resourcePermissions.any fun binding => binding.resourceId == r.id &&
      db.rolePermissions.any fun rp =>
        rp.permissionId == binding.permissionId && roles.contains rp.roleId

/-- The given resources and their active ancestors in the scope. A round of the recursive query
adds the parents of what was found, and no more rounds are needed than there are resources. -/
def visibleResources (organizationId : Option String) : ℕ → List Resource → List Resource
  | 0, visible => visible
  | n + 1, visible =>
    visibleResources organizationId n <| db.resources.select fun r => visible.contains r ||
      r.organizationId == organizationId && r.active &&
        visible.any fun child => child.parentId == some r.id

/-- The permissions bound to the given resources. -/
def resourcePermissionMap (resources : List Resource) : List (String × Permission) :=
  (db.permissions.select fun _ => true).insertionSort (fun p q => p.name ≤ q.name) |>.flatMap
    fun p => (db.resourcePermissions.select fun binding =>
      binding.permissionId == p.id && resources.any fun r => r.id == binding.resourceId).map
        fun binding => (binding.resourceId, p)

/-- The rows from which the tree of a principal is built. -/
def authorizedRows (principalId : String) (organizationId : Option String)
    (app resourceType : String) : List Resource :=
  if principalHasWildcardInOrganization db principalId organizationId then
    db.resources.select (isSelected organizationId app resourceType)
  else
    visibleResources db organizationId (db.resources.select fun _ => true).length <|
      permittedResources db (effectiveRoles db principalId organizationId) organizationId app
        resourceType

def authorizedResourcesForPrincipalInOrganization (principalId : String)
    (organizationId : Option String) (app resourceType : String) : List ResourceTreeNode :=
  let rows := orderResources (authorizedRows db principalId organizationId app resourceType)
  buildTree rows (resourcePermissionMap db rows)

/-! ### Completeness -/

variable {db} {b : TreeBuilder} {entries entries' : List (Option String × Resource)}
  {nodes : List ResourceTreeNode} {parentId : Option String}
  {level : Option String → TreeBuilder → List ResourceTreeNode × TreeBuilder}
  {resources : List Resource} {r : Resource} {n : ℕ}

/-- One of the nodes reaches the resource. -/
def Reached (nodes : List ResourceTreeNode) (r : Resource) : Prop :=
  ∃ node ∈ nodes, node.Reaches r

/-- What the builder has done when it took the map of children from `entries` to `entries'` and
made the given nodes: entries were only removed, those that were are in the nodes, and nothing is
left below a resource that is in the nodes. -/
structure Built (entries : List (Option String × Resource)) (nodes : List ResourceTreeNode)
    (entries' : List (Option String × Resource)) : Prop where
  sublist : entries'.Sublist entries
  kept : ∀ entry ∈ entries, entry ∈ entries' ∨ Reached nodes entry.2
  closed : ∀ r, Reached nodes r → ∀ entry ∈ entries', entry.1 ≠ some r.id

theorem Built.nil : Built entries [] entries where
  sublist := List.Sublist.refl _
  kept _ h := .inl h
  closed _ h := by
    obtain ⟨node, hnode, -⟩ := h
    cases hnode

theorem Built.cons {entries₁ : List (Option String × Resource)} {permissions : List Permission}
    {children : List ResourceTreeNode} (hchildren : Built entries children entries₁)
    (hparent : ∀ entry ∈ entries₁, entry.1 ≠ some r.id) (hnodes : Built entries₁ nodes entries') :
    Built entries (.node r permissions children :: nodes) entries' where
  sublist := hnodes.sublist.trans hchildren.sublist
  kept entry hentry := by
    rcases hchildren.kept entry hentry with h₁ | ⟨c, hc, hreach⟩
    · rcases hnodes.kept entry h₁ with h' | ⟨node, hnode, hreach⟩
      · exact .inl h'
      · exact .inr ⟨node, List.mem_cons_of_mem _ hnode, hreach⟩
    · exact .inr ⟨_, List.mem_cons_self, .child hc hreach⟩
  closed r' hr' entry hentry := by
    obtain ⟨node, hnode, hreach⟩ := hr'
    rcases List.mem_cons.1 hnode with rfl | hnode
    · have hentry₁ := hnodes.sublist.subset hentry
      cases hreach with
      | root => exact hparent entry hentry₁
      | child hc hreach => exact hchildren.closed r' ⟨_, hc, hreach⟩ entry hentry₁
    · exact hnodes.closed r' ⟨node, hnode, hreach⟩ entry hentry

/-- Every level of a map with at most `n` entries is built, and nothing is left below its
parent. -/
def BuildsLevels (level : Option String → TreeBuilder → List ResourceTreeNode × TreeBuilder)
    (n : ℕ) : Prop :=
  ∀ parentId b, b.childrenByParent.length ≤ n →
    Built b.childrenByParent (level parentId b).1 (level parentId b).2.childrenByParent ∧
      ∀ entry ∈ (level parentId b).2.childrenByParent, entry.1 ≠ parentId

theorem buildNodes_built (hlevel : BuildsLevels level n)
    (hb : resources ≠ [] → b.childrenByParent.length ≤ n) :
    Built b.childrenByParent (buildNodes level resources b).1
        (buildNodes level resources b).2.childrenByParent ∧
      ∀ r ∈ resources, Reached (buildNodes level resources b).1 r := by
  induction resources generalizing b with
  | nil => exact ⟨.nil, by simp⟩
  | cons resource resources ih =>
    have hb := hb (List.cons_ne_nil _ _)
    obtain ⟨hchildren, hparent⟩ := hlevel (some resource.id) (b.removePermissions resource.id).2 hb
    obtain ⟨hnodes, hreached⟩ := ih fun _ => hchildren.sublist.length_le.trans hb
    refine ⟨hchildren.cons hparent hnodes, fun r hr => ?_⟩
    rcases List.mem_cons.1 hr with rfl | hr
    · exact ⟨_, List.mem_cons_self, .root _ _ _⟩
    · obtain ⟨node, hnode, hreach⟩ := hreached r hr
      exact ⟨node, List.mem_cons_of_mem _ hnode, hreach⟩

theorem mem_orderResources : r ∈ orderResources resources ↔ r ∈ resources :=
  List.mem_insertionSort _

theorem length_removeChildren_le (hb : b.childrenByParent.length ≤ n + 1)
    (hchildren : orderResources (b.removeChildren parentId).1 ≠ []) :
    (b.removeChildren parentId).2.childrenByParent.length ≤ n := by
  obtain ⟨child, hchild⟩ := List.exists_mem_of_ne_nil _ hchildren
  obtain ⟨entry, hentry, rfl⟩ := List.mem_map.1 (mem_orderResources.1 hchild)
  obtain ⟨hentry, hparent⟩ := List.mem_filter.1 hentry
  have hlt : (b.removeChildren parentId).2.childrenByParent.length < b.childrenByParent.length :=
    List.length_filter_lt_length_iff_exists.2 ⟨entry, hentry, by simpa using hparent⟩
  omega

/-- A recursion as deep as the map is large builds every level. -/
theorem buildsLevels_buildLevel (n : ℕ) : BuildsLevels (buildLevel n) n := by
  induction n with
  | zero =>
    intro parentId b hb
    have hnil : b.childrenByParent = [] := List.length_eq_zero_iff.1 (Nat.le_zero.1 hb)
    exact ⟨.nil, by simp [buildLevel, hnil]⟩
  | succ n ih =>
    intro parentId b hb
    obtain ⟨hnodes, hreached⟩ := buildNodes_built ih
      (length_removeChildren_le hb)
    refine ⟨⟨hnodes.sublist.trans List.filter_sublist, fun entry hentry => ?_, hnodes.closed⟩,
      fun entry hentry => ?_⟩
    · by_cases hparent : entry.1 = parentId
      · have hchild : entry.2 ∈ (b.removeChildren parentId).1 :=
          List.mem_map.2 ⟨entry, List.mem_filter.2 ⟨hentry, by simp [hparent]⟩, rfl⟩
        exact .inr (hreached entry.2 (mem_orderResources.2 hchild))
      · exact hnodes.kept entry (List.mem_filter.2 ⟨hentry, by simp [hparent]⟩)
    · have hrest := (List.mem_filter.1 (hnodes.sublist.subset hentry)).2
      simpa using hrest

/-- The tree of resources among which no resource is its own ancestor contains all of them. -/
theorem buildTree_reaches {parent : String → Option String} (hacyclic : Forest.Acyclic parent)
    (hparent : ∀ r ∈ resources, parent r.id = r.parentId)
    (permissionMap : List (String × Permission)) (hr : r ∈ resources) :
    Reached (buildTree resources permissionMap) r := by
  obtain ⟨hbuilt, hroots⟩ := buildsLevels_buildLevel resources.length none
    ⟨resources.map fun r => (visibleParent resources r, r), permissionMap⟩ (by simp)
  -- From the roots downwards: a resource that was left behind has a visible parent, and nothing
  -- is left below a resource of the tree.
  have hall : ∀ id ∈ (resources.map Resource.id).toFinset,
      ∀ r ∈ resources, r.id = id → Reached (buildTree resources permissionMap) r := by
    refine hacyclic.induction _ fun id _ ih r hr hid => ?_
    subst hid
    have hentry : (visibleParent resources r, r) ∈
        resources.map fun r => (visibleParent resources r, r) := List.mem_map_of_mem hr
    rcases hbuilt.kept _ hentry with hleft | hreached
    · cases hvisible : visibleParent resources r with
      | none => exact absurd hvisible (hroots _ hleft)
      | some =>
        obtain ⟨hq, hfound⟩ := Option.filter_eq_some_iff.1 hvisible
        simp only [List.any_eq_true, beq_iff_eq] at hfound
        obtain ⟨r', hr', rfl⟩ := hfound
        have hq' : r'.id ∈ (resources.map Resource.id).toFinset := by
          simpa using ⟨r', hr', rfl⟩
        have hreached := ih r'.id hq' (by rw [hparent r hr, hq]) r' hr' rfl
        exact absurd hvisible (hbuilt.closed r' hreached _ hleft)
    · exact hreached
  exact hall r.id (by simpa using ⟨r, hr, rfl⟩) r hr rfl

namespace Resources

/-! ### Sequences of writes -/

/-- The operations that set the parent of a resource. -/
inductive Operation
  | create (organizationId : Option String) (params : CreateResourceParams) (id : String)
  | update (resourceId : String) (params : UpdateResourceParams)
  | restore (resourceId : String) (target : Resource) (expectedVersion : Nat)
deriving Repr

/-- The database after a call, successful or not. -/
def perform (db : Db) : Operation → Db
  | .create organizationId params id => (createResourceInOrganization db organizationId params id).2
  | .update resourceId params => (updateResource db resourceId params).2
  | .restore resourceId target expectedVersion =>
    (restoreResource db resourceId target expectedVersion).2

def system : Transition.System Db Operation where
  step db operation := some (perform db operation)

/-- A resource is not created below itself or below one of its own descendants. -/
def MovesOutside (db : Db) : Operation → Prop
  | .create organizationId params id => ∀ parentId, params.parentId = some parentId →
    parentId ≠ createdResourceId db organizationId params id ∧
      ¬ Forest.Ancestor db.parentOf (createdResourceId db organizationId params id) parentId
  | .update _ _ => True
  | .restore _ _ _ => True

/-- Principals with wildcard access see every active resource of the requested kind. -/
def TreesComplete (db : Db) : Prop :=
  ∀ principalId organizationId app resourceType,
    principalHasWildcardInOrganization db principalId organizationId = true →
      ∀ r ∈ db.resources, isSelected organizationId app resourceType r = true →
        Reached (authorizedResourcesForPrincipalInOrganization db principalId organizationId app
          resourceType) r

theorem treesComplete_of_acyclic (h : Forest.Acyclic db.parentOf) : TreesComplete db := by
  intro principalId organizationId app resourceType hwildcard r hr hselected
  refine buildTree_reaches h (fun s hs => ?_) _ (mem_orderResources.2 ?_)
  · rw [mem_orderResources, authorizedRows, if_pos hwildcard, mem_select] at hs
    rw [Db.parentOf, (mem_iff_lookup Resource.id).1 hs.1, Option.bind_some]
  · rw [authorizedRows, if_pos hwildcard, mem_select]
    exact ⟨hr, hselected⟩

theorem acyclic_perform {operation : Operation} (h : Forest.Acyclic db.parentOf)
    (hmoves : MovesOutside db operation) : Forest.Acyclic (perform db operation).parentOf := by
  cases operation with
  | create organizationId params id =>
    rcases parentOf_createResourceInOrganization db organizationId params id with heq | heq
    · exact heq ▸ h
    · exact heq ▸ h.update hmoves
  | update resourceId params =>
    have heq : (perform db (.update resourceId params)).parentOf = db.parentOf :=
      parentOf_updateResourceRow (fun _ => rfl) fun _ => rfl
    exact heq ▸ h
  | restore resourceId target expectedVersion =>
    have heq : (perform db (.restore resourceId target expectedVersion)).parentOf = db.parentOf :=
      parentOf_updateResourceRow (fun _ => rfl) fun _ => rfl
    exact heq ▸ h

/-- From an empty table, calls that create no resource below itself or its own descendants keep
the parent pointers acyclic, and the trees built from them complete. -/
theorem forest_of_movesOutside {operations : List Operation} (hempty : db.resources = ∅)
    (hmoves : system.Along (fun db operation _ => MovesOutside db operation) db operations) :
    system.Along (fun _ _ db' => Forest.Acyclic db'.parentOf ∧ TreesComplete db') db
      operations := by
  have hroots : ∀ id, db.parentOf id = none := fun id => by
    rw [Db.parentOf, hempty, lookup_empty, Option.bind_none]
  refine system.along_of_invariant (I := fun db => Forest.Acyclic db.parentOf) ?_
    (fun a => Forest.not_ancestor_of_root (hroots a)) hmoves
  intro db operation db' hacyclic hmoves hstep
  cases hstep
  have hacyclic' := acyclic_perform hacyclic hmoves
  exact ⟨hacyclic', hacyclic', treesComplete_of_acyclic hacyclic'⟩

/-- A database without resources, in which the client `c` has wildcard access. -/
def catalogue : Db where
  principals := .single { principalType := .client, refId := "c", displayName := "Console" }
  roles := .single { id := "r", name := "catalogue_admin" }
  permissions := .single { id := "w", name := "*:*:*" }
  rolePermissions := .single ⟨"r", "w"⟩
  principalRoles := .single ⟨principalId .client "c", "r"⟩

/-- Two menus, where the second is below the first. -/
def menus : List Operation :=
  [.create none { app := "crm", resourceType := "menu", code := "a", name := "A" } "1",
    .create none
      { app := "crm", resourceType := "menu", code := "b", name := "B", parentId := some "1" } "2"]

theorem forest_of_movesOutside_menus :
    catalogue.resources = ∅ ∧
      system.Along (fun db operation _ => MovesOutside db operation) catalogue menus ∧
      system.Along (fun _ _ db' => Forest.Acyclic db'.parentOf ∧ TreesComplete db')
        catalogue menus := by
  have hmoves : system.Along (fun db operation _ => MovesOutside db operation) catalogue menus := by
    refine ⟨by simp [MovesOutside], ?_, trivial⟩
    intro parentId hparent
    obtain rfl : "1" = parentId := by simpa using hparent
    exact ⟨by decide, Forest.not_ancestor_of_root rfl⟩
  exact ⟨rfl, hmoves, forest_of_movesOutside rfl hmoves⟩

/-- Creating the first menu again, now below the second, is accepted and closes a cycle. Neither
menu is in the tree of a principal with wildcard access any more. -/
theorem recreated_menu_below_descendant :
    ∃ db', system.run catalogue (menus ++
        [.create none
          { app := "crm", resourceType := "menu", code := "a", name := "A", parentId := some "2" }
          "3"]) = some db' ∧
      Forest.Ancestor db'.parentOf "1" "1" ∧
      principalHasWildcardInOrganization db' (principalId .client "c") none = true ∧
      (∃ r ∈ db'.resources.rows, r.id = "1" ∧ isSelected none "crm" "menu" r = true) ∧
      authorizedResourcesForPrincipalInOrganization db' (principalId .client "c") none "crm"
        "menu" = [] := by
  refine ⟨_, rfl, ?_, by decide, by decide, rfl⟩
  refine Forest.Ancestor.trans (b := "2") ?_ ?_
  · exact Forest.ancestor_of_parent rfl
  · exact Forest.ancestor_of_parent rfl

end Resources

end Keylo
