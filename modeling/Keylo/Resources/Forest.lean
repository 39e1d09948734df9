import Keylo.Resources.Tree

/-!
# The forest of a list of resources

`build_tree` empties two maps while it descends, so that a node below one resource is only right
if its entries were not taken out by another. Here the builder is followed with what it leaves in
the maps, and compared with the forest that the parent pointers describe.

## Main definitions

* `flatten` : the nodes of a forest, each before those below it.
* `IsForestOf` : the forest that the parents, permissions and order of the resources describe.
* `Rooted` : the parents of a resource end at one without a visible parent.

## Main results

* `mem_flatten_buildTree` : the resources of the tree are the rooted ones.
* `buildTree_isForestOf` : the tree of an acyclic list of resources is its forest.
-/

namespace Keylo

/-! ### Nodes -/

namespace ResourceTreeNode

def resource : ResourceTreeNode → Resource
  | .node resource _ _ => resource

def permissions : ResourceTreeNode → List Permission
  | .node _ permissions _ => permissions

def children : ResourceTreeNode → List ResourceTreeNode
  | .node _ _ children => children

end ResourceTreeNode

mutual

/-- A node and the nodes below it. -/
def ResourceTreeNode.flatten : ResourceTreeNode → List ResourceTreeNode
  | .node resource permissions children =>
    .node resource permissions children :: flatten children

/-- The nodes of a forest. -/
def flatten : List ResourceTreeNode → List ResourceTreeNode
  | [] => []
  | node :: nodes => node.flatten ++ flatten nodes

end

/-- The resources of a forest. -/
def flatResources (nodes : List ResourceTreeNode) : List Resource :=
  (flatten nodes).map ResourceTreeNode.resource

/-- The values that the entries of a map hold for a key. -/
def valuesOf {κ ν : Type*} [BEq κ] (entries : List (κ × ν)) (key : κ) : List ν :=
  (entries.filter fun entry => entry.1 == key).map Prod.snd

/-- The forest that a list of resources and a permission map describe. -/
structure IsForestOf (resources : List Resource) (permissionMap : List (String × Permission))
    (tree : List ResourceTreeNode) : Prop where
  /-- Every resource is in the forest once, and nothing else is. -/
  complete : (flatResources tree).Perm resources
  child_iff : ∀ parent ∈ flatten tree, ∀ node ∈ flatten tree,
    node ∈ parent.children ↔ node.resource.parentId = some parent.resource.id
  root_iff : ∀ node ∈ flatten tree,
    node ∈ tree ↔ ∀ parentId ∈ node.resource.parentId, parentId ∉ resources.map Resource.id
  permissions : ∀ node ∈ flatten tree,
    node.permissions = valuesOf permissionMap node.resource.id
  ordered_roots : (tree.map ResourceTreeNode.resource).Pairwise Precedes
  ordered_children : ∀ parent ∈ flatten tree,
    (parent.children.map ResourceTreeNode.resource).Pairwise Precedes

variable {b : TreeBuilder} {nodes tree : List ResourceTreeNode} {node : ResourceTreeNode}
  {parentId : Option String}
  {level : Option String → TreeBuilder → List ResourceTreeNode × TreeBuilder}
  {resources : List Resource} {permissionMap : List (String × Permission)} {r : Resource} {n : ℕ}

section Entries

variable {κ ν : Type*} [BEq κ] [LawfulBEq κ] {entries : List (κ × ν)} {key k : κ} {value : ν}

theorem mem_valuesOf : value ∈ valuesOf entries key ↔ (key, value) ∈ entries := by
  rw [valuesOf, List.mem_map]
  constructor
  · rintro ⟨⟨k, v⟩, hentry, rfl⟩
    obtain ⟨hmem, hkey⟩ := List.mem_filter.1 hentry
    obtain rfl : k = key := beq_iff_eq.1 hkey
    exact hmem
  · intro hentry
    exact ⟨_, List.mem_filter.2 ⟨hentry, beq_self_eq_true _⟩, rfl⟩

/-- Removing a key leaves the values of the others. -/
theorem valuesOf_filter_ne (h : key ≠ k) :
    valuesOf (entries.filter fun entry => entry.1 != k) key = valuesOf entries key := by
  rw [valuesOf, List.filter_filter]
  refine congrArg (List.map Prod.snd) (List.filter_congr fun entry _ => ?_)
  by_cases hkey : entry.1 = key
  · subst hkey
    simp [h]
  · simp [hkey]

omit [LawfulBEq κ] in
/-- What is removed with a key, and what is left. -/
theorem valuesOf_append_filter_perm (entries : List (κ × ν)) (key : κ) :
    (valuesOf entries key ++ (entries.filter fun entry => entry.1 != key).map Prod.snd).Perm
      (entries.map Prod.snd) := by
  rw [valuesOf, ← List.map_append]
  exact (List.filter_append_perm (fun entry => entry.1 == key) entries).map _

end Entries

variable {children : List ResourceTreeNode} {permissions : List Permission}

theorem flatResources_cons :
    flatResources (.node r permissions children :: nodes) =
      r :: (flatResources children ++ flatResources nodes) := by
  simp [flatResources, flatten, ResourceTreeNode.flatten, ResourceTreeNode.resource]

theorem mem_flatten_cons :
    node ∈ flatten (.node r permissions children :: nodes) ↔
      node = .node r permissions children ∨ node ∈ flatten children ∨ node ∈ flatten nodes := by
  simp [flatten, ResourceTreeNode.flatten]

theorem mem_flatten_of_mem (hnode : node ∈ nodes) : node ∈ flatten nodes := by
  induction nodes with
  | nil => cases hnode
  | cons first nodes ih =>
    obtain ⟨resource, permissions, children⟩ := first
    rw [mem_flatten_cons]
    rcases List.mem_cons.1 hnode with rfl | hnode
    · exact .inl rfl
    · exact .inr (.inr (ih hnode))

theorem pairwise_orderResources (resources : List Resource) :
    (orderResources resources).Pairwise Precedes := by
  have htotal : Std.Total Precedes := ⟨fun left right => by
    rcases lt_trichotomy left.displayOrder right.displayOrder with hlt | heq | hgt
    · exact .inl (.inl hlt)
    · exact (le_total left.code right.code).imp (fun h => .inr ⟨heq, h⟩)
        fun h => .inr ⟨heq.symm, h⟩
    · exact .inr (.inl hgt)⟩
  have htrans : IsTrans Resource Precedes := ⟨by
    rintro a b c (hab | ⟨hab, hab'⟩) (hbc | ⟨hbc, hbc'⟩)
    · exact .inl (hab.trans hbc)
    · exact .inl (hbc ▸ hab)
    · exact .inl (hab ▸ hbc)
    · exact .inr ⟨hab.trans hbc, hab'.trans hbc'⟩⟩
  exact List.pairwise_insertionSort Precedes resources

theorem orderResources_perm (resources : List Resource) :
    (orderResources resources).Perm resources :=
  List.perm_insertionSort _ _

/-! ### What the builder takes out of the maps -/

/-- The ids of the resources that are still to be placed: those at hand and those in the map. -/
def pendingIds (resources : List Resource) (b : TreeBuilder) : List String :=
  (resources ++ b.childrenByParent.map Prod.snd).map Resource.id

/-- What the builder has done when it made `nodes` of the given resources and left `b'`: every
resource is in the nodes or still in the map, the nodes carry what the maps held for them, and
what the maps hold for others is untouched. -/
structure Makes (resources : List Resource) (b : TreeBuilder) (nodes : List ResourceTreeNode)
    (b' : TreeBuilder) : Prop where
  roots : nodes.map ResourceTreeNode.resource = resources
  perm : (flatResources nodes ++ b'.childrenByParent.map Prod.snd).Perm
    (resources ++ b.childrenByParent.map Prod.snd)
  children : ∀ node ∈ flatten nodes, node.children.map ResourceTreeNode.resource =
    orderResources (valuesOf b.childrenByParent (some node.resource.id))
  permissions : ∀ node ∈ flatten nodes,
    node.permissions = valuesOf b.permissionMap node.resource.id
  keptChildren : ∀ id, id ∉ (flatResources nodes).map Resource.id →
    valuesOf b'.childrenByParent (some id) = valuesOf b.childrenByParent (some id)
  keptPermissions : ∀ id, id ∉ (flatResources nodes).map Resource.id →
    valuesOf b'.permissionMap id = valuesOf b.permissionMap id

theorem Makes.nil : Makes [] b [] b where
  roots := rfl
  perm := .refl _
  children _ h := by cases h
  permissions _ h := by cases h
  keptChildren _ _ := rfl
  keptPermissions _ _ := rfl

/-- The maps once a resource was taken up: its permissions and its children are removed. -/
def TreeBuilder.takeUp (b : TreeBuilder) (resourceId : String) : TreeBuilder where
  childrenByParent := b.childrenByParent.filter fun entry => entry.1 != some resourceId
  permissionMap := b.permissionMap.filter fun entry => entry.1 != resourceId

theorem id_mem_flatResources (hnode : node ∈ flatten nodes) :
    node.resource.id ∈ (flatResources nodes).map Resource.id :=
  List.mem_map_of_mem (List.mem_map_of_mem hnode)

theorem Makes.cons {b₂ b' : TreeBuilder}
    (hchildren : Makes (orderResources (valuesOf b.childrenByParent (some r.id))) (b.takeUp r.id)
      children b₂) (hnodes : Makes resources b₂ nodes b')
    (hnodup : (pendingIds (r :: resources) b).Nodup) :
    Makes (r :: resources) b (.node r (valuesOf b.permissionMap r.id) children :: nodes) b' := by
  have hperm : (flatResources (.node r (valuesOf b.permissionMap r.id) children :: nodes) ++
      b'.childrenByParent.map Prod.snd).Perm
        (r :: resources ++ b.childrenByParent.map Prod.snd) := by
    refine List.perm_iff_count.2 fun a => ?_
    have h₁ := hchildren.perm.count_eq a
    have h₂ := hnodes.perm.count_eq a
    have h₃ := (orderResources_perm (valuesOf b.childrenByParent (some r.id))).count_eq a
    have h₄ := (valuesOf_append_filter_perm b.childrenByParent (some r.id)).count_eq a
    simp only [flatResources_cons, List.count_append, List.count_cons, TreeBuilder.takeUp]
      at h₁ h₂ h₃ h₄ ⊢
    omega
  -- No resource of the new forest has the id of another.
  have hids := ((hperm.map Resource.id).nodup_iff.2 hnodup).sublist
    ((List.sublist_append_left _ _).map _)
  rw [flatResources_cons, List.map_cons, List.nodup_cons, List.map_append, List.mem_append, not_or,
    List.nodup_append] at hids
  obtain ⟨⟨hr₁, hr₂⟩, -, -, hdisjoint⟩ := hids
  have hne₁ : ∀ node ∈ flatten children, node.resource.id ≠ r.id := fun node hnode h =>
    hr₁ (h ▸ id_mem_flatResources hnode)
  have hne₂ : ∀ node ∈ flatten nodes, node.resource.id ≠ r.id := fun node hnode h =>
    hr₂ (h ▸ id_mem_flatResources hnode)
  have hnot : ∀ node ∈ flatten nodes,
      node.resource.id ∉ (flatResources children).map Resource.id := fun node hnode h =>
    hdisjoint _ h _ (id_mem_flatResources hnode) rfl
  have keptChildren : ∀ id ≠ r.id, id ∉ (flatResources children).map Resource.id →
      valuesOf b₂.childrenByParent (some id) = valuesOf b.childrenByParent (some id) :=
    fun id hid hnot => (hchildren.keptChildren id hnot).trans
      (valuesOf_filter_ne fun h => hid (Option.some.inj h))
  have keptPermissions : ∀ id ≠ r.id, id ∉ (flatResources children).map Resource.id →
      valuesOf b₂.permissionMap id = valuesOf b.permissionMap id :=
    fun id hid hnot => (hchildren.keptPermissions id hnot).trans (valuesOf_filter_ne hid)
  refine ⟨?_, hperm, fun node hnode => ?_, fun node hnode => ?_, fun id hid => ?_, fun id hid => ?_⟩
  · rw [List.map_cons, hnodes.roots]
    rfl
  · rcases mem_flatten_cons.1 hnode with rfl | hnode | hnode
    · exact hchildren.roots
    · rw [hchildren.children node hnode, TreeBuilder.takeUp,
        valuesOf_filter_ne fun h => hne₁ node hnode (Option.some.inj h)]
    · rw [hnodes.children node hnode, keptChildren _ (hne₂ node hnode) (hnot node hnode)]
  · rcases mem_flatten_cons.1 hnode with rfl | hnode | hnode
    · rfl
    · rw [hchildren.permissions node hnode, TreeBuilder.takeUp,
        valuesOf_filter_ne (hne₁ node hnode)]
    · rw [hnodes.permissions node hnode, keptPermissions _ (hne₂ node hnode) (hnot node hnode)]
  · rw [flatResources_cons, List.map_cons, List.mem_cons, List.map_append, List.mem_append,
      not_or, not_or] at hid
    rw [hnodes.keptChildren id hid.2.2, keptChildren id hid.1 hid.2.1]
  · rw [flatResources_cons, List.map_cons, List.mem_cons, List.map_append, List.mem_append,
      not_or, not_or] at hid
    rw [hnodes.keptPermissions id hid.2.2, keptPermissions id hid.1 hid.2.1]

/-- Every level of a map with at most `n` entries is made, once the children of the parent are taken
out of the map. -/
def MakesLevels (level : Option String → TreeBuilder → List ResourceTreeNode × TreeBuilder)
    (n : ℕ) : Prop :=
  ∀ parentId b, b.childrenByParent.length ≤ n → (pendingIds [] b).Nodup →
    Makes (orderResources (b.removeChildren parentId).1) (b.removeChildren parentId).2
      (level parentId b).1 (level parentId b).2

theorem perm_removeChildren (b : TreeBuilder) (parentId : Option String) :
    (orderResources (b.removeChildren parentId).1 ++
      (b.removeChildren parentId).2.childrenByParent.map Prod.snd).Perm
        (b.childrenByParent.map Prod.snd) :=
  ((orderResources_perm _).append_right _).trans (valuesOf_append_filter_perm _ _)

theorem buildNodes_makes (hlevel : MakesLevels level n)
    (hb : resources ≠ [] → b.childrenByParent.length ≤ n)
    (hnodup : (pendingIds resources b).Nodup) :
    Makes resources b (buildNodes level resources b).1 (buildNodes level resources b).2 := by
  induction resources generalizing b with
  | nil => exact .nil
  | cons r resources ih =>
    have hb := hb (List.cons_ne_nil _ _)
    have hentries : (pendingIds [] b).Nodup :=
      hnodup.sublist ((List.sublist_append_right _ _).map _)
    have hchildren := hlevel (some r.id) (b.removePermissions r.id).2 hb hentries
    have hperm := hchildren.perm.trans (perm_removeChildren _ _)
    refine Makes.cons hchildren (ih (fun _ => ?_) ?_) hnodup
    · have hlength := hperm.length_eq
      simp only [List.length_append, List.length_map] at hlength
      exact le_trans (by omega) (hlength.le.trans hb)
    · have hpending := (hperm.append_left (r :: resources)).map Resource.id
      refine (hpending.nodup_iff.2 hnodup).sublist (List.Sublist.map _ ?_)
      exact (((List.sublist_append_right _ _).append_left resources)).cons _

theorem makesLevels_buildLevel (n : ℕ) : MakesLevels (buildLevel n) n := by
  induction n with
  | zero =>
    rintro parentId ⟨entries, permissionMap⟩ hb -
    obtain rfl : entries = [] := List.length_eq_zero_iff.1 (Nat.le_zero.1 hb)
    exact .nil
  | succ n ih =>
    intro parentId b hb hnodup
    exact buildNodes_makes ih (length_removeChildren_le hb)
      (((perm_removeChildren b parentId).map Resource.id).nodup_iff.2 hnodup)

/-! ### Depth of the recursion -/

theorem buildNodes_congr
    {level' : Option String → TreeBuilder → List ResourceTreeNode × TreeBuilder}
    (hlevel : BuildsLevels level n)
    (hcongr : ∀ parentId b, b.childrenByParent.length ≤ n → level' parentId b = level parentId b)
    (hb : resources ≠ [] → b.childrenByParent.length ≤ n) :
    buildNodes level' resources b = buildNodes level resources b := by
  induction resources generalizing b with
  | nil => rfl
  | cons r resources ih =>
    have hb := hb (List.cons_ne_nil _ _)
    have hchildren := (hlevel (some r.id) (b.removePermissions r.id).2 hb).1
    simp only [buildNodes, hcongr (some r.id) (b.removePermissions r.id).2 hb,
      ih fun _ => hchildren.sublist.length_le.trans hb]

/-- A recursion as deep as the map is large is not cut off: a deeper one builds the same. -/
theorem buildLevel_eq_of_le {m : ℕ} (hb : b.childrenByParent.length ≤ n) (hm : n ≤ m) :
    buildLevel m parentId b = buildLevel n parentId b := by
  induction n generalizing m parentId b with
  | zero =>
    obtain ⟨entries, permissionMap⟩ := b
    obtain rfl : entries = [] := List.length_eq_zero_iff.1 (Nat.le_zero.1 hb)
    cases m <;> rfl
  | succ n ih =>
    cases m with
    | zero => exact absurd hm (by omega)
    | succ =>
      exact buildNodes_congr (buildsLevels_buildLevel n)
        (fun parentId b hb => ih hb (by omega)) (length_removeChildren_le hb)

/-! ### The forest -/

section Flatten

variable {P : ResourceTreeNode → Prop}

mutual

/-- What a node passes on to its children holds of all nodes below it. -/
theorem ResourceTreeNode.forall_mem_flatten (hstep : ∀ node, P node → ∀ c ∈ node.children, P c) :
    ∀ node : ResourceTreeNode, P node → ∀ m ∈ node.flatten, P m
  | .node resource permissions children, hnode, m, hm => by
    rw [ResourceTreeNode.flatten] at hm
    rcases List.mem_cons.1 hm with rfl | hm
    · exact hnode
    · exact forall_mem_flatten hstep children (hstep _ hnode) m hm

theorem forall_mem_flatten (hstep : ∀ node, P node → ∀ c ∈ node.children, P c) :
    ∀ nodes : List ResourceTreeNode, (∀ node ∈ nodes, P node) → ∀ m ∈ flatten nodes, P m
  | [], _, m, hm => by simp [flatten] at hm
  | node :: nodes, hnodes, m, hm => by
    rw [flatten] at hm
    rcases List.mem_append.1 hm with hm | hm
    · exact ResourceTreeNode.forall_mem_flatten hstep node (hnodes node List.mem_cons_self) m hm
    · exact forall_mem_flatten hstep nodes
        (fun node hnode => hnodes node (List.mem_cons_of_mem _ hnode)) m hm

end

theorem flatten_subset_of_mem (hnode : node ∈ nodes) : node.flatten ⊆ flatten nodes := by
  induction nodes with
  | nil => cases hnode
  | cons first nodes ih =>
    rw [flatten]
    rcases List.mem_cons.1 hnode with rfl | hnode
    · exact List.subset_append_left _ _
    · exact List.Subset.trans (ih hnode) (List.subset_append_right _ _)

theorem flatten_children_subset (node : ResourceTreeNode) :
    flatten node.children ⊆ node.flatten := by
  obtain ⟨resource, permissions, children⟩ := node
  rw [ResourceTreeNode.flatten]
  exact List.subset_cons_self _ _

/-- The children of a node of a forest are nodes of it. -/
theorem mem_flatten_of_mem_children {child : ResourceTreeNode} (hnode : node ∈ flatten nodes)
    (hchild : child ∈ node.children) : child ∈ flatten nodes := by
  have hsubset : ∀ m ∈ flatten nodes, m.flatten ⊆ flatten nodes := by
    refine forall_mem_flatten (fun m hm c hc => ?_) nodes fun m hm => flatten_subset_of_mem hm
    exact List.Subset.trans (flatten_subset_of_mem hc)
      (List.Subset.trans (flatten_children_subset m) hm)
  exact hsubset node hnode (flatten_children_subset node (mem_flatten_of_mem hchild))

end Flatten

/-- The maps from which the tree of a list of resources is built. -/
def treeBuilder (resources : List Resource) (permissionMap : List (String × Permission)) :
    TreeBuilder :=
  ⟨resources.map fun r => (visibleParent resources r, r), permissionMap⟩

/-- The parents of the resource end at one without a visible parent. -/
inductive Rooted (resources : List Resource) : Resource → Prop
  | root {r : Resource} (h : visibleParent resources r = none) : Rooted resources r
  | child {r p : Resource} (hp : p ∈ resources) (h : visibleParent resources r = some p.id)
      (hrooted : Rooted resources p) : Rooted resources r

theorem mem_valuesOf_treeBuilder {key : Option String} :
    r ∈ valuesOf (treeBuilder resources permissionMap).childrenByParent key ↔
      r ∈ resources ∧ visibleParent resources r = key := by
  rw [mem_valuesOf, treeBuilder, List.mem_map]
  constructor
  · rintro ⟨s, hs, heq⟩
    cases heq
    exact ⟨hs, rfl⟩
  · rintro ⟨hr, rfl⟩
    exact ⟨r, hr, rfl⟩

/-- What the tree consists of, level by level. -/
structure HasLevels (resources : List Resource) (permissionMap : List (String × Permission))
    (tree : List ResourceTreeNode) : Prop where
  roots : tree.map ResourceTreeNode.resource =
    orderResources (valuesOf (treeBuilder resources permissionMap).childrenByParent none)
  children : ∀ node ∈ flatten tree, node.children.map ResourceTreeNode.resource =
    orderResources (valuesOf (treeBuilder resources permissionMap).childrenByParent
      (some node.resource.id))
  permissions : ∀ node ∈ flatten tree,
    node.permissions = valuesOf permissionMap node.resource.id
  /-- No resource is in the tree twice, and none that was not given. -/
  subperm : (flatResources tree).Subperm resources

theorem buildTree_hasLevels (hids : (resources.map Resource.id).Nodup)
    (permissionMap : List (String × Permission)) :
    HasLevels resources permissionMap (buildTree resources permissionMap) := by
  have hsnd : (treeBuilder resources permissionMap).childrenByParent.map Prod.snd = resources := by
    simp [treeBuilder, Function.comp_def]
  have hmakes := makesLevels_buildLevel resources.length none (treeBuilder resources permissionMap)
    (by simp [treeBuilder]) (by rw [pendingIds, List.nil_append, hsnd]; exact hids)
  have hperm := hmakes.perm.trans (perm_removeChildren _ _)
  rw [hsnd] at hperm
  refine ⟨hmakes.roots, fun node hnode => ?_, hmakes.permissions,
    (List.sublist_append_left _ _).subperm.trans hperm.subperm⟩
  rw [hmakes.children node hnode]
  exact congrArg orderResources (valuesOf_filter_ne (by simp))

theorem mem_flatResources_iff :
    r ∈ flatResources nodes ↔ ∃ node ∈ flatten nodes, node.resource = r :=
  List.mem_map

/-- The resources of the tree are those from which one gets to a root. -/
theorem mem_flatten_buildTree (hids : (resources.map Resource.id).Nodup) :
    r ∈ flatResources (buildTree resources permissionMap) ↔
      r ∈ resources ∧ Rooted resources r := by
  have hlevels := buildTree_hasLevels hids permissionMap
  constructor
  · rw [mem_flatResources_iff]
    rintro ⟨node, hnode, rfl⟩
    have hrooted := forall_mem_flatten (P := fun node =>
      node ∈ flatten (buildTree resources permissionMap) ∧ Rooted resources node.resource) ?_ _ ?_
      node hnode
    · exact ⟨hlevels.subperm.subset (mem_flatResources_iff.2 ⟨node, hnode, rfl⟩), hrooted.2⟩
    · rintro m ⟨hm, hrooted⟩ c hc
      have hchild : c.resource ∈ m.children.map ResourceTreeNode.resource := List.mem_map_of_mem hc
      rw [hlevels.children m hm, mem_orderResources, mem_valuesOf_treeBuilder] at hchild
      have hmem := hlevels.subperm.subset (mem_flatResources_iff.2 ⟨m, hm, rfl⟩)
      exact ⟨mem_flatten_of_mem_children hm hc, .child hmem hchild.2 hrooted⟩
    · intro m hm
      have hroot : m.resource ∈ (buildTree resources permissionMap).map ResourceTreeNode.resource :=
        List.mem_map_of_mem hm
      rw [hlevels.roots, mem_orderResources, mem_valuesOf_treeBuilder] at hroot
      exact ⟨mem_flatten_of_mem hm, .root hroot.2⟩
  · rintro ⟨hr, hrooted⟩
    induction hrooted with
    | @root r h =>
      have hroot : r ∈ (buildTree resources permissionMap).map ResourceTreeNode.resource := by
        rw [hlevels.roots, mem_orderResources, mem_valuesOf_treeBuilder]
        exact ⟨hr, h⟩
      obtain ⟨node, hnode, rfl⟩ := List.mem_map.1 hroot
      exact mem_flatResources_iff.2 ⟨node, mem_flatten_of_mem hnode, rfl⟩
    | @child r p hp h _ ih =>
      obtain ⟨node, hnode, rfl⟩ := mem_flatResources_iff.1 (ih hp)
      have hchild : r ∈ node.children.map ResourceTreeNode.resource := by
        rw [hlevels.children node hnode, mem_orderResources, mem_valuesOf_treeBuilder]
        exact ⟨hr, h⟩
      obtain ⟨child, hc, rfl⟩ := List.mem_map.1 hchild
      exact mem_flatResources_iff.2 ⟨child, mem_flatten_of_mem_children hnode hc, rfl⟩

/-- The parent of the resource with the given id among the given resources. -/
def parentAmong (resources : List Resource) (id : String) : Option String :=
  (resources.find? fun r => r.id == id).bind Resource.parentId

theorem parentAmong_id (hids : (resources.map Resource.id).Nodup) (hr : r ∈ resources) :
    parentAmong resources r.id = r.parentId := by
  cases hfound : resources.find? fun s => s.id == r.id with
  | none => exact absurd (List.find?_eq_none.1 hfound r hr) (by simp)
  | some s =>
    have hid : s.id = r.id := by simpa using List.find?_some hfound
    rw [parentAmong, hfound, Option.bind_some,
      List.inj_on_of_nodup_map hids (List.mem_of_find?_eq_some hfound) hr hid]

theorem mem_flatten_of_reaches (h : node.Reaches r) (hnode : node ∈ flatten nodes) :
    r ∈ flatResources nodes := by
  induction h with
  | root => exact mem_flatResources_iff.2 ⟨_, hnode, rfl⟩
  | child hc _ ih => exact ih (mem_flatten_of_mem_children hnode hc)

theorem visibleParent_eq_some {id : String} : visibleParent resources r = some id ↔
    r.parentId = some id ∧ id ∈ resources.map Resource.id := by
  simp [visibleParent, Option.filter_eq_some_iff]

theorem visibleParent_eq_none : visibleParent resources r = none ↔
    ∀ id ∈ r.parentId, id ∉ resources.map Resource.id := by
  rw [Option.eq_none_iff_forall_ne_some]
  simp only [ne_eq, visibleParent_eq_some, not_and, Option.mem_def]

/-- The recursion of the builder ends, and its result is the forest of the resources: distinct
resources, no one of which is its own ancestor, are each in the tree once, below their parents,
with their permissions, and in order. -/
theorem buildTree_isForestOf (hids : (resources.map Resource.id).Nodup)
    (hacyclic : Forest.Acyclic (parentAmong resources))
    (permissionMap : List (String × Permission)) :
    (∀ depth ≥ resources.length,
      (buildLevel depth none (treeBuilder resources permissionMap)).1 =
        buildTree resources permissionMap) ∧
      IsForestOf resources permissionMap (buildTree resources permissionMap) := by
  have hlevels := buildTree_hasLevels hids permissionMap
  have hcomplete : (flatResources (buildTree resources permissionMap)).Perm resources := by
    refine hlevels.subperm.antisymm (List.subperm_of_subset hids.of_map fun r hr => ?_)
    obtain ⟨node, hnode, hreaches⟩ :=
      buildTree_reaches hacyclic (fun s hs => parentAmong_id hids hs) permissionMap hr
    exact mem_flatten_of_reaches hreaches (mem_flatten_of_mem hnode)
  have hmem : ∀ node ∈ flatten (buildTree resources permissionMap), node.resource ∈ resources :=
    fun node hnode => hcomplete.mem_iff.1 (mem_flatResources_iff.2 ⟨node, hnode, rfl⟩)
  -- A resource is in the forest once, so a node is found by its resource.
  have hnode_iff : ∀ nodes : List ResourceTreeNode,
      (∀ node ∈ nodes, node ∈ flatten (buildTree resources permissionMap)) →
      ∀ node ∈ flatten (buildTree resources permissionMap),
        node ∈ nodes ↔ node.resource ∈ nodes.map ResourceTreeNode.resource := by
    intro nodes hnodes node hnode
    refine ⟨List.mem_map_of_mem, fun h => ?_⟩
    obtain ⟨node', hnode', heq⟩ := List.mem_map.1 h
    rwa [← List.inj_on_of_nodup_map (hcomplete.nodup_iff.2 hids.of_map) (hnodes node' hnode') hnode
      heq]
  refine ⟨fun depth hdepth => ?_, hcomplete, fun parent hparent node hnode => ?_,
    fun node hnode => ?_, hlevels.permissions, ?_, fun parent hparent => ?_⟩
  · rw [buildLevel_eq_of_le (by simp [treeBuilder]) hdepth]
    rfl
  · rw [hnode_iff _ (fun child => mem_flatten_of_mem_children hparent) node hnode,
      hlevels.children parent hparent, mem_orderResources, mem_valuesOf_treeBuilder,
      visibleParent_eq_some]
    exact ⟨fun h => h.2.1, fun h =>
      ⟨hmem node hnode, h, List.mem_map_of_mem (hmem parent hparent)⟩⟩
  · rw [hnode_iff _ (fun root => mem_flatten_of_mem) node hnode, hlevels.roots,
      mem_orderResources, mem_valuesOf_treeBuilder, and_iff_right (hmem node hnode),
      visibleParent_eq_none]
  · rw [hlevels.roots]
    exact pairwise_orderResources _
  · rw [hlevels.children parent hparent]
    exact pairwise_orderResources _

/-- A report below a menu, and a menu whose parent is not in the list. -/
def reports : List Resource :=
  [{ id := "2", app := "crm", resourceType := "report", code := "r", parentId := some "1" },
    { id := "1", app := "crm", resourceType := "menu", code := "m", displayOrder := 1 },
    { id := "3", app := "crm", resourceType := "menu", code := "n", parentId := some "0" }]

theorem buildTree_isForestOf_reports :
    (reports.map Resource.id).Nodup ∧ Forest.Acyclic (parentAmong reports) ∧
      (∀ depth ≥ reports.length,
        (buildLevel depth none (treeBuilder reports [("2", { id := "p", name := "read" })])).1 =
          buildTree reports [("2", { id := "p", name := "read" })]) ∧
      IsForestOf reports [("2", { id := "p", name := "read" })]
        (buildTree reports [("2", { id := "p", name := "read" })]) := by
  have hids : (reports.map Resource.id).Nodup := by decide
  have hacyclic : Forest.Acyclic (parentAmong reports) := by
    refine Forest.acyclic_of_rank (fun id => if id = "2" ∨ id = "3" then 1 else 0) fun a b h => ?_
    have hcases : b = "2" ∧ a = "1" ∨ b = "3" ∧ a = "0" := by
      simp only [parentAmong, reports, List.find?_cons, List.find?_nil] at h
      split at h
      · rename_i h2
        exact .inl ⟨(beq_iff_eq.1 h2).symm, (Option.some.inj h).symm⟩
      split at h
      · cases h
      split at h
      · rename_i h3
        exact .inr ⟨(beq_iff_eq.1 h3).symm, (Option.some.inj h).symm⟩
      · cases h
    obtain ⟨rfl, rfl⟩ | ⟨rfl, rfl⟩ := hcases
    · decide
    · decide
  exact ⟨hids, hacyclic, buildTree_isForestOf hids hacyclic _⟩

end Keylo
