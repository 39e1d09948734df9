import Keylo.Memberships
import Keylo.RoleSync

/-!
# The principals a role is assignable to

A role admits all principals or those of one type. Assignments and bindings check this when they
are made, and an edit of the role checks the assignments that it would orphan. The check of an
edit has two gaps: it does not look at the bindings of organizations
(`binding_outlives_edit`), and it is not in the transaction of the update, so that an assignment
may be made in between. Without these, every assignment and binding is to a principal that the
role admits (`assignments_admitted`).

## Main definitions

* `protocol` : the statements of all requests.
* `Admitted` : assignments and bindings are to principals that the role admits.
* `Ordered` : the condition on edits.

## Main results

* `Knows.effect`, `Knows.write` : requests keep what they have checked.
* `assignments_admitted` : with ordered edits, all assignments are admitted.
-/

namespace Keylo.Assignability

open Relational Transition Table
open RoleSync (Phase HasPrincipal)

/-! ### Requests -/

/-- The fields of a role that an edit sets. -/
structure RoleEdit where
  roleId : String
  name : Option String
  assignableTo : Option AssignableTo
  system : Option Bool
  expectedVersion : Option Int
deriving DecidableEq

inductive Call
  | updateRole (edit : RoleEdit)
  | restoreRole (roleId : String) (target : Role) (expectedVersion : Int)
  | assignRolesToUserBatch (userId : String) (roleIds : List String)
  | assignRoleToPrincipal (principalId roleId : String)
  | syncUserRolesToPrincipal (userId : String)
  | provisionUserWithRolesAsClass (salt id : String) (new : NewUser) (userClass : String)
      (roleIds roleNames : List String)
  | assignOrganizationRole (organizationId principalId roleId : String)
  | assignOrganizationRoleAsManager (organizationId actorPrincipalId targetPrincipalId : String)
      (roleId : String)

/-- What a request is about to do. -/
inductive Task
  | roles (phase : Phase)
  /-- The edit has passed its check. -/
  | editing (edit : RoleEdit)
  /-- The roles of the new user have been read and checked, without a lock. -/
  | provisioning (salt id : String) (new : NewUser) (roleIds : List String)
deriving DecidableEq

inductive Input
  | call (c : Call)
  | proceed
  | fail

/-- The check of an edit. -/
def startEdit (db : Db) (edit : RoleEdit) : Task :=
  match checkRoleEdit db edit.roleId edit.assignableTo with
  | .error _ => .roles .idle
  | .ok () => .editing edit

/-- The update of an edit. -/
def RoleEdit.write (edit : RoleEdit) (db : Db) : Except String Db :=
  writeRole db edit.roleId edit.name edit.assignableTo edit.system edit.expectedVersion

variable (crates : Crates)

/-- The reads and checks of a provisioning request. -/
def startProvisioning (db : Db) (salt id : String) (new : NewUser)
    (roleIds roleNames : List String) : Task :=
  match provisionUserWithRoles crates db salt id new roleIds roleNames with
  | .error _ => .roles .idle
  | .ok _ => .provisioning salt id new (provisionedRoles db roleIds roleNames)

def start (db : Db) : Call → Db × Task
  | .updateRole edit => (db, startEdit db edit)
  | .restoreRole roleId target expectedVersion =>
    (db, startEdit db ⟨roleId, some target.name, some target.assignableTo, some target.system,
      some expectedVersion⟩)
  | .assignRolesToUserBatch userId roleIds => (db, .roles (.reading (.assign roleIds) userId))
  | .assignRoleToPrincipal principalId roleId =>
    (commit db (assignRoleToPrincipal db principalId roleId), .roles .idle)
  | .syncUserRolesToPrincipal userId => (db, .roles (.reading .sync userId))
  | .provisionUserWithRolesAsClass salt id new userClass roleIds roleNames =>
    match parseUserClass userClass with
    | .error _ => (db, .roles .idle)
    | .ok userClass =>
      (db,
        startProvisioning crates db salt id { new with userClass := userClass } roleIds roleNames)
  | .assignOrganizationRole organizationId principalId roleId =>
    (commit db (assignOrganizationRole db organizationId principalId roleId), .roles .idle)
  | .assignOrganizationRoleAsManager organizationId actorPrincipalId targetPrincipalId roleId =>
    (commit db (assignOrganizationRoleAsManager db organizationId actorPrincipalId
      targetPrincipalId roleId), .roles .idle)

def next : Input → Db → Task → Option (Db × Task)
  | .call c, db, .roles .idle => some (start crates db c)
  | .proceed, db, .roles phase =>
    (RoleSync.next crates .proceed db phase).map fun r => (r.1, .roles r.2)
  | .proceed, db, .editing edit => some (commit db (edit.write db), .roles .idle)
  | .proceed, db, .provisioning salt id new roleIds =>
    some (commit db ((storeProvisionedUser crates db salt id new roleIds).map Prod.snd),
      .roles .idle)
  | .fail, db, _ => some (db, .roles .idle)
  | _, _, _ => none

/-- The roles and the principals they admit. -/
def admissions (db : Db) : List (String × AssignableTo) :=
  db.roles.rows.map fun r => (r.id, r.assignableTo)

/-- Other requests change anything else, add roles and principals, and remove assignments and
bindings. -/
def surroundings (other db : Db) : Option Db :=
  if admissions db ⊆ admissions other ∧
      db.principals.rows.map Principal.owner ⊆ other.principals.rows.map Principal.owner ∧
      other.userRoles.rows ⊆ db.userRoles.rows ∧
      other.principalRoles.rows ⊆ db.principalRoles.rows ∧
      other.roleBindings.rows ⊆ db.roleBindings.rows then
    some other
  else none

/-- The statements of the requests, named by `ι`, and all other writes. -/
def protocol (ι : Type*) : Protocol ι Db Task Input Db where
  next _ := next crates
  env := surroundings

/-! ### Edits and assignments in flight -/

/-- The task is an edit after which the role does not admit principals of the type. -/
def Task.forbids : Task → String → PrincipalType → Bool
  | .editing edit, roleId, principalType =>
    edit.roleId == roleId && edit.assignableTo.any fun a => !decide (a.Admits principalType)
  | _, _, _ => false

/-- The roles that the task assigns to a user without reading them again. -/
def Task.pendingRoles : Task → List String
  | .roles phase => phase.copied.map UserRole.roleId
  | .provisioning _ _ _ roleIds => roleIds
  | .editing _ => []

/-- The platform roles that a step assigns, and the types of the principals that receive them. -/
def assigns (db : Db) : Task → Input → List (String × PrincipalType)
  | .roles .idle, .call (.assignRoleToPrincipal id roleId) =>
    (db.principals.lookup Principal.id id).toList.map fun p => (roleId, p.principalType)
  | .roles (.assigning _ roleIds), .proceed => roleIds.map fun roleId => (roleId, .user)
  | .roles (.inserting _ [] fresh), .proceed => fresh.map fun roleId => (roleId, .user)
  | .provisioning _ _ _ roleIds, .proceed => roleIds.map fun roleId => (roleId, .user)
  | _, _ => []

def Input.proceeds : Input → Bool
  | .proceed => true
  | _ => false

/-- No role is assigned to a principal while an edit that forbids it is between its check and its
update; no such edit is made while the role is bound to a principal it forbids, or is about to be
assigned by a request that has already read it. -/
def Ordered {ι : Type*} (c : Config ι Db Task) : Action ι Input Db → Prop
  | .request i a =>
    (∀ j, ∀ x ∈ assigns c.shared (c.request i) a, (c.request j).forbids x.1 x.2 = false) ∧
    (a.proceeds = true →
      (∀ b ∈ c.shared.roleBindings.rows, ∀ p ∈ c.shared.principals.rows, p.id = b.principalId →
        (c.request i).forbids b.roleId p.principalType = false) ∧
      ∀ j, ∀ r ∈ (c.request j).pendingRoles, (c.request i).forbids r .user = false)
  | .environment _ => True

instance {n : ℕ} (c : Config (Fin n) Db Task) :
    ∀ l : Action (Fin n) Input Db, Decidable (Ordered c l)
  | .request _ _ => inferInstanceAs (Decidable (_ ∧ _))
  | .environment _ => .isTrue trivial

/-! ### Assignments and bindings -/

/-- The role admits principals of the type. -/
def RoleAdmits (db : Db) (roleId : String) (principalType : PrincipalType) : Prop :=
  ∃ role ∈ db.roles, role.id = roleId ∧ role.assignableTo.Admits principalType

/-- Assignments and bindings are to principals that the role admits. -/
structure Admitted (db : Db) : Prop where
  userRoles : ∀ ur ∈ db.userRoles, RoleAdmits db ur.roleId .user
  principalRoles : ∀ pr ∈ db.principalRoles, ∀ p ∈ db.principals, p.id = pr.principalId →
    RoleAdmits db pr.roleId p.principalType
  roleBindings : ∀ b ∈ db.roleBindings, ∀ p ∈ db.principals, p.id = b.principalId →
    RoleAdmits db b.roleId p.principalType

/-- Assignments and bindings refer to principals that exist. -/
structure Linked (db : Db) : Prop where
  principalRoles : ∀ pr ∈ db.principalRoles, ∃ o, HasOwner db o ∧
    pr.principalId = principalId o.1 o.2
  roleBindings : ∀ b ∈ db.roleBindings, ∃ o, HasOwner db o ∧ b.principalId = principalId o.1 o.2

/-- The role is assigned to a principal of the type, in one of the two tables. -/
inductive Held (db : Db) : String → PrincipalType → Prop
  | user {u r} (h : ⟨u, r⟩ ∈ db.userRoles) : Held db r .user
  | principal {t refId r}
      (h : ⟨principalId t refId, r⟩ ∈ db.principalRoles) : Held db r t

/-- The role is bound to a principal of the type in an organization. -/
def Bound (db : Db) (roleId : String) (principalType : PrincipalType) : Prop :=
  ∃ organizationId refId,
    ⟨organizationId, principalId principalType refId, roleId⟩ ∈ db.roleBindings

/-- The types of principals, read off their ids. -/
structure Sound (db : Db) : Prop extends Linked db where
  held : ∀ r t, Held db r t → RoleAdmits db r t
  bound : ∀ r t, Bound db r t → RoleAdmits db r t

variable {crates} {db db' : Db} {assigned : List (String × PrincipalType)} {r : String}
  {t : PrincipalType}

theorem Sound.admitted (h : Sound db) : Admitted db where
  userRoles _ hur := h.held _ _ (.user hur)
  principalRoles pr hpr p _ hid := by
    have hrow : ⟨principalId p.principalType p.refId, pr.roleId⟩ ∈ db.principalRoles := by
      rw [← Principal.id, hid]
      exact hpr
    exact h.held _ _ (.principal hrow)
  roleBindings b hb p _ hid := by
    refine h.bound _ _ ⟨b.organizationId, p.refId, ?_⟩
    rw [← Principal.id, hid]
    exact hb

theorem Admitted.sound (h : Admitted db) (hlinked : Linked db) : Sound db where
  toLinked := hlinked
  held r t hr := by
    cases hr with
    | user hr => exact h.userRoles _ hr
    | principal hr =>
      obtain ⟨_, ⟨p, hp, rfl⟩, hid⟩ := hlinked.principalRoles _ hr
      obtain ⟨rfl, -⟩ := principalId_inj.1 hid
      exact h.principalRoles _ hr p hp hid.symm
  bound r t hr := by
    obtain ⟨o, refId, hr⟩ := hr
    obtain ⟨_, ⟨p, hp, rfl⟩, hid⟩ := hlinked.roleBindings _ hr
    obtain ⟨rfl, -⟩ := principalId_inj.1 hid
    exact h.roleBindings _ hr p hp hid.symm

/-! ### What a step other than the update of a role does -/

/-- Roles admit the same principals, and what is assigned or bound is admitted. -/
structure Effect (assigned : List (String × PrincipalType)) (db db' : Db) : Prop where
  roles : ∀ r t, RoleAdmits db r t → RoleAdmits db' r t
  owners : ∀ o, HasOwner db o → HasOwner db' o
  userRoles : ∀ ur ∈ db'.userRoles, ur ∈ db.userRoles ∨
    (ur.roleId, .user) ∈ assigned ∧ RoleAdmits db ur.roleId .user
  principalRoles : ∀ pr ∈ db'.principalRoles, pr ∈ db.principalRoles ∨
    ∃ o, HasOwner db' o ∧ pr.principalId = principalId o.1 o.2 ∧
      (pr.roleId, o.1) ∈ assigned ∧ RoleAdmits db pr.roleId o.1
  roleBindings : ∀ b ∈ db'.roleBindings, b ∈ db.roleBindings ∨
    ∃ o, HasOwner db' o ∧ b.principalId = principalId o.1 o.2 ∧ RoleAdmits db b.roleId o.1

theorem Effect.held (h : Effect assigned db db') (hr : Held db' r t) :
    Held db r t ∨ (r, t) ∈ assigned ∧ RoleAdmits db r t := by
  cases hr with
  | user hr => exact (h.userRoles _ hr).imp_left .user
  | principal hr =>
    obtain hr | ⟨o, -, hid, hassigned⟩ := h.principalRoles _ hr
    · exact .inl (.principal hr)
    · obtain ⟨rfl, -⟩ := principalId_inj.1 hid
      exact .inr hassigned

theorem Sound.effect (hdb : Sound db) (h : Effect assigned db db') : Sound db' where
  principalRoles pr hpr := by
    obtain hpr | ⟨o, ho, hid, -⟩ := h.principalRoles pr hpr
    · exact (hdb.principalRoles pr hpr).imp fun o ho => ⟨h.owners o ho.1, ho.2⟩
    · exact ⟨o, ho, hid⟩
  roleBindings b hb := by
    obtain hb | ⟨o, ho, hid, -⟩ := h.roleBindings b hb
    · exact (hdb.roleBindings b hb).imp fun o ho => ⟨h.owners o ho.1, ho.2⟩
    · exact ⟨o, ho, hid⟩
  held r t hr := h.roles r t ((h.held hr).elim (hdb.held r t) And.right)
  bound r t hr := by
    obtain ⟨o, refId, hr⟩ := hr
    obtain hr | ⟨owner, -, hid, hadmits⟩ := h.roleBindings _ hr
    · exact h.roles r t (hdb.bound r t ⟨o, refId, hr⟩)
    · obtain ⟨rfl, -⟩ := principalId_inj.1 hid
      exact h.roles r _ hadmits

/-- Principals may be added, and assignments and bindings removed. -/
theorem Effect.of_subset (hroles : ∀ r t, RoleAdmits db r t → RoleAdmits db' r t)
    (howners : ∀ o, HasOwner db o → HasOwner db' o)
    (huserRoles : ∀ ur ∈ db'.userRoles, ur ∈ db.userRoles)
    (hprincipalRoles : ∀ pr ∈ db'.principalRoles, pr ∈ db.principalRoles)
    (hroleBindings : ∀ b ∈ db'.roleBindings, b ∈ db.roleBindings) : Effect assigned db db' :=
  ⟨hroles, howners, fun _ h => .inl (huserRoles _ h), fun _ h => .inl (hprincipalRoles _ h),
    fun _ h => .inl (hroleBindings _ h)⟩

theorem Effect.refl : Effect assigned db db :=
  .of_subset (fun _ _ => id) (fun _ => id) (fun _ => id) (fun _ => id) fun _ => id

theorem Effect.commit {result : Except String Db}
    (h : ∀ db', result = .ok db' → Effect assigned db db') :
    Effect assigned db (commit db result) := by
  cases result with
  | error => exact .refl
  | ok db' => exact h db' rfl

variable {roleIds : List String} {userId : String}

/-- Roles that admit users are assigned to the user of a principal. -/
theorem Effect.of_assign (hadds : AddsRoles db db' userId roleIds)
    (hroleBindings : db'.roleBindings = db.roleBindings) (hroles : db'.roles = db.roles)
    (howners : ∀ o, HasOwner db o → HasOwner db' o) (howner : HasOwner db' (.user, userId))
    (hadmits : ∀ r ∈ roleIds, RoleAdmits db r .user) :
    Effect (roleIds.map fun roleId => (roleId, .user)) db db' where
  roles r t h := by rwa [RoleAdmits, hroles]
  owners := howners
  userRoles ur hur := by
    obtain ⟨r, hr, rfl⟩ | hur := (hadds.user ur).1 hur
    · exact .inr ⟨List.mem_map_of_mem hr, hadmits r hr⟩
    · exact .inl hur
  principalRoles pr hpr := by
    obtain ⟨r, hr, rfl⟩ | hpr := (hadds.principal pr).1 hpr
    · exact .inr ⟨(.user, userId), howner, rfl, List.mem_map_of_mem hr, hadmits r hr⟩
    · exact .inl hpr
  roleBindings b hb := .inl (hroleBindings ▸ hb)

theorem effect_assignRolesToUser (h : assignRolesToUser db userId roleIds = .ok db')
    (howner : HasOwner db (.user, userId)) :
    Effect (roleIds.map fun roleId => (roleId, .user)) db db' := by
  obtain ⟨user, -, rfl, hcheck, rfl⟩ := assignRolesToUser_eq_ok h
  obtain ⟨userRoles, principalRoles, hfold, hadds⟩ := foldl_insertRole db user.id roleIds
  rw [hfold]
  refine .of_assign hadds rfl rfl (fun _ => id) howner ?_
  intro r hr
  obtain ⟨-, role, hrole, hid, -, hadmits⟩ := checkRoles_eq_ok hcheck r hr
  exact ⟨role, hrole, hid, hadmits⟩

variable {id salt : String} {new : NewUser}

theorem effect_assignRoleToPrincipal {roleId : String}
    (h : assignRoleToPrincipal db id roleId = .ok db') :
    Effect (assigns db (.roles .idle) (.call (.assignRoleToPrincipal id roleId))) db db' := by
  obtain ⟨p, hp, rfl, ⟨role, hrole, rfl, -, hadmits⟩, -, hdb'⟩ := assignRoleToPrincipal_eq_ok h
  have hassigns : assigns db (.roles .idle) (.call (.assignRoleToPrincipal p.id role.id)) =
      [(role.id, p.principalType)] := by
    simp only [assigns, lookup_eq_some_iff.2 ⟨hp, rfl⟩, Option.toList_some, List.map_cons,
      List.map_nil]
  have hrole' : RoleAdmits db role.id p.principalType := ⟨role, hrole, rfl, hadmits⟩
  rw [hassigns]
  by_cases htype : p.principalType = .user
  · obtain ⟨userRoles, principalRoles, hfold, hadds⟩ := foldl_insertRole db p.refId [role.id]
    rw [if_pos htype] at hdb'
    obtain rfl : db' = _ := hdb'.trans hfold
    rw [htype] at hrole' ⊢
    have howner : HasOwner db (.user, p.refId) := ⟨p, hp, Prod.ext_iff.2 ⟨htype, rfl⟩⟩
    have hadmits' : ∀ r ∈ [role.id], RoleAdmits db r .user := List.forall_mem_singleton.2 hrole'
    exact Effect.of_assign hadds rfl rfl (fun _ => id) howner hadmits'
  · rw [if_neg htype] at hdb'
    subst hdb'
    refine ⟨fun _ _ => id, fun _ => id, fun _ => .inl, fun pr hpr => ?_, fun _ => .inl⟩
    obtain rfl | hpr := mem_insertPrincipalRole.1 hpr
    · exact .inr ⟨p.owner, ⟨p, hp, rfl⟩, rfl, List.mem_singleton_self _, hrole'⟩
    · exact .inl hpr

theorem effect_bindOrganizationRole {organizationId : String} {principal : Principal} {role : Role}
    (h : bindOrganizationRole db organizationId principal role = .ok db')
    (hprincipal : principal ∈ db.principals) (hrole : role ∈ db.roles) :
    Effect assigned db db' := by
  obtain ⟨hadmits, rfl⟩ := bindOrganizationRole_eq_ok h
  refine ⟨fun _ _ => id, fun _ => id, fun _ => .inl, fun _ => .inl, fun b hb => ?_⟩
  have hmem : b = ⟨organizationId, principal.id, role.id⟩ ∨ b ∈ db.roleBindings :=
    (mem_insertIgnore fun _ _ h => (by simpa [clash] using h : _ = _).symm).1 hb
  obtain rfl | hb := hmem
  · exact .inr ⟨principal.owner, ⟨principal, hprincipal, rfl⟩, rfl, role, hrole, rfl, hadmits⟩
  · exact .inl hb

/-- The roles of a new user are stored as they were read. -/
theorem effect_storeProvisionedUser {user : User}
    (h : storeProvisionedUser crates db salt id new roleIds = .ok (user, db'))
    (hadmits : ∀ r ∈ roleIds, RoleAdmits db r .user) :
    Effect (roleIds.map fun roleId => (roleId, .user)) db db' := by
  obtain ⟨users, principals, userRoles, principalRoles, -, hinsert, rfl, hadds⟩ :=
    storeProvisionedUser_eq_ok h
  refine .of_assign hadds rfl rfl ?_ ⟨_, (mem_of_insert_eq_some hinsert).2 (.inl rfl), rfl⟩ hadmits
  rintro o ⟨p, hp, howner⟩
  exact ⟨p, (mem_of_insert_eq_some hinsert).2 (.inr hp), howner⟩

theorem effect_insertPrincipalRoles (howner : HasOwner db (.user, userId))
    (hadmits : ∀ r ∈ roleIds, RoleAdmits db r .user) :
    Effect (roleIds.map fun roleId => (roleId, .user)) db
      (RoleSync.insertPrincipalRoles db userId roleIds) := by
  obtain ⟨principalRoles, heq, hmem⟩ := RoleSync.insertPrincipalRoles_eq db userId roleIds
  rw [heq]
  refine ⟨fun _ _ => id, fun _ => id, fun _ => .inl, fun pr hpr => ?_, fun _ => .inl⟩
  obtain ⟨r, hr, rfl⟩ | hpr := (hmem pr).1 hpr
  · exact .inr ⟨(.user, userId), howner, rfl, List.mem_map_of_mem hr, hadmits r hr⟩
  · exact .inl hpr

/-! ### What requests know -/

/-- The user whose principal the request has refreshed. -/
def Task.holder : Task → Option String
  | .roles phase => phase.holder
  | _ => none

/-- A request knows that its principal exists, that the roles it has read admit users, and that
the principals with the role it edits are still admitted. -/
structure Knows (db : Db) (task : Task) : Prop where
  holder : ∀ u, task.holder = some u → HasPrincipal db u
  pending : ∀ r ∈ task.pendingRoles, RoleAdmits db r .user
  edit : ∀ r t, Held db r t → task.forbids r t = false

variable {task task' : Task} {edit : RoleEdit}

theorem Knows.idle : Knows db (.roles .idle) := ⟨nofun, nofun, fun _ _ _ => rfl⟩

/-- What is assigned does not concern an edit in flight. -/
theorem Knows.effect (h : Knows db task) (heffect : Effect assigned db db')
    (hfree : ∀ x ∈ assigned, task.forbids x.1 x.2 = false) : Knows db' task where
  holder u hu := heffect.owners (.user, u) (h.holder u hu)
  pending r hr := heffect.roles r .user (h.pending r hr)
  edit r t hr := (heffect.held hr).elim (h.edit r t) fun hassigned => hfree _ hassigned.1

/-- After an edit a role admits what the edit does not forbid. -/
theorem roleAdmits_write (h : edit.write db = .ok db') (hr : RoleAdmits db r t)
    (hfree : (Task.editing edit).forbids r t = false) : RoleAdmits db' r t := by
  obtain ⟨roles, rfl, hmem⟩ := writeRole_eq_ok h
  obtain ⟨role, hrole, rfl, hadmits⟩ := hr
  refine ⟨_, (hmem _).2 ⟨role, hrole, rfl⟩, ?_, ?_⟩
  · split_ifs <;> rfl
  · split_ifs with hselected
    · obtain ⟨hid, -⟩ := Bool.and_eq_true_iff.1 hselected
      cases hnew : edit.assignableTo with
      | none => exact hadmits
      | some =>
        simpa [Task.forbids, hnew, (beq_iff_eq.1 hid).symm] using hfree
    · exact hadmits

theorem held_write (h : edit.write db = .ok db') (hr : Held db' r t) : Held db r t := by
  obtain ⟨roles, rfl, -⟩ := writeRole_eq_ok h
  cases hr with
  | user hr => exact .user hr
  | principal hr => exact .principal hr

theorem Sound.write (hdb : Sound db) (hknows : Knows db (.editing edit))
    (hbound : ∀ r t, Bound db r t → (Task.editing edit).forbids r t = false)
    (h : edit.write db = .ok db') : Sound db' where
  toLinked := by
    obtain ⟨roles, rfl, -⟩ := writeRole_eq_ok h
    exact ⟨hdb.principalRoles, hdb.roleBindings⟩
  held r t hr :=
    have hr := held_write h hr
    roleAdmits_write h (hdb.held r t hr) (hknows.edit r t hr)
  bound r t hr := by
    have hr : Bound db r t := by
      obtain ⟨roles, rfl, -⟩ := writeRole_eq_ok h
      exact hr
    exact roleAdmits_write h (hdb.bound r t hr) (hbound r t hr)

/-- An edit does not concern the roles that others have read. -/
theorem Knows.write (hknows : Knows db task) (h : edit.write db = .ok db')
    (hfree : ∀ r ∈ task.pendingRoles, (Task.editing edit).forbids r .user = false) :
    Knows db' task where
  holder u hu := by
    obtain ⟨roles, rfl, -⟩ := writeRole_eq_ok h
    exact hknows.holder u hu
  pending r hr := roleAdmits_write h (hknows.pending r hr) (hfree r hr)
  edit r t hr := hknows.edit r t (held_write h hr)

theorem knows_startEdit (hdb : Sound db) : Knows db (startEdit db edit) := by
  unfold startEdit
  split
  · exact .idle
  rename_i hcheck
  refine ⟨nofun, nofun, fun r t hr => ?_⟩
  cases hnew : edit.assignableTo with
  | none => simp [Task.forbids, hnew]
  | some a =>
    rw [hnew] at hcheck
    obtain ⟨huser, hprincipal⟩ := ensureRoleAssignableToUpdateIsCompatible_eq_ok hcheck
    have hadmits : edit.roleId = r → a.Admits t := by
      rintro rfl
      cases hr with
      | user hr => exact huser _ hr rfl
      | principal hr =>
        obtain ⟨_, ⟨p, hp, rfl⟩, hid⟩ := hdb.principalRoles _ hr
        obtain ⟨rfl, -⟩ := principalId_inj.1 hid
        exact hprincipal p hp _ hr hid rfl
    simpa [Task.forbids, hnew] using hadmits

theorem knows_startProvisioning {roleNames : List String} :
    Knows db (startProvisioning crates db salt id new roleIds roleNames) := by
  unfold startProvisioning
  split
  · exact .idle
  rename_i hok
  refine ⟨nofun, fun r hr => ?_, fun _ _ _ => rfl⟩
  obtain ⟨-, role, hrole, hid, -, hadmits⟩ := (storeProvisionedUser_of_provision hok).2 r hr
  exact ⟨role, hrole, hid, hadmits⟩

theorem Knows.proceed {phase phase' : Phase} (hknows : Knows db (.roles phase))
    (h : RoleSync.next crates .proceed db phase = some (db', phase')) :
    Effect (assigns db (.roles phase) .proceed) db db' ∧ Knows db' (.roles phase') := by
  have heffect : Effect (assigns db (.roles phase) .proceed) db db' := by
    cases phase with
    | idle => cases h
    | reading =>
      simp only [RoleSync.next] at h
      split at h <;> cases h <;> exact .refl
    | upserting =>
      cases h
      exact .of_subset (fun _ _ => id) hasOwner_upsertPrincipal.2 (fun _ => id) (fun _ => id)
        fun _ => id
    | assigning userId =>
      cases h
      exact .commit fun db' hok => effect_assignRolesToUser hok (hknows.holder userId rfl)
    | selecting =>
      cases h
      exact .refl
    | inserting userId todo =>
      cases todo with
      | nil =>
        cases h
        refine effect_insertPrincipalRoles (hknows.holder userId rfl) fun r hr => ?_
        exact hknows.pending r (by simpa [Task.pendingRoles, Phase.copied] using hr)
      | cons =>
        simp only [RoleSync.next] at h
        split_ifs at h <;> cases h <;> exact .refl
  obtain ⟨hholder, hcopied⟩ := RoleSync.holder_and_copied_of_proceed h
  refine ⟨heffect, fun u hu => hholder u hu (hknows.holder u),
    fun r hr => heffect.roles r .user ?_, fun _ _ _ => rfl⟩
  obtain ⟨ur, hur, rfl⟩ := List.mem_map.1 hr
  obtain hur | hur := hcopied ur hur
  · exact hknows.pending _ (List.mem_map_of_mem hur)
  · exact (RoleSync.mem_selectedRoles hur).2

variable (crates) in
theorem knows_start (hdb : Sound db) (call : Call) :
    Effect (assigns db (.roles .idle) (.call call)) db (start crates db call).1 ∧
      Knows (start crates db call).1 (start crates db call).2 := by
  cases call with
  | updateRole | restoreRole => exact ⟨.refl, knows_startEdit hdb⟩
  | assignRolesToUserBatch | syncUserRolesToPrincipal =>
    exact ⟨.refl, nofun, nofun, fun _ _ _ => rfl⟩
  | assignRoleToPrincipal =>
    exact ⟨.commit fun db' hok => effect_assignRoleToPrincipal hok, .idle⟩
  | provisionUserWithRolesAsClass =>
    simp only [start]
    split
    · exact ⟨.refl, .idle⟩
    · exact ⟨.refl, knows_startProvisioning⟩
  | assignOrganizationRole =>
    refine ⟨.commit fun db' hok => ?_, .idle⟩
    obtain ⟨principal, hprincipal, role, hrole, hbind⟩ := assignOrganizationRole_eq_ok hok
    exact effect_bindOrganizationRole hbind hprincipal hrole
  | assignOrganizationRoleAsManager =>
    refine ⟨.commit fun db' hok => ?_, .idle⟩
    obtain ⟨principal, hprincipal, role, hrole, hbind⟩ := assignOrganizationRoleAsManager_eq_ok hok
    exact effect_bindOrganizationRole hbind hprincipal hrole

/-- The effect of every step but the update of a role. -/
theorem Knows.next (hdb : Sound db) (hknows : Knows db task) {a : Input}
    (hedit : ∀ edit, task = .editing edit → a.proceeds = false)
    (h : next crates a db task = some (db', task')) :
    Effect (assigns db task a) db db' ∧ Knows db' task' := by
  unfold Assignability.next at h
  split at h
  case h_1 call =>
    have hstart := knows_start crates hdb call
    rw [Option.some.inj h] at hstart
    exact hstart
  case h_2 phase =>
    obtain ⟨⟨db', phase'⟩, hnext, heq⟩ := Option.map_eq_some_iff.1 h
    cases heq
    exact hknows.proceed hnext
  case h_3 edit => cases hedit edit rfl
  case h_4 salt id new roleIds =>
    cases h
    refine ⟨.commit fun db' hok => ?_, .idle⟩
    obtain ⟨⟨user, db''⟩, hstore, rfl⟩ := map_eq_ok.1 hok
    exact effect_storeProvisionedUser hstore hknows.pending
  case h_5 =>
    cases h
    exact ⟨.refl, .idle⟩
  case h_6 => cases h

theorem roleAdmits_iff : RoleAdmits db r t ↔ ∃ a, (r, a) ∈ admissions db ∧ a.Admits t := by
  constructor
  · rintro ⟨role, hrole, rfl, hadmits⟩
    exact ⟨_, List.mem_map.2 ⟨role, hrole, rfl⟩, hadmits⟩
  · rintro ⟨a, ha, hadmits⟩
    obtain ⟨role, hrole, heq⟩ := List.mem_map.1 ha
    cases heq
    exact ⟨role, hrole, rfl, hadmits⟩

theorem effect_surroundings {other : Db} (h : surroundings other db = some db') :
    Effect [] db db' := by
  unfold surroundings at h
  split_ifs at h with hsubset
  cases h
  obtain ⟨hroles, howners, huserRoles, hprincipalRoles, hroleBindings⟩ := hsubset
  refine .of_subset (fun r t hr => ?_) (fun o ho => ?_) (fun _ h => huserRoles h)
    (fun _ h => hprincipalRoles h) fun _ h => hroleBindings h
  · obtain ⟨a, ha, hadmits⟩ := roleAdmits_iff.1 hr
    exact roleAdmits_iff.2 ⟨a, hroles ha, hadmits⟩
  · exact List.mem_map.1 (howners (List.mem_map.2 ho))

/-! ### Runs -/

variable {ι : Type*}

/-- Assignments and bindings are admitted, and every request knows what it has checked. -/
structure Invariant (db : Db) (request : ι → Task) : Prop where
  sound : Sound db
  tasks : ∀ i, Knows db (request i)

variable [DecidableEq ι]

theorem knows_update {request : ι → Task} {i : ι} (htask' : Knows db' task')
    (hothers : ∀ j, j ≠ i → Knows db' (request j)) :
    ∀ j, Knows db' (Function.update request i task' j) :=
  (Function.forall_update_iff _ fun _ => Knows db').2 ⟨htask', hothers⟩

variable {c c' : Config ι Db Task} {l : Action ι Input Db}

theorem Invariant.write {i : ι} (h : Invariant c.shared c.request)
    (hordered : Ordered c (.request i .proceed)) (htask : c.request i = .editing edit) :
    Invariant (commit c.shared (edit.write c.shared))
      (Function.update c.request i (.roles .idle)) := by
  obtain ⟨hbound, hpending⟩ := hordered.2 rfl
  simp only [htask] at hbound hpending
  cases hwrite : edit.write c.shared with
  | error => exact ⟨h.sound, knows_update .idle fun j _ => h.tasks j⟩
  | ok =>
    refine ⟨h.sound.write (htask ▸ h.tasks i) (fun r t hr => ?_) hwrite,
      knows_update .idle fun j _ => (h.tasks j).write hwrite (hpending j)⟩
    obtain ⟨organizationId, refId, hr⟩ := hr
    obtain ⟨_, ⟨p, hp, rfl⟩, hid⟩ := h.sound.roleBindings _ hr
    obtain ⟨rfl, -⟩ := principalId_inj.1 hid
    exact hbound _ hr p hp hid.symm

theorem Invariant.step (h : Invariant c.shared c.request) (hordered : Ordered c l)
    (hstep : (protocol crates ι).system.step c l = some c') : Invariant c'.shared c'.request := by
  obtain ⟨other, db', rfl, henv, rfl⟩ | ⟨i, a, db', task', rfl, hnext, rfl⟩ :=
    Protocol.step_cases hstep
  · have heffect := effect_surroundings henv
    exact ⟨h.sound.effect heffect, fun j => (h.tasks j).effect heffect nofun⟩
  by_cases hedit : ∃ edit, c.request i = .editing edit ∧ a.proceeds = true
  · obtain ⟨edit, htask, ha⟩ := hedit
    cases a with
    | call | fail => cases ha
    | proceed =>
      have hedit := h.write hordered htask
      simp only [protocol, htask] at hnext
      cases hnext
      exact hedit
  · have hfree : ∀ edit, c.request i = .editing edit → a.proceeds = false :=
      fun edit htask => Bool.not_eq_true _ ▸ fun ha => hedit ⟨edit, htask, ha⟩
    obtain ⟨heffect, htask'⟩ := (h.tasks i).next h.sound hfree hnext
    exact ⟨h.sound.effect heffect,
      knows_update htask' fun j _ => (h.tasks j).effect heffect (hordered.1 j)⟩

/-- In every run from an admitted database in which edits are ordered with assignments and
bindings, assignments and bindings are to principals that the role admits. -/
theorem assignments_admitted (crates : Crates) (c₀ c : Config ι Db Task)
    (ls : List (Action ι Input Db)) (hdb : Admitted c₀.shared) (hlinked : Linked c₀.shared)
    (hidle : ∀ i, c₀.request i = .roles .idle)
    (hordered : (protocol crates ι).system.Along (fun c l _ => Ordered c l) c₀ ls)
    (hrun : (protocol crates ι).system.run c₀ ls = some c) : Admitted c.shared := by
  have hc₀ : Invariant c₀.shared c₀.request := ⟨hdb.sound hlinked, fun i => by
    rw [hidle i]
    exact .idle⟩
  have hc := (protocol crates ι).system.run_invariant_along
    (I := fun c => Invariant c.shared c.request)
    (fun _ _ _ h hordered hstep => h.step hordered hstep) hc₀ hordered hrun
  exact hc.sound.admitted

/-- A member of an organization, and a role of organizations that only users may have. -/
def sampleDb : Db where
  users := .single { id := "u", username := "u", email := "e" }
  principals := .single ⟨.user, "u", "u", true⟩
  organizations := .single { id := "o", kind := .customer, status := .active }
  memberships := .single ⟨"o", "user-u", .active, .member⟩
  roles :=
    .single { id := "r", name := "reader", assignableTo := .only .user, scope := .organization }

def sampleConfig : Config (Fin 2) Db Task := ⟨sampleDb, fun _ => .roles .idle⟩

theorem admitted_sampleDb : Admitted sampleDb where
  userRoles _ h := absurd h not_mem_empty
  principalRoles _ h := absurd h not_mem_empty
  roleBindings _ h := absurd h not_mem_empty

theorem linked_sampleDb : Linked sampleDb where
  principalRoles _ h := absurd h not_mem_empty
  roleBindings _ h := absurd h not_mem_empty

/-- The role is bound to the member, and then edited. -/
def bindAndEdit (assignableTo : AssignableTo) : List (Action (Fin 2) Input Db) :=
  [.request 0 (.call (.assignOrganizationRole "o" "user-u" "r")),
    .request 1 (.call (.updateRole ⟨"r", none, some assignableTo, none, none⟩)),
    .request 1 .proceed]

/-- The edit opens the role to all principals. -/
theorem assignments_admitted_open :
    ∃ c, (protocol Crates.readable (Fin 2)).system.run sampleConfig (bindAndEdit .all) = some c ∧
      ⟨"o", "user-u", "r"⟩ ∈ c.shared.roleBindings ∧ Admitted c.shared :=
  ⟨_, rfl, by decide +kernel,
    assignments_admitted Crates.readable sampleConfig _ (bindAndEdit .all) admitted_sampleDb
      linked_sampleDb (fun _ => rfl) (by decide +kernel) rfl⟩

/-- The edit reserves the role for services, and the binding of the member stays. -/
theorem binding_outlives_edit :
    ∃ c, (protocol Crates.readable (Fin 2)).system.run sampleConfig (bindAndEdit (.only .service)) =
        some c ∧
      (∀ i, c.request i = .roles .idle) ∧ ⟨"o", "user-u", "r"⟩ ∈ c.shared.roleBindings ∧
      ¬ Admitted c.shared := by
  refine ⟨_, rfl, by decide +kernel, by decide +kernel, fun h => ?_⟩
  obtain ⟨role, hrole, -, hadmits⟩ := h.roleBindings ⟨"o", "user-u", "r"⟩ (by decide +kernel)
    ⟨.user, "u", "u", true⟩ (by decide +kernel) (by decide +kernel)
  revert role
  decide +kernel

end Keylo.Assignability
