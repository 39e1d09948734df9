import Keylo.RoleSync

/-!
# The classes of users and platform roles

Customers hold no platform role. The class of a user and its platform roles are written by
different requests: a change of the class locks the user and then reads both tables of roles; an
assignment locks the user and then reads its class; the copy from `user_roles` to
`principal_roles` locks nothing. A copy writes only roles that the user already holds in the
other table, where every change of the class sees them, so that no interleaving leaves a customer
with a platform role (`no_customer_with_platform_role`).

## Main definitions

* `Store` : the database and the rows of users that a request has locked.
* `protocol` : the statements of all requests.
* `Effect` : what a step does to classes and roles.
* `Sound` : customers hold no platform role.

## Main results

* `step_of_next` : the effect of every step.
-/

namespace Keylo.UserClasses

open Relational Transition Function Table
open RoleSync (Phase HasPrincipal)

/-! ### Requests -/

inductive Call
  | setUserClass (userId userClass : String)
  | promoteUserToInternalEmployee (userId : String)
  | assignRolesToUserBatch (userId : String) (roleIds : List String)
  | assignRoleToPrincipal (principalId roleId : String)
  | provisionUserWithRolesAsClass (salt id : String) (new : NewUser) (userClass : String)
      (roleIds roleNames : List String)
  | syncUserRolesToPrincipal (userId : String)

/-- The two ways to change the class of a user. -/
inductive ClassChange
  | set (userClass : UserClass)
  | promote
deriving DecidableEq

/-- The class after the change. -/
def ClassChange.userClass : ClassChange → UserClass
  | .set userClass => userClass
  | .promote => .internalEmployee

/-- The statements that follow the lock of the row of the user. -/
def ClassChange.check (db : Db) (user : User) : ClassChange → Except String Unit
  | .set userClass => ensureUserClassChange db user userClass
  | .promote => ensurePromotion db user

/-- The statements that follow the check. -/
def ClassChange.write (db : Db) (userId : String) : ClassChange → Db
  | .set userClass => writeUserClass db userId userClass
  | .promote => (db.users.lookup User.id userId).elim db (writePromotion db)

/-- What a request is about to do. -/
inductive Task
  | roles (phase : Phase)
  /-- The row of the user is locked and the roles of the user have been checked. -/
  | changing (change : ClassChange) (userId : String)
deriving DecidableEq

inductive Input
  | call (c : Call)
  | proceed
  | fail

/-- The database, and the requests that have locked the row of a user and not yet committed. -/
structure Store (ι : Type*) where
  db : Db
  lock : String → Option ι

variable {ι : Type*} (crates : Crates)

/-- The user that a principal stands for. -/
def principalUser (db : Db) (id : String) : Option String :=
  ((db.principals.lookup Principal.id id).filter (·.principalType == .user)).map Principal.refId

/-- Locks the row of a user and checks its roles; a request waits for the row. -/
def begin (i : ι) (s : Store ι) (userId : String) (change : ClassChange) :
    Option (Store ι × Task) :=
  match s.lock userId with
  | some _ => none
  | none =>
    match s.db.users.lookup User.id userId with
    | none => some (s, .roles .idle)
    | some user =>
      match change.check s.db user with
      | .error _ => some (s, .roles .idle)
      | .ok () =>
        some ({ s with lock := update s.lock userId (some i) }, .changing change userId)

/-- The transaction that a request is about to make waits for the row of the user. -/
def waits (s : Store ι) : Phase → Bool
  | .assigning userId _ => (s.lock userId).isSome
  | _ => false

def start (i : ι) (s : Store ι) : Call → Option (Store ι × Task)
  | .setUserClass userId userClass =>
    match parseUserClass userClass with
    | .error _ => some (s, .roles .idle)
    | .ok userClass => begin i s userId (.set userClass)
  | .promoteUserToInternalEmployee userId => begin i s userId .promote
  | .assignRolesToUserBatch userId roleIds => some (s, .roles (.reading (.assign roleIds) userId))
  | .assignRoleToPrincipal id roleId =>
    if ((principalUser s.db id).bind s.lock).isSome then none
    else some ({ s with db := commit s.db (assignRoleToPrincipal s.db id roleId) }, .roles .idle)
  | .provisionUserWithRolesAsClass salt id new userClass roleIds roleNames =>
    some ({ s with
      db := commit s.db ((provisionUserWithRolesAsClass crates s.db salt id new userClass roleIds
        roleNames).map Prod.snd) }, .roles .idle)
  | .syncUserRolesToPrincipal userId => some (s, .roles (.reading .sync userId))

def next (i : ι) : Input → Store ι → Task → Option (Store ι × Task)
  | .call c, s, .roles .idle => start crates i s c
  | .proceed, s, .roles phase =>
    if waits s phase then none
    else (RoleSync.next crates .proceed s.db phase).map fun r => ({ s with db := r.1 }, .roles r.2)
  | .proceed, s, .changing change userId =>
    some (⟨change.write s.db userId, update s.lock userId none⟩, .roles .idle)
  | .fail, s, .roles _ => some (s, .roles .idle)
  | .fail, s, .changing _ userId =>
    some ({ s with lock := update s.lock userId none }, .roles .idle)
  | _, _, _ => none

/-- The classes of all users. -/
def classes (db : Db) : List (String × UserClass) := db.users.rows.map fun u => (u.id, u.userClass)

/-- The scopes of all roles. -/
def scopes (db : Db) : List (String × RoleScope) := db.roles.rows.map fun r => (r.id, r.scope)

/-- Other requests change anything but the classes of users, the scopes of roles, the principals
and the two tables. -/
def surroundings (other : Db) (s : Store ι) : Option (Store ι) :=
  if classes other = classes s.db ∧ scopes other = scopes s.db then
    some { s with db := { other with
      principals := s.db.principals
      userRoles := s.db.userRoles
      principalRoles := s.db.principalRoles } }
  else none

variable (ι) in
/-- The statements of the requests, named by `ι`, and all other writes. -/
def protocol : Protocol ι (Store ι) Task Input Db where
  next := next crates
  env := surroundings

variable {userId : String} {user : User}

/-! ### Classes and roles -/

/-- The user has the role in one of the two tables. -/
def Holds (db : Db) (userId roleId : String) : Prop :=
  ⟨userId, roleId⟩ ∈ db.userRoles ∨ ⟨principalId .user userId, roleId⟩ ∈ db.principalRoles

def HasUser (db : Db) (userId : String) : Prop := ∃ user ∈ db.users, user.id = userId

/-- The user is not an employee. -/
def IsCustomer (db : Db) (userId : String) : Prop :=
  ∃ user ∈ db.users, user.id = userId ∧ user.userClass ≠ .internalEmployee

def IsPlatform (db : Db) (roleId : String) : Prop :=
  ∃ role ∈ db.roles, role.id = roleId ∧ role.scope = .platform

/-- The user has no platform role. -/
def NoPlatformRole (db : Db) (userId : String) : Prop := ∀ r, Holds db userId r → ¬ IsPlatform db r

/-- Customers have no platform role, and both tables refer to users and principals that exist. -/
structure Sound (db : Db) : Prop where
  customers : ∀ u, IsCustomer db u → NoPlatformRole db u
  users : ∀ u r, ⟨u, r⟩ ∈ db.userRoles → HasUser db u
  principals : ∀ u r, ⟨principalId .user u, r⟩ ∈ db.principalRoles → HasPrincipal db u

/-- What a step does to classes and roles, if `assigned` are the roles it assigns. -/
structure Effect (assigned : String → String → Prop) (db db' : Db) : Prop where
  platform : ∀ r, IsPlatform db' r → IsPlatform db r
  users : ∀ u, HasUser db u → HasUser db' u
  principals : ∀ u, HasPrincipal db u → HasPrincipal db' u
  keeps : ∀ u r, ⟨u, r⟩ ∈ db.userRoles → ⟨u, r⟩ ∈ db'.userRoles
  userRoles : ∀ u r, ⟨u, r⟩ ∈ db'.userRoles → ⟨u, r⟩ ∈ db.userRoles ∨ assigned u r
  principalRoles : ∀ u r, ⟨principalId .user u, r⟩ ∈ db'.principalRoles →
    ⟨principalId .user u, r⟩ ∈ db.principalRoles ∨
      HasPrincipal db' u ∧ (assigned u r ∨ ⟨u, r⟩ ∈ db.userRoles)
  employees : ∀ u r, assigned u r → HasUser db' u ∧ ¬ IsCustomer db' u
  customers : ∀ u, IsCustomer db' u → IsCustomer db u ∨ NoPlatformRole db u

variable {crates} {db db' : Db} {assigned : String → String → Prop} {u r : String}

theorem Effect.holds (h : Effect assigned db db') (hr : Holds db' u r) :
    Holds db u r ∨ assigned u r := by
  obtain hr | hr := hr
  · exact (h.userRoles u r hr).imp_left .inl
  obtain hr | ⟨-, hr | hr⟩ := h.principalRoles u r hr
  · exact .inl (.inr hr)
  · exact .inr hr
  · exact .inl (.inl hr)

theorem Effect.noPlatformRole (h : Effect assigned db db') (hu : NoPlatformRole db u)
    (hassigned : ∀ r, ¬ assigned u r) : NoPlatformRole db' u := fun r hr hplatform =>
  hu r ((h.holds hr).resolve_right (hassigned r)) (h.platform r hplatform)

theorem Sound.effect (hdb : Sound db) (h : Effect assigned db db') : Sound db' where
  customers u hu := by
    have hnone : NoPlatformRole db u := (h.customers u hu).elim (hdb.customers u) id
    exact h.noPlatformRole hnone fun r hr => (h.employees u r hr).2 hu
  users u r hr :=
    (h.userRoles u r hr).elim (fun hr => h.users u (hdb.users u r hr))
      fun hr => (h.employees u r hr).1
  principals u r hr :=
    (h.principalRoles u r hr).elim (fun hr => h.principals u (hdb.principals u r hr)) And.left

theorem Effect.of_frame (hroles : db'.roles = db.roles) (husers : db'.users = db.users)
    (huserRoles : db'.userRoles = db.userRoles)
    (hprincipalRoles : db'.principalRoles = db.principalRoles)
    (hprincipals : ∀ u, HasPrincipal db u → HasPrincipal db' u) :
    Effect (fun _ _ => False) db db' where
  platform r h := by rwa [IsPlatform, ← hroles]
  users u h := by rwa [HasUser, husers]
  principals := hprincipals
  keeps u r h := by rwa [huserRoles]
  userRoles u r h := .inl (by rwa [← huserRoles])
  principalRoles u r h := .inl (by rwa [← hprincipalRoles])
  employees _ _ := False.elim
  customers u h := .inl (by rwa [IsCustomer, ← husers])

theorem Effect.refl : Effect (fun _ _ => False) db db := .of_frame rfl rfl rfl rfl fun _ => id

theorem not_isCustomer (huser : user ∈ db.users) (hclass : user.userClass = .internalEmployee) :
    ¬ IsCustomer db user.id := by
  rintro ⟨other, hother, hid, hcustomer⟩
  obtain rfl : other = user := eq_of_key hother huser hid
  exact hcustomer hclass

/-! ### Assignments -/

variable {roleIds : List String}

/-- Roles are assigned to an employee with a principal, who may be new. -/
theorem Effect.of_assign (hroles : db'.roles = db.roles)
    (hadds : AddsRoles db db' user.id roleIds) (husers : ∀ u, HasUser db u → HasUser db' u)
    (hprincipals : ∀ u, HasPrincipal db u → HasPrincipal db' u) (huser : user ∈ db'.users)
    (hclass : ∀ r ∈ roleIds, user.userClass = .internalEmployee)
    (hprincipal : HasPrincipal db' user.id)
    (hcustomers : ∀ u, IsCustomer db' u → IsCustomer db u ∨ NoPlatformRole db u) :
    Effect (fun u r => u = user.id ∧ r ∈ roleIds) db db' where
  platform r h := by rwa [IsPlatform, ← hroles]
  users := husers
  principals := hprincipals
  keeps u r h := (hadds.user _).2 (.inr h)
  userRoles u r h := by
    obtain ⟨r', hr', heq⟩ | h := (hadds.user _).1 h
    · cases heq
      exact .inr ⟨rfl, hr'⟩
    · exact .inl h
  principalRoles u r h := by
    obtain ⟨r', hr', heq⟩ | h := (hadds.principal _).1 h
    · obtain ⟨hid, rfl⟩ := PrincipalRole.mk.inj heq
      obtain rfl : u = user.id := (principalId_inj.1 hid).2
      exact .inr ⟨hprincipal, .inl ⟨rfl, hr'⟩⟩
    · exact .inl h
  employees u r h := by
    obtain ⟨rfl, hr⟩ := h
    exact ⟨⟨user, huser, rfl⟩, not_isCustomer huser (hclass r hr)⟩
  customers := hcustomers

theorem effect_assignRolesToUser (h : assignRolesToUser db userId roleIds = .ok db')
    (hprincipal : HasPrincipal db userId) :
    Effect (fun u r => u = userId ∧ r ∈ roleIds) db db' := by
  obtain ⟨user, huser, rfl, hcheck, rfl⟩ := assignRolesToUser_eq_ok h
  obtain ⟨userRoles, principalRoles, hfold, hadds⟩ := foldl_insertRole db user.id roleIds
  rw [hfold]
  exact .of_assign rfl hadds (fun _ => id) (fun _ => id) huser
    (fun r hr => (checkRoles_eq_ok hcheck r hr).1) hprincipal fun _ => .inl

/-- Roles of other principals than users do not matter. -/
theorem effect_assignRoleToPrincipal {id roleId : String}
    (h : assignRoleToPrincipal db id roleId = .ok db') :
    Effect (fun u r => principalUser db id = some u ∧ r ∈ [roleId]) db db' := by
  obtain ⟨p, hp, rfl, -, hemployee, hdb'⟩ := assignRoleToPrincipal_eq_ok h
  have hlookup : db.principals.lookup Principal.id p.id = some p :=
    lookup_eq_some_iff.2 ⟨hp, rfl⟩
  by_cases htype : p.principalType = .user
  · obtain ⟨user, huser, hid, hclass⟩ := hemployee htype
    obtain ⟨userRoles, principalRoles, hfold, hadds⟩ := foldl_insertRole db user.id [roleId]
    rw [if_pos htype, ← hid] at hdb'
    obtain rfl : db' = _ := hdb'.trans hfold
    have hsome : principalUser db p.id = some user.id := by
      simp only [principalUser, hlookup, Option.filter_some, htype, beq_self_eq_true, if_true,
        Option.map_some, hid]
    simp only [hsome, Option.some.injEq, eq_comm (a := user.id)]
    exact .of_assign rfl hadds (fun _ => id) (fun _ => id) huser
      (fun _ _ => hclass) ⟨p, hp, Prod.ext_iff.2 ⟨htype, hid.symm⟩⟩ fun _ => .inl
  · rw [if_neg htype] at hdb'
    subst hdb'
    have hnone : principalUser db p.id = none := by simp [principalUser, hlookup, htype]
    have hother : ∀ u r, (⟨principalId .user u, r⟩ : PrincipalRole) ≠ ⟨p.id, roleId⟩ := by
      intro u r heq
      exact htype (principalId_inj.1 (PrincipalRole.mk.inj heq).1).1.symm
    refine ⟨fun _ => id, fun _ => id, fun _ => id, fun _ _ => id, fun _ _ => .inl, fun u r hr => ?_,
      fun u r hr => ?_, fun _ => .inl⟩
    · exact .inl ((mem_insertPrincipalRole.1 hr).resolve_left (hother u r))
    · rw [hnone] at hr
      cases hr.1

/-- A new user comes with its roles: nothing in the tables refers to it before. -/
theorem effect_provisionUserWithRoles (hdb : Sound db) {salt id : String} {new : NewUser}
    {roleNames : List String}
    (h : provisionUserWithRoles crates db salt id new roleIds roleNames = .ok (user, db')) :
    ¬ HasUser db id ∧
      Effect (fun u r => u = id ∧ r ∈ provisionedRoles db roleIds roleNames) db db' := by
  obtain ⟨hstore, hroles⟩ := storeProvisionedUser_of_provision h
  obtain ⟨users, principals, userRoles, principalRoles, hnew, hinsertPrincipal, rfl, hadds⟩ :=
    storeProvisionedUser_eq_ok hstore
  have hclass := userClass_of_insertUser hnew
  obtain ⟨rfl, -, -, -, users', hinsert, hdb'⟩ := insertUser_eq_ok hnew
  obtain rfl : users = users' := congrArg Db.users hdb'
  have huser : user ∈ users := (mem_of_insert_eq_some hinsert).2 (.inl rfl)
  have hprincipal : HasPrincipal { db with principals := principals } user.id :=
    ⟨_, (mem_of_insert_eq_some hinsertPrincipal).2 (.inl rfl), rfl⟩
  have hfreshUser : ¬ HasUser db user.id := by
    rintro ⟨other, hother, hid⟩
    exact key_ne_of_insert hinsert hother hid
  have hfresh : ∀ r, ¬ Holds db user.id r := by
    rintro r (hr | hr)
    · exact hfreshUser (hdb.users _ r hr)
    · obtain ⟨p, hp, howner⟩ := hdb.principals _ r hr
      exact key_ne_of_insert hinsertPrincipal hp howner
  refine ⟨hfreshUser, .of_assign rfl hadds ?_ ?_ huser
    (fun r hr => hclass.trans (hroles r hr).1) hprincipal ?_⟩
  · rintro u ⟨other, hother, hid⟩
    exact ⟨other, (mem_of_insert_eq_some hinsert).2 (.inr hother), hid⟩
  · rintro u ⟨p, hp, howner⟩
    exact ⟨p, (mem_of_insert_eq_some hinsertPrincipal).2 (.inr hp), howner⟩
  · rintro u ⟨other, hother, rfl, hcustomer⟩
    obtain rfl | hother := (mem_of_insert_eq_some hinsert).1 hother
    · exact .inr fun r hr => absurd hr (hfresh r)
    · exact .inl ⟨other, hother, rfl, hcustomer⟩

/-! ### Changes of the class -/

theorem noPlatformRole_of_hasPlatformRole (hdb : Sound db)
    (h : hasPlatformRole db u = false) : NoPlatformRole db u := by
  simp only [hasPlatformRole, Bool.or_eq_false_iff, any_eq_false] at h
  rintro r hr ⟨role, hrole, rfl, hscope⟩
  have hplatform : (db.roles.any fun r => r.id == role.id && r.scope == .platform) = true :=
    any_eq_true.2 ⟨role, hrole, by simp [hscope]⟩
  obtain hr | hr := hr
  · simpa [hplatform] using h.1 _ hr
  obtain ⟨p, hp, howner⟩ := hdb.principals u _ hr
  obtain ⟨htype, href⟩ : p.principalType = .user ∧ p.refId = u := Prod.ext_iff.1 howner
  have hid : p.id = principalId .user u := by rw [Principal.id, htype, href]
  have hany : (db.principalRoles.any fun pr => pr.principalId == p.id &&
      db.roles.any fun r => r.id == pr.roleId && r.scope == .platform) = true :=
    any_eq_true.2 ⟨_, hr, by simp only [hid, hplatform, beq_self_eq_true, Bool.and_self]⟩
  simpa [hany, htype, href] using h.2 p hp

variable {change : ClassChange}

/-- A user that is about to become a customer has been found without platform roles. -/
theorem noPlatformRole_of_check (hdb : Sound db) (huser : user ∈ db.users)
    (h : change.check db user = .ok ()) (hclass : change.userClass ≠ .internalEmployee) :
    NoPlatformRole db user.id := by
  cases change with
  | promote => exact absurd rfl hclass
  | set c =>
    simp only [ClassChange.check, ensureUserClassChange] at h
    split_ifs at h with hcheck
    by_cases hsame : user.userClass = c
    · exact hdb.customers _ ⟨user, huser, rfl, hsame ▸ hclass⟩
    · exact noPlatformRole_of_hasPlatformRole hdb
        (Bool.not_eq_true _ ▸ fun hsome => hcheck ⟨hsame, hsome⟩)

/-- Only the class of one user changes, and principals are added. -/
theorem Effect.of_update (userId : String) (userClass : UserClass) (hroles : db'.roles = db.roles)
    (husers : db'.users =
      db.users.update (fun user => user.id == userId) (assignUserClass userClass))
    (huserRoles : db'.userRoles = db.userRoles)
    (hprincipalRoles : db'.principalRoles = db.principalRoles)
    (hprincipals : ∀ u, HasPrincipal db u → HasPrincipal db' u)
    (hu : userClass ≠ .internalEmployee → NoPlatformRole db userId) :
    Effect (fun _ _ => False) db db' where
  platform r h := by rwa [IsPlatform, ← hroles]
  users u h := by
    obtain ⟨user, huser, rfl⟩ := h
    rw [HasUser, husers]
    refine ⟨_, mem_update.2 ⟨user, huser, rfl⟩, ?_⟩
    split_ifs <;> rfl
  principals := hprincipals
  keeps u r h := by rwa [huserRoles]
  userRoles u r h := .inl (by rwa [← huserRoles])
  principalRoles u r h := .inl (by rwa [← hprincipalRoles])
  employees _ _ := False.elim
  customers u h := by
    obtain ⟨_, hmem, rfl, hcustomer⟩ := h
    rw [husers] at hmem
    obtain ⟨user, huser, rfl⟩ := mem_update.1 hmem
    split_ifs at hcustomer ⊢ with hid
    · obtain rfl : user.id = userId := by simpa using hid
      exact .inr (hu hcustomer)
    · exact .inl ⟨user, huser, rfl, hcustomer⟩

theorem effect_write (hu : change.userClass ≠ .internalEmployee → NoPlatformRole db userId) :
    Effect (fun _ _ => False) db (change.write db userId) := by
  cases change with
  | set c => exact .of_update userId c rfl rfl rfl rfl (fun _ => id) hu
  | promote =>
    simp only [ClassChange.write]
    cases hlookup : db.users.lookup User.id userId with
    | none => exact .refl
    | some user =>
      exact .of_update user.id .internalEmployee rfl rfl rfl rfl
        RoleSync.hasPrincipal_upsertPrincipal.2 (absurd rfl)

/-! ### Copies -/

/-- What a request knows about the principal and the roles of its user. -/
structure PhaseSound (db : Db) (t : Phase) : Prop where
  holder : ∀ u, t.holder = some u → HasPrincipal db u
  copied : ∀ ur ∈ t.copied, ur ∈ db.userRoles

variable {t t' : Phase}

theorem PhaseSound.effect (ht : PhaseSound db t) (h : Effect assigned db db') :
    PhaseSound db' t :=
  ⟨fun u hu => h.principals u (ht.holder u hu), fun _ hur => h.keeps _ _ (ht.copied _ hur)⟩

theorem PhaseSound.idle : PhaseSound db .idle := ⟨nofun, nofun⟩

/-- The roles of a copy are roles that the user already has. -/
theorem effect_insertPrincipalRoles (hprincipal : HasPrincipal db userId)
    (hroles : ∀ r ∈ roleIds, ⟨userId, r⟩ ∈ db.userRoles) :
    Effect (fun _ _ => False) db (RoleSync.insertPrincipalRoles db userId roleIds) := by
  obtain ⟨principalRoles, heq, hmem⟩ := RoleSync.insertPrincipalRoles_eq db userId roleIds
  rw [heq]
  refine ⟨fun _ => id, fun _ => id, fun _ => id, fun _ _ => id, fun _ _ => .inl, fun u r hr => ?_,
    fun _ _ => False.elim, fun _ => .inl⟩
  obtain ⟨r', hr', hpr⟩ | hr := (hmem _).1 hr
  · obtain ⟨hid, rfl⟩ := PrincipalRole.mk.inj hpr
    obtain rfl : u = userId := (principalId_inj.1 hid).2
    exact .inr ⟨hprincipal, .inr (hroles r hr')⟩
  · exact .inl hr

/-- A request assigns roles to the user whose row it locks, and to no other. -/
theorem effect_of_proceed (ht : PhaseSound db t)
    (h : RoleSync.next crates .proceed db t = some (db', t')) :
    ∃ assigned, Effect assigned db db' ∧
      ∀ u r, assigned u r → ∃ roleIds, t = .assigning u roleIds := by
  have hnothing : (∃ assigned, Effect assigned db db ∧
      ∀ u r, assigned u r → ∃ roleIds, t = .assigning u roleIds) :=
    ⟨_, .refl, fun _ _ => False.elim⟩
  cases t with
  | idle => cases h
  | reading =>
    simp only [RoleSync.next] at h
    split at h <;> cases h <;> exact hnothing
  | upserting =>
    cases h
    exact ⟨_, .of_frame rfl rfl rfl rfl RoleSync.hasPrincipal_upsertPrincipal.2,
      fun _ _ => False.elim⟩
  | assigning userId roleIds =>
    cases h
    cases hok : assignRolesToUser db userId roleIds with
    | error => exact hnothing
    | ok =>
      refine ⟨_, effect_assignRolesToUser hok (ht.holder userId rfl), ?_⟩
      rintro u r ⟨rfl, -⟩
      exact ⟨roleIds, rfl⟩
  | selecting =>
    cases h
    exact hnothing
  | inserting userId todo =>
    cases todo with
    | nil =>
      cases h
      exact ⟨_, effect_insertPrincipalRoles (ht.holder userId rfl) fun r hr =>
        ht.copied _ (List.mem_map_of_mem hr), fun _ _ => False.elim⟩
    | cons =>
      simp only [RoleSync.next] at h
      split_ifs at h <;> cases h <;> exact hnothing

theorem PhaseSound.proceed (ht : PhaseSound db t)
    (h : RoleSync.next crates .proceed db t = some (db', t')) : PhaseSound db' t' := by
  obtain ⟨assigned, heffect, -⟩ := effect_of_proceed ht h
  obtain ⟨hholder, hcopied⟩ := RoleSync.holder_and_copied_of_proceed h
  refine ⟨fun u hu => hholder u hu (ht.holder u), fun ur hur => ?_⟩
  obtain hur | hur := hcopied ur hur
  · exact heffect.keeps _ _ (ht.copied ur hur)
  · exact heffect.keeps _ _ (RoleSync.mem_selectedRoles hur).1

/-! ### Steps -/

/-- What a request knows about the shared state. -/
def TaskSound (i : ι) (s : Store ι) : Task → Prop
  | .roles phase => PhaseSound s.db phase
  | .changing change userId =>
    s.lock userId = some i ∧ HasUser s.db userId ∧
      (change.userClass ≠ .internalEmployee → NoPlatformRole s.db userId)

/-- A step of `mover` assigns no role to a user whose row is locked, and leaves the locks of the
other requests alone. -/
structure Step (mover : Option ι) (s s' : Store ι) : Prop where
  effect : ∃ assigned, Effect assigned s.db s'.db ∧
    ∀ u r, assigned u r → s.lock u = none ∨ ¬ HasUser s.db u
  lock : ∀ u j, s.lock u = some j → some j ≠ mover → s'.lock u = some j

variable {i j : ι} {mover : Option ι} {s s' : Store ι} {t t' : Task}

theorem Step.of_effect (h : Effect (fun _ _ => False) s.db s'.db)
    (hlock : ∀ u j, s.lock u = some j → some j ≠ mover → s'.lock u = some j) :
    Step mover s s' :=
  ⟨⟨_, h, fun _ _ => False.elim⟩, hlock⟩

theorem Step.refl : Step mover s s := .of_effect .refl fun _ _ h _ => h

theorem TaskSound.step (ht : TaskSound j s t) (h : Step mover s s') (hj : some j ≠ mover) :
    TaskSound j s' t := by
  obtain ⟨assigned, heffect, hassigned⟩ := h.effect
  cases t with
  | roles => exact PhaseSound.effect ht heffect
  | changing change userId =>
    obtain ⟨hlock, huser, hroles⟩ := ht
    refine ⟨h.lock userId j hlock hj, heffect.users _ huser, fun hclass =>
      heffect.noPlatformRole (hroles hclass) fun r hr => ?_⟩
    obtain hfree | hfresh := hassigned userId r hr
    · rw [hlock] at hfree
      cases hfree
    · exact hfresh huser

theorem Sound.step (hdb : Sound s.db) (h : Step mover s s') : Sound s'.db := by
  obtain ⟨assigned, heffect, -⟩ := h.effect
  exact hdb.effect heffect

/-- A request changes the lock of a row that no other request has locked. -/
theorem lock_update (hlock : ∀ j, s.lock userId = some j → j = i) (v : Option ι) (u : String)
    (j : ι) (hu : s.lock u = some j) (hj : some j ≠ some i) :
    update s.lock userId v u = some j := by
  rw [update_of_ne, hu]
  rintro rfl
  exact hj (congrArg some (hlock j hu))

theorem step_of_begin (hdb : Sound s.db) (h : begin i s userId change = some (s', t')) :
    Step (some i) s s' ∧ TaskSound i s' t' := by
  unfold begin at h
  split at h
  · cases h
  rename_i hfree
  split at h
  · cases h
    exact ⟨.refl, .idle⟩
  rename_i user hlookup
  obtain ⟨huser, rfl⟩ := lookup_eq_some_iff.1 hlookup
  split at h
  · cases h
    exact ⟨.refl, .idle⟩
  rename_i hcheck
  cases h
  exact ⟨.of_effect .refl (lock_update (by simp [hfree]) _), update_self ..,
    ⟨user, huser, rfl⟩, noPlatformRole_of_check hdb huser hcheck⟩

theorem step_of_start (hdb : Sound s.db) {call : Call}
    (h : start crates i s call = some (s', t')) : Step (some i) s s' ∧ TaskSound i s' t' := by
  cases call with
  | setUserClass =>
    simp only [start] at h
    split at h
    · cases h
      exact ⟨.refl, .idle⟩
    · exact step_of_begin hdb h
  | promoteUserToInternalEmployee => exact step_of_begin hdb h
  | assignRolesToUserBatch | syncUserRolesToPrincipal =>
    cases h
    exact ⟨.refl, nofun, nofun⟩
  | assignRoleToPrincipal id roleId =>
    simp only [start] at h
    split_ifs at h with hfree
    cases h
    refine ⟨?_, .idle⟩
    cases hok : assignRoleToPrincipal s.db id roleId with
    | error => exact .refl
    | ok =>
      refine ⟨⟨_, effect_assignRoleToPrincipal hok, ?_⟩, fun _ _ h _ => h⟩
      rintro u r ⟨hu, -⟩
      exact .inl (by simpa [hu] using hfree)
  | provisionUserWithRolesAsClass salt id new userClass roleIds roleNames =>
    cases h
    refine ⟨?_, .idle⟩
    cases hok :
      provisionUserWithRolesAsClass crates s.db salt id new userClass roleIds roleNames with
    | error => exact .refl
    | ok r =>
      unfold provisionUserWithRolesAsClass at hok
      split at hok
      · cases hok
      obtain ⟨hfresh, heffect⟩ := effect_provisionUserWithRoles hdb hok
      refine ⟨⟨_, heffect, ?_⟩, fun _ _ h _ => h⟩
      rintro u r ⟨rfl, -⟩
      exact .inr hfresh

theorem step_of_next (hdb : Sound s.db) (ht : TaskSound i s t) {a : Input}
    (h : next crates i a s t = some (s', t')) : Step (some i) s s' ∧ TaskSound i s' t' := by
  unfold next at h
  split at h
  case h_1 call => exact step_of_start hdb h
  case h_2 phase =>
    split_ifs at h with hwaits
    obtain ⟨⟨db', phase'⟩, hnext, heq⟩ := Option.map_eq_some_iff.1 h
    cases heq
    obtain ⟨assigned, heffect, hassigned⟩ := effect_of_proceed ht hnext
    refine ⟨⟨⟨assigned, heffect, fun u r hr => ?_⟩, fun _ _ h _ => h⟩, ht.proceed hnext⟩
    obtain ⟨roleIds, rfl⟩ := hassigned u r hr
    exact .inl (by simpa [waits] using hwaits)
  case h_3 change userId =>
    cases h
    obtain ⟨hlock, -, hroles⟩ := ht
    exact ⟨.of_effect (effect_write hroles) (lock_update (by simp [hlock]) _), .idle⟩
  case h_4 phase =>
    cases h
    exact ⟨.refl, .idle⟩
  case h_5 change userId =>
    cases h
    exact ⟨.of_effect .refl (lock_update (by simp [ht.1]) _), .idle⟩
  case h_6 => cases h

theorem hasUser_iff : HasUser db u ↔ ∃ c, (u, c) ∈ classes db := by
  simp [HasUser, classes, mem_def]

theorem isCustomer_iff : IsCustomer db u ↔ ∃ c, (u, c) ∈ classes db ∧ c ≠ .internalEmployee := by
  constructor
  · rintro ⟨user, huser, rfl, hclass⟩
    exact ⟨_, List.mem_map.2 ⟨user, huser, rfl⟩, hclass⟩
  · rintro ⟨c, hc, hclass⟩
    obtain ⟨user, huser, heq⟩ := List.mem_map.1 hc
    cases heq
    exact ⟨user, huser, rfl, hclass⟩

theorem isPlatform_iff : IsPlatform db r ↔ (r, .platform) ∈ scopes db := by
  simp [IsPlatform, scopes, mem_def]

theorem step_of_surroundings {other : Db} (h : surroundings other s = some s') :
    Step none s s' := by
  unfold surroundings at h
  split_ifs at h with hsame
  cases h
  obtain ⟨hclasses, hscopes⟩ := hsame
  refine .of_effect ⟨fun r hr => ?_, fun u hu => ?_, fun _ => id, fun _ _ => id, fun _ _ => .inl,
    fun _ _ => .inl, fun _ _ => False.elim, fun u hu => .inl ?_⟩ fun _ _ h _ => h
  · rw [isPlatform_iff, ← hscopes]
    exact isPlatform_iff.1 hr
  · rw [hasUser_iff, ← hclasses] at hu
    exact hasUser_iff.2 hu
  · rw [isCustomer_iff, ← hclasses]
    exact isCustomer_iff.1 hu

/-! ### Runs -/

/-- Customers hold no platform role, and every request knows what it has checked. -/
structure Invariant (c : Config ι (Store ι) Task) : Prop where
  sound : Sound c.shared.db
  tasks : ∀ i, TaskSound i c.shared (c.request i)

variable [DecidableEq ι] {c c' : Config ι (Store ι) Task} {l : Action ι Input Db}

theorem Invariant.step (h : Invariant c) (hstep : (protocol ι crates).system.step c l = some c') :
    Invariant c' := by
  obtain ⟨other, s', rfl, henv, rfl⟩ | ⟨i, a, s', t', rfl, hnext, rfl⟩ := Protocol.step_cases hstep
  · have hs := step_of_surroundings henv
    exact ⟨h.sound.step hs, fun j => (h.tasks j).step hs nofun⟩
  obtain ⟨hs, ht'⟩ := step_of_next h.sound (h.tasks i) hnext
  exact ⟨h.sound.step hs, (forall_update_iff _ _).2
    ⟨ht', fun j hj => (h.tasks j).step hs (by simpa using hj)⟩⟩

/-- In every state of every run from a sound database, a user that is not an employee has no
platform role in `user_roles` and, through its principal, in `principal_roles`. -/
theorem no_customer_with_platform_role (crates : Crates) (c₀ c : Config ι (Store ι) Task)
    (ls : List (Action ι Input Db)) (hdb : Sound c₀.shared.db)
    (hidle : ∀ i, c₀.request i = .roles .idle)
    (hrun : (protocol ι crates).system.run c₀ ls = some c) :
    ∀ user ∈ c.shared.db.users, user.userClass ≠ .internalEmployee →
      NoPlatformRole c.shared.db user.id := by
  have hc₀ : Invariant c₀ := ⟨hdb, fun i => by
    rw [hidle i]
    exact .idle⟩
  have hc : Invariant c :=
    (protocol ι crates).system.run_invariant (fun _ _ _ h hstep => h.step hstep) hc₀ hrun
  exact fun user huser hclass => hc.sound.customers user.id ⟨user, huser, rfl, hclass⟩

/-- An employee whose platform role has not been copied yet, and a customer. -/
def sampleDb : Db where
  users := ⟨[{ id := "u", username := "u", email := "u@e", userClass := .internalEmployee },
    { id := "v", username := "v", email := "v@e" }], by simp [clash]⟩
  principals := .single ⟨.user, "u", "u", true⟩
  roles := .single { id := "r", name := "reader", scope := .platform }
  userRoles := .single ⟨"u", "r"⟩

theorem sound_sampleDb : Sound sampleDb where
  customers u h r hr := by
    obtain ⟨user, huser, rfl, hclass⟩ := h
    obtain hr | hr := hr
    · obtain ⟨hid, -⟩ := UserRole.mk.inj (List.mem_singleton.1 hr)
      simp only [mem_def, sampleDb, List.mem_cons, List.not_mem_nil, or_false] at huser
      obtain rfl | rfl := huser
      · exact absurd rfl hclass
      · exact absurd hid (by decide)
    · exact absurd hr not_mem_empty
  users u r hr := by
    obtain ⟨rfl, -⟩ := UserRole.mk.inj (List.mem_singleton.1 hr)
    exact ⟨_, List.mem_cons_self, rfl⟩
  principals u r hr := absurd hr not_mem_empty

def sampleConfig : Config (Fin 2) (Store (Fin 2)) Task :=
  ⟨⟨sampleDb, fun _ => none⟩, fun _ => .roles .idle⟩

/-- The roles of the employee are copied while another request tries to make it a customer. -/
def demotionDuringCopy : List (Action (Fin 2) Input Db) :=
  [.request 0 (.call (.syncUserRolesToPrincipal "u")), .request 0 .proceed, .request 0 .proceed,
    .request 0 .proceed, .request 1 (.call (.setUserClass "u" "external_customer")),
    .request 0 .proceed, .request 0 .proceed]

theorem no_customer_with_platform_role_copy :
    ∃ c, (protocol (Fin 2) Crates.readable).system.run sampleConfig demotionDuringCopy = some c ∧
      ⟨principalId .user "u", "r"⟩ ∈ c.shared.db.principalRoles ∧
      ∀ user ∈ c.shared.db.users, user.userClass ≠ .internalEmployee →
        NoPlatformRole c.shared.db user.id :=
  ⟨_, rfl, by decide +kernel,
    no_customer_with_platform_role Crates.readable sampleConfig _ demotionDuringCopy sound_sampleDb
      (fun _ => rfl) rfl⟩

end Keylo.UserClasses
