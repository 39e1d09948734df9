import Keylo.Foundation.System
import Keylo.Users

/-!
# The two tables of platform roles

A platform role of a user is stored in `user_roles` and in `principal_roles`. Assignments and
revocations lock the user and write both tables in one transaction. The synchronization on the
read path copies from one table to the other by a single `INSERT … SELECT` without that lock: the
statement sees the tables as they were when it started, and a revocation that commits before the
rows are inserted is undone in `principal_roles` (`revoked_role_copied_back`). If the roles of the
copy are still assigned when it commits, the tables agree at all times and a revocation is final
(`revocation_final`).

## Main definitions

* `protocol` : the statements of all requests.
* `Change` : assignments and revocations on the abstract table of the roles of users.
* `change` : the change that a step commits.

## Main results

* `carriesOut_of_next` : both tables carry out the change of a step.
* `revocation_final` : a revoked role is not held until it is assigned again.
-/

namespace Keylo.RoleSync

open Relational Transition Table

/-! ### Requests -/

inductive Call
  | assignRolesToUserBatch (userId : String) (roleIds : List String)
  | assignRoleToPrincipal (principalId roleId : String)
  | revokeRoleFromUser (userId roleId : String)
  | revokeRoleFromPrincipal (principalId roleId : String)
  | provisionUserWithRoles (salt id : String) (new : NewUser) (roleIds roleNames : List String)
  | syncUserRolesToPrincipal (userId : String)

/-- What a request goes on with after it has refreshed the principal of the user. -/
inductive Purpose
  | assign (roleIds : List String)
  | sync
deriving DecidableEq

/-- The next statement or transaction of a request. -/
inductive Phase
  | idle
  | reading (purpose : Purpose) (userId : String)
  | upserting (purpose : Purpose) (userId displayName : String) (active : Bool)
  /-- The transaction of `assign_roles_to_user_batch`. -/
  | assigning (userId : String) (roleIds : List String)
  /-- The copy is about to start. -/
  | selecting (userId : String)
  /-- The copy has still to insert `todo`; the rows `fresh` it has inserted become visible when it
  commits. -/
  | inserting (userId : String) (todo fresh : List String)
deriving DecidableEq

inductive Input
  | call (c : Call)
  | proceed
  | fail

/-- The phase after the refresh of the principal. -/
def Purpose.continue (userId : String) : Purpose → Phase
  | .assign roleIds =>
    if (normalizedRoleIds roleIds).isEmpty then .idle
    else .assigning userId (normalizedRoleIds roleIds)
  | .sync => .selecting userId

/-- The roles the copy selects. -/
def selectedRoles (db : Db) (userId : String) : List String :=
  (db.userRoles.select fun ur => ur.userId == userId &&
    (db.roles.any fun r => r.id == ur.roleId &&
      (r.assignableTo == .all || r.assignableTo == .only .user) && r.scope == .platform) &&
    db.users.any fun u => u.id == ur.userId && u.userClass == .internalEmployee).map UserRole.roleId

/-- The rows of the copy become visible. -/
def insertPrincipalRoles (db : Db) (userId : String) (roleIds : List String) : Db :=
  roleIds.foldl (fun db roleId => insertPrincipalRole db (principalId .user userId) roleId) db

variable (crates : Crates)

/-- The first statement of a call. -/
def start (db : Db) : Call → Db × Phase
  | .assignRolesToUserBatch userId roleIds => (db, .reading (.assign roleIds) userId)
  | .assignRoleToPrincipal principalId roleId =>
    (commit db (assignRoleToPrincipal db principalId roleId), .idle)
  | .revokeRoleFromUser userId roleId => (revokeRoleFromUser db userId roleId, .idle)
  | .revokeRoleFromPrincipal principalId roleId =>
    (commit db (revokeRoleFromPrincipal db principalId roleId), .idle)
  | .provisionUserWithRoles salt id new roleIds roleNames =>
    (commit db ((provisionUserWithRoles crates db salt id new roleIds roleNames).map Prod.snd),
      .idle)
  | .syncUserRolesToPrincipal userId => (db, .reading .sync userId)

def next : Input → Db → Phase → Option (Db × Phase)
  | .call c, db, .idle => some (start crates db c)
  | .proceed, db, .reading purpose userId =>
    match readOwner db .user userId with
    | none => some (db, .idle)
    | some (displayName, active) => some (db, .upserting purpose userId displayName active)
  | .proceed, db, .upserting purpose userId displayName active =>
    some (upsertPrincipal db .user userId displayName active, purpose.continue userId)
  | .proceed, db, .assigning userId roleIds =>
    some (commit db (assignRolesToUser db userId roleIds), .idle)
  | .proceed, db, .selecting userId => some (db, .inserting userId (selectedRoles db userId) [])
  | .proceed, db, .inserting userId (roleId :: todo) fresh =>
    -- a row that is there is a conflict, and is not inserted
    if ⟨principalId .user userId, roleId⟩ ∈ db.principalRoles then
      some (db, .inserting userId todo fresh)
    else some (db, .inserting userId todo (fresh ++ [roleId]))
  | .proceed, db, .inserting userId [] fresh =>
    some (insertPrincipalRoles db userId fresh, .idle)
  | .fail, _, .idle => none
  | .fail, db, _ => some (db, .idle)
  | _, _, _ => none

/-- Everything but the principals and the two tables may change at any time. -/
def surroundings (other db : Db) : Db :=
  { other with
    principals := db.principals
    userRoles := db.userRoles
    principalRoles := db.principalRoles }

/-- The statements of the requests, named by `ι`, and all other writes. -/
def protocol (ι : Type*) : Protocol ι Db Phase Input Db where
  next _ := next crates
  env other db := some (surroundings other db)

/-! ### Assignments and revocations -/

/-- A change of the roles of users. -/
inductive Change
  | keep
  | assign (userId : String) (roleIds : List String)
  | revoke (userId roleId : String)
deriving DecidableEq

/-- Whether the user `u` has the role `r` after a change, if `h` says whether it was so before. -/
def Change.apply (u r : String) (h : Prop) : Change → Prop
  | .keep => h
  | .assign userId roleIds => (u = userId ∧ r ∈ roleIds) ∨ h
  | .revoke userId roleId => h ∧ ¬ (u = userId ∧ r = roleId)

/-- The change assigns the role `r` to the user `u`. -/
def Change.assigns (u r : String) : Change → Bool
  | .assign userId roleIds => userId == u && roleIds.contains r
  | _ => false

/-- The change of a call that is a single transaction. -/
def callChange (db : Db) : Call → Change
  | .assignRoleToPrincipal principalId roleId =>
    match assignRoleToPrincipal db principalId roleId,
        (db.principals.lookup Principal.id principalId).filter (·.principalType == .user) with
    | .ok _, some p => .assign p.refId [roleId]
    | _, _ => .keep
  | .revokeRoleFromUser userId roleId =>
    match db.users.lookup User.id userId with
    | some _ => .revoke userId roleId
    | none => .keep
  | .revokeRoleFromPrincipal principalId roleId =>
    match revokeRoleFromPrincipal db principalId roleId,
        (db.principals.lookup Principal.id principalId).filter (·.principalType == .user) with
    | .ok _, some p => .revoke p.refId roleId
    | _, _ => .keep
  | .provisionUserWithRoles salt id new roleIds roleNames =>
    match provisionUserWithRoles crates db salt id new roleIds roleNames with
    | .ok _ => .assign id (provisionedRoles db roleIds roleNames)
    | .error _ => .keep
  | _ => .keep

/-- The change that a step commits; a copy changes nothing. -/
def change (db : Db) : Phase → Input → Change
  | .idle, .call c => callChange crates db c
  | .assigning userId roleIds, .proceed =>
    match assignRolesToUser db userId roleIds with
    | .ok _ => .assign userId roleIds
    | .error _ => .keep
  | _, _ => .keep

/-- When a copy commits, the user still has every role that it inserts. -/
def stillAssigned (db : Db) : Phase → Input → Bool
  | .inserting userId [] fresh, .proceed =>
    fresh.all fun roleId => decide (⟨userId, roleId⟩ ∈ db.userRoles)
  | _, _ => true

/-! ### Both tables carry out a change -/

/-- The principal of the user exists. -/
def HasPrincipal (db : Db) (userId : String) : Prop :=
  ∃ p ∈ db.principals, p.owner = (.user, userId)

/-- The two tables hold the same roles for every user. -/
def SameRoles (db : Db) : Prop :=
  ∀ u r, ⟨u, r⟩ ∈ db.userRoles ↔ ⟨principalId .user u, r⟩ ∈ db.principalRoles

/-- Both tables hold the same roles, and users with a role have a principal. -/
structure Consistent (db : Db) : Prop where
  same : SameRoles db
  principal : ∀ u r, ⟨u, r⟩ ∈ db.userRoles → HasPrincipal db u

/-- Both tables carry out the change, principals stay, and assigned users have one. -/
structure CarriesOut (ch : Change) (db db' : Db) : Prop where
  userRoles : ∀ u r, ⟨u, r⟩ ∈ db'.userRoles ↔ ch.apply u r (⟨u, r⟩ ∈ db.userRoles)
  principalRoles : ∀ u r, ⟨principalId .user u, r⟩ ∈ db'.principalRoles ↔
    ch.apply u r (⟨principalId .user u, r⟩ ∈ db.principalRoles)
  principals : ∀ u, HasPrincipal db u → HasPrincipal db' u
  assignee : ∀ userId roleIds, ch = .assign userId roleIds → HasPrincipal db' userId

variable {crates} {db db' : Db} {ch : Change}

theorem Consistent.carryOut (h : Consistent db) (hch : CarriesOut ch db db') : Consistent db' where
  same u r := by rw [hch.userRoles, hch.principalRoles, propext (h.same u r)]
  principal u r hr := by
    rw [hch.userRoles] at hr
    cases ch with
    | keep => exact hch.principals u (h.principal u r hr)
    | assign userId roleIds =>
      obtain ⟨rfl, -⟩ | hr := hr
      · exact hch.assignee u roleIds rfl
      · exact hch.principals u (h.principal u r hr)
    | revoke => exact hch.principals u (h.principal u r hr.1)

theorem CarriesOut.refl : CarriesOut .keep db db :=
  ⟨fun _ _ => Iff.rfl, fun _ _ => Iff.rfl, fun _ => id, nofun⟩

variable {userId : String} {roleIds : List String}

theorem CarriesOut.of_assign (hadds : AddsRoles db db' userId roleIds)
    (hkept : ∀ u, HasPrincipal db u → HasPrincipal db' u) (hholder : HasPrincipal db' userId) :
    CarriesOut (.assign userId roleIds) db db' where
  userRoles u r := by
    rw [hadds.user, Change.apply]
    simp [and_comm]
  principalRoles u r := by
    rw [hadds.principal, Change.apply]
    simp [principalId_inj, and_comm]
  principals := hkept
  assignee _ _ h := by
    cases h
    exact hholder

theorem carriesOut_assignRolesToUser (h : assignRolesToUser db userId roleIds = .ok db')
    (hholder : HasPrincipal db userId) :
    CarriesOut (.assign userId roleIds) db db' := by
  obtain ⟨-, -, -, -, rfl⟩ := assignRolesToUser_eq_ok h
  obtain ⟨userRoles, principalRoles, hfold, hadds⟩ := foldl_insertRole db userId roleIds
  rw [hfold]
  exact .of_assign hadds (fun _ => id) hholder

variable {id : String}

theorem carriesOut_provisionUserWithRoles {salt : String} {new : NewUser} {user : User}
    {roleNames : List String}
    (h : provisionUserWithRoles crates db salt id new roleIds roleNames = .ok (user, db')) :
    CarriesOut (.assign id (provisionedRoles db roleIds roleNames)) db db' := by
  obtain ⟨users, principals, userRoles, principalRoles, -, hinsert, rfl, hadds⟩ :=
    storeProvisionedUser_eq_ok (storeProvisionedUser_of_provision h).1
  have hmem : ∀ p, p ∈ principals ↔ _ := fun _ => mem_of_insert_eq_some hinsert
  refine .of_assign hadds ?_ ⟨_, (hmem _).2 (.inl rfl), rfl⟩
  rintro u ⟨p, hp, howner⟩
  exact ⟨p, (hmem p).2 (.inr hp), howner⟩

variable {roleId : String}

/-- Roles of other principals than users are in one table only. -/
theorem carriesOut_assignRoleToPrincipal (h : assignRoleToPrincipal db id roleId = .ok db') :
    CarriesOut (callChange crates db (.assignRoleToPrincipal id roleId)) db db' := by
  obtain ⟨p, hp, rfl, -, -, hdb'⟩ := assignRoleToPrincipal_eq_ok h
  have hlookup : db.principals.lookup Principal.id p.id = some p :=
    lookup_eq_some_iff.2 ⟨hp, rfl⟩
  by_cases htype : p.principalType = .user
  · rw [if_pos htype] at hdb'
    obtain ⟨userRoles, principalRoles, hfold, hadds⟩ := foldl_insertRole db p.refId [roleId]
    obtain rfl : db' = _ := hdb'.trans hfold
    simp only [callChange, h, hlookup, Option.filter_some, htype, beq_self_eq_true, if_true]
    exact .of_assign hadds (fun _ => id) ⟨p, hp, Prod.ext_iff.2 ⟨htype, rfl⟩⟩
  · rw [if_neg htype] at hdb'
    have hkeep : callChange crates db (.assignRoleToPrincipal p.id roleId) = .keep := by
      simp [callChange, hlookup, htype]
    subst hdb'
    rw [hkeep]
    refine ⟨fun _ _ => Iff.rfl, fun u r => ?_, fun _ => id, by rintro _ _ ⟨⟩⟩
    rw [mem_insertPrincipalRole, Change.apply, or_iff_right]
    intro heq
    exact htype (principalId_inj.1 (PrincipalRole.mk.inj heq).1).1.symm

theorem carriesOut_revokeRoleFromPrincipal (h : revokeRoleFromPrincipal db id roleId = .ok db') :
    CarriesOut (callChange crates db (.revokeRoleFromPrincipal id roleId)) db db' := by
  obtain ⟨rfl, hnone⟩ | ⟨p, hp, rfl, hdb'⟩ := revokeRoleFromPrincipal_eq_ok h
  · have hkeep : callChange crates db' (.revokeRoleFromPrincipal id roleId) = .keep := by
      simp [callChange, lookup_eq_none_iff.2 hnone]
    rw [hkeep]
    exact .refl
  · have hlookup : db.principals.lookup Principal.id p.id = some p :=
      lookup_eq_some_iff.2 ⟨hp, rfl⟩
    by_cases htype : p.principalType = .user
    · have hrevoke : callChange crates db (.revokeRoleFromPrincipal p.id roleId) =
          .revoke p.refId roleId := by
        simp only [callChange, h, hlookup, Option.filter_some, htype, beq_self_eq_true, if_true]
      rw [hrevoke]
      rw [if_pos htype] at hdb'
      subst hdb'
      refine ⟨fun u r => ?_, fun u r => ?_, fun _ => id, by rintro _ _ ⟨⟩⟩
      · simp [Change.apply]
      · have hid : p.id = principalId .user p.refId := by rw [Principal.id, htype]
        simp [Change.apply, hid, principalId_inj]
    · have hkeep : callChange crates db (.revokeRoleFromPrincipal p.id roleId) = .keep := by
        simp [callChange, hlookup, htype]
      rw [hkeep]
      rw [if_neg htype] at hdb'
      subst hdb'
      refine ⟨fun _ _ => Iff.rfl, fun u r => ?_, fun _ => id, by rintro _ _ ⟨⟩⟩
      have hid : principalId .user u ≠ p.id := fun heq => htype (principalId_inj.1 heq).1.symm
      simp [Change.apply, hid]

/-- A user with a role has a principal, so that the role is removed from both tables. -/
theorem carriesOut_revokeRoleFromUser (hcons : Consistent db) (userId roleId : String) :
    CarriesOut (callChange crates db (.revokeRoleFromUser userId roleId)) db
      (revokeRoleFromUser db userId roleId) := by
  simp only [callChange, revokeRoleFromUser]
  cases db.users.lookup User.id userId with
  | none => exact .refl
  | some =>
    refine ⟨fun u r => by simp [Change.apply], fun u r => ?_, fun _ => id, by rintro _ _ ⟨⟩⟩
    have hselected : ⟨principalId .user u, r⟩ ∈ db.principalRoles →
        ((db.principals.any fun p => p.id == principalId .user u && p.principalType == .user &&
          p.refId == userId) = true ↔ u = userId) := by
      intro hr
      rw [any_eq_true]
      constructor
      · rintro ⟨p, -, hp⟩
        simp only [Bool.and_eq_true, beq_iff_eq] at hp
        exact ((principalId_inj.1 hp.1.1).2).symm.trans hp.2
      · rintro rfl
        obtain ⟨p, hp, howner⟩ := hcons.principal u r ((hcons.same u r).2 hr)
        obtain ⟨htype, href⟩ := Prod.ext_iff.1 howner
        refine ⟨p, hp, ?_⟩
        simp_all [Principal.owner, Principal.id]
    rw [mem_delete, Change.apply]
    refine and_congr_right fun hr => ?_
    rw [← Bool.not_eq_true, Bool.and_eq_true, hselected hr, beq_iff_eq]

/-- The rows of a copy are added to one table; nothing else changes. -/
theorem insertPrincipalRoles_eq (db : Db) (userId : String) (roleIds : List String) :
    ∃ principalRoles,
      insertPrincipalRoles db userId roleIds = { db with principalRoles := principalRoles } ∧
      ∀ pr, pr ∈ principalRoles ↔
        (∃ r ∈ roleIds, pr = ⟨principalId .user userId, r⟩) ∨ pr ∈ db.principalRoles := by
  induction roleIds generalizing db with
  | nil => exact ⟨db.principalRoles, rfl, by simp⟩
  | cons r roleIds ih =>
    obtain ⟨principalRoles, heq, hmem⟩ := ih (insertPrincipalRole db (principalId .user userId) r)
    refine ⟨principalRoles, heq, fun pr => ?_⟩
    rw [hmem, mem_insertPrincipalRole, List.exists_mem_cons_iff, or_left_comm, or_assoc]

theorem carriesOut_insertPrincipalRoles (hcons : Consistent db)
    (h : ∀ r ∈ roleIds, ⟨userId, r⟩ ∈ db.userRoles) :
    CarriesOut .keep db (insertPrincipalRoles db userId roleIds) := by
  obtain ⟨principalRoles, heq, hmem⟩ := insertPrincipalRoles_eq db userId roleIds
  rw [heq]
  refine ⟨fun _ _ => Iff.rfl, fun u r => ?_, fun _ => id, nofun⟩
  rw [hmem, Change.apply, or_iff_right_iff_imp]
  rintro ⟨r', hr', hpr⟩
  obtain ⟨hid, rfl⟩ := PrincipalRole.mk.inj hpr
  obtain ⟨-, rfl⟩ := principalId_inj.1 hid
  exact (hcons.same u r).1 (h r hr')

theorem carriesOut_start (hcons : Consistent db) (call : Call) :
    CarriesOut (callChange crates db call) db (start crates db call).1 := by
  cases call with
  | assignRolesToUserBatch | syncUserRolesToPrincipal => exact .refl
  | revokeRoleFromUser userId roleId => exact carriesOut_revokeRoleFromUser hcons userId roleId
  | assignRoleToPrincipal id roleId =>
    cases hok : assignRoleToPrincipal db id roleId with
    | error =>
      simp only [start, callChange, hok, commit]
      exact .refl
    | ok =>
      simp only [start, hok, commit]
      exact carriesOut_assignRoleToPrincipal hok
  | revokeRoleFromPrincipal id roleId =>
    cases hok : revokeRoleFromPrincipal db id roleId with
    | error =>
      simp only [start, callChange, hok, commit]
      exact .refl
    | ok =>
      simp only [start, hok, commit]
      exact carriesOut_revokeRoleFromPrincipal hok
  | provisionUserWithRoles salt id new roleIds roleNames =>
    cases hok : provisionUserWithRoles crates db salt id new roleIds roleNames with
    | error =>
      simp only [start, callChange, hok, commit, Except.map]
      exact .refl
    | ok =>
      simp only [start, callChange, hok, commit, Except.map]
      exact carriesOut_provisionUserWithRoles hok

/-- A refresh adds the principal of the user and removes none. -/
theorem hasPrincipal_upsertPrincipal {displayName : String} {active : Bool} :
    HasPrincipal (upsertPrincipal db .user userId displayName active) userId ∧
      ∀ u, HasPrincipal db u →
        HasPrincipal (upsertPrincipal db .user userId displayName active) u :=
  ⟨hasOwner_upsertPrincipal.1, fun u => hasOwner_upsertPrincipal.2 (.user, u)⟩

/-- The user whose principal the request has refreshed. -/
def Phase.holder : Phase → Option String
  | .assigning userId _ | .selecting userId | .inserting userId _ _ => some userId
  | _ => none

variable {t : Phase} {t' : Phase}

/-- The rows that a copy has selected. -/
def Phase.copied : Phase → List UserRole
  | .inserting userId todo fresh => (todo ++ fresh).map fun roleId => ⟨userId, roleId⟩
  | _ => []

theorem mem_selectedRoles (h : roleId ∈ selectedRoles db userId) :
    ⟨userId, roleId⟩ ∈ db.userRoles ∧
      ∃ role ∈ db.roles, role.id = roleId ∧ role.assignableTo.Admits .user := by
  simp only [selectedRoles, List.mem_map] at h
  obtain ⟨ur, hur, rfl⟩ := h
  obtain ⟨hmem, hwhere⟩ := mem_select.1 hur
  simp only [Bool.and_eq_true, Bool.or_eq_true, beq_iff_eq, any_eq_true] at hwhere
  obtain ⟨⟨rfl, role, hrole, ⟨hid, hadmits⟩, -⟩, -⟩ := hwhere
  exact ⟨hmem, role, hrole, hid, hadmits⟩

/-- Principals stay, so that a request goes on with a principal that exists, and a copy selects its
rows once. -/
theorem holder_and_copied_of_proceed (h : next crates .proceed db t = some (db', t')) :
    (∀ u, t'.holder = some u → (t.holder = some u → HasPrincipal db u) → HasPrincipal db' u) ∧
      ∀ ur ∈ t'.copied, ur ∈ t.copied ∨ ur.roleId ∈ selectedRoles db ur.userId := by
  cases t with
  | idle => cases h
  | reading =>
    simp only [next] at h
    split at h <;> cases h <;> exact ⟨nofun, nofun⟩
  | upserting purpose =>
    cases h
    cases purpose with
    | sync =>
      refine ⟨fun u ht' _ => ?_, nofun⟩
      cases ht'
      exact hasPrincipal_upsertPrincipal.1
    | assign =>
      simp only [Purpose.continue]
      split_ifs
      · exact ⟨nofun, nofun⟩
      · refine ⟨fun u ht' _ => ?_, nofun⟩
        cases ht'
        exact hasPrincipal_upsertPrincipal.1
  | assigning =>
    cases h
    exact ⟨nofun, nofun⟩
  | selecting =>
    cases h
    refine ⟨fun u ht' ht => ht ht', fun ur hur => ?_⟩
    simp only [Phase.copied, List.append_nil, List.mem_map] at hur
    obtain ⟨roleId, hroleId, rfl⟩ := hur
    exact .inr hroleId
  | inserting userId todo fresh =>
    cases todo with
    | nil =>
      cases h
      exact ⟨nofun, nofun⟩
    | cons roleId todo =>
      have hsubset : ∀ {l : List String}, l ⊆ (roleId :: todo) ++ fresh →
          ∀ ur ∈ l.map fun roleId => (⟨userId, roleId⟩ : UserRole),
            ur ∈ (Phase.inserting userId (roleId :: todo) fresh).copied ∨
              ur.roleId ∈ selectedRoles db ur.userId :=
        fun hl ur hur => .inl (List.map_subset _ hl hur)
      simp only [next] at h
      split_ifs at h <;> cases h <;> refine ⟨fun u ht' ht => ht ht', ?_⟩
      · exact hsubset (List.subset_cons_self ..)
      · exact hsubset fun r hr => by simpa [or_comm, or_left_comm, or_assoc] using hr

theorem carriesOut_of_next {a : Input} (hcons : Consistent db)
    (hholder : ∀ userId roleIds, t = .assigning userId roleIds → HasPrincipal db userId)
    (hstill : stillAssigned db t a = true) (h : next crates a db t = some (db', t')) :
    CarriesOut (change crates db t a) db db' := by
  unfold next at h
  split at h
  case h_1 call =>
    obtain rfl : (start crates db call).1 = db' := congrArg Prod.fst (Option.some.inj h)
    exact carriesOut_start hcons call
  case h_2 purpose userId =>
    split at h <;> cases h <;> exact .refl
  case h_3 purpose userId displayName active =>
    cases h
    exact ⟨fun _ _ => Iff.rfl, fun _ _ => Iff.rfl, hasPrincipal_upsertPrincipal.2, nofun⟩
  case h_4 userId roleIds =>
    cases h
    simp only [change]
    cases hok : assignRolesToUser db userId roleIds with
    | error => exact .refl
    | ok => exact carriesOut_assignRolesToUser hok (hholder userId roleIds rfl)
  case h_5 userId =>
    cases h
    exact .refl
  case h_6 userId roleId todo fresh =>
    split_ifs at h <;> cases h <;> exact .refl
  case h_7 userId fresh =>
    cases h
    exact carriesOut_insertPrincipalRoles hcons fun r hr => by
      simpa using List.all_eq_true.1 hstill r hr
  case h_8 => cases h
  case h_9 =>
    cases h
    cases t <;> exact .refl
  case h_10 => cases h

/-! ### Runs -/

variable {ι : Type*}

/-- The change that a step of an interleaving commits. -/
def stepChange (crates : Crates) (c : Config ι Db Phase) : Action ι Input Db → Change
  | .request i a => change crates c.shared (c.request i) a
  | .environment _ => .keep

/-- The condition on the copies for a step of an interleaving. -/
def StillAssigned (c : Config ι Db Phase) : Action ι Input Db → Bool
  | .request i a => stillAssigned c.shared (c.request i) a
  | .environment _ => true

/-- The tables are consistent, and a request only assigns roles to users with a principal. -/
structure Invariant (c : Config ι Db Phase) : Prop where
  consistent : Consistent c.shared
  holder : ∀ i userId roleIds, c.request i = .assigning userId roleIds →
    HasPrincipal c.shared userId

/-- A request that goes on to assign roles has just refreshed the principal. -/
theorem hasPrincipal_of_next {a : Input}
    (h : next crates a db t = some (db', .assigning userId roleIds)) : HasPrincipal db' userId := by
  unfold next at h
  split at h
  case h_1 call =>
    have hphase := congrArg Prod.snd (Option.some.inj h)
    cases call <;> cases hphase
  case h_3 purpose u displayName active =>
    obtain ⟨rfl, hphase⟩ := Prod.mk.inj (Option.some.inj h)
    cases purpose with
    | sync => cases hphase
    | assign =>
      simp only [Purpose.continue] at hphase
      split_ifs at hphase
      cases hphase
      exact hasPrincipal_upsertPrincipal.1
  case h_2 =>
    split at h <;> cases h
  case h_6 =>
    split_ifs at h <;> cases h
  all_goals cases h

variable [DecidableEq ι] {c c' : Config ι Db Phase} {l : Action ι Input Db}

section Step

variable (h : Invariant c) (hstill : StillAssigned c l = true)
  (hstep : (protocol crates ι).system.step c l = some c')

include h hstill hstep

theorem carriesOut_of_step : CarriesOut (stepChange crates c l) c.shared c'.shared := by
  obtain ⟨other, db', rfl, henv, rfl⟩ | ⟨i, a, db', t', rfl, hnext, rfl⟩ :=
    Protocol.step_cases hstep
  · cases henv
    exact ⟨fun _ _ => Iff.rfl, fun _ _ => Iff.rfl, fun _ => id, nofun⟩
  exact carriesOut_of_next h.consistent (h.holder i) hstill hnext

theorem Invariant.step : Invariant c' := by
  have hcarry := carriesOut_of_step h hstill hstep
  refine ⟨h.consistent.carryOut hcarry, (protocol crates ι).forall_request_step
    (J := fun _ t => ∀ u ids, t = .assigning u ids → HasPrincipal c.shared u)
    (K := fun _ t => ∀ u ids, t = .assigning u ids → HasPrincipal c'.shared u)
    hstep h.holder ?_ ?_⟩
  · intro i _ hi u ids ht
    exact hcarry.principals u (hi u ids ht)
  · rintro i a t - hnext - u ids rfl
    exact hasPrincipal_of_next hnext

/-- A role that a user does not have stays away until it is assigned. -/
theorem not_mem_userRoles_step {u r : String}
    (hassign : (stepChange crates c l).assigns u r = false) (hr : ⟨u, r⟩ ∉ c.shared.userRoles) :
    ⟨u, r⟩ ∉ c'.shared.userRoles := by
  rw [(carriesOut_of_step h hstill hstep).userRoles]
  cases hch : stepChange crates c l with
  | keep => exact hr
  | assign =>
    rintro (⟨rfl, hmem⟩ | hmem)
    · simp [hch, Change.assigns, hmem] at hassign
    · exact hr hmem
  | revoke => exact fun hmem => hr hmem.1

end Step

theorem Invariant.run {ls : List (Action ι Input Db)} (h : Invariant c)
    (hstill : (protocol crates ι).system.Along (fun c l _ => StillAssigned c l = true) c ls)
    (hrun : (protocol crates ι).system.run c ls = some c') : Invariant c' :=
  (protocol crates ι).system.run_invariant_along (fun _ _ _ hs hP hstep => hs.step hP hstep) h
    hstill hrun

/-- In every run in which the roles of a copy are still assigned when it commits: the two tables
hold the same roles in every state; and once a revocation has committed, the role is in neither
table until it is assigned again. -/
theorem revocation_final (crates : Crates) (c₀ : Config ι Db Phase) (hc₀ : Invariant c₀) :
    (∀ ls c, (protocol crates ι).system.run c₀ ls = some c →
      (protocol crates ι).system.Along (fun c l _ => StillAssigned c l = true) c₀ ls →
      SameRoles c.shared) ∧
    ∀ before c₁ l u r c₂ after c₃,
      (protocol crates ι).system.run c₀ before = some c₁ →
      stepChange crates c₁ l = .revoke u r →
      (protocol crates ι).system.step c₁ l = some c₂ →
      (protocol crates ι).system.run c₂ after = some c₃ →
      (protocol crates ι).system.Along (fun c l _ => StillAssigned c l = true) c₀
        (before ++ l :: after) →
      (protocol crates ι).system.Along
        (fun c l _ => (stepChange crates c l).assigns u r = false) c₂ after →
      ⟨u, r⟩ ∉ c₃.shared.userRoles ∧ ⟨principalId .user u, r⟩ ∉ c₃.shared.principalRoles := by
  constructor
  · intro ls c hrun hstill
    exact (hc₀.run hstill hrun).consistent.same
  · intro before c₁ l u r c₂ after c₃ hbefore hrevoke hstep hafter hstill hassign
    obtain ⟨hstill₁, hstill₂⟩ := ((protocol crates ι).system.along_append hbefore).1 hstill
    obtain ⟨hstillStep, hstill₃⟩ := ((protocol crates ι).system.along_cons hstep).1 hstill₂
    have hc₁ : Invariant c₁ := hc₀.run hstill₁ hbefore
    have hc₂ : Invariant c₂ := hc₁.step hstillStep hstep
    have hrevoked : ⟨u, r⟩ ∉ c₂.shared.userRoles := by
      rw [(carriesOut_of_step hc₁ hstillStep hstep).userRoles, hrevoke]
      exact fun hmem => hmem.2 ⟨rfl, rfl⟩
    have hc₃ := (protocol crates ι).system.run_invariant_along
      (I := fun c => Invariant c ∧ ⟨u, r⟩ ∉ c.shared.userRoles)
      (fun c l c' hc hP hstep => ⟨hc.1.step hP.1 hstep,
        not_mem_userRoles_step hc.1 hP.1 hstep hP.2 hc.2⟩)
      ⟨hc₂, hrevoked⟩ ((protocol crates ι).system.along_and hstill₃ hassign) hafter
    exact ⟨hc₃.2, fun hmem => hc₃.2 ((hc₃.1.consistent.same u r).2 hmem)⟩

/-- An employee with a platform role. -/
def sampleDb : Db where
  users := .single { id := "u", username := "u", email := "e", userClass := .internalEmployee }
  principals := .single ⟨.user, "u", "u", true⟩
  roles := .single { id := "r", name := "reader", scope := .platform }
  userRoles := .single ⟨"u", "r"⟩
  principalRoles := .single ⟨"user-u", "r"⟩

def sampleConfig : Config (Fin 2) Db Phase := ⟨sampleDb, fun _ => .idle⟩

theorem invariant_sampleConfig : Invariant sampleConfig where
  consistent := by
    have hmem : ∀ ur : UserRole, ur ∈ sampleDb.userRoles ↔ ur = ⟨"u", "r"⟩ := fun ur => by
      simp [sampleDb]
    have hmem' : ∀ pr : PrincipalRole, pr ∈ sampleDb.principalRoles ↔
        pr = ⟨principalId .user "u", "r"⟩ := fun pr => by
      simp [sampleDb, principalId, PrincipalType.text]
    refine ⟨fun u r => ?_, fun u r hr => ⟨⟨.user, "u", "u", true⟩, List.mem_singleton.2 rfl, ?_⟩⟩
    · rw [show sampleConfig.shared = sampleDb from rfl, hmem, hmem']
      simp [principalId_inj]
    · obtain ⟨rfl, -⟩ := UserRole.mk.inj ((hmem _).1 hr)
      rfl
  holder i userId roleIds h := by cases h

/-- The steps of a synchronization by request `0` up to the snapshot of its copy. -/
def startSync : List (Action (Fin 2) Input Db) :=
  [.request 0 (.call (.syncUserRolesToPrincipal "u")), .request 0 .proceed, .request 0 .proceed,
    .request 0 .proceed]

/-- The copy finds the only role of the user and commits. -/
def finishSync : List (Action (Fin 2) Input Db) := [.request 0 .proceed, .request 0 .proceed]

def revokeStep : Action (Fin 2) Input Db := .request 1 (.call (.revokeRoleFromUser "u" "r"))

/-- A synchronization that ends before the role is revoked, and one that starts afterwards. -/
theorem revocation_final_sync :
    ∃ c, (protocol Crates.readable (Fin 2)).system.run sampleConfig
        (startSync ++ finishSync ++ revokeStep :: (startSync ++ [.request 0 .proceed])) = some c ∧
      SameRoles c.shared ∧
      ⟨"u", "r"⟩ ∉ c.shared.userRoles ∧
      ⟨principalId .user "u", "r"⟩ ∉ c.shared.principalRoles := by
  have h := revocation_final Crates.readable sampleConfig invariant_sampleConfig
  refine ⟨_, rfl, ?_, ?_⟩
  · exact h.1 (startSync ++ finishSync ++ revokeStep :: (startSync ++ [.request 0 .proceed])) _ rfl
      (by decide +kernel)
  · exact h.2 (startSync ++ finishSync) _ revokeStep "u" "r" _ (startSync ++ [.request 0 .proceed])
      _ rfl (by decide +kernel) rfl rfl (by decide +kernel) (by decide +kernel)

/-- The copy has started when the role is revoked, and stores it again in one of the tables. -/
theorem revoked_role_copied_back :
    ∃ c, (protocol Crates.readable (Fin 2)).system.run sampleConfig
        (startSync ++ revokeStep :: finishSync) = some c ∧
      (∀ i, c.request i = .idle) ∧ ⟨"u", "r"⟩ ∉ c.shared.userRoles ∧
      ⟨principalId .user "u", "r"⟩ ∈ c.shared.principalRoles := by
  refine ⟨_, rfl, ?_, ?_, ?_⟩ <;> decide +kernel

end Keylo.RoleSync
