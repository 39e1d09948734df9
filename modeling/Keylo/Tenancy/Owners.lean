import Keylo.Foundation.System
import Keylo.Memberships

/-!
# Administrators and owners

Requests of delegated managers on the members of their organization. An administrator is not to
grant ownership nor to change the membership of an owner. One request gets through: it asks for an
active membership, names no role, and so reinstates an owner that has been suspended
(`owner_reinstated_by_admin`). Without such requests, the memberships of owners stay as they are
(`owners_untouched_by_admins`).

## Main definitions

* `MemberRequest`, `delegation` : the requests and their runs.
* `SameOwners` : the memberships of owners are the same.
* `reinstatesOwner` : the request that gets through.

## Main results

* `SameOwners.execute` : the step of a run.
-/

namespace Keylo.Tenancy

open Relational Transition Table

/-! ### Requests -/

/-- The requests of managers on members. -/
inductive MemberRequest
  | invite (organizationId actorPrincipalId targetPrincipalId : String)
      (managementRole : Option String)
  | update (organizationId actorPrincipalId targetPrincipalId status : String)
      (managementRole : Option String)

namespace MemberRequest

def organizationId : MemberRequest → String
  | invite organizationId .. | update organizationId .. => organizationId

def actor : MemberRequest → String
  | invite _ actor .. | update _ actor .. => actor

def target : MemberRequest → String
  | invite _ _ target _ | update _ _ target .. => target

/-- The status that is asked for; an invitation asks for a pending membership. -/
def status : MemberRequest → String
  | invite .. => "pending"
  | update _ _ _ status _ => status

def managementRole : MemberRequest → Option String
  | invite _ _ _ managementRole | update _ _ _ _ managementRole => managementRole

def run (db : Db) : MemberRequest → Except String (Membership × Db)
  | invite organizationId actor target managementRole =>
    inviteOrganizationMemberAsManager db organizationId actor target managementRole
  | update organizationId actor target status managementRole =>
    updateOrganizationMembershipAsManager db organizationId actor target status managementRole

theorem run_eq (db : Db) (r : MemberRequest) :
    r.run db = upsertOrganizationMembershipAsManager db r.organizationId r.actor r.target r.status
      r.managementRole := by
  cases r <;> rfl

/-- The database after a request; one that fails changes nothing. -/
def execute (db : Db) (r : MemberRequest) : Db := commit db ((r.run db).map Prod.snd)

end MemberRequest

/-- Runs of requests on members. -/
def delegation : System Db MemberRequest where
  step db r := some (r.execute db)

/-- The actor is an administrator of the organization, and no owner. -/
def madeByAdmin (db : Db) (r : MemberRequest) : Bool :=
  (db.memberships.lookup Membership.key (r.organizationId, r.actor)).any fun m =>
    m.managementRole == .admin

/-- The request asks for an active membership, without a role, of an owner that is not active, and
is not refused for another reason. -/
def reinstatesOwner (db : Db) (r : MemberRequest) : Bool :=
  (r.run db).isOk && membershipStatus? (trim r.status) == some .active &&
    r.managementRole.isNone &&
    (db.memberships.lookup Membership.key (r.organizationId, r.target)).any fun m =>
      m.managementRole == .owner && m.status != .active

/-! ### Owners -/

/-- The memberships of owners are the same: none has another status or role, and none is new. -/
def SameOwners (db db' : Db) : Prop :=
  ∀ m : Membership, m.managementRole = .owner → (m ∈ db'.memberships ↔ m ∈ db.memberships)

variable {db db' db₁ : Db} {r : MemberRequest}

theorem SameOwners.refl (db : Db) : SameOwners db db := fun _ _ => Iff.rfl

theorem SameOwners.trans (h : SameOwners db db₁) (h' : SameOwners db₁ db') : SameOwners db db' :=
  fun m hm => (h' m hm).trans (h m hm)

theorem sameOwners_writeMembership {organizationId principalId : String}
    {status : MembershipStatus} {managementRole : Option ManagementRole}
    (hbefore : ∀ m, db.memberships.lookup Membership.key (organizationId, principalId) = some m →
      m.managementRole ≠ .owner)
    (hafter : managementRole ≠ some .owner) :
    SameOwners db (writeMembership db organizationId principalId status managementRole) := by
  intro m hm
  have hnew : (membershipAfter db organizationId principalId status managementRole).managementRole ≠
      .owner := by
    unfold membershipAfter
    cases hlookup : db.memberships.lookup Membership.key (organizationId, principalId) with
    | none => cases managementRole <;> simp_all
    | some m =>
      cases managementRole with
      | none => exact hbefore m hlookup
      | some => simpa [setMembership] using hafter
  rw [mem_writeMembership]
  constructor
  · rintro (rfl | ⟨hmem, -⟩)
    · exact absurd hm hnew
    · exact hmem
  · intro hmem
    refine .inr ⟨hmem, fun hkey => ?_⟩
    exact hbefore m (lookup_eq_some_iff.2 ⟨hmem, hkey⟩) hm

theorem sameOwners_writeMembership_active {organizationId principalId : String} {m : Membership}
    (hlookup : db.memberships.lookup Membership.key (organizationId, principalId) = some m)
    (hactive : m.status = .active) :
    SameOwners db (writeMembership db organizationId principalId .active none) := by
  have hsame : membershipAfter db organizationId principalId .active none = m := by
    rw [membershipAfter, hlookup, ← hactive]
    rfl
  obtain ⟨hmem, hkey⟩ := lookup_eq_some_iff.1 hlookup
  intro m' _
  rw [mem_writeMembership, hsame]
  constructor
  · rintro (rfl | ⟨hmem', -⟩)
    · exact hmem
    · exact hmem'
  · intro hmem'
    by_cases hkey' : m'.key = (organizationId, principalId)
    · exact .inl (eq_of_key hmem' hmem (hkey'.trans hkey.symm))
    · exact .inr ⟨hmem', hkey'⟩

theorem SameOwners.execute (hadmin : madeByAdmin db r = true)
    (hr : reinstatesOwner db r = false) : SameOwners db (r.execute db) := by
  unfold MemberRequest.execute
  rw [MemberRequest.run_eq]
  cases hrun : upsertOrganizationMembershipAsManager db r.organizationId r.actor r.target r.status
      r.managementRole with
  | error => exact SameOwners.refl db
  | ok result =>
    obtain ⟨membership, db'⟩ := result
    obtain ⟨status, role, context, hparse, hlock, hguard, ⟨-, rfl⟩ | ⟨-, rfl⟩⟩ :=
      upsertOrganizationMembershipAsManager_eq_ok hrun
    · exact SameOwners.refl _
    · obtain ⟨manager, hmanager, -, hrole, -, -, htarget⟩ :=
        lockOrganizationManagerContext_eq_ok hlock
      have hadmin' : context.actorManagementRole = .admin := by
        rw [← hrole]
        simpa [madeByAdmin, hmanager] using hadmin
      obtain ⟨hnotOwner, howner⟩ := hguard hadmin'
      rw [htarget] at howner
      have hwrite : SameOwners db (writeMembership db r.organizationId r.target status role) := by
        by_cases hbefore : ∀ m, db.memberships.lookup Membership.key (r.organizationId, r.target) =
            some m → m.managementRole ≠ .owner
        · exact sameOwners_writeMembership hbefore hnotOwner
        · -- the target is an owner, so that the request only asks for an active membership
          simp only [not_forall, not_not, exists_prop] at hbefore
          obtain ⟨m, hm, hmowner⟩ := hbefore
          obtain ⟨rfl, rfl⟩ := howner m hm hmowner
          obtain ⟨hstatus, hrole⟩ := parseMembership_eq_ok hparse
          have hnone : r.managementRole = none := by simpa using hrole.symm
          refine sameOwners_writeMembership_active hm ?_
          have hok : (r.run db).isOk = true := by rw [r.run_eq, hrun]; rfl
          simpa [reinstatesOwner, hok, hstatus, hnone, hm, hmowner] using hr
      split_ifs
      · exact hwrite
      · exact hwrite

/-- Administrators who reinstate no owner leave the memberships of owners as they are. -/
theorem owners_untouched_by_admins (db₀ : Db) (rs : List MemberRequest)
    (hadmin : delegation.Along (fun db r _ => madeByAdmin db r = true) db₀ rs)
    (hrs : delegation.Along (fun db r _ => reinstatesOwner db r = false) db₀ rs) {db : Db}
    (hrun : delegation.run db₀ rs = some db) : SameOwners db₀ db := by
  refine delegation.run_invariant_along (I := SameOwners db₀) ?_ (SameOwners.refl db₀)
    (delegation.along_and hadmin hrs) hrun
  rintro db r db' hsame ⟨hadmin, hr⟩ hstep
  cases hstep
  exact hsame.trans (SameOwners.execute hadmin hr)

/-- An organization with an administrator and an owner whose membership has the given status. -/
def sampleOrganization (status : MembershipStatus) : Db where
  users := ⟨[⟨"a", "a", "a", none, true, .externalCustomer, false, false⟩,
    ⟨"w", "w", "w", none, true, .externalCustomer, false, false⟩], by decide⟩
  principals := ⟨[⟨.user, "a", "a", true⟩, ⟨.user, "w", "w", true⟩], by decide⟩
  organizations := .single { id := "o", kind := .customer }
  memberships := ⟨[⟨"o", "user-a", .active, .admin⟩, ⟨"o", "user-w", status, .owner⟩],
    by simp [clash, Membership.key]⟩

/-- An administrator writes the membership of an active owner, and invites another owner. -/
def sampleRequests : List MemberRequest :=
  [.update "o" "user-a" "user-w" "active" none, .invite "o" "user-a" "user-a" (some "owner")]

theorem owners_untouched_by_admins_active :
    (∃ db, delegation.run (sampleOrganization .active) sampleRequests = some db ∧
      SameOwners (sampleOrganization .active) db) ∧
    delegation.Along (fun db r _ => madeByAdmin db r = true) (sampleOrganization .active)
      sampleRequests := by
  have hadmin : delegation.Along (fun db r _ => madeByAdmin db r = true)
      (sampleOrganization .active) sampleRequests := by decide +kernel
  have hrs : delegation.Along (fun db r _ => reinstatesOwner db r = false)
      (sampleOrganization .active) sampleRequests := by decide +kernel
  exact ⟨⟨_, rfl, owners_untouched_by_admins _ _ hadmin hrs rfl⟩, hadmin⟩

/-- A suspended owner is made active again by an administrator. -/
theorem owner_reinstated_by_admin :
    madeByAdmin (sampleOrganization .suspended) (.update "o" "user-a" "user-w" "active" none) =
        true ∧
      ¬ SameOwners (sampleOrganization .suspended)
        ((MemberRequest.update "o" "user-a" "user-w" "active" none).execute
          (sampleOrganization .suspended)) := by
  refine ⟨by decide +kernel, fun h => ?_⟩
  have hsame := h ⟨"o", "user-w", .active, .owner⟩ rfl
  revert hsame
  decide +kernel

end Keylo.Tenancy
