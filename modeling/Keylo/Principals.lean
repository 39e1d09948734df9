import Keylo.Schema

/-!
# Principals

The functions of `db/principal.rs` that mirror the name and the active flag of a user, a client or
a service in the principal of this owner.

## Main definitions

* `readOwner`, `upsertPrincipal` : the two statements of a refresh.
* `ensureUserPrincipal`, `ensureClientPrincipal`.
* `SetsOwner` : what a statement does to the names and flags of owners.

## Main results

* `lookup_upsertPrincipal`, `mem_upsertPrincipal` : the principals after an upsert.
-/

namespace Keylo

open Relational Table

/-- `SET display_name = EXCLUDED.display_name, active = EXCLUDED.active`. -/
def mirrorOwner (displayName : String) (active : Bool) : Assignment Principal :=
  ⟨fun p => { p with displayName := displayName, active := active }, fun _ _ => rfl⟩

/-- `INSERT … ON CONFLICT (principal_type, ref_id) DO UPDATE`. -/
def upsertPrincipal (db : Db) (principalType : PrincipalType) (refId displayName : String)
    (active : Bool) : Db :=
  { db with
    principals :=
      db.principals.upsert ⟨principalType, refId, displayName, active⟩
        (mirrorOwner displayName active) }

/-- The name and the active flag of the owner of a principal. A device has no row of its own. -/
def readOwner (db : Db) : PrincipalType → String → Option (String × Bool)
  | .user, id => (db.users.lookup User.id id).map fun u => (u.username, u.active)
  | .client, id => (db.clients.lookup Client.id id).map fun c => (c.name, c.active)
  | .service, id => (db.serviceClients.lookup ServiceClient.serviceId id).map fun s =>
      (s.name, s.active)
  | .device, _ => none

/-- The statement gives the owner `k` the name and flag `v` and leaves all others alone. -/
def SetsOwner (db db' : Db) (k : PrincipalType × String) (v : Option (String × Bool)) : Prop :=
  ∀ t refId, readOwner db' t refId = if (t, refId) = k then v else readOwner db t refId

section SetsOwner

variable {db db' : Db}

theorem setsOwner_user {userId : String} {x : Option User}
    (hclients : db'.clients = db.clients) (hservices : db'.serviceClients = db.serviceClients)
    (h : ∀ id, db'.users.lookup User.id id =
      if userId = id then x else db.users.lookup User.id id) :
    SetsOwner db db' (.user, userId) (x.map fun u => (u.username, u.active)) := by
  intro t refId
  cases t <;> simp [readOwner, hclients, hservices, h, eq_comm]
  split_ifs <;> rfl

theorem setsOwner_client {clientId : String} {x : Option Client}
    (husers : db'.users = db.users) (hservices : db'.serviceClients = db.serviceClients)
    (h : ∀ id, db'.clients.lookup Client.id id =
      if clientId = id then x else db.clients.lookup Client.id id) :
    SetsOwner db db' (.client, clientId) (x.map fun c => (c.name, c.active)) := by
  intro t refId
  cases t <;> simp [readOwner, husers, hservices, h, eq_comm]
  split_ifs <;> rfl

theorem setsOwner_service {serviceId : String} {x : Option ServiceClient}
    (husers : db'.users = db.users) (hclients : db'.clients = db.clients)
    (h : ∀ id, db'.serviceClients.lookup ServiceClient.serviceId id =
      if serviceId = id then x else db.serviceClients.lookup ServiceClient.serviceId id) :
    SetsOwner db db' (.service, serviceId) (x.map fun s => (s.name, s.active)) := by
  intro t refId
  cases t <;> simp [readOwner, husers, hclients, h, eq_comm]
  split_ifs <;> rfl

end SetsOwner

/-- Reads an owner and mirrors it; without an owner there is nothing to do. -/
def ensurePrincipal (principalType : PrincipalType) (db : Db) (refId : String) : Option Db :=
  (readOwner db principalType refId).map fun owner =>
    upsertPrincipal db principalType refId owner.1 owner.2

def ensureUserPrincipal : Db → String → Option Db := ensurePrincipal .user

def ensureClientPrincipal : Db → String → Option Db := ensurePrincipal .client

variable {principalType : PrincipalType} {active : Bool}

theorem mem_upsertPrincipal {db : Db} {refId displayName : String} {p : Principal} :
    p ∈ (upsertPrincipal db principalType refId displayName active).principals ↔
      p = ⟨principalType, refId, displayName, active⟩ ∨
        p ∈ db.principals ∧ p.owner ≠ (principalType, refId) := by
  refine (mem_upsert fun q _ hclash => ?_).trans ?_
  · obtain ⟨rfl, rfl⟩ : principalType = q.principalType ∧ refId = q.refId := by
      simpa [clash, Principal.owner] using hclash
    rfl
  · exact or_congr_right (and_congr_right fun _ => Keyed.ofKey_clash_eq_false.trans ne_comm)

/-- The owner has a principal. -/
def HasOwner (db : Db) (owner : PrincipalType × String) : Prop :=
  ∃ p ∈ db.principals, p.owner = owner

/-- An upsert adds the principal of the owner and removes none. -/
theorem hasOwner_upsertPrincipal {db : Db} {refId displayName : String} :
    HasOwner (upsertPrincipal db principalType refId displayName active) (principalType, refId) ∧
      ∀ owner, HasOwner db owner →
        HasOwner (upsertPrincipal db principalType refId displayName active) owner := by
  refine ⟨⟨_, mem_upsertPrincipal.2 (.inl rfl), rfl⟩, ?_⟩
  rintro owner ⟨p, hp, rfl⟩
  by_cases ho : p.owner = (principalType, refId)
  · exact ⟨_, mem_upsertPrincipal.2 (.inl rfl), ho.symm⟩
  · exact ⟨p, mem_upsertPrincipal.2 (.inr ⟨hp, ho⟩), rfl⟩

/-- After an upsert the principal of the owner has the given values; no other principal has
changed. -/
theorem lookup_upsertPrincipal (db : Db) (principalType : PrincipalType)
    (refId displayName : String) (active : Bool) (owner : PrincipalType × String) :
    (upsertPrincipal db principalType refId displayName active).principals.lookup
        Principal.owner owner =
      if (principalType, refId) = owner then some ⟨principalType, refId, displayName, active⟩
      else db.principals.lookup Principal.owner owner := by
  ext p
  rw [lookup_eq_some_iff, mem_upsertPrincipal]
  split_ifs with h
  · constructor
    · rintro ⟨rfl | ⟨-, hne⟩, howner⟩
      · rfl
      · exact absurd (howner.trans h.symm) hne
    · rintro ⟨⟩
      exact ⟨.inl rfl, h⟩
  · rw [lookup_eq_some_iff]
    constructor
    · rintro ⟨rfl | ⟨hp, -⟩, howner⟩
      · exact absurd howner h
      · exact ⟨hp, howner⟩
    · rintro ⟨hp, howner⟩
      exact ⟨.inr ⟨hp, fun he => h (he.symm.trans howner)⟩, howner⟩

theorem lookup_id_eq (db : Db) (principalType : PrincipalType) (refId : String) :
    db.principals.lookup Principal.id (principalId principalType refId) =
      db.principals.lookup Principal.owner (principalType, refId) := by
  ext p
  rw [lookup_eq_some_iff, lookup_eq_some_iff]
  simp only [Principal.id, Principal.owner, principalId_inj, Prod.mk.injEq]

end Keylo
