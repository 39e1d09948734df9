import Keylo.Foundation.Forest
import Keylo.Schema

/-!
# Resources

The functions of `db/resource.rs` that write resources. A resource is identified by its
application, type and code within its organization or the platform. Creating a resource that
exists already changes it, and its parent with it.

The trigger `enforce_resource_organization_tree` and the foreign keys of the table are part of the
statements they check.

## Main definitions

* `createResourceInOrganization`, `updateResource`, `restoreResource` : the writes.
* `Db.parentOf` : the parent pointers of the resources.

## Main results

* `parentOf_createResourceInOrganization` : a new or changed resource is all that is moved.
-/

namespace Keylo

open Relational Function Table

structure CreateResourceParams where
  app : String
  resourceType : String
  code : String
  name : String
  parentId : Option String := none
  displayOrder : Int := 0
  description : Option String := none
  metadata : Option String := none
  permissionIds : List String := []
deriving DecidableEq, Repr

structure UpdateResourceParams where
  name : Option String := none
  displayOrder : Option Int := none
  description : Option String := none
  metadata : Option String := none
  active : Option Bool := none
  expectedVersion : Nat
deriving DecidableEq, Repr

variable (db : Db)

/-! ### Creation -/

/-- The row that an `INSERT` of the parameters proposes (`EXCLUDED`). -/
def CreateResourceParams.row (params : CreateResourceParams) (organizationId : Option String)
    (id : String) : Resource where
  id := id
  app := params.app
  resourceType := params.resourceType
  code := params.code
  name := params.name
  parentId := params.parentId
  displayOrder := params.displayOrder
  description := params.description
  metadata := params.metadata
  organizationId := organizationId

/-- The trigger on `parent_id`: a parent that is found belongs to the same scope. -/
def enforceResourceOrganizationTree (row : Resource) : Bool :=
  match row.parentId with
  | none => true
  | some parentId =>
    match db.resources.lookup Resource.id parentId with
    | none => true
    | some parent => parent.organizationId == row.organizationId

/-- `ON CONFLICT … DO UPDATE SET` of the row that is there already. -/
def overwriteResource (excluded : Resource) : Assignment Resource :=
  ⟨fun r => { r with
      name := excluded.name
      parentId := excluded.parentId
      displayOrder := excluded.displayOrder
      description := excluded.description
      metadata := excluded.metadata
      active := true
      version := r.version + 1 },
    fun _ _ => rfl⟩

/-- The foreign keys of a row of `resources`. -/
def resourceReferences (row : Resource) (resources : Table Resource) : Bool :=
  (row.parentId.all fun parentId => resources.any fun r => r.id == parentId) &&
    row.organizationId.all fun organizationId =>
      db.organizations.any fun o => o.id == organizationId

/-- The upsert of a resource under its identity. -/
def upsertResource (row : Resource) : Except String (Resource × Db) :=
  if !enforceResourceOrganizationTree db row then
    .error "resource parent must belong to the same organization scope"
  else
    match db.resources.lookup Resource.identity row.identity with
    | some existing =>
      let resources :=
        db.resources.update (fun r => r.id == existing.id) (overwriteResource row)
      if resourceReferences db row resources then
        .ok ((overwriteResource row).apply existing, { db with resources := resources })
      else .error foreignKeyViolation
    | none =>
      match db.resources.insert row with
      | none => .error uniqueViolation
      | some resources =>
        if resourceReferences db row resources then .ok (row, { db with resources := resources })
        else .error foreignKeyViolation

def assignPermissionToResource (resourceId permissionId : String) : Except String Db :=
  if (db.resources.any fun r => r.id == resourceId) &&
      db.permissions.any fun p => p.id == permissionId then
    .ok { db with
      resourcePermissions := db.resourcePermissions.insertIgnore ⟨resourceId, permissionId⟩ }
  else .error foreignKeyViolation

/-- The assignments of the permissions of a resource, up to the first that fails. -/
def assignPermissions (resourceId : String) : List String → Db → Except String Unit × Db
  | [], db => (.ok (), db)
  | permissionId :: permissionIds, db =>
    match assignPermissionToResource db resourceId permissionId with
    | .error e => (.error e, db)
    | .ok db => assignPermissions resourceId permissionIds db

/-- Creates a resource, or changes the one with the same identity. The permissions are assigned
by statements of their own, so a permission that does not exist leaves the resource in place. -/
def createResourceInOrganization (organizationId : Option String) (params : CreateResourceParams)
    (id : String) : Except String Resource × Db :=
  match upsertResource db (params.row organizationId id) with
  | .error e => (.error e, db)
  | .ok (resource, db) =>
    match assignPermissions resource.id params.permissionIds db with
    | (.error e, db) => (.error e, db)
    | (.ok (), db) => (.ok resource, db)

/-! ### Changes -/

/-- `UPDATE … WHERE id = $1 AND version = $7`, with the row that was changed. -/
def updateResourceRow (resourceId : String) (expectedVersion : Nat) (f : Assignment Resource) :
    Option Resource × Db :=
  let isCurrent := fun r : Resource => r.id == resourceId && r.version == expectedVersion
  ((db.resources.find? isCurrent).map f.apply,
    { db with resources := db.resources.update isCurrent f })

def updateResource (resourceId : String) (params : UpdateResourceParams) : Option Resource × Db :=
  updateResourceRow db resourceId params.expectedVersion
    ⟨fun r => { r with
        name := params.name.getD r.name
        displayOrder := params.displayOrder.getD r.displayOrder
        description := params.description.or r.description
        metadata := params.metadata.or r.metadata
        active := params.active.getD r.active
        version := r.version + 1 },
      fun _ _ => rfl⟩

/-- Writes the recorded values back, except for the parent. -/
def restoreResource (resourceId : String) (target : Resource) (expectedVersion : Nat) :
    Option Resource × Db :=
  updateResourceRow db resourceId expectedVersion
    ⟨fun r => { r with
        name := target.name
        displayOrder := target.displayOrder
        description := target.description
        metadata := target.metadata
        active := target.active
        version := r.version + 1 },
      fun _ _ => rfl⟩

/-! ### Parents -/

/-- The parent of the resource with the given id. -/
def Db.parentOf (id : String) : Option String :=
  (db.resources.lookup Resource.id id).bind Resource.parentId

/-- The id under which a resource is stored once it is created: its old one if it was there. -/
def createdResourceId (organizationId : Option String) (params : CreateResourceParams)
    (id : String) : String :=
  ((db.resources.lookup Resource.identity (params.row organizationId id).identity).map
    Resource.id).getD id

variable {db} {db' : Db} {row resource : Resource} {id resourceId : String}

theorem Db.parentOf_congr (h : db'.resources = db.resources) : db'.parentOf = db.parentOf := by
  funext id
  rw [Db.parentOf, Db.parentOf, h]

/-- Writing one row moves that resource, and no other. -/
theorem Db.parentOf_eq_update
    (h : ∀ k, db'.resources.lookup Resource.id k =
      if id = k then some resource else db.resources.lookup Resource.id k) :
    db'.parentOf = update db.parentOf id resource.parentId := by
  funext k
  rw [update_apply, Db.parentOf, h]
  split_ifs with hk hk' hk'
  · rfl
  · exact absurd hk.symm hk'
  · exact absurd hk'.symm hk
  · rfl

theorem parentOf_upsertResource (h : upsertResource db row = .ok (resource, db')) :
    db'.parentOf = update db.parentOf
      (((db.resources.lookup Resource.identity row.identity).map Resource.id).getD row.id)
      row.parentId := by
  unfold upsertResource at h
  split at h
  · cases h
  split at h
  · rename_i existing hexisting
    simp only at h
    split at h
    · cases h
      rw [hexisting]
      have hmem := (lookup_eq_some_iff.1 hexisting).1
      have hlookup : db.resources.lookup Resource.id existing.id = some existing :=
        (mem_iff_lookup Resource.id).1 hmem
      change _ = update db.parentOf existing.id
        ((overwriteResource row).apply existing).parentId
      refine Db.parentOf_eq_update fun k => ?_
      exact lookup_update_of_key (fun _ => rfl) (fun r hr => by simpa using hr) hlookup
        (by simp) k
    · cases h
  · rename_i hnew
    split at h
    · cases h
    rename_i resources hinsert
    split at h
    · cases h
      rw [hnew]
      exact Db.parentOf_eq_update fun k => lookup_insert hinsert
    · cases h

theorem resources_assignPermissions {permissionIds : List String} :
    (assignPermissions resourceId permissionIds db).2.resources = db.resources := by
  induction permissionIds generalizing db with
  | nil => rfl
  | cons permissionId permissionIds ih =>
    unfold assignPermissions
    split
    · rfl
    rename_i db' hassign
    rw [ih]
    unfold assignPermissionToResource at hassign
    split at hassign
    · cases hassign
      rfl
    · cases hassign

/-- A call that creates or changes a resource moves that resource, and no other; a call that is
rejected moves none. -/
theorem parentOf_createResourceInOrganization (db : Db) (organizationId : Option String)
    (params : CreateResourceParams) (id : String) :
    (createResourceInOrganization db organizationId params id).2.parentOf = db.parentOf ∨
      (createResourceInOrganization db organizationId params id).2.parentOf =
        update db.parentOf (createdResourceId db organizationId params id)
          params.parentId := by
  unfold createResourceInOrganization
  split
  · exact .inl rfl
  rename_i resource db' hupsert
  right
  have hmoved := parentOf_upsertResource hupsert
  have hkept : (assignPermissions resource.id params.permissionIds db').2.parentOf =
      db'.parentOf := Db.parentOf_congr resources_assignPermissions
  split <;> rename_i hassign <;> rw [hassign] at hkept <;> exact hkept.trans hmoved

/-- Changes under a version number leave the parents alone. -/
theorem parentOf_updateResourceRow {expectedVersion : Nat} {f : Assignment Resource}
    (hid : ∀ r, (f.apply r).id = r.id) (hf : ∀ r, (f.apply r).parentId = r.parentId) :
    (updateResourceRow db resourceId expectedVersion f).2.parentOf = db.parentOf := by
  funext k
  simp only [updateResourceRow, Db.parentOf, lookup_update hid]
  cases db.resources.lookup Resource.id k with
  | none => rfl
  | some r =>
    simp only [Option.map_some, Option.bind_some]
    split_ifs
    · exact hf r
    · rfl

end Keylo
