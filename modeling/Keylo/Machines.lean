import Keylo.Organizations
import Keylo.Principals
import Keylo.Text

/-!
# Services and devices

The transactions of `db/service.rs` and `db/machine.rs` that create and change machine identities. A
machine belongs to the platform or to one organization; triggers keep this scope from changing.

## Main definitions

* `createServiceClient`, `createDevice` and their variants for organization managers.
* `getMachinePrincipalScope` : the immutable scope of a machine.
-/

namespace Keylo

open Relational Table

variable (db : Db)

/-- The scope stored for the owner of a machine principal: an organization, or the platform. -/
def Principal.storedScope (principal : Principal) : Option (Option String) :=
  match principal.principalType with
  | .service =>
    (db.serviceClients.lookup ServiceClient.serviceId principal.refId).map
      ServiceClient.organizationId
  | .device =>
    (db.deviceScopes.lookup DeviceScope.principalId principal.id).map DeviceScope.organizationId
  | _ => none

/-- The immutable scope of a service or device principal. -/
def getMachinePrincipalScope (id : String) : Option (Option String) :=
  (db.principals.lookup Principal.id id).bind fun principal => principal.storedScope db

/-- The active membership of a new machine. -/
def activeMember : Assignment Membership :=
  ⟨fun m => { m with status := .active, managementRole := .member }, fun _ _ => rfl⟩

/-! ### Services -/

/-- Inserts a service client, its principal and its membership. -/
def insertServiceClient (serviceId name : String) (organizationId : Option String) :
    Except String Db :=
  match db.serviceClients.insert
      { serviceId := serviceId, name := name, organizationId := organizationId } with
  | none => .error uniqueViolation
  | some serviceClients =>
    let db := upsertPrincipal { db with serviceClients := serviceClients } .service serviceId name
      true
    match organizationId with
    | none => .ok db
    | some organizationId =>
      .ok { db with
        memberships :=
          db.memberships.upsert ⟨organizationId, principalId .service serviceId, .active, .member⟩
            activeMember }

def createServiceClient (serviceId name : String) (organizationId : Option String) :
    Except String Db :=
  match organizationId with
  | none => insertServiceClient db serviceId name none
  | some organizationId =>
    let organizationId := trim organizationId
    if organizationId.isEmpty then .error "organization_service_client_scope_invalid"
    else
      match requireActiveOrganization db organizationId
          "organization_service_client_context_inactive"
          "organization_service_client_context_inactive" with
      | .error e => .error e
      | .ok _ => insertServiceClient db serviceId name (some organizationId)

def createServiceClientAsOrganizationManager (organizationId actorPrincipalId : String)
    (serviceId name : String) (paramsOrganizationId : Option String) : Except String Db :=
  if paramsOrganizationId.map trim ≠ some organizationId then
    .error "organization_service_client_scope_invalid"
  else
    match lockActiveOrganizationManager db organizationId actorPrincipalId with
    | .error e => .error e
    | .ok () => insertServiceClient db serviceId name (some organizationId)

/-- The `SET` clause of the updates of a service. -/
def changeService (name : Option String) (active : Option Bool) : Assignment ServiceClient :=
  ⟨fun s => { s with name := name.getD s.name, active := active.getD s.active }, fun _ _ => rfl⟩

/-- The statement of `update_service_client`, which refreshes the principal afterwards. -/
def updateServiceClient (serviceId : String) (name : Option String) (active : Option Bool) : Db :=
  { db with
    serviceClients :=
      db.serviceClients.update (fun s => s.serviceId == serviceId) (changeService name active) }

/-- The principal of the service is not refreshed. -/
def updateServiceClientAsOrganizationManager (organizationId actorPrincipalId serviceId : String)
    (name : Option String) (active : Option Bool) : Except String Db :=
  match lockActiveOrganizationManager db organizationId actorPrincipalId with
  | .error e => .error e
  | .ok () =>
    .ok { db with
      serviceClients := db.serviceClients.update
        (fun s => s.serviceId == serviceId && s.organizationId == some organizationId)
        (changeService name active) }

/-! ### Devices -/

/-- Inserts the principal of a device, its scope and its membership. -/
def insertDevice (deviceId displayName : String) (organizationId : Option String) :
    Except String Db :=
  match db.principals.insert ⟨.device, deviceId, displayName, true⟩,
      db.deviceScopes.insert ⟨principalId .device deviceId, organizationId⟩ with
  | some principals, some deviceScopes =>
    let db := { db with principals := principals, deviceScopes := deviceScopes }
    match organizationId with
    | none => .ok db
    | some organizationId =>
      match db.memberships.insert
          ⟨organizationId, principalId .device deviceId, .active, .member⟩ with
      | some memberships => .ok { db with memberships := memberships }
      | none => .error uniqueViolation
  | _, _ => .error uniqueViolation

/-- The trimmed organization of a device, if one is given. -/
def normalizeOrganizationId : Option String → Except String (Option String)
  | none => .ok none
  | some organizationId =>
    if (trim organizationId).isEmpty then .error "machine_scope_invalid"
    else .ok (some (trim organizationId))

def createDevice (deviceId displayName : String) (organizationId : Option String) :
    Except String Db :=
  match normalizeOrganizationId organizationId with
  | .error e => .error e
  | .ok none => insertDevice db deviceId displayName none
  | .ok (some organizationId) =>
    match requireActiveOrganization db organizationId "machine_organization_context_inactive"
        "machine_organization_context_inactive" with
    | .error e => .error e
    | .ok _ => insertDevice db deviceId displayName (some organizationId)

def createDeviceAsOrganizationManager (organizationId actorPrincipalId : String)
    (deviceId displayName : String) (paramsOrganizationId : Option String) : Except String Db :=
  match normalizeOrganizationId paramsOrganizationId with
  | .error e => .error e
  | .ok scope =>
    if scope ≠ some organizationId then .error "machine_scope_mismatch"
    else
      match lockActiveOrganizationManager db organizationId actorPrincipalId with
      | .error e => .error e
      | .ok () => insertDevice db deviceId displayName (some organizationId)

/-! ### What the transactions do -/

variable {db} {db' : Db} {name displayName o actor : String} {scope : Option String}
  {serviceId : String}

theorem insertServiceClient_eq_ok (h : insertServiceClient db serviceId name scope = .ok db') :
    ∃ serviceClients memberships,
      db.serviceClients.insert
        { serviceId := serviceId, name := name, organizationId := scope } = some serviceClients ∧
      db' = { upsertPrincipal db .service serviceId name true with
        serviceClients := serviceClients, memberships := memberships } := by
  unfold insertServiceClient at h
  split at h
  · cases h
  · rename_i serviceClients hinsert
    cases scope <;> cases h <;> exact ⟨serviceClients, _, hinsert, rfl⟩

variable {deviceId : String}

theorem insertDevice_eq_ok (h : insertDevice db deviceId displayName scope = .ok db') :
    ∃ principals deviceScopes memberships,
      db.principals.insert ⟨.device, deviceId, displayName, true⟩ = some principals ∧
      db.deviceScopes.insert ⟨principalId .device deviceId, scope⟩ = some deviceScopes ∧
      db' = { db with
        principals := principals, deviceScopes := deviceScopes, memberships := memberships } := by
  unfold insertDevice at h
  split at h
  · rename_i principals deviceScopes hprincipal hscope
    cases scope with
    | none =>
      cases h
      exact ⟨principals, deviceScopes, _, hprincipal, hscope, rfl⟩
    | some =>
      dsimp only at h
      split at h
      · cases h
        exact ⟨principals, deviceScopes, _, hprincipal, hscope, rfl⟩
      · cases h
  · cases h

theorem createServiceClient_eq_ok (h : createServiceClient db serviceId name scope = .ok db') :
    ∃ scope', insertServiceClient db serviceId name scope' = .ok db' := by
  unfold createServiceClient at h
  split at h
  · exact ⟨none, h⟩
  dsimp only at h
  split_ifs at h
  split at h
  · cases h
  · exact ⟨_, h⟩

theorem createServiceClientAsOrganizationManager_eq_ok
    (h : createServiceClientAsOrganizationManager db o actor serviceId name scope = .ok db') :
    insertServiceClient db serviceId name (some o) = .ok db' := by
  unfold createServiceClientAsOrganizationManager at h
  split_ifs at h
  split at h
  · cases h
  · exact h

theorem createDevice_eq_ok (h : createDevice db deviceId displayName scope = .ok db') :
    ∃ scope', insertDevice db deviceId displayName scope' = .ok db' := by
  unfold createDevice at h
  split at h
  · cases h
  · exact ⟨none, h⟩
  split at h
  · cases h
  · exact ⟨_, h⟩

theorem createDeviceAsOrganizationManager_eq_ok
    (h : createDeviceAsOrganizationManager db o actor deviceId displayName scope = .ok db') :
    insertDevice db deviceId displayName (some o) = .ok db' := by
  unfold createDeviceAsOrganizationManager at h
  split at h
  · cases h
  split_ifs at h
  split at h
  · cases h
  · exact h

theorem setsOwner_updateServiceClient {service : ServiceClient} {name : Option String}
    {active : Option Bool}
    (h : db.serviceClients.lookup ServiceClient.serviceId serviceId = some service) :
    SetsOwner db (updateServiceClient db serviceId name active) (.service, serviceId)
      (some (name.getD service.name, active.getD service.active)) :=
  setsOwner_service (x := some ((changeService name active).apply service)) rfl rfl
    (lookup_update_of_key (fun _ => rfl) (fun _ hs => by simpa using hs) h
      (by simpa using (lookup_eq_some_iff.1 h).2))

theorem setsOwner_insertServiceClient (h : insertServiceClient db serviceId name scope = .ok db') :
    SetsOwner db db' (.service, serviceId) (some (name, true)) := by
  obtain ⟨serviceClients, memberships, hinsert, rfl⟩ := insertServiceClient_eq_ok h
  exact setsOwner_service
    (x := some { serviceId := serviceId, name := name, organizationId := scope }) rfl rfl
    fun refId => lookup_insert (k := refId) hinsert

end Keylo
