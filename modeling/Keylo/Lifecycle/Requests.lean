import Keylo.Foundation.System
import Keylo.Clients
import Keylo.Machines
import Keylo.Users

/-!
# Requests that write users, clients and services

A request that writes an owner commits its transaction, then reads the owner again and upserts the
principal with what it has read. These are three separate statements, and statements of other
requests may run in between. Logins, token requests and checks only refresh the principal. A few
functions write both rows in one transaction, and two do not refresh the principal at all.

## Main definitions

* `Call` : the functions that write owners or refresh principals.
* `transaction` : the first transaction of a call, and the owner to refresh.
* `protocol` : the statements of all requests.
* `mirrored` : the principal agrees with its owner.

## Main results

* `callEffect` : what the transaction of a call does to an owner and its principal.
-/

namespace Keylo.Lifecycle

open Relational Transition Table

/-- The row a principal stands for. -/
abbrev Owner := PrincipalType × String

inductive Call
  | createUser (salt id : String) (new : NewUser)
  | updateUser (salt userId : String) (changes : UserChanges)
  | setUserActive (userId : String) (active : Bool)
  | deleteUser (userId : String)
  | promoteUserToInternalEmployee (userId : String)
  | provisionUserWithRoles (salt id : String) (new : NewUser) (roleIds roleNames : List String)
  | createClient (clientId secret name : String) (description : Option String)
  | upsertClient (clientId secret name : String) (description : Option String)
  | seedAdminClient (clientId secret : String)
  | createManagementClient (clientId secret name : String) (description : Option String)
      (active : Bool)
  | updateManagementClient (clientId : String) (secret name description : Option String)
      (active : Option Bool)
  | rotateClientSecret (clientId secret : String)
  | createServiceClient (serviceId name : String) (organizationId : Option String)
  | createServiceClientAsOrganizationManager (organizationId actorPrincipalId : String)
      (serviceId name : String) (paramsOrganizationId : Option String)
  | updateServiceClient (serviceId : String) (name : Option String) (active : Option Bool)
  | updateServiceClientAsOrganizationManager (organizationId actorPrincipalId serviceId : String)
      (name : Option String) (active : Option Bool)
  | rotateServiceSecret (serviceId : String)
  | ensureUserPrincipal (userId : String)
  | ensureClientPrincipal (clientId : String)
  | ensureServicePrincipal (serviceId : String)

/-- A transaction that does not refresh a principal afterwards. -/
def alone (db : Db) : Except String Db → Db × Option Owner
  | .error _ => (db, none)
  | .ok db' => (db', none)

/-- A statement that refreshes the principal of `owner` if it has succeeded. -/
def thenRefresh (db : Db) (owner : Owner) : Except String Db → Db × Option Owner
  | .error _ => (db, none)
  | .ok db' => (db', some owner)

variable (crates : Crates) (db : Db)

/-- The database after the first transaction of a call, and the owner whose principal the call
refreshes next. The secret of a service is not part of the model, so its rotation only refreshes
the principal. -/
def transaction : Call → Db × Option Owner
  | .createUser salt id new =>
    thenRefresh db (.user, id) ((insertUser crates db salt id new).map Prod.snd)
  | .updateUser salt userId changes =>
    match updateUserRow crates db salt userId changes with
    | .error _ => (db, none)
    | .ok (none, db') => (db', none)
    | .ok (some _, db') => (db', some (.user, userId))
  | .setUserActive userId active => (setUserActive db userId active, none)
  | .deleteUser userId => (deleteUser db userId, none)
  | .promoteUserToInternalEmployee userId => alone db (promoteUserToInternalEmployee db userId)
  | .provisionUserWithRoles salt id new roleIds roleNames =>
    alone db ((provisionUserWithRoles crates db salt id new roleIds roleNames).map Prod.snd)
  | .createClient clientId secret name description =>
    alone db (createClient db clientId secret name description)
  | .upsertClient clientId secret name description =>
    (upsertClient db clientId secret name description, some (.client, clientId))
  | .seedAdminClient clientId secret =>
    (seedAdminClient db clientId secret, some (.client, clientId))
  | .createManagementClient clientId secret name description active =>
    thenRefresh db (.client, clientId)
      (createManagementClient db clientId secret name description active)
  | .updateManagementClient clientId secret name description active =>
    match db.clients.lookup Client.id clientId with
    | none => (db, none)
    | some _ =>
      (updateManagementClient db clientId secret name description active, some (.client, clientId))
  | .rotateClientSecret clientId secret =>
    match (db.clients.lookup Client.id clientId).filter Client.active with
    | none => (db, none)
    | some _ => ((rotateClientSecret db clientId secret).2, some (.client, clientId))
  | .createServiceClient serviceId name organizationId =>
    alone db (createServiceClient db serviceId name organizationId)
  | .createServiceClientAsOrganizationManager organizationId actor serviceId name params =>
    alone db
      (createServiceClientAsOrganizationManager db organizationId actor serviceId name params)
  | .updateServiceClient serviceId name active =>
    match db.serviceClients.lookup ServiceClient.serviceId serviceId with
    | none => (db, none)
    | some _ => (updateServiceClient db serviceId name active, some (.service, serviceId))
  | .updateServiceClientAsOrganizationManager organizationId actor serviceId name active =>
    alone db
      (updateServiceClientAsOrganizationManager db organizationId actor serviceId name active)
  | .rotateServiceSecret serviceId =>
    match (db.serviceClients.lookup ServiceClient.serviceId serviceId).filter
        ServiceClient.active with
    | none => (db, none)
    | some _ => (db, some (.service, serviceId))
  | .ensureUserPrincipal userId => (db, some (.user, userId))
  | .ensureClientPrincipal clientId => (db, some (.client, clientId))
  | .ensureServicePrincipal serviceId => (db, some (.service, serviceId))

/-- The owner a call has disabled, once its transaction has committed. -/
def disables : Call → Option Owner
  | .updateUser salt userId changes =>
    if changes.active = some false then
      (transaction crates db (.updateUser salt userId changes)).2
    else none
  | .setUserActive userId active =>
    if active then none else (db.users.lookup User.id userId).map fun _ => (.user, userId)
  | .updateManagementClient clientId secret name description active =>
    if active = some false then
      (transaction crates db (.updateManagementClient clientId secret name description active)).2
    else none
  | .updateServiceClient serviceId name active =>
    if active = some false then
      (transaction crates db (.updateServiceClient serviceId name active)).2
    else none
  | .updateServiceClientAsOrganizationManager organizationId actor serviceId _ active =>
    if active = some false ∧
        lockActiveOrganizationManager db organizationId actor matches .ok () then
      ((db.serviceClients.lookup ServiceClient.serviceId serviceId).filter fun s =>
        s.organizationId == some organizationId).map fun _ => (.service, serviceId)
    else none
  | _ => none

/-! ### The protocol -/

/-- The next statement of a request. -/
inductive Phase
  | idle
  | reading (owner : Owner)
  | upserting (owner : Owner) (displayName : String) (active : Bool)
deriving DecidableEq

/-- The request has still to refresh the principal of the owner. -/
def Phase.refreshes (owner : Owner) : Phase → Bool
  | .idle => false
  | .reading o => o == owner
  | .upserting o _ _ => o == owner

/-- A call, the next statement of a request, or the failure of this statement. -/
inductive Input
  | call (c : Call)
  | proceed
  | fail

def next : Input → Db → Phase → Option (Db × Phase)
  | .call c, db, .idle =>
    let r := transaction crates db c
    some (r.1, r.2.elim .idle .reading)
  | .proceed, db, .reading owner =>
    match readOwner db owner.1 owner.2 with
    | none => some (db, .idle)
    | some (displayName, active) => some (db, .upserting owner displayName active)
  | .proceed, db, .upserting owner displayName active =>
    some (upsertPrincipal db owner.1 owner.2 displayName active, .idle)
  | .fail, db, .reading _ => some (db, .idle)
  | .fail, db, .upserting _ _ _ => some (db, .idle)
  | _, _, _ => none

/-- Everything but the owners and the principals may change at any time. -/
def surroundings (other db : Db) : Db :=
  { other with
    users := db.users
    clients := db.clients
    serviceClients := db.serviceClients
    principals := db.principals }

/-- The statements of the requests, named by `ι`, and all other writes. -/
def protocol (ι : Type*) : Protocol ι Db Phase Input Db where
  next _ := next crates
  env other db := some (surroundings other db)

/-! ### Owners and principals -/

/-- The principal of the owner, if there is one, has the name and the flag of the owner. -/
def mirrored (owner : Owner) : Bool :=
  owner.1 == .device ||
    (db.principals.lookup Principal.owner owner).all fun p =>
      readOwner db owner.1 owner.2 == some (p.displayName, p.active)

/-- The owner of every principal exists. -/
def Owned : Prop :=
  ∀ owner : Owner, owner.1 ≠ .device → (db.principals.lookup Principal.owner owner).isSome →
    (readOwner db owner.1 owner.2).isSome

/-- A call that does not refresh the principal changes neither the name nor the flag of its owner,
and the principal agrees with an owner that the call enables or disables. -/
def steadyCall : Call → Bool
  | .setUserActive userId active =>
    ((db.users.lookup User.id userId).all fun u => u.active == active) &&
      mirrored db (.user, userId)
  | .updateServiceClientAsOrganizationManager _ _ serviceId name active =>
    ((db.serviceClients.lookup ServiceClient.serviceId serviceId).all fun s =>
      name.all (· == s.name) && active.all (· == s.active)) &&
      (active.isNone || mirrored db (.service, serviceId))
  | _ => true

variable {crates db} {db' : Db} {k o : Owner} {refresh : Option Owner} {v : Option (String × Bool)}

theorem mirrored_iff (hk : k.1 ≠ .device) :
    mirrored db k = true ↔ ∀ p, db.principals.lookup Principal.owner k = some p →
      readOwner db k.1 k.2 = some (p.displayName, p.active) := by
  simp [mirrored, hk, Option.all_eq_true]

theorem mirrored_of_lookup {n : String} {a : Bool}
    (hp : db.principals.lookup Principal.owner k = some ⟨k.1, k.2, n, a⟩)
    (ho : readOwner db k.1 k.2 = some (n, a)) : mirrored db k = true := by
  simp [mirrored, hp, ho]

theorem mirrored_of_none (hp : db.principals.lookup Principal.owner k = none) :
    mirrored db k = true := by
  simp [mirrored, hp]

/-- What a transaction does to the owner `k` and its principal, if the call refreshes the principal
of `refresh` afterwards. -/
inductive CallEffect (db db' : Db) (refresh : Option Owner) (k : Owner) : Prop
  | mirrored (h : mirrored db' k = true)
  | kept
      (hprincipal : db'.principals.lookup Principal.owner k =
        db.principals.lookup Principal.owner k)
      (howner : readOwner db' k.1 k.2 = readOwner db k.1 k.2)
  | written
      (hprincipal : db'.principals.lookup Principal.owner k =
        db.principals.lookup Principal.owner k)
      (hsome : (readOwner db' k.1 k.2).isSome) (hrefresh : refresh = some k)

theorem CallEffect.refl : CallEffect db db refresh k := .kept rfl rfl

theorem CallEffect.of_refresh (hp : db'.principals = db.principals)
    (hs : SetsOwner db db' o v) (hv : v.isSome) : CallEffect db db' (some o) k := by
  have hk := hs k.1 k.2
  split_ifs at hk with heq
  · exact .written (by rw [hp]) (hk ▸ hv) (by rw [← heq])
  · exact .kept (by rw [hp]) hk

theorem CallEffect.of_mirror
    (hp : ∀ k, k ≠ o →
      db'.principals.lookup Principal.owner k = db.principals.lookup Principal.owner k)
    (hs : SetsOwner db db' o v) (hm : Lifecycle.mirrored db' o = true) :
    CallEffect db db' refresh k := by
  by_cases hk : k = o
  · exact .mirrored (hk ▸ hm)
  have hread := hs k.1 k.2
  rw [if_neg hk] at hread
  exact .kept (hp k hk) hread

theorem CallEffect.of_upsert {n : String} {a : Bool}
    (hp : ∀ k, db'.principals.lookup Principal.owner k =
      if o = k then some ⟨o.1, o.2, n, a⟩ else db.principals.lookup Principal.owner k)
    (hs : SetsOwner db db' o (some (n, a))) : CallEffect db db' refresh k :=
  .of_mirror (fun k hk => (hp k).trans (if_neg hk.symm)) hs
    (mirrored_of_lookup ((hp o).trans (if_pos rfl)) ((hs o.1 o.2).trans (if_pos rfl)))

theorem CallEffect.of_alone {result : Except String Db}
    (h : ∀ db', result = .ok db' → CallEffect db db' none k) :
    CallEffect db (alone db result).1 (alone db result).2 k := by
  cases result with
  | error => exact .refl
  | ok db' => exact h db' rfl

/-- A new service is written together with its principal. -/
theorem callEffect_insertServiceClient {serviceId name : String} {scope : Option String}
    (h : insertServiceClient db serviceId name scope = .ok db') :
    CallEffect db db' refresh k := by
  have hs := setsOwner_insertServiceClient h
  obtain ⟨serviceClients, memberships, -, rfl⟩ := insertServiceClient_eq_ok h
  exact .of_upsert (lookup_upsertPrincipal db .service serviceId name true) hs

/-- A new user of a provisioning request is written together with its principal. -/
theorem callEffect_provisionUserWithRoles {salt id : String} {new : NewUser} {user : User}
    {roleIds roleNames : List String}
    (h : provisionUserWithRoles crates db salt id new roleIds roleNames = .ok (user, db')) :
    CallEffect db db' refresh k := by
  obtain ⟨users, principals, userRoles, principalRoles, hinsert, hprincipal, rfl, -⟩ :=
    storeProvisionedUser_eq_ok (storeProvisionedUser_of_provision h).1
  refine .of_upsert (o := (.user, id)) (fun _ => lookup_insert hprincipal) fun t refId => ?_
  rw [← setsOwner_insertUser hinsert t refId]
  cases t <;> rfl

/-- A promotion mirrors the row it has locked. -/
theorem callEffect_promoteUserToInternalEmployee {userId : String}
    (h : promoteUserToInternalEmployee db userId = .ok db') : CallEffect db db' refresh k := by
  unfold promoteUserToInternalEmployee at h
  split at h
  · cases h
    exact .refl
  rename_i user huser
  obtain rfl : user.id = userId := (lookup_eq_some_iff.1 huser).2
  split at h
  · cases h
  cases h
  have hs : SetsOwner db
      { db with users := db.users.update (fun u => u.id == user.id) setInternalEmployee }
      (.user, user.id) _ :=
    setsOwner_user rfl rfl (lookup_update_of_key (fun _ => rfl)
      (fun _ hu => by simpa using hu) huser
      (by simp))
  have hlookup := lookup_upsertPrincipal
    { db with users := db.users.update (fun u => u.id == user.id) setInternalEmployee }
    .user user.id user.username user.active
  refine .of_upsert (o := (.user, user.id)) hlookup fun t refId => ?_
  refine Eq.trans ?_ (hs t refId)
  cases t <;> rfl

/-- A user is deleted together with its principal. -/
theorem callEffect_deleteUser (userId : String) :
    CallEffect db (deleteUser db userId) refresh k := by
  unfold deleteUser
  split
  · exact .refl
  dsimp only
  split
  · exact .refl
  refine .of_mirror (o := (.user, userId)) (v := none) (fun k hk => ?_) ?_
    (mirrored_of_none (lookup_delete_of_forall fun p hp => ?_))
  · refine lookup_delete_of_forall_not fun p hp => ?_
    by_contra hsel
    simp only [Bool.not_eq_false, Bool.and_eq_true, beq_iff_eq] at hsel
    exact hk (hp.symm.trans (Prod.ext_iff.2 hsel))
  · refine setsOwner_user (x := none) rfl rfl fun id => ?_
    split_ifs with hid
    · exact lookup_delete_of_forall fun u hu => by simp [hu, hid]
    · exact lookup_delete_of_forall_not fun u hu => by simp [hu, Ne.symm hid]
  · obtain ⟨htype, href⟩ := Prod.ext_iff.1 hp
    simp [show p.principalType = .user from htype, show p.refId = userId from href]

theorem callEffect_createClient (howned : Owned db) {clientId secret name : String}
    {description : Option String} (h : createClient db clientId secret name description = .ok db') :
    CallEffect db db' refresh k := by
  obtain ⟨hp, hs⟩ := insertClient_eq_ok h
  refine .of_mirror (fun k _ => by rw [hp]) hs (mirrored_of_none ?_)
  rw [hp]
  by_contra hsome
  have howner := howned (.client, clientId) (by simp) (Option.isSome_iff_ne_none.2 hsome)
  unfold createClient insertClient at h
  split at h
  · cases h
  rename_i clients hinsert
  obtain ⟨c, hc⟩ := Option.isSome_iff_exists.1
    (show (db.clients.lookup Client.id clientId).isSome by simpa [readOwner] using howner)
  obtain ⟨hmem, hid⟩ := lookup_eq_some_iff.1 hc
  have hclash := exists_insert_iff.1 ⟨_, hinsert⟩ c hmem
  simp [clash, hid] at hclash

theorem readOwner_updateServiceClientAsOrganizationManager {o actor serviceId : String}
    {name : Option String} {active : Option Bool}
    (hsteady : steadyCall db
      (.updateServiceClientAsOrganizationManager o actor serviceId name active) = true)
    (h : updateServiceClientAsOrganizationManager db o actor serviceId name active = .ok db') :
    db'.principals = db.principals ∧ ∀ t refId, readOwner db' t refId = readOwner db t refId := by
  unfold updateServiceClientAsOrganizationManager at h
  split at h
  · cases h
  cases h
  refine ⟨rfl, fun t refId => ?_⟩
  cases t with
  | user | client | device => rfl
  | service =>
    have hupdate : (db.serviceClients.update
        (fun s => s.serviceId == serviceId && s.organizationId == some o)
        (changeService name active)).lookup ServiceClient.serviceId refId = _ :=
      lookup_update fun _ => rfl
    simp only [readOwner, hupdate]
    cases hl : db.serviceClients.lookup ServiceClient.serviceId refId with
    | none => rfl
    | some s =>
      have hid : s.serviceId = refId := (lookup_eq_some_iff.1 hl).2
      simp only [Option.map_some]
      split_ifs with hsel
      · simp only [Bool.and_eq_true, beq_iff_eq] at hsel
        obtain rfl : refId = serviceId := hid.symm.trans hsel.1
        simp only [steadyCall, hl, Option.all_some, Bool.and_eq_true] at hsteady
        obtain ⟨⟨hname, hactive⟩, -⟩ := hsteady
        cases name <;> cases active <;> simp_all [changeService]
      · rfl

/-- A steady call leaves the owner and its principal alone, leaves them in agreement, or refreshes
the principal next. -/
theorem callEffect (crates : Crates) (howned : Owned db) (c : Call)
    (hsteady : steadyCall db c = true) (k : Owner) :
    CallEffect db (transaction crates db c).1 (transaction crates db c).2 k := by
  cases c with
  | createUser salt id new =>
    simp only [transaction]
    cases h : insertUser crates db salt id new with
    | error => exact .refl
    | ok =>
      obtain ⟨-, -, -, -, users, -, hdb'⟩ := insertUser_eq_ok h
      exact .of_refresh (by simp [thenRefresh, Except.map, hdb']) (setsOwner_insertUser h) rfl
  | updateUser =>
    simp only [transaction]
    split
    · exact .refl
    · rename_i h
      rw [updateUserRow_eq_ok_none h]
      exact .refl
    · rename_i h
      obtain ⟨-, -, _, _, _, _, _, -, -, -, hdb'⟩ := updateUserRow_eq_ok h
      exact .of_refresh (by rw [hdb']) (setsOwner_updateUserRow h) rfl
  | setUserActive userId active =>
    simp only [steadyCall, Bool.and_eq_true] at hsteady
    cases hl : db.users.lookup User.id userId with
    | none =>
      simp only [transaction, setUserActive, hl]
      exact .refl
    | some user =>
      obtain ⟨hp, hs⟩ := setUserActive_eq hl active
      refine .kept (by rw [transaction, hp]) ((hs k.1 k.2).trans ?_)
      split_ifs with hk
      · have hactive : user.active = active := by simpa [hl] using hsteady.1
        rw [show k = (.user, userId) from hk]
        simp [readOwner, hl, hactive]
      · rfl
  | deleteUser userId => exact callEffect_deleteUser userId
  | promoteUserToInternalEmployee =>
    exact .of_alone fun _ => callEffect_promoteUserToInternalEmployee
  | provisionUserWithRoles salt id new roleIds roleNames =>
    simp only [transaction]
    cases h : provisionUserWithRoles crates db salt id new roleIds roleNames with
    | error => exact .refl
    | ok => exact callEffect_provisionUserWithRoles h
  | createClient => exact .of_alone fun _ => callEffect_createClient howned
  | upsertClient clientId secret name description =>
    exact .of_refresh rfl (setsOwner_upsertClient db clientId secret name description) rfl
  | seedAdminClient clientId secret =>
    exact .of_refresh rfl (setsOwner_seedAdminClient db clientId secret) rfl
  | createManagementClient clientId secret name description active =>
    simp only [transaction]
    cases h : createManagementClient db clientId secret name description active with
    | error => exact .refl
    | ok => exact .of_refresh (insertClient_eq_ok h).1 (insertClient_eq_ok h).2 rfl
  | updateManagementClient =>
    simp only [transaction]
    split
    · exact .refl
    · rename_i client h
      exact .of_refresh rfl (setsOwner_updateManagementClient h) rfl
  | rotateClientSecret =>
    simp only [transaction]
    split
    · exact .refl
    · rename_i client h
      exact .of_refresh rfl (setsOwner_rotateClientSecret h) rfl
  | createServiceClient =>
    refine .of_alone fun _ h => ?_
    obtain ⟨scope, hinsert⟩ := createServiceClient_eq_ok h
    exact callEffect_insertServiceClient hinsert
  | createServiceClientAsOrganizationManager =>
    exact .of_alone fun _ h =>
      callEffect_insertServiceClient (createServiceClientAsOrganizationManager_eq_ok h)
  | updateServiceClient =>
    simp only [transaction]
    split
    · exact .refl
    · rename_i service h
      exact .of_refresh rfl (setsOwner_updateServiceClient h) rfl
  | updateServiceClientAsOrganizationManager =>
    refine .of_alone fun _ h => ?_
    obtain ⟨hp, hread⟩ := readOwner_updateServiceClientAsOrganizationManager hsteady h
    exact .kept (by rw [hp]) (hread k.1 k.2)
  | rotateServiceSecret =>
    simp only [transaction]
    split <;> exact .refl
  | ensureUserPrincipal | ensureClientPrincipal | ensureServicePrincipal => exact .refl

end Keylo.Lifecycle
