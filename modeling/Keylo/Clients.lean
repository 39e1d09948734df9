import Keylo.Principals

/-!
# Clients

The functions of `db/mod.rs` that write clients. All but `createClient` refresh the principal of
the client afterwards; as for users, only the statement on the row is given here. The secret that
a statement stores is the hash its function has computed before.

## Main definitions

* `createClient`, `upsertClient`, `seedAdminClient`, `createManagementClient`,
  `updateManagementClient`, `rotateClientSecret`.

## Main results

* `setsOwner_upsertClient`, `setsOwner_updateManagementClient`, … : what the statements do to the
  name and the flag of a client.
-/

namespace Keylo

open Relational Table

variable (db : Db)

/-- An insert into `clients`. -/
def insertClient (client : Client) : Except String Db :=
  match db.clients.insert client with
  | none => .error uniqueViolation
  | some clients => .ok { db with clients := clients }

variable (clientId secret name : String) (description : Option String)

/-- The principal is left to the first token of the client. -/
def createClient : Except String Db :=
  insertClient db { id := clientId, secret := secret, name := name, description := description }

/-- The `SET` clause of `upsert_client`. -/
def reviveClient (secret name : String) (description : Option String) : Assignment Client :=
  ⟨fun c => { c with secret := secret, name := name, description := description, active := true },
    fun _ _ => rfl⟩

def upsertClient : Db :=
  { db with
    clients := db.clients.upsert
      { id := clientId, secret := secret, name := name, description := description, active := true }
      (reviveClient secret name description) }

/-- The `SET` clause for the configured admin client. -/
def reviveAdminClient (secret : String) : Assignment Client :=
  ⟨fun c =>
      { c with
        secret := secret
        name := "Admin Client"
        description := some "Configured admin client"
        active := true
        isAdminClient := true },
    fun _ _ => rfl⟩

/-- The admin client of `seed_default_clients_with_admin`. -/
def seedAdminClient (clientId secret : String) : Db :=
  { db with
    clients := db.clients.upsert
      { id := clientId
        secret := secret
        name := "Admin Client"
        description := some "Configured admin client"
        active := true
        isAdminClient := true }
      (reviveAdminClient secret) }

def createManagementClient (active : Bool) : Except String Db :=
  insertClient db
    { id := clientId
      secret := secret
      name := name
      description := description
      active := active
      isAdminClient := true }

/-- The `SET` clause of `update_management_client`. -/
def changeClient (secret name description : Option String) (active : Option Bool) :
    Assignment Client :=
  ⟨fun c =>
      { c with
        secret := secret.getD c.secret
        name := name.getD c.name
        description := description.or c.description
        active := active.getD c.active },
    fun _ _ => rfl⟩

def updateManagementClient (clientId : String) (secret name description : Option String)
    (active : Option Bool) : Db :=
  { db with
    clients := db.clients.update (fun c => c.id == clientId)
      (changeClient secret name description active) }

/-- `SET secret = $2`. -/
def replaceSecret (secret : String) : Assignment Client :=
  ⟨fun c => { c with secret := secret }, fun _ _ => rfl⟩

/-- Whether a row was changed, and the database after the statement. -/
def rotateClientSecret (clientId secret : String) : Bool × Db :=
  let isActive := fun c : Client => c.id == clientId && c.active
  (db.clients.any isActive,
    { db with clients := db.clients.update isActive (replaceSecret secret) })

/-! ### The owner after a statement -/

variable {db} {db' : Db} {clientId : String} {client : Client}

theorem insertClient_eq_ok (h : insertClient db client = .ok db') :
    db'.principals = db.principals ∧
      SetsOwner db db' (.client, client.id) (some (client.name, client.active)) := by
  unfold insertClient at h
  split at h
  · cases h
  rename_i clients hinsert
  cases h
  exact ⟨rfl, setsOwner_client (x := some client) rfl rfl fun _ =>
    lookup_insert hinsert⟩

/-- An upsert that revives a client leaves it with the inserted name and flag. -/
theorem setsOwner_upsert (db : Db) (client : Client) (f : Assignment Client)
    (hid : ∀ c, (f.apply c).id = c.id)
    (hf : ∀ c, ((f.apply c).name, (f.apply c).active) = (client.name, client.active)) :
    SetsOwner db { db with clients := db.clients.upsert client f } (.client, client.id)
      (some (client.name, client.active)) := by
  intro t refId
  have hlookup := lookup_upsert (t := db.clients) (k := refId) (r := client) hid
    (fun _ _ h => by simpa [clash] using h)
  cases t with
  | client =>
    simp only [readOwner, hlookup, Prod.mk.injEq, true_and, eq_comm (a := refId)]
    split_ifs
    · cases db.clients.lookup Client.id refId <;> simp [hf]
    · rfl
  | user | service | device => simp [readOwner]

theorem setsOwner_upsertClient (db : Db) (clientId secret name : String)
    (description : Option String) :
    SetsOwner db (upsertClient db clientId secret name description) (.client, clientId)
      (some (name, true)) :=
  setsOwner_upsert db _ (reviveClient secret name description) (fun _ => rfl) fun _ => rfl

theorem setsOwner_seedAdminClient (db : Db) (clientId secret : String) :
    SetsOwner db (seedAdminClient db clientId secret) (.client, clientId)
      (some ("Admin Client", true)) :=
  setsOwner_upsert db _ (reviveAdminClient secret) (fun _ => rfl) fun _ => rfl

theorem setsOwner_updateManagementClient {secret name description : Option String}
    {active : Option Bool} (h : db.clients.lookup Client.id clientId = some client) :
    SetsOwner db (updateManagementClient db clientId secret name description active)
      (.client, clientId) (some (name.getD client.name, active.getD client.active)) :=
  setsOwner_client (x := some ((changeClient secret name description active).apply client)) rfl rfl
    (lookup_update_of_key (fun _ => rfl) (fun _ hc => by simpa using hc) h
      (by simpa using (lookup_eq_some_iff.1 h).2))

theorem setsOwner_rotateClientSecret {secret : String}
    (h : (db.clients.lookup Client.id clientId).filter Client.active = some client) :
    SetsOwner db (rotateClientSecret db clientId secret).2 (.client, clientId)
      (some (client.name, client.active)) := by
  obtain ⟨hlookup, hactive⟩ := Option.filter_eq_some_iff.1 h
  exact setsOwner_client (x := some ((replaceSecret secret).apply client)) rfl rfl
    (lookup_update_of_key (fun _ => rfl) (fun _ hc => (by simpa using hc : _ ∧ _).1) hlookup
      (by simpa using ⟨(lookup_eq_some_iff.1 hlookup).2, hactive⟩))

end Keylo
