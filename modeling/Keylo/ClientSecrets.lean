import Keylo.Clients
import Keylo.Foundation.System
import Keylo.Users

/-!
# Client secrets across restarts

Administrators rotate the secrets of clients and disable them. Every start of the server seeds
the default clients again: the client `web` gets the secret it was shipped with and is enabled,
and so is the configured admin client with the secret of the configuration. For the admin client
this is intended; for `web` it undoes what an administrator has done.

## Main definitions

* `seedDefaultClientsWithAdmin`, `initializeDatabase` : what a start does to the clients.
* `clientAuthenticates` : a secret is accepted for a client.
* `ClientSecrets.system` : sequences of rotations, updates and restarts.

## Main results

* `ClientSecrets.administration_survives_restarts` : for all other clients a rotated secret stays
  unusable and a disabled client stays disabled.
-/

namespace Keylo

open Relational Table

variable (crates : Crates) (db : Db)

/-- The principal of a client after `ensure_client_principal`. -/
def refreshClientPrincipal (clientId : String) : Db := (ensureClientPrincipal db clientId).getD db

/-- The default client of `seed_default_clients_with_admin`. -/
def seedWebClient (secret : String) : Db :=
  upsertClient db "web" secret "Web Client" (some "Default web client")

/-- The statements of the seed, each with the refresh of the principal, up to the first that
fails. -/
def seedDefaultClientsWithAdmin (webSalt adminSalt : String)
    (adminClientId adminClientSecret : Option String) : Except String Unit × Db :=
  match crates.bcryptHash webSalt "web-secret" with
  | none => (.error hashFailure, db)
  | some webHash =>
    let db := refreshClientPrincipal (seedWebClient db webHash) "web"
    match adminClientId, adminClientSecret with
    | some id, some secret =>
      match crates.bcryptHash adminSalt secret with
      | none => (.error hashFailure, db)
      | some hash => (.ok (), refreshClientPrincipal (seedAdminClient db id hash) id)
    | _, _ => (.ok (), db)

/-- The part of the configuration that the seed reads. -/
structure SeedConfig where
  adminClientId : Option String := none
  adminClientSecret : Option String := none

variable (config : SeedConfig)

/-- `seed_default_clients`: the seed with the admin client of the configuration. -/
def seedDefaultClients (webSalt adminSalt : String) : Except String Unit × Db :=
  seedDefaultClientsWithAdmin crates db webSalt adminSalt config.adminClientId
    config.adminClientSecret

/-- The clients after `initialize_database`; the migrations, the bootstrap of the super
administrator and the cleanup of the logs do not write this table. -/
def initializeDatabase (webSalt adminSalt : String) : Db :=
  (seedDefaultClients crates db config webSalt adminSalt).2

/-- The stored secret of an active client, and whether it is an admin client. -/
def getClientAuthInfo (clientId : String) : Option (String × Bool) :=
  ((db.clients.lookup Client.id clientId).filter Client.active).map fun c =>
    (c.secret, c.isAdminClient)

/-- The secret is accepted for the client. -/
def clientAuthenticates (clientId secret : String) : Bool :=
  match getClientAuthInfo db clientId with
  | none => false
  | some (stored, _) => (crates.bcryptVerify secret stored).getD false

namespace ClientSecrets

/-! ### Administration and restarts -/

/-- The operations that set or discard the secret of a client, and restarts. -/
inductive Operation
  | rotateClientSecret (salt clientId newSecret : String)
  | updateManagementClient (salt clientId : String) (clientSecret name description : Option String)
      (active : Option Bool)
  | restart (webSalt adminSalt : String)
deriving Repr

/-- The database after an operation. An update without a new secret hashes nothing. -/
def perform : Operation → Db
  | .rotateClientSecret salt clientId newSecret =>
    match crates.bcryptHash salt newSecret with
    | none => db
    | some hash =>
      match rotateClientSecret db clientId hash with
      | (false, db) => db
      | (true, db) => refreshClientPrincipal db clientId
  | .updateManagementClient salt clientId clientSecret name description active =>
    match clientSecret.mapM (crates.bcryptHash salt) with
    | none => db
    | some hash =>
      let db' := updateManagementClient db clientId hash name description active
      if db.clients.any fun c => c.id == clientId then refreshClientPrincipal db' clientId else db'
  | .restart webSalt adminSalt => initializeDatabase crates db config webSalt adminSalt

def system : Transition.System Db Operation where
  step db operation := some (perform crates db config operation)

/-- The client whose secret the operation sets, and the hash it stores. -/
def storedHash : Operation → Option (String × String)
  | .rotateClientSecret salt clientId newSecret =>
    (crates.bcryptHash salt newSecret).map fun hash => (clientId, hash)
  | .updateManagementClient salt clientId clientSecret _ _ _ =>
    (clientSecret.bind (crates.bcryptHash salt)).map fun hash => (clientId, hash)
  | .restart _ _ => none

/-- The client that an administrator enables or disables, and the new flag. -/
def setFlag : Operation → Option (String × Bool)
  | .updateManagementClient _ clientId _ _ _ active => active.map fun flag => (clientId, flag)
  | .rotateClientSecret _ _ _ => none
  | .restart _ _ => none

/-- No secret is set for the client whose hash would accept `secret`. -/
def Discards (clientId secret : String) (operation : Operation) : Prop :=
  ∀ hash, storedHash crates operation = some (clientId, hash) →
    crates.bcryptVerify secret hash ≠ some true

/-- The client is not enabled by an administrator. -/
def LeavesDisabled (clientId : String) (operation : Operation) : Prop :=
  setFlag operation ≠ some (clientId, true)

/-- The operation is no restart that seeds the client again: `web`, and the configured admin
client if its secret is configured too. -/
def Spares (clientId : String) : Operation → Prop
  | .restart _ _ =>
    clientId ≠ "web" ∧ (config.adminClientId = some clientId → config.adminClientSecret = none)
  | _ => True

/-! ### What an operation does to one client -/

variable {crates db} {config : SeedConfig} {clientId secret id : String} {operation : Operation}
  {c c' : Client} {f : Assignment Client}

@[simp] theorem clients_refreshClientPrincipal :
    (refreshClientPrincipal db id).clients = db.clients := by
  unfold refreshClientPrincipal ensureClientPrincipal ensurePrincipal
  cases readOwner db .client id <;> rfl

/-- The row of a client after an operation comes from its row before, with the secret and the flag
of the operation if it set them. -/
def ChangedBy (crates : Crates) (operation : Operation) (c c' : Client) : Prop :=
  (c'.secret = c.secret ∨ storedHash crates operation = some (c.id, c'.secret)) ∧
    (c'.active = c.active ∨ setFlag operation = some (c.id, c'.active))

theorem lookup_upsert_of_ne {client : Client} (hf : ∀ c, (f.apply c).id = c.id)
    (h : clientId ≠ client.id) :
    (db.clients.upsert client f).lookup Client.id clientId =
      db.clients.lookup Client.id clientId := by
  rw [lookup_upsert hf fun _ _ hclash => by simpa [clash] using hclash, if_neg h.symm]

/-- A restart leaves all clients but the default ones alone. -/
theorem lookup_initializeDatabase {webSalt adminSalt : String}
    (hspares : Spares config clientId (.restart webSalt adminSalt)) :
    (initializeDatabase crates db config webSalt adminSalt).clients.lookup Client.id clientId =
      db.clients.lookup Client.id clientId := by
  simp only [initializeDatabase, seedDefaultClients, seedDefaultClientsWithAdmin]
  split
  · rfl
  rename_i webHash _
  have hseeded : (refreshClientPrincipal (seedWebClient db webHash) "web").clients.lookup
      Client.id clientId = db.clients.lookup Client.id clientId := by
    rw [clients_refreshClientPrincipal]
    exact lookup_upsert_of_ne (fun _ => rfl) hspares.1
  split
  · rename_i id _ hid hsecret
    split
    · exact hseeded
    rw [clients_refreshClientPrincipal, ← hseeded]
    refine lookup_upsert_of_ne (fun _ => rfl) fun heq => ?_
    have hnone := hspares.2 (by rw [hid, heq])
    rw [hsecret] at hnone
    cases hnone
  · exact hseeded

/-- A statement that changes clients by their flag or secret changes the row found. -/
theorem exists_of_lookup_update {p : Client → Bool} (hf : ∀ c, (f.apply c).id = c.id)
    (h : (db.clients.update p f).lookup Client.id clientId = some c') :
    ∃ c, db.clients.lookup Client.id clientId = some c ∧ c.id = clientId ∧
      c' = if p c then f.apply c else c := by
  rw [lookup_update hf, Option.map_eq_some_iff] at h
  obtain ⟨c, hc, rfl⟩ := h
  exact ⟨c, hc, (lookup_eq_some_iff.1 hc).2, rfl⟩

variable {salt newSecret : String}

theorem clients_perform_rotateClientSecret {hash : String}
    (hhash : crates.bcryptHash salt newSecret = some hash) :
    (perform crates db config (.rotateClientSecret salt id newSecret)).clients =
      (rotateClientSecret db id hash).2.clients := by
  simp only [perform, hhash]
  split <;> simp_all

theorem clients_perform_updateManagementClient {clientSecret name description hash : Option String}
    {active : Option Bool} (hhash : clientSecret.mapM (crates.bcryptHash salt) = some hash) :
    (perform crates db config
        (.updateManagementClient salt id clientSecret name description active)).clients =
      (updateManagementClient db id hash name description active).clients := by
  simp only [perform, hhash]
  split <;> simp

theorem lookup_perform (hspares : Spares config clientId operation)
    (h : (perform crates db config operation).clients.lookup Client.id clientId = some c') :
    ∃ c, db.clients.lookup Client.id clientId = some c ∧
      ChangedBy crates operation c c' := by
  cases operation with
  | rotateClientSecret salt id newSecret =>
    cases hhash : crates.bcryptHash salt newSecret with
    | none =>
      simp only [perform, hhash] at h
      exact ⟨c', h, .inl rfl, .inl rfl⟩
    | some =>
      rw [clients_perform_rotateClientSecret hhash] at h
      obtain ⟨c, hc, hid, rfl⟩ := exists_of_lookup_update (fun _ => rfl) h
      refine ⟨c, hc, ?_⟩
      split_ifs with hp
      · simp only [Bool.and_eq_true, beq_iff_eq] at hp
        exact ⟨.inr (by simp [storedHash, hhash, hp.1, replaceSecret]), .inl rfl⟩
      · exact ⟨.inl rfl, .inl rfl⟩
  | updateManagementClient salt id clientSecret name description active =>
    cases hhash : clientSecret.mapM (crates.bcryptHash salt) with
    | none =>
      simp only [perform, hhash] at h
      exact ⟨c', h, .inl rfl, .inl rfl⟩
    | some =>
      rw [clients_perform_updateManagementClient hhash] at h
      obtain ⟨c, hc, hid, rfl⟩ := exists_of_lookup_update (fun _ => rfl) h
      refine ⟨c, hc, ?_⟩
      split_ifs with hp
      · obtain rfl : c.id = id := by simpa using hp
        constructor
        · cases clientSecret with
          | none =>
            cases hhash
            exact .inl rfl
          | some =>
            rw [Option.mapM_some, Option.map_eq_map, Option.map_eq_some_iff] at hhash
            obtain ⟨newHash, hnew, rfl⟩ := hhash
            exact .inr (by simp [storedHash, hnew, changeClient])
        · cases active with
          | none => exact .inl rfl
          | some => exact .inr rfl
      · exact ⟨.inl rfl, .inl rfl⟩
  | restart =>
    refine ⟨c', ?_, .inl rfl, .inl rfl⟩
    rw [← h]
    exact (lookup_initializeDatabase hspares).symm

/-! ### Rotated secrets and disabled clients -/

/-- The stored secret of the client does not accept `secret`. -/
def Refuses (crates : Crates) (clientId secret : String) (db : Db) : Prop :=
  ∀ c, db.clients.lookup Client.id clientId = some c →
    crates.bcryptVerify secret c.secret ≠ some true

/-- The client is not active. -/
def Disabled (clientId : String) (db : Db) : Prop :=
  ∀ c, db.clients.lookup Client.id clientId = some c → c.active = false

theorem Refuses.not_authenticates (h : Refuses crates clientId secret db) :
    clientAuthenticates crates db clientId secret = false := by
  unfold clientAuthenticates
  split
  · rfl
  rename_i stored isAdmin hinfo
  obtain ⟨c, hc, heq⟩ := Option.map_eq_some_iff.1 hinfo
  have hrefused := h c (Option.filter_eq_some_iff.1 hc).1
  cases heq
  cases hverify : crates.bcryptVerify secret c.secret with
  | none => rfl
  | some accepted =>
    cases accepted
    · rfl
    · exact absurd hverify hrefused

theorem Refuses.perform (hspares : Spares config clientId operation)
    (h : Refuses crates clientId secret db) (hop : Discards crates clientId secret operation) :
    Refuses crates clientId secret (perform crates db config operation) := by
  intro c' hc'
  obtain ⟨c, hc, hsecret | hsecret, -⟩ := lookup_perform hspares hc'
  · exact hsecret ▸ h c hc
  · rw [(lookup_eq_some_iff.1 hc).2] at hsecret
    exact hop c'.secret hsecret

theorem Disabled.perform (hspares : Spares config clientId operation)
    (h : Disabled clientId db) (hop : LeavesDisabled clientId operation) :
    Disabled clientId (perform crates db config operation) := by
  intro c' hc'
  obtain ⟨c, hc, -, hactive | hactive⟩ := lookup_perform hspares hc'
  · exact hactive.trans (h c hc)
  rw [(lookup_eq_some_iff.1 hc).2] at hactive
  cases hflag : c'.active with
  | false => rfl
  | true => exact absurd (hflag ▸ hactive) hop

/-- A rotation of an active client leaves no hash that accepts a discarded secret. -/
theorem refuses_of_rotation (hactive : (getClientAuthInfo db clientId).isSome)
    (hhash : (crates.bcryptHash salt newSecret).isSome)
    (hop : Discards crates clientId secret (.rotateClientSecret salt clientId newSecret)) :
    Refuses crates clientId secret
      (perform crates db config (.rotateClientSecret salt clientId newSecret)) := by
  intro c' hc'
  obtain ⟨hash, hhash⟩ := Option.isSome_iff_exists.1 hhash
  rw [clients_perform_rotateClientSecret hhash] at hc'
  obtain ⟨c, hc, hid, rfl⟩ := exists_of_lookup_update (fun _ => rfl) hc'
  have hactive : c.active = true := by
    simpa [getClientAuthInfo, hc, Option.isSome_filter] using hactive
  rw [if_pos (by simp [hid, hactive])]
  exact hop hash (by simp [storedHash, hhash])

theorem disabled_of_update {clientSecret name description : Option String}
    (hhash : (clientSecret.mapM (crates.bcryptHash salt)).isSome) :
    Disabled clientId (perform crates db config
      (.updateManagementClient salt clientId clientSecret name description (some false))) := by
  intro c' hc'
  obtain ⟨hash, hhash⟩ := Option.isSome_iff_exists.1 hhash
  rw [clients_perform_updateManagementClient hhash] at hc'
  obtain ⟨c, hc, hid, rfl⟩ := exists_of_lookup_update (fun _ => rfl) hc'
  rw [if_pos (by simp [hid])]
  rfl

/-- For a client that no restart seeds again: after a rotation a secret that was discarded is not
accepted again, and a client that was disabled stays so until it is enabled, whatever rotations,
updates and restarts follow. -/
theorem administration_survives_restarts :
    (∀ db salt newSecret secret operations,
      (getClientAuthInfo db clientId).isSome → (crates.bcryptHash salt newSecret).isSome →
      (system crates config).Along
        (fun _ operation _ =>
          Discards crates clientId secret operation ∧ Spares config clientId operation)
        db (.rotateClientSecret salt clientId newSecret :: operations) →
      (system crates config).Along
        (fun _ _ db' => clientAuthenticates crates db' clientId secret = false)
        db (.rotateClientSecret salt clientId newSecret :: operations)) ∧
    ∀ db salt clientSecret name description operations,
      (clientSecret.mapM (crates.bcryptHash salt)).isSome →
      (system crates config).Along
        (fun _ operation _ => LeavesDisabled clientId operation ∧ Spares config clientId operation)
        db (.updateManagementClient salt clientId clientSecret name description (some false) ::
          operations) →
      (system crates config).Along (fun _ _ db' => Disabled clientId db')
        db (.updateManagementClient salt clientId clientSecret name description (some false) ::
          operations) := by
  constructor
  · intro db salt newSecret secret operations hactive hhash hops
    obtain ⟨⟨hrotation, -⟩, hops⟩ := hops
    have hrefuses : Refuses crates clientId secret
        (perform crates db config (.rotateClientSecret salt clientId newSecret)) :=
      refuses_of_rotation hactive hhash hrotation
    refine ⟨hrefuses.not_authenticates, ?_⟩
    refine (system crates config).along_of_invariant ?_ hrefuses hops
    rintro db operation _ hrefuses ⟨hop, hspares⟩ ⟨⟩
    have hrefuses' := hrefuses.perform hspares hop
    exact ⟨hrefuses', hrefuses'.not_authenticates⟩
  · intro db salt clientSecret name description operations hhash hops
    obtain ⟨-, hops⟩ := hops
    have hdisabled : Disabled clientId (perform crates db config
        (.updateManagementClient salt clientId clientSecret name description (some false))) :=
      disabled_of_update hhash
    refine ⟨hdisabled, ?_⟩
    refine (system crates config).along_of_invariant ?_ hdisabled hops
    rintro db operation _ hdisabled ⟨hop, hspares⟩ ⟨⟩
    have hdisabled' : Disabled clientId (perform crates db config operation) :=
      hdisabled.perform hspares hop
    exact ⟨hdisabled', hdisabled'⟩

/-- A database with the default client and one other client, each with its first secret. -/
def twoClients : Db where
  clients := ⟨[{ id := "web", secret := "0$web-secret", name := "Web Client" },
    { id := "ops", secret := "0$first", name := "Operations" }], by decide⟩

theorem administration_survives_restarts_ops :
    Spares {} "ops" (.restart "2" "3") ∧
      (system .readable {}).Along
        (fun _ _ db' => clientAuthenticates .readable db' "ops" "first" = false)
        twoClients [.rotateClientSecret "1" "ops" "second", .restart "2" "3"] ∧
      (system .readable {}).Along (fun _ _ db' => Disabled "ops" db')
        twoClients [.updateManagementClient "1" "ops" none none none (some false),
          .restart "2" "3"] := by
  have hspares : Spares {} "ops" (.restart "2" "3") := ⟨by decide, by decide⟩
  obtain ⟨hrotated, hdisabled⟩ := @administration_survives_restarts .readable {} "ops"
  refine ⟨hspares, hrotated _ _ _ _ _ rfl rfl ⟨⟨?_, trivial⟩, ⟨?_, hspares⟩, trivial⟩,
    hdisabled _ _ _ _ _ _ rfl ⟨⟨?_, trivial⟩, ⟨?_, hspares⟩, trivial⟩⟩
  · rintro hash ⟨⟩
    decide
  · rintro hash ⟨⟩
  · rintro ⟨⟩
  · rintro ⟨⟩

/-- The default client gets its first secret back and is enabled again by the next restart. -/
theorem restart_restores_web_client :
    (∃ rotated restarted, (system .readable {}).run twoClients
        [.rotateClientSecret "1" "web" "second"] = some rotated ∧
      clientAuthenticates .readable rotated "web" "web-secret" = false ∧
      (system .readable {}).run rotated [.restart "2" "3"] = some restarted ∧
      clientAuthenticates .readable restarted "web" "web-secret" = true) ∧
    ∃ disabled restarted, (system .readable {}).run twoClients
        [.updateManagementClient "1" "web" none none none (some false)] = some disabled ∧
      getClientAuthInfo disabled "web" = none ∧
      (system .readable {}).run disabled [.restart "2" "3"] = some restarted ∧
      (getClientAuthInfo restarted "web").isSome = true := by
  exact ⟨⟨_, _, rfl, by decide, rfl, by decide⟩, ⟨_, _, rfl, by decide, rfl, by decide⟩⟩

end ClientSecrets

end Keylo
