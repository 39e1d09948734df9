import Mathlib.Data.Fintype.Basic
import Keylo.Oidc.Clients
import Keylo.Oidc.Exchange

/-!
# Codes and the configuration of their client

An authorization reads its client and validates the request against it; its code is inserted by a
later statement. A change of the client discards the codes it sees. Here the steps in between are
modelled: the `INSERT … SELECT` of a code reads the client and commits its row later, and a rotation
of a secret deletes the codes it sees and commits later. An update of a client holds the lock that
the foreign key of a new code waits for, and is one step.

The configurations of a client are counted (`History.generation`): an update that reconfigures the
client and a rotation of its secret begin a new one when they commit. A code is stamped with the
generation its authorization was validated under. If a client is reconfigured while an
authorization is on its way, the code outlives the configuration (`code_outlives_configuration`).
If not, every code that is exchanged belongs to the current generation
(`no_code_outlives_configuration`).

## Main definitions

* `protocol` : the statements of authorizations, exchanges, updates and rotations.
* `History` : the generations of clients and the stamps of codes.
* `Undisturbed` : no client is reconfigured while an authorization for it is on its way.

## Main results

* `change_of_next` : what a step can do.
* `Current.step` : codes and authorizations belong to the current generation.
* `no_code_outlives_configuration` : so do the codes that are exchanged.
-/

namespace Keylo.Oidc.Configuration

open Relational Transition Function Table

/-! ### Requests -/

/-- The next statement or transaction of a request. -/
inductive Task
  | endpoint (p : Phase)
  /-- The `INSERT` of a code has found a live context; its row becomes visible when it commits. -/
  | inserting (row : AuthorizationCodeRow) (rawCode : String)
  | update (clientId : String) (admin : ClientAdmin) (request : UpdateOidcClientRequest)
  | rotate (salt clientId : String) (admin : ClientAdmin) (newSecret : String)
  /-- A rotation has deleted the codes with the hashes `discarded`; both become visible when it
  commits. -/
  | rotating (clientId : String) (organizationId : Option String) (secretHash : String)
      (discarded : List String)
  | rotated
  | done
deriving DecidableEq

variable (S : Server) (a : Input) (db : Db)

/-- The `SELECT` of `create_authorization_code`. -/
def selectContext (request : AuthorizeRequest) (userId : String) (organizationId : Option String)
    (scopes : List String) : Task :=
  match a.fault with
  | some message => .endpoint (.redirected (.error (.databaseError message)))
  | none =>
    if contextIsActive db request.clientId organizationId userId then
      .inserting ⟨a.id, authorizationCodeHash S.crates a.code,
        authorizationOf request userId organizationId scopes db.clock, none⟩ a.code
    else .endpoint (.redirected (.error (.databaseError "oidc_client_user_context_inactive")))

/-- The `INSERT` of `create_authorization_code`. -/
def insertCode (row : AuthorizationCodeRow) (rawCode : String) : Db × Task :=
  match a.fault with
  | some message => (db, .endpoint (.redirected (.error (.databaseError message))))
  | none =>
    match db.authorizationCodes.insert row with
    | none => (db, .endpoint (.redirected (.error (.databaseError uniqueViolation))))
    | some codes => ({ db with authorizationCodes := codes }, .endpoint (.redirected (.ok rawCode)))

/-- The hashes of the pending codes of a client in its scope. -/
def pendingCodes (clientId : String) (organizationId : Option String) : List String :=
  (db.authorizationCodes.select fun row =>
    row.grant.clientId == clientId && row.grant.organizationId == organizationId &&
      row.consumedAt.isNone).map AuthorizationCodeRow.codeHash

/-- The statements of a rotation. -/
def rotate (salt clientId : String) (admin : ClientAdmin) (newSecret : String) : Task :=
  match a.fault, S.crates.bcryptHash salt newSecret, admin.lock db with
  | none, some secretHash, .ok () =>
    if rotatable db clientId admin.organizationId then
      .rotating clientId admin.organizationId secretHash
        (pendingCodes db clientId admin.organizationId)
    else .done
  | _, _, _ => .done

/-- The commit of a rotation. -/
def commitRotation (clientId : String) (organizationId : Option String) (secretHash : String)
    (discarded : List String) : Db :=
  let db' := writeOidcClient db clientId organizationId (setSecretHash secretHash)
  { db' with
    authorizationCodes := db'.authorizationCodes.delete fun row =>
      discarded.contains row.codeHash }

def next : Task → Option (Db × Task)
  | .endpoint (.authorizeCreate request userId organizationId scopes) =>
    some (db, selectContext S a db request userId organizationId scopes)
  | .endpoint p => (Oidc.next S a db p).map fun r => (r.1, .endpoint r.2)
  | .inserting row rawCode => some (insertCode a db row rawCode)
  | .update clientId admin request =>
    match a.fault with
    | some _ => some (db, .done)
    | none => some (commit db ((updateOidcClientScoped db clientId admin request).map Prod.snd),
        .done)
  | .rotate salt clientId admin newSecret =>
    some (db, rotate S a db salt clientId admin newSecret)
  | .rotating clientId organizationId secretHash discarded =>
    match a.fault with
    | some _ => some (db, .done)
    | none => some (commitRotation db clientId organizationId secretHash discarded, .rotated)
  | .rotated => none
  | .done => none

/-- A change of everything else the endpoints read, with the codes it discards, and a new
client. -/
structure Surroundings where
  elapsed : Nat := 0
  users : Table User
  principals : Table Principal
  organizations : Table Organization
  memberships : Table Membership
  client : Option OidcClient := none
  discarded : AuthorizationCodeRow → Bool

def Surroundings.apply (b : Surroundings) : Db :=
  { db with
    clock := db.clock + b.elapsed
    users := b.users
    principals := b.principals
    organizations := b.organizations
    memberships := b.memberships
    oidcClients := (b.client.bind db.oidcClients.insert).getD db.oidcClients
    authorizationCodes := db.authorizationCodes.delete b.discarded }

/-- All requests, interleaved with the changes around them. -/
def protocol (ι : Type*) : Protocol ι Db Task Input Surroundings where
  next _ a db := next S a db
  env b db := some (b.apply db)

/-- A request of one of the endpoints or of an administrator that has not been handled yet. -/
def Task.received : Task → Bool
  | .endpoint (.received _) | .update .. | .rotate .. => true
  | _ => false

/-! ### The statements as one transaction -/

variable {S a db} {organizationId : Option String} {row : AuthorizationCodeRow}
  {scopes : List String}

/-- If nothing happens in between, the two halves of the insertion are the statement. -/
theorem insertCode_selectContext {request : AuthorizeRequest} {userId : String} {rawCode : String}
    (h : selectContext S a db request userId organizationId scopes = .inserting row rawCode) :
    insertCode a db row rawCode =
      (fun r => (r.1, .endpoint r.2))
        (authorizeCreate S a db request userId organizationId scopes) := by
  unfold selectContext at h
  unfold insertCode authorizeCreate createAuthorizationCode
  split at h
  · cases h
  split_ifs at h with hlive
  cases h
  simp only [authorizationOf, hlive, if_true]
  split <;> simp_all

theorem contains_pendingCodes (clientId : String) (organizationId : Option String)
    (hrow : row ∈ db.authorizationCodes) :
    (pendingCodes db clientId organizationId).contains row.codeHash =
      (row.grant.clientId == clientId && row.grant.organizationId == organizationId &&
        row.consumedAt.isNone) := by
  rw [Bool.eq_iff_iff, List.contains_iff_mem, pendingCodes, List.mem_map]
  constructor
  · rintro ⟨row', hrow', hhash⟩
    obtain ⟨hmem, hp⟩ := mem_select.1 hrow'
    rwa [eq_of_key hmem hrow hhash] at hp
  · exact fun hp => ⟨row, mem_select.2 ⟨hrow, hp⟩, rfl⟩

variable {clientId : String} {secretHash : String} {discarded : List String} {admin : ClientAdmin}

/-! ### What a step does -/

/-- The next step of the request inserts a code. -/
def creates : Phase → Bool
  | .authorizeCreate .. => true
  | _ => false

/-- The steps of a request: the task before it, the database after it and the next task. -/
inductive Change (S : Server) (a : Input) (db : Db) : Task → Db → Task → Prop
  | endpoint {p p'} {db' : Db} (hp : creates p = false) (h : Effect S a db p db' p') :
      Change S a db (.endpoint p) db' (.endpoint p')
  | selected {request : AuthorizeRequest} {userId} {organizationId : Option String}
      {scopes : List String} :
      Change S a db (.endpoint (.authorizeCreate request userId organizationId scopes)) db
        (.inserting ⟨a.id, authorizationCodeHash S.crates a.code,
          authorizationOf request userId organizationId scopes db.clock, none⟩ a.code)
  | inserted {row : AuthorizationCodeRow} {rawCode codes}
      (h : db.authorizationCodes.insert row = some codes) :
      Change S a db (.inserting row rawCode) { db with authorizationCodes := codes }
        (.endpoint (.redirected (.ok rawCode)))
  | rejected {t : Task} {e} : Change S a db t db (.endpoint (.redirected (.error e)))
  | updated {clientId : String} {admin : ClientAdmin} {request : UpdateOidcClientRequest}
      {result} {db' : Db}
      (h : updateOidcClientScoped db clientId admin request = .ok (result, db')) :
      Change S a db (.update clientId admin request) db' .done
  | deleted {salt clientId newSecret secretHash : String} {admin : ClientAdmin}
      (h : rotatable db clientId admin.organizationId = true) :
      Change S a db (.rotate salt clientId admin newSecret) db
        (.rotating clientId admin.organizationId secretHash
          (pendingCodes db clientId admin.organizationId))
  | rotated {clientId secretHash : String} {organizationId : Option String}
      {discarded : List String} :
      Change S a db (.rotating clientId organizationId secretHash discarded)
        (commitRotation db clientId organizationId secretHash discarded) .rotated
  | failed {t : Task} : Change S a db t db .done

theorem change_selectContext (request : AuthorizeRequest) (userId : String)
    (organizationId : Option String) (scopes : List String) :
    Change S a db (.endpoint (.authorizeCreate request userId organizationId scopes)) db
      (selectContext S a db request userId organizationId scopes) := by
  unfold selectContext
  split
  · exact .rejected
  split_ifs
  · exact .selected
  · exact .rejected

variable (S a db) in
theorem change_insertCode (row : AuthorizationCodeRow) (rawCode : String) :
    Change S a db (.inserting row rawCode) (insertCode a db row rawCode).1
      (insertCode a db row rawCode).2 := by
  unfold insertCode
  split
  · exact .rejected
  split
  · exact .rejected
  case h_2 codes hcodes => exact .inserted hcodes

theorem change_rotate (salt clientId : String) (admin : ClientAdmin) (newSecret : String) :
    Change S a db (.rotate salt clientId admin newSecret) db
      (rotate S a db salt clientId admin newSecret) := by
  unfold rotate
  split
  · split_ifs with hrotatable
    · exact .deleted hrotatable
    · exact .failed
  · exact .failed

theorem change_update (clientId : String) (admin : ClientAdmin)
    (request : UpdateOidcClientRequest) :
    Change S a db (.update clientId admin request)
      (commit db ((updateOidcClientScoped db clientId admin request).map Prod.snd)) .done := by
  cases h : updateOidcClientScoped db clientId admin request with
  | error => exact .failed
  | ok => exact .updated h

variable {db' : Db} {t t' : Task}

theorem change_of_next (h : next S a db t = some (db', t')) : Change S a db t db' t' := by
  unfold next at h
  split at h
  case h_1 =>
    cases h
    exact change_selectContext ..
  case h_2 p hp =>
    obtain ⟨⟨db₁, p'⟩, hnext, heq⟩ := Option.map_eq_some_iff.1 h
    cases heq
    refine .endpoint ?_ (effect_of_next hnext)
    cases p <;> first | rfl | exact absurd rfl (hp _ _ _ _)
  case h_3 row rawCode =>
    have hchange := change_insertCode S a db row rawCode
    rwa [Option.some.inj h] at hchange
  case h_4 =>
    split at h
    · cases h
      exact .failed
    · cases h
      exact change_update ..
  case h_5 =>
    cases h
    exact change_rotate ..
  case h_6 =>
    split at h
    · cases h
      exact .failed
    · cases h
      exact .rotated
  case h_7 => cases h
  case h_8 => cases h

/-! ### Generations -/

variable {ι : Type*}

/-- The history of the configurations. -/
structure History (ι : Type*) where
  /-- The number of configurations a client has had before. -/
  generation : String → Nat
  /-- The generation of the client when the authorization of a request was validated. -/
  validated : ι → Nat
  /-- The generation a code was validated under, by its hash. -/
  stamp : String → Nat

/-- The configurations at the beginning of a run. -/
def History.initial : History ι := ⟨fun _ => 0, fun _ => 0, fun _ => 0⟩

/-- A client begins a new configuration. -/
def History.advance (h : History ι) (clientId : String) : History ι :=
  { h with generation := Function.update h.generation clientId (h.generation clientId + 1) }

/-- The client has been reconfigured between two states of the database. -/
def reconfigured (db db' : Db) (clientId : String) : Bool :=
  match db.oidcClients.lookup OidcClient.clientId clientId,
      db'.oidcClients.lookup OidcClient.clientId clientId with
  | some previous, some client => reconfigures previous client
  | _, _ => false

theorem reconfigured_self (db : Db) (clientId : String) : reconfigured db db clientId = false := by
  unfold reconfigured
  split
  case h_1 previous client hprevious hclient =>
    rw [hprevious] at hclient
    cases hclient
    simp [reconfigures]
  case h_2 => rfl

variable [DecidableEq ι]

/-- The history after a step of the request `i` from one task to the next. -/
def History.recordTask (h : History ι) (i : ι) (db db' : Db) : Task → Task → History ι
  | .endpoint (.received (.authorize request _)), .endpoint (.authorizeContext ..) =>
    { h with validated := Function.update h.validated i (h.generation request.clientId) }
  | .inserting row _, .endpoint (.redirected (.ok _)) =>
    { h with stamp := Function.update h.stamp row.codeHash (h.validated i) }
  | .update clientId .., .done => if reconfigured db db' clientId then h.advance clientId else h
  | .rotating clientId .., .rotated => h.advance clientId
  | _, _ => h

section

variable (h : History ι) (i : ι) (t : Task)

theorem History.recordTask_rejected (db db' : Db) (e : AuthError) :
    h.recordTask i db db' t (.endpoint (.redirected (.error e))) = h := by
  unfold recordTask
  split <;> first | rfl | (rename_i heq; cases heq)

theorem History.recordTask_exchanged (db db' : Db)
    (r : Except OidcProtocolError OidcTokenResponse) :
    h.recordTask i db db' t (.endpoint (.exchanged r)) = h := by
  unfold recordTask
  split <;> first | rfl | (rename_i heq; cases heq)

theorem History.recordTask_done (db : Db) : h.recordTask i db db t .done = h := by
  unfold recordTask
  split <;> first | rfl | contradiction | simp [reconfigured_self]

end

/-- The history after a step. -/
def History.record (h : History ι) (c : Config ι Db Task) :
    Action ι Input Surroundings → Config ι Db Task → History ι
  | .environment _, _ => h
  | .request i _, c' => h.recordTask i c.shared c'.shared (c.request i) (c'.request i)

/-- The step exchanges a code that was validated under an earlier configuration of its client. -/
def exchangesStale (C : Crates) (s : Config ι Db Task × History ι) :
    Action ι Input Surroundings → Config ι Db Task × History ι → Bool
  | .environment _, _ => false
  | .request i _, s' =>
    match s.1.request i, s'.1.request i with
    | .endpoint (.tokenConsume request clientId _), .endpoint (.tokenUser ..) =>
      s.2.stamp (authorizationCodeHash C request.code) != s.2.generation clientId
    | _, _ => false

/-! ### Undisturbed authorizations -/

/-- The client, with its scope, of an authorization that has read it and has not committed its
code. -/
def Task.authorizes : Task → Option (String × Option String)
  | .endpoint (.authorizeContext request _ organizationId _)
  | .endpoint (.authorizeCreate request _ organizationId _) =>
    some (request.clientId, organizationId)
  | .inserting row _ => some (row.grant.clientId, row.grant.organizationId)
  | _ => none

/-- The client that an authorization is about to read. -/
def Task.reads : Task → Option String
  | .endpoint (.received (.authorize request _)) => some request.clientId
  | _ => none

/-- The client of a rotation that has not committed. -/
def Task.rotates : Task → Option String
  | .rotating clientId .. => some clientId
  | _ => none

/-- The client that the next step reconfigures, or whose codes it deletes for a new secret. -/
def Task.disturbs (db : Db) : Task → Option String
  | .update clientId admin request =>
    if (scopedClient db clientId admin.organizationId).any fun previous =>
      reconfigures previous (request.assignment.apply previous)
    then some clientId else none
  | .rotate _ clientId admin _ =>
    if rotatable db clientId admin.organizationId then some clientId else none
  | _ => none

/-- A client is reconfigured or its secret rotated only while no authorization for it is between
the read of the client and the commit of its code, and no such authorization begins before the
rotation has committed. -/
def Undisturbed (c : Config ι Db Task) : Action ι Input Surroundings → Prop
  | .environment _ => True
  | .request i _ =>
    (∀ clientId ∈ (c.request i).disturbs c.shared,
      ∀ j, (c.request j).authorizes.map Prod.fst ≠ some clientId) ∧
    ∀ clientId ∈ (c.request i).reads, ∀ j, (c.request j).rotates ≠ some clientId

instance [Fintype ι] (c : Config ι Db Task) : DecidablePred (Undisturbed c)
  | .environment _ => .isTrue trivial
  | .request _ _ => inferInstanceAs (Decidable (_ ∧ _))

/-! ### The invariant -/

/-- The client is active and has the given scope. -/
def ActiveClient (db : Db) (clientId : String) (organizationId : Option String) : Prop :=
  ∃ client, db.oidcClients.lookup OidcClient.clientId clientId = some client ∧
    client.organizationId = organizationId ∧ client.active = true

/-- Pending codes and authorizations belong to active clients and to their current generation.
While a secret is rotated, no authorization of the client is on its way, and all its pending codes
are going to be discarded. -/
structure Current (db : Db) (request : ι → Task) (h : History ι) : Prop where
  codes : ∀ row ∈ db.authorizationCodes, row.consumedAt = none →
    ActiveClient db row.grant.clientId row.grant.organizationId ∧
      h.stamp row.codeHash = h.generation row.grant.clientId
  authorizing : ∀ i x, (request i).authorizes = some x →
    ActiveClient db x.1 x.2 ∧ h.validated i = h.generation x.1
  alone : ∀ i j clientId, (request i).rotates = some clientId →
    (request j).authorizes.map Prod.fst ≠ some clientId
  discarding : ∀ ⦃i clientId organizationId secretHash discarded⦄,
    request i = .rotating clientId organizationId secretHash discarded →
      ∀ row ∈ db.authorizationCodes, row.consumedAt = none →
        row.grant.clientId = clientId → row.codeHash ∈ discarded

variable {request : ι → Task} {i : ι} {h h' : History ι} {client : OidcClient}

theorem ActiveClient.unique (h : ActiveClient db clientId organizationId)
    (hclient : db.oidcClients.lookup OidcClient.clientId clientId = some client) :
    client.organizationId = organizationId ∧ client.active = true := by
  obtain ⟨client', hclient', hscope, hactive⟩ := h
  rw [hclient] at hclient'
  cases hclient'
  exact ⟨hscope, hactive⟩

section Writes

omit [DecidableEq ι]

variable (hI : Current db request h)

include hI

/-- A change of the database and the generations; `K` are the clients it keeps, among them those
that still have pending codes or authorizations. -/
theorem Current.write {K : String → Prop}
    (hcodes : ∀ row ∈ db'.authorizationCodes, row.consumedAt = none →
      row ∈ db.authorizationCodes ∧ K row.grant.clientId)
    (hauthorizing : ∀ i x, (request i).authorizes = some x → K x.1)
    (hkept : ∀ clientId, K clientId → h'.generation clientId = h.generation clientId ∧
      ∀ organizationId, ActiveClient db clientId organizationId →
        ActiveClient db' clientId organizationId)
    (hvalidated : h'.validated = h.validated) (hstamp : h'.stamp = h.stamp) :
    Current db' request h' where
  codes row hrow hpending := by
    obtain ⟨hmem, hk⟩ := hcodes row hrow hpending
    obtain ⟨hactive, hcurrent⟩ := hI.codes row hmem hpending
    exact ⟨(hkept _ hk).2 _ hactive, by rw [hstamp, hcurrent, (hkept _ hk).1]⟩
  authorizing i x hx := by
    obtain ⟨hactive, hcurrent⟩ := hI.authorizing i x hx
    have hk := hauthorizing i x hx
    exact ⟨(hkept _ hk).2 _ hactive, by rw [hvalidated, hcurrent, (hkept _ hk).1]⟩
  alone := hI.alone
  discarding _ _ _ _ _ hi row hrow hpending :=
    hI.discarding hi row (hcodes row hrow hpending).1 hpending

/-- A change that keeps all clients and only consumes or discards codes. -/
theorem Current.shrink
    (hcodes : ∀ row ∈ db'.authorizationCodes, row.consumedAt = none →
      row ∈ db.authorizationCodes)
    (hclients : ∀ clientId organizationId, ActiveClient db clientId organizationId →
      ActiveClient db' clientId organizationId) :
    Current db' request h :=
  hI.write (K := fun _ => True) (fun row hrow hp => ⟨hcodes row hrow hp, trivial⟩)
    (fun _ _ _ => trivial) (fun clientId _ => ⟨rfl, hclients clientId⟩) rfl rfl

/-- The code of an authorization on its way is committed. -/
theorem Current.insert {codes : Table AuthorizationCodeRow}
    (hauthorizes : (request i).authorizes = some (row.grant.clientId, row.grant.organizationId))
    (hinsert : db.authorizationCodes.insert row = some codes) :
    Current { db with authorizationCodes := codes } request
      { h with stamp := Function.update h.stamp row.codeHash (h.validated i) } := by
  have hother : ∀ row' ∈ db.authorizationCodes, row'.codeHash ≠ row.codeHash := by
    intro row' hrow' hhash
    have hclash := exists_insert_iff.1 ⟨codes, hinsert⟩ row' hrow'
    simp [clash, hhash] at hclash
  obtain ⟨hactive, hcurrent⟩ := hI.authorizing i _ hauthorizes
  refine ⟨fun row' hrow' hpending => ?_, hI.authorizing, hI.alone, ?_⟩
  · obtain rfl | hrow' := (mem_of_insert_eq_some hinsert).1 hrow'
    · exact ⟨hactive, (update_self ..).trans hcurrent⟩
    · obtain ⟨hactive', hcurrent'⟩ := hI.codes row' hrow' hpending
      exact ⟨hactive', (update_of_ne (hother row' hrow') ..).trans hcurrent'⟩
  · intro j clientId organizationId secretHash discarded hj row' hrow' hpending hclient
    obtain rfl | hrow' := (mem_of_insert_eq_some hinsert).1 hrow'
    · -- the client of an authorization on its way is not being rotated
      refine absurd ?_ (hI.alone j i clientId (by rw [hj, Task.rotates]))
      rw [hauthorizes, Option.map_some, hclient]
    · exact hI.discarding hj row' hrow' hpending hclient

/-- A client without authorizations on their way and without pending codes begins a new
configuration. -/
theorem Current.advance
    (hno : ∀ j, (request j).authorizes.map Prod.fst ≠ some clientId)
    (hcodes : ∀ row ∈ db'.authorizationCodes, row.consumedAt = none →
      row ∈ db.authorizationCodes ∧ row.grant.clientId ≠ clientId)
    (hclients : ∀ clientId', clientId' ≠ clientId →
      db'.oidcClients.lookup OidcClient.clientId clientId' =
        db.oidcClients.lookup OidcClient.clientId clientId') :
    Current db' request (h.advance clientId) := by
  refine hI.write (K := (· ≠ clientId)) hcodes ?_ ?_ rfl rfl
  · rintro j x hx rfl
    exact hno j (by rw [hx, Option.map_some])
  · intro clientId' hne
    refine ⟨update_of_ne hne .., fun organizationId hactive => ?_⟩
    rwa [ActiveClient, hclients clientId' hne]

/-- An update of a client. If it reconfigures the client, no authorization is on its way. -/
theorem Current.update {r : UpdateOidcClientRequest} {result : Option OidcClient}
    (hupdate : updateOidcClientScoped db clientId admin r = .ok (result, db'))
    (hno : ∀ previous, scopedClient db clientId admin.organizationId = some previous →
      reconfigures previous (r.assignment.apply previous) = true →
        ∀ j, (request j).authorizes.map Prod.fst ≠ some clientId) :
    Current db' request (if reconfigured db db' clientId then h.advance clientId else h) := by
  obtain ⟨-, rfl⟩ | ⟨previous, clients, codes, hprevious, rfl, hclients, hcodes⟩ :=
    updateOidcClientScoped_eq_ok hupdate
  · rwa [reconfigured_self, if_neg Bool.false_ne_true]
  have hlookup := (scopedClient_eq_some.1 hprevious).1
  have hreconfigured : reconfigured db
      { db with oidcClients := clients, authorizationCodes := codes } clientId =
        reconfigures previous (r.assignment.apply previous) := by
    simp [reconfigured, hlookup, hclients]
  cases hboundary : reconfigures previous (r.assignment.apply previous) with
  | false =>
    rw [hreconfigured, hboundary, if_neg Bool.false_ne_true]
    refine hI.shrink (fun row hrow _ => ((hcodes row).1 hrow).1) ?_
    intro clientId' organizationId hactive
    by_cases hid : clientId = clientId'
    · subst hid
      obtain ⟨hscope, hactive⟩ := hactive.unique hlookup
      exact ⟨r.assignment.apply previous, by rw [hclients, if_pos rfl], hscope,
        active_of_not_reconfigures hboundary hactive⟩
    · obtain ⟨client, hclient, hscope⟩ := hactive
      exact ⟨client, by rw [hclients, if_neg hid, hclient], hscope⟩
  | true =>
    rw [hreconfigured, hboundary, if_pos rfl]
    refine hI.advance (hno previous hprevious hboundary) (fun row hrow hpending => ?_)
      fun clientId' hne => (hclients clientId').trans (if_neg (Ne.symm hne))
    obtain ⟨hrow, hkept⟩ := (hcodes row).1 hrow
    refine ⟨hrow, ?_⟩
    -- a client with a pending code is active, so that its codes have been discarded
    rintro rfl
    have hactive := ((hI.codes row hrow hpending).1.unique hlookup).2
    exact hkept ⟨hactive, hboundary, rfl, hpending⟩

theorem Current.rotate (hi : request i = .rotating clientId organizationId secretHash discarded) :
    Current (commitRotation db clientId organizationId secretHash discarded) request
      (h.advance clientId) := by
  refine hI.advance (fun j => hI.alone i j clientId (by rw [hi, Task.rotates]))
    (fun row hrow hpending => ?_) fun clientId' hne => ?_
  · obtain ⟨hrow, hkept⟩ := mem_delete.1 hrow
    refine ⟨hrow, fun hgrant => ?_⟩
    have hmem := hI.discarding hi row hrow hpending hgrant
    rw [← List.contains_iff_mem, hkept] at hmem
    cases hmem
  · have hkey : ∀ client : OidcClient,
        ((setSecretHash secretHash).apply client).clientId = client.clientId := fun _ => rfl
    show (db.oidcClients.update _ _).lookup OidcClient.clientId clientId' = _
    rw [lookup_update hkey]
    cases hl : db.oidcClients.lookup OidcClient.clientId clientId' with
    | none => rfl
    | some client =>
      have hid : client.clientId = clientId' := (lookup_eq_some_iff.1 hl).2
      simp [hid, hne]

/-- What happens around the requests keeps all clients and adds no codes. -/
theorem Current.surroundings (b : Surroundings) :
    Current (b.apply db) request h := by
  refine hI.shrink (fun row hrow _ => (mem_delete.1 hrow).1) ?_
  rintro clientId organizationId ⟨client, hclient, hactive⟩
  refine ⟨client, ?_, hactive⟩
  simp only [Surroundings.apply]
  cases hinsert : b.client.bind db.oidcClients.insert with
  | none => exact hclient
  | some =>
    obtain ⟨new, -, hinsert⟩ := Option.bind_eq_some_iff.1 hinsert
    obtain ⟨hmem, hid⟩ := lookup_eq_some_iff.1 hclient
    exact lookup_eq_some_iff.2 ⟨(mem_of_insert_eq_some hinsert).2 (.inr hmem), hid⟩

end Writes

theorem activeClient_of_validate {r : AuthorizeRequest}
    (hclient : db.oidcClients.lookup OidcClient.clientId r.clientId = some client)
    (hscopes : validateAuthorizationRequest client r = .ok scopes) :
    ActiveClient db r.clientId client.organizationId := by
  refine ⟨client, hclient, rfl, ?_⟩
  simp only [validateAuthorizationRequest, bind, Except.bind, throw, throwThe,
    MonadExceptOf.throw] at hscopes
  split at hscopes
  · cases hscopes
  case isFalse hactive =>
    simp only [Bool.or_eq_true, Bool.not_eq_true', not_or, Bool.not_eq_false] at hactive
    exact hactive.1

section Moves

variable {j : ι}

theorem update_eq_of_rotates (ht : t.rotates = none)
    (hj : (Function.update request i t j).rotates = some clientId) :
    Function.update request i t j = request j := by
  refine update_of_ne ?_ _ _
  rintro rfl
  rw [update_self, ht] at hj
  cases hj

theorem rotating_of_update (ht : t.rotates = none)
    (hj : Function.update request i t j = .rotating clientId organizationId secretHash discarded) :
    request j = .rotating clientId organizationId secretHash discarded := by
  rwa [update_eq_of_rotates ht (by rw [hj, Task.rotates])] at hj

theorem authorizes_of_update (ht : t.authorizes = none ∨ t.authorizes = (request i).authorizes)
    {x : String × Option String} (hj : (Function.update request i t j).authorizes = some x) :
    (request j).authorizes = some x := by
  by_cases hji : j = i
  · subst hji
    rw [update_self] at hj
    obtain hnone | hsame := ht
    · rw [hnone] at hj
      cases hj
    · exact hsame ▸ hj
  · rwa [update_of_ne hji] at hj

theorem authorizesFst_of_update
    (ht : t.authorizes = none ∨ t.authorizes = (request i).authorizes)
    (hj : (Function.update request i t j).authorizes.map Prod.fst = some clientId) :
    (request j).authorizes.map Prod.fst = some clientId := by
  obtain ⟨x, hx, hfst⟩ := Option.map_eq_some_iff.1 hj
  exact Option.map_eq_some_iff.2 ⟨x, authorizes_of_update ht hx, hfst⟩

variable (hI : Current db request h)

include hI

theorem Current.move
    (hauthorizes : t.authorizes = none ∨ t.authorizes = (request i).authorizes)
    (hrotates : t.rotates = none) : Current db (Function.update request i t) h where
  codes := hI.codes
  authorizing j x hx := hI.authorizing j x (authorizes_of_update hauthorizes hx)
  alone j k clientId hj hk := by
    rw [update_eq_of_rotates hrotates hj] at hj
    exact hI.alone j k clientId hj (authorizesFst_of_update hauthorizes hk)
  discarding _ _ _ _ _ hj := hI.discarding (rotating_of_update hrotates hj)

/-- An authorization reads a client whose secret is not being rotated. -/
theorem Current.read
    (hactive : ActiveClient db clientId organizationId)
    (hauthorizes : t.authorizes = some (clientId, organizationId)) (hrotates : t.rotates = none)
    (hno : ∀ j, (request j).rotates ≠ some clientId) :
    Current db (Function.update request i t)
      { h with validated := Function.update h.validated i (h.generation clientId) } where
  codes := hI.codes
  authorizing j x hx := by
    by_cases hj : j = i
    · subst hj
      rw [update_self, hauthorizes] at hx
      cases hx
      exact ⟨hactive, update_self ..⟩
    · rw [update_of_ne hj] at hx
      exact (hI.authorizing j x hx).imp_right (update_of_ne hj ..).trans
  alone j k clientId' hj hk := by
    rw [update_eq_of_rotates hrotates hj] at hj
    by_cases hki : k = i
    · subst hki
      rw [update_self, hauthorizes] at hk
      cases hk
      exact hno j hj
    · rw [update_of_ne hki] at hk
      exact hI.alone j k clientId' hj hk
  discarding _ _ _ _ _ hj := hI.discarding (rotating_of_update hrotates hj)

/-- A rotation deletes the pending codes of a client without authorizations on their way. -/
theorem Current.delete
    (hrotatable : rotatable db clientId organizationId = true)
    (hno : ∀ j, (request j).authorizes.map Prod.fst ≠ some clientId) :
    Current db (Function.update request i (.rotating clientId organizationId secretHash
      (pendingCodes db clientId organizationId))) h := by
  obtain ⟨client, hclient, -⟩ := (Option.any_eq_true _ _).1 hrotatable
  obtain ⟨hlookup, hscope⟩ := scopedClient_eq_some.1 hclient
  refine ⟨hI.codes, fun j x hx => hI.authorizing j x (authorizes_of_update (.inl rfl) hx), ?_, ?_⟩
  · intro j k clientId' hj hk
    replace hk := authorizesFst_of_update (.inl rfl) hk
    by_cases hji : j = i
    · subst hji
      rw [update_self, Task.rotates, Option.some_inj] at hj
      exact hno k (hj ▸ hk)
    · rw [update_of_ne hji] at hj
      exact hI.alone j k clientId' hj hk
  · intro j clientId' organizationId' secretHash' discarded hj row hrow hpending hgrant
    by_cases hji : j = i
    · subst hji
      rw [update_self] at hj
      cases hj
      subst hgrant
      have hsame := ((hI.codes row hrow hpending).1.unique hlookup).1
      rw [← List.contains_iff_mem, contains_pendingCodes _ _ hrow]
      simp [hpending, ← hscope, hsame]
    · rw [update_of_ne hji] at hj
      exact hI.discarding hj row hrow hpending hgrant

theorem Current.effect {p p' : Phase} (hi : request i = .endpoint p)
    (hcreates : creates p = false) (heffect : Effect S a db p db' p')
    (hreads : ∀ clientId ∈ (Task.endpoint p).reads, ∀ j, (request j).rotates ≠ some clientId) :
    Current db' (Function.update request i (.endpoint p'))
      (h.recordTask i db db' (.endpoint p) (.endpoint p')) := by
  cases heffect with
  | validated hclient hscopes =>
    exact hI.read (activeClient_of_validate hclient hscopes) rfl rfl (hreads _ rfl)
  | live => exact hI.move (.inr (by rw [hi]; rfl)) rfl
  | rejected =>
    rw [History.recordTask_rejected]
    exact hI.move (.inl rfl) rfl
  | created => cases hcreates
  | consumed hconsume =>
    obtain ⟨row, -, -, -, -, -, -, -, -, codes, rfl, hcodes⟩ := consume_eq_some hconsume
    have hshrink : Current { db with authorizationCodes := codes } request h :=
      hI.shrink (fun row' hrow' hpending => ?_) fun _ _ hactive => hactive
    · exact hshrink.move (.inl rfl) rfl
    obtain rfl | ⟨hrow', -⟩ := (hcodes row').1 hrow'
    · cases hpending
    · exact hrow'
  | refused =>
    rw [History.recordTask_exchanged]
    exact hI.move (.inl rfl) rfl
  | _ => exact hI.move (.inl rfl) rfl

theorem Current.change (hchange : Change S a db (request i) db' t')
    (hdisturbs : ∀ clientId ∈ (request i).disturbs db,
      ∀ j, (request j).authorizes.map Prod.fst ≠ some clientId)
    (hreads : ∀ clientId ∈ (request i).reads, ∀ j, (request j).rotates ≠ some clientId) :
    Current db' (Function.update request i t')
      (h.recordTask i db db' (request i) t') := by
  generalize hi : request i = t at hchange hdisturbs hreads
  cases hchange with
  | endpoint hp heffect => exact hI.effect hi hp heffect hreads
  | selected => exact hI.move (.inr (by rw [hi]; rfl)) rfl
  | inserted hinsert => exact (hI.insert (by rw [hi, Task.authorizes]) hinsert).move (.inl rfl) rfl
  | rejected =>
    rw [History.recordTask_rejected]
    exact hI.move (.inl rfl) rfl
  | @updated clientId admin r result _ hupdate =>
    refine (hI.update hupdate fun previous hprevious hboundary => hdisturbs clientId ?_).move
      (.inl rfl) rfl
    simp [Task.disturbs, hprevious, hboundary]
  | @deleted salt clientId newSecret secretHash admin hrotatable =>
    exact hI.delete hrotatable (hdisturbs clientId (by simp [Task.disturbs, hrotatable]))
  | rotated => exact (hI.rotate hi).move (.inl rfl) rfl
  | failed =>
    rw [History.recordTask_done]
    exact hI.move (.inl rfl) rfl

end Moves

/-! ### Runs -/

variable {s s' : Config ι Db Task × History ι} {l : Action ι Input Surroundings}

theorem Current.step (hI : Current s.1.shared s.1.request s.2) (hquiet : Undisturbed s.1 l)
    (hstep : ((protocol S ι).system.observe History.record).step s l = some s') :
    Current s'.1.shared s'.1.request s'.2 := by
  obtain ⟨c, h⟩ := s
  obtain ⟨c', hbase, rfl⟩ := System.observe_step_eq_some.1 hstep
  obtain ⟨b, db', rfl, hdb', rfl⟩ | ⟨i, a, db', t', rfl, hnext, rfl⟩ := Protocol.step_cases hbase
  · cases hdb'
    exact hI.surroundings b
  simpa [History.record] using hI.change (change_of_next hnext) hquiet.1 hquiet.2

/-- A code that is exchanged belongs to the current generation of its client. -/
theorem Current.exchanges (hI : Current s.1.shared s.1.request s.2)
    (hstep : ((protocol S ι).system.observe History.record).step s l = some s') :
    exchangesStale S.crates s l s' = false := by
  obtain ⟨c, h⟩ := s
  obtain ⟨c', hbase, rfl⟩ := System.observe_step_eq_some.1 hstep
  cases l with
  | environment => rfl
  | request =>
    obtain ⟨db', t', hnext, rfl⟩ := (Protocol.step_request_eq_some _).1 hbase
    have hchange := change_of_next hnext
    unfold exchangesStale
    simp only [update_self]
    split
    case h_2 => rfl
    case h_1 r clientId organizationId _ authorization hi =>
      rw [hi] at hchange
      cases hchange with
      | endpoint _ heffect =>
        cases heffect with
        | consumed hconsume =>
          obtain ⟨row, hrow, hhash, hpending, rfl, -, hclient, -⟩ := consume_eq_some hconsume
          have hcurrent := (hI.codes row hrow hpending).2
          rw [bne_eq_false_iff_eq, ← hhash, hcurrent]
          exact congrArg h.generation hclient

omit [DecidableEq ι] in
theorem current_initial (hreceived : ∀ i, (request i).received = true)
    (hcodes : ∀ row ∈ db.authorizationCodes, row.consumedAt = none →
      ActiveClient db row.grant.clientId row.grant.organizationId) :
    Current db request History.initial := by
  have hnone : ∀ i, (request i).authorizes = none ∧ (request i).rotates = none := by
    intro i
    have hi := hreceived i
    generalize request i = t at hi ⊢
    unfold Task.received at hi
    split at hi <;> first | exact ⟨rfl, rfl⟩ | cases hi
  refine ⟨fun row hrow hpending => ⟨hcodes row hrow hpending, rfl⟩, ?_, ?_, ?_⟩
  · intro i x hx
    rw [(hnone i).1] at hx
    cases hx
  · intro i j clientId hi
    rw [(hnone i).2] at hi
    cases hi
  · intro i clientId organizationId secretHash discarded hi
    have := (hnone i).2
    rw [hi] at this
    cases this

/-- **No code outlives the configuration of its client.**  In every run in which clients are
reconfigured only while no authorization for them is on its way, every code that is exchanged was
validated under the current configuration of its client: since the client was read, no update that
disables it or changes its redirect URIs, grant types or scopes, and no rotation of its secret, has
committed. -/
theorem no_code_outlives_configuration (S : Server) (c₀ : Config ι Db Task)
    (hreceived : ∀ i, (c₀.request i).received = true)
    (hcodes : ∀ row ∈ c₀.shared.authorizationCodes, row.consumedAt = none →
      ActiveClient c₀.shared row.grant.clientId row.grant.organizationId)
    (ls : List (Action ι Input Surroundings))
    (hquiet : (protocol S ι).system.Along (fun c l _ => Undisturbed c l) c₀ ls) :
    ((protocol S ι).system.observe History.record).Along
      (fun s l s' => exchangesStale S.crates s l s' = false) (c₀, History.initial) ls := by
  refine System.along_of_invariant _ (I := fun s => Current s.1.shared s.1.request s.2) ?_
    (current_initial hreceived hcodes)
    ((System.observe_along _ History.record ls (c₀, History.initial)).2 hquiet)
  exact fun s l s' hI hquiet hstep => ⟨hI.step hquiet hstep, hI.exchanges hstep⟩

/-! ### A race with an update -/

/-- The request 0 asks for a code, the request 1 replaces the redirect URI of the client, and the
request 2 presents the code. -/
def sampleTasks (redirectUri : String) : Fin 3 → Task
  | 0 =>
    .endpoint (.received (.authorize
      { responseType := "code"
        clientId := "app"
        redirectUri
        scope := "openid"
        nonce := some "n"
        codeChallenge := sampleVerifier
        codeChallengeMethod := "S256" } "u"))
  | 1 => .update "app" .platform { redirectUris := some ["https://client.example/new"] }
  | 2 =>
    .endpoint (.received (.token
      { code := "k", redirectUri, clientId := some "app", codeVerifier := sampleVerifier }))

def sampleConfig (redirectUri : String) : Config (Fin 3) Db Task :=
  ⟨sampleDb, sampleTasks redirectUri⟩

/-- The update, the authorization and the exchange one after the other. -/
def orderlyRun : List (Action (Fin 3) Input Surroundings) :=
  [.request 1 {}, .request 0 {}, .request 0 {}, .request 0 { id := "1", code := "k" },
    .request 0 {}, .request 2 {}, .request 2 {}, .request 2 {}, .request 2 {}]

/-- The update commits after the authorization has read the client. -/
def overtakingRun : List (Action (Fin 3) Input Surroundings) :=
  [.request 0 {}, .request 1 {}, .request 0 {}, .request 0 { id := "1", code := "k" },
    .request 0 {}, .request 2 {}, .request 2 {}, .request 2 {}, .request 2 {}]

/-- The redirect URIs of the client and whether the request 2 has received tokens. -/
def outcome (s : Config (Fin 3) Db Task × History (Fin 3)) : List (List String) × Bool :=
  ((s.1.shared.oidcClients.select fun _ => true).map OidcClient.redirectUris,
    match s.1.request 2 with
    | .endpoint (.exchanged (.ok _)) => true
    | _ => false)

theorem no_code_outlives_configuration_orderly :
    (((protocol sampleServer (Fin 3)).system.observe History.record).run
      (sampleConfig "https://client.example/new", History.initial) orderlyRun).map outcome =
        some ([["https://client.example/new"]], true) ∧
    ((protocol sampleServer (Fin 3)).system.observe History.record).Along
      (fun s l s' => exchangesStale .readable s l s' = false)
      (sampleConfig "https://client.example/new", History.initial) orderlyRun := by
  have hquiet : (protocol sampleServer (Fin 3)).system.Along (fun c l _ => Undisturbed c l)
      (sampleConfig "https://client.example/new") orderlyRun := by decide +kernel
  exact ⟨by decide +kernel, no_code_outlives_configuration sampleServer _ (by decide)
    (fun row hrow => absurd hrow not_mem_empty) orderlyRun hquiet⟩

/-- A code for a redirect URI that the client has given up is exchanged. -/
theorem code_outlives_configuration :
    (((protocol sampleServer (Fin 3)).system.observe History.record).run
      (sampleConfig "https://client.example/callback", History.initial) overtakingRun).map outcome =
        some ([["https://client.example/new"]], true) ∧
    ¬ ((protocol sampleServer (Fin 3)).system.observe History.record).Along
      (fun s l s' => exchangesStale .readable s l s' = false)
      (sampleConfig "https://client.example/callback", History.initial) overtakingRun :=
  ⟨by decide +kernel, by decide +kernel⟩

end Keylo.Oidc.Configuration
