import Keylo.Oidc.Codes
import Keylo.Organizations

/-!
# Changes of OIDC clients

The update of the registration of a client (`db/oidc.rs`), by the platform or by a manager of its
organization. It discards the pending codes of the client if the client was active and its boundary
(`reconfigures`) changes.

## Main definitions

* `updateOidcClientScoped` : the update of a client.
* `reconfigures` : a change disables a client or changes its redirect URIs, grant types or scopes.

## Main results

* `updateOidcClientScoped_eq_ok` : what an update does to clients and codes.
-/

namespace Keylo.Oidc

open Relational Table

/-! ### Updates -/

/-- The fields an update may set; the others keep their values. -/
structure UpdateOidcClientRequest where
  redirectUris : Option (List String) := none
  grantTypes : Option (List String) := none
  scopes : Option (List String) := none
  active : Option Bool := none
deriving DecidableEq, Repr

/-- `SET … = COALESCE(…)`. -/
def UpdateOidcClientRequest.assignment (request : UpdateOidcClientRequest) :
    Assignment OidcClient where
  apply client :=
    { client with
      redirectUris := request.redirectUris.getD client.redirectUris
      grantTypes := request.grantTypes.getD client.grantTypes
      scopes := request.scopes.getD client.scopes
      active := request.active.getD client.active }
  clash_apply _ _ := rfl

/-- Who changes a client: the platform, or a manager of the organization of the client. -/
inductive ClientAdmin
  | platform
  | manager (organizationId actorPrincipalId : String)
deriving DecidableEq, Repr

/-- The scope of the clients an administrator may change. -/
def ClientAdmin.organizationId : ClientAdmin → Option String
  | .platform => none
  | .manager organizationId _ => some organizationId

/-- The check that a manager is a live manager. -/
def ClientAdmin.lock (db : Db) : ClientAdmin → Except String Unit
  | .platform => .ok ()
  | .manager organizationId actorPrincipalId =>
    lockActiveOrganizationManager db organizationId actorPrincipalId

variable (db : Db) (clientId : String)

/-- The client with its exact scope. -/
def scopedClient (organizationId : Option String) : Option OidcClient :=
  (db.oidcClients.lookup OidcClient.clientId clientId).filter (·.organizationId == organizationId)

/-- The change disables the client or changes its redirect URIs, grant types or scopes. -/
def reconfigures (previous client : OidcClient) : Bool :=
  (previous.active && !client.active) || previous.redirectUris != client.redirectUris ||
    previous.grantTypes != client.grantTypes || previous.scopes != client.scopes

def trustBoundaryChanged (previous client : OidcClient) : Bool :=
  previous.active && (!client.active || previous.redirectUris != client.redirectUris ||
    previous.grantTypes != client.grantTypes || previous.scopes != client.scopes)

theorem trustBoundaryChanged_eq (previous client : OidcClient) :
    trustBoundaryChanged previous client = (previous.active && reconfigures previous client) := by
  cases h : previous.active <;> simp [trustBoundaryChanged, reconfigures, h]

/-- Discards the pending codes of a client. -/
def discardClientCodes : Db :=
  { db with
    authorizationCodes := db.authorizationCodes.delete fun row =>
      row.grant.clientId == clientId && row.consumedAt.isNone }

/-- `UPDATE` of a client with its exact scope. -/
def writeOidcClient (organizationId : Option String) (f : Assignment OidcClient) : Db :=
  { db with
    oidcClients := db.oidcClients.update
      (fun client => client.clientId == clientId && client.organizationId == organizationId) f }

/-- Updates a client and discards its pending codes if its boundary changes. -/
def updateOidcClientScoped (admin : ClientAdmin)
    (request : UpdateOidcClientRequest) : Except String (Option OidcClient × Db) := do
  admin.lock db
  match scopedClient db clientId admin.organizationId with
  | none => return (none, db)
  | some previous =>
    let client := request.assignment.apply previous
    let db' := writeOidcClient db clientId admin.organizationId request.assignment
    if trustBoundaryChanged previous client then
      return (some client, discardClientCodes db' clientId)
    else return (some client, db')

/-! ### Rotations -/

/-- Only an active confidential client has a secret to rotate. -/
def rotatable (organizationId : Option String) : Bool :=
  (scopedClient db clientId organizationId).any fun client =>
    client.clientType == .confidential && client.active

/-- `SET client_secret_hash = $2`. -/
def setSecretHash (secretHash : String) : Assignment OidcClient :=
  ⟨fun client => { client with clientSecretHash := some secretHash }, fun _ _ => rfl⟩

/-! ### What the statements do -/

variable {db db' : Db} {clientId : String} {organizationId : Option String} {admin : ClientAdmin}
  {client previous : OidcClient} {request : UpdateOidcClientRequest}

theorem scopedClient_eq_some : scopedClient db clientId organizationId = some client ↔
    db.oidcClients.lookup OidcClient.clientId clientId = some client ∧
      client.organizationId = organizationId := by
  simp [scopedClient, Option.filter_eq_some_iff]

/-- A write of a client changes the client found under its id. -/
theorem lookup_writeOidcClient {f : Assignment OidcClient}
    (hf : ∀ client, (f.apply client).clientId = client.clientId)
    (h : scopedClient db clientId organizationId = some previous) (clientId' : String) :
    (writeOidcClient db clientId organizationId f).oidcClients.lookup OidcClient.clientId
        clientId' =
      if clientId = clientId' then some (f.apply previous)
      else db.oidcClients.lookup OidcClient.clientId clientId' := by
  obtain ⟨hlookup, hscope⟩ := scopedClient_eq_some.1 h
  have hid : previous.clientId = clientId := (lookup_eq_some_iff.1 hlookup).2
  refine lookup_update_of_key hf (fun client hclient => ?_) hlookup ?_ clientId'
  · simp only [Bool.and_eq_true, beq_iff_eq] at hclient
    exact hclient.1
  · simp [hid, hscope]

theorem active_of_not_reconfigures (h : reconfigures previous client = false)
    (hactive : previous.active = true) : client.active = true := by
  simp only [reconfigures, hactive, Bool.true_and, Bool.or_eq_false_iff, Bool.not_eq_false'] at h
  exact h.1.1.1

/-- An update that goes through has found no client in its scope, or has written it and, if it
was active and is reconfigured, has discarded its pending codes. -/
theorem updateOidcClientScoped_eq_ok {result : Option OidcClient}
    (h : updateOidcClientScoped db clientId admin request = .ok (result, db')) :
    (scopedClient db clientId admin.organizationId = none ∧ db' = db) ∨
      ∃ previous clients codes, scopedClient db clientId admin.organizationId = some previous ∧
        db' = { db with oidcClients := clients, authorizationCodes := codes } ∧
        (∀ clientId', clients.lookup OidcClient.clientId clientId' =
          if clientId = clientId' then some (request.assignment.apply previous)
          else db.oidcClients.lookup OidcClient.clientId clientId') ∧
        ∀ row, row ∈ codes ↔ row ∈ db.authorizationCodes ∧
          ¬ (previous.active = true ∧
            reconfigures previous (request.assignment.apply previous) = true ∧
            row.grant.clientId = clientId ∧ row.consumedAt = none) := by
  simp only [updateOidcClientScoped, bind, Except.bind, pure, Except.pure] at h
  split at h
  · cases h
  split at h
  case h_1 hscoped =>
    cases h
    exact .inl ⟨hscoped, rfl⟩
  case h_2 previous hscoped =>
    have hwrite := lookup_writeOidcClient (f := request.assignment) (fun _ => rfl) hscoped
    rw [trustBoundaryChanged_eq] at h
    split_ifs at h with hboundary
    · cases h
      obtain ⟨hactive, hreconfigures⟩ := Bool.and_eq_true_iff.1 hboundary
      refine .inr ⟨previous, _, _, hscoped, rfl, hwrite,
        fun row => mem_delete.trans (and_congr_right fun _ => ?_)⟩
      simp [hactive, hreconfigures, Option.isSome_iff_ne_none]
    · cases h
      refine .inr ⟨previous, _, db.authorizationCodes, hscoped, rfl, hwrite, fun row => ?_⟩
      rw [← and_assoc, ← Bool.and_eq_true_iff]
      simp [hboundary]

end Keylo.Oidc
