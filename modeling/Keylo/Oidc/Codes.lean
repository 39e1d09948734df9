import Keylo.Crates
import Keylo.Schema
import Keylo.Text

/-!
# Authorization codes

The checks of `models/oidc.rs` on authorization requests and PKCE values, and the statements of
`db/oidc.rs` that create, read, consume and discard authorization codes.

The three statements that require a live client, user, principal and, for a client of an
organization, a live organization and membership, repeat one condition (`contextIsActive`).

## Main definitions

* `verifyPkceS256`, `validateAuthorizationRequest` : the checks on requests.
* `createAuthorizationCode`, `consumeAuthorizationCodeForClient` : the statements that write a code.

## Main results

* `consume_eq_some` : what the consuming statement has checked, and all it changes.
* `create_eq_ok` : what the creating statement stores.
-/

namespace Keylo.Oidc

open Relational Table

/-! ### Requests -/

/-- The query parameters of an authorization request. -/
structure AuthorizeRequest where
  responseType : String
  clientId : String
  redirectUri : String
  scope : String
  state : Option String := none
  nonce : Option String
  codeChallenge : String
  codeChallengeMethod : String
deriving DecidableEq, Repr

/-- The form of a token request, with the `Authorization` header of the request. -/
structure TokenRequest where
  authorization : Option String := none
  grantType : String := "authorization_code"
  code : String
  redirectUri : String
  clientId : Option String := none
  clientSecret : Option String := none
  codeVerifier : String
deriving DecidableEq, Repr

/-- Whether a value is 43 to 128 unreserved characters. Unreserved characters are ASCII, so that
of a value with such characters only, bytes and characters are the same. -/
def validPkceValue (value : String) : Bool :=
  43 ≤ value.utf8ByteSize && value.utf8ByteSize ≤ 128 &&
    value.toList.all fun c =>
      isAsciiAlphanumeric c || c == '-' || c == '.' || c == '_' || c == '~'

def validatePkceValue (label value : String) : Except String Unit :=
  if validPkceValue value then .ok ()
  else .error (label ++ " must be 43-128 PKCE unreserved characters")

def validatePkceChallenge (challenge method : String) : Except String Unit :=
  if method != "S256" then .error "only S256 code_challenge_method is supported"
  else validatePkceValue "code_challenge" challenge

/-- The verifier of a token request against the challenge bound to the code. -/
def verifyPkceS256 (C : Crates) (verifier challenge : String) : Bool :=
  match validatePkceValue "code_verifier" verifier with
  | .error _ => false
  | .ok () => C.base64Encode (C.sha256 verifier) == challenge

theorem verifyPkceS256_eq_true {C : Crates} {verifier challenge : String} :
    verifyPkceS256 C verifier challenge = true ↔
      validPkceValue verifier = true ∧ C.base64Encode (C.sha256 verifier) = challenge := by
  unfold verifyPkceS256 validatePkceValue
  split_ifs with hvalid <;> simp [hvalid]

/-- The stored form of a code. -/
def authorizationCodeHash (C : Crates) (code : String) : String := C.hexEncode (C.sha256 code)

theorem authorizationCodeHash_readable_injective :
    Function.Injective (authorizationCodeHash .readable) :=
  Crates.readable.text_injective.comp Crates.readable.bytes_injective

/-- The scopes of a valid authorization request. -/
def validateAuthorizationRequest (client : OidcClient) (request : AuthorizeRequest) :
    Except String (List String) := do
  if !client.active || client.clientId != request.clientId then
    throw "OIDC client is not active"
  if request.responseType != "code" || !client.grantTypes.contains "authorization_code" then
    throw "only response_type=code is supported"
  if !client.redirectUris.contains request.redirectUri then
    throw "redirect_uri must exactly match a registered URI"
  if request.nonce.all (· == "") then
    throw "nonce is required for OIDC authorization requests"
  if request.state.any fun state => state.utf8ByteSize > 1024 then
    throw "state must not exceed 1024 characters"
  validatePkceChallenge request.codeChallenge request.codeChallengeMethod
  let scopes := splitAsciiWhitespace request.scope
  if scopes.isEmpty || !scopes.contains "openid" then
    throw "scope must include openid"
  if scopes.any fun scope => !client.scopes.contains scope then
    throw "requested scope is not registered for this client"
  return scopes

/-! ### Statements -/

variable (C : Crates) (db : Db)

/-- The organization of a client and the membership of a principal in it are active. -/
def membershipIsActive (organizationId principalId : String) : Bool :=
  db.organizations.any fun organization =>
    organization.id == organizationId && organization.status == .active &&
      db.memberships.any fun membership =>
        membership.organizationId == organization.id && membership.principalId == principalId &&
          membership.status == .active

/-- A client with its exact scope, a user, the principal of the user and, for a client of an
organization, the organization and the membership of the principal are active. -/
def contextIsActive (clientId : String) (organizationId : Option String) (userId : String) :
    Bool :=
  db.oidcClients.any fun client =>
    client.clientId == clientId && client.organizationId == organizationId && client.active &&
      db.users.any fun user =>
        user.id == userId && user.active &&
          db.principals.any fun principal =>
            principal.principalType == .user && principal.refId == user.id && principal.active &&
              client.organizationId.all fun organizationId =>
                membershipIsActive db organizationId principal.id

def oidcClientUserContextIsActive (clientId userId : String)
    (expectedOrganizationId : Option String) : Bool :=
  contextIsActive db clientId expectedOrganizationId userId

/-- `INSERT … SELECT` of a code under a live context. The result is the error of the statement,
or of the check that it has inserted a row. -/
def createAuthorizationCode (id rawCode : String) (authorization : OidcAuthorizationCode) :
    Except String Db :=
  if contextIsActive db authorization.clientId authorization.organizationId
      authorization.userId then
    match db.authorizationCodes.insert
        { id := id, codeHash := authorizationCodeHash C rawCode, grant := authorization } with
    | some codes => .ok { db with authorizationCodes := codes }
    | none => .error uniqueViolation
  else .error "oidc_client_user_context_inactive"

/-- A code that is neither consumed nor expired. -/
def codeIsActive (row : AuthorizationCodeRow) (now : Time) : Bool :=
  row.consumedAt.isNone && now < Time.ofTimestamp row.grant.expiresAt

def getActiveAuthorizationCode (rawCode : String) : Option OidcAuthorizationCode :=
  (db.authorizationCodes.find? fun row =>
    row.codeHash == authorizationCodeHash C rawCode &&
      codeIsActive row db.clock).map AuthorizationCodeRow.grant

/-- The rows selected by the consuming statement. -/
def consumable (rawCode expectedClientId : String) (expectedOrganizationId : Option String)
    (row : AuthorizationCodeRow) : Bool :=
  row.codeHash == authorizationCodeHash C rawCode &&
    codeIsActive row db.clock &&
    row.grant.clientId == expectedClientId &&
    row.grant.organizationId == expectedOrganizationId &&
    contextIsActive db row.grant.clientId row.grant.organizationId row.grant.userId

/-- `SET consumed_at = NOW()`. -/
def markConsumed (now : Time) : Assignment AuthorizationCodeRow :=
  ⟨fun row => { row with consumedAt := some now }, fun _ _ => rfl⟩

/-- `UPDATE … RETURNING` of a code under a live context. -/
def consumeAuthorizationCodeForClient (rawCode expectedClientId : String)
    (expectedOrganizationId : Option String) : Option OidcAuthorizationCode × Db :=
  let p := consumable C db rawCode expectedClientId expectedOrganizationId
  ((db.authorizationCodes.find? p).map AuthorizationCodeRow.grant,
    { db with authorizationCodes := db.authorizationCodes.update p (markConsumed db.clock) })

/-! ### What the statements do -/

variable {C db} {rawCode clientId id : String} {organizationId : Option String}
  {authorization : OidcAuthorizationCode} {db' : Db}

theorem getActive_eq_some (h : getActiveAuthorizationCode C db rawCode = some authorization) :
    ∃ row ∈ db.authorizationCodes, row.codeHash = authorizationCodeHash C rawCode ∧
      row.grant = authorization := by
  obtain ⟨row, hfind, rfl⟩ := Option.map_eq_some_iff.1 h
  have hp := List.find?_some hfind
  simp only [Bool.and_eq_true, beq_iff_eq] at hp
  exact ⟨row, List.mem_of_find?_eq_some hfind, hp.1, rfl⟩

/-- A successful creation adds one unconsumed row under a live context. -/
theorem create_eq_ok (h : createAuthorizationCode C db id rawCode authorization = .ok db') :
    contextIsActive db authorization.clientId authorization.organizationId authorization.userId
        = true ∧
      ∃ codes, db' = { db with authorizationCodes := codes } ∧ ∀ row, row ∈ codes ↔
        row = ⟨id, authorizationCodeHash C rawCode, authorization, none⟩ ∨
          row ∈ db.authorizationCodes := by
  unfold createAuthorizationCode at h
  split_ifs at h with hactive
  split at h
  case h_1 codes hinsert =>
    cases h
    exact ⟨hactive, codes, rfl, fun _ => mem_of_insert_eq_some hinsert⟩
  case h_2 => cases h

theorem consume_eq_none
    (h : consumeAuthorizationCodeForClient C db rawCode clientId organizationId = (none, db')) :
    db' = db := by
  simp only [consumeAuthorizationCodeForClient, Prod.mk.injEq, Option.map_eq_none_iff] at h
  obtain ⟨hfind, rfl⟩ := h
  rw [update_eq_self fun row hrow => by simpa using List.find?_eq_none.1 hfind row hrow]

/-- The consuming statement marks one active row, with the expected client and organization,
under a live context. -/
theorem consume_eq_some
    (h : consumeAuthorizationCodeForClient C db rawCode clientId organizationId =
      (some authorization, db')) :
    ∃ row ∈ db.authorizationCodes, row.codeHash = authorizationCodeHash C rawCode ∧
      row.consumedAt = none ∧ row.grant = authorization ∧
      db.clock < Time.ofTimestamp authorization.expiresAt ∧
      authorization.clientId = clientId ∧ authorization.organizationId = organizationId ∧
      contextIsActive db authorization.clientId authorization.organizationId
        authorization.userId = true ∧
      ∃ codes, db' = { db with authorizationCodes := codes } ∧ ∀ row', row' ∈ codes ↔
        row' = { row with consumedAt := some db.clock } ∨
          row' ∈ db.authorizationCodes ∧ row' ≠ row := by
  simp only [consumeAuthorizationCodeForClient, Prod.mk.injEq, Option.map_eq_some_iff] at h
  obtain ⟨⟨row, hfind, rfl⟩, rfl⟩ := h
  have hrow : row ∈ db.authorizationCodes := List.mem_of_find?_eq_some hfind
  have hp := List.find?_some hfind
  have honly : ∀ row' ∈ db.authorizationCodes,
      consumable C db rawCode clientId organizationId row' = true → row' = row := by
    intro row' hrow' hp'
    simp only [consumable, Bool.and_eq_true, beq_iff_eq] at hp hp'
    have hhash : row'.codeHash = row.codeHash := hp'.1.1.1.1.trans hp.1.1.1.1.symm
    exact eq_of_key hrow' hrow hhash
  refine ⟨row, hrow, ?_⟩
  have hmem := fun row' =>
    mem_update_of_unique (s := row') (f := markConsumed db.clock) hrow hp honly
  simp only [consumable, codeIsActive, Bool.and_eq_true, beq_iff_eq, Option.isNone_iff_eq_none,
    decide_eq_true_eq] at hp
  obtain ⟨⟨⟨⟨hhash, hconsumed, hexpiry⟩, hclient⟩, horganization⟩, hcontext⟩ := hp
  exact ⟨hhash, hconsumed, rfl, hexpiry, hclient, horganization, hcontext, _, rfl, hmem⟩

end Keylo.Oidc
