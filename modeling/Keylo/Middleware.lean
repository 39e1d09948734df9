import Keylo.Http

/-!
# Authentication of requests

The middleware of `middleware/auth.rs` in front of all protected routes. The decoding of signed
tokens and the query of the blacklist are parameters.

## Main definitions

* `ensureClaimPrincipalActive` : the check on the principal or the user of a token.
* `authMiddleware` : the claims a protected handler runs with.
* `customerSupportAuthMiddleware` : the claims a read of customer support runs with.

## Main results

* `exists_principal_of_authMiddleware` : the principal of an accepted token is active.
-/

namespace Keylo

open Relational

/-- The checks on the text of a token. -/
structure TokenChecks where
  /-- `JwtKeys::decode_token`. -/
  decodeToken : String → Except AuthError Claims
  /-- `is_token_blacklisted`; the query may fail. -/
  isTokenBlacklisted : String → Option Bool

/-- The routes of a user who has to change a temporary password. -/
def passwordChangeAllowedPath (path : String) : Bool :=
  ["/v1/auth/me", "/v1/auth/logout", "/v1/user/change-password", "/v1/user/mfa/verify"].contains
    path

def ensurePasswordChangeComplete (claims : Claims) : Except AuthError Unit :=
  if claims.passwordChangeRequired then .error .passwordChangeRequired else .ok ()

/-- Rejects disabled principals. Only a token without a principal is checked against the row of
its user. -/
def ensureClaimPrincipalActive (db : Db) (claims : Claims) : Except AuthError Unit :=
  match claims.principalId with
  | some principalId =>
    match (db.principals.lookup Principal.id principalId).filter Principal.active with
    | some _ => .ok ()
    | none => .error .invalidToken
  | none =>
    match claims.principalType, claims.uid with
    | some .user, some userId =>
      match (db.users.lookup User.id userId).filter User.active with
      | some _ => .ok ()
      | none => .error .invalidToken
    | _, _ => .ok ()

/-- The checks against the database, if there is one. -/
def checkToken (checks : TokenChecks) (token : String) (claims : Claims) :
    Option Db → Except AuthError Unit
  | none => .ok ()
  | some db =>
    match checks.isTokenBlacklisted token with
    | none => .error (.databaseError "Database error during token validation")
    | some true => .error .invalidToken
    | some false => ensureClaimPrincipalActive db claims

/-- The claims of an accepted request. -/
def authMiddleware (checks : TokenChecks) (db : Option Db) (path : String)
    (bearer : Option String) : Except AuthError Claims :=
  match bearer with
  | none => .error .unauthorized
  | some token =>
    match checks.decodeToken token with
    | .error e => .error e
    | .ok claims =>
      if claims.tokenType ≠ .access then .error .tokenTypeInvalid
      else
        match checkToken checks token claims db with
        | .error e => .error e
        | .ok () =>
          match if passwordChangeAllowedPath path then .ok ()
            else ensurePasswordChangeComplete claims with
          | .error e => .error e
          | .ok () => .ok claims

/-- The claims that the routes of customer support need. -/
def ensureCustomerSupportAccessClaims (claims : Claims) : Except AuthError Unit :=
  if claims.tokenType ≠ .customerSupportAccess then .error .tokenTypeInvalid
  else if claims.principalType ≠ some .user || (claims.uid.all String.isEmpty) ||
      (claims.principalId.all String.isEmpty) || (claims.organizationId.all String.isEmpty) ||
      (claims.customerSupportGrantId.all String.isEmpty) then
    .error .invalidToken
  else if !claims.hasRole "customer_support" then .error .insufficientRole
  else if !claims.hasAudience "admin-backend" then .error .invalidAudience
  else .ok ()

/-- The claims of an accepted request of customer support. -/
def customerSupportAuthMiddleware (checks : TokenChecks) (db : Option Db) (bearer : Option String) :
    Except AuthError Claims :=
  match bearer with
  | none => .error .unauthorized
  | some token => do
    let claims ← checks.decodeToken token
    ensureCustomerSupportAccessClaims claims
    match db with
    | none => .error (.databaseError "Database required for customer-support authentication")
    | some db =>
      match checks.isTokenBlacklisted token with
      | none => .error (.databaseError "Token validation failed")
      | some true => .error .invalidToken
      | some false =>
        ensureClaimPrincipalActive db claims
        pure claims

variable {bearer : Option String} {checks : TokenChecks} {claims : Claims} {path : String}

theorem checkToken_of_authMiddleware {db : Option Db}
    (h : authMiddleware checks db path bearer = .ok claims) :
    ∃ token, bearer = some token ∧ checks.decodeToken token = .ok claims ∧
      checkToken checks token claims db = .ok () := by
  unfold authMiddleware at h
  split at h
  · cases h
  rename_i token
  split at h
  · cases h
  rename_i hdecode
  split at h
  · cases h
  split at h
  · cases h
  rename_i hcheck
  split at h
  · cases h
  · cases h
    exact ⟨token, rfl, hdecode, hcheck⟩

/-- The principal of an accepted token exists and is active. -/
theorem exists_principal_of_authMiddleware {db : Db} {principalId : String}
    (h : authMiddleware checks (some db) path bearer = .ok claims)
    (hid : claims.principalId = some principalId) :
    ∃ p, db.principals.lookup Principal.id principalId = some p ∧ p.active = true := by
  obtain ⟨token, -, -, hcheck⟩ := checkToken_of_authMiddleware h
  simp only [checkToken] at hcheck
  split at hcheck
  · cases hcheck
  · cases hcheck
  simp only [ensureClaimPrincipalActive, hid] at hcheck
  split at hcheck
  · rename_i p hp
    exact ⟨p, Option.filter_eq_some_iff.1 hp⟩
  · cases hcheck

end Keylo
