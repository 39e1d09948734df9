import Keylo.Anonymous.Handlers
import Keylo.ClientSecrets
import Keylo.Middleware
import Keylo.Support.Grants

/-!
# The blacklist of tokens

A token is put on the blacklist by a logout or by an administrator, with a time after which its
entry is ignored and may be removed. The middleware and the introspection of tokens read the
blacklist after the signature and the expiry of a token have been checked; the exchange of a refresh
token does not read it.

The library that decodes tokens accepts them for a minute after they have expired. So an entry is
effective for every token that is not a refresh token if it lasts until the end of that minute, and
for as long as the query may come after the decoding.

## Main definitions

* `blacklistToken`, `isTokenBlacklisted`, `cleanupExpiredBlacklistedTokens`.
* `Blacklist.Accepts` : a token is accepted by a call that reads the given states.
* `Blacklist.system` : the runs of the statements on the blacklist.

## Main results

* `Blacklist.not_accepts_of_covered` : a token with a lasting entry is not accepted.
* `Blacklist.blacklisted_tokens_accepted` : entries as they are made do not last, and refresh tokens
  are accepted.
-/

namespace Keylo

open Relational Table

/-! ### Signed tokens -/

/-- What the library finds out about tokens under the keys, the issuer and the audiences that the
server has at some time. -/
structure Verifier where
  /-- The claims of a token with a valid signature. -/
  payload : String → Option Claims
  hasIssuer : String → Bool
  audiences : List String

/-- The seconds for which an expired token is still accepted, a default of `jsonwebtoken`. -/
def leeway : Int := 60

/-- `JwtKeys::decode_token` at the given time. -/
def Verifier.decodeToken (keys : Verifier) (now : Time) (token : String) :
    Except AuthError Claims :=
  match keys.payload token with
  | none => .error .invalidToken
  | some claims =>
    if claims.exp < now.timestamp - leeway then .error .expiredToken
    else if !keys.hasIssuer token then .error .invalidToken
    else if claims.aud ∉ keys.audiences then .error .invalidAudience
    else .ok claims

/-! ### The blacklist -/

section Blacklist

variable (crates : Crates) (db : Db)

/-- `INSERT … ON CONFLICT (token_hash) DO NOTHING`. -/
def blacklistToken (id token : String) (reason : Option String) (expiresAt : Int) :
    Except String Db :=
  match db.blacklistedTokens.lookup BlacklistedToken.tokenHash (tokenHash crates token) with
  | some _ => .ok db
  | none =>
    match db.blacklistedTokens.insert
      { id := id, tokenHash := tokenHash crates token, reason := reason
        expiresAt := .ofTimestamp expiresAt } with
    | none => .error uniqueViolation
    | some tokens => .ok { db with blacklistedTokens := tokens }

def isTokenBlacklisted (token : String) : Bool :=
  db.blacklistedTokens.any fun row =>
    row.tokenHash == tokenHash crates token && decide (db.clock < row.expiresAt)

def cleanupExpiredBlacklistedTokens : Db :=
  { db with
    blacklistedTokens := db.blacklistedTokens.delete fun row => decide (row.expiresAt ≤ db.clock) }

/-- The entry that a logout makes for its access token. -/
def authLogout (id token : String) (claims : Claims) : Except AuthError Db :=
  (blacklistToken crates db id token (some "User logout") claims.exp).mapError fun _ =>
    .databaseError "Failed to blacklist token"

end Blacklist

/-! ### Introspection -/

section Introspection

variable (db : Db) (claims : Claims)

/-- A token of customer support is active as long as its grant is. -/
def supportClaimsAreActive : Bool :=
  match claims.customerSupportGrantId, claims.principalId, claims.organizationId, claims.uid with
  | some grantId, some principalId, some organizationId, some userId =>
    if claims.principalType ≠ some .user || !claims.hasRole customerSupportRoleName ||
        !claims.hasAudience "admin-backend" then false
    else
      match db.principals.lookup Principal.id principalId with
      | none => false
      | some principal =>
        if !principal.active || principal.principalType != .user || principal.refId != userId then
          false
        else
          match getLiveCustomerSupportAccessContext db grantId principalId organizationId with
          | .ok decision => decision.allowed
          | .error _ => false
  | _, _, _, _ => false

/-- The membership that a token for an organization needs. -/
def organizationClaimIsActive : Bool :=
  match claims.organizationId with
  | none => true
  | some organizationId =>
    claims.principalType == some .user && claims.principalId.any fun principalId =>
      (getActiveOrganizationMembership db organizationId principalId).isSome

/-- A token with the authority of an administrator needs one that its holder still has. -/
def principalClaimIsActive (advertisesPlatformAdmin : Bool) (principalId : String) : Bool :=
  match db.principals.lookup Principal.id principalId with
  | none => false
  | some principal =>
    if !principal.active then false
    else
      match principal.principalType, advertisesPlatformAdmin with
      | .user, true => userIsPlatformAdmin db principal.refId
      | .client, true =>
        match getClientAuthInfo db principal.refId with
        | some (_, isAdminClient) => isAdminClient
        | none => false
      | _, _ => true

/-- A token without a principal is checked against its user, or not at all. -/
def userClaimIsActive (advertisesPlatformAdmin : Bool) : Bool :=
  match claims.principalType, claims.uid with
  | some .user, some userId =>
    match db.users.lookup User.id userId with
    | none => false
    | some user =>
      if !user.active then false
      else if advertisesPlatformAdmin then userIsPlatformAdmin db userId
      else true
  | _, _ => true

def introspectedClaimsAreActive : Bool :=
  if claims.tokenType = .customerSupportAccess then supportClaimsAreActive db claims
  else if !organizationClaimIsActive db claims then false
  else
    let advertisesPlatformAdmin := claims.hasRole "admin" || claims.hasScope "admin"
    match claims.principalId with
    | some principalId => principalClaimIsActive db advertisesPlatformAdmin principalId
    | none => userClaimIsActive db claims advertisesPlatformAdmin

/-- The claims that are reported for an active token; `allowed` is the verdict of the limiter. -/
def authIntrospect (checks : TokenChecks) (db : Option Db) (allowed : Bool) (token : String) :
    Option Claims :=
  if !allowed || token.isEmpty then none
  else
    match checks.decodeToken token with
    | .error _ => none
    | .ok claims =>
      match db with
      | none => some claims
      | some db =>
        if (checks.isTokenBlacklisted token).getD true || !introspectedClaimsAreActive db claims
        then none
        else some claims

end Introspection

namespace Blacklist

/-! ### Calls -/

variable (crates : Crates)

/-- What a call reads: the time at which it decodes the token, the state in which it queries the
blacklist (there is none if the query fails) and the state for all that comes after. -/
structure Reads where
  keys : Verifier
  decodedAt : Time
  listed : Option Db
  db : Db

/-- The checks of a call, each on the state that it reads. -/
def Reads.checks (reads : Reads) : TokenChecks where
  decodeToken := reads.keys.decodeToken reads.decodedAt
  isTokenBlacklisted token := reads.listed.map fun db => isTokenBlacklisted crates db token

/-- A server that decodes tokens with the keys and at the time of the call. -/
def Reads.state (reads : Reads) (state : Anonymous.AppState) : Anonymous.AppState :=
  { state with
    jwtKeys := { state.jwtKeys with decodeToken := reads.keys.decodeToken reads.decodedAt } }

/-- One of the handlers accepts the token. -/
inductive Accepts (state : Anonymous.AppState) (reads : Reads) (token : String) : Prop
  | authMiddleware {path claims}
      (h : Keylo.authMiddleware (reads.checks crates) (some reads.db) path (some token) =
        .ok claims)
  | customerSupportAuthMiddleware {claims}
      (h : Keylo.customerSupportAuthMiddleware (reads.checks crates) (some reads.db) (some token) =
        .ok claims)
  | authIntrospect {allowed claims}
      (h : Keylo.authIntrospect (reads.checks crates) (some reads.db) allowed token = some claims)
  | authRefresh {inputs body}
      (h : ((Anonymous.authRefresh (reads.state state) token).run.run inputs reads.db).1 =
        .ok body)

/-! ### Runs -/

/-- A statement on the blacklist, or a change of anything else. -/
inductive Operation
  | blacklistToken (id token : String) (reason : Option String) (expiresAt : Int)
  | cleanupExpiredBlacklistedTokens
  | other (db : Db)

def perform (db : Db) : Operation → Db
  | .blacklistToken id token reason expiresAt =>
    commit db (Keylo.blacklistToken crates db id token reason expiresAt)
  | .cleanupExpiredBlacklistedTokens => Keylo.cleanupExpiredBlacklistedTokens db
  | .other db' =>
    { db' with blacklistedTokens := db.blacklistedTokens, clock := max db.clock db'.clock }

def system : Transition.System Db Operation where
  step db operation := some (perform crates db operation)

/-- The token has an entry that lasts until the given time, or that time has passed. -/
def Covered (token : String) (expiry : Time) (db : Db) : Prop :=
  (∃ row ∈ db.blacklistedTokens,
    row.tokenHash = tokenHash crates token ∧ expiry ≤ row.expiresAt) ∨ expiry ≤ db.clock

variable {crates} {db db' : Db} {token id : String} {expiry : Time} {reads : Reads}
  {reason : Option String} {expiresAt : Int}

theorem blacklistToken_eq_ok (h : blacklistToken crates db id token reason expiresAt = .ok db') :
    (∃ row, db.blacklistedTokens.lookup BlacklistedToken.tokenHash (tokenHash crates token) =
        some row ∧ db' = db) ∨
      ∃ tokens, db.blacklistedTokens.insert
          { id := id, tokenHash := tokenHash crates token, reason := reason
            expiresAt := .ofTimestamp expiresAt } = some tokens ∧
        db' = { db with blacklistedTokens := tokens } := by
  unfold blacklistToken at h
  split at h
  · rename_i row hrow
    cases h
    exact .inl ⟨row, hrow, rfl⟩
  · split at h
    · cases h
    · rename_i tokens htokens
      cases h
      exact .inr ⟨tokens, htokens, rfl⟩

/-- The entry that is in force after a token has been put on the blacklist, which may be an older
one. -/
theorem covered_of_blacklistToken (h : blacklistToken crates db id token reason expiresAt = .ok db')
    (hold : ∀ row ∈ db.blacklistedTokens, row.tokenHash = tokenHash crates token →
      expiry ≤ row.expiresAt) (hnew : expiry ≤ .ofTimestamp expiresAt) :
    Covered crates token expiry db' := by
  obtain ⟨row, hrow, rfl⟩ | ⟨tokens, htokens, rfl⟩ := blacklistToken_eq_ok h
  · obtain ⟨hmem, hhash⟩ := lookup_eq_some_iff.1 hrow
    exact .inl ⟨row, hmem, hhash, hold row hmem hhash⟩
  · exact .inl ⟨_, (mem_of_insert_eq_some htokens).2 (.inl rfl), rfl, hnew⟩

section Kept

variable (h : Covered crates token expiry db)

include h

/-- An entry is only removed once it is not in force any more. -/
theorem Covered.perform (operation : Operation) :
    Covered crates token expiry (perform crates db operation) := by
  obtain ⟨row, hrow, hhash, hexpires⟩ | hpassed := h
  · cases operation with
    | blacklistToken id token' reason expiresAt =>
      refine .inl ⟨row, ?_, hhash, hexpires⟩
      simp only [Blacklist.perform]
      cases hresult : Keylo.blacklistToken crates db id token' reason expiresAt with
      | error => exact hrow
      | ok =>
        obtain ⟨_, -, rfl⟩ | ⟨tokens, htokens, rfl⟩ := blacklistToken_eq_ok hresult
        · exact hrow
        · exact (mem_of_insert_eq_some htokens).2 (.inr hrow)
    | cleanupExpiredBlacklistedTokens =>
      by_cases hpast : row.expiresAt ≤ db.clock
      · exact .inr (hexpires.trans hpast)
      · exact .inl ⟨row, mem_delete.2 ⟨hrow, decide_eq_false hpast⟩, hhash, hexpires⟩
    | other => exact .inl ⟨row, hrow, hhash, hexpires⟩
  · refine .inr (hpassed.trans ?_)
    cases operation with
    | blacklistToken id token' reason expiresAt =>
      simp only [Blacklist.perform]
      cases hresult : Keylo.blacklistToken crates db id token' reason expiresAt with
      | error => exact le_refl _
      | ok =>
        obtain ⟨_, -, rfl⟩ | ⟨tokens, htokens, rfl⟩ := blacklistToken_eq_ok hresult
        · exact le_refl _
        · exact le_refl _
    | cleanupExpiredBlacklistedTokens => exact le_refl _
    | other => exact le_max_left _ _

theorem Covered.run {operations : List Operation}
    (hrun : (system crates).run db operations = some db') : Covered crates token expiry db' :=
  (system crates).run_invariant (fun _ operation _ h hstep => by
    cases hstep
    exact h.perform operation) h hrun

theorem Covered.isTokenBlacklisted (hclock : db.clock < expiry) :
    isTokenBlacklisted crates db token = true := by
  obtain ⟨row, hrow, hhash, hexpires⟩ | hpassed := h
  · refine any_eq_true.2 ⟨row, hrow, ?_⟩
    simp only [hhash, beq_self_eq_true, Bool.true_and, decide_eq_true_eq]
    exact hclock.trans_le hexpires
  · exact absurd hpassed (not_le.2 hclock)

end Kept

variable {claims : Claims} {keys : Verifier}

/-- A token that is decoded has expired at most the leeway ago, in seconds. -/
theorem timestamp_le_of_decodeToken {now : Time} (h : keys.decodeToken now token = .ok claims) :
    keys.payload token = some claims ∧ now.timestamp ≤ claims.exp + leeway := by
  unfold Verifier.decodeToken at h
  split at h
  · cases h
  rename_i claims' hpayload
  split_ifs at h with hexpired hissuer haudience
  cases h
  exact ⟨hpayload, by omega⟩

/-- A token that is decoded has expired less than 61 seconds ago, if at all. -/
theorem lt_of_decodeToken {now : Time} (h : keys.decodeToken now token = .ok claims) :
    keys.payload token = some claims ∧ now < .ofTimestamp (claims.exp + leeway + 1) := by
  obtain ⟨hpayload, hseconds⟩ := timestamp_le_of_decodeToken h
  exact ⟨hpayload, (Int.ediv_lt_iff_lt_mul (by decide)).1 (Int.lt_add_one_iff.2 hseconds)⟩

/-! ### Rejection -/

/-- The blacklist is queried at most `delay` microseconds after the token has been decoded. -/
def Reads.Within (reads : Reads) (delay : ℕ) : Prop :=
  ∀ db ∈ reads.listed, db.clock ≤ reads.decodedAt + delay

/-- The time until which an entry has to last for a token that expires at `exp`. -/
def lastingUntil (exp : Int) (delay : ℕ) : Time := Time.ofTimestamp (exp + leeway + 1) + delay

/-- A token that can be decoded is found on the blacklist, if the query does not fail. -/
theorem listed_of_covered {delay : ℕ} (hwithin : reads.Within delay)
    (hcovered : ∀ db ∈ reads.listed, Covered crates token (lastingUntil claims.exp delay) db)
    (hdecode : (reads.checks crates).decodeToken token = .ok claims) :
    (reads.checks crates).isTokenBlacklisted token ≠ some false := by
  intro hfalse
  obtain ⟨db, hdb, hlisted⟩ := Option.map_eq_some_iff.1 hfalse
  have hnow := (lt_of_decodeToken hdecode).2
  have hclock := hwithin db hdb
  have hlisted' : isTokenBlacklisted crates db token = true := by
    exact (hcovered db hdb).isTokenBlacklisted
      (hclock.trans_lt (Int.add_lt_add_right hnow delay))
  rw [hlisted'] at hlisted
  cases hlisted

variable {checks : TokenChecks}

/-- The decoding and the query of a call that a middleware accepts. -/
theorem decodes_of_authMiddleware {path : String}
    (h : authMiddleware checks (some db) path (some token) = .ok claims) :
    checks.decodeToken token = .ok claims ∧ checks.isTokenBlacklisted token = some false := by
  obtain ⟨_, ⟨⟩, hdecode, hcheck⟩ := checkToken_of_authMiddleware h
  refine ⟨hdecode, ?_⟩
  simp only [checkToken] at hcheck
  split at hcheck
  · cases hcheck
  · cases hcheck
  · rename_i hlisted
    exact hlisted

theorem decodes_of_customerSupportAuthMiddleware
    (h : customerSupportAuthMiddleware checks (some db) (some token) = .ok claims) :
    checks.decodeToken token = .ok claims ∧ checks.isTokenBlacklisted token = some false := by
  obtain ⟨claims', hdecode, h⟩ := bind_eq_ok.1 h
  obtain ⟨_, -, h⟩ := bind_eq_ok.1 h
  dsimp only at h
  split at h
  · cases h
  · cases h
  rename_i hlisted
  obtain ⟨_, -, h⟩ := bind_eq_ok.1 h
  cases h
  exact ⟨hdecode, hlisted⟩

theorem decodes_of_authIntrospect {allowed : Bool}
    (h : authIntrospect checks (some db) allowed token = some claims) :
    checks.decodeToken token = .ok claims ∧ checks.isTokenBlacklisted token = some false := by
  unfold authIntrospect at h
  split_ifs at h
  split at h
  · cases h
  rename_i claims' hdecode
  dsimp only at h
  split_ifs at h with hinactive
  cases h
  refine ⟨hdecode, ?_⟩
  cases hlisted : checks.isTokenBlacklisted token with
  | none => simp [hlisted] at hinactive
  | some listed =>
    cases listed with
    | true => simp [hlisted] at hinactive
    | false => rfl

/-- A token that is not a refresh token is not exchanged. -/
theorem authRefresh_ne_ok {state : Anonymous.AppState} {inputs : ℕ → Oracle}
    {body : Anonymous.AuthBody}
    (htype : ∀ claims, state.jwtKeys.decodeToken token = .ok claims → claims.tokenType ≠ .refresh) :
    ((Anonymous.authRefresh state token).run.run inputs db).1 ≠ .ok body := by
  unfold Anonymous.authRefresh
  cases hdecode : state.jwtKeys.decodeToken token with
  | error => exact nofun
  | ok claims =>
    simp only [htype claims hdecode, ne_eq, not_false_eq_true, if_true]
    exact nofun

/-- What is known about the text of a token: when it expires, and that it is not a refresh token. -/
def Verifier.ReadsAs (keys : Verifier) (token : String) (exp : Int) : Prop :=
  ∀ claims, keys.payload token = some claims → claims.exp = exp ∧ claims.tokenType ≠ .refresh

/-- After a token that is not a refresh token has been put on the blacklist, no call accepts it, at
any later time and whatever happens in between: if the new entry, and an older one that it leaves in
place, last until 61 seconds after the expiry of the token and as long as a query may come after the
decoding. -/
theorem not_accepts_of_covered (crates : Crates) (state : Anonymous.AppState) (token id : String)
    (reason : Option String) (expiresAt exp : Int) (delay : ℕ) (db₀ db₁ : Db)
    (hcommit : blacklistToken crates db₀ id token reason expiresAt = .ok db₁)
    (hold : ∀ row ∈ db₀.blacklistedTokens, row.tokenHash = tokenHash crates token →
      lastingUntil exp delay ≤ row.expiresAt)
    (hnew : lastingUntil exp delay ≤ .ofTimestamp expiresAt) (reads : Reads)
    (hlater : ∀ db ∈ reads.listed, ∃ operations,
      (system crates).run db₁ operations = some db)
    (hwithin : reads.Within delay) (hkeys : Verifier.ReadsAs reads.keys token exp) :
    ¬ Accepts crates state reads token := by
  have hcovered : ∀ claims, (reads.checks crates).decodeToken token = .ok claims →
      (reads.checks crates).isTokenBlacklisted token ≠ some false := by
    intro claims hdecode
    refine listed_of_covered hwithin (fun db hdb => ?_) hdecode
    rw [(hkeys claims (lt_of_decodeToken hdecode).1).1]
    obtain ⟨operations, hrun⟩ := hlater db hdb
    exact (covered_of_blacklistToken hcommit hold hnew).run hrun
  intro haccepts
  cases haccepts with
  | authMiddleware h =>
    obtain ⟨hdecode, hlisted⟩ := decodes_of_authMiddleware h
    exact hcovered _ hdecode hlisted
  | customerSupportAuthMiddleware h =>
    obtain ⟨hdecode, hlisted⟩ := decodes_of_customerSupportAuthMiddleware h
    exact hcovered _ hdecode hlisted
  | authIntrospect h =>
    obtain ⟨hdecode, hlisted⟩ := decodes_of_authIntrospect h
    exact hcovered _ hdecode hlisted
  | authRefresh h =>
    exact authRefresh_ne_ok (fun claims hdecode => (hkeys claims (lt_of_decodeToken hdecode).1).2) h

/-- Keys for which a token is the type of its claims, all of which expire at time 100. -/
def sampleKeys : Verifier where
  payload token :=
    if token = "access" then some { aud := "admin-backend", exp := 100, jti := "a" }
    else if token = "refresh" then
      some { tokenType := .refresh, aud := "admin-backend", exp := 100, jti := "r" }
    else none
  hasIssuer _ := true
  audiences := ["admin-backend"]

def sampleState : Anonymous.AppState :=
  ⟨.readable, ⟨fun claims => .ok claims.jti, fun _ => .error .invalidToken⟩, 3600, 86400, ""⟩

/-- A call all of whose reads are of one state. -/
def Reads.at (db : Db) : Reads := ⟨sampleKeys, db.clock, some db, db⟩

/-- The state at a time in seconds. -/
def atSeconds (seconds : Int) (db : Db) : Db := { db with clock := .ofTimestamp seconds }

/-- The database after the token has been put on the blacklist at the given time. -/
def listedAt (seconds : Int) (token : String) (expiresAt : Int) (db : Db) : Db :=
  commit db (blacklistToken Crates.readable (atSeconds seconds db) token token none expiresAt)

theorem not_accepts_of_covered_logout :
    ¬ Accepts Crates.readable sampleState
      (Reads.at (cleanupExpiredBlacklistedTokens
        (atSeconds 130 (listedAt 10 "access" 200 {})))) "access" := by
  refine not_accepts_of_covered Crates.readable sampleState "access" "access" none 200 100 0
    (atSeconds 10 {}) (listedAt 10 "access" 200 {}) rfl (fun row hrow => ?_) (by decide) _ ?_ ?_ ?_
  · exact absurd hrow not_mem_empty
  · rintro _ ⟨⟩
    exact ⟨[.other (atSeconds 130 {}), .cleanupExpiredBlacklistedTokens], rfl⟩
  · rintro _ ⟨⟩
    exact le_refl _
  · rintro _ ⟨⟩
    exact ⟨rfl, nofun⟩

/-- A user with a session whose token is `refresh`. -/
def sampleDb : Db where
  users := .single { id := "u", username := "u", email := "u@e" }
  principals := .single ⟨.user, "u", "u", true⟩
  refreshSessions :=
    .single { id := "s", principalId := principalId .user "u", clientId := "user:u"
              currentRefreshTokenId := "r", currentAccessJti := "a", expiresAt := .ofTimestamp 100 }
  refreshSessionTokens :=
    .single { tokenId := "r", sessionId := "s", tokenHash := tokenHash .readable "refresh"
              expiresAt := .ofTimestamp 100 }

/-- A token is accepted again half a minute after it has expired, although its holder has logged
out; a token that has once been put on the blacklist for some seconds is accepted after them,
although it has been put there again; and a refresh token on the blacklist is exchanged. -/
theorem blacklisted_tokens_accepted :
    (∃ db, authLogout Crates.readable (atSeconds 10 {}) "id" "access"
        { aud := "admin-backend", exp := 100, jti := "a" } = .ok db ∧
      isTokenBlacklisted Crates.readable db "access" = true ∧
      Accepts Crates.readable sampleState (Reads.at (atSeconds 130 db)) "access") ∧
    Accepts Crates.readable sampleState
      (Reads.at (atSeconds 50 (listedAt 10 "access" 1000 (listedAt 5 "access" 20 {})))) "access" ∧
    Accepts Crates.readable sampleState
      (Reads.at (atSeconds 50 (listedAt 10 "refresh" 1000 sampleDb))) "refresh" := by
  refine ⟨⟨_, rfl, by decide +kernel, ?_⟩, ?_, ?_⟩
  · exact @Accepts.authMiddleware _ _ _ _ "/v1/auth/me"
      { aud := "admin-backend", exp := 100, jti := "a" } (by decide +kernel)
  · exact @Accepts.authMiddleware _ _ _ _ "/v1/auth/me"
      { aud := "admin-backend", exp := 100, jti := "a" } (by decide +kernel)
  · exact @Accepts.authRefresh _ _ _ _ (fun _ => { uuid := "x" }) ⟨"x", some "x", 3600, false⟩
      (by decide +kernel)

end Blacklist

end Keylo
