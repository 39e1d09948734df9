import Keylo.Foundation.System
import Keylo.Http
import Keylo.Mfa.Store

/-!
# The MFA endpoints

The handlers of `routes/mfa.rs` as a protocol. A request moves through phases; every phase ends
with one statement or transaction on the database, and between two phases of one request any
number of phases of other requests may happen. The audit log entries that follow the last
statement are not part of the model, since nothing reads them.

A phase carries the local variables of the handler. Two of them are kept for the statement of
properties only: the seed whose code a handler has checked, and whether a reset was admitted by
a proof.

## Main definitions

* `Phase` : where a request stands.
* `next` : the next phase of a request.
* `protocol` : the interleaving of all requests and of the clock.

## Main results

* `outcome_of_next`, `step_cases` : what a step of a request and of the protocol can do.
* `Phase.Origin.next` : a request keeps its user and its token.
-/

namespace Keylo.Mfa

open Relational Transition

/-- The requests of the MFA endpoints. -/
inductive Request
  | startTotpEnrollment (claims : Claims)
  | verifyTotpEnrollment (claims : Claims) (code : String)
  | resetTotpEnrollment (claims : Claims)
  | verifyRecentMfa (claims : Claims) (totpCode recoveryCode : Option String)
deriving DecidableEq, Repr

/-- The successful responses of the MFA endpoints. -/
inductive Success
  | enrollment (manualEntryKey provisioningUri : String)
  | enabled (recoveryCodes : List String)
  | reset
  | verified (method : String) (verifiedUntil : Int)
deriving DecidableEq, Repr

/-- Where a request stands, with the local variables its handler still needs. -/
inductive Phase
  /-- Nothing has been done yet. -/
  | received (request : Request)
  /-- `start_totp_enrollment` has loaded the user. -/
  | startCredential (userId email : String)
  /-- `start_totp_enrollment` has drawn a seed for a user without an enabled credential. -/
  | startSave (userId seed encryptedSeed provisioningUri : String)
  /-- `verify_totp_enrollment` has loaded a pending credential. -/
  | enrollCheck (userId code : String) (credential : TotpCredential)
  /-- `verify_totp_enrollment` has checked a code of the seed. -/
  | enrollEnable (userId encryptedSeed : String) (step : Int)
  /-- `reset_totp_enrollment` has loaded an enabled credential and needs a proof. -/
  | resetProof (userId jti : String)
  /-- `reset_totp_enrollment` has been admitted, by a proof or because MFA was not enabled. -/
  | resetDelete (userId jti : String) (proved : Bool)
  /-- `verify_recent_mfa` has loaded an enabled credential. -/
  | recentCheck (userId jti : String) (credential : TotpCredential)
      (totpCode recoveryCode : Option String)
  /-- `verify_recent_mfa` has checked a code of the seed. -/
  | recentTotp (userId jti encryptedSeed : String) (step verifiedUntil : Int)
  /-- `verify_recent_mfa` is about to compare a recovery code. -/
  | recentRecovery (userId jti code : String) (verifiedUntil : Int)
  /-- The response has been sent. -/
  | done (response : Except ApiError Success)

/-- What a phase does not compute itself: failures of the database, the decision of the rate
limiter, and the random values it draws. -/
structure Input where
  fault : Bool := false
  rateLimited : Bool := false
  seed : String := ""
  nonce : List UInt8 := []
  uuids : Fin recoveryCodeCount → String := fun _ => ""
  ids : Nat → String := fun _ => ""
  salts : Nat → String := fun _ => ""

/-- The libraries and the configured key (`mfa_secret_key_bytes`). -/
structure Server where
  crates : Crates
  key : Option (List UInt8)

def unauthorizedResponse : ApiError := ⟨401, "A user access token is required", false⟩

def mfaUnavailableResponse : ApiError := ⟨503, "MFA is not configured", false⟩

def tooManyRequestsResponse : ApiError := ⟨429, "too_many_requests", false⟩

def recentMfaRequiredResponse : ApiError := ⟨403, "Recent MFA verification is required", true⟩

/-- Only user principals with a user id may change their own MFA state. -/
def requireUserId (claims : Claims) : Except ApiError String :=
  match claims.principalType with
  | some .user | none =>
    match claims.uid with
    | some uid => .ok uid
    | none => .error unauthorizedResponse
  | some _ => .error unauthorizedResponse

/-- A phase that ends the request with an error. -/
def Phase.fail (e : ApiError) : Phase := .done (.error e)

variable (S : Server) (a : Input) (db : Db)

/-! ### Starting an enrollment -/

def startTotpEnrollment (claims : Claims) : Phase :=
  match requireUserId claims with
  | .error e => .fail e
  | .ok userId =>
    if S.key.isNone then .fail mfaUnavailableResponse
    else if a.fault then .fail (internalErrorResponse "Failed to load user")
    else
      match db.users.lookup User.id userId with
      | none => .fail (notFoundResponse "User not found")
      | some user => .startCredential userId user.email

def startCredential (userId email : String) : Phase :=
  if a.fault then .fail (internalErrorResponse "Failed to load MFA state")
  else if IsEnabled db userId then .fail (conflictResponse "TOTP is already enabled")
  else
    match encryptTotpSeed S.crates a.seed (S.key.getD []) a.nonce with
    | .error _ => .fail mfaUnavailableResponse
    | .ok encryptedSeed =>
      match totpProvisioningUri S.crates a.seed "Keylo" email with
      | .error _ => .fail (badRequestResponse "Unable to create TOTP enrollment")
      | .ok uri => .startSave userId a.seed encryptedSeed uri

def startSave (userId seed encryptedSeed provisioningUri : String) : Db × Phase :=
  if a.fault then (db, .fail (internalErrorResponse "Failed to save MFA enrollment"))
  else
    (savePendingTotpCredential db userId encryptedSeed,
      .done (.ok (.enrollment seed provisioningUri)))

/-! ### Verifying an enrollment -/

def verifyTotpEnrollment (claims : Claims) (code : String) : Phase :=
  match requireUserId claims with
  | .error e => .fail e
  | .ok userId =>
    if a.rateLimited then .fail tooManyRequestsResponse
    else if S.key.isNone then .fail mfaUnavailableResponse
    else if a.fault then .fail (internalErrorResponse "Failed to load MFA state")
    else
      match getTotpCredential db userId with
      | none => .fail (notFoundResponse "No pending TOTP enrollment")
      | some credential =>
        if credential.enabledAt.isNone then .enrollCheck userId code credential
        else .fail (conflictResponse "TOTP is already enabled")

def enrollCheck (userId code : String) (credential : TotpCredential) : Phase :=
  match decryptTotpSeed S.crates credential.encryptedSeed (S.key.getD []) with
  | .error _ => .fail mfaUnavailableResponse
  | .ok seed =>
    match acceptedStep S.crates seed code db.clock.timestamp with
    | none => .fail (badRequestResponse "Invalid TOTP code")
    | some step => .enrollEnable userId credential.encryptedSeed step

def enrollEnable (userId : String) (step : Int) : Db × Phase :=
  let recoveryCodes := generateRecoveryCodes a.uuids
  if a.fault then (db, .fail (internalErrorResponse "Failed to enable TOTP"))
  else
    match enableTotpCredentialWithRecoveryCodes S.crates db userId step recoveryCodes
        a.ids a.salts with
    | none => (db, .fail (internalErrorResponse "Failed to enable TOTP"))
    | some (false, db') => (db', .fail (conflictResponse "TOTP enrollment is no longer pending"))
    | some (true, db') => (db', .done (.ok (.enabled recoveryCodes)))

/-! ### Resetting an enrollment -/

/-- The handler up to the read of the credential in `require_recent_mfa_for_enabled_user`. -/
def resetTotpEnrollment (claims : Claims) : Phase :=
  match requireUserId claims with
  | .error e => .fail e
  | .ok userId =>
    if a.fault then .fail (internalErrorResponse "Failed to load MFA state")
    else if IsEnabled db userId then .resetProof userId claims.jti
    else .resetDelete userId claims.jti false

def resetProof (userId jti : String) : Phase :=
  if a.fault then .fail (internalErrorResponse "Failed to validate recent MFA verification")
  else if hasRecentMfaVerification db userId jti then .resetDelete userId jti true
  else .fail recentMfaRequiredResponse

def resetDelete (userId : String) : Db × Phase :=
  if a.fault then (db, .fail (internalErrorResponse "Failed to reset TOTP"))
  else
    match deleteTotpCredential db userId with
    | (true, db') => (db', .done (.ok .reset))
    | (false, db') => (db', .fail (notFoundResponse "TOTP is not enabled"))

/-! ### Verifying a factor -/

def verifyRecentMfa (claims : Claims) (totpCode recoveryCode : Option String) : Phase :=
  match requireUserId claims with
  | .error e => .fail e
  | .ok userId =>
    if totpCode.isSome == recoveryCode.isSome then
      .fail (badRequestResponse "Provide exactly one MFA factor")
    else if a.rateLimited then .fail tooManyRequestsResponse
    else if a.fault then .fail (internalErrorResponse "Failed to load MFA state")
    else
      match getTotpCredential db userId with
      | none => .fail (badRequestResponse "TOTP is not enabled")
      | some credential =>
        if credential.enabledAt.isSome then
          .recentCheck userId claims.jti credential totpCode recoveryCode
        else .fail (badRequestResponse "TOTP is not enabled")

def recentCheck (userId jti : String) (credential : TotpCredential)
    (totpCode recoveryCode : Option String) : Phase :=
  let now := db.clock.timestamp
  let verifiedUntil := now + mfaRecentVerificationSeconds
  match totpCode with
  | none => .recentRecovery userId jti (recoveryCode.getD "") verifiedUntil
  | some code =>
    match S.key with
    | none => .fail mfaUnavailableResponse
    | some key =>
      match decryptTotpSeed S.crates credential.encryptedSeed key with
      | .error _ => .fail mfaUnavailableResponse
      | .ok seed =>
        match acceptedStep S.crates seed code now with
        | none => .fail (badRequestResponse "Invalid MFA code")
        | some step => .recentTotp userId jti credential.encryptedSeed step verifiedUntil

/-- The response to a consumed, rejected or failed factor. -/
def recentResult (method : String) (verifiedUntil : Int) : Option Bool → Phase
  | some true => .done (.ok (.verified method verifiedUntil))
  | some false => .fail (badRequestResponse "Invalid or already used MFA code")
  | none => .fail (internalErrorResponse "Failed to verify MFA")

def recentTotp (userId jti : String) (step verifiedUntil : Int) : Db × Phase :=
  if a.fault then (db, recentResult "totp" verifiedUntil none)
  else
    let r := consumeTotpStepAndRecordRecentVerification db userId step jti verifiedUntil
    (r.2, recentResult "totp" verifiedUntil (some r.1))

def recentRecovery (userId jti code : String) (verifiedUntil : Int) : Db × Phase :=
  if a.fault then (db, recentResult "recovery_code" verifiedUntil none)
  else
    match consumeRecoveryCodeAndRecordRecentVerification S.crates db userId code jti
        verifiedUntil with
    | none => (db, recentResult "recovery_code" verifiedUntil none)
    | some (accepted, db') => (db', recentResult "recovery_code" verifiedUntil (some accepted))

/-! ### The protocol -/

/-- The next phase of a request. -/
def next : Phase → Option (Db × Phase)
  | .received (.startTotpEnrollment claims) => some (db, startTotpEnrollment S a db claims)
  | .received (.verifyTotpEnrollment claims code) =>
    some (db, verifyTotpEnrollment S a db claims code)
  | .received (.resetTotpEnrollment claims) => some (db, resetTotpEnrollment a db claims)
  | .received (.verifyRecentMfa claims totpCode recoveryCode) =>
    some (db, verifyRecentMfa a db claims totpCode recoveryCode)
  | .startCredential userId email => some (db, startCredential S a db userId email)
  | .startSave userId seed encryptedSeed uri => some (startSave a db userId seed encryptedSeed uri)
  | .enrollCheck userId code credential => some (db, enrollCheck S db userId code credential)
  | .enrollEnable userId _ step => some (enrollEnable S a db userId step)
  | .resetProof userId jti => some (db, resetProof a db userId jti)
  | .resetDelete userId _ _ => some (resetDelete a db userId)
  | .recentCheck userId jti credential totpCode recoveryCode =>
    some (db, recentCheck S db userId jti credential totpCode recoveryCode)
  | .recentTotp userId jti _ step verifiedUntil =>
    some (recentTotp a db userId jti step verifiedUntil)
  | .recentRecovery userId jti code verifiedUntil =>
    some (recentRecovery S a db userId jti code verifiedUntil)
  | .done _ => none

/-- All requests, interleaved with the clock. -/
def protocol (ι : Type*) : Protocol ι Db Phase Input Nat where
  next _ a db := next S a db
  env elapsed db := some { db with clock := db.clock + elapsed }

/-- The requests `r` before any of them has been handled. -/
def received {ι : Type*} (db : Db) (r : ι → Request) : Config ι Db Phase :=
  ⟨db, fun i => .received (r i)⟩

/-! ### What a phase does -/

/-- The committed writes of the phases: the phase, the database it leaves and the next phase. -/
inductive Write : Phase → Db → Phase → Prop
  | save (userId seed encryptedSeed uri : String) :
      Write (.startSave userId seed encryptedSeed uri)
        (savePendingTotpCredential db userId encryptedSeed) (.done (.ok (.enrollment seed uri)))
  | enable {userId encryptedSeed step} {db' : Db}
      (h : enableTotpCredentialWithRecoveryCodes S.crates db userId step
        (generateRecoveryCodes a.uuids) a.ids a.salts = some (true, db')) :
      Write (.enrollEnable userId encryptedSeed step) db'
        (.done (.ok (.enabled (generateRecoveryCodes a.uuids))))
  | delete {userId jti proved} {db' : Db}
      (h : deleteTotpCredential db userId = (true, db')) :
      Write (.resetDelete userId jti proved) db' (.done (.ok .reset))
  | totp {userId jti encryptedSeed step verifiedUntil} {db' : Db}
      (h : consumeTotpStepAndRecordRecentVerification db userId step jti verifiedUntil =
        (true, db')) :
      Write (.recentTotp userId jti encryptedSeed step verifiedUntil) db'
        (.done (.ok (.verified "totp" verifiedUntil)))
  | recovery {userId jti code verifiedUntil} {db' : Db}
      (h : consumeRecoveryCodeAndRecordRecentVerification S.crates db userId code jti
        verifiedUntil = some (true, db')) :
      Write (.recentRecovery userId jti code verifiedUntil) db'
        (.done (.ok (.verified "recovery_code" verifiedUntil)))

/-- The steps of a request to a phase in which it is still handled. None of them writes. -/
inductive Advance : Phase → Phase → Prop
  | startUser {claims u} {user : User} (hu : requireUserId claims = .ok u)
      (huser : db.users.lookup User.id u = some user) :
      Advance (.received (.startTotpEnrollment claims)) (.startCredential u user.email)
  | startSeed {u email encryptedSeed uri} (henabled : ¬ IsEnabled db u) :
      Advance (.startCredential u email) (.startSave u a.seed encryptedSeed uri)
  | enrollRead {claims u code} {credential : TotpCredential}
      (hu : requireUserId claims = .ok u) (hread : getTotpCredential db u = some credential)
      (hpending : credential.enabledAt = none) :
      Advance (.received (.verifyTotpEnrollment claims code)) (.enrollCheck u code credential)
  | enrollCode {u code seed} {credential : TotpCredential} {step}
      (hseed : decryptTotpSeed S.crates credential.encryptedSeed (S.key.getD []) = .ok seed)
      (hstep : acceptedStep S.crates seed code db.clock.timestamp = some step) :
      Advance (.enrollCheck u code credential) (.enrollEnable u credential.encryptedSeed step)
  | resetGuarded {claims : Claims} {u} (hu : requireUserId claims = .ok u)
      (henabled : IsEnabled db u) :
      Advance (.received (.resetTotpEnrollment claims)) (.resetProof u claims.jti)
  | resetUnguarded {claims : Claims} {u} (hu : requireUserId claims = .ok u)
      (henabled : ¬ IsEnabled db u) :
      Advance (.received (.resetTotpEnrollment claims)) (.resetDelete u claims.jti false)
  | resetProved {u jti} (hfault : a.fault = false)
      (hproof : hasRecentMfaVerification db u jti = true) :
      Advance (.resetProof u jti) (.resetDelete u jti true)
  | recentRead {claims : Claims} {u} {credential : TotpCredential}
      {totpCode recoveryCode} (hu : requireUserId claims = .ok u)
      (hread : getTotpCredential db u = some credential)
      (henabled : credential.enabledAt ≠ none) :
      Advance (.received (.verifyRecentMfa claims totpCode recoveryCode))
        (.recentCheck u claims.jti credential totpCode recoveryCode)
  | recentCode {u jti code seed} {credential : TotpCredential}
      {recoveryCode key step} (hkey : S.key = some key)
      (hseed : decryptTotpSeed S.crates credential.encryptedSeed key = .ok seed)
      (hstep : acceptedStep S.crates seed code db.clock.timestamp = some step) :
      Advance (.recentCheck u jti credential (some code) recoveryCode)
        (.recentTotp u jti credential.encryptedSeed step
          (db.clock.timestamp + mfaRecentVerificationSeconds))
  | recentRecoveryCode {u jti credential}
      {recoveryCode : Option String} :
      Advance (.recentCheck u jti credential none recoveryCode)
        (.recentRecovery u jti (recoveryCode.getD "")
          (db.clock.timestamp + mfaRecentVerificationSeconds))

variable {S a db} {db' : Db} {p p' : Phase}

theorem Advance.ne_done (hadv : Advance S a db p p') (response : Except ApiError Success) :
    p' ≠ .done response := by
  cases hadv <;> nofun

theorem Write.eq_done (hw : Write S a db p db' p') : ∃ response, p' = .done (.ok response) := by
  cases hw <;> exact ⟨_, rfl⟩

/-- A step of a request ends it with an error and writes nothing, or moves it to a phase in which
it is still handled and writes nothing, or commits the write of its phase. -/
inductive Outcome (S : Server) (a : Input) (db : Db) (p : Phase) : Db → Phase → Prop
  | fail (e : ApiError) : Outcome S a db p db (.fail e)
  | advance {p' : Phase} (h : Advance S a db p p') : Outcome S a db p db p'
  | write {db' : Db} {p' : Phase} (hfault : a.fault = false) (h : Write S a db p db' p') :
      Outcome S a db p db' p'

theorem outcome_ite {e : ApiError} {result : Db × Phase}
    (h : a.fault = false → Outcome S a db p result.1 result.2)
    (heq : some (if a.fault then (db, .fail e) else result) = some (db', p')) :
    Outcome S a db p db' p' := by
  split at heq
  · cases heq
    exact .fail e
  case isFalse hfault =>
    cases heq
    exact h (by simpa using hfault)

theorem outcome_of_next (h : next S a db p = some (db', p')) : Outcome S a db p db' p' := by
  cases p with
  | received r =>
    cases r with
    | startTotpEnrollment =>
      cases h
      unfold startTotpEnrollment
      split
      · exact .fail _
      case h_2 u hu =>
        split_ifs with hkey hfault
        · exact .fail _
        · exact .fail _
        split
        · exact .fail _
        case h_2 user huser => exact .advance (.startUser hu huser)
    | verifyTotpEnrollment =>
      cases h
      unfold verifyTotpEnrollment
      split
      · exact .fail _
      case h_2 u hu =>
        split_ifs with hlimited hkey hfault
        · exact .fail _
        · exact .fail _
        · exact .fail _
        split
        · exact .fail _
        case h_2 credential hread =>
          split_ifs with hpending
          · exact .advance (.enrollRead hu hread (by simpa using hpending))
          · exact .fail _
    | resetTotpEnrollment =>
      cases h
      unfold resetTotpEnrollment
      split
      · exact .fail _
      case h_2 u hu =>
        split_ifs with hfault henabled
        · exact .fail _
        · exact .advance (.resetGuarded hu henabled)
        · exact .advance (.resetUnguarded hu henabled)
    | verifyRecentMfa =>
      cases h
      unfold verifyRecentMfa
      split
      · exact .fail _
      case h_2 u hu =>
        split_ifs with hone hlimited hfault
        · exact .fail _
        · exact .fail _
        · exact .fail _
        split
        · exact .fail _
        case h_2 credential hread =>
          split_ifs with henabled
          · exact .advance (.recentRead hu hread (Option.isSome_iff_ne_none.1 henabled))
          · exact .fail _
  | startCredential =>
    cases h
    unfold startCredential
    split_ifs with hfault henabled
    · exact .fail _
    · exact .fail _
    split
    · exact .fail _
    split
    · exact .fail _
    · exact .advance (.startSeed henabled)
  | startSave u seed enc uri =>
    exact outcome_ite (fun hfault => .write hfault (.save u seed enc uri)) h
  | enrollCheck =>
    cases h
    unfold enrollCheck
    split
    · exact .fail _
    case h_2 seed hseed =>
      split
      · exact .fail _
      case h_2 step hstep => exact .advance (.enrollCode hseed hstep)
  | enrollEnable =>
    refine outcome_ite (fun hfault => ?_) h
    split
    · exact .fail _
    case h_2 db₁ henable =>
      obtain ⟨-, rfl⟩ | ⟨⟨⟩, -⟩ := enable_eq_some henable
      exact .fail _
    case h_3 db₁ henable => exact .write hfault (.enable henable)
  | resetProof =>
    cases h
    unfold resetProof
    split_ifs with hfault hproof
    · exact .fail _
    · exact .advance (.resetProved (by simpa using hfault) hproof)
    · exact .fail _
  | resetDelete =>
    refine outcome_ite (fun hfault => ?_) h
    split
    case h_1 db₁ hdelete => exact .write hfault (.delete hdelete)
    case h_2 db₁ hdelete =>
      obtain ⟨-, rfl⟩ | ⟨⟨⟩, -⟩ := deleteTotpCredential_eq hdelete
      exact .fail _
  | recentCheck =>
    cases h
    simp only [recentCheck]
    split
    · exact .advance .recentRecoveryCode
    case h_2 code =>
      split
      · exact .fail _
      case h_2 key hkey =>
        split
        · exact .fail _
        case h_2 seed hseed =>
          split
          · exact .fail _
          case h_2 step hstep => exact .advance (.recentCode hkey hseed hstep)
  | recentTotp u jti enc step verifiedUntil =>
    refine outcome_ite (fun hfault => ?_) h
    cases hconsume : consumeTotpStepAndRecordRecentVerification db u step jti verifiedUntil with
    | mk accepted =>
      cases accepted with
      | true => exact .write hfault (.totp hconsume)
      | false =>
        obtain ⟨-, rfl⟩ | ⟨⟨⟩, -⟩ := consumeTotpStep_eq hconsume
        exact .fail _
  | recentRecovery =>
    refine outcome_ite (fun hfault => ?_) h
    split
    · exact .fail _
    case h_2 accepted db₁ hconsume =>
      cases accepted with
      | true => exact .write hfault (.recovery hconsume)
      | false =>
        obtain ⟨-, rfl⟩ | ⟨⟨⟩, -⟩ := consumeRecoveryCode_eq_some hconsume
        exact .fail _
  | done => cases h

/-- A step of the protocol moves the clock, or writes nothing and reports no success, or commits
the write of a phase. -/
theorem step_cases {ι : Type*} [DecidableEq ι] {c c' : Config ι Db Phase}
    {l : Action ι Input Nat} (h : (protocol S ι).system.step c l = some c') :
    (∃ elapsed : Nat, l = .environment elapsed ∧
      c' = { c with shared := { c.shared with clock := c.shared.clock + elapsed } }) ∨
    (∃ i a, l = .request i a ∧ c'.shared = c.shared ∧
      ∀ response, c'.request i ≠ .done (.ok response)) ∨
    ∃ i a, l = .request i a ∧ a.fault = false ∧
      Write S a c.shared (c.request i) c'.shared (c'.request i) := by
  obtain ⟨elapsed, db', rfl, hdb', rfl⟩ | ⟨i, a, db', p', rfl, hnext, rfl⟩ := Protocol.step_cases h
  · cases hdb'
    exact .inl ⟨elapsed, rfl, rfl⟩
  right
  cases outcome_of_next hnext with
  | fail => exact .inl ⟨i, a, rfl, rfl, fun _ => by simp [Phase.fail]⟩
  | advance hadv => exact .inl ⟨i, a, rfl, rfl, fun _ => by simpa using hadv.ne_done _⟩
  | write hfault hw => exact .inr ⟨i, a, rfl, hfault, by simpa using hw⟩

/-- The phases a request can be in, with the user and the token of the request. -/
def Phase.Origin (r : Request) : Phase → Prop
  | .received r' => r' = r
  | .startCredential u _ | .startSave u _ _ _ =>
    ∃ claims, r = .startTotpEnrollment claims ∧ requireUserId claims = .ok u
  | .enrollCheck u code _ =>
    ∃ claims, r = .verifyTotpEnrollment claims code ∧ requireUserId claims = .ok u
  | .enrollEnable u _ _ =>
    ∃ claims code, r = .verifyTotpEnrollment claims code ∧ requireUserId claims = .ok u
  | .resetProof u jti | .resetDelete u jti _ =>
    ∃ claims, r = .resetTotpEnrollment claims ∧ requireUserId claims = .ok u ∧ claims.jti = jti
  | .recentCheck u jti _ _ _ | .recentTotp u jti _ _ _ | .recentRecovery u jti _ _ =>
    ∃ claims t k, r = .verifyRecentMfa claims t k ∧ requireUserId claims = .ok u ∧
      claims.jti = jti
  | .done _ => True

/-- A request keeps its user and its token through all phases. -/
theorem Phase.Origin.next {r : Request} (hp : p.Origin r) (h : next S a db p = some (db', p')) :
    p'.Origin r := by
  cases outcome_of_next h with
  | fail => trivial
  | advance hadv =>
    cases hadv with
    | startUser hu | enrollRead hu => exact ⟨_, hp.symm, hu⟩
    | enrollCode => exact ⟨hp.choose, _, hp.choose_spec⟩
    | resetGuarded hu | resetUnguarded hu => exact ⟨_, hp.symm, hu, rfl⟩
    | recentRead hu => exact ⟨_, _, _, hp.symm, hu, rfl⟩
    | _ => exact hp
  | write hfault hw =>
    obtain ⟨response, rfl⟩ := hw.eq_done
    trivial

end Keylo.Mfa
