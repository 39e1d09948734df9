import Keylo.Crates
import Keylo.Text

/-!
# Second factors

Time-based one-time passwords, their encrypted seeds, and recovery codes, as in `models/mfa.rs`.
-/

namespace Keylo.Mfa

/-- `TOTP_STEP_SECONDS`. -/
def totpStepSeconds : Nat := 30

/-- `TOTP_DIGITS`. -/
def totpDigits : Nat := 6

/-- `RECOVERY_CODE_COUNT`. -/
def recoveryCodeCount : Nat := 10

/-- `MFA_RECENT_VERIFICATION_SECONDS`. -/
def mfaRecentVerificationSeconds : Int := 600

/-! ### Recovery codes -/

/-- The code without dashes in lower case, if it consists of 32 hexadecimal digits. -/
def normalizeRecoveryCode (code : String) : Option String :=
  if code.toList.all fun c => isAsciiHexdigit c || c == '-' then
    let compact := code.toList.filter (· != '-')
    if compact.length == 32 && compact.all isAsciiHexdigit then
      some (String.ofList (compact.map Char.toLower))
    else
      none
  else
    none

/-- The 32 digits of a code in four groups of eight. -/
def formatRecoveryCode (code : String) : String :=
  let cs := code.toList
  String.ofList (cs.take 8 ++ '-' :: (cs.drop 8).take 8 ++ '-' :: (cs.drop 16).take 8 ++
    '-' :: cs.drop 24)

/-- The recovery codes of an enrollment, from the random UUIDs drawn for them. -/
def generateRecoveryCodes (uuids : Fin recoveryCodeCount → String) : List String :=
  List.ofFn fun i => formatRecoveryCode (uuids i)

/-! ### Time-based one-time passwords -/

section Totp

variable (C : Crates)

/-- The fixed TOTP profile of the server. -/
def buildTotp (seed issuer accountName : String) : Except String Totp :=
  match C.base32Decode seed with
  | none => .error "TOTP seed must be valid Base32"
  | some secret =>
    match C.totpNew secret issuer accountName with
    | none => .error "TOTP enrollment labels are invalid"
    | some totp => .ok totp

def totpProvisioningUri (seed issuer accountName : String) : Except String String :=
  (buildTotp C seed issuer accountName).map Totp.getUrl

/-- Checks a six-digit code against the time steps around `unixSeconds` and returns the step it
belongs to. -/
def verifyTotpCode (seed code : String) (unixSeconds : Nat) : Except String (Option Int) :=
  -- The byte length is compared in the source; for six digits it is the number of characters.
  if code.toList.length != totpDigits || !code.toList.all isAsciiDigit then
    .ok none
  else
    match buildTotp C seed "Keylo" "verification" with
    | .error e => .error e
    | .ok totp =>
      let currentStep := unixSeconds / totpStepSeconds
      match [currentStep - 1, currentStep, currentStep + 1].find? fun step =>
          totp.check code (step * totpStepSeconds) with
      | none => .ok none
      | some step =>
        if step < 2 ^ 63 then .ok (some step) else .error "TOTP time step is out of range"

/-- Encrypts a seed under the configured key with the nonce drawn for it. -/
def encryptTotpSeed (seed : String) (key nonce : List UInt8) : Except String String :=
  if (trim seed).isEmpty then
    .error "TOTP seed must not be empty"
  else if key.length != 32 then
    .error "MFA encryption key must be exactly 32 bytes"
  else
    match C.aesEncrypt key nonce seed with
    | none => .error "Failed to encrypt TOTP seed"
    | some ciphertext => .ok ("v1." ++ C.base64Encode nonce ++ "." ++ C.base64Encode ciphertext)

/-- Decrypts a stored seed; malformed or tampered data is rejected. -/
def decryptTotpSeed (encryptedSeed : String) (key : List UInt8) : Except String String :=
  match splitOn '.' encryptedSeed with
  | ["v1", nonce, ciphertext] => do
    let nonce ← orError "Stored TOTP seed has an invalid nonce" (C.base64Decode nonce)
    if nonce.length != 12 then
      throw "Stored TOTP seed nonce must be 12 bytes"
    let ciphertext ← orError "Stored TOTP seed has invalid ciphertext" (C.base64Decode ciphertext)
    if key.length != 32 then
      throw "MFA encryption key must be exactly 32 bytes"
    let plaintext ← orError "Failed to decrypt stored TOTP seed" (C.aesDecrypt key nonce ciphertext)
    orError "Stored TOTP seed is not valid UTF-8" (C.fromUtf8 plaintext)
  | _ => .error "Stored TOTP seed has an unsupported format"
where
  /-- `Result::map_err` to a fixed message. -/
  orError {α : Type} (message : String) : Option α → Except String α
    | none => .error message
    | some a => .ok a

/-- The code check of the handlers: the timestamp must not be negative, and every failure of
the check rejects the code. -/
def acceptedStep (seed code : String) (now : Int) : Option Int :=
  if now < 0 then
    none
  else
    match verifyTotpCode C seed code now.toNat with
    | .ok step => step
    | .error _ => none

/-- The time step to which a code belongs under a stored seed. -/
def seedStep (key : List UInt8) (encryptedSeed code : String) (now : Int) : Option Int :=
  match decryptTotpSeed C encryptedSeed key with
  | .error _ => none
  | .ok seed => acceptedStep C seed code now

end Totp

end Keylo.Mfa
