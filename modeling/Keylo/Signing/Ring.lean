import Keylo.Foundation.System
import Keylo.Http
import Keylo.Text

/-!
# The ring of signing keys

`Keys` of `models/jwt.rs`: an active key, which signs and verifies, and a passive one, which
verifies until its overlap ends. Signatures are symbolic: a private key is represented by the
public key that it belongs to, and a token by the public key under which it verifies, so that
signatures are sound and complete.

Timestamps are counted in seconds. Adding an overlap to one wraps around like the machine
integers of the source.

## Main definitions

* `Keys` : the ring, with `fromConfig`, `signToken`, `jwks`, `rotate`, `retirePassive`, `rollback`
  and `decodeToken`.
* `validateCommon` : the checks on the configuration of the keys.
* `system` : sequences of calls on a ring, under a clock.
-/

namespace Keylo.Signing

open Transition

/-! ### Keys -/

structure RsaPublicKey where
  n : ℕ
  e : ℕ
deriving DecidableEq, Repr

structure Jwk where
  kty : String
  use : String
  alg : String
  kid : String
  n : String
  e : String
deriving DecidableEq, Repr

/-- The libraries that read keys. A private key is represented by its public key. -/
structure KeyReader where
  /-- `DecodingKey::from_rsa_pem`. -/
  decodingKey : String → Except String RsaPublicKey
  /-- `RsaPublicKey::from_public_key_pem`. -/
  publicKey : String → Except String RsaPublicKey
  /-- `EncodingKey::from_rsa_pem`. -/
  encodingKey : String → Except String RsaPublicKey
  /-- The unpadded base64url encoding of the big-endian bytes of a number. -/
  base64 : ℕ → String
  /-- The two libraries read the same key. -/
  publicKey_eq : ∀ {pem key key'}, decodingKey pem = .ok key → publicKey pem = .ok key' → key' = key
  base64_injective : Function.Injective base64

structure KeyPair where
  keyId : String
  privateKeyPem : Option String
  publicKeyPem : String
  encoding : Option RsaPublicKey
  decoding : RsaPublicKey
  jwk : Jwk
  expiresAt : Option Int
deriving DecidableEq, Repr

variable (reader : KeyReader)

/-- The published form of a key. -/
def jwkOf (keyId : String) (key : RsaPublicKey) : Jwk where
  kty := "RSA"
  use := "sig"
  alg := "RS256"
  kid := keyId
  n := reader.base64 key.n
  e := reader.base64 key.e

/-- The private key of a pair, if it has one. -/
def readPrivateKey : Option String → Except String (Option RsaPublicKey)
  | none => .ok none
  | some pem =>
    match reader.encodingKey pem with
    | .error e => .error ("invalid RSA private key: " ++ e)
    | .ok key => .ok (some key)

def KeyPair.fromPem (keyId : String) (privateKeyPem : Option String) (publicKeyPem : String)
    (expiresAt : Option Int) : Except String KeyPair :=
  match reader.decodingKey publicKeyPem with
  | .error e => .error ("invalid RSA public key: " ++ e)
  | .ok decoding =>
    match reader.publicKey publicKeyPem with
    | .error e => .error ("failed to parse RSA public key for JWKS: " ++ e)
    | .ok publicKey =>
      match readPrivateKey reader privateKeyPem with
      | .error e => .error e
      | .ok encoding =>
        .ok ⟨keyId, privateKeyPem, publicKeyPem, encoding, decoding, jwkOf reader keyId publicKey,
          expiresAt⟩

def KeyPair.isLive (pair : KeyPair) (now : Int) : Bool :=
  pair.expiresAt.all fun expiresAt => now < expiresAt

/-- The end of an overlap that begins now; the sum wraps around. -/
def overlapEnd (now overlapSeconds : Int) : Int := (now + overlapSeconds).bmod (2 ^ 64)

/-! ### Configuration -/

/-- What the ring reads of the configuration. -/
structure KeyConfig where
  jwtIssuer : String
  jwtAudiences : List String
  jwtKeyId : String
  jwtPrivateKeyPem : String
  jwtPublicKeyPem : String
  jwtPassiveKeyId : Option String := none
  jwtPassivePublicKeyPem : Option String := none
  jwtPassivePrivateKeyPem : Option String := none
  jwtKeyOverlapSeconds : Int := 300
deriving Repr

def isBlank (s : String) : Bool := (trim s).isEmpty

/-- The errors of `validate_common` about the keys, in their order. -/
def validateCommon (config : KeyConfig) : List String :=
  (if isBlank config.jwtIssuer then ["JWT_ISSUER must not be empty"] else []) ++
  (if isBlank config.jwtKeyId then ["JWT_KEY_ID must not be empty"] else []) ++
  (if config.jwtAudiences.isEmpty then ["JWT_AUDIENCES must include at least one audience"]
    else []) ++
  (if isBlank config.jwtPrivateKeyPem then
    ["JWT_PRIVATE_KEY_PEM or JWT_PRIVATE_KEY_PATH must be set to an RSA private key"] else []) ++
  (if isBlank config.jwtPublicKeyPem then
    ["JWT_PUBLIC_KEY_PEM or JWT_PUBLIC_KEY_PATH must be set to an RSA public key"] else []) ++
  (if config.jwtPassiveKeyId.isSome != config.jwtPassivePublicKeyPem.isSome then
    ["JWT_PASSIVE_KEY_ID and JWT_PASSIVE_PUBLIC_KEY_PEM/PATH must be configured together"]
    else []) ++
  (if config.jwtPassivePrivateKeyPem.isSome &&
      (config.jwtPassiveKeyId.isNone || config.jwtPassivePublicKeyPem.isNone) then
    ["JWT_PASSIVE_PRIVATE_KEY_PEM/PATH requires a complete passive verification key"] else []) ++
  (if config.jwtPassiveKeyId.any fun passive => passive == config.jwtKeyId then
    ["JWT_PASSIVE_KEY_ID must differ from JWT_KEY_ID"] else []) ++
  (if config.jwtKeyOverlapSeconds ≤ 0 then ["JWT_KEY_OVERLAP_SECONDS must be greater than 0"]
    else [])

/-! ### The ring -/

structure Keys where
  active : KeyPair
  passive : List KeyPair
  issuer : String
  audiences : List String
deriving DecidableEq, Repr

def Keys.fromConfig (config : KeyConfig) (now : Int) : Except String Keys := do
  let active ← KeyPair.fromPem reader config.jwtKeyId (some config.jwtPrivateKeyPem)
    config.jwtPublicKeyPem none
  match config.jwtPassiveKeyId, config.jwtPassivePublicKeyPem with
  | some keyId, some publicKeyPem =>
    let passive ← KeyPair.fromPem reader keyId config.jwtPassivePrivateKeyPem publicKeyPem
      (some (overlapEnd now config.jwtKeyOverlapSeconds))
    return ⟨active, [passive], config.jwtIssuer, config.jwtAudiences⟩
  | none, none => return ⟨active, [], config.jwtIssuer, config.jwtAudiences⟩
  | _, _ =>
    throw "JWT_PASSIVE_KEY_ID and JWT_PASSIVE_PUBLIC_KEY_PEM/PATH must be configured together"

namespace Keys

variable (keys : Keys)

variable (now : Int)

def jwks : List Jwk :=
  keys.active.jwk :: (keys.passive.filter fun pair => pair.isLive now).map KeyPair.jwk

/-- The pair becomes the active one, and the previous one is kept for the overlap. -/
abbrev promote (next : KeyPair) (overlapSeconds : Int) : Keys :=
  { keys with
    active := next
    passive := [{ keys.active with expiresAt := some (overlapEnd now overlapSeconds) }] }

/-- Promotes a new pair. -/
def rotate (keyId privateKeyPem publicKeyPem : String) (overlapSeconds : Int) :
    Except String Unit × Keys :=
  if isBlank keyId then (.error "JWT key id must not be empty", keys)
  else if overlapSeconds ≤ 0 then (.error "JWT key overlap must be positive", keys)
  else if keys.active.keyId = keyId then
    (.error "JWT key id must differ from the active key", keys)
  else
    match KeyPair.fromPem reader keyId (some privateKeyPem) publicKeyPem none with
    | .error e => (.error e, keys)
    | .ok next => (.ok (), keys.promote now next overlapSeconds)

/-- Retires a passive pair; the answer is whether there was one. -/
def retirePassive (keyId : String) : Bool × Keys :=
  let passive := keys.passive.filter fun pair => pair.keyId != keyId
  (passive.length != keys.passive.length, { keys with passive := passive })

/-- Promotes the passive pair again. -/
def rollback (keyId : String) (overlapSeconds : Int) : Except String Unit × Keys :=
  if overlapSeconds ≤ 0 then (.error "JWT key overlap must be positive", keys)
  else
    match keys.passive.find? fun pair => pair.keyId == keyId && pair.isLive now with
    | none => (.error "JWT passive key not found or expired", keys)
    | some promoted =>
      if promoted.encoding.isNone then
        (.error "JWT passive key has no private key for rollback", keys)
      else (.ok (), keys.promote now { promoted with expiresAt := none } overlapSeconds)

end Keys

/-! ### Tokens -/

/-- The claims of a token with its issuer. -/
structure IssuedClaims extends Claims where
  iss : String
deriving DecidableEq, Repr

/-- A signed token, with the public key under which its signature verifies. -/
structure SignedToken where
  kid : Option String
  claims : IssuedClaims
  key : RsaPublicKey
deriving DecidableEq, Repr

inductive ErrorKind
  | invalidToken
  | invalidSignature
  | expiredSignature
  | invalidIssuer
  | invalidAudience
deriving DecidableEq, Repr

/-- The seconds by which a token may have expired (`Validation::leeway`). -/
def leeway : Int := 60

namespace Keys

variable (keys : Keys)

def signToken (claims : IssuedClaims) : Except AuthError SignedToken :=
  match keys.active.encoding with
  | none => .error .tokenCreation
  | some key => .ok ⟨some keys.active.keyId, claims, key⟩

/-- `decode` of the JWT library: the signature, and then the claims in its order. -/
def verify (now : Int) (token : SignedToken) (key : RsaPublicKey) : Except ErrorKind IssuedClaims :=
  if token.key ≠ key then .error .invalidSignature
  else if token.claims.exp < now - leeway then
    -- a negative `exp` is not read as a time
    .error (if token.claims.exp < 0 then .invalidToken else .expiredSignature)
  else if token.claims.iss ≠ keys.issuer then .error .invalidIssuer
  else if token.claims.aud ∉ keys.audiences then .error .invalidAudience
  else .ok token.claims

/-- Selects the active or a live passive key by the `kid` of the token. -/
def decodeWithKey (now : Int) (token : SignedToken) : Except ErrorKind IssuedClaims :=
  if token.kid.isNone || token.kid == some keys.active.keyId then
    keys.verify now token keys.active.decoding
  else
    match keys.passive.find? fun pair => token.kid == some pair.keyId && pair.isLive now with
    | none => .error .invalidToken
    | some pair => keys.verify now token pair.decoding

def decodeToken (now : Int) (token : SignedToken) : Except AuthError IssuedClaims :=
  match keys.decodeWithKey now token with
  | .ok claims => .ok claims
  | .error .expiredSignature => .error .expiredToken
  | .error .invalidAudience => .error .invalidAudience
  | .error _ => .error .invalidToken

/-- The key is one under which a token with the given `kid` is accepted. -/
def AcceptsUnder (now : Int) (kid : String) (key : RsaPublicKey) : Prop :=
  ∃ token : SignedToken, token.kid = some kid ∧ token.key = key ∧
    keys.decodeToken now token = .ok token.claims

end Keys

/-! ### Sequences of calls -/

inductive Call
  | rotate (keyId privateKeyPem publicKeyPem : String) (overlapSeconds : Int)
  | rollback (keyId : String) (overlapSeconds : Int)
  | retirePassive (keyId : String)
deriving Repr

/-- A call on the ring, and whether it succeeded. -/
def Keys.call (keys : Keys) (now : Int) : Call → Bool × Keys
  | .rotate keyId privateKeyPem publicKeyPem overlapSeconds =>
    let (result, keys) := keys.rotate reader now keyId privateKeyPem publicKeyPem overlapSeconds
    (result.toBool, keys)
  | .rollback keyId overlapSeconds =>
    let (result, keys) := keys.rollback now keyId overlapSeconds
    (result.toBool, keys)
  | .retirePassive keyId => keys.retirePassive keyId

structure RingState where
  keys : Keys
  now : Int
deriving DecidableEq, Repr

inductive Step
  | call (c : Call)
  | tick (now : Int)
deriving Repr

/-- Calls on a ring, under a clock that does not go back. -/
def system : System RingState Step where
  step s
    | .call c => some { s with keys := (s.keys.call reader s.now c).2 }
    | .tick now => if s.now ≤ now then some { s with now := now } else none

end Keylo.Signing
