import Mathlib.Algebra.GroupWithZero.Nat
import Mathlib.Data.List.Basic

/-!
# Libraries used by the server

The functions of the libraries the server links against. They are not part of its source and
enter the development as parameters; a theorem that needs more than their types names the
documented behaviour it uses as a hypothesis. Random values a library draws itself (a salt, a
nonce) are arguments.
-/

namespace Keylo

/-- A configured one-time password generator of `totp_rs`. -/
structure Totp where
  /-- Whether a code is the one for the time step that contains the given Unix time. -/
  check : String → Nat → Bool
  /-- The provisioning URI. -/
  getUrl : String

/-- The library functions the server calls. -/
structure Crates where
  /-- `bcrypt::hash` with the salt it draws. -/
  bcryptHash : (salt plaintext : String) → Option String
  /-- `bcrypt::verify` of a plaintext against a hash. -/
  bcryptVerify : (plaintext hash : String) → Option Bool
  /-- SHA-256 of the bytes of a text. -/
  sha256 : String → List UInt8
  /-- Lower-case hexadecimal digits. -/
  hexEncode : List UInt8 → String
  /-- `Secret::Encoded(..).to_bytes()`, the bytes of a Base32 seed. -/
  base32Decode : String → Option (List UInt8)
  /-- `TOTP::new` with SHA-1, six digits, no skew and steps of 30 seconds. -/
  totpNew : (secret : List UInt8) → (issuer accountName : String) → Option Totp
  /-- AES-256-GCM encryption under a key and a nonce. -/
  aesEncrypt : (key nonce : List UInt8) → (plaintext : String) → Option (List UInt8)
  /-- AES-256-GCM decryption under a key and a nonce. -/
  aesDecrypt : (key nonce ciphertext : List UInt8) → Option (List UInt8)
  /-- `String::from_utf8`. -/
  fromUtf8 : List UInt8 → Option String
  /-- URL-safe Base64 without padding. -/
  base64Encode : List UInt8 → String
  /-- Decoding of URL-safe Base64 without padding. -/
  base64Decode : String → Option (List UInt8)
  /-- Decoding of standard Base64 with padding. -/
  base64StandardDecode : String → Option (List UInt8)
  /-- `urlencoding::decode`. -/
  urlDecode : String → Option String
  /-- `str::to_lowercase`, by the Unicode tables of the standard library. -/
  toLowercase : String → String

/-- Libraries that leave everything readable, for evaluating the model on concrete inputs: a hash
is its salt and plaintext, a digest and a ciphertext are their plaintext, the code of a time step
repeats one digit that depends on the seed and the step, and only ASCII letters have a case. -/
def Crates.readable : Crates where
  bcryptHash salt plaintext := some (salt ++ "$" ++ plaintext)
  bcryptVerify plaintext hash := some (("$" ++ plaintext).toList.isSuffixOf hash.toList)
  sha256 := bytes
  hexEncode := text
  base32Decode s := some (bytes s)
  totpNew secret _ accountName := some
    { check := fun code time =>
        code.toList ==
          List.replicate 6 (Char.ofNat (48 + ((secret.map UInt8.toNat).sum + time / 30) % 10))
      getUrl := accountName }
  aesEncrypt _ _ plaintext := some (bytes plaintext)
  aesDecrypt _ _ ciphertext := some ciphertext
  fromUtf8 bs := some (text bs)
  base64Encode := text
  base64Decode s := some (bytes s)
  base64StandardDecode s := some (bytes s)
  urlDecode := some
  toLowercase s := String.ofList (s.toList.map Char.toLower)
where
  /-- The bytes of a text. -/
  bytes (s : String) : List UInt8 := s.toByteArray.data.toList
  /-- The text with one character for every byte. -/
  text (bs : List UInt8) : String := String.ofList (bs.map fun b => Char.ofNat b.toNat)

theorem Crates.readable.bytes_injective : Function.Injective Crates.readable.bytes := by
  intro s t h
  exact String.toByteArray_inj.1 (ByteArray.ext (Array.toList_inj.1 h))

theorem Crates.readable.text_injective : Function.Injective Crates.readable.text := by
  have htoNat : ∀ b : UInt8, (Char.ofNat b.toNat).toNat = b.toNat := by
    intro b
    have hvalid : b.toNat.isValidChar := .inl (by have := b.toNat_lt; omega)
    rw [Char.ofNat, dif_pos hvalid]
    rfl
  have hchar : Function.Injective fun b : UInt8 => Char.ofNat b.toNat := by
    intro a b h
    exact UInt8.toNat.inj (by rw [← htoNat a, ← htoNat b]; exact congrArg Char.toNat h)
  intro s t h
  exact List.map_injective_iff.2 hchar (String.ofList_injective h)

end Keylo
