import Keylo.Text

/-!
# API keys of machines

`parse_raw_api_key` of `db/machine.rs`. An API key has the id under which its digest is stored and
the secret, each in the simple format of a UUID.

## Main definitions

* `apiKey` : the key with an id and a secret.
* `parseRawApiKey` : the id and the secret in a key.

## Main results

* `parseRawApiKey_apiKey` : an API key is parsed into its id and its secret.
-/

namespace Keylo

/-! ### API keys -/

/-- A text in the simple format of a UUID, which has 32 hexadecimal digits. -/
structure SimpleUuid where
  text : String
  length : text.toList.length = 32
  digits : ∀ c ∈ text.toList, isAsciiHexdigit c = true

/-- A part of an API key has 32 bytes, which are hexadecimal digits. -/
def isKeyPart (part : String) : Bool :=
  part.utf8ByteSize == 32 && part.toList.all isAsciiHexdigit

/-- The id and the secret in an API key. -/
def parseRawApiKey (rawApiKey : String) : Option (String × String) :=
  match splitOn '.' rawApiKey with
  | [first, keyId, secret] =>
    if first != "keylo" || !isKeyPart keyId || !isKeyPart secret then none
    else some (keyId, secret)
  | _ => none

/-- The part of a key that is shown. -/
def keyPrefix (keyId : SimpleUuid) : String := "keylo." ++ keyId.text

/-- The key that is given out once. -/
def apiKey (keyId secret : SimpleUuid) : String := keyPrefix keyId ++ "." ++ secret.text

theorem SimpleUuid.isKeyPart_text (u : SimpleUuid) : isKeyPart u.text = true := by
  have hsize : u.text.utf8ByteSize = 32 := by
    rw [utf8ByteSize_eq_length fun c hc => utf8Size_of_isAsciiHexdigit (u.digits c hc), u.length]
  simpa [isKeyPart, hsize] using u.digits

theorem SimpleUuid.dot_not_mem (u : SimpleUuid) : '.' ∉ u.text.toList := fun h =>
  absurd (u.digits '.' h) (by decide)

/-- An API key is parsed into its id and its secret. -/
theorem parseRawApiKey_apiKey (keyId secret : SimpleUuid) :
    parseRawApiKey (apiKey keyId secret) = some (keyId.text, secret.text) := by
  have hsplit : splitOn '.' (apiKey keyId secret) = ["keylo", keyId.text, secret.text] :=
    splitOn_three '.' (a := "keylo") (by decide) keyId.dot_not_mem secret.dot_not_mem
  simp [parseRawApiKey, hsplit, keyId.isKeyPart_text, secret.isKeyPart_text]

/-- A key id and a secret. -/
def sampleUuid : SimpleUuid :=
  ⟨"0123456789abcdef0123456789abcdef", by simp, by simp [isAsciiHexdigit, isAsciiDigit]⟩

theorem parseRawApiKey_apiKey_sample :
    parseRawApiKey "keylo.0123456789abcdef0123456789abcdef.0123456789abcdef0123456789abcdef" =
      some (sampleUuid.text, sampleUuid.text) :=
  parseRawApiKey_apiKey sampleUuid sampleUuid

end Keylo
