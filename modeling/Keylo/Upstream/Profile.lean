import Keylo.Schema
import Keylo.Text

/-!
# Profiles of upstream identities

The functions of `models/identity.rs` that turn the claims of a verified ID Token, completed by a
UserInfo answer, into a local profile. Every claim is looked up on its own: in the ID Token first,
and in UserInfo if the ID Token does not have it. The address and the flag that says that it was
verified may therefore be claims of different documents, and a claim mapping of the address leaves
the flag where it was.

## Main definitions

* `mergeOidcUpstreamUserinfo`, `oidcUpstreamProfileWithMapping`, `parseOidcUpstreamClaimMapping` :
  the functions of the source.
* `Document` : where a claim was found.

## Main results

* `profile_provenance` : from which claims of which documents a profile is made.
-/

namespace Keylo.Upstream

/-! ### Values -/

/-- A JSON value (`serde_json::Value`). The members of an object have distinct names, so that it
does not matter which of the members of a name is found. -/
inductive Value
  | null
  | bool (value : Bool)
  | number (text : String)
  | string (value : String)
  | array (values : List Value)
  | object (members : List (String × Value))

namespace Value

def asStr : Value → Option String
  | .string value => some value
  | _ => none

def asBool : Value → Option Bool
  | .bool value => some value
  | _ => none

def asObject : Value → Option (List (String × Value))
  | .object members => some members
  | _ => none

end Value

/-- Claims of a signed upstream ID Token, after its signature was verified. -/
structure OidcUpstreamIdTokenClaims where
  iss : String
  sub : String
  aud : Value := .null
  azp : Option String := none
  exp : Int
  nonce : Option String := none
  email : Option String := none
  emailVerified : Option Bool := none
  preferredUsername : Option String := none
  /-- The claims with other names. -/
  additionalClaims : List (String × Value) := []

/-- Local profile fields of an upstream identity. -/
structure OidcUpstreamProfile where
  externalSubject : String
  username : String
  email : String
  emailVerified : Bool
deriving DecidableEq, Repr

/-! ### UserInfo -/

/-- The claims of UserInfo that have a field of their own. -/
def isProfileClaim (name : String) : Bool :=
  name == "sub" || name == "email" || name == "preferred_username" || name == "email_verified"

/-- The other claims of UserInfo are added to those of the ID Token, if it does not have them. -/
def addClaims (additionalClaims : List (String × Value)) :
    List (String × Value) → List (String × Value)
  | [] => additionalClaims
  | (name, value) :: claims =>
    if isProfileClaim name || (additionalClaims.lookup name).isSome then
      addClaims additionalClaims claims
    else
      addClaims (additionalClaims ++ [(name, value)]) claims

/-- The ID Token claims, completed by those of UserInfo. -/
def completeClaims (c : OidcUpstreamIdTokenClaims) (claims : List (String × Value)) :
    OidcUpstreamIdTokenClaims :=
  { c with
    email := c.email.or ((claims.lookup "email").bind Value.asStr)
    preferredUsername :=
      c.preferredUsername.or ((claims.lookup "preferred_username").bind Value.asStr)
    emailVerified := c.emailVerified.or ((claims.lookup "email_verified").bind Value.asBool)
    additionalClaims := addClaims c.additionalClaims claims }

/-- Merges UserInfo only if its subject is that of the ID Token. -/
def mergeOidcUpstreamUserinfo (c : OidcUpstreamIdTokenClaims) (userinfo : Value) :
    Except String OidcUpstreamIdTokenClaims :=
  match userinfo.asObject with
  | none => .error "OIDC UserInfo response must be a JSON object"
  | some claims =>
    match (((claims.lookup "sub").bind Value.asStr).map trim).filter (· ≠ "") with
    | none => .error "OIDC UserInfo response is missing subject"
    | some subject =>
      if subject ≠ c.sub then .error "OIDC UserInfo subject does not match the ID Token"
      else .ok (completeClaims c claims)

/-! ### Claim mappings -/

/-- The local fields that a mapping may name. -/
def isMappingTarget (target : String) : Bool :=
  target == "external_subject" || target == "email" || target == "username" ||
    target == "email_verified"

/-- The claim that a mapping names for a local field. -/
def mappedClaim (value : Value) : Option String :=
  (value.asStr.map trim).filter fun source => source ≠ "" && !source.toList.any isWhitespace

def parseMembers : List (String × Value) → Except String (List (String × String))
  | [] => .ok []
  | (target, value) :: members =>
    if !isMappingTarget target then
      .error ("OIDC claim_mapping does not support '" ++ target ++ "'")
    else
      match mappedClaim value with
      | none => .error ("OIDC claim_mapping '" ++ target ++ "' must name one claim")
      | some source => do
        let parsed ← parseMembers members
        return (target, source) :: parsed

def parseOidcUpstreamClaimMapping (mapping : Value) : Except String (List (String × String)) :=
  match mapping.asObject with
  | none => .error "OIDC claim_mapping must be a JSON object"
  | some members => parseMembers members

/-! ### Profiles -/

variable (claims : OidcUpstreamIdTokenClaims)

/-- The text of a claim, as it stands in the claims. -/
def stringClaim (name : String) : Option String :=
  if name = "sub" then some claims.sub
  else if name = "email" then claims.email
  else if name = "preferred_username" then claims.preferredUsername
  else (claims.additionalClaims.lookup name).bind Value.asStr

def oidcStringClaim (mappedName : Option String) (defaultName : String) : Except String String :=
  let name := mappedName.getD defaultName
  match ((stringClaim claims name).map trim).filter (· ≠ "") with
  | some value => .ok value
  | none => .error ("Upstream ID Token is missing mapped '" ++ name ++ "' claim")

/-- The value of a boolean claim; other values are not coerced. -/
def boolClaim (name : String) : Option Bool :=
  if name = "email_verified" then claims.emailVerified
  else (claims.additionalClaims.lookup name).bind Value.asBool

def oidcBoolClaim (mappedName : Option String)
    (defaultName : String) : Except String (Option Bool) :=
  let name := mappedName.getD defaultName
  if mappedName.isSome && (boolClaim claims name).isNone then
    .error ("Upstream ID Token is missing mapped '" ++ name ++ "' boolean claim")
  else .ok (boolClaim claims name)

/-- `str::to_ascii_lowercase`. -/
def toAsciiLowercase (s : String) : String := String.ofList (s.toList.map Char.toLower)

/-- The characters of a user name, in lower case. -/
def usernameOf (candidate : String) : String :=
  String.ofList ((candidate.toList.filter fun c =>
    isAsciiAlphanumeric c || c == '_' || c == '-' || c == '.').map Char.toLower)

/-- The candidate for the user name: the mapped claim, the preferred name, or the local part of the
address. -/
def usernameCandidate (mappedName : Option String) (email : String) : Except String String :=
  match mappedName with
  | some name => oidcStringClaim claims (some name) "preferred_username"
  | none => .ok (claims.preferredUsername.getD ((splitOn '@' email).headD "user"))

def oidcUpstreamProfileWithMapping (claimMapping : Value) : Except String OidcUpstreamProfile := do
  let mapping ← parseOidcUpstreamClaimMapping claimMapping
  let externalSubject ← oidcStringClaim claims (mapping.lookup "external_subject") "sub"
  let text ← oidcStringClaim claims (mapping.lookup "email") "email"
  let email := toAsciiLowercase (trim text)
  if !email.toList.contains '@' then
    throw "Upstream ID Token must contain a valid email for account mapping"
  else
    let candidate ← usernameCandidate claims (mapping.lookup "username") email
    let username := usernameOf candidate
    if username = "" then
      throw "Upstream identity does not provide a usable username"
    else
      let emailVerified ← oidcBoolClaim claims (mapping.lookup "email_verified") "email_verified"
      return { externalSubject, username, email, emailVerified := emailVerified.getD false }

/-! ### Where claims come from -/

/-- The two documents of an upstream login. -/
inductive Document
  | idToken
  | userInfo
deriving DecidableEq, Repr

variable {c merged : OidcUpstreamIdTokenClaims} {u : List (String × Value)} {name : String}
  {mappedName : Option String}

/-- The ID Token has a claim that is read as a text. -/
def hasStringClaim (c : OidcUpstreamIdTokenClaims) (name : String) : Bool :=
  if name = "sub" then true
  else if name = "email" then c.email.isSome
  else if name = "preferred_username" then c.preferredUsername.isSome
  else (c.additionalClaims.lookup name).isSome

/-- The ID Token has a claim that is read as a flag. -/
def hasBoolClaim (c : OidcUpstreamIdTokenClaims) (name : String) : Bool :=
  if name = "email_verified" then c.emailVerified.isSome
  else (c.additionalClaims.lookup name).isSome

/-- The document from which a claim is taken: the ID Token if it has the claim. -/
def source (has : Bool) : Document := if has then .idToken else .userInfo

theorem source_eq_idToken {has : Bool} : source has = .idToken ↔ has = true := by
  cases has <;> decide

theorem source_inj {has has' : Bool} : source has = source has' ↔ has = has' := by
  cases has <;> cases has' <;> decide

/-- The text of a claim of UserInfo. -/
def userInfoString (u : List (String × Value)) (name : String) : Option String :=
  if name = "sub" || name = "email_verified" then none
  else (u.lookup name).bind Value.asStr

/-- The flag of a claim of UserInfo. -/
def userInfoBool (u : List (String × Value)) (name : String) : Option Bool :=
  if name = "email_verified" || !isProfileClaim name then (u.lookup name).bind Value.asBool
  else none

def stringOf (c : OidcUpstreamIdTokenClaims) (u : List (String × Value)) (name : String) :
    Document → Option String
  | .idToken => stringClaim c name
  | .userInfo => userInfoString u name

def boolOf (c : OidcUpstreamIdTokenClaims) (u : List (String × Value)) (name : String) :
    Document → Option Bool
  | .idToken => boolClaim c name
  | .userInfo => userInfoBool u name

/-- A claim of UserInfo is found among the claims if the ID Token does not have it. -/
theorem lookup_addClaims (additionalClaims claims : List (String × Value)) (name : String) :
    (addClaims additionalClaims claims).lookup name =
      (additionalClaims.lookup name).or
        (if isProfileClaim name then none else claims.lookup name) := by
  induction claims generalizing additionalClaims with
  | nil => simp [addClaims]
  | cons claim claims ih =>
    obtain ⟨key, value⟩ := claim
    rw [addClaims]
    by_cases hname : name = key
    · subst hname
      split_ifs with hskip hprofile hprofile
      · rw [ih, if_pos hprofile]
      · obtain ⟨found, hfound⟩ := Option.isSome_iff_exists.1
          ((Bool.or_eq_true _ _ ▸ hskip).resolve_left hprofile)
        rw [ih, hfound]
        rfl
      · simp [hprofile] at hskip
      · rw [Bool.or_eq_true, not_or, Option.not_isSome_iff_eq_none] at hskip
        rw [ih, List.lookup_append, hskip.2]
        simp
    · have hne : (name == key) = false := beq_eq_false_iff_ne.2 hname
      rw [List.lookup_cons, hne]
      split_ifs with hskip hprofile hprofile
      · rw [ih, if_pos hprofile]
      · rw [ih, if_neg hprofile]
      · rw [ih, List.lookup_append, List.lookup_cons, hne, if_pos hprofile]
        simp
      · rw [ih, List.lookup_append, List.lookup_cons, hne, if_neg hprofile]
        simp

theorem stringClaim_completeClaims :
    stringClaim (completeClaims c u) name = stringOf c u name (source (hasStringClaim c name)) := by
  unfold stringClaim hasStringClaim
  split_ifs with hsub hemail husername
  · simp [source, stringOf, stringClaim, hsub, completeClaims]
  · cases hc : c.email with
    | none => simp [source, stringOf, userInfoString, hemail, completeClaims, hc]
    | some => simp [source, stringOf, stringClaim, hemail, completeClaims, hc]
  · cases hc : c.preferredUsername with
    | none => simp [source, stringOf, userInfoString, husername, completeClaims, hc]
    | some => simp [source, stringOf, stringClaim, husername, completeClaims, hc]
  · simp only [completeClaims, lookup_addClaims]
    cases hc : c.additionalClaims.lookup name with
    | none =>
      by_cases hverified : name = "email_verified" <;>
        simp [source, stringOf, userInfoString, isProfileClaim, hsub, hemail, husername, hverified]
    | some => simp [source, stringOf, stringClaim, hsub, hemail, husername, hc]

theorem boolClaim_completeClaims :
    boolClaim (completeClaims c u) name = boolOf c u name (source (hasBoolClaim c name)) := by
  unfold boolClaim hasBoolClaim
  split_ifs with hverified
  · cases hc : c.emailVerified with
    | none => simp [source, boolOf, userInfoBool, hverified, completeClaims, hc]
    | some => simp [source, boolOf, boolClaim, hverified, completeClaims, hc]
  · simp only [completeClaims, lookup_addClaims]
    cases hc : c.additionalClaims.lookup name with
    | none =>
      cases hprofile : isProfileClaim name <;>
        simp [source, boolOf, userInfoBool, hverified, hprofile]
    | some => simp [source, boolOf, boolClaim, hverified, hc]

/-- An accepted UserInfo answer is an object, and completes the claims. -/
theorem mergeOidcUpstreamUserinfo_eq_ok {userinfo : Value}
    (h : mergeOidcUpstreamUserinfo c userinfo = .ok merged) :
    ∃ u, userinfo = .object u ∧ merged = completeClaims c u := by
  unfold mergeOidcUpstreamUserinfo at h
  cases userinfo with
  | object u =>
    simp only [Value.asObject] at h
    split at h
    · cases h
    split_ifs at h
    cases h
    exact ⟨u, rfl, rfl⟩
  | _ => cases h

theorem oidcStringClaim_eq_ok {defaultName value : String}
    (h : oidcStringClaim c mappedName defaultName = .ok value) :
    ∃ text, stringClaim c (mappedName.getD defaultName) = some text ∧ value = trim text := by
  unfold oidcStringClaim at h
  dsimp only at h
  split at h
  · rename_i found hfound
    cases h
    obtain ⟨hmap, -⟩ := Option.filter_eq_some_iff.1 hfound
    obtain ⟨text, htext, rfl⟩ := Option.map_eq_some_iff.1 hmap
    exact ⟨text, htext, rfl⟩
  · cases h

theorem oidcBoolClaim_eq_ok {defaultName : String} {value : Option Bool}
    (h : oidcBoolClaim c mappedName defaultName = .ok value) :
    value = boolClaim c (mappedName.getD defaultName) := by
  unfold oidcBoolClaim at h
  dsimp only at h
  split_ifs at h
  cases h
  rfl

theorem oidcUpstreamProfileWithMapping_eq_ok {claimMapping : Value} {profile : OidcUpstreamProfile}
    (h : oidcUpstreamProfileWithMapping c claimMapping = .ok profile) :
    ∃ mapping, parseOidcUpstreamClaimMapping claimMapping = .ok mapping ∧
      (∃ text, stringClaim c ((mapping.lookup "email").getD "email") = some text ∧
        profile.email = toAsciiLowercase (trim (trim text))) ∧
      profile.emailVerified =
        (boolClaim c ((mapping.lookup "email_verified").getD "email_verified")).getD false := by
  obtain ⟨mapping, hmapping, h⟩ := bind_eq_ok.1 h
  obtain ⟨externalSubject, -, h⟩ := bind_eq_ok.1 h
  obtain ⟨text, htext, h⟩ := bind_eq_ok.1 h
  obtain ⟨claim, hclaim, rfl⟩ := oidcStringClaim_eq_ok htext
  dsimp only at h
  split at h
  · cases h
  obtain ⟨candidate, -, h⟩ := bind_eq_ok.1 h
  split at h
  · cases h
  obtain ⟨verified, hverified, h⟩ := bind_eq_ok.1 h
  cases h
  exact ⟨mapping, hmapping, ⟨claim, hclaim, rfl⟩, by rw [oidcBoolClaim_eq_ok hverified]⟩

/-- The address of a profile and the flag that it is verified are claims of the mapped names, each
taken from the ID Token if it has the claim and from UserInfo otherwise. They are claims of one
document exactly if the ID Token has both of them or neither. -/
theorem profile_provenance {userinfo claimMapping : Value} {profile : OidcUpstreamProfile}
    (hmerge : mergeOidcUpstreamUserinfo c userinfo = .ok merged)
    (hprofile : oidcUpstreamProfileWithMapping merged claimMapping = .ok profile) :
    ∃ u mapping d e, userinfo = .object u ∧
      parseOidcUpstreamClaimMapping claimMapping = .ok mapping ∧
      let address := (mapping.lookup "email").getD "email"
      let flag := (mapping.lookup "email_verified").getD "email_verified"
      (∃ text, stringOf c u address d = some text ∧
        profile.email = toAsciiLowercase (trim (trim text))) ∧
      (profile.emailVerified = true ↔ boolOf c u flag e = some true) ∧
      (d = .idToken ↔ hasStringClaim c address = true) ∧
      (e = .idToken ↔ hasBoolClaim c flag = true) ∧
      (d = e ↔ hasStringClaim c address = hasBoolClaim c flag) := by
  obtain ⟨u, rfl, rfl⟩ := mergeOidcUpstreamUserinfo_eq_ok hmerge
  obtain ⟨mapping, hmapping, ⟨text, htext, hemail⟩, hverified⟩ :=
    oidcUpstreamProfileWithMapping_eq_ok hprofile
  rw [stringClaim_completeClaims] at htext
  refine ⟨u, mapping, _, _, rfl, hmapping, ⟨text, htext, hemail⟩, ?_, source_eq_idToken,
    source_eq_idToken, source_inj⟩
  rw [hverified, boolClaim_completeClaims]
  cases boolOf c u ((mapping.lookup "email_verified").getD "email_verified") _ <;> simp

/-- Claims of an ID Token with an address and without a flag. -/
def unverifiedClaims : OidcUpstreamIdTokenClaims where
  iss := "https://idp.example"
  sub := "s"
  exp := 0
  email := some "Alice@example.com"

/-- UserInfo with a verified address of its own. -/
def otherUserInfo : List (String × Value) :=
  [("sub", .string "s"), ("email", .string "mallory@example.com"), ("email_verified", .bool true)]

theorem profile_provenance_unverified :
    ∃ u mapping d e, Value.object otherUserInfo = .object u ∧
      parseOidcUpstreamClaimMapping (.object []) = .ok mapping ∧
      let address := (mapping.lookup "email").getD "email"
      let flag := (mapping.lookup "email_verified").getD "email_verified"
      (∃ text, stringOf unverifiedClaims u address d = some text ∧
        "alice@example.com" = toAsciiLowercase (trim (trim text))) ∧
      (true = true ↔ boolOf unverifiedClaims u flag e = some true) ∧
      (d = .idToken ↔ hasStringClaim unverifiedClaims address = true) ∧
      (e = .idToken ↔ hasBoolClaim unverifiedClaims flag = true) ∧
      (d = e ↔ hasStringClaim unverifiedClaims address = hasBoolClaim unverifiedClaims flag) := by
  have hmerge : mergeOidcUpstreamUserinfo unverifiedClaims (.object otherUserInfo) =
      .ok (completeClaims unverifiedClaims otherUserInfo) := rfl
  have hprofile : oidcUpstreamProfileWithMapping (completeClaims unverifiedClaims otherUserInfo)
      (.object []) = .ok ⟨"s", "alice", "alice@example.com", true⟩ := rfl
  exact profile_provenance hmerge hprofile

/-- Claims of an ID Token with a verified address and a second one. -/
def verifiedClaims : OidcUpstreamIdTokenClaims where
  iss := "https://idp.example"
  sub := "s"
  exp := 0
  email := some "mallory@example.com"
  emailVerified := some true
  additionalClaims := [("upn", .string "alice@example.com")]

/-- The flag of UserInfo is attached to the address of the ID Token, which is not the one of
UserInfo; and the flag of the standard address is attached to that of a mapped claim. -/
theorem flag_of_another_address :
    (∃ merged, mergeOidcUpstreamUserinfo unverifiedClaims (.object otherUserInfo) = .ok merged ∧
      oidcUpstreamProfileWithMapping merged (.object []) =
        .ok ⟨"s", "alice", "alice@example.com", true⟩ ∧
      source (hasStringClaim unverifiedClaims "email") = .idToken ∧
      source (hasBoolClaim unverifiedClaims "email_verified") = .userInfo) ∧
    ∃ merged, mergeOidcUpstreamUserinfo verifiedClaims (.object [("sub", .string "s")]) =
        .ok merged ∧
      oidcUpstreamProfileWithMapping merged (.object [("email", .string "upn")]) =
        .ok ⟨"s", "alice", "alice@example.com", true⟩ :=
  ⟨⟨_, rfl, rfl, rfl, rfl⟩, ⟨_, rfl, rfl⟩⟩

end Keylo.Upstream
