import Keylo.Upstream.Profile

/-!
# Redaction of the configuration of identity sources

Responses show the configuration of an identity source without the values of its sensitive keys.
The function that removes them goes into the objects of an object and leaves every array as it is,
so that a key in an object in an array keeps its value.

## Main definitions

* `isSensitive` : the keys whose values are credentials.
* `redactSensitiveValues`, `SourceRecord.redactedForResponse` : the functions of the source.
* `Value.withSecrets` : the value with another value for all its sensitive keys, at any depth.
* `Value.HasSecret`, `Value.HasSecretInArray` : where a value has sensitive keys.

## Main results

* `redactedForResponse_eq_iff` : the response for a source does not depend on the values of the
  sensitive keys if and only if no array of its configuration has sensitive keys.
* `redactedForResponse_array_leaks` : a credential in an array is shown.
-/

namespace Keylo.Upstream

/-! ### Values -/

namespace Value

/-- Induction over values, with one case for arrays and one for objects. -/
@[elab_as_elim]
theorem induction {motive : Value → Prop} (null : motive .null)
    (bool : ∀ value, motive (.bool value)) (number : ∀ text, motive (.number text))
    (string : ∀ value, motive (.string value))
    (array : ∀ values, (∀ value ∈ values, motive value) → motive (.array values))
    (object : ∀ members, (∀ member ∈ members, motive member.2) → motive (.object members)) :
    ∀ value, motive value
  | .null => null
  | .bool value => bool value
  | .number text => number text
  | .string value => string value
  | .array values => array values fun value _ =>
      induction null bool number string array object value
  | .object members => object members fun member _ =>
      induction null bool number string array object member.2
termination_by value => sizeOf value
decreasing_by
  · rename_i hvalue
    have := List.sizeOf_lt_of_mem hvalue
    simp only [Value.array.sizeOf_spec]
    omega
  · rename_i hmember
    have := List.sizeOf_lt_of_mem hmember
    obtain ⟨key, value⟩ := member
    simp only [Prod.mk.sizeOf_spec, Value.object.sizeOf_spec] at this ⊢
    omega

end Value

/-! ### The functions of the source -/

/-- The keys whose values are credentials. -/
def isSensitive (key : String) : Bool :=
  let normalized := toAsciiLowercase key
  contains normalized "secret" || contains normalized "password" || normalized == "token"

def redactedText : Value := .string "[REDACTED]"

mutual

def redactSensitiveValues : Value → Value
  | .object members => .object (redactMembers members)
  | value => value

def redactMembers : List (String × Value) → List (String × Value)
  | [] => []
  | (key, value) :: members =>
    (key, if isSensitive key then redactedText else redactSensitiveValues value) ::
      redactMembers members

end

/-- An identity source with its documents (`models::IdentitySource`). -/
structure SourceRecord where
  id : String
  name : String
  sourceType : IdentitySourceType := .oidcUpstream
  displayName : String := ""
  description : Option String := none
  config : Value := .object []
  claimMapping : Value := .object []
  jitEnabled : Bool := false
  autoLinkEnabled : Bool := true
  active : Bool := true
  allowedUserClass : UserClass := .externalCustomer
  organizationStrategy : OrganizationStrategy := .none
  organizationId : Option String := none

/-- The view of a source in responses. -/
def SourceRecord.redactedForResponse (source : SourceRecord) : SourceRecord :=
  { source with config := redactSensitiveValues source.config }

/-! ### Credentials -/

namespace Value

mutual

/-- The value in which all sensitive keys have the value `secret`. -/
def withSecrets (secret : Value) : Value → Value
  | .array values => .array (withSecretsValues secret values)
  | .object members => .object (withSecretsMembers secret members)
  | value => value

def withSecretsValues (secret : Value) : List Value → List Value
  | [] => []
  | value :: values => withSecrets secret value :: withSecretsValues secret values

def withSecretsMembers (secret : Value) : List (String × Value) → List (String × Value)
  | [] => []
  | (key, value) :: members =>
    (key, if isSensitive key then secret else withSecrets secret value) ::
      withSecretsMembers secret members

end

/-- The values are equal except for the values of sensitive keys, at any depth. -/
def EqualUpToSecrets (c d : Value) : Prop := withSecrets .null c = withSecrets .null d

/-- There is a sensitive key at some depth. -/
inductive HasSecret : Value → Prop
  | key {key value members}
      (hmember : (key, value) ∈ members) (hkey : isSensitive key = true) :
      HasSecret (.object members)
  | member {key value members}
      (hmember : (key, value) ∈ members) (hvalue : HasSecret value) : HasSecret (.object members)
  | element {value values} (hmem : value ∈ values)
      (hvalue : HasSecret value) : HasSecret (.array values)

/-- There is an array with a sensitive key at some depth, which is not itself under a sensitive
key. -/
inductive HasSecretInArray : Value → Prop
  | element {value values} (hmem : value ∈ values)
      (hvalue : HasSecret value) : HasSecretInArray (.array values)
  | member {key value members}
      (hmember : (key, value) ∈ members) (hkey : isSensitive key = false)
      (hvalue : HasSecretInArray value) : HasSecretInArray (.object members)

end Value

/-! ### Recursion as maps -/

variable {secret secret' value : Value} {members : List (String × Value)} {values : List Value}

/-- What the redaction does to a member of an object. -/
def redactMember (member : String × Value) : String × Value :=
  (member.1, if isSensitive member.1 then redactedText else redactSensitiveValues member.2)

theorem redactMembers_eq_map : redactMembers members = members.map redactMember := by
  induction members with
  | nil => rfl
  | cons member members ih => rw [redactMembers, List.map_cons, ih, redactMember]

@[simp] theorem redactSensitiveValues_object :
    redactSensitiveValues (.object members) = .object (members.map redactMember) := by
  rw [redactSensitiveValues, redactMembers_eq_map]

@[simp] theorem redactSensitiveValues_array :
    redactSensitiveValues (.array values) = .array values := by
  rw [redactSensitiveValues]
  exact nofun

namespace Value

def withSecretsMember (secret : Value) (member : String × Value) : String × Value :=
  (member.1, if isSensitive member.1 then secret else withSecrets secret member.2)

theorem withSecretsMembers_eq_map :
    withSecretsMembers secret members = members.map (withSecretsMember secret) := by
  induction members with
  | nil => rfl
  | cons member members ih => rw [withSecretsMembers, List.map_cons, ih, withSecretsMember]

theorem withSecretsValues_eq_map :
    withSecretsValues secret values = values.map (withSecrets secret) := by
  induction values with
  | nil => rfl
  | cons value values ih => rw [withSecretsValues, List.map_cons, ih]

@[simp] theorem withSecrets_object :
    withSecrets secret (.object members) = .object (members.map (withSecretsMember secret)) := by
  rw [withSecrets, withSecretsMembers_eq_map]

@[simp] theorem withSecrets_array :
    withSecrets secret (.array values) = .array (values.map (withSecrets secret)) := by
  rw [withSecrets, withSecretsValues_eq_map]

/-! ### Values with other credentials -/

theorem withSecrets_withSecrets (secret secret' value : Value) :
    withSecrets secret (withSecrets secret' value) = withSecrets secret value := by
  induction value using Value.induction with
  | null | bool | number | string => simp only [withSecrets]
  | array values ih =>
    simp only [withSecrets_array, List.map_map, array.injEq]
    exact List.map_congr_left ih
  | object members ih =>
    simp only [withSecrets_object, List.map_map, object.injEq]
    refine List.map_congr_left fun member hmember => ?_
    simp only [Function.comp, withSecretsMember, Prod.mk.injEq, true_and]
    split
    · rfl
    · exact ih member hmember

/-- Different credentials make different values, if there is a place for them. -/
theorem withSecrets_ne (hne : secret ≠ secret') (h : HasSecret value) :
    withSecrets secret value ≠ withSecrets secret' value := by
  induction h with
  | key hmember hkey =>
    simp only [withSecrets_object, ne_eq, object.injEq, List.map_inj_left]
    intro heq
    have hvalue := congrArg Prod.snd (heq _ hmember)
    simp only [withSecretsMember, hkey, if_true] at hvalue
    exact hne hvalue
  | @member key value members hmember hvalue ih =>
    simp only [withSecrets_object, ne_eq, object.injEq, List.map_inj_left]
    intro heq
    have hvalue := congrArg Prod.snd (heq _ hmember)
    simp only [withSecretsMember] at hvalue
    split at hvalue
    · exact hne hvalue
    · exact ih hvalue
  | element hmem hvalue ih =>
    simp only [withSecrets_array, ne_eq, array.injEq, List.map_inj_left]
    exact fun heq => ih (heq _ hmem)

theorem withSecrets_eq_self (h : ¬ HasSecret value) : withSecrets secret value = value := by
  induction value using Value.induction with
  | null | bool | number | string => simp only [withSecrets]
  | array values ih =>
    simp only [withSecrets_array, array.injEq]
    refine (List.map_congr_left fun value hmem => ?_).trans (List.map_id values)
    exact ih value hmem fun hvalue => h (.element hmem hvalue)
  | object members ih =>
    simp only [withSecrets_object, object.injEq]
    refine (List.map_congr_left fun member hmember => ?_).trans (List.map_id members)
    have hkey : isSensitive member.1 = false :=
      Bool.eq_false_iff.2 fun hkey => h (.key hmember hkey)
    simp only [withSecretsMember, hkey, Bool.false_eq_true, if_false, id]
    rw [ih member hmember fun hvalue => h (.member hmember hvalue)]

theorem HasSecretInArray.of_withSecrets (h : HasSecretInArray (Value.withSecrets secret value)) :
    HasSecretInArray value := by
  induction value using Value.induction with
  | null | bool | number | string =>
    simp only [Value.withSecrets] at h
    exact h
  | array =>
    rw [withSecrets_array] at h
    cases h with
    | element hmem hvalue =>
      obtain ⟨value, hold, rfl⟩ := List.mem_map.1 hmem
      refine .element hold (by_contra fun hnone => ?_)
      rw [withSecrets_eq_self hnone] at hvalue
      exact hnone hvalue
  | object members ih =>
    rw [withSecrets_object] at h
    cases h with
    | member hmember hkey hvalue =>
      obtain ⟨member, hold, heq⟩ := List.mem_map.1 hmember
      obtain ⟨rfl, rfl⟩ := Prod.mk.inj heq
      rw [if_neg (Bool.eq_false_iff.1 hkey)] at hvalue
      exact .member hold hkey (ih member hold hvalue)

end Value

/-! ### Redacted values -/

open Value

/-- Without credentials in arrays, redacting is replacing all credentials. -/
theorem redactSensitiveValues_eq_withSecrets (h : ¬ HasSecretInArray value) :
    redactSensitiveValues value = withSecrets redactedText value := by
  induction value using Value.induction with
  | null | bool | number | string => simp only [redactSensitiveValues, withSecrets]
  | array values =>
    rw [redactSensitiveValues_array, withSecrets_array, array.injEq]
    refine ((List.map_congr_left fun value hmem => ?_).trans (List.map_id values)).symm
    exact withSecrets_eq_self fun hvalue => h (.element hmem hvalue)
  | object members ih =>
    rw [redactSensitiveValues_object, withSecrets_object, object.injEq]
    refine List.map_congr_left fun member hmember => ?_
    simp only [redactMember, withSecretsMember, Prod.mk.injEq, true_and]
    split
    · rfl
    · rename_i hkey
      exact ih member hmember fun hvalue => h (.member hmember (Bool.eq_false_iff.2 hkey) hvalue)

/-- Credentials in arrays are still there. -/
theorem redactSensitiveValues_withSecrets_ne (hne : secret ≠ secret')
    (h : HasSecretInArray value) :
    redactSensitiveValues (withSecrets secret value) ≠
      redactSensitiveValues (withSecrets secret' value) := by
  induction h with
  | element hmem hvalue =>
    simpa only [withSecrets_array, redactSensitiveValues_array] using
      withSecrets_ne hne (.element hmem hvalue)
  | @member key value members hmember hkey hvalue ih =>
    simp only [withSecrets_object, redactSensitiveValues_object, List.map_map, ne_eq,
      object.injEq, List.map_inj_left]
    intro heq
    have hvalue := congrArg Prod.snd (heq _ hmember)
    simp only [Function.comp, redactMember, withSecretsMember, hkey, Bool.false_eq_true,
      if_false] at hvalue
    exact ih hvalue

/-- The values that differ from the given one in the credentials are redacted to the same value if
and only if it has no credentials in arrays. -/
theorem redactSensitiveValues_eq_iff :
    (∀ other, EqualUpToSecrets value other →
      redactSensitiveValues value = redactSensitiveValues other) ↔ ¬ HasSecretInArray value := by
  constructor
  · intro h harray
    have hsame : ∀ secret,
        redactSensitiveValues value = redactSensitiveValues (withSecrets secret value) :=
      fun secret => h _ (withSecrets_withSecrets .null secret value).symm
    have hne : Value.null ≠ redactedText := nofun
    exact redactSensitiveValues_withSecrets_ne hne harray ((hsame _).symm.trans (hsame _))
  · intro harray other heq
    have hother : ¬ HasSecretInArray other := by
      intro hother
      have hsame : ∀ secret, redactSensitiveValues (withSecrets secret other) =
          withSecrets redactedText value := by
        intro secret
        rw [← withSecrets_withSecrets secret .null other, ← heq, withSecrets_withSecrets,
          redactSensitiveValues_eq_withSecrets fun h => harray h.of_withSecrets,
          withSecrets_withSecrets]
      have hne : Value.null ≠ redactedText := nofun
      exact redactSensitiveValues_withSecrets_ne hne hother ((hsame _).trans (hsame _).symm)
    calc redactSensitiveValues value
      _ = withSecrets redactedText (withSecrets .null value) := by
          rw [withSecrets_withSecrets, redactSensitiveValues_eq_withSecrets harray]
      _ = withSecrets redactedText (withSecrets .null other) := by rw [heq]
      _ = redactSensitiveValues other := by
          rw [withSecrets_withSecrets, redactSensitiveValues_eq_withSecrets hother]

/-- The response for a source is the same for all sources whose configuration differs only in the
values of sensitive keys, if and only if none of these keys is in an array. -/
theorem redactedForResponse_eq_iff (source : SourceRecord) :
    (∀ other : SourceRecord, EqualUpToSecrets source.config other.config →
      source.redactedForResponse.config = other.redactedForResponse.config) ↔
      ¬ HasSecretInArray source.config := by
  rw [← redactSensitiveValues_eq_iff]
  exact ⟨fun h other heq => h { source with config := other } heq,
    fun h other heq => h other.config heq⟩

/-- The configuration of a source with one provider, whose credential is in an object in an
array. -/
def configWithProvider (secret : String) : Value :=
  .object [("providers", .array [.object [("client_secret", .string secret)]])]

/-- Two sources differ only in a credential, and so do the responses for them. -/
theorem redactedForResponse_array_leaks :
    EqualUpToSecrets (configWithProvider "s1") (configWithProvider "s2") ∧
      (SourceRecord.redactedForResponse
          { id := "i", name := "n", config := configWithProvider "s1" }).config =
        configWithProvider "s1" ∧
      (SourceRecord.redactedForResponse
          { id := "i", name := "n", config := configWithProvider "s1" }).config ≠
        (SourceRecord.redactedForResponse
          { id := "i", name := "n", config := configWithProvider "s2" }).config := by
  have hproviders : isSensitive "providers" = false := by decide +kernel
  have hredact : ∀ secret,
      redactSensitiveValues (configWithProvider secret) = configWithProvider secret := by
    intro secret
    simp [configWithProvider, redactMember, hproviders]
  refine ⟨?_, hredact "s1", ?_⟩
  · have hsecret : isSensitive "client_secret" = true := by decide +kernel
    simp [EqualUpToSecrets, configWithProvider, withSecretsMember, hproviders, hsecret]
  · simp only [SourceRecord.redactedForResponse, hredact]
    simp [configWithProvider]

end Keylo.Upstream
