import Keylo.Foundation.System
import Keylo.Http
import Keylo.Upstream.Profile

/-!
# The cache of upstream metadata

`fetch_cached_oidc_discovery` and `fetch_cached_oidc_jwks` of `handlers/identity.rs`. A discovery
document and the keys that its `jwks_uri` points to share one entry of the cache, which has one
time of fetching. Keys that are fetched later are stored together with the document that the
caller holds, and with a new time.

A document counts as fetched at the instant at which the answer of the network is stored.

## Main definitions

* `parseOidcUpstreamDiscovery` : the checks on a discovery document.
* `Metadata.protocol` : interleaved calls of the two functions.

## Main results

* `Metadata.invariant_step` : where the documents in the cache come from.
* `Metadata.served_within_window` : documents that are served from entries without keys are not
  older than the cache window.
* `Metadata.held_document_fetched` : the documents that callers hold were fetched for their sources.
-/

namespace Keylo.Upstream

open Transition Function

/-! ### Discovery documents -/

structure OidcUpstreamDiscovery where
  issuer : String
  authorizationEndpoint : String
  tokenEndpoint : String
  jwksUri : String
  userinfoEndpoint : Option String := none
  responseTypesSupported : List String
  grantTypesSupported : Option (List String) := none
  tokenEndpointAuthMethodsSupported : Option (List String) := none
  idTokenSigningAlgValuesSupported : Option (List String) := none
deriving DecidableEq, Repr

/-- The parts of a URL that the checks read (`url::Url`). -/
structure Url where
  scheme : String
  host : Option String := none
  username : String := ""
  password : Option String := none
  query : Option String := none
  fragment : Option String := none

section Parsing

variable (members : List (String × Value))

def requiredString (name : String) : Option String := (members.lookup name).bind Value.asStr

/-- An optional field: `null` stands for a field that is missing. -/
def optionalField {α : Type*} (read : Value → Option α) (name : String) : Option (Option α) :=
  match members.lookup name with
  | none | some .null => some none
  | some value => (read value).map some

def strings : Value → Option (List String)
  | .array values => values.mapM Value.asStr
  | _ => none

/-- The document with the given members. -/
def discoveryOfMembers : Option OidcUpstreamDiscovery := do
  let issuer ← requiredString members "issuer"
  let authorizationEndpoint ← requiredString members "authorization_endpoint"
  let tokenEndpoint ← requiredString members "token_endpoint"
  let jwksUri ← requiredString members "jwks_uri"
  let userinfoEndpoint ← optionalField members Value.asStr "userinfo_endpoint"
  let responseTypesSupported ← (members.lookup "response_types_supported").bind strings
  let grantTypesSupported ← optionalField members strings "grant_types_supported"
  let tokenEndpointAuthMethodsSupported ←
    optionalField members strings "token_endpoint_auth_methods_supported"
  let idTokenSigningAlgValuesSupported ←
    optionalField members strings "id_token_signing_alg_values_supported"
  return { issuer, authorizationEndpoint, tokenEndpoint, jwksUri, userinfoEndpoint,
           responseTypesSupported, grantTypesSupported, tokenEndpointAuthMethodsSupported,
           idTokenSigningAlgValuesSupported }

end Parsing

/-- The fields of a document in the order of the source. -/
def discoveryFields : List String :=
  ["issuer", "authorization_endpoint", "token_endpoint", "jwks_uri", "userinfo_endpoint",
    "response_types_supported", "grant_types_supported", "token_endpoint_auth_methods_supported",
    "id_token_signing_alg_values_supported"]

/-- `serde_json::from_value`, which reads an array as the fields in their order. -/
def deserializeDiscovery : Value → Option OidcUpstreamDiscovery
  | .object members => discoveryOfMembers members
  | .array values =>
    if values.length = discoveryFields.length then discoveryOfMembers (discoveryFields.zip values)
    else none
  | _ => none

variable (parseUrl : String → Option Url)

def validateOidcTransportUrl (value label : String) (rejectQuery allowInsecureInternalHttp : Bool) :
    Except String Unit :=
  match parseUrl value with
  | none => .error (label ++ " must be an absolute URL")
  | some url =>
    if !(url.scheme == "https" || allowInsecureInternalHttp && url.scheme == "http") ||
        url.host.isNone || url.username != "" || url.password.isSome || url.fragment.isSome ||
        rejectQuery && url.query.isSome then
      .error (label ++ " must be an HTTPS URL, or HTTP with allow_insecure_internal_http, " ++
        "without credentials or fragment")
    else .ok ()

/-- A list that is given contains the required value. -/
def supports (values : Option (List String)) (required : String) : Bool :=
  values.all fun values => values.contains required

def parseOidcUpstreamDiscovery (registeredIssuer : String) (document : Value) :
    Except String OidcUpstreamDiscovery :=
  match deserializeDiscovery document with
  | none => .error "OIDC Discovery document is missing required endpoints"
  | some parsed =>
    let transportUrl label endpoint := validateOidcTransportUrl parseUrl endpoint
      ("OIDC Discovery " ++ label) false (registeredIssuer.startsWith "http://")
    if parsed.issuer ≠ registeredIssuer then
      .error "OIDC Discovery issuer does not match the registered issuer"
    else do
      transportUrl "authorization_endpoint" parsed.authorizationEndpoint
      transportUrl "token_endpoint" parsed.tokenEndpoint
      transportUrl "jwks_uri" parsed.jwksUri
      match parsed.userinfoEndpoint with
      | none => pure ()
      | some endpoint => transportUrl "userinfo_endpoint" endpoint
      if !parsed.responseTypesSupported.contains "code" then
        throw "OIDC Discovery must support response_type code"
      if !supports parsed.grantTypesSupported "authorization_code" then
        throw "OIDC Discovery must support authorization_code"
      if !supports parsed.tokenEndpointAuthMethodsSupported "client_secret_basic" then
        throw "OIDC Discovery must support token_endpoint_auth_method client_secret_basic"
      if !supports parsed.idTokenSigningAlgValuesSupported "RS256" then
        throw "OIDC Discovery must support ID Token signing algorithm RS256"
      return parsed

/-! ### The cache -/

structure OidcUpstreamJwk where
  kid : Option String := none
  kty : String
  n : Option String := none
  e : Option String := none
deriving DecidableEq, Repr

structure OidcUpstreamJwks where
  keys : List OidcUpstreamJwk
deriving DecidableEq, Repr

structure OidcUpstreamMetadataCacheEntry where
  sourceUpdatedAt : Time
  fetchedAt : Time
  discovery : OidcUpstreamDiscovery
  jwks : Option OidcUpstreamJwks

def oidcUpstreamMetadataCacheTtlSeconds : Int := 300

/-- What the calls read of an identity source and of its configuration. -/
structure MetadataSource where
  id : String
  updatedAt : Time
  issuer : String

/-- `TimeDelta::num_seconds`: the fraction is cut off. -/
def numSeconds (duration : Int) : Int := duration.tdiv 1000000

def upstreamCacheEntryIsFresh (now : Time) (entry : OidcUpstreamMetadataCacheEntry)
    (source : MetadataSource) : Bool :=
  entry.sourceUpdatedAt == source.updatedAt &&
    decide (numSeconds (now - entry.fetchedAt) < oidcUpstreamMetadataCacheTtlSeconds)

/-- `oidc_upstream_metadata_cache`, by the ids of the sources. -/
abbrev MetadataCache := String → Option OidcUpstreamMetadataCacheEntry

variable (cache : MetadataCache) (now : Time) (source : MetadataSource)

def cachedDiscovery : Option OidcUpstreamDiscovery :=
  ((cache source.id).filter fun entry => upstreamCacheEntryIsFresh now entry source).map
    OidcUpstreamMetadataCacheEntry.discovery

def cachedJwks (discovery : OidcUpstreamDiscovery) : Option OidcUpstreamJwks :=
  ((cache source.id).filter fun entry => upstreamCacheEntryIsFresh now entry source &&
    entry.discovery.jwksUri == discovery.jwksUri).bind OidcUpstreamMetadataCacheEntry.jwks

/-- The entry is written whole: its time is the present one, whatever it holds. -/
def storeMetadata
    (discovery : OidcUpstreamDiscovery) (jwks : Option OidcUpstreamJwks) : MetadataCache :=
  update cache source.id (some ⟨source.updatedAt, now, discovery, jwks⟩)

/-- The answer of the network to a request for a document. -/
inductive NetworkAnswer (δ : Type*)
  | unreachable
  | unsuccessfulStatus
  | invalidBody
  | body (content : δ)

/-- The document of an answer, with the texts of the errors. -/
def NetworkAnswer.read {δ : Type*} (unable status body : String) :
    NetworkAnswer δ → Except AuthError δ
  | .unreachable => .error (.invalidRequest unable)
  | .unsuccessfulStatus => .error (.invalidRequest status)
  | .invalidBody => .error (.invalidRequest body)
  | .body content => .ok content

def discoveryOf (issuer : String) (answer : NetworkAnswer Value) :
    Except AuthError OidcUpstreamDiscovery := do
  let document ← answer.read "Unable to fetch OIDC Discovery document"
    "OIDC Discovery endpoint returned an unsuccessful status"
    "OIDC Discovery document is not valid JSON"
  (parseOidcUpstreamDiscovery parseUrl issuer document).mapError .invalidRequest

def jwksOf (answer : NetworkAnswer OidcUpstreamJwks) : Except AuthError OidcUpstreamJwks :=
  answer.read "Unable to fetch OIDC JWKS" "OIDC JWKS endpoint returned an unsuccessful status"
    "OIDC JWKS is invalid"

namespace Metadata

/-! ### Calls -/

/-- How far a caller has come. -/
inductive Phase
  | idle
  /-- The cache had no document, and the network is asked for it. -/
  | fetchingDiscovery (source : MetadataSource)
  /-- The caller holds a document, and keys if it asked for them. -/
  | holding (source : MetadataSource) (discovery : OidcUpstreamDiscovery)
      (jwks : Option OidcUpstreamJwks)
  | fetchingJwks (source : MetadataSource) (discovery : OidcUpstreamDiscovery)
  | failed (e : AuthError)

/-- The source and the document that the caller holds. -/
def Phase.held : Phase → Option (MetadataSource × OidcUpstreamDiscovery)
  | .holding source discovery _ | .fetchingJwks source discovery => some (source, discovery)
  | _ => none

/-- What a step of a call reads: its arguments, and the answers of the network. -/
inductive Input
  | fetchDiscovery (source : MetadataSource)
  | discoveryAnswered (answer : NetworkAnswer Value)
  | fetchJwks (forceRefresh : Bool)
  | jwksAnswered (answer : NetworkAnswer OidcUpstreamJwks)

structure Shared where
  cache : MetadataCache
  now : Time

/-- The steps of `fetch_cached_oidc_discovery` and `fetch_cached_oidc_jwks`. Keys are fetched for
the source and the document that the caller holds. -/
def next : Input → Shared → Phase → Option (Shared × Phase)
  | .fetchDiscovery _, _, .fetchingDiscovery _ => none
  | .fetchDiscovery _, _, .fetchingJwks _ _ => none
  | .fetchDiscovery source, s, _ =>
    match cachedDiscovery s.cache s.now source with
    | some discovery => some (s, .holding source discovery none)
    | none => some (s, .fetchingDiscovery source)
  | .discoveryAnswered answer, s, .fetchingDiscovery source =>
    match discoveryOf parseUrl source.issuer answer with
    | .error e => some (s, .failed e)
    | .ok discovery =>
      some ({ s with cache := storeMetadata s.cache s.now source discovery none },
        .holding source discovery none)
  | .fetchJwks forceRefresh, s, .holding source discovery _ =>
    match if forceRefresh then none else cachedJwks s.cache s.now source discovery with
    | some jwks => some (s, .holding source discovery (some jwks))
    | none => some (s, .fetchingJwks source discovery)
  | .jwksAnswered answer, s, .fetchingJwks source discovery =>
    match jwksOf answer with
    | .error e => some (s, .failed e)
    | .ok jwks =>
      some ({ s with cache := storeMetadata s.cache s.now source discovery (some jwks) },
        .holding source discovery (some jwks))
  | _, _, _ => none

/-- Callers, and a clock that does not go back. -/
def protocol (ι : Type*) : Protocol ι Shared Phase Input Time where
  next _ := next parseUrl
  env now s := if s.now ≤ now then some { s with now := now } else none

/-! ### Documents that were fetched -/

/-- A document that the network answered. -/
structure Fetch where
  sourceId : String
  updatedAt : Time
  discovery : OidcUpstreamDiscovery
  fetchedAt : Time

variable {ι : Type*} [DecidableEq ι]

variable (log : List Fetch)

/-- The documents that were fetched, at the instants at which they were stored. -/
def logged (now : Time) : Input → Phase → List Fetch
  | .discoveryAnswered _, .holding source discovery _ =>
    ⟨source.id, source.updatedAt, discovery, now⟩ :: log
  | _, _ => log

def record (c : Config ι Shared Phase) (a : Action ι Input Time)
    (c' : Config ι Shared Phase) : List Fetch :=
  match a with
  | .request i a => logged log c.shared.now a (c'.request i)
  | .environment _ => log

/-- The document was fetched for the source as it is. -/
def Fetch.For (f : Fetch) (source : MetadataSource) (discovery : OidcUpstreamDiscovery) : Prop :=
  f.sourceId = source.id ∧ f.updatedAt = source.updatedAt ∧ f.discovery = discovery

/-- The system with the record of what was fetched. -/
def system (ι : Type*) [DecidableEq ι] :=
  (protocol parseUrl ι).system.observe record

/-- A document that is served from the cache was fetched for the source as it is, and since less
than the cache window. -/
def ServedWithinWindow (c : Config ι Shared Phase × List Fetch) (a : Action ι Input Time)
    (c' : Config ι Shared Phase × List Fetch) : Prop :=
  ∀ i source, a = .request i (.fetchDiscovery source) →
    ∀ discovery jwks, c'.1.request i = .holding source discovery jwks →
      ∃ f ∈ c.2, f.For source discovery ∧
        c.1.shared.now - f.fetchedAt < oidcUpstreamMetadataCacheTtlSeconds * 1000000

/-- A call for a document that is answered from the cache finds no keys in the entry. -/
def FindsNoJwks (c : Config ι Shared Phase × List Fetch) (a : Action ι Input Time) : Prop :=
  ∀ i source, a = .request i (.fetchDiscovery source) →
    (cachedDiscovery c.1.shared.cache c.1.shared.now source).isSome →
    ∀ entry, c.1.shared.cache source.id = some entry → entry.jwks = none

/-! ### Where the documents in the cache come from -/

/-- What a step of a caller does. -/
inductive Effect : Input → Shared → Phase → Shared → Phase → Prop
  | served {source s t discovery} (h : cachedDiscovery s.cache s.now source = some discovery) :
      Effect (.fetchDiscovery source) s t s (.holding source discovery none)
  | missed {source s t} : Effect (.fetchDiscovery source) s t s (.fetchingDiscovery source)
  | discovery {answer s source} (discovery) :
      Effect (.discoveryAnswered answer) s (.fetchingDiscovery source)
        { s with cache := storeMetadata s.cache s.now source discovery none }
        (.holding source discovery none)
  | jwksServed {force s source discovery old} (jwks) :
      Effect (.fetchJwks force) s (.holding source discovery old) s
        (.holding source discovery (some jwks))
  | jwksMissed {force s source discovery old} :
      Effect (.fetchJwks force) s (.holding source discovery old) s
        (.fetchingJwks source discovery)
  | jwks {answer s source discovery} (jwks) :
      Effect (.jwksAnswered answer) s (.fetchingJwks source discovery)
        { s with cache := storeMetadata s.cache s.now source discovery (some jwks) }
        (.holding source discovery (some jwks))
  | failed {a s t} (e) : Effect a s t s (.failed e)

variable {parseUrl} {a : Input} {s s' : Shared} {t t' : Phase}

theorem effect_of_next (h : next parseUrl a s t = some (s', t')) : Effect a s t s' t' := by
  unfold next at h
  split at h
  · cases h
  · cases h
  · split at h
    · cases h
      exact .served ‹_›
    · cases h
      exact .missed
  · split at h
    · cases h
      exact .failed _
    · cases h
      exact .discovery _
  · split at h
    · cases h
      exact .jwksServed _
    · cases h
      exact .jwksMissed
  · split at h
    · cases h
      exact .failed _
    · cases h
      exact .jwks _
  · cases h

/-- The document of the entry was fetched for the source as it was; and if the entry has no keys,
at the time of the entry. -/
def Traced (id : String) (entry : OidcUpstreamMetadataCacheEntry) : Prop :=
  ∃ f ∈ log, f.sourceId = id ∧ f.updatedAt = entry.sourceUpdatedAt ∧
    f.discovery = entry.discovery ∧ (entry.jwks = none → f.fetchedAt = entry.fetchedAt)

/-- The document that a caller holds was fetched for its source. -/
def Backed (t : Phase) : Prop :=
  ∀ source discovery, t.held = some (source, discovery) → ∃ f ∈ log, f.For source discovery

/-- Entries and calls have their documents from fetches in the log. -/
structure Invariant (c : Config ι Shared Phase × List Fetch) : Prop where
  entries : ∀ id entry, c.1.shared.cache id = some entry → Traced c.2 id entry
  requests : ∀ i, Backed c.2 (c.1.request i)

variable {log : List Fetch} {now : Time} {source : MetadataSource}
  {discovery : OidcUpstreamDiscovery} {id : String} {entry : OidcUpstreamMetadataCacheEntry}
  {cache : MetadataCache}

theorem mem_logged {f : Fetch} (hf : f ∈ log) : f ∈ logged log now a t := by
  unfold logged
  split
  · exact List.mem_cons_of_mem _ hf
  · exact hf

theorem Traced.logged (h : Traced log id entry) : Traced (logged log now a t) id entry := by
  obtain ⟨f, hf, h⟩ := h
  exact ⟨f, mem_logged hf, h⟩

theorem Backed.logged (h : Backed log t') : Backed (logged log now a t) t' :=
  fun source discovery hheld => by
    obtain ⟨f, hf, h⟩ := h source discovery hheld
    exact ⟨f, mem_logged hf, h⟩

/-- A document that the cache serves is the one of a fresh entry. -/
theorem cachedDiscovery_eq_some (h : cachedDiscovery cache now source = some discovery) :
    ∃ entry, cache source.id = some entry ∧ entry.sourceUpdatedAt = source.updatedAt ∧
      numSeconds (now - entry.fetchedAt) < oidcUpstreamMetadataCacheTtlSeconds ∧
      entry.discovery = discovery := by
  obtain ⟨entry, hentry, rfl⟩ := Option.map_eq_some_iff.1 h
  obtain ⟨hentry, hfresh⟩ := Option.filter_eq_some_iff.1 hentry
  simp only [upstreamCacheEntryIsFresh, Bool.and_eq_true, beq_iff_eq, decide_eq_true_eq] at hfresh
  exact ⟨entry, hentry, hfresh.1, hfresh.2, rfl⟩

theorem lt_of_numSeconds_lt {d : Int}
    (h : numSeconds d < oidcUpstreamMetadataCacheTtlSeconds) :
    d < oidcUpstreamMetadataCacheTtlSeconds * 1000000 := by
  rcases lt_or_ge d 0 with hneg | hpos
  · exact hneg.trans (by decide)
  · rw [numSeconds, Int.tdiv_eq_ediv_of_nonneg hpos] at h
    exact (Int.ediv_lt_iff_lt_mul (by decide)).1 h

theorem traced_storeMetadata {jwks : Option OidcUpstreamJwks}
    (hcache : ∀ id entry, cache id = some entry → Traced log id entry)
    (hstored : Traced log source.id ⟨source.updatedAt, now, discovery, jwks⟩) :
    storeMetadata cache now source discovery jwks id = some entry → Traced log id entry := by
  intro h
  by_cases hid : id = source.id
  · subst hid
    rw [storeMetadata, update_self] at h
    cases h
    exact hstored
  · rw [storeMetadata, update_of_ne hid] at h
    exact hcache id entry h

/-- What a caller does keeps the origin of all documents. -/
theorem Effect.traced (h : Effect a s t s' t')
    (hcache : ∀ id entry, s.cache id = some entry → Traced log id entry) (ht : Backed log t) :
    (∀ id entry, s'.cache id = some entry → Traced (logged log s.now a t') id entry) ∧
      Backed (logged log s.now a t') t' := by
  cases h with
  | @served source _ _ discovery h =>
    refine ⟨hcache, ?_⟩
    rintro _ _ ⟨⟩
    obtain ⟨entry, hentry, hupdated, -, rfl⟩ := cachedDiscovery_eq_some h
    obtain ⟨f, hf, hid, hfetched, hdiscovery, -⟩ := hcache _ _ hentry
    exact ⟨f, hf, hid, hfetched.trans hupdated, hdiscovery⟩
  | missed => exact ⟨hcache, fun _ _ hheld => by cases hheld⟩
  | @discovery answer _ source discovery =>
    have hnew : (⟨source.id, source.updatedAt, discovery, s.now⟩ : Fetch) ∈
        logged log s.now (.discoveryAnswered answer) (.holding source discovery none) :=
      List.mem_cons_self
    refine ⟨fun id entry => traced_storeMetadata (fun id entry h => (hcache id entry h).logged)
      ⟨_, hnew, rfl, rfl, rfl, fun _ => rfl⟩, ?_⟩
    rintro _ _ ⟨⟩
    exact ⟨_, hnew, rfl, rfl, rfl⟩
  | jwksServed | jwksMissed =>
    refine ⟨hcache, ?_⟩
    rintro _ _ ⟨⟩
    exact ht _ _ rfl
  | jwks =>
    obtain ⟨f, hf, hid, hupdated, hdiscovery⟩ := ht _ _ rfl
    refine ⟨fun id entry => traced_storeMetadata hcache
      ⟨f, hf, hid, hupdated, hdiscovery, fun hnone => by cases hnone⟩, ?_⟩
    rintro _ _ ⟨⟩
    exact ⟨f, hf, hid, hupdated, hdiscovery⟩
  | failed =>
    refine ⟨fun id entry h => (hcache id entry h).logged, fun _ _ hheld => by cases hheld⟩

variable {c c' : Config ι Shared Phase × List Fetch} {action : Action ι Input Time}

theorem invariant_step (h : Invariant c) (hstep : (system parseUrl ι).step c action = some c') :
    Invariant c' := by
  obtain ⟨⟨shared, request⟩, log⟩ := c
  obtain ⟨_, hbase, rfl⟩ := System.observe_step_eq_some.1 hstep
  obtain ⟨now, s', rfl, hnext, rfl⟩ | ⟨i, a, s', t', rfl, hnext, rfl⟩ :=
    Protocol.step_cases hbase
  · simp only [protocol] at hnext
    split at hnext
    · cases hnext
      exact ⟨h.entries, h.requests⟩
    · cases hnext
  obtain ⟨hentries, hbacked⟩ := (effect_of_next hnext).traced h.entries (h.requests i)
  simp only [record, update_self]
  exact ⟨hentries, (forall_update_iff _ _).2 ⟨hbacked, fun j _ => (h.requests j).logged⟩⟩

/-- A document that is served from an entry without keys was fetched within the window. -/
theorem servedWithinWindow_of_step (h : Invariant c) (hfinds : FindsNoJwks c action)
    (hstep : (system parseUrl ι).step c action = some c') : ServedWithinWindow c action c' := by
  rintro i source rfl discovery jwks hholding
  obtain ⟨_, hbase, rfl⟩ := System.observe_step_eq_some.1 hstep
  obtain ⟨s', t', hnext, rfl⟩ := (protocol parseUrl ι).step_request_eq_some.1 hbase
  simp only [update_self] at hholding
  subst hholding
  cases effect_of_next hnext with
  | served hserved =>
    obtain ⟨entry, hentry, hupdated, hfresh, rfl⟩ := cachedDiscovery_eq_some hserved
    obtain ⟨f, hf, hid, hfetched, hdiscovery, htime⟩ := h.entries _ _ hentry
    refine ⟨f, hf, ⟨hid, hfetched.trans hupdated, hdiscovery⟩, ?_⟩
    rw [htime (hfinds i source rfl (by rw [hserved]; rfl) entry hentry)]
    exact lt_of_numSeconds_lt hfresh

/-- Starting from an empty cache: if no call for a document finds keys in the entry of its source,
then every document that is served from the cache was fetched for the source as it is, and within
the cache window. -/
theorem served_within_window {start : Config ι Shared Phase} {actions : List (Action ι Input Time)}
    (hcache : ∀ id, start.shared.cache id = none) (hidle : ∀ i, start.request i = .idle)
    (hfinds : (system parseUrl ι).Along (fun c a _ => FindsNoJwks c a) (start, []) actions) :
    (system parseUrl ι).Along ServedWithinWindow (start, []) actions := by
  refine (system parseUrl ι).along_of_invariant (I := Invariant)
    (fun c a c' hinv hfinds hstep =>
      ⟨invariant_step hinv hstep, servedWithinWindow_of_step hinv hfinds hstep⟩) ?_ hfinds
  refine ⟨fun id entry h => ?_, fun i source discovery h => ?_⟩
  · rw [hcache id] at h
    cases h
  · rw [hidle i] at h
    cases h

/-- Starting from an empty cache: every document that a caller holds was fetched for the source as
the caller has read it, not for another one or for an earlier state of it. -/
theorem held_document_fetched {start : Config ι Shared Phase} {actions : List (Action ι Input Time)}
    (hcache : ∀ id, start.shared.cache id = none) (hidle : ∀ i, start.request i = .idle)
    (hrun : (system parseUrl ι).run (start, []) actions = some c) :
    ∀ i, Backed c.2 (c.1.request i) := by
  have hstart : Invariant (start, []) :=
    ⟨fun id _ h => by simp [hcache id] at h, fun i _ _ h => by simp [hidle i, Phase.held] at h⟩
  exact ((system parseUrl ι).run_invariant (fun _ _ _ h => invariant_step h) hstart hrun).requests

/-! ### Keys renew the time of a document -/

/-- A source, its discovery document, and the document as it is parsed. -/
def corporate : MetadataSource := ⟨"s", 0, "https://idp.example"⟩

def corporateMembers : List (String × Value) :=
  [("issuer", .string "https://idp.example"),
    ("authorization_endpoint", .string "https://idp.example/authorize"),
    ("token_endpoint", .string "https://idp.example/token"),
    ("jwks_uri", .string "https://idp.example/jwks"),
    ("response_types_supported", .array [.string "code"])]

def corporateDiscovery : OidcUpstreamDiscovery where
  issuer := "https://idp.example"
  authorizationEndpoint := "https://idp.example/authorize"
  tokenEndpoint := "https://idp.example/token"
  jwksUri := "https://idp.example/jwks"
  responseTypesSupported := ["code"]

/-- A reading of URLs that are all well formed. -/
def httpsUrl (_ : String) : Option Url := some { scheme := "https", host := some "idp.example" }

def emptyCache : Config ℕ Shared Phase := ⟨⟨fun _ => none, 0⟩, fun _ => .idle⟩

/-- The document is fetched, and served again before the window ends. -/
def servedAgain : List (Action ℕ Input Time) :=
  [.request 0 (.fetchDiscovery corporate),
    .request 0 (.discoveryAnswered (.body (.object corporateMembers))),
    .environment 299000000,
    .request 1 (.fetchDiscovery corporate)]

theorem served_within_window_again :
    (∀ id, emptyCache.shared.cache id = none) ∧ (∀ i, emptyCache.request i = .idle) ∧
      (system httpsUrl ℕ).Along (fun c a _ => FindsNoJwks c a) (emptyCache, []) servedAgain ∧
      (system httpsUrl ℕ).Along ServedWithinWindow (emptyCache, []) servedAgain := by
  have hfinds : (system httpsUrl ℕ).Along (fun c a _ => FindsNoJwks c a) (emptyCache, [])
      servedAgain := by
    refine ⟨?_, ?_, ?_, ?_, trivial⟩
    · rintro i source ⟨⟩ - entry ⟨⟩
    · rintro i source ⟨⟩
    · rintro i source ⟨⟩
    · rintro i source ⟨⟩ - entry ⟨⟩
      rfl
  exact ⟨fun _ => rfl, fun _ => rfl, hfinds, served_within_window (fun _ => rfl) (fun _ => rfl)
    hfinds⟩

theorem held_document_fetched_again :
    ∃ c, (system httpsUrl ℕ).run (emptyCache, []) servedAgain = some c ∧
      (c.1.request 1).held = some (corporate, corporateDiscovery) ∧ Backed c.2 (c.1.request 1) :=
  ⟨_, rfl, rfl, @held_document_fetched httpsUrl ℕ _ _ emptyCache servedAgain (fun _ => rfl)
    (fun _ => rfl) rfl 1⟩

/-- A caller that fetches keys with the document renews the time of the document, which is then
served although it was fetched more than eight minutes ago. -/
theorem served_after_window :
    ∃ c c', (system httpsUrl ℕ).run (emptyCache, []) (servedAgain ++
        [.request 1 (.fetchJwks false), .request 1 (.jwksAnswered (.body ⟨[]⟩)),
          .environment 500000000]) = some c ∧
      (system httpsUrl ℕ).step c (.request 2 (.fetchDiscovery corporate)) = some c' ∧
      c'.1.request 2 = .holding corporate corporateDiscovery none ∧
      c.1.shared.now = 500000000 ∧ c.2 = [⟨"s", 0, corporateDiscovery, 0⟩] ∧
      ¬ ServedWithinWindow c (.request 2 (.fetchDiscovery corporate)) c' := by
  refine ⟨_, _, rfl, rfl, rfl, rfl, rfl, fun hserved => ?_⟩
  obtain ⟨f, hf, -, hage⟩ := hserved 2 corporate rfl _ _ rfl
  obtain rfl := List.mem_singleton.1 hf
  exact absurd hage (by decide)

end Metadata

end Keylo.Upstream
