import Mathlib.Tactic.Tauto
import Keylo.Text

/-!
# Redirect URIs of OIDC clients

The check of the redirect URIs of a client (`models/oidc.rs`). The parser of URLs belongs to a
library and is a parameter; what it returns for a host is an address or a domain, and the check
reads the text of it (`host_str`), which has brackets around an IPv6 address.

## Main definitions

* `validateRedirectUris` : the check.
* `Acceptable` : the URLs it is meant to accept.

## Main results

* `validateRedirectUri_eq_ok` : the URLs it accepts, which are not those of the IPv6 loopback
  address.
-/

namespace Keylo.Oidc

/-- `url::Host`. -/
inductive Host
  | domain (name : String)
  | ipv4 (a b c d : Fin 256)
  | ipv6 (address : BitVec 128)

/-- The parts of a parsed URL. -/
structure Url where
  scheme : String
  username : String := ""
  password : Option String := none
  host : Option Host := none
  fragment : Option String := none

/-- `Url::host_str`, with the text of an IPv6 address as a parameter. -/
def Host.text (ipv6Text : BitVec 128 → String) : Host → String
  | .domain name => name
  | .ipv4 a b c d => toString a ++ "." ++ toString b ++ "." ++ toString c ++ "." ++ toString d
  | .ipv6 address => "[" ++ ipv6Text address ++ "]"

variable (ipv6Text : BitVec 128 → String) (parse : String → Option Url)

def validateRedirectUri (uri : String) : Except String Unit :=
  match parse uri with
  | none => .error ("redirect_uri must be an absolute URL: " ++ uri)
  | some parsed =>
    let hostStr := parsed.host.map (Host.text ipv6Text)
    let loopbackHttp := parsed.scheme == "http" &&
      (hostStr == some "127.0.0.1" || hostStr == some "::1")
    let safeHttps := parsed.scheme == "https" && hostStr.isSome
    if (!safeHttps && !loopbackHttp) || parsed.username != "" || parsed.password.isSome ||
        parsed.fragment.isSome then
      .error ("redirect_uri must use HTTPS (or an exact loopback IP over HTTP) without " ++
        "credentials or a fragment: " ++ uri)
    else .ok ()

def validateRedirectUris (redirectUris : List String) : Except String Unit :=
  if redirectUris.isEmpty then .error "at least one redirect_uri is required"
  else redirectUris.forM (validateRedirectUri ipv6Text parse)

/-- An absolute URL without credentials and fragment, over HTTPS, or over HTTP to a loopback
address. -/
def Acceptable (uri : String) : Prop :=
  ∃ url, parse uri = some url ∧ url.username = "" ∧ url.password = none ∧ url.fragment = none ∧
    (url.scheme = "https" ∧ url.host.isSome ∨
      url.scheme = "http" ∧ (url.host = some (.ipv4 127 0 0 1) ∨ url.host = some (.ipv6 1)))

/-- An HTTP URL of the IPv6 loopback address. -/
def IsLoopback6 (uri : String) : Prop :=
  ∃ url, parse uri = some url ∧ url.scheme = "http" ∧ url.host = some (.ipv6 1)

/-- A domain of an HTTP URL is no address: a last label that is a number makes it an IPv4 address,
and a colon is no character of a domain. -/
def DomainsAreNoAddresses : Prop :=
  ∀ uri url name, parse uri = some url → url.scheme = "http" → url.host = some (.domain name) →
    name ≠ "127.0.0.1" ∧ name ≠ "::1"

variable {ipv6Text parse}

theorem text_ipv4_eq_loopback {a b c d : Fin 256} :
    Host.text ipv6Text (.ipv4 a b c d) = "127.0.0.1" ↔ Host.ipv4 a b c d = .ipv4 127 0 0 1 := by
  have hany : ∀ n : Fin 256, ((toString n).toList.any (· == '.')) = false := by decide +kernel
  have hdot (n : Fin 256) : ∀ x ∈ (toString n).toList, (x == '.') = false :=
    fun x hx => Bool.eq_false_iff.2 (List.any_eq_false.1 (hany n) x hx)
  have hfirst : ∀ n : Fin 256, (toString n).toList = ['1', '2', '7'] → n = 127 := by
    decide +kernel
  have hmiddle : ∀ n : Fin 256, (toString n).toList = ['0'] → n = 0 := by decide +kernel
  have hlast : ∀ n : Fin 256, (toString n).toList = ['1'] → n = 1 := by decide +kernel
  refine ⟨fun h => ?_, fun h => ?_⟩
  · have hpieces := congrArg (fun s => pieces (· == '.') s.toList) h
    have htext : (Host.text ipv6Text (.ipv4 a b c d)).toList = (toString a).toList ++ '.' ::
        ((toString b).toList ++ '.' :: ((toString c).toList ++ '.' :: (toString d).toList)) := by
      simp [Host.text]
    have hloopback :
        pieces (· == '.') "127.0.0.1".toList = [['1', '2', '7'], ['0'], ['0'], ['1']] := by decide
    rw [htext, pieces_append_cons (hdot a) rfl, pieces_append_cons (hdot b) rfl,
      pieces_append_cons (hdot c) rfl, pieces_eq_singleton (hdot d), hloopback] at hpieces
    simp only [List.cons.injEq, and_true] at hpieces
    obtain ⟨ha, hb, hc, hd⟩ := hpieces
    rw [hfirst a ha, hmiddle b hb, hmiddle c hc, hlast d hd]
  · rw [h]
    rfl

/-- Of the hosts of an HTTP URL only the IPv4 loopback address has one of the two texts: the text
of an IPv6 address has brackets. -/
theorem loopback_text_iff {uri : String} {url : Url} (hdomain : DomainsAreNoAddresses parse)
    (hparse : parse uri = some url) (hscheme : url.scheme = "http") :
    (url.host.map (Host.text ipv6Text) = some "127.0.0.1" ∨
      url.host.map (Host.text ipv6Text) = some "::1") ↔ url.host = some (.ipv4 127 0 0 1) := by
  cases hhost : url.host with
  | none => simp
  | some host =>
    simp only [Option.map_some, Option.some.injEq]
    cases host with
    | domain name => simp [Host.text, hdomain uri url name hparse hscheme hhost]
    | ipv4 a b c d =>
      have hdot : '.' ∈ (Host.text ipv6Text (.ipv4 a b c d)).toList := by simp [Host.text]
      have hcolons : Host.text ipv6Text (.ipv4 a b c d) ≠ "::1" := by
        intro h
        rw [h] at hdot
        revert hdot
        decide
      rw [text_ipv4_eq_loopback, or_iff_left hcolons]
    | ipv6 address =>
      have hbracket (s : String) (h : Host.text ipv6Text (.ipv6 address) = s) :
          s.toList.head? = some '[' := by simp [← h, Host.text]
      refine iff_of_false (fun h => ?_) nofun
      obtain h | h := h <;> cases hbracket _ h

theorem validateRedirectUri_eq_ok (hdomain : DomainsAreNoAddresses parse) (uri : String) :
    validateRedirectUri ipv6Text parse uri = .ok () ↔
      Acceptable parse uri ∧ ¬ IsLoopback6 parse uri := by
  unfold validateRedirectUri Acceptable IsLoopback6
  cases hparse : parse uri with
  | none => simp
  | some url =>
    have hallowed : ((url.scheme == "https" && (url.host.map (Host.text ipv6Text)).isSome) = true ∨
        (url.scheme == "http" && (url.host.map (Host.text ipv6Text) == some "127.0.0.1" ||
          url.host.map (Host.text ipv6Text) == some "::1")) = true) ↔
        url.scheme = "https" ∧ url.host.isSome ∨
          url.scheme = "http" ∧ url.host = some (.ipv4 127 0 0 1) := by
      rw [Bool.and_eq_true, Bool.and_eq_true, Option.isSome_map, beq_iff_eq, beq_iff_eq,
        Bool.or_eq_true, beq_iff_eq, beq_iff_eq]
      exact or_congr_right (and_congr_right (loopback_text_iff hdomain hparse))
    simp only [Option.some.injEq, exists_eq_left', ite_eq_right_iff, reduceCtorEq, imp_false,
      Bool.or_eq_true, not_or, ← Bool.not_or, Bool.not_eq_true', Bool.not_eq_false, hallowed,
      bne_iff_ne, not_not, Option.not_isSome_iff_eq_none]
    grind

/-- The check is exact for a list unless all its entries are acceptable and one of them is an HTTP
URL of the IPv6 loopback address. -/
theorem validateRedirectUris_exact_iff (ipv6Text : BitVec 128 → String)
    (parse : String → Option Url) (hdomain : DomainsAreNoAddresses parse)
    (redirectUris : List String) :
    (validateRedirectUris ipv6Text parse redirectUris = .ok () ↔
        redirectUris ≠ [] ∧ ∀ uri ∈ redirectUris, Acceptable parse uri) ↔
      ((∀ uri ∈ redirectUris, Acceptable parse uri) →
        ∀ uri ∈ redirectUris, ¬ IsLoopback6 parse uri) := by
  have hall (uris : List String) : uris.forM (validateRedirectUri ipv6Text parse) = .ok () ↔
      (∀ uri ∈ uris, Acceptable parse uri) ∧ ∀ uri ∈ uris, ¬ IsLoopback6 parse uri := by
    induction uris with
    | nil => simp [pure, Except.pure]
    | cons uri uris ih =>
      rw [List.forall_mem_cons, List.forall_mem_cons, and_and_and_comm, ← ih,
        ← @validateRedirectUri_eq_ok ipv6Text parse hdomain, List.forM]
      cases validateRedirectUri ipv6Text parse uri <;> simp [bind, Except.bind]
  cases redirectUris with
  | nil => simp [validateRedirectUris]
  | cons uri uris =>
    rw [validateRedirectUris, List.isEmpty_cons, if_neg Bool.false_ne_true, hall]
    simp only [ne_eq, reduceCtorEq, not_false_eq_true, true_and]
    tauto

/-- A parser that knows two URIs. -/
def twoUris (uri : String) : Option Url :=
  if uri = "https://app.example/cb" then
    some { scheme := "https", host := some (.domain "app.example") }
  else if uri = "http://[::1]/cb" then some { scheme := "http", host := some (.ipv6 1) }
  else none

theorem domainsAreNoAddresses_twoUris : DomainsAreNoAddresses twoUris := by
  rintro uri url name hparse hscheme hhost
  unfold twoUris at hparse
  split_ifs at hparse
  · cases hparse
    exact absurd hscheme (by decide)
  · cases hparse
    cases hhost

/-- A list that the check accepts. -/
def oneUri : List String := ["https://app.example/cb"]

theorem validateRedirectUris_exact_iff_oneUri :
    validateRedirectUris (fun _ => "::1") twoUris oneUri = .ok () ∧
      ((validateRedirectUris (fun _ => "::1") twoUris oneUri = .ok () ↔
          oneUri ≠ [] ∧ ∀ uri ∈ oneUri, Acceptable twoUris uri) ↔
        ((∀ uri ∈ oneUri, Acceptable twoUris uri) →
          ∀ uri ∈ oneUri, ¬ IsLoopback6 twoUris uri)) :=
  ⟨rfl, validateRedirectUris_exact_iff _ _ domainsAreNoAddresses_twoUris _⟩

/-- The IPv6 loopback address is rejected, because its text has brackets. -/
theorem loopback6_rejected :
    Acceptable twoUris "http://[::1]/cb" ∧
      (validateRedirectUris (fun _ => "::1") twoUris ["http://[::1]/cb"]).isOk = false :=
  ⟨⟨_, rfl, rfl, rfl, rfl, .inr ⟨rfl, .inr rfl⟩⟩, rfl⟩

end Keylo.Oidc
