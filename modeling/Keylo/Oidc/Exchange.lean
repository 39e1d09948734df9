import Mathlib.Data.List.Nodup
import Keylo.Oidc.Requests

/-!
# The exchange of an authorization code

A journal keeps the codes that have been issued with their grants, the database as the client of
a token request was authenticated against it, and the database as a token request consumed its
code. In every run with fresh codes, each code yields tokens at most once, the tokens belong to
the grant of the code, and a request that is refused has not touched a code
(`code_exchange_once_and_bound`).

## Main definitions

* `Journal` : codes, authentications and consumptions, as a history variable.
* `Bound` : what a successful token request has proved, and what its tokens say.

## Main results

* `Consistent.step` : the invariant of the exchange.
-/

namespace Keylo.Oidc

open Relational Transition Function Table

variable {ι : Type*}

/-- The history of the exchanges. -/
structure Journal (ι : Type*) where
  /-- The codes that have been issued, with their grants. -/
  grants : List (String × OidcAuthorizationCode)
  /-- The token requests whose client was authenticated, with the database at that statement. -/
  authenticated : List (ι × Db)
  /-- The token requests that have consumed their code, with the code and the database before the
  consuming statement. -/
  consumed : List (ι × String × Db)

/-- The journal at the beginning of a run in which the codes `known` have been issued. -/
def Journal.initial (known : List (String × OidcAuthorizationCode)) : Journal ι := ⟨known, [], []⟩

/-- The journal after a step of the request `i` from one phase to the next, on the database `db`. -/
def Journal.recordPhase (J : Journal ι) (i : ι) (db : Db) : Phase → Phase → Journal ι
  | .authorizeCreate request userId organizationId scopes, .redirected (.ok code) =>
    { J with
      grants := (code, authorizationOf request userId organizationId scopes db.clock) :: J.grants }
  | .received (.token _), .tokenCode .. => { J with authenticated := (i, db) :: J.authenticated }
  | .tokenConsume request _ _, .tokenUser .. =>
    { J with consumed := (i, request.code, db) :: J.consumed }
  | _, _ => J

/-- The journal after a step. -/
def Journal.record (J : Journal ι) (c : Config ι Db Phase) :
    Action ι Input Lifecycle → Config ι Db Phase → Journal ι
  | .environment _, _ => J
  | .request i _, c' => J.recordPhase i c.shared (c.request i) (c'.request i)

/-- The next step of the request draws a code. -/
def Phase.draws : Phase → Bool
  | .authorizeCreate .. => true
  | _ => false

/-- A step that draws a code draws one that has not been issued before. -/
def DrawsFreshCode (s : Config ι Db Phase × Journal ι) : Action ι Input Lifecycle → Prop
  | .environment _ => True
  | .request i a => (s.1.request i).draws = true → a.code ∉ s.2.grants.map Prod.fst

instance (s : Config ι Db Phase × Journal ι) : ∀ l, Decidable (DrawsFreshCode s l)
  | .environment _ => .isTrue trivial
  | .request i a =>
    inferInstanceAs
      (Decidable ((s.1.request i).draws = true → a.code ∉ s.2.grants.map Prod.fst))

/-- The client of the token request `i` was authenticated: it was active, with a correct secret if
it is confidential and with no secret if it is public. -/
structure Authenticated (C : Crates) (J : Journal ι) (i : ι) (request : TokenRequest)
    (clientId : String) : Prop where
  exists_client : ∃ clientSecret db client, (i, db) ∈ J.authenticated ∧
    tokenClientCredentials C request = .ok (clientId, clientSecret) ∧
    client ∈ db.oidcClients ∧ client.clientId = clientId ∧ client.active = true ∧
    (client.clientType = .confidential → ∃ secret ∈ clientSecret, ∃ hash ∈ client.clientSecretHash,
      C.bcryptVerify secret hash = some true) ∧
    (client.clientType = .publicClient → clientSecret = none)

/-- The grant was issued under the code of the request, to the client, for the redirect URI and
the verifier of the request. -/
structure Matches (C : Crates) (J : Journal ι) (request : TokenRequest) (clientId : String)
    (grant : OidcAuthorizationCode) : Prop where
  issued : (request.code, grant) ∈ J.grants
  client : grant.clientId = clientId
  redirectUri : grant.redirectUri = request.redirectUri
  verifier : C.base64Encode (C.sha256 request.codeVerifier) = grant.codeChallenge

/-- The request `i` has consumed the code under a live context. -/
structure Consumed (J : Journal ι) (i : ι) (request : TokenRequest)
    (grant : OidcAuthorizationCode) : Prop where
  exists_db : ∃ db, (i, request.code, db) ∈ J.consumed ∧
    db.clock < Time.ofTimestamp grant.expiresAt ∧
    contextIsActive db grant.clientId grant.organizationId grant.userId = true

/-- The tokens are made out to the client and carry the user, the organization, the scopes and
the nonce of the grant. -/
structure Carries (clientId : String) (grant : OidcAuthorizationCode) (t : OidcTokenResponse) :
    Prop where
  accessAud : t.accessToken.aud = clientId
  idAud : t.idToken.aud = clientId
  accessSub : t.accessToken.sub = grant.userId
  idSub : t.idToken.sub = grant.userId
  accessOrganization : t.accessToken.organizationId = grant.organizationId
  idOrganization : t.idToken.organizationId = grant.organizationId
  accessScope : t.accessToken.scope = " ".intercalate grant.scopes
  scope : t.scope = " ".intercalate grant.scopes
  nonce : some t.idToken.nonce = grant.nonce

/-- What the token request `i` has proved before it received the tokens `t`. -/
def Bound (C : Crates) (J : Journal ι) (i : ι) (request : TokenRequest) (t : OidcTokenResponse) :
    Prop :=
  ∃ clientId grant, Authenticated C J i request clientId ∧ Matches C J request clientId grant ∧
    Consumed J i request grant ∧ Carries clientId grant t

/-- What is known of a request in each of its phases. -/
def Phase.Assertion (C : Crates) (J : Journal ι) (i : ι) (r : Request) : Phase → Prop
  | .received r' => r' = r ∧ ∀ x ∈ J.consumed, x.1 ≠ i
  | .authorizeContext .. | .authorizeCreate .. | .redirected _ =>
    ∃ request userId, r = .authorize request userId
  | .tokenCode request clientId _ =>
    r = .token request ∧ (∀ x ∈ J.consumed, x.1 ≠ i) ∧ Authenticated C J i request clientId
  | .tokenConsume request clientId _ =>
    r = .token request ∧ (∀ x ∈ J.consumed, x.1 ≠ i) ∧ Authenticated C J i request clientId ∧
      ∃ grant, Matches C J request clientId grant
  | .tokenUser clientId grant =>
    ∃ request, r = .token request ∧ Authenticated C J i request clientId ∧
      Matches C J request clientId grant ∧ Consumed J i request grant
  | .exchanged (.ok t) => ∃ request, r = .token request ∧ Bound C J i request t
  | .exchanged (.error e) =>
    (∃ request, r = .token request) ∧ (e.error ≠ "server_error" → ∀ x ∈ J.consumed, x.1 ≠ i)

/-- The stored codes and the journal agree. -/
structure Consistent (C : Crates) (r : ι → Request) (s : Config ι Db Phase × Journal ι) :
    Prop where
  stored : ∀ row ∈ s.1.shared.authorizationCodes,
    ∃ code, (code, row.grant) ∈ s.2.grants ∧ row.codeHash = authorizationCodeHash C code
  distinct : (s.2.grants.map Prod.fst).Nodup
  once : (s.2.consumed.map fun x => x.2.1).Nodup
  known : ∀ x ∈ s.2.consumed, x.2.1 ∈ s.2.grants.map Prod.fst
  used : ∀ x ∈ s.2.consumed, ∀ row ∈ s.1.shared.authorizationCodes,
    row.codeHash = authorizationCodeHash C x.2.1 → row.consumedAt ≠ none
  requests : ∀ i, (s.1.request i).Assertion C s.2 i (r i)

/-! ### Journals only grow -/

/-- The journal `J'` extends `J`, with no consumption by the request `i`. -/
structure Journal.Extends (J J' : Journal ι) (i : ι) : Prop where
  grants : ∀ x ∈ J.grants, x ∈ J'.grants
  authenticated : ∀ x ∈ J.authenticated, x ∈ J'.authenticated
  consumed : ∀ x ∈ J.consumed, x ∈ J'.consumed
  own : ∀ x ∈ J'.consumed, x.1 = i → x ∈ J.consumed

variable {C : Crates} {S : Server} {r : ι → Request} {J J' : Journal ι} {i : ι} {q : Request}
  {p p' : Phase} {a : Input} {c : Config ι Db Phase} {db' : Db} {request : TokenRequest}
  {clientId : String} {grant : OidcAuthorizationCode}

section Mono

variable (hJ : J.Extends J' i)

include hJ

theorem Authenticated.mono (h : Authenticated C J i request clientId) :
    Authenticated C J' i request clientId := by
  obtain ⟨clientSecret, db, client, hdb, hrest⟩ := h.exists_client
  exact ⟨clientSecret, db, client, hJ.authenticated _ hdb, hrest⟩

theorem Matches.mono (h : Matches C J request clientId grant) :
    Matches C J' request clientId grant :=
  { h with issued := hJ.grants _ h.issued }

theorem Consumed.mono (h : Consumed J i request grant) : Consumed J' i request grant := by
  obtain ⟨db, hdb, hrest⟩ := h.exists_db
  exact ⟨db, hJ.consumed _ hdb, hrest⟩

theorem Journal.Extends.forall_ne (h : ∀ x ∈ J.consumed, x.1 ≠ i) : ∀ x ∈ J'.consumed, x.1 ≠ i :=
  fun x hx hxi => h x (hJ.own x hx hxi) hxi

/-- The assertion about a request survives the steps of the others. -/
theorem Phase.Assertion.mono (h : p.Assertion C J i q) : p.Assertion C J' i q := by
  cases p with
  | received => exact ⟨h.1, hJ.forall_ne h.2⟩
  | authorizeContext | authorizeCreate | redirected => exact h
  | tokenCode => exact ⟨h.1, hJ.forall_ne h.2.1, h.2.2.mono hJ⟩
  | tokenConsume =>
    obtain ⟨hq, hne, hauth, grant, hmatches⟩ := h
    exact ⟨hq, hJ.forall_ne hne, hauth.mono hJ, grant, hmatches.mono hJ⟩
  | tokenUser =>
    obtain ⟨request, hq, hauth, hmatches, hconsumed⟩ := h
    exact ⟨request, hq, hauth.mono hJ, hmatches.mono hJ, hconsumed.mono hJ⟩
  | exchanged response =>
    cases response with
    | ok =>
      obtain ⟨request, hq, clientId, grant, hauth, hmatches, hconsumed, hcarries⟩ := h
      exact ⟨request, hq, clientId, grant, hauth.mono hJ, hmatches.mono hJ, hconsumed.mono hJ,
        hcarries⟩
    | error => exact ⟨h.1, fun he => hJ.forall_ne (h.2 he)⟩

end Mono

theorem Journal.Extends.refl (J : Journal ι) (i : ι) : J.Extends J i :=
  ⟨fun _ h => h, fun _ h => h, fun _ h => h, fun _ h _ => h⟩

theorem Journal.Extends.issue (J : Journal ι) (i : ι) (x : String × OidcAuthorizationCode) :
    J.Extends { J with grants := x :: J.grants } i :=
  ⟨fun _ h => List.mem_cons_of_mem _ h, fun _ h => h, fun _ h => h, fun _ h _ => h⟩

theorem Journal.Extends.authenticate (J : Journal ι) (i : ι) (x : ι × Db) :
    J.Extends { J with authenticated := x :: J.authenticated } i :=
  ⟨fun _ h => h, fun _ h => List.mem_cons_of_mem _ h, fun _ h => h, fun _ h _ => h⟩

theorem Journal.Extends.consume (J : Journal ι) {i : ι} {x : ι × String × Db} (hx : x.1 ≠ i) :
    J.Extends { J with consumed := x :: J.consumed } i :=
  ⟨fun _ h => h, fun _ h => h, fun _ h => List.mem_cons_of_mem _ h, fun _ hy hyi =>
    (List.mem_cons.1 hy).resolve_left fun hyx => hx (hyx ▸ hyi)⟩

theorem Journal.consumed_subset_recordPhase (J : Journal ι) (i : ι) (db : Db) (p p' : Phase) :
    J.consumed ⊆ (J.recordPhase i db p p').consumed := by
  unfold recordPhase
  split
  · exact List.Subset.refl _
  · exact List.Subset.refl _
  · exact List.subset_cons_self _ _
  · exact List.Subset.refl _

/-! ### The invariant -/

/-- A stored row with the hash of a code belongs to a grant issued under that code. -/
theorem Consistent.issued {s : Config ι Db Phase × Journal ι} (h : Consistent C r s)
    (hinj : Injective (authorizationCodeHash C)) {row : AuthorizationCodeRow}
    (hrow : row ∈ s.1.shared.authorizationCodes) {code : String}
    (hhash : row.codeHash = authorizationCodeHash C code) : (code, row.grant) ∈ s.2.grants := by
  obtain ⟨code', hgrant, hhash'⟩ := h.stored row hrow
  have hcode : code' = code := hinj (hhash'.symm.trans hhash)
  exact hcode ▸ hgrant

theorem consistent_initial {db : Db} {known : List (String × OidcAuthorizationCode)}
    (hstored : ∀ row ∈ db.authorizationCodes,
      ∃ code, (code, row.grant) ∈ known ∧ row.codeHash = authorizationCodeHash C code)
    (hdistinct : (known.map Prod.fst).Nodup) :
    Consistent C r (received db r, Journal.initial known) where
  stored := hstored
  distinct := hdistinct
  once := .nil
  known _ hx := by cases hx
  used _ hx := by cases hx
  requests _ := ⟨rfl, fun _ hx => by cases hx⟩

variable [DecidableEq ι]

theorem requests_update (h : ∀ j, (c.request j).Assertion C J j (r j))
    (hJ : ∀ j, j ≠ i → J.Extends J' j) (hp' : p'.Assertion C J' i (r i)) :
    ∀ j, (update c.request i p' j).Assertion C J' j (r j) :=
  (forall_update_iff _ fun j p => Phase.Assertion C J' j (r j) p).2
    ⟨hp', fun j hj => (h j).mono (hJ j hj)⟩

section Kept

variable (h : Consistent C r (c, J)) {organizationId : Option String}

include h

/-- A step that changes neither the codes nor the journal. -/
theorem Consistent.quiet (hp' : p'.Assertion C J i (r i)) :
    Consistent C r (⟨c.shared, update c.request i p'⟩, J) where
  stored := h.stored
  distinct := h.distinct
  once := h.once
  known := h.known
  used := h.used
  requests := requests_update h.requests (fun _ _ => .refl J _) hp'

/-- A new code is fresh, so that it belongs to its grant only and has not been consumed. -/
theorem Consistent.create (hinj : Injective (authorizationCodeHash C)) {id code : String}
    (hr : ∃ request userId, r i = .authorize request userId) (hfresh : code ∉ J.grants.map Prod.fst)
    (hcreate : createAuthorizationCode C c.shared id code grant = .ok db') :
    Consistent C r (⟨db', update c.request i (.redirected (.ok code))⟩,
      { J with grants := (code, grant) :: J.grants }) := by
  obtain ⟨-, codes, rfl, hmem⟩ := create_eq_ok hcreate
  refine ⟨fun row hrow => ?_, ?_, h.once, fun x hx => ?_, fun x hx row hrow hhash => ?_, ?_⟩
  · rcases (hmem row).1 hrow with rfl | hold
    · exact ⟨code, List.mem_cons_self, rfl⟩
    · obtain ⟨code', hgrant, hhash⟩ := h.stored row hold
      exact ⟨code', List.mem_cons_of_mem _ hgrant, hhash⟩
  · exact List.nodup_cons.2 ⟨hfresh, h.distinct⟩
  · exact List.mem_cons_of_mem _ (h.known x hx)
  · rcases (hmem row).1 hrow with rfl | hold
    · exact absurd (hinj hhash ▸ h.known x hx) hfresh
    · exact h.used x hx row hold hhash
  · exact requests_update h.requests (fun j _ => .issue J j _) hr

theorem Consistent.authenticate {clientSecret : Option String} {client : OidcClient}
    (hq : c.request i = .received (.token request))
    (hcredentials : tokenClientCredentials C request = .ok (clientId, clientSecret))
    (hclient : c.shared.oidcClients.lookup OidcClient.clientId clientId = some client)
    (hauth : isAuthenticated C client clientSecret = true) :
    Consistent C r
      (⟨c.shared, update c.request i (.tokenCode request clientId organizationId)⟩,
        { J with authenticated := (i, c.shared) :: J.authenticated }) := by
  have hi := h.requests i
  simp only [hq] at hi
  obtain ⟨hmem, hid⟩ := lookup_eq_some_iff.1 hclient
  have hnew : Authenticated C { J with authenticated := (i, c.shared) :: J.authenticated } i request
      clientId :=
    ⟨clientSecret, c.shared, client, List.mem_cons_self, hcredentials, hmem, hid,
      isAuthenticated_eq_true.1 hauth⟩
  exact ⟨h.stored, h.distinct, h.once, h.known, h.used,
    requests_update h.requests (fun j _ => .authenticate J j _) ⟨hi.1.symm, hi.2, hnew⟩⟩

/-- The consumed row was unconsumed, so that its code has not been consumed before. -/
theorem Consistent.consume (hinj : Injective (authorizationCodeHash C))
    (hq : c.request i = .tokenConsume request clientId organizationId)
    (hconsume : consumeAuthorizationCodeForClient C c.shared request.code clientId organizationId =
      (some grant, db')) :
    Consistent C r (⟨db', update c.request i (.tokenUser clientId grant)⟩,
      { J with consumed := (i, request.code, c.shared) :: J.consumed }) := by
  obtain ⟨row, hrow, hhash, hnone, rfl, hexpiry, -, -, hcontext, codes, rfl, hmem⟩ :=
    consume_eq_some hconsume
  have hi := h.requests i
  simp only [hq] at hi
  obtain ⟨hr, -, hauth, grant', hmatches⟩ := hi
  have hissued := h.issued hinj hrow hhash
  -- the grant checked against the request is the one that is consumed, since codes are distinct
  have hgrant : grant' = row.grant :=
    (Prod.mk.inj (List.inj_on_of_nodup_map h.distinct hmatches.issued hissued rfl)).2
  subst hgrant
  have hnew : ∀ x ∈ J.consumed, x.2.1 ≠ request.code := by
    intro x hx hcode
    exact h.used x hx row hrow (hcode ▸ hhash) hnone
  have hone : Consumed { J with consumed := (i, request.code, c.shared) :: J.consumed } i request
      row.grant := ⟨c.shared, List.mem_cons_self, hexpiry, hcontext⟩
  refine ⟨fun row' hrow' => ?_, h.distinct, ?_, fun x hx => ?_,
    fun x hx row' hrow' hhash' => ?_, ?_⟩
  · rcases (hmem row').1 hrow' with rfl | ⟨hold, -⟩
    · exact h.stored row hrow
    · exact h.stored row' hold
  · refine List.nodup_cons.2 ⟨fun hcode => ?_, h.once⟩
    obtain ⟨x, hx, hxcode⟩ := List.mem_map.1 hcode
    exact hnew x hx hxcode
  · rcases List.mem_cons.1 hx with rfl | hx
    · exact List.mem_map_of_mem hissued
    · exact h.known x hx
  · rcases (hmem row').1 hrow' with rfl | ⟨hold, hne⟩
    · nofun
    · rcases List.mem_cons.1 hx with rfl | hx
      · exact absurd (eq_of_key hold hrow (hhash'.trans hhash.symm)) hne
      · exact h.used x hx row' hold hhash'
  · refine requests_update h.requests (fun j hj => .consume J (Ne.symm hj)) ?_
    exact ⟨request, hr, ⟨hauth.exists_client⟩, { hmatches with }, hone⟩

end Kept

/-- The effect of a step of a request, with its entry in the journal, keeps the invariant. -/
theorem Consistent.effect (h : Consistent S.crates r (c, J))
    (hinj : Injective (authorizationCodeHash S.crates))
    (hfresh : DrawsFreshCode (c, J) (.request i a))
    (heffect : Effect S a c.shared (c.request i) db' p') :
    Consistent S.crates r (⟨db', update c.request i p'⟩,
      J.recordPhase i c.shared (c.request i) p') := by
  have hi := h.requests i
  simp only [DrawsFreshCode] at hfresh
  generalize hq : c.request i = q at heffect hfresh hi
  cases heffect with
  | validated => exact h.quiet ⟨_, _, hi.1.symm⟩
  | live => exact h.quiet hi
  | rejected hp =>
    cases q with
    | received request =>
      cases request with
      | authorize request userId => exact h.quiet ⟨request, userId, hi.1.symm⟩
      | token => cases hp
    | authorizeContext | authorizeCreate => exact h.quiet hi
    | _ => cases hp
  | created hcreate => exact h.create hinj hi (hfresh rfl) hcreate
  | authenticated hcredentials hclient hauth => exact h.authenticate hq hcredentials hclient hauth
  | bound hread hbound =>
    obtain ⟨row, hrow, hhash, rfl⟩ := getActive_eq_some hread
    simp only [isBound, Bool.and_eq_true, beq_iff_eq, verifyPkceS256_eq_true] at hbound
    obtain ⟨⟨⟨hclient, -⟩, hredirect⟩, -, hverifier⟩ := hbound
    exact h.quiet ⟨hi.1, hi.2.1, hi.2.2, row.grant, h.issued hinj hrow hhash, hclient, hredirect,
      hverifier⟩
  | consumed hconsume => exact h.consume hinj hq hconsume
  | @issued clientId nonce grant user huser hnonce =>
    obtain ⟨request, hr, hauth, hmatches, hconsumed⟩ := hi
    have hsub : user.id = grant.userId := (lookup_eq_some_iff.1 huser).2
    exact h.quiet ⟨request, hr, clientId, grant, hauth, hmatches, hconsumed, rfl, rfl, hsub, hsub,
      rfl, rfl, rfl, rfl, hnonce.symm⟩
  | refused hp =>
    cases q with
    | received request =>
      cases request with
      | token request => exact h.quiet ⟨⟨request, hi.1.symm⟩, fun _ => hi.2⟩
      | authorize => cases hp
    | tokenCode request | tokenConsume request => exact h.quiet ⟨⟨request, hi.1⟩, fun _ => hi.2.1⟩
    | _ => cases hp
  | failed he =>
    obtain ⟨request, hr, -⟩ := hi
    exact h.quiet ⟨⟨request, hr⟩, fun hne => absurd he hne⟩

variable {s s' : Config ι Db Phase × Journal ι} {l : Action ι Input Lifecycle}

theorem Consistent.step (h : Consistent S.crates r s)
    (hinj : Injective (authorizationCodeHash S.crates)) (hfresh : DrawsFreshCode s l)
    (hstep : ((protocol S ι).system.observe Journal.record).step s l = some s') :
    Consistent S.crates r s' := by
  obtain ⟨c, J⟩ := s
  obtain ⟨c', hbase, rfl⟩ := System.observe_step_eq_some.1 hstep
  obtain ⟨b, db', rfl, hdb', rfl⟩ | ⟨i, a, db', p', rfl, hnext, rfl⟩ := Protocol.step_cases hbase
  · cases hdb'
    exact { h with
      stored := fun row hrow => h.stored row (mem_delete.1 hrow).1
      used := fun x hx row hrow => h.used x hx row (mem_delete.1 hrow).1 }
  simpa [Journal.record] using h.effect hinj hfresh (effect_of_next hnext)

/-! ### Refused requests -/

/-- The request `i` has not consumed a code. -/
def NotConsumed (i : ι) (s : Config ι Db Phase × Journal ι) : Prop :=
  ∀ x ∈ s.2.consumed, x.1 ≠ i

/-- A step of the request `i` leaves all codes alone. -/
def LeavesCodes (i : ι) (s : Config ι Db Phase × Journal ι) (l : Action ι Input Lifecycle)
    (s' : Config ι Db Phase × Journal ι) : Prop :=
  ∀ a, l = .request i a → s'.1.shared.authorizationCodes = s.1.shared.authorizationCodes

theorem NotConsumed.of_step
    (hstep : ((protocol S ι).system.observe Journal.record).step s l = some s')
    (h : NotConsumed i s') : NotConsumed i s := by
  obtain ⟨_, -, rfl⟩ := System.observe_step_eq_some.1 hstep
  intro x hx
  refine h x ?_
  cases l with
  | environment => exact hx
  | request j => exact s.2.consumed_subset_recordPhase j _ _ _ hx

/-- Only the consuming statement of a token request changes the codes. -/
theorem leavesCodes_of_notConsumed (h : Consistent S.crates r s)
    (hstep : ((protocol S ι).system.observe Journal.record).step s l = some s')
    (hr : r i = .token request) (hnot : NotConsumed i s') : LeavesCodes i s l s' := by
  rintro a rfl
  obtain ⟨_, hbase, rfl⟩ := System.observe_step_eq_some.1 hstep
  obtain ⟨db', p', hnext, rfl⟩ := (Protocol.step_request_eq_some _).1 hbase
  have hi := h.requests i
  have heffect := effect_of_next hnext
  rw [NotConsumed] at hnot
  simp only [Journal.record, update_self] at hnot
  generalize s.1.request i = q at hi heffect hnot
  cases heffect with
  | created =>
    obtain ⟨_, _, hauthorize⟩ := hi
    rw [hr] at hauthorize
    cases hauthorize
  | consumed => exact absurd rfl (hnot _ List.mem_cons_self)
  | _ => rfl

/-- **Codes are exchanged once, and bound.**  In every run in which codes are fresh, with SHA-256
as an injective function:

* two token requests that receive tokens have presented different codes;
* the tokens belong to an authenticated client and to a grant issued to this client under the code
  of the request, for its redirect URI and with the challenge of its verifier, consumed while the
  client, the user, the principal and, for a client of an organization, the organization and the
  membership were active, and they carry the user, organization, scopes and nonce of the grant;
* a token request refused for any other reason than a failure of the server has left all codes
  alone. -/
theorem code_exchange_once_and_bound (S : Server)
    (hinj : Injective (authorizationCodeHash S.crates)) (r : ι → Request) (db : Db)
    (known : List (String × OidcAuthorizationCode))
    (hstored : ∀ row ∈ db.authorizationCodes,
      ∃ code, (code, row.grant) ∈ known ∧ row.codeHash = authorizationCodeHash S.crates code)
    (hdistinct : (known.map Prod.fst).Nodup) (ls : List (Action ι Input Lifecycle))
    (hfresh : ((protocol S ι).system.observe Journal.record).Along
      (fun s l _ => DrawsFreshCode s l) (received db r, Journal.initial known) ls)
    (s : Config ι Db Phase × Journal ι)
    (hrun : ((protocol S ι).system.observe Journal.record).run
      (received db r, Journal.initial known) ls = some s) :
    (∀ i j request request' t t', r i = .token request → r j = .token request' →
      s.1.request i = .exchanged (.ok t) → s.1.request j = .exchanged (.ok t') →
      request.code = request'.code → i = j) ∧
    (∀ i request t, r i = .token request → s.1.request i = .exchanged (.ok t) →
      Bound S.crates s.2 i request t) ∧
    (∀ i e, s.1.request i = .exchanged (.error e) → e.error ≠ "server_error" →
      ((protocol S ι).system.observe Journal.record).Along (LeavesCodes i)
        (received db r, Journal.initial known) ls) := by
  have hinit := consistent_initial (C := S.crates) (r := r) hstored hdistinct
  have hcons : Consistent S.crates r s :=
    System.run_invariant_along _ (fun _ _ _ h hf hstep => h.step hinj hf hstep) hinit hfresh hrun
  have hbound : ∀ i request t, r i = .token request → s.1.request i = .exchanged (.ok t) →
      Bound S.crates s.2 i request t := by
    intro i request t hr hi
    have hassert := hcons.requests i
    rw [hi] at hassert
    obtain ⟨request', hr', hb⟩ := hassert
    rw [hr] at hr'
    cases hr'
    exact hb
  refine ⟨fun i j request request' t t' hr hr' hi hj hcode => ?_, hbound, fun i e hi he => ?_⟩
  · obtain ⟨_, _, -, -, hconsumed, -⟩ := hbound i request t hr hi
    obtain ⟨_, _, -, -, hconsumed', -⟩ := hbound j request' t' hr' hj
    obtain ⟨db₁, hmem, -⟩ := hconsumed.exists_db
    obtain ⟨db₂, hmem', -⟩ := hconsumed'.exists_db
    exact (Prod.mk.inj (List.inj_on_of_nodup_map hcons.once hmem hmem' hcode)).1
  · have hassert := hcons.requests i
    rw [hi] at hassert
    obtain ⟨⟨request, hr⟩, hnot⟩ := hassert
    have halong := (System.along_of_final _ (N := NotConsumed i)
      (fun _ _ _ hstep h => h.of_step hstep) hrun (hnot he)).2
    exact System.along_of_invariant _
      (fun _ _ _ h hP hstep =>
        ⟨h.step hinj hP.1 hstep, leavesCodes_of_notConsumed h hstep hr hP.2⟩)
      hinit (System.along_and _ hfresh halong)

/-! ### A race for one code -/

def sampleServer : Server := ⟨.readable, "https://identity.example", 3600⟩

def sampleUser : User := { id := "u", username := "ada", email := "ada@example.com" }

def samplePrincipal : Principal where
  principalType := .user
  refId := "u"
  displayName := "ada"

def sampleClient : OidcClient where
  clientId := "app"
  clientType := .publicClient
  redirectUris := ["https://client.example/callback"]

def sampleDb : Db where
  users := .single sampleUser
  principals := .single samplePrincipal
  oidcClients := .single sampleClient

def sampleVerifier : String := "0123456789012345678901234567890123456789012"

/-- The request 0 asks for a code; the other requests present it, the request 3 with a redirect
URI the code was not issued for. -/
def raceRequests : ℕ → Request
  | 0 =>
    .authorize
      { responseType := "code"
        clientId := "app"
        redirectUri := "https://client.example/callback"
        scope := "openid email"
        nonce := some "n"
        codeChallenge := sampleVerifier
        codeChallengeMethod := "S256" } "u"
  | 3 =>
    .token
      { code := "k"
        redirectUri := "https://portal.example.com/callback"
        clientId := some "app"
        codeVerifier := sampleVerifier }
  | _ =>
    .token
      { code := "k"
        redirectUri := "https://client.example/callback"
        clientId := some "app"
        codeVerifier := sampleVerifier }

/-- The requests 1 and 2 have both checked the binding of the code before one of them consumes
it. -/
def raceRun : List (Action ℕ Input Lifecycle) :=
  [.request 0 {}, .request 0 {}, .request 0 { id := "1", code := "k" }, .request 1 {},
    .request 2 {}, .request 3 {}, .request 3 {}, .request 1 {}, .request 2 {}, .request 2 {},
    .request 1 {}, .request 2 { jti := "j" }]

/-- What the requests 1, 2 and 3 were answered. -/
def raceAnswers (s : Config ℕ Db Phase × Journal ℕ) : List Phase := [1, 2, 3].map s.1.request

theorem code_exchange_race :
    ∃ s t, ((protocol sampleServer ℕ).system.observe Journal.record).run
        (received sampleDb raceRequests, Journal.initial []) raceRun = some s ∧
      s.1.request 1 =
        .exchanged (.error (invalidGrant "authorization code is no longer active")) ∧
      s.1.request 2 = .exchanged (.ok t) ∧
      s.1.request 3 = .exchanged (.error
        (invalidGrant "authorization code binding or PKCE verification failed")) ∧
      Bound .readable s.2 2
        { code := "k"
          redirectUri := "https://client.example/callback"
          clientId := some "app"
          codeVerifier := sampleVerifier } t := by
  have heval : (((protocol sampleServer ℕ).system.observe Journal.record).run
      (received sampleDb raceRequests, Journal.initial []) raceRun).map raceAnswers =
        some [.exchanged (.error (invalidGrant "authorization code is no longer active")),
          .exchanged (.ok (tokenResponse sampleServer { jti := "j" } sampleDb "app"
            ⟨"app", none, "u", "https://client.example/callback", ["openid", "email"], some "n",
              sampleVerifier, 300⟩ sampleUser "n")),
          .exchanged (.error
            (invalidGrant "authorization code binding or PKCE verification failed"))] := by
    decide +kernel
  have hfresh : ((protocol sampleServer ℕ).system.observe Journal.record).Along
      (fun s l _ => DrawsFreshCode s l) (received sampleDb raceRequests, Journal.initial [])
      raceRun := by
    decide +kernel
  obtain ⟨s, hrun, hanswers⟩ := Option.map_eq_some_iff.1 heval
  simp only [raceAnswers, List.map_cons, List.map_nil, List.cons.injEq, and_true] at hanswers
  obtain ⟨h₁, h₂, h₃⟩ := hanswers
  exact ⟨s, _, hrun, h₁, h₂, h₃, (code_exchange_once_and_bound sampleServer
    authorizationCodeHash_readable_injective raceRequests sampleDb [] (fun _ hrow => by cases hrow)
    .nil raceRun hfresh s hrun).2.1 2 _ _ rfl h₂⟩

end Keylo.Oidc
