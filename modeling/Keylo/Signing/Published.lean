import Keylo.Signing.Ring

/-!
# What the key ring publishes and accepts

The invariant of the key ring over sequences of calls, and the tokens that it accepts. A key is
published exactly as long as tokens with its id are accepted. A token that was signed is accepted
until it or its key expires, unless its key is retired, or another rotation takes the place of the
one passive key.

## Main definitions

* `Keys.Valid` : the invariant of the ring.
* `Retains` : calls that leave a key in the ring.

## Main results

* `valid_step` : every call keeps the invariant.
* `jwkOf_mem_jwks_iff` : the published keys are the accepted ones.
* `ring_publishes_what_it_accepts` : all of it, over sequences of calls.
-/

namespace Keylo.Signing

open Transition

variable {reader : KeyReader} {keys keys' : Keys} {pair : KeyPair} {now : Int} {c : Call}
  {privateKeyPem : Option String} {expiresAt : Option Int}

/-! ### The invariant -/

/-- The pair has the keys of its texts, and publishes the public one. -/
structure KeyPair.WellFormed (reader : KeyReader) (pair : KeyPair) : Prop where
  decoding_eq : reader.decodingKey pair.publicKeyPem = .ok pair.decoding
  jwk_eq : pair.jwk = jwkOf reader pair.keyId pair.decoding
  private_iff : pair.encoding.isSome = pair.privateKeyPem.isSome

/-- The ring as its operations leave it. -/
structure Keys.Valid (reader : KeyReader) (keys : Keys) : Prop where
  active_wellFormed : keys.active.WellFormed reader
  /-- The active pair has a private key. -/
  active_signs : keys.active.encoding.isSome = true
  active_stays : keys.active.expiresAt = none
  passive_wellFormed : ∀ pair ∈ keys.passive, pair.WellFormed reader
  passive_length : keys.passive.length ≤ 1
  passive_keyId : ∀ pair ∈ keys.passive, pair.keyId ≠ keys.active.keyId
  audiences_ne : keys.audiences ≠ []

/-- The private key of the pair belongs to its public key. -/
def KeyPair.Matched (pair : KeyPair) : Prop := ∀ key ∈ pair.encoding, key = pair.decoding

/-- The pairs of the ring match. -/
def Keys.Matched (keys : Keys) : Prop :=
  keys.active.Matched ∧ ∀ pair ∈ keys.passive, pair.Matched

theorem KeyPair.WellFormed.expire (h : pair.WellFormed reader) (expiresAt : Option Int) :
    KeyPair.WellFormed reader { pair with expiresAt := expiresAt } :=
  ⟨h.decoding_eq, h.jwk_eq, h.private_iff⟩

theorem readPrivateKey_eq_ok {pem : Option String} {key : Option RsaPublicKey}
    (h : readPrivateKey reader pem = .ok key) : key.isSome = pem.isSome := by
  cases pem with
  | none =>
    cases h
    rfl
  | some =>
    simp only [readPrivateKey] at h
    split at h
    · cases h
    · cases h
      rfl

theorem fromPem_eq_ok {keyId publicKeyPem : String}
    (h : KeyPair.fromPem reader keyId privateKeyPem publicKeyPem expiresAt = .ok pair) :
    pair.WellFormed reader ∧ pair.keyId = keyId ∧ pair.privateKeyPem = privateKeyPem ∧
      pair.expiresAt = expiresAt ∧ pair.publicKeyPem = publicKeyPem ∧
      readPrivateKey reader privateKeyPem = .ok pair.encoding := by
  unfold KeyPair.fromPem at h
  split at h
  · cases h
  rename_i decoding hdecoding
  split at h
  · cases h
  rename_i publicKey hpublic
  split at h
  · cases h
  rename_i encoding hencoding
  cases h
  refine ⟨⟨hdecoding, ?_, readPrivateKey_eq_ok hencoding⟩, rfl, rfl, rfl, rfl, hencoding⟩
  rw [reader.publicKey_eq hdecoding hpublic]

/-! ### Calls -/

/-- What a successful call does; a failed one does nothing. -/
inductive Effect (reader : KeyReader) (keys : Keys) (now : Int) : Call → Bool × Keys → Prop
  | failed (c : Call) : Effect reader keys now c (false, keys)
  | rotated {keyId privateKeyPem publicKeyPem overlapSeconds next}
      (hid : keys.active.keyId ≠ keyId)
      (hnext : KeyPair.fromPem reader keyId (some privateKeyPem) publicKeyPem none = .ok next) :
      Effect reader keys now (.rotate keyId privateKeyPem publicKeyPem overlapSeconds)
        (true, keys.promote now next overlapSeconds)
  | rolledBack {keyId overlapSeconds promoted} (hmem : promoted ∈ keys.passive)
      (hlive : promoted.isLive now = true) (hid : promoted.keyId = keyId)
      (hencoding : promoted.encoding.isSome = true) :
      Effect reader keys now (.rollback keyId overlapSeconds)
        (true, keys.promote now { promoted with expiresAt := none } overlapSeconds)
  | retired {keyId} : Effect reader keys now (.retirePassive keyId)
      (true, { keys with passive := keys.passive.filter fun pair => pair.keyId != keyId })

theorem effect_call {c : Call} {result : Bool × Keys} (h : keys.call reader now c = result) :
    Effect reader keys now c result := by
  subst h
  cases c with
  | rotate =>
    simp only [Keys.call, Keys.rotate]
    split_ifs with hblank hoverlap hid
    · exact .failed _
    · exact .failed _
    · exact .failed _
    split
    · exact .failed _
    · exact .rotated hid ‹_›
  | rollback =>
    simp only [Keys.call, Keys.rollback]
    split_ifs with hoverlap
    · exact .failed _
    split
    · exact .failed _
    rename_i promoted hfound
    split_ifs with hnone
    · exact .failed _
    have hcondition := List.find?_some hfound
    simp only [Bool.and_eq_true, beq_iff_eq] at hcondition
    refine .rolledBack (List.mem_of_find?_eq_some hfound) hcondition.2 hcondition.1 ?_
    exact Option.isSome_iff_ne_none.2 (by simpa using hnone)
  | retirePassive keyId =>
    simp only [Keys.call, Keys.retirePassive]
    by_cases hlength : (keys.passive.filter fun pair => pair.keyId != keyId).length =
        keys.passive.length
    · have hkeep : (keys.passive.filter fun pair => pair.keyId != keyId) = keys.passive :=
        List.filter_sublist.eq_of_length hlength
      rw [hkeep, bne_self_eq_false]
      exact .failed _
    · rw [bne_iff_ne.2 hlength]
      exact .retired

/-- A pair of which there is at most one in a list. -/
theorem eq_of_mem_of_length_le_one {l : List KeyPair} {p q : KeyPair} (hl : l.length ≤ 1)
    (hp : p ∈ l) (hq : q ∈ l) : p = q := by
  match l, hl with
  | [r], _ => rw [List.mem_singleton.1 hp, List.mem_singleton.1 hq]

theorem valid_call (h : keys.Valid reader) (c : Call) :
    (keys.call reader now c).2.Valid reader := by
  generalize hresult : keys.call reader now c = result
  cases effect_call hresult with
  | failed => exact h
  | rotated hid hnext =>
    obtain ⟨hwell, hkeyId, hpem, hexpires, -⟩ := fromPem_eq_ok hnext
    refine ⟨hwell, ?_, hexpires, ?_, by simp, ?_, h.audiences_ne⟩
    · rw [hwell.private_iff, hpem]
      rfl
    · intro pair hpair
      obtain rfl := List.mem_singleton.1 hpair
      exact h.active_wellFormed.expire _
    · intro pair hpair
      obtain rfl := List.mem_singleton.1 hpair
      rw [hkeyId]
      exact hid
  | rolledBack hmem hlive hid hencoding =>
    refine ⟨(h.passive_wellFormed _ hmem).expire _, hencoding, rfl, ?_, by simp, ?_,
      h.audiences_ne⟩
    · intro pair hpair
      obtain rfl := List.mem_singleton.1 hpair
      exact h.active_wellFormed.expire _
    · intro pair hpair
      obtain rfl := List.mem_singleton.1 hpair
      exact (h.passive_keyId _ hmem).symm
  | retired =>
    exact ⟨h.active_wellFormed, h.active_signs, h.active_stays,
      fun pair hpair => h.passive_wellFormed pair (List.mem_filter.1 hpair).1,
      (List.length_filter_le _ _).trans h.passive_length,
      fun pair hpair => h.passive_keyId pair (List.mem_filter.1 hpair).1, h.audiences_ne⟩

/-- The texts of a rotation are those of one pair of keys. -/
def MatchedArguments (reader : KeyReader) : Step → Prop
  | .call (.rotate _ privateKeyPem publicKeyPem _) => ∀ key key',
    reader.encodingKey privateKeyPem = .ok key → reader.decodingKey publicKeyPem = .ok key' →
      key = key'
  | _ => True

theorem matched_of_fromPem {keyId publicKeyPem : String}
    (h : KeyPair.fromPem reader keyId privateKeyPem publicKeyPem expiresAt = .ok pair)
    (hmatched : ∀ pem ∈ privateKeyPem, ∀ key key', reader.encodingKey pem = .ok key →
      reader.decodingKey publicKeyPem = .ok key' → key = key') : pair.Matched := by
  obtain ⟨hwell, -, -, -, rfl, hencoding⟩ := fromPem_eq_ok h
  intro key hkey
  cases privateKeyPem with
  | none =>
    rw [← Except.ok.inj hencoding] at hkey
    cases hkey
  | some pem =>
    simp only [readPrivateKey] at hencoding
    split at hencoding
    · cases hencoding
    rename_i read hread
    refine hmatched pem rfl key _ ?_ hwell.decoding_eq
    rw [hread, Option.some.inj ((Except.ok.inj hencoding).trans hkey)]

theorem matched_call (h : keys.Matched) (hargs : MatchedArguments reader (.call c)) :
    (keys.call reader now c).2.Matched := by
  generalize hresult : keys.call reader now c = result
  have heffect := effect_call hresult
  have hprevious : ∀ expiresAt, ∀ pair ∈ [{ keys.active with expiresAt := expiresAt }],
      pair.Matched := by
    intro expiresAt pair hpair
    obtain rfl := List.mem_singleton.1 hpair
    exact h.1
  cases heffect with
  | failed => exact h
  | @rotated keyId privateKeyPem publicKeyPem overlapSeconds next hid hnext =>
    refine ⟨matched_of_fromPem hnext ?_, hprevious _⟩
    rintro pem ⟨⟩
    exact hargs
  | @rolledBack keyId overlapSeconds promoted hmem hlive hid hencoding =>
    have hpromoted : promoted.Matched := h.2 promoted hmem
    exact ⟨hpromoted, hprevious _⟩
  | retired => exact ⟨h.1, fun pair hpair => h.2 pair (List.mem_filter.1 hpair).1⟩

/-! ### Published keys -/

variable {kid : String} {key : RsaPublicKey}

theorem jwkOf_injective {kid' : String} {key' : RsaPublicKey}
    (h : jwkOf reader kid key = jwkOf reader kid' key') : kid = kid' ∧ key = key' := by
  obtain ⟨n, e⟩ := key
  obtain ⟨n', e'⟩ := key'
  simp only [jwkOf, Jwk.mk.injEq, true_and] at h
  obtain ⟨hkid, hn, he⟩ := h
  rw [reader.base64_injective hn, reader.base64_injective he]
  exact ⟨hkid, rfl⟩

/-- The pairs that a token with the given `kid` may be verified with. -/
def Keys.Uses (keys : Keys) (now : Int) (kid : String) (key : RsaPublicKey) : Prop :=
  keys.active.keyId = kid ∧ keys.active.decoding = key ∨
    ∃ pair ∈ keys.passive, pair.isLive now = true ∧ pair.keyId = kid ∧ pair.decoding = key

/-- Claims that the ring accepts at the given time. -/
def Keys.Admits (keys : Keys) (now : Int) (claims : IssuedClaims) : Prop :=
  now - leeway ≤ claims.exp ∧ claims.iss = keys.issuer ∧ claims.aud ∈ keys.audiences

variable {token : SignedToken} {claims : IssuedClaims}

theorem verify_eq_ok_iff :
    keys.verify now token key = .ok claims ↔
      token.key = key ∧ keys.Admits now token.claims ∧ claims = token.claims := by
  simp only [Keys.verify, Keys.Admits, ← not_lt (b := now - leeway)]
  split_ifs with hkey hexp hiss haud <;> simp_all only [eq_comm, Except.ok.injEq,
    not_true, not_false_iff, false_and, and_false, true_and, ne_eq, not_not]

theorem decodeToken_eq_ok_iff :
    keys.decodeToken now token = .ok claims ↔ keys.decodeWithKey now token = .ok claims := by
  unfold Keys.decodeToken
  split <;> simp_all

section Valid

variable (h : keys.Valid reader)

include h

/-- A published key is that of the active or of a live passive pair. -/
theorem jwkOf_mem_jwks_iff_uses : jwkOf reader kid key ∈ keys.jwks now ↔ keys.Uses now kid key := by
  rw [Keys.jwks, List.mem_cons, List.mem_map, Keys.Uses, h.active_wellFormed.jwk_eq]
  refine or_congr ⟨fun heq => ?_, ?_⟩ ⟨?_, ?_⟩
  · obtain ⟨hkid, hkey⟩ := jwkOf_injective heq
    exact ⟨hkid.symm, hkey.symm⟩
  · rintro ⟨rfl, rfl⟩
    rfl
  · rintro ⟨pair, hpair, heq⟩
    obtain ⟨hmem, hlive⟩ := List.mem_filter.1 hpair
    rw [(h.passive_wellFormed pair hmem).jwk_eq] at heq
    exact ⟨pair, hmem, hlive, jwkOf_injective heq⟩
  · rintro ⟨pair, hmem, hlive, rfl, rfl⟩
    exact ⟨pair, List.mem_filter.2 ⟨hmem, hlive⟩, (h.passive_wellFormed pair hmem).jwk_eq⟩

/-- A token with a `kid` is verified with the pair of that id. -/
theorem uses_iff_active (hkid : keys.active.keyId = kid) :
    keys.Uses now kid key ↔ key = keys.active.decoding := by
  constructor
  · rintro (⟨-, rfl⟩ | ⟨pair, hmem, -, hpair, -⟩)
    · rfl
    · exact absurd (hpair.trans hkid.symm) (h.passive_keyId pair hmem)
  · rintro rfl
    exact .inl ⟨hkid, rfl⟩

theorem uses_iff_passive (hkid : keys.active.keyId ≠ kid) (hmem : pair ∈ keys.passive)
    (hlive : pair.isLive now = true) (hpair : pair.keyId = kid) :
    keys.Uses now kid key ↔ key = pair.decoding := by
  constructor
  · rintro (⟨hactive, -⟩ | ⟨pair', hmem', -, -, rfl⟩)
    · exact absurd hactive hkid
    · rw [eq_of_mem_of_length_le_one h.passive_length hmem hmem']
  · rintro rfl
    exact .inr ⟨pair, hmem, hlive, hpair, rfl⟩

theorem decodeWithKey_eq_ok_iff (hkid : token.kid = some kid) :
    keys.decodeWithKey now token = .ok claims ↔
      keys.Uses now kid token.key ∧ keys.Admits now token.claims ∧ claims = token.claims := by
  unfold Keys.decodeWithKey
  rw [hkid]
  by_cases hactive : keys.active.keyId = kid
  · rw [if_pos (by simp [hactive]), verify_eq_ok_iff, uses_iff_active h hactive]
  rw [if_neg (by simpa using fun heq => hactive heq.symm)]
  split
  · rename_i hfound
    refine ⟨nofun, fun ⟨huses, _⟩ => ?_⟩
    rcases huses with ⟨hkid, -⟩ | ⟨pair, hmem, hlive, hpair, -⟩
    · exact absurd hkid hactive
    · have hnot := List.find?_eq_none.1 hfound pair hmem
      simp [hpair, hlive] at hnot
  · rename_i pair hfound
    have hcondition := List.find?_some hfound
    simp only [Bool.and_eq_true, beq_iff_eq, Option.some.injEq] at hcondition
    rw [verify_eq_ok_iff, uses_iff_passive h hactive (List.mem_of_find?_eq_some hfound)
      hcondition.2 hcondition.1.symm]

/-- The published keys are those under which tokens with their ids are accepted. -/
theorem jwkOf_mem_jwks_iff :
    jwkOf reader kid key ∈ keys.jwks now ↔ keys.AcceptsUnder now kid key := by
  rw [jwkOf_mem_jwks_iff_uses h]
  constructor
  · intro huses
    obtain ⟨audience, haudience⟩ := List.exists_mem_of_ne_nil _ h.audiences_ne
    let claims : IssuedClaims :=
      { aud := audience, exp := now, jti := "", iss := keys.issuer }
    refine ⟨⟨some kid, claims, key⟩, rfl, rfl, ?_⟩
    rw [decodeToken_eq_ok_iff, decodeWithKey_eq_ok_iff h rfl]
    exact ⟨huses, ⟨Int.sub_le_self now (by decide), rfl, haudience⟩, rfl⟩
  · rintro ⟨token, hkid, rfl, haccepted⟩
    rw [decodeToken_eq_ok_iff, decodeWithKey_eq_ok_iff h hkid] at haccepted
    exact haccepted.1

/-- Every published key has the form of one. -/
theorem exists_jwkOf_of_mem_jwks {jwk : Jwk} (hjwk : jwk ∈ keys.jwks now) :
    ∃ kid key, jwk = jwkOf reader kid key := by
  rcases List.mem_cons.1 hjwk with rfl | hmem
  · exact ⟨_, _, h.active_wellFormed.jwk_eq⟩
  · obtain ⟨pair, hpair, rfl⟩ := List.mem_map.1 hmem
    exact ⟨_, _, (h.passive_wellFormed pair (List.mem_filter.1 hpair).1).jwk_eq⟩

end Valid

/-! ### Tokens over sequences of calls -/

/-- The key is in the ring under the given id, live or not. -/
def Keys.Holds (keys : Keys) (kid : String) (key : RsaPublicKey) : Prop :=
  keys.active.keyId = kid ∧ keys.active.decoding = key ∨
    ∃ pair ∈ keys.passive, pair.keyId = kid ∧ pair.decoding = key

/-- The step leaves the key with the given id in the ring: as long as it is passive, no rotation
succeeds, and it is not retired. -/
def Retains (reader : KeyReader) (kid : String) (s : RingState) : Step → Prop
  | .call (.rotate keyId privateKeyPem publicKeyPem overlapSeconds) =>
    s.keys.active.keyId ≠ kid →
      (s.keys.call reader s.now (.rotate keyId privateKeyPem publicKeyPem overlapSeconds)).1 = false
  | .call (.retirePassive keyId) => s.keys.active.keyId ≠ kid → keyId ≠ kid
  | _ => True

theorem holds_call (hvalid : keys.Valid reader) (hkey : keys.Holds kid key)
    (hretains : Retains reader kid ⟨keys, now⟩ (.call c)) :
    (keys.call reader now c).2.Holds kid key := by
  generalize hresult : keys.call reader now c = result
  have heffect := effect_call hresult
  -- A passive key is not the one with the id of the active key.
  have hpassive : ∀ pair ∈ keys.passive, pair.keyId = kid → keys.active.keyId ≠ kid :=
    fun pair hmem hpair hactive => hvalid.passive_keyId pair hmem (hpair.trans hactive.symm)
  cases heffect with
  | failed => exact hkey
  | rotated =>
    rcases hkey with ⟨hkid, hdecoding⟩ | ⟨pair, hmem, hpair, -⟩
    · exact .inr ⟨_, List.mem_singleton_self _, hkid, hdecoding⟩
    have hfailed := hretains (hpassive pair hmem hpair)
    rw [hresult] at hfailed
    cases hfailed
  | rolledBack hmem =>
    rcases hkey with ⟨hkid, hdecoding⟩ | ⟨pair, hmem', hpair, hdecoding⟩
    · exact .inr ⟨_, List.mem_singleton_self _, hkid, hdecoding⟩
    · obtain rfl := eq_of_mem_of_length_le_one hvalid.passive_length hmem hmem'
      exact .inl ⟨hpair, hdecoding⟩
  | retired =>
    rcases hkey with hactive | ⟨pair, hmem, hpair, hdecoding⟩
    · exact .inl hactive
    · refine .inr ⟨pair, List.mem_filter.2 ⟨hmem, ?_⟩, hpair, hdecoding⟩
      exact bne_iff_ne.2 fun heq => hretains (hpassive pair hmem hpair) (heq.symm.trans hpair)

variable {s s' : RingState} {step : Step} {steps : List Step}

theorem call_issuer (c : Call) : (keys.call reader now c).2.issuer = keys.issuer ∧
    (keys.call reader now c).2.audiences = keys.audiences := by
  generalize hresult : keys.call reader now c = result
  cases effect_call hresult <;> exact ⟨rfl, rfl⟩

theorem call_of_failed (h : (keys.call reader now c).1 = false) :
    (keys.call reader now c).2 = keys := by
  generalize hresult : keys.call reader now c = result at h ⊢
  cases effect_call hresult with
  | failed => rfl
  | rotated | rolledBack | retired => cases h

theorem step_eq_some (h : (system reader).step s step = some s') :
    (∃ c, step = .call c ∧ s' = ⟨(s.keys.call reader s.now c).2, s.now⟩) ∨
      ∃ now, step = .tick now ∧ s' = ⟨s.keys, now⟩ := by
  cases step with
  | call c => exact .inl ⟨c, rfl, (Option.some.inj h).symm⟩
  | tick now =>
    simp only [system] at h
    split at h
    · exact .inr ⟨now, rfl, (Option.some.inj h).symm⟩
    · cases h

section Step

variable (hstep : (system reader).step s step = some s')

include hstep

/-- Every step keeps the invariant, the issuer and the audiences. -/
theorem valid_step (h : s.keys.Valid reader) :
    s'.keys.Valid reader ∧ s'.keys.issuer = s.keys.issuer ∧
      s'.keys.audiences = s.keys.audiences := by
  obtain ⟨c, rfl, rfl⟩ | ⟨now, rfl, rfl⟩ := step_eq_some hstep
  · exact ⟨valid_call h c, call_issuer c⟩
  · exact ⟨h, rfl, rfl⟩

theorem matched_step (h : s.keys.Matched) (hargs : MatchedArguments reader step) :
    s'.keys.Matched := by
  obtain ⟨c, rfl, rfl⟩ | ⟨now, rfl, rfl⟩ := step_eq_some hstep
  · exact matched_call h hargs
  · exact h

theorem holds_step (hvalid : s.keys.Valid reader) (hkey : s.keys.Holds kid key)
    (hretains : Retains reader kid s step) : s'.keys.Holds kid key := by
  obtain ⟨c, rfl, rfl⟩ | ⟨now, rfl, rfl⟩ := step_eq_some hstep
  · exact holds_call hvalid hkey hretains
  · exact hkey

end Step

/-- The token is accepted, or it has expired, or its key has. -/
def AcceptedUnlessExpired (token : SignedToken) (s : RingState) : Prop :=
  s.keys.decodeToken s.now token = .ok token.claims ∨ token.claims.exp < s.now - leeway ∨
    ∃ pair ∈ s.keys.passive, token.kid = some pair.keyId ∧ pair.isLive s.now = false

theorem acceptedUnlessExpired_of_holds (hvalid : s.keys.Valid reader)
    (hkid : token.kid = some kid) (hholds : s.keys.Holds kid token.key)
    (hiss : token.claims.iss = s.keys.issuer) (haud : token.claims.aud ∈ s.keys.audiences) :
    AcceptedUnlessExpired token s := by
  by_cases hexp : token.claims.exp < s.now - leeway
  · exact .inr (.inl hexp)
  have hadmits : s.keys.Admits s.now token.claims := ⟨not_lt.1 hexp, hiss, haud⟩
  have haccepted : s.keys.Uses s.now kid token.key →
      s.keys.decodeToken s.now token = .ok token.claims := fun huses =>
    decodeToken_eq_ok_iff.2 ((decodeWithKey_eq_ok_iff hvalid hkid).2 ⟨huses, hadmits, rfl⟩)
  rcases hholds with hactive | ⟨pair, hmem, hpair, hdecoding⟩
  · exact .inl (haccepted (.inl hactive))
  obtain hlive | hlive := Bool.eq_false_or_eq_true (pair.isLive s.now)
  · exact .inl (haccepted (.inr ⟨pair, hmem, hlive, hpair, hdecoding⟩))
  · exact .inr (.inr ⟨pair, hmem, hkid.trans (congrArg some hpair.symm), hlive⟩)

/-- A signed token is accepted after every sequence of steps that retain its key. -/
theorem accepted_of_signed (hvalid : s.keys.Valid reader) (hmatched : s.keys.Matched)
    (hsign : s.keys.signToken claims = .ok token) (hiss : claims.iss = s.keys.issuer)
    (haud : claims.aud ∈ s.keys.audiences) (hretains : (system reader).Along
      (fun t step _ => Retains reader s.keys.active.keyId t step) s steps)
    (hrun : (system reader).run s steps = some s') : AcceptedUnlessExpired token s' := by
  unfold Keys.signToken at hsign
  split at hsign
  · cases hsign
  rename_i key hkey
  cases hsign
  obtain ⟨hvalid', hholds, hissuer, haudiences⟩ := (system reader).run_invariant_along
    (I := fun t => t.keys.Valid reader ∧ t.keys.Holds s.keys.active.keyId key ∧
      t.keys.issuer = s.keys.issuer ∧ t.keys.audiences = s.keys.audiences)
    (fun t step t' ⟨hvalid, hholds, hissuer, haudiences⟩ hretains hstep => by
      obtain ⟨hvalid', hissuer', haudiences'⟩ := valid_step hstep hvalid
      exact ⟨hvalid', holds_step hstep hvalid hholds hretains, hissuer'.trans hissuer,
        haudiences'.trans haudiences⟩)
    ⟨hvalid, .inl ⟨rfl, (hmatched.1 key hkey).symm⟩, rfl, rfl⟩ hretains hrun
  exact acceptedUnlessExpired_of_holds hvalid' rfl hholds (hissuer ▸ hiss) (haudiences ▸ haud)

/-! ### Configured rings -/

/-- The texts of each configured pair are those of one pair of keys. -/
structure MatchedConfig (reader : KeyReader) (config : KeyConfig) : Prop where
  active : ∀ key key', reader.encodingKey config.jwtPrivateKeyPem = .ok key →
    reader.decodingKey config.jwtPublicKeyPem = .ok key' → key = key'
  passive : ∀ privateKeyPem ∈ config.jwtPassivePrivateKeyPem,
    ∀ publicKeyPem ∈ config.jwtPassivePublicKeyPem, ∀ key key',
      reader.encodingKey privateKeyPem = .ok key → reader.decodingKey publicKeyPem = .ok key' →
        key = key'

variable {config : KeyConfig}

theorem of_validateCommon (h : validateCommon config = []) :
    config.jwtAudiences ≠ [] ∧ ∀ keyId ∈ config.jwtPassiveKeyId, keyId ≠ config.jwtKeyId := by
  simp only [validateCommon, List.append_eq_nil_iff] at h
  obtain ⟨⟨⟨⟨⟨⟨-, haudiences⟩, -⟩, -⟩, -⟩, -⟩, hkeyId⟩ := h.1
  refine ⟨fun hnil => ?_, fun keyId hmem heq => ?_⟩
  · rw [hnil] at haudiences
    cases haudiences
  · obtain hmem : config.jwtPassiveKeyId = some keyId := hmem
    rw [hmem, heq] at hkeyId
    simp at hkeyId

section Configured

variable (h : Keys.fromConfig reader config now = .ok keys)

include h

theorem fromConfig_eq_ok :
    keys.audiences = config.jwtAudiences ∧
      KeyPair.fromPem reader config.jwtKeyId (some config.jwtPrivateKeyPem)
        config.jwtPublicKeyPem none = .ok keys.active ∧
      ∀ pair ∈ keys.passive, keys.passive = [pair] ∧ ∃ keyId ∈ config.jwtPassiveKeyId,
        ∃ publicKeyPem ∈ config.jwtPassivePublicKeyPem,
          KeyPair.fromPem reader keyId config.jwtPassivePrivateKeyPem publicKeyPem
            (some (overlapEnd now config.jwtKeyOverlapSeconds)) = .ok pair := by
  obtain ⟨active, hactive, h⟩ := bind_eq_ok.1 h
  split at h
  · rename_i keyId publicKeyPem hid hpublic
    obtain ⟨passive, hpassive, h⟩ := bind_eq_ok.1 h
    cases h
    refine ⟨rfl, hactive, fun pair hpair => ?_⟩
    obtain rfl := List.mem_singleton.1 hpair
    exact ⟨rfl, keyId, hid, publicKeyPem, hpublic, hpassive⟩
  · cases h
    exact ⟨rfl, hactive, by simp⟩
  · cases h

theorem valid_fromConfig (hconfig : validateCommon config = []) : keys.Valid reader := by
  obtain ⟨haudiences, hkeyIds⟩ := of_validateCommon hconfig
  obtain ⟨hconfigured, hactive, hpassive⟩ := fromConfig_eq_ok h
  obtain ⟨hwell, hkeyId, hpem, hexpires, -⟩ := fromPem_eq_ok hactive
  refine ⟨hwell, ?_, hexpires, fun pair hpair => ?_, ?_, fun pair hpair => ?_, ?_⟩
  · rw [hwell.private_iff, hpem]
    rfl
  · obtain ⟨-, keyId, -, publicKeyPem, -, hread⟩ := hpassive pair hpair
    exact (fromPem_eq_ok hread).1
  · rcases List.eq_nil_or_concat keys.passive with hnil | ⟨l, pair, hpairs⟩
    · simp [hnil]
    · rw [(hpassive pair (by simp [hpairs])).1]
      exact le_rfl
  · obtain ⟨-, keyId, hid, publicKeyPem, -, hread⟩ := hpassive pair hpair
    rw [(fromPem_eq_ok hread).2.1, hkeyId]
    exact hkeyIds keyId hid
  · rw [hconfigured]
    exact haudiences

theorem matched_fromConfig (hmatched : MatchedConfig reader config) : keys.Matched := by
  obtain ⟨-, hactive, hpassive⟩ := fromConfig_eq_ok h
  refine ⟨matched_of_fromPem hactive ?_, fun pair hpair => ?_⟩
  · rintro pem ⟨⟩
    exact hmatched.active
  · obtain ⟨-, keyId, -, publicKeyPem, hpublic, hread⟩ := hpassive pair hpair
    exact matched_of_fromPem hread fun pem hpem => hmatched.passive pem hpem _ hpublic

end Configured

/-- Over every sequence of calls on a configured ring: the active pair has a private key and does
not expire, there is at most one passive pair, and it has another id; failed calls change nothing;
the published keys are those under which tokens with their ids are accepted; and a signed token is
accepted until it or its key expires, unless its key is retired or, while it is passive, followed
by another rotation. -/
theorem ring_publishes_what_it_accepts {config : KeyConfig} {start : Int}
    (hconfig : validateCommon config = []) (hmatched : MatchedConfig reader config)
    (hkeys : Keys.fromConfig reader config start = .ok keys)
    (hargs : (system reader).Along (fun _ step _ => MatchedArguments reader step) ⟨keys, start⟩
      steps)
    (hrun : (system reader).run ⟨keys, start⟩ steps = some s) :
    s.keys.Valid reader ∧
      (∀ c, (s.keys.call reader s.now c).1 = false →
        (s.keys.call reader s.now c).2 = s.keys) ∧
      (∀ jwk ∈ s.keys.jwks s.now, ∃ kid key, jwk = jwkOf reader kid key) ∧
      (∀ kid key,
        jwkOf reader kid key ∈ s.keys.jwks s.now ↔ s.keys.AcceptsUnder s.now kid key) ∧
      ∀ claims token, s.keys.signToken claims = .ok token → claims.iss = s.keys.issuer →
        claims.aud ∈ s.keys.audiences → ∀ later s',
          (system reader).Along (fun t step _ => Retains reader s.keys.active.keyId t step) s
            later →
          (system reader).run s later = some s' → AcceptedUnlessExpired token s' := by
  obtain ⟨hvalid, hmatches⟩ := (system reader).run_invariant_along
    (I := fun t => t.keys.Valid reader ∧ t.keys.Matched)
    (fun t step t' ⟨hvalid, hmatches⟩ hargs hstep =>
      ⟨(valid_step hstep hvalid).1, matched_step hstep hmatches hargs⟩)
    ⟨valid_fromConfig hkeys hconfig, matched_fromConfig hkeys hmatched⟩ hargs hrun
  exact ⟨hvalid, fun c => call_of_failed, fun jwk => exists_jwkOf_of_mem_jwks hvalid,
    fun kid key => jwkOf_mem_jwks_iff hvalid, fun claims token hsign hiss haud later s' =>
      accepted_of_signed hvalid hmatches hsign hiss haud⟩

/-! ### A second rotation -/

/-- A reading of texts in which the length of a text is the modulus of its key. -/
def lengthReader : KeyReader where
  decodingKey pem := .ok ⟨pem.toList.length, 3⟩
  publicKey pem := .ok ⟨pem.toList.length, 3⟩
  encodingKey pem := .ok ⟨pem.toList.length, 3⟩
  base64 n := String.ofList (List.replicate n 'A')
  publicKey_eq h h' := by
    cases h
    cases h'
    rfl
  base64_injective n m h := by
    have hlength := congrArg (fun text => text.toList.length) h
    simpa using hlength

def ringConfig : KeyConfig where
  jwtIssuer := "keylo"
  jwtAudiences := ["api"]
  jwtKeyId := "k1"
  jwtPrivateKeyPem := "p"
  jwtPublicKeyPem := "p"

/-- The ring with the configured pair. -/
def ring : Keys where
  active := ⟨"k1", some "p", "p", some ⟨1, 3⟩, ⟨1, 3⟩, jwkOf lengthReader "k1" ⟨1, 3⟩, none⟩
  passive := []
  issuer := "keylo"
  audiences := ["api"]

/-- Claims that expire after 1000 seconds. -/
def ringClaims : IssuedClaims := { aud := "api", exp := 1000, jti := "t", iss := "keylo" }

def rotation : Step := .call (.rotate "k2" "pp" "pp" 300)

theorem ring_publishes_what_it_accepts_rotation :
    validateCommon ringConfig = [] ∧ Keys.fromConfig lengthReader ringConfig 0 = .ok ring ∧
      ∃ s, (system lengthReader).run ⟨ring, 0⟩ [rotation, .tick 299] = some s ∧
        s.keys.Valid lengthReader ∧ AcceptedUnlessExpired ⟨some "k1", ringClaims, ⟨1, 3⟩⟩ s := by
  have hmatched : MatchedConfig lengthReader ringConfig := by
    refine ⟨?_, ?_⟩
    · rintro key key' ⟨⟩ ⟨⟩
      rfl
    · rintro privateKeyPem ⟨⟩
  have hargs : (system lengthReader).Along (fun _ step _ => MatchedArguments lengthReader step)
      ⟨ring, 0⟩ [rotation, .tick 299] := by
    refine ⟨?_, trivial, trivial⟩
    rintro key key' ⟨⟩ ⟨⟩
    rfl
  have hconfig : validateCommon ringConfig = [] := by decide
  have hkeys : Keys.fromConfig lengthReader ringConfig 0 = .ok ring := rfl
  have hrun : (system lengthReader).run ⟨ring, 0⟩ [] = some ⟨ring, 0⟩ := rfl
  have hstart := ring_publishes_what_it_accepts hconfig hmatched hkeys
    (System.along_nil _) hrun
  refine ⟨hconfig, hkeys, _, rfl, ?_, ?_⟩
  · exact (ring_publishes_what_it_accepts hconfig hmatched hkeys hargs rfl).1
  · refine hstart.2.2.2.2 ringClaims _ rfl rfl (by decide) [rotation, .tick 299] _ ?_ rfl
    exact ⟨fun h => absurd rfl h, trivial, trivial⟩

/-- After two rotations within the overlap of the first key, a token of that key is rejected,
although neither the token nor the overlap has expired. -/
theorem token_lost_by_second_rotation :
    ∃ s₁ s₂ token, ring.signToken ringClaims = .ok token ∧
      (system lengthReader).run ⟨ring, 0⟩ [rotation] = some s₁ ∧
      s₁.keys.passive.map (fun pair => (pair.keyId, pair.expiresAt)) = [("k1", some 300)] ∧
      s₁.keys.decodeToken s₁.now token = .ok token.claims ∧
      (system lengthReader).run s₁ [.call (.rotate "k3" "ppp" "ppp" 300)] = some s₂ ∧
      s₂.now = 0 ∧ token.claims.exp = 1000 ∧
      s₂.keys.decodeToken s₂.now token = .error .invalidToken :=
  ⟨_, _, _, rfl, rfl, by decide, by decide, rfl, rfl, rfl, by decide⟩

end Keylo.Signing
