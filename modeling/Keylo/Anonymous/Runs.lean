import Keylo.Anonymous.Accounts

/-!
# Runs of anonymous requests

The tokens that logins and refreshes return, the accounts that registrations and password resets
change, and runs of all of them. A token for an account takes its password or one of its live
refresh tokens, and the account is left as it is, up to the password that a reset token replaces
(`anonymous_requests_harmless`). The migration at login is the exception: it resolves an item to
an existing account, changes it and signs the caller in (`migration_takes_over`).

## Main definitions

* `SameUntil` : nothing but time has passed.
-/

namespace Keylo.Anonymous

open Relational Handler Import Program Table

variable {crates : Crates} {db db' db₁ : Db} {state : AppState} {P : String → Prop}
  {r : Except AuthError AuthBody} {x : Statements α} {α : Type}

/-! ### Time -/

/-- Nothing but time has passed. -/
def SameUntil (db db' : Db) : Prop := ∃ n, db' = db.tick n

theorem SameUntil.refl (db : Db) : SameUntil db db := ⟨0, by simp [Db.tick]⟩

theorem SameUntil.tick (db : Db) (n : Nat) : SameUntil db (db.tick n) := ⟨n, rfl⟩

instance : Ticks SameUntil := ⟨SameUntil.tick⟩

theorem SameUntil.trans (h : SameUntil db db₁) (h' : SameUntil db₁ db') : SameUntil db db' := by
  obtain ⟨n, rfl⟩ := h
  obtain ⟨m, rfl⟩ := h'
  exact ⟨n + m, by simp [Db.tick, Int.add_assoc]⟩

theorem SameUntil.sameAccounts (h : SameUntil db db') : SameAccounts db db' := by
  obtain ⟨n, rfl⟩ := h
  exact Ticks.tick db n

theorem SameUntil.clock_le (h : SameUntil db db') : db.clock ≤ db'.clock := by
  obtain ⟨n, rfl⟩ := h
  exact Int.le_add_of_nonneg_right (Int.natCast_nonneg n)

theorem wp_sameUntil (h : x.Guarantees SameUntil) : x.wp db fun _ db' => SameUntil db db' :=
  h.wp SameUntil.refl fun _ _ _ => SameUntil.trans

theorem wp_sameAccounts (h : x.Guarantees SameAccounts) :
    x.wp db fun _ db' => SameAccounts db db' :=
  h.wp (fun _ => ⟨rfl, rfl, rfl, rfl, rfl⟩) fun _ _ _ h h' =>
    ⟨h'.users.trans h.users, h'.externalUserMappings.trans h.externalUserMappings,
      h'.userRoles.trans h.userRoles, h'.principalRoles.trans h.principalRoles,
      h'.roleBindings.trans h.roleBindings⟩

/-- A token that is live was live before. -/
theorem liveRefreshToken_of_sameUntil {token principalId : String}
    (h : LiveRefreshToken crates db' token principalId) (hsame : SameUntil db db') :
    LiveRefreshToken crates db token principalId := by
  have hclock := hsame.clock_le
  obtain ⟨n, rfl⟩ := hsame
  obtain ⟨row, session, hfound, hprincipal, hconsumed, hrevoked, hrow, hsession, hexpires⟩ := h
  exact ⟨row, session, hfound, hprincipal, hconsumed, hrevoked, hclock.trans_lt hrow, hsession,
    hclock.trans_lt hexpires⟩

/-- A reset token that is live was live before. -/
theorem liveResetToken_of_sameUntil {token userId : String}
    (h : LiveResetToken crates db' token userId) (hsame : SameUntil db db') :
    LiveResetToken crates db token userId := by
  have hclock := hsame.clock_le
  obtain ⟨n, rfl⟩ := hsame
  obtain ⟨record, account, hfound, huser, hvalid⟩ := h
  refine ⟨record, account, hfound, huser, ?_⟩
  simp only [resetTokenInvalid, Bool.or_eq_false_iff, decide_eq_false_iff_not, not_le] at hvalid ⊢
  obtain ⟨⟨⟨⟨⟨hunused, hexpires⟩, hactive⟩, hverified⟩, hpassword⟩, hemail⟩ := hvalid
  exact ⟨⟨⟨⟨⟨hunused, hclock.trans_lt hexpires⟩, hactive⟩, hverified⟩, hpassword⟩, hemail⟩

/-! ### Login -/

/-- The result is an error, or an access token for a user that satisfies `P` at most. -/
def MintedFor (keys : JwtKeys) (P : String → Prop) (r : Except AuthError AuthBody) : Prop :=
  ∀ body, r = .ok body → Minted keys body.accessToken P

theorem mintedFor_error {keys : JwtKeys} {e : AuthError} : MintedFor keys P (.error e) := nofun

theorem wp_sign (claims : Claims) {Q : Except AuthError String → Db → Prop}
    (herror : ∀ e, Q (.error e) db)
    (hok : ∀ token, state.jwtKeys.signToken claims = .ok token → Q (.ok token) db) :
    (sign state claims).run.wp db Q := by
  unfold sign
  split
  · rename_i token hsign
    exact wp_okExcept.2 (hok token hsign)
  · rename_i e _
    exact wp_throw.2 (herror e)

theorem wp_issueTokens (payload : AuthPayload) {user : User} (hP : P user.id) :
    (issueTokens state payload user).run.wp db fun r _ => MintedFor state.jwtKeys P r := by
  refine wp_bindExcept_of_forall (fun _ _ => nofun) fun time _ =>
    wp_bindExcept_of_forall (fun _ _ => nofun) fun isAdmin _ =>
    wp_bindExcept_of_forall (fun _ _ => nofun) fun principal _ =>
    wp_bindExcept_of_forall (fun _ _ => nofun) fun organizationId _ =>
    wp_bindExcept_of_forall (fun _ _ => nofun) fun accessJti db => ?_
  refine wp_bindExcept.2 (wp_sign _ (fun _ => nofun) fun token hsign => ?_)
  refine wp_bindExcept_of_forall (fun _ _ => nofun) fun refreshJti _ =>
    wp_bindExcept_of_forall (fun _ _ => nofun) fun refreshToken _ =>
    wp_bindExcept_of_forall (fun _ _ => nofun) fun _ _ => ?_
  refine wp_okExcept.2 ?_
  rintro _ ⟨⟩
  refine ⟨_, hsign, ?_⟩
  rintro _ ⟨⟩
  exact hP

theorem checkPassword_eq_some {password : String} {found : Option User} {user : User}
    (h : checkPassword state password found = .ok (some user)) :
    found = some user ∧ user.active = true ∧ ∃ passwordHash,
      user.passwordHash = some passwordHash ∧
      state.crates.bcryptVerify password passwordHash = some true := by
  cases found with
  | none => cases h
  | some =>
    dsimp only [checkPassword] at h
    split at h
    · cases h
    rename_i hactive
    split at h
    · cases h
    rename_i passwordHash hhash
    split at h
    · cases h
    rename_i valid hverify
    cases valid <;> cases h
    exact ⟨rfl, by simpa using hactive, passwordHash, hhash, hverify⟩

/-- A login returns a token for the active user whose password it carries. -/
theorem wp_authToken (payload : AuthPayload) :
    (authToken state payload).run.wp db fun r _ =>
      MintedFor state.jwtKeys (Entitled state db (.authToken payload)) r := by
  unfold authToken
  split
  · exact wp_throw.2 mintedFor_error
  refine wp_bindExcept.2 (wp_mono
    (wp_sameAccounts guarantees_enforcePasswordLoginLimits)
    fun r db₁ hsame => ?_)
  cases r with
  | error => exact mintedFor_error
  | ok =>
    refine wp_bindExcept.2 (wp_adapt.2
      (wp_fetch (fun _ _ => mintedFor_error) fun n => ?_))
    dsimp only [Except.mapError]
    split
    · exact wp_throw.2 mintedFor_error
    · exact wp_throw.2 mintedFor_error
    rename_i user hchecked
    obtain ⟨hfound, hactive, passwordHash, hhash, hverify⟩ := checkPassword_eq_some hchecked
    refine wp_issueTokens payload fun u hu hid => ?_
    have huser : user ∈ db.users := hsame.users ▸ (lookup_eq_some_iff.1 hfound).1
    obtain rfl : u = user := eq_of_key hu huser hid
    exact ⟨.inl ⟨payload.clientSecret, List.mem_singleton_self _, passwordHash, hhash, hverify⟩,
      hactive⟩

/-! ### Refresh -/

theorem wp_checkRefreshOrganization (token : String) (claims : Claims) :
    (checkRefreshOrganization state token claims).run.wp db fun r db' =>
      r = .ok () → SameUntil db db' := by
  unfold checkRefreshOrganization
  split
  · exact wp_okExcept.2 fun _ => SameUntil.refl db
  split
  · exact wp_throw.2 nofun
  split
  · exact wp_throw.2 nofun
  refine wp_bindExcept.2 (wp_adapt.2 (wp_fetch (fun _ _ => nofun) fun n => ?_))
  dsimp only [Except.mapError]
  split
  · exact wp_okExcept.2 fun _ => SameUntil.tick db n
  · exact wp_bindExcept_of_forall (fun _ _ => nofun) fun _ _ =>
      wp_throw.2 nofun

/-- The result is an error, or claims of an active user from its own principal, or of no user. -/
def ClaimsOf (db : Db) (principal : Principal) (r : Except AuthError Claims) : Prop :=
  ∀ claims, r = .ok claims → ∀ uid, claims.uid = some uid →
    principal.id = principalId .user uid ∧ ∃ u ∈ db.users, u.id = uid ∧ u.active = true

theorem claimsOf_error (principal : Principal) (e : AuthError) :
    ClaimsOf db principal (.error e) := fun _ h => by cases h

theorem wp_accessClaimsForPrincipal (principal : Principal) (time : Int) (jti : String) :
    (accessClaimsForPrincipal state principal time jti).run.wp db fun r _ =>
      ClaimsOf db principal r := by
  unfold accessClaimsForPrincipal
  split
  · rename_i htype
    refine wp_bindExcept.2 (wp_adapt.2
      (wp_fetch (fun _ _ => claimsOf_error principal _) fun n => ?_))
    dsimp only [Except.mapError]
    split
    · exact wp_throw.2 (claimsOf_error principal _)
    rename_i user hfound
    refine wp_bindExcept_of_forall (fun e _ => claimsOf_error principal e)
      fun isAdmin _ => wp_okExcept.2 ?_
    intro claims hclaims uid huid
    cases hclaims
    cases huid
    obtain ⟨hlookup, hactive⟩ := Option.filter_eq_some_iff.1 hfound
    obtain ⟨hmem, hid⟩ := lookup_eq_some_iff.1 hlookup
    exact ⟨by rw [Principal.id, htype, hid], user, hmem, rfl, hactive⟩
  · refine wp_bindExcept_of_forall (fun e _ => claimsOf_error principal e)
      fun found _ => ?_
    split
    · refine wp_okExcept.2 ?_
      intro claims hclaims uid huid
      cases hclaims
      cases huid
    · exact wp_throw.2 (claimsOf_error principal _)
  · exact wp_throw.2 (claimsOf_error principal _)

theorem wp_refreshedBody (claims : Claims) (session : ConsumedRefreshSession) (token : String)
    (time : Int) (jti : String) :
    (refreshedBody state claims session token time jti).run.wp db fun r _ =>
      MintedFor state.jwtKeys (fun uid => session.principalId = principalId .user uid ∧
        ∃ u ∈ db.users, u.id = uid ∧ u.active = true) r := by
  refine wp_bindExcept.2 (wp_adapt.2
    (wp_fetch (fun _ _ => nofun) fun n => ?_))
  dsimp only [Except.mapError]
  split
  · exact wp_throw.2 nofun
  rename_i principal hfound
  obtain ⟨hlookup, -⟩ := Option.filter_eq_some_iff.1 hfound
  obtain ⟨-, hid⟩ := lookup_eq_some_iff.1 hlookup
  refine wp_bindExcept.2 (wp_mono
    (wp_accessClaimsForPrincipal principal time jti) fun r db' hr => ?_)
  cases r with
  | error => exact nofun
  | ok accessClaims =>
    refine wp_bindExcept.2 (wp_sign _ (fun _ => nofun) fun token hsign => ?_)
    refine wp_okExcept.2 ?_
    rintro _ ⟨⟩
    refine ⟨_, hsign, fun uid huid => ?_⟩
    rw [← hid]
    exact hr accessClaims rfl uid huid

theorem wp_ensurePrincipal (t : PrincipalType) (refId : String) :
    (Handler.ensurePrincipal t refId).run.wp db fun r _ =>
      ∀ principal, r = .ok (some principal) → principal.principalType = t := by
  refine wp_bindExcept_of_forall (fun _ _ => nofun) fun owner _ => ?_
  cases owner with
  | none => exact wp_okExcept.2 nofun
  | some =>
    refine wp_bindExcept_of_forall (fun _ _ => nofun) fun _ _ => wp_okExcept.2 ?_
    rintro _ ⟨⟩
    rfl

/-- The tokens from before there were sessions are not replaced by tokens for users. -/
theorem wp_migrateRefreshToken (token : String) (time : Int) (accessJti jti : String) :
    (migrateRefreshToken state token time accessJti jti).run.wp db fun r _ =>
      MintedFor state.jwtKeys P r := by
  refine wp_bindExcept_of_forall (fun _ _ => nofun) fun consumed db => ?_
  split
  · refine wp_bindExcept.2 (wp_bindExcept.2 (wp_adapt.2
      (wp_mono (wp_ensurePrincipal .client _) fun r db htype => ?_)))
    rcases r with e | (_ | principal)
    · exact nofun
    · exact wp_throw.2 nofun
    refine wp_bindExcept.2 (wp_mono
      (wp_accessClaimsForPrincipal principal time accessJti) fun r db hr => ?_)
    cases r with
    | error => exact nofun
    | ok claims =>
      refine wp_bindExcept.2 (wp_sign _ (fun _ => nofun) fun t hsign => ?_)
      refine wp_bindExcept_of_forall (fun _ _ => nofun) fun _ _ =>
        wp_bindExcept_of_forall (fun _ _ => nofun) fun _ _ =>
        wp_okExcept.2 (wp_bindExcept_of_forall (fun _ _ => nofun) fun _ _ => wp_okExcept.2 ?_)
      rintro _ ⟨⟩
      refine ⟨claims, hsign, fun uid huid => ?_⟩
      have hid := (hr claims rfl uid huid).1
      rw [Principal.id, htype principal rfl, principalId_inj] at hid
      cases hid.1
  · exact wp_throw.2 nofun

theorem MintedFor.mono {keys : JwtKeys} {P' : String → Prop} (h : MintedFor keys P r)
    (hP : ∀ uid, P uid → P' uid) : MintedFor keys P' r := by
  intro body hbody
  obtain ⟨claims, hsign, hclaims⟩ := h body hbody
  exact ⟨claims, hsign, fun uid huid => hP uid (hclaims uid huid)⟩

/-- A refresh returns a token for the active user whose live refresh token it carries. -/
theorem wp_rotateRefreshToken {db₀ : Db} (token : String) (claims : Claims)
    (hdb : SameUntil db₀ db) :
    (rotateRefreshToken state token claims).run.wp db fun r _ =>
      MintedFor state.jwtKeys (Entitled state db₀ (.authRefresh token)) r := by
  have htick : ∀ {α : Type} {x : Statements α} {db : Db}, x.Guarantees SameUntil →
      SameUntil db₀ db → x.wp db fun _ db' => SameUntil db₀ db' := fun hx hdb =>
    wp_mono (wp_sameUntil hx) fun _ _ h => hdb.trans h
  refine wp_bindExcept.2 (wp_liftExcept.2 (wp_mono
    (htick guarantees_now hdb) fun time db hdb => ?_))
  refine wp_bindExcept.2 (wp_liftExcept.2 (wp_mono
    (htick guarantees_draw hdb) fun accessJti db hdb => ?_))
  refine wp_bindExcept.2 (wp_liftExcept.2 (wp_mono
    (htick guarantees_draw hdb) fun refreshJti db hdb => ?_))
  refine wp_bindExcept.2 (wp_sign _ (fun _ => nofun) fun newToken _ => ?_)
  refine wp_bindExcept.2 (wp_adapt.2
    (wp_atomically_of (fun _ _ => nofun) fun _ n result db' hconsume => ?_))
  cases result with
  | replayed | organizationScopeMismatch | organizationContextInactive =>
    exact wp_throw.2 nofun
  | notFound =>
    dsimp only [Except.mapError]
    split
    · exact wp_throw.2 nofun
    · exact wp_migrateRefreshToken token _ accessJti refreshJti
  | consumed session =>
    have hsame : SameUntil db₀ (db.tick n) := hdb.trans (SameUntil.tick db n)
    have husers : db'.users = db₀.users :=
      (sameAccounts_consumeAndRotateRefreshSession hconsume).users.trans hsame.sameAccounts.users
    refine wp_mono (wp_refreshedBody claims session newToken _ accessJti) fun r _ hr =>
      hr.mono ?_
    rintro _ ⟨hprincipal, user, huser, rfl, hactive⟩ u hu hid
    obtain rfl : u = user := eq_of_key hu (husers ▸ huser) hid
    refine ⟨.inr ⟨token, rfl, ?_⟩, hactive⟩
    rw [← hprincipal]
    exact liveRefreshToken_of_sameUntil (liveRefreshToken_of_consumed hconsume) hsame

theorem wp_authRefresh (token : String) :
    (authRefresh state token).run.wp db fun r _ =>
      MintedFor state.jwtKeys (Entitled state db (.authRefresh token)) r := by
  unfold authRefresh
  split
  · exact wp_throw.2 nofun
  rename_i claims _
  split
  · exact wp_throw.2 nofun
  refine wp_bindExcept.2 (wp_mono
    (wp_checkRefreshOrganization token claims) fun r db' hr => ?_)
  cases r with
  | error => exact nofun
  | ok => exact wp_rotateRefreshToken token claims (hr rfl)

/-! ### Password reset -/

theorem unaltered_of_keepsAccounts {request : Request} {u : User} (h : KeepsAccounts db db')
    (hu : u ∈ db.users) : Unaltered crates db request u db' :=
  ⟨⟨u, (h u hu).1, rfl, rfl, rfl, rfl, .inl rfl⟩, (h u hu).2⟩

theorem KeepsAccounts.of_sameUntil (h : SameUntil db db') : KeepsAccounts db db' :=
  (KeepsAccounts.refl db).of_same h.sameAccounts

/-- A password reset replaces the password of the account that its token is for, at most. -/
theorem unaltered_of_consumePasswordResetToken {salt : String}
    {request : PasswordResetConfirmRequest} {result : ConsumePasswordResetTokenResult} {u : User}
    (h : consumePasswordResetToken crates db₁ salt (trim request.token) request.newPassword =
      .ok (result, db')) (hdb : SameUntil db db₁) (hu : u ∈ db.users) :
    Unaltered crates db (.confirmPasswordReset request) u db' := by
  obtain ⟨users, tokens, sessions, browserSessions, rfl, hcases⟩ :=
    consumePasswordResetToken_eq_ok h
  have hu₁ : u ∈ db₁.users := hdb.sameAccounts.users ▸ hu
  have hlinks : SameLinks u.id db db₁ := (KeepsAccounts.of_sameUntil hdb u hu).2
  refine ⟨?_, hlinks.mappings, hlinks.userRoles, hlinks.principalRoles, hlinks.roleBindings⟩
  obtain rfl | ⟨userId, passwordHash, hlive, hconsumed, rfl⟩ := hcases
  · exact ⟨u, hu₁, rfl, rfl, rfl, rfl, .inl rfl⟩
  refine ⟨_, mem_update.2 ⟨u, hu₁, rfl⟩, ?_⟩
  by_cases hid : u.id = userId
  · subst hid
    rw [if_pos (beq_self_eq_true _)]
    exact ⟨rfl, rfl, rfl, rfl,
      .inr ⟨request, rfl, liveResetToken_of_sameUntil hlive hdb, hconsumed⟩⟩
  · rw [if_neg (by simpa using hid)]
    exact ⟨rfl, rfl, rfl, rfl, .inl rfl⟩

theorem wp_confirmPasswordReset (request : PasswordResetConfirmRequest) :
    (confirmPasswordReset state request).run.wp db fun _ db' => ∀ u ∈ db.users,
      Unaltered state.crates db (.confirmPasswordReset request) u db' := by
  refine wp_bindExcept.2 (wp_liftExcept.2 (wp_mono
    (wp_sameUntil guarantees_consult) fun withinLimits db₁ hdb₁ => ?_))
  have hsame : ∀ db₂, SameUntil db₁ db₂ → ∀ u ∈ db.users,
      Unaltered state.crates db (.confirmPasswordReset request) u db₂ := fun db₂ h u hu =>
    unaltered_of_keepsAccounts (KeepsAccounts.of_sameUntil (hdb₁.trans h)) hu
  dsimp only
  split
  · exact wp_throw.2 (hsame db₁ (SameUntil.refl db₁))
  split
  · exact wp_throw.2 (hsame db₁ (SameUntil.refl db₁))
  split
  · exact wp_throw.2 (hsame db₁ (SameUntil.refl db₁))
  refine wp_bindExcept.2 (wp_adapt.2 (wp_atomically_of
    (fun _ n => hsame _ (SameUntil.tick db₁ n)) fun o n result db' hconsume => ?_))
  have hdb' : ∀ u ∈ db.users,
      Unaltered state.crates db (.confirmPasswordReset request) u db' := fun u hu =>
    unaltered_of_consumePasswordResetToken hconsume (hdb₁.trans (SameUntil.tick db₁ n)) hu
  cases result with
  | reset => exact wp_okExcept.2 hdb'
  | invalid => exact wp_throw.2 hdb'

/-! ### Requests -/

section Requests

variable {request : Request} {response : Response}
  (hkeys : ∀ claims token claims', state.jwtKeys.signToken claims = .ok token →
    state.jwtKeys.decodeToken token = .ok claims' → claims'.uid = claims.uid)

include hkeys in
theorem harmless_of_minted
    (hminted : ∀ token, response.accessToken = some token →
      Minted state.jwtKeys token (Entitled state db request))
    (hunaltered : ∀ u ∈ db.users, Unaltered state.crates db request u db') :
    Harmless state db request response db' := fun u hu =>
  ⟨notImpersonated_of_minted hkeys hminted hu, hunaltered u hu⟩

include hkeys in
theorem harmless_of_mintedFor (hsame : SameAccounts db db')
    (h : MintedFor state.jwtKeys (Entitled state db request) r) :
    Harmless state db request (.tokens r) db' := by
  refine harmless_of_minted hkeys (fun token htoken => ?_) fun u hu =>
    unaltered_of_keepsAccounts ((KeepsAccounts.refl db).of_same hsame) hu
  cases r with
  | error => cases htoken
  | ok body =>
    cases htoken
    exact h body rfl

include hkeys in
theorem harmless_of_migration {r : Except MigrationError ThirdPartyJitRegisterResponse}
    (hkeeps : KeepsAccounts db db')
    (h : ∀ response, r = .ok response → Minted state.jwtKeys response.accessToken (Fresh db)) :
    Harmless state db request (.migration r) db' := by
  refine harmless_of_minted hkeys (fun token htoken => ?_) fun u hu =>
    unaltered_of_keepsAccounts hkeeps hu
  cases r with
  | error => cases htoken
  | ok response =>
    cases htoken
    obtain ⟨claims, hsign, hfresh⟩ := h response rfl
    exact ⟨claims, hsign, fun uid huid u hu hid => absurd hid (hfresh uid huid u hu)⟩

include hkeys in
theorem wp_handle (hrequest : resolvesToAccount state.crates db request = false) :
    (handle state request).wp db fun response db' => Harmless state db request response db' := by
  cases request with
  | registerUser =>
    refine wp_map.2 (wp_mono (Q := fun _ db' => KeepsAccounts db db') ?_ fun r db' h =>
      harmless_of_minted hkeys nofun fun u hu => unaltered_of_keepsAccounts h hu)
    unfold registerUser
    split
    · exact wp_throw.2 (KeepsAccounts.refl db)
    · exact wp_adapt.2
        (wp_mono (wp_createUser _ (KeepsAccounts.refl db)) fun _ _ h => h.1)
  | jitRegisterUser =>
    exact wp_map.2 (wp_mono (wp_jitRegisterUser hrequest) fun _ _ h =>
      harmless_of_migration hkeys h.1 h.2)
  | authToken payload =>
    exact wp_map.2 (wp_mono (wp_and
      (wp_sameAccounts (guarantees_authToken state payload)) (wp_authToken payload)) fun _ _ h =>
      harmless_of_mintedFor hkeys h.1 h.2)
  | authRefresh token =>
    exact wp_map.2 (wp_mono (wp_and
      (wp_sameAccounts (guarantees_authRefresh state token)) (wp_authRefresh token)) fun _ _ h =>
      harmless_of_mintedFor hkeys h.1 h.2)
  | requestPasswordReset identifier =>
    exact wp_map.2 (wp_mono
      (wp_sameAccounts (guarantees_requestPasswordReset state identifier)) fun _ _ h =>
      harmless_of_minted hkeys nofun fun u hu =>
        unaltered_of_keepsAccounts ((KeepsAccounts.refl db).of_same h) hu)
  | confirmPasswordReset req =>
    exact wp_map.2 (wp_mono (wp_confirmPasswordReset req) fun _ _ h =>
      harmless_of_minted hkeys nofun h)

end Requests

/-! ### Runs -/

/-- As long as no migration finds an existing account, no account is harmed. -/
theorem anonymous_requests_harmless (state : AppState)
    (hkeys : ∀ claims token claims', state.jwtKeys.signToken claims = .ok token →
      state.jwtKeys.decodeToken token = .ok claims' → claims'.uid = claims.uid)
    (db : Db) (ls : List Step)
    (hls : (system state).Along (fun db l _ => l.resolvesToAccount state.crates db = false) db ls) :
    (system state).Along (fun db l db' => HarmlessStep state db l db') db ls := by
  refine (system state).along_of_invariant (I := fun _ => True) ?_ trivial hls
  intro db l db' _ hl hstep
  refine ⟨trivial, ?_⟩
  cases l with
  | other => trivial
  | request request o =>
    cases hstep
    exact run_of_wp (wp_handle hkeys hl) o

/-- Keys whose tokens show their type and their user. -/
def sampleKeys : JwtKeys where
  signToken claims := .ok (String.ofList
    ((if claims.tokenType = .refresh then 'r' else 'a') ::
      match claims.uid with
      | none => ['-']
      | some uid => '+' :: uid.toList))
  decodeToken token :=
    match token.toList with
    | [c, '-'] => .ok { tokenType := if c = 'r' then .refresh else .access, jti := "" }
    | c :: '+' :: uid =>
      .ok { uid := some (String.ofList uid)
            tokenType := if c = 'r' then .refresh else .access
            jti := "" }
    | _ => .error .invalidToken

theorem sampleKeys_uid (claims : Claims) (token : String) (claims' : Claims)
    (hsign : sampleKeys.signToken claims = .ok token)
    (hdecode : sampleKeys.decodeToken token = .ok claims') : claims'.uid = claims.uid := by
  cases hsign
  cases huid : claims.uid with
  | none =>
    simp only [sampleKeys, huid, String.toList_ofList] at hdecode
    cases hdecode
    rfl
  | some =>
    simp only [sampleKeys, huid, String.toList_ofList] at hdecode
    cases hdecode
    simp

def sampleState : AppState := ⟨.readable, sampleKeys, 3600, 86400, "multi_session"⟩

def sampleUser : User where
  id := "u"
  username := "ada"
  email := "ada@example.org"
  passwordHash := some "s$Secret#123"

def sampleDb : Db where
  users := .single sampleUser

/-- A login of the user, and the migration of another one. -/
def sampleRun : List Step :=
  [.request (.authToken ⟨"ada", "Secret#123", none, none⟩) fun _ => { uuid := "x" },
    .request (.jitRegisterUser
      ⟨"erp", { externalUserId := "8", username := "bea", email := "bea@example.org" }⟩)
      fun _ => { uuid := "y" }]

theorem anonymous_requests_harmless_sample :
    (system sampleState).Along (fun db l _ => l.resolvesToAccount sampleState.crates db = false)
      sampleDb sampleRun ∧
    (system sampleState).Along (fun db l db' => HarmlessStep sampleState db l db')
      sampleDb sampleRun := by
  have hrun : (system sampleState).Along
      (fun db l _ => l.resolvesToAccount sampleState.crates db = false) sampleDb sampleRun := by
    decide +kernel
  exact ⟨hrun, anonymous_requests_harmless sampleState sampleKeys_uid sampleDb sampleRun hrun⟩

/-- A migration with the name of an existing user and a password of the caller's choice. -/
def takeover : Request :=
  .jitRegisterUser ⟨"erp",
    { externalUserId := "7", username := "ada", email := "ada@example.org"
      password := some "Attack#123" }⟩

/-- The caller gets a token for the user, whose password and mappings are changed. -/
theorem migration_takes_over :
    ¬ (system sampleState).Along (fun db l db' => HarmlessStep sampleState db l db') sampleDb
      [.request takeover fun _ => { salt := "t" }] ∧
    ¬ NotImpersonated sampleState sampleDb takeover sampleUser
      ((handle sampleState takeover).run (fun _ => { salt := "t" }) sampleDb).1 ∧
    ((handle sampleState takeover).run (fun _ => { salt := "t" }) sampleDb).2.users.rows =
      [{ sampleUser with passwordHash := some "t$Attack#123" }] := by
  have himpersonated : ¬ NotImpersonated sampleState sampleDb takeover sampleUser
      ((handle sampleState takeover).run (fun _ => { salt := "t" }) sampleDb).1 := by
    intro h
    obtain ⟨⟨password, hpassword, passwordHash, hhash, hverify⟩ | ⟨token, htoken, -⟩, -⟩ :=
      h "a+u" { uid := some "u", jti := "" } (by decide +kernel) rfl rfl
    · cases hhash
      obtain rfl : password = "Attack#123" := by simpa [takeover, Request.passwords] using hpassword
      revert hverify
      decide +kernel
    · cases htoken
  refine ⟨fun h => himpersonated ?_, himpersonated, by decide +kernel⟩
  exact (h.1 sampleUser (by decide)).1

end Keylo.Anonymous
