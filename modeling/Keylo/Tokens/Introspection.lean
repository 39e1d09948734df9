import Keylo.Tokens.Redemption

/-!
# Introspection and the handlers that tokens are for

`auth_introspect` repeats the checks of the middleware on a token and its principal, but reads
neither the session of a refresh token nor whether the token has been used.

## Main definitions

* `Presentable` : the handler that a token is for accepts it.

## Main results

* `presentable_iff_redeemable` : a token that is reported active is accepted, if it is a refresh
  token only with the rows by which `auth_refresh` exchanges it.
* `revoked_token_reported` : a refresh token that is reported after its session has been revoked.
-/

namespace Keylo.Introspection

open Relational Redemption Blacklist

/-- The handler that the token is for accepts it, where the statements of `auth_refresh` have the
given inputs. The path is open to a user who has to change a temporary password. -/
structure Presentable (state : Anonymous.AppState) (reads : Reads) (inputs : ℕ → Oracle)
    (token : String) (claims : Claims) : Prop where
  access : claims.tokenType = .access →
    authMiddleware (reads.checks state.crates) (some reads.db) "/v1/auth/me" (some token) =
      .ok claims
  refresh : claims.tokenType = .refresh → ∃ body,
    ((Anonymous.authRefresh (reads.state state) token).run.run inputs reads.db).1 = .ok body

variable {checks : TokenChecks} {db : Db} {token : String} {claims : Claims} {allowed : Bool}

theorem active_of_introspect (h : authIntrospect checks (some db) allowed token = some claims) :
    introspectedClaimsAreActive db claims = true := by
  unfold authIntrospect at h
  split_ifs at h
  split at h
  · cases h
  dsimp only at h
  split_ifs at h with hinactive
  cases h
  simp only [Bool.or_eq_true, Bool.not_eq_true', not_or, Bool.not_eq_false] at hinactive
  exact hinactive.2

/-- Introspection checks the principal or the user of a token as the middleware does. -/
theorem ensureClaimPrincipalActive_of_active (htype : claims.tokenType ≠ .customerSupportAccess)
    (h : introspectedClaimsAreActive db claims = true) :
    ensureClaimPrincipalActive db claims = .ok () := by
  simp only [introspectedClaimsAreActive, htype, if_false] at h
  split_ifs at h
  unfold ensureClaimPrincipalActive
  cases hprincipal : claims.principalId with
  | some principalId =>
    simp only [hprincipal, principalClaimIsActive] at h ⊢
    cases hlookup : db.principals.lookup Principal.id principalId with
    | none => simp [hlookup] at h
    | some principal =>
      have hactive : principal.active = true := by
        by_contra hinactive
        simp [hlookup, hinactive] at h
      simp only [Option.filter_some, hactive, if_true]
  | none =>
    simp only [hprincipal, userClaimIsActive] at h ⊢
    split
    · rename_i userId htype huid
      simp only [htype, huid] at h
      cases hlookup : db.users.lookup User.id userId with
      | none => simp [hlookup] at h
      | some user =>
        have hactive : user.active = true := by
          by_contra hinactive
          simp [hlookup, hinactive] at h
        simp only [Option.filter_some, hactive, if_true]
    · rfl

/-- Introspection checks the organization of a token as `auth_refresh` does. -/
theorem organizationClaimIsActive_of_active (htype : claims.tokenType ≠ .customerSupportAccess)
    (h : introspectedClaimsAreActive db claims = true) :
    organizationClaimIsActive db claims = true := by
  simp only [introspectedClaimsAreActive, htype, if_false] at h
  split_ifs at h with hinactive
  simpa using hinactive

variable {state : Anonymous.AppState} {reads : Reads} {inputs : ℕ → Oracle}

/-- An active token is accepted by the handler that it is for, unless it is a refresh token without
the rows by which it is exchanged. -/
theorem presentable_iff_redeemable
    (hsigns : ∀ claims, ∃ text, state.jwtKeys.signToken claims = .ok text)
    (hinputs : ∀ n, Undisturbed state reads.db (inputs n))
    (h : authIntrospect (reads.checks state.crates) (some reads.db) allowed token = some claims) :
    Presentable state reads inputs token claims ↔
      (claims.tokenType = .refresh → Redeemable state.crates reads.db token claims) := by
  obtain ⟨hdecode, hlisted⟩ := Blacklist.decodes_of_authIntrospect h
  have hactive := active_of_introspect h
  have hrefresh (htype : claims.tokenType = .refresh) :=
    @authRefresh_ok_iff (reads.state state) _ _ _ hsigns hdecode htype
      (organizationClaimIsActive_of_active (by simp [htype]) hactive) inputs fun n =>
      ⟨(hinputs n).1, (hinputs n).2.session, (hinputs n).2.tokenId, (hinputs n).2.tokenHash⟩
  refine ⟨fun hpresentable htype => (hrefresh htype).1 (hpresentable.refresh htype),
    fun hredeemable => ⟨fun haccess => ?_, fun htype => (hrefresh htype).2 (hredeemable htype)⟩⟩
  simp [authMiddleware, hdecode, haccess, checkToken, hlisted, passwordChangeAllowedPath,
    ensureClaimPrincipalActive_of_active (by simp [haccess]) hactive]

/-- The claims of the token `refresh`. -/
def refreshClaims : Claims :=
  { tokenType := .refresh, aud := "admin-backend", exp := 100, jti := "r" }

/-- The token of a session that is not revoked. -/
theorem presentable_iff_redeemable_session :
    Presentable sampleState (Reads.at sampleDb) (fun _ => { uuid := "x" }) "refresh"
      refreshClaims := by
  refine (@presentable_iff_redeemable _ _ true _ _ _ (fun claims => ⟨claims.jti, rfl⟩)
    (fun _ => ⟨⟨rfl, rfl⟩, ?_, ?_, ?_⟩) (by decide +kernel)).2 fun _ =>
    .inl ⟨rfl, by rintro _ ⟨⟩, ⟨by decide, by decide⟩, ⟨rfl, rfl, rfl⟩, _, rfl, rfl, rfl⟩
  · rintro row hrow
    cases Table.mem_single.1 hrow
    decide
  · rintro row hrow
    cases Table.mem_single.1 hrow
    decide
  · rintro claims _ hjti ⟨⟩ row hrow
    cases Table.mem_single.1 hrow
    rw [hjti]
    decide

/-- After a logout the token is reported active, and `auth_refresh` rejects it. -/
theorem revoked_token_reported :
    let db := (revokeRefreshSessionByToken .readable sampleDb "refresh" (some "user_logout")).2
    authIntrospect ((Reads.at db).checks .readable) (some db) true "refresh" = some refreshClaims ∧
      ((Anonymous.authRefresh ((Reads.at db).state sampleState) "refresh").run.run
        (fun _ => { uuid := "x" }) db).1 = .error .invalidToken ∧
      ¬ Presentable sampleState (Reads.at db) (fun _ => { uuid := "x" }) "refresh"
        refreshClaims := by
  intro db
  have hrejected : ((Anonymous.authRefresh ((Reads.at db).state sampleState) "refresh").run.run
      (fun _ => { uuid := "x" }) db).1 = .error .invalidToken := by decide +kernel
  refine ⟨by decide +kernel, hrejected, fun hpresentable => ?_⟩
  obtain ⟨body, hbody⟩ := hpresentable.refresh rfl
  cases hrejected.symm.trans hbody

end Keylo.Introspection
