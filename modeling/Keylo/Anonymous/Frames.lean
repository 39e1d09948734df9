import Keylo.Anonymous.Handlers
import Keylo.Import

/-!
# Handlers that keep accounts

Logins, refreshes and requests of reset tokens write sessions, principals and tokens. Whatever they
do, and wherever they fail, the tables of accounts, mappings and roles stay as they are.

## Main definitions

* `SameAccounts` : the tables of accounts, mappings and roles are the same.

## Main results

* `guarantees_authToken`, `guarantees_authRefresh`, `guarantees_requestPasswordReset`.
-/

namespace Keylo.Anonymous

open Relational Handler
open Program (guarantees_pure)

/-! ### Parts of handlers that only read

They guarantee whatever holds when time passes. -/

section Reads

/-- The relation allows principals to be mirrored as well. -/
class Mirrors (G : Db → Db → Prop) : Prop extends Ticks G where
  mirror (db : Db) (n : ℕ) (t : PrincipalType) (refId displayName : String) (active : Bool) :
    G db (upsertPrincipal (db.tick n) t refId displayName active)

variable {G : Db → Db → Prop} (state : AppState)

theorem guarantees_sign (claims : Claims) : (sign state claims).run.Guarantees G := by
  unfold sign
  split <;> exact guarantees_pure _

theorem guarantees_ensurePrincipal [Mirrors G] (t : PrincipalType) (refId : String) :
    (Handler.ensurePrincipal t refId).run.Guarantees G := by
  refine .bindExcept guarantees_fetch fun owner => ?_
  cases owner with
  | none => exact guarantees_pure _
  | some owner =>
    refine .bindExcept (guarantees_atomically ?_) fun _ => guarantees_pure _
    rintro _ db n _ _ ⟨⟩
    exact Mirrors.mirror db n t refId owner.1 owner.2

variable [Ticks G]

theorem guarantees_isUserAdmin (userId : String) : (isUserAdmin userId).Guarantees G := by
  refine .bind guarantees_fetch fun r => ?_
  cases r <;> exact guarantees_pure _

theorem guarantees_enforcePasswordLoginLimits : enforcePasswordLoginLimits.run.Guarantees G := by
  refine .bindExcept (.liftExcept guarantees_consult) fun _ => ?_
  split
  · exact guarantees_pure _
  refine .bindExcept (.liftExcept guarantees_consult) fun _ => ?_
  split
  · exact guarantees_pure _
  · refine .bindExcept (.liftExcept guarantees_consult) fun _ => ?_
    split <;> exact guarantees_pure _

theorem guarantees_resolveRequestedOrganizationSessionScope (organizationId : Option String)
    (principal : Principal) :
    (resolveRequestedOrganizationSessionScope organizationId principal).run.Guarantees G := by
  unfold resolveRequestedOrganizationSessionScope
  split
  · exact guarantees_pure _
  split
  · exact guarantees_pure _
  · refine .bindExcept (.adapt guarantees_fetch) fun membership => ?_
    cases membership <;> exact guarantees_pure _

omit [Ticks G] in
theorem guarantees_mintMigratedToken [Mirrors G] (provider : String) (keys : JwtKeys)
    (expirySeconds : Int) (result : Import.ThirdPartyUserImportResultItem) :
    (Import.mintMigratedToken provider keys expirySeconds result).run.Guarantees G := by
  unfold Import.mintMigratedToken
  split
  · exact guarantees_pure _
  refine .bindExcept (.adapt guarantees_fetch) fun found => ?_
  cases found with
  | none => exact guarantees_pure _
  | some user =>
    refine .bindExcept (.liftExcept (guarantees_isUserAdmin user.id)) fun _ =>
      .bindExcept (.adapt (guarantees_ensurePrincipal .user user.id)) fun _ =>
      .bindExcept (.liftExcept guarantees_now) fun _ =>
      .bindExcept (.liftExcept guarantees_draw) fun _ => ?_
    split <;> exact guarantees_pure _

theorem guarantees_accessClaimsForPrincipal (principal : Principal) (time : Int) (jti : String) :
    (accessClaimsForPrincipal state principal time jti).run.Guarantees G := by
  unfold accessClaimsForPrincipal
  split
  · refine .bindExcept (.adapt guarantees_fetch) fun _ => ?_
    split
    · exact guarantees_pure _
    · exact .bindExcept (.liftExcept (guarantees_isUserAdmin _)) fun _ => guarantees_pure _
  · refine .bindExcept (.attempt guarantees_fetch) fun _ => ?_
    split <;> exact guarantees_pure _
  · exact guarantees_pure _

theorem guarantees_refreshedBody (claims : Claims) (session : ConsumedRefreshSession)
    (token : String) (time : Int) (jti : String) :
    (refreshedBody state claims session token time jti).run.Guarantees G := by
  refine .bindExcept (.adapt guarantees_fetch) fun _ => ?_
  split
  · exact guarantees_pure _
  · exact .bindExcept (guarantees_accessClaimsForPrincipal state _ time jti) fun _ =>
      .bindExcept (guarantees_sign state _) fun _ => guarantees_pure _

omit [Ticks G] in
theorem guarantees_migratedSession [Mirrors G] (clientId : String) (time : Int)
    (accessJti jti : String) :
    (migratedSession state clientId time accessJti jti).run.Guarantees G := by
  refine .bindExcept (.adapt (guarantees_ensurePrincipal .client clientId)) fun principal => ?_
  cases principal with
  | none => exact guarantees_pure _
  | some =>
    exact .bindExcept (guarantees_accessClaimsForPrincipal state _ _ _) fun _ =>
      .bindExcept (guarantees_sign state _) fun _ =>
      .bindExcept (guarantees_sign state _) fun _ =>
      .bindExcept (.liftExcept guarantees_draw) fun _ =>
      guarantees_pure _

end Reads

/-! ### Statements that keep accounts -/

/-- All tables of accounts, mappings and roles are the same. -/
structure SameAccounts (db db' : Db) : Prop where
  users : db'.users = db.users
  externalUserMappings : db'.externalUserMappings = db.externalUserMappings
  userRoles : db'.userRoles = db.userRoles
  principalRoles : db'.principalRoles = db.principalRoles
  roleBindings : db'.roleBindings = db.roleBindings

instance : Mirrors SameAccounts where
  tick _ _ := ⟨rfl, rfl, rfl, rfl, rfl⟩
  mirror _ _ _ _ _ _ := ⟨rfl, rfl, rfl, rfl, rfl⟩

theorem guarantees_sameAccounts {α : Type} {f : Oracle → Db → Except String (α × Db)}
    (hf : ∀ o db a db', f o db = .ok (a, db') → SameAccounts db db') :
    (atomically f).run.Guarantees SameAccounts :=
  guarantees_atomically fun o db n a db' h =>
    let same := hf o (db.tick n) a db' h
    ⟨same.users, same.externalUserMappings, same.userRoles, same.principalRoles, same.roleBindings⟩

theorem guarantees_createRefreshSession (crates : Crates)
    (params : CreateRefreshSessionParams) :
    (atomically fun _ db => createRefreshSession crates db params).run.Guarantees
      SameAccounts := by
  refine guarantees_sameAccounts fun _ db _ db' h => ?_
  obtain ⟨-, sessions, tokens, -, -, rfl⟩ := createRefreshSession_eq_ok h
  exact ⟨rfl, rfl, rfl, rfl, rfl⟩

/-! ### Login -/

section Login

variable (state : AppState)

theorem guarantees_prepareSession (payload : AuthPayload) (principal : Option Principal) :
    (prepareSession state payload principal).run.Guarantees SameAccounts := by
  cases principal with
  | none =>
    dsimp only [prepareSession]
    split <;> exact guarantees_pure _
  | some principal =>
    refine .bindExcept ?_ fun _ => .bindExcept ?_ fun _ => guarantees_pure _
    · exact guarantees_resolveRequestedOrganizationSessionScope _ principal
    · unfold enforceRefreshSessionPolicy
      split
      · exact guarantees_pure _
      refine .bindExcept (.adapt guarantees_fetch) fun _ => ?_
      split
      · exact guarantees_pure _
      split
      · exact guarantees_pure _
      refine .adapt (guarantees_sameAccounts ?_)
      rintro _ _ _ _ ⟨⟩
      exact ⟨rfl, rfl, rfl, rfl, rfl⟩

theorem guarantees_storeSession (payload : AuthPayload) (organizationId : Option String)
    (refreshToken accessJti : String) (claims : Claims) (principal : Option Principal) :
    (storeSession state payload organizationId refreshToken accessJti claims
      principal).run.Guarantees SameAccounts := by
  cases principal with
  | none => exact guarantees_pure _
  | some =>
    exact .bindExcept (.liftExcept guarantees_draw) fun _ =>
      .adapt (guarantees_createRefreshSession state.crates _)

theorem guarantees_issueTokens (payload : AuthPayload) (user : User) :
    (issueTokens state payload user).run.Guarantees SameAccounts :=
  .bindExcept (.liftExcept guarantees_now) fun _ =>
  .bindExcept (.liftExcept (guarantees_isUserAdmin user.id)) fun _ =>
  .bindExcept (.adapt (guarantees_ensurePrincipal .user user.id)) fun principal =>
  .bindExcept (guarantees_prepareSession state payload principal) fun _ =>
  .bindExcept (.liftExcept guarantees_draw) fun _ =>
  .bindExcept (guarantees_sign state _) fun _ =>
  .bindExcept (.liftExcept guarantees_draw) fun _ =>
  .bindExcept (guarantees_sign state _) fun _ =>
  .bindExcept (guarantees_storeSession state payload _ _ _ _ principal) fun _ => guarantees_pure _

theorem guarantees_authToken (payload : AuthPayload) :
    (authToken state payload).run.Guarantees SameAccounts := by
  unfold authToken
  split
  · exact guarantees_pure _
  refine .bindExcept guarantees_enforcePasswordLoginLimits fun _ =>
    .bindExcept (.adapt guarantees_fetch) fun found => ?_
  split
  · exact guarantees_pure _
  · exact guarantees_pure _
  · exact guarantees_issueTokens state payload _

end Login

/-! ### Refresh -/

section Refresh

variable (state : AppState)

theorem guarantees_checkRefreshOrganization (refreshToken : String) (claims : Claims) :
    (checkRefreshOrganization state refreshToken claims).run.Guarantees SameAccounts := by
  unfold checkRefreshOrganization
  split
  · exact guarantees_pure _
  split
  · exact guarantees_pure _
  split
  · exact guarantees_pure _
  refine .bindExcept (.adapt guarantees_fetch) fun membership => ?_
  split
  · exact guarantees_pure _
  refine .bindExcept (.attempt (guarantees_sameAccounts ?_)) fun _ => guarantees_pure _
  intro _ db _ db' h
  unfold revokeRefreshSessionByToken at h
  split at h <;> cases h <;> exact ⟨rfl, rfl, rfl, rfl, rfl⟩

theorem guarantees_migrateRefreshToken (token : String) (time : Int) (accessJti jti : String) :
    (migrateRefreshToken state token time accessJti jti).run.Guarantees SameAccounts := by
  refine .bindExcept (.attempt (guarantees_sameAccounts ?_)) fun _ => ?_
  · rintro _ _ _ _ ⟨⟩
    exact ⟨rfl, rfl, rfl, rfl, rfl⟩
  · split
    · exact .bindExcept (guarantees_migratedSession state _ _ _ _) fun _ =>
        .bindExcept (.adapt (guarantees_createRefreshSession state.crates _)) fun _ =>
        guarantees_pure _
    · exact guarantees_pure _

theorem sameAccounts_consumeAndRotateRefreshSession {crates : Crates} {db db' : Db}
    {token : String} {organizationId : Option String} {new : Replacement}
    {result : ConsumeRefreshSessionResult}
    (h : consumeAndRotateRefreshSession crates db token organizationId new = .ok (result, db')) :
    SameAccounts db db' := by
  unfold consumeAndRotateRefreshSession at h
  split at h
  · cases h
    exact ⟨rfl, rfl, rfl, rfl, rfl⟩
  split_ifs at h
  · cases h
    exact ⟨rfl, rfl, rfl, rfl, rfl⟩
  · cases h
    exact ⟨rfl, rfl, rfl, rfl, rfl⟩
  unfold consumeLocked at h
  split_ifs at h
  · cases h
    exact ⟨rfl, rfl, rfl, rfl, rfl⟩
  · cases h
    exact ⟨rfl, rfl, rfl, rfl, rfl⟩
  · obtain ⟨-, tokens, -, rfl⟩ := rotate_eq_ok h
    exact ⟨rfl, rfl, rfl, rfl, rfl⟩

theorem guarantees_rotateRefreshToken (token : String) (claims : Claims) :
    (rotateRefreshToken state token claims).run.Guarantees SameAccounts := by
  refine .bindExcept (.liftExcept guarantees_now) fun time =>
    .bindExcept (.liftExcept guarantees_draw) fun _ =>
    .bindExcept (.liftExcept guarantees_draw) fun _ =>
    .bindExcept (guarantees_sign state _) fun _ =>
    .bindExcept (.adapt (guarantees_sameAccounts fun _ _ _ _ h =>
      sameAccounts_consumeAndRotateRefreshSession h)) fun result => ?_
  cases result with
  | consumed session => exact guarantees_refreshedBody state claims session _ _ _
  | replayed | organizationScopeMismatch | organizationContextInactive => exact guarantees_pure _
  | notFound =>
    dsimp only
    split
    · exact guarantees_pure _
    · exact guarantees_migrateRefreshToken state token _ _ _

theorem guarantees_authRefresh (token : String) :
    (authRefresh state token).run.Guarantees SameAccounts := by
  unfold authRefresh
  split
  · exact guarantees_pure _
  split
  · exact guarantees_pure _
  · exact .bindExcept (guarantees_checkRefreshOrganization state token _) fun _ =>
      guarantees_rotateRefreshToken state token _

end Refresh

/-! ### Reset tokens -/

theorem guarantees_requestPasswordReset (state : AppState) (identifier : String) :
    (requestPasswordReset state identifier).run.Guarantees SameAccounts := by
  refine .bindExcept (.liftExcept guarantees_consult) fun _ => ?_
  split
  · exact guarantees_pure _
  split
  · exact guarantees_pure _
  refine .bindExcept (.adapt (guarantees_sameAccounts ?_)) fun issued => ?_
  · intro _ db _ db' h
    unfold issuePasswordResetToken at h
    split at h
    · cases h
      exact ⟨rfl, rfl, rfl, rfl, rfl⟩
    obtain ⟨⟨issued, db₁⟩, hinsert, heq⟩ := map_eq_ok.1 h
    obtain ⟨tokens, -, -, rfl⟩ := insertResetToken_eq_ok hinsert
    cases heq
    exact ⟨rfl, rfl, rfl, rfl, rfl⟩
  · cases issued with
    | none => exact guarantees_pure _
    | some =>
      refine .bindExcept (.liftExcept guarantees_consult) fun _ => ?_
      split
      · exact guarantees_pure _
      refine .bindExcept (.attempt (guarantees_sameAccounts ?_)) fun _ => guarantees_pure _
      rintro _ _ _ _ ⟨⟩
      exact ⟨rfl, rfl, rfl, rfl, rfl⟩

end Keylo.Anonymous
