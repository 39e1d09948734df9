import Keylo.Anonymous.Frames

/-!
# Anonymous requests and existing accounts

What the requests without a bearer token can do to accounts that exist already, and what the
migration of a user at login does if it finds no account for the user: it creates one, and leaves
all others as they are.

## Main definitions

* `Request`, `handle` : the public endpoints.
* `Harmless` : the accounts are safe from a request.
* `resolvesToAccount` : the migrations that find an existing account.
* `KeepsAccounts` : the invariant of a request that is being handled.

## Main results

* `wp_jitRegisterUser` : a migration that finds no account returns a token for a new one.
-/

namespace Keylo.Anonymous

open Relational Handler Import Program Table

/-! ### Requests -/

/-- The requests that need no token. -/
inductive Request
  | registerUser (req : CreateUserRequest)
  | jitRegisterUser (req : ThirdPartyJitRegisterRequest)
  | authToken (payload : AuthPayload)
  | authRefresh (refreshToken : String)
  | requestPasswordReset (identifier : String)
  | confirmPasswordReset (request : PasswordResetConfirmRequest)

inductive Response
  | registration (result : Except ApiError User)
  | migration (result : Except MigrationError ThirdPartyJitRegisterResponse)
  | tokens (result : Except AuthError AuthBody)
  | reset (result : Except ResetError Unit)

/-- The access token of a response. -/
def Response.accessToken : Response → Option String
  | .migration (.ok response) => some response.accessToken
  | .tokens (.ok body) => some body.accessToken
  | _ => none

/-- The passwords that a request carries. -/
def Request.passwords : Request → List String
  | .registerUser req => req.password.toList
  | .jitRegisterUser req => req.item.password.toList
  | .authToken payload => [payload.clientSecret]
  | .confirmPasswordReset request => [request.newPassword]
  | .authRefresh _ | .requestPasswordReset _ => []

def handle (state : AppState) : Request → Statements Response
  | .registerUser req => .registration <$> (registerUser state req).run
  | .jitRegisterUser req =>
    .migration <$> (jitRegisterUser state.crates state.jwtKeys state.tokenExpirySeconds req).run
  | .authToken payload => .tokens <$> (authToken state payload).run
  | .authRefresh refreshToken => .tokens <$> (authRefresh state refreshToken).run
  | .requestPasswordReset identifier => .reset <$> (requestPasswordReset state identifier).run
  | .confirmPasswordReset request => .reset <$> (confirmPasswordReset state request).run

/-! ### What accounts are safe from -/

/-- The external mappings and the role assignments of the user are the same. -/
structure SameLinks (userId : String) (db db' : Db) : Prop where
  mappings : ∀ m : ExternalUserMapping, m.userId = userId →
    (m ∈ db'.externalUserMappings ↔ m ∈ db.externalUserMappings)
  userRoles : ∀ r, ⟨userId, r⟩ ∈ db'.userRoles ↔ ⟨userId, r⟩ ∈ db.userRoles
  principalRoles : ∀ r, ⟨principalId .user userId, r⟩ ∈ db'.principalRoles ↔
    ⟨principalId .user userId, r⟩ ∈ db.principalRoles
  roleBindings : ∀ b : RoleBinding, b.principalId = principalId .user userId →
    (b ∈ db'.roleBindings ↔ b ∈ db.roleBindings)

/-- The request consumes a live reset token of the user. -/
def ConsumesResetToken (crates : Crates) (db : Db) (request : Request) (userId : String)
    (db' : Db) : Prop :=
  ∃ req, request = .confirmPasswordReset req ∧ LiveResetToken crates db (trim req.token) userId ∧
    ¬ LiveResetToken crates db' (trim req.token) userId

/-- The account is the same after the request, up to a password replaced by a reset token. -/
structure Unaltered (crates : Crates) (db : Db) (request : Request) (u : User) (db' : Db) :
    Prop where
  account : ∃ u' ∈ db'.users, u'.id = u.id ∧ u'.username = u.username ∧ u'.email = u.email ∧
    u'.active = u.active ∧
    (u'.passwordHash = u.passwordHash ∨ ConsumesResetToken crates db request u.id db')
  links : SameLinks u.id db db'

/-- The request carries the current password of the user. -/
def CarriesPassword (crates : Crates) (request : Request) (u : User) : Prop :=
  ∃ password ∈ request.passwords, ∃ passwordHash, u.passwordHash = some passwordHash ∧
    crates.bcryptVerify password passwordHash = some true

/-- The request carries a live refresh token of a session of the user. -/
def CarriesRefreshToken (crates : Crates) (db : Db) (request : Request) (userId : String) : Prop :=
  ∃ token, request = .authRefresh token ∧
    LiveRefreshToken crates db token (principalId .user userId)

/-- An access token for the user is only returned to a holder of its credentials, and only if the
user is active. -/
def NotImpersonated (state : AppState) (db : Db) (request : Request) (u : User)
    (response : Response) : Prop :=
  ∀ token claims, response.accessToken = some token →
    state.jwtKeys.decodeToken token = .ok claims → claims.uid = some u.id →
    (CarriesPassword state.crates request u ∨ CarriesRefreshToken state.crates db request u.id) ∧
      u.active = true

/-- Every existing account is safe from the request. -/
def Harmless (state : AppState) (db : Db) (request : Request) (response : Response) (db' : Db) :
    Prop :=
  ∀ u ∈ db.users, NotImpersonated state db request u response ∧
    Unaltered state.crates db request u db'

/-! ### Runs -/

/-- A request with the inputs of its statements, or any other change of the database. -/
inductive Step
  | request (request : Request) (o : ℕ → Oracle)
  | other (db : Db)

/-- Requests on their own, and anything else that happens to the database. -/
def system (state : AppState) : Transition.System Db Step where
  step db
    | .request request o => some ((handle state request).run o db).2
    | .other db' => some db'

/-- Every existing account is safe from the step. -/
def HarmlessStep (state : AppState) (db : Db) : Step → Db → Prop
  | .request request o, db' =>
    Harmless state db request ((handle state request).run o db).1 db'
  | .other _, _ => True

variable (crates : Crates) (db : Db)

/-- The item belongs to an existing account, by its mapping, its email or its username. -/
def existingAccount (provider : String) (item : ThirdPartyUserImportItem) : Bool :=
  match getMappedUserId crates db provider item.externalUserId with
  | some userId => (db.users.lookup User.id userId).isSome
  | none =>
    (db.users.lookup User.email item.email).isSome ||
      (db.users.lookup User.username item.username).isSome

/-- The request is a migration that passes the checks of its fields and finds an existing
account. -/
def resolvesToAccount : Request → Bool
  | .jitRegisterUser req =>
    match normalizedProvider crates req.provider, validateItem (trimItem req.item) with
    | .ok provider, .ok () => existingAccount crates db provider (trimItem req.item)
    | _, _ => false
  | _ => false

def Step.resolvesToAccount : Step → Bool
  | .request r _ => Anonymous.resolvesToAccount crates db r
  | .other _ => false

/-! ### Accounts that are kept -/

/-- The accounts of `db₀` are still there in `db`, with their mappings and roles. -/
def KeepsAccounts (db₀ db : Db) : Prop := ∀ u ∈ db₀.users, u ∈ db.users ∧ SameLinks u.id db₀ db

/-- The identifier is the one of no account of `db₀`. -/
def Fresh (db₀ : Db) (id : String) : Prop := ∀ u ∈ db₀.users, u.id ≠ id

variable {crates : Crates} {db₀ db db' : Db} {salt id provider : String} {user : User}

theorem KeepsAccounts.refl (db : Db) : KeepsAccounts db db := fun _ hu =>
  ⟨hu, fun _ _ => Iff.rfl, fun _ => Iff.rfl, fun _ => Iff.rfl, fun _ _ => Iff.rfl⟩

section Keeps

variable (h : KeepsAccounts db₀ db)

include h

theorem KeepsAccounts.of_same (same : SameAccounts db db') : KeepsAccounts db₀ db' := by
  intro u hu
  obtain ⟨hmem, hlinks⟩ := h u hu
  refine ⟨same.users ▸ hmem, ?_, ?_, ?_, ?_⟩
  · exact same.externalUserMappings ▸ hlinks.mappings
  · exact same.userRoles ▸ hlinks.userRoles
  · exact same.principalRoles ▸ hlinks.principalRoles
  · exact same.roleBindings ▸ hlinks.roleBindings

theorem KeepsAccounts.tick (n : Nat) : KeepsAccounts db₀ (db.tick n) :=
  h.of_same (Ticks.tick db n)

theorem KeepsAccounts.insertUser {new : NewUser}
    (hins : insertUser crates db salt id new = .ok (user, db')) :
    KeepsAccounts db₀ db' ∧ Fresh db₀ user.id := by
  obtain ⟨-, -, -, -, users, hinsert, rfl⟩ := insertUser_eq_ok hins
  constructor
  · intro u hu
    obtain ⟨hmem, hlinks⟩ := h u hu
    exact ⟨(mem_of_insert_eq_some hinsert).2 (.inr hmem), hlinks.mappings, hlinks.userRoles,
      hlinks.principalRoles, hlinks.roleBindings⟩
  · intro u hu hid
    have hclash := exists_insert_iff.1 ⟨users, hinsert⟩ u (h u hu).1
    rw [show clash user u = true from IsKey.clash_of_eq hid.symm] at hclash
    cases hclash

theorem KeepsAccounts.setUserActive (hfresh : Fresh db₀ id) (active : Bool) :
    KeepsAccounts db₀ (Keylo.setUserActive db id active) := by
  have hupdate : KeepsAccounts db₀
      { db with users := db.users.update (fun u => u.id == id) (setActive active) } := by
    intro u hu
    obtain ⟨hmem, hlinks⟩ := h u hu
    refine ⟨mem_update.2 ⟨u, hmem, by simp [hfresh u hu]⟩, hlinks.mappings,
      hlinks.userRoles, hlinks.principalRoles, hlinks.roleBindings⟩
  unfold Keylo.setUserActive
  split
  · exact h
  dsimp only
  split
  · exact hupdate
  · exact hupdate.of_same ⟨rfl, rfl, rfl, rfl, rfl⟩

/-- A mapping to a new account replaces none of an existing account. -/
theorem KeepsAccounts.upsertExternalUserMapping {externalUserId : String} (hfresh : Fresh db₀ id)
    (hmapped : ∀ u ∈ db₀.users, getMappedUserId crates db₀ provider externalUserId ≠ some u.id) :
    KeepsAccounts db₀ (upsertExternalUserMapping crates db provider externalUserId id) := by
  intro u hu
  obtain ⟨hmem, hlinks⟩ := h u hu
  refine ⟨hmem, fun m hm => ?_, hlinks.userRoles, hlinks.principalRoles, hlinks.roleBindings⟩
  rw [mem_upsertExternalUserMapping, ← hlinks.mappings m hm]
  have hnew : m ≠ ⟨provider, externalSubjectHash crates externalUserId, id⟩ := by
    rintro rfl
    exact hfresh u hu hm.symm
  have hold : m ∈ db.externalUserMappings →
      m.subject ≠ (provider, externalSubjectHash crates externalUserId) := by
    intro hmem hkey
    refine hmapped u hu ?_
    rw [getMappedUserId, ← hkey,
      lookup_eq_some_iff.2 ⟨(hlinks.mappings m hm).1 hmem, rfl⟩, Option.map_some, hm]
  simpa [hnew] using hold

theorem KeepsAccounts.assignRolesToUser {roleIds : List String} (hfresh : Fresh db₀ id)
    (hassign : assignRolesToUser db id roleIds = .ok db') : KeepsAccounts db₀ db' := by
  obtain ⟨-, -, -, -, rfl⟩ := assignRolesToUser_eq_ok hassign
  obtain ⟨userRoles, principalRoles, hfold, huser, hprincipal⟩ := foldl_insertRole db id roleIds
  rw [hfold]
  intro u hu
  obtain ⟨hmem, hlinks⟩ := h u hu
  refine ⟨hmem, hlinks.mappings, fun r => ?_, fun r => ?_, hlinks.roleBindings⟩
  · rw [← hlinks.userRoles r, huser]
    simp [hfresh u hu]
  · rw [← hlinks.principalRoles r, hprincipal]
    simp [principalId_inj, hfresh u hu]

end Keeps

/-! ### Programs on new accounts -/

/-- A statement that keeps the accounts of `db₀`, if the ones before it have. -/
def Keeps (db₀ db db' : Db) : Prop := KeepsAccounts db₀ db → KeepsAccounts db₀ db'

instance : Ticks (Keeps db₀) := ⟨fun _ n hdb => hdb.tick n⟩

variable {α : Type} {x : Statements α}

theorem guarantees_keeps (h : x.Guarantees SameAccounts) : x.Guarantees (Keeps db₀) :=
  h.mono fun _ _ same hkeeps => hkeeps.of_same same

theorem guarantees_atomically_keeps {f : Oracle → Db → Except String (α × Db)}
    (hf : ∀ o db a db', f o db = .ok (a, db') → KeepsAccounts db₀ db → KeepsAccounts db₀ db') :
    (atomically f).run.Guarantees (Keeps db₀) :=
  guarantees_atomically fun o _ n a db' h hdb =>
    hf o _ a db' h (hdb.tick n)

theorem wp_keeps (h : x.Guarantees (Keeps db₀)) (hdb : KeepsAccounts db₀ db) :
    x.wp db fun _ db' => KeepsAccounts db₀ db' :=
  wp_mono (h.wp (fun _ => id) fun _ _ _ h₁ h₂ => h₂ ∘ h₁) fun _ _ hkeeps => hkeeps hdb

/-- A new account has an id that no account had before. -/
theorem wp_createUser (new : NewUser) (hdb : KeepsAccounts db₀ db) :
    (createUser crates new).run.wp db fun r db' =>
      KeepsAccounts db₀ db' ∧ ∀ user, r = .ok user → Fresh db₀ user.id := by
  refine wp_bindExcept.2 (wp_atomically_of (fun e n => ⟨hdb.tick n, nofun⟩) ?_)
  intro o n user db₁ hins
  obtain ⟨hdb₁, hfresh⟩ := (hdb.tick n).insertUser hins
  refine wp_bindExcept.2 (wp_mono
    (wp_keeps (guarantees_keeps (guarantees_ensurePrincipal .user user.id)) hdb₁) ?_)
  intro r db' hdb'
  cases r with
  | error => exact ⟨hdb', nofun⟩
  | ok =>
    refine wp_okExcept.2 ⟨hdb', fun user' huser' => ?_⟩
    cases huser'
    exact hfresh

theorem guarantees_setUserActive (hfresh : Fresh db₀ id) (active : Bool) :
    (Handler.setUserActive id active).run.Guarantees (Keeps db₀) :=
  guarantees_atomically_keeps fun _ _ _ _ h hdb => by
    cases h
    exact hdb.setUserActive hfresh active

theorem guarantees_assignRoleToUser (hfresh : Fresh db₀ id) (roleId : String) :
    (assignRoleToUser id roleId).run.Guarantees (Keeps db₀) := by
  refine .bindExcept (guarantees_keeps (guarantees_ensurePrincipal .user id))
    fun principal => ?_
  cases principal with
  | none => exact guarantees_pure _
  | some =>
    dsimp only
    split
    · exact guarantees_pure _
    refine guarantees_atomically_keeps fun _ db _ db' h hdb => ?_
    split at h
    · cases h
    rename_i hassign
    cases h
    exact hdb.assignRolesToUser hfresh hassign

/-- A result that names an account names a new one. -/
def FreshResult (db₀ : Db) (result : ThirdPartyUserImportResultItem) : Prop :=
  ∀ id, result.userId = some id → Fresh db₀ id

theorem freshResult_failed (externalUserId : String) (code : MigrationErrorCode)
    (message : String) : FreshResult db₀ (failedResult externalUserId none code message) := nofun

theorem guarantees_assignRoles (hfresh : Fresh db₀ id) (externalUserId : String)
    (roleNames : List String) :
    (assignRoles externalUserId id roleNames).run.Guarantees (Keeps db₀) := by
  induction roleNames with
  | nil => exact guarantees_pure _
  | cons roleName roleNames ih =>
    refine .bindExcept (.adapt (guarantees_keeps guarantees_fetch)) ?_
    intro role
    cases role with
    | none => exact guarantees_pure _
    | some role =>
      exact .bindExcept (.adapt (guarantees_assignRoleToUser hfresh role.id)) fun _ => ih

/-- A role that cannot be assigned is reported for the account. -/
theorem wp_assignRoles (externalUserId : String) (roleNames : List String) (db : Db) :
    (assignRoles externalUserId id roleNames).run.wp db fun r _ =>
      ∀ failure, r = .error failure → failure.userId = some id := by
  have hadapt : ∀ {α : Type} (x : DbM String α) (code : MigrationErrorCode) (message : String) db,
      (ExceptT.adapt (fun e => failedResult externalUserId (some id) code (message ++ e))
        x).run.wp db fun r _ => ∀ failure, r = .error failure → failure.userId = some id := by
    intro α x code message db
    refine wp_adapt.2 (wp_of_forall _ fun r _ failure hr => ?_)
    cases r <;> cases hr
    rfl
  induction roleNames generalizing db with
  | nil => exact wp_okExcept.2 nofun
  | cons roleName roleNames ih =>
    refine wp_bindExcept.2 (wp_mono (hadapt _ _ _ db) fun r db hr => ?_)
    rcases r with failure | (_ | role)
    · rintro _ ⟨⟩
      exact hr failure rfl
    · refine wp_throw.2 ?_
      rintro _ ⟨⟩
      rfl
    · refine wp_bindExcept.2 (wp_mono (hadapt _ _ _ db) fun r db hr => ?_)
      cases r with
      | error failure =>
        rintro _ ⟨⟩
        exact hr failure rfl
      | ok => exact ih db

/-! ### Migrations without an existing account -/

/-- An item is resolved to a new account, or fails without naming an old one. -/
def FreshResolution (db₀ : Db) : Except ThirdPartyUserImportResultItem Resolved → Prop
  | .ok resolved => Fresh db₀ resolved.user.id
  | .error failure => FreshResult db₀ failure

variable {item : ThirdPartyUserImportItem}

theorem wp_createImportedUser (message : String) (hdb : KeepsAccounts db₀ db) :
    (createImportedUser crates item message).run.wp db fun r db' =>
      KeepsAccounts db₀ db' ∧ FreshResolution db₀ r := by
  refine wp_bindExcept.2 (wp_adapt.2
    (wp_mono (wp_createUser _ hdb) fun r db₁ hr => ?_))
  cases r with
  | error => exact ⟨hr.1, freshResult_failed _ _ _⟩
  | ok user =>
    have hfresh : Fresh db₀ user.id := hr.2 user rfl
    dsimp only [Except.mapError]
    split
    · refine wp_bindExcept.2 (wp_attempt.2 (wp_mono
        (wp_keeps (guarantees_setUserActive hfresh false) hr.1) fun _ db' hdb' => ?_))
      exact wp_okExcept.2 ⟨hdb', hfresh⟩
    · exact wp_okExcept.2 ⟨hr.1, hfresh⟩

section Item

variable (hitem : existingAccount crates db₀ provider item = false)

include hitem

theorem wp_resolveUser :
    (resolveUser crates provider item).run.wp db₀ fun r db' =>
      KeepsAccounts db₀ db' ∧ FreshResolution db₀ r := by
  have htick : ∀ n, KeepsAccounts db₀ (db₀.tick n) := (KeepsAccounts.refl db₀).tick
  unfold existingAccount at hitem
  refine wp_bindExcept.2 (wp_adapt.2
    (wp_fetch (fun e n => ⟨htick n, freshResult_failed _ _ _⟩) fun n => ?_))
  rw [show getMappedUserId crates (db₀.tick n) provider item.externalUserId =
    getMappedUserId crates db₀ provider item.externalUserId from rfl]
  cases hmapped : getMappedUserId crates db₀ provider item.externalUserId with
  | some userId =>
    -- the mapping has lost its account
    simp only [hmapped, Option.isSome_eq_false_iff, Option.isNone_iff_eq_none] at hitem
    refine wp_bindExcept.2 (wp_adapt.2
      (wp_fetch (fun e m => ⟨(htick n).tick m, freshResult_failed _ _ _⟩) fun m => ?_))
    rw [show (((db₀.tick n).tick m).users.lookup User.id userId) = none from hitem]
    exact wp_createImportedUser _ ((htick n).tick m)
  | none =>
    simp only [hmapped, Bool.or_eq_false_iff, Option.isSome_eq_false_iff,
      Option.isNone_iff_eq_none] at hitem
    refine wp_bindExcept.2 (wp_adapt.2
      (wp_fetch (fun e m => ⟨(htick n).tick m, freshResult_failed _ _ _⟩) fun m => ?_))
    rw [show (((db₀.tick n).tick m).users.lookup User.email item.email) = none from hitem.1]
    refine wp_bindExcept.2 (wp_adapt.2
      (wp_fetch (fun e k => ⟨((htick n).tick m).tick k, freshResult_failed _ _ _⟩) fun k => ?_))
    rw [show ((((db₀.tick n).tick m).tick k).users.lookup User.username item.username) = none
      from hitem.2]
    exact wp_createImportedUser _ (((htick n).tick m).tick k)

/-- An item without an existing account is not mapped to one. -/
theorem getMappedUserId_ne :
    ∀ u ∈ db₀.users, getMappedUserId crates db₀ provider item.externalUserId ≠ some u.id := by
  intro u hu hmapped
  simp only [existingAccount, hmapped, Option.isSome_eq_false_iff, Option.isNone_iff_eq_none,
    lookup_eq_none_iff] at hitem
  exact hitem u hu rfl

theorem wp_bindUser {resolved : Resolved} (hfresh : Fresh db₀ resolved.user.id)
    (hdb : KeepsAccounts db₀ db) :
    (bindUser crates provider item resolved).run.wp db fun r db' =>
      KeepsAccounts db₀ db' ∧
        match r with
        | .ok result => FreshResult db₀ result
        | .error failure => FreshResult db₀ failure := by
  have hresult : ∀ result : ThirdPartyUserImportResultItem,
      result.userId = some resolved.user.id → FreshResult db₀ result := by
    rintro result hid _ hid'
    cases hid.symm.trans hid'
    exact hfresh
  refine wp_and (wp_keeps (.bindExcept (.adapt ?_) fun _ =>
    .bindExcept (guarantees_assignRoles hfresh _ _) fun _ => guarantees_pure _) hdb) ?_
  · refine guarantees_atomically_keeps fun _ _ _ _ h hdb => ?_
    split_ifs at h
    cases h
    exact hdb.upsertExternalUserMapping hfresh (getMappedUserId_ne hitem)
  · refine wp_bindExcept.2 (wp_adapt.2 (wp_of_forall _ fun r db => ?_))
    cases r with
    | error => exact hresult _ rfl
    | ok =>
      refine wp_bindExcept.2 (wp_mono (wp_assignRoles _ _ db) fun r _ hr => ?_)
      cases r with
      | error failure => exact hresult failure (hr failure rfl)
      | ok => exact wp_okExcept.2 (hresult _ rfl)

theorem wp_importValidItem :
    (importValidItem crates provider item).wp db₀ fun outcome db' =>
      KeepsAccounts db₀ db' ∧ FreshResult db₀ outcome.result := by
  refine wp_bind.2 (wp_mono (wp_resolveUser hitem) fun r db hr => ?_)
  cases r with
  | error => exact wp_pure.2 hr
  | ok =>
    refine wp_bind.2 (wp_mono (wp_bindUser hitem hr.2 hr.1) fun r db hr => ?_)
    cases r <;> exact wp_pure.2 hr

end Item

theorem wp_importItem
    (hitem : validateItem (trimItem item) = .ok () →
      existingAccount crates db₀ provider (trimItem item) = false) :
    (importItem crates provider false item).wp db₀ fun outcome db' =>
      KeepsAccounts db₀ db' ∧ FreshResult db₀ outcome.result := by
  unfold importItem
  split
  · rename_i failure hinvalid
    refine wp_pure.2 ⟨KeepsAccounts.refl db₀, ?_⟩
    unfold validateItem at hinvalid
    split at hinvalid
    · cases hinvalid
      exact freshResult_failed _ _ _
    split at hinvalid
    · cases hinvalid
    · split at hinvalid <;> cases hinvalid
      exact freshResult_failed _ _ _
  · rename_i hvalid
    rw [if_neg Bool.false_ne_true]
    exact wp_importValidItem (hitem hvalid)

/-- A migration that finds no existing account keeps all accounts, and names a new one at most. -/
theorem wp_runThirdPartyImport
    (hitem : validateItem (trimItem item) = .ok () →
      existingAccount crates db₀ provider (trimItem item) = false) :
    (runThirdPartyImport crates provider [item] false).wp db₀ fun output db' =>
      KeepsAccounts db₀ db' ∧ ∀ result ∈ output.results, FreshResult db₀ result := by
  have hsize : ¬ maxImportBatchSize < [item].length := by
    rw [List.length_singleton, maxImportBatchSize]
    omega
  rw [runThirdPartyImport, if_neg hsize]
  simp only [importItems, wp_bind, wp_pure]
  refine wp_mono (wp_importItem hitem) ?_
  rintro outcome db' ⟨hdb', hresult⟩
  exact ⟨hdb', by simpa using hresult⟩

/-! ### Access tokens -/

/-- The server has signed the token, and its user, if it has one, satisfies `P`. -/
def Minted (keys : JwtKeys) (token : String) (P : String → Prop) : Prop :=
  ∃ claims, keys.signToken claims = .ok token ∧ ∀ uid, claims.uid = some uid → P uid

/-- The request may be answered with a token for the user, if the user exists. -/
def Entitled (state : AppState) (db : Db) (request : Request) (uid : String) : Prop :=
  ∀ u ∈ db.users, u.id = uid →
    (CarriesPassword state.crates request u ∨ CarriesRefreshToken state.crates db request u.id) ∧
      u.active = true

variable {state : AppState} {P : String → Prop} {expirySeconds : Int} {keys : JwtKeys}

theorem notImpersonated_of_minted {request : Request} {response : Response} {u : User}
    (hkeys : ∀ claims token claims', state.jwtKeys.signToken claims = .ok token →
      state.jwtKeys.decodeToken token = .ok claims' → claims'.uid = claims.uid)
    (hminted : ∀ token, response.accessToken = some token →
      Minted state.jwtKeys token (Entitled state db request))
    (hu : u ∈ db.users) : NotImpersonated state db request u response := by
  intro token claims' htoken hdecode huid
  obtain ⟨claims, hsign, hentitled⟩ := hminted token htoken
  exact hentitled u.id ((hkeys claims token claims' hsign hdecode).symm.trans huid) u hu rfl

/-- The token of a migration is for the account that the migration has named. -/
theorem wp_mintMigratedToken {result : ThirdPartyUserImportResultItem}
    (hresult : FreshResult db₀ result) (db : Db) :
    (mintMigratedToken provider keys expirySeconds result).run.wp db fun r _ =>
      ∀ response, r = .ok response → Minted keys response.accessToken (Fresh db₀) := by
  unfold mintMigratedToken
  split
  · exact wp_throw.2 nofun
  rename_i userId huserId
  refine wp_bindExcept.2 (wp_adapt.2
    (wp_fetch (fun _ _ => nofun) fun n => ?_))
  cases hfound : (db.tick n).users.lookup User.id userId with
  | none => exact wp_throw.2 nofun
  | some =>
    refine wp_bindExcept_of_forall (fun _ _ => nofun) fun isAdmin _ =>
      wp_bindExcept_of_forall (fun _ _ => nofun) fun principal _ =>
      wp_bindExcept_of_forall (fun _ _ => nofun) fun time _ =>
      wp_bindExcept_of_forall (fun _ _ => nofun) fun jti _ => ?_
    split
    · exact wp_throw.2 nofun
    rename_i accessToken hsign
    refine wp_okExcept.2 ?_
    rintro _ ⟨⟩
    refine ⟨_, hsign, ?_⟩
    rintro _ ⟨⟩
    rw [(lookup_eq_some_iff.1 hfound).2]
    exact hresult userId huserId

theorem wp_jitRegisterUser {req : ThirdPartyJitRegisterRequest}
    (hreq : resolvesToAccount crates db₀ (.jitRegisterUser req) = false) :
    (jitRegisterUser crates keys expirySeconds req).run.wp db₀ fun r db' =>
      KeepsAccounts db₀ db' ∧
        ∀ response, r = .ok response → Minted keys response.accessToken (Fresh db₀) := by
  unfold jitRegisterUser
  split
  · exact wp_throw.2 ⟨KeepsAccounts.refl db₀, nofun⟩
  rename_i provider hprovider
  have hitem : validateItem (trimItem req.item) = .ok () →
      existingAccount crates db₀ provider (trimItem req.item) = false := by
    intro hvalid
    simpa only [resolvesToAccount, hprovider, hvalid] using hreq
  refine wp_bindExcept.2 (wp_liftExcept.2
    (wp_mono (wp_runThirdPartyImport hitem) ?_))
  rintro output db' ⟨hdb', hresults⟩
  dsimp only
  split
  · exact wp_throw.2 ⟨hdb', nofun⟩
  split
  · exact wp_throw.2 ⟨hdb', nofun⟩
  rename_i result hhead
  exact wp_and (wp_keeps (guarantees_keeps (guarantees_mintMigratedToken _ _ _ _)) hdb')
    (wp_mintMigratedToken (hresults result (List.mem_of_mem_head? hhead)) db')

end Keylo.Anonymous
