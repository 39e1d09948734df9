import Keylo.Foundation.Table

/-!
# The database schema

The row types of the tables the verified code reads and writes, with the columns it uses, and
the record of all tables. Columns whose values are restricted by a `CHECK` constraint, or only
ever written from a fixed list of values, are enumerations. The unique constraints of a table
are the `Keyed` instance of its row type.

Instants are counted in microseconds, the resolution of the `TIMESTAMP` columns; `NOW()` is the
`clock` of the database.
-/

namespace Keylo

open Relational

/-- Instants, in microseconds since the Unix epoch. -/
abbrev Time := Int

/-- The Unix timestamp of an instant, in whole seconds. -/
def Time.timestamp (t : Time) : Int := t / 1000000

/-- The instant of a Unix timestamp (`to_timestamp`). -/
def Time.ofTimestamp (seconds : Int) : Time := seconds * 1000000

/-- The error of a statement that would violate a unique constraint. -/
def uniqueViolation : String := "duplicate key value violates unique constraint"

/-- The error of a statement that would violate a foreign key. -/
def foreignKeyViolation : String := "violates foreign key constraint"

/-! ### Accounts -/

/-- The two kinds of human accounts (`users.user_class`). -/
inductive UserClass
  | internalEmployee
  | externalCustomer
deriving DecidableEq, Repr

/-- A row of `users`. -/
structure User where
  id : String
  username : String
  email : String
  passwordHash : Option String := none
  active : Bool := true
  userClass : UserClass := .externalCustomer
  emailVerified : Bool := false
  passwordChangeRequired : Bool := false
deriving DecidableEq, Repr

instance : Keyed User where
  clash a b := a.id == b.id || a.username == b.username || a.email == b.email

instance : IsKey User.id where

instance : IsKey User.username where

instance : IsKey User.email where

/-- A row of `external_user_mappings`; the external id is stored as a digest. -/
structure ExternalUserMapping where
  provider : String
  externalUserId : String
  userId : String
deriving DecidableEq, Repr

/-- The identity at the provider that a mapping links. -/
def ExternalUserMapping.subject (m : ExternalUserMapping) : String × String :=
  (m.provider, m.externalUserId)

instance : Keyed ExternalUserMapping := .ofKey ExternalUserMapping.subject

instance : IsKey ExternalUserMapping.subject where

/-! ### Sessions and recovery -/

/-- A row of `refresh_sessions`. -/
structure RefreshSession where
  id : String
  principalId : String
  clientId : String
  currentRefreshTokenId : String
  currentAccessJti : String
  organizationId : Option String := none
  rotatedAt : Option Time := none
  expiresAt : Time
  revokedAt : Option Time := none
  revokeReason : Option String := none
deriving DecidableEq, Repr

instance : Keyed RefreshSession := .ofKey RefreshSession.id

instance : IsKey RefreshSession.id where

/-- A row of `refresh_session_tokens`. -/
structure RefreshSessionToken where
  tokenId : String
  sessionId : String
  tokenHash : String
  expiresAt : Time
  consumedAt : Option Time := none
  revokedAt : Option Time := none
deriving DecidableEq, Repr

instance : Keyed RefreshSessionToken where
  clash a b := a.tokenId == b.tokenId || a.tokenHash == b.tokenHash

instance : IsKey RefreshSessionToken.tokenHash where

instance : IsKey RefreshSessionToken.tokenId where

/-- A row of `refresh_tokens`, from before there were sessions. -/
structure RefreshToken where
  id : String
  clientId : String
  tokenHash : String
  expiresAt : Time
  revoked : Bool := false
deriving DecidableEq, Repr

instance : Keyed RefreshToken where
  clash a b := a.id == b.id || a.tokenHash == b.tokenHash

instance : IsKey RefreshToken.tokenHash where

/-- A row of `blacklisted_tokens`. -/
structure BlacklistedToken where
  id : String
  tokenHash : String
  reason : Option String := none
  expiresAt : Time
deriving DecidableEq, Repr

instance : Keyed BlacklistedToken where
  clash a b := a.id == b.id || a.tokenHash == b.tokenHash

instance : IsKey BlacklistedToken.tokenHash where

/-- A row of `password_reset_tokens`. -/
structure PasswordResetToken where
  id : String
  userId : String
  emailSnapshot : String
  tokenHash : String
  expiresAt : Time
  consumedAt : Option Time := none
  revokedAt : Option Time := none
deriving DecidableEq, Repr

instance : Keyed PasswordResetToken where
  clash a b := a.id == b.id || a.tokenHash == b.tokenHash

instance : IsKey PasswordResetToken.id where

instance : IsKey PasswordResetToken.tokenHash where

/-- A row of `email_verification_tokens`. -/
structure EmailVerificationToken where
  id : String
  userId : String
  emailSnapshot : String
  tokenHash : String
  expiresAt : Time
  consumedAt : Option Time := none
  revokedAt : Option Time := none
deriving DecidableEq, Repr

instance : Keyed EmailVerificationToken where
  clash a b := a.id == b.id || a.tokenHash == b.tokenHash

instance : IsKey EmailVerificationToken.tokenHash where

/-- A row of `oidc_browser_sessions`. -/
structure BrowserSession where
  id : String
  sessionHash : String
  userId : String
  expiresAt : Time
  revokedAt : Option Time := none
deriving DecidableEq, Repr

instance : Keyed BrowserSession where
  clash a b := a.id == b.id || a.sessionHash == b.sessionHash

instance : IsKey BrowserSession.id where

/-! ### Principals and organizations -/

/-- The kinds of principals (`principals.principal_type`). -/
inductive PrincipalType
  | user
  | service
  | device
  | client
deriving DecidableEq, Repr

/-- The text of a principal type. -/
def PrincipalType.text : PrincipalType → String
  | .user => "user"
  | .service => "service"
  | .device => "device"
  | .client => "client"

/-- The id of the principal of an owner. -/
def principalId (principalType : PrincipalType) (refId : String) : String :=
  principalType.text ++ "-" ++ refId

/-- A row of `principals`. Every writer derives the columns `id` and `subject` from the type and
the reference, so only these are kept. -/
structure Principal where
  principalType : PrincipalType
  refId : String
  displayName : String
  active : Bool := true
deriving DecidableEq, Repr

namespace Principal

def id (p : Principal) : String := principalId p.principalType p.refId

/-- The owner a principal stands for (the unique constraint of the table). -/
def owner (p : Principal) : PrincipalType × String := (p.principalType, p.refId)

instance : Keyed Principal := .ofKey owner

instance : IsKey owner where

end Principal

theorem principalId_inj {t t' : PrincipalType} {refId refId' : String} :
    principalId t refId = principalId t' refId' ↔ t = t' ∧ refId = refId' := by
  constructor
  · intro h
    have hlist := congrArg String.toList h
    cases t <;> cases t' <;> simp [principalId, PrincipalType.text] at hlist
    all_goals exact ⟨rfl, String.toList_injective hlist⟩
  · rintro ⟨rfl, rfl⟩
    rfl

instance : IsKey Principal.id where
  clash_of_eq {p q} h := by
    have howner : p.owner = q.owner := Prod.ext_iff.2 (principalId_inj.1 h)
    exact IsKey.clash_of_eq howner

/-- `organizations.kind`. -/
inductive OrganizationKind
  | customer
  | internal
deriving DecidableEq, Repr

/-- `organizations.status`. -/
inductive OrganizationStatus
  | active
  | disabled
  | archived
deriving DecidableEq, Repr

/-- A row of `organizations`. -/
structure Organization where
  id : String
  kind : OrganizationKind
  status : OrganizationStatus := .active
deriving DecidableEq, Repr

instance : Keyed Organization := .ofKey Organization.id

instance : IsKey Organization.id where

/-- `organization_memberships.status`. -/
inductive MembershipStatus
  | pending
  | active
  | suspended
  | removed
deriving DecidableEq, Repr

/-- `organization_memberships.management_role`. -/
inductive ManagementRole
  | owner
  | admin
  | member
deriving DecidableEq, Repr

/-- A row of `organization_memberships`. -/
structure Membership where
  organizationId : String
  principalId : String
  status : MembershipStatus := .active
  managementRole : ManagementRole := .member
deriving DecidableEq, Repr

/-- The primary key of `organization_memberships`. -/
def Membership.key (m : Membership) : String × String := (m.organizationId, m.principalId)

instance : Keyed Membership := .ofKey Membership.key

instance : IsKey Membership.key where

/-! ### Multi-factor authentication -/

/-- A row of `mfa_totp_credentials`. -/
structure TotpCredential where
  userId : String
  encryptedSeed : String
  enabledAt : Option Time := none
  lastVerifiedStep : Option Int := none
deriving DecidableEq, Repr

instance : Keyed TotpCredential := .ofKey TotpCredential.userId

instance : IsKey TotpCredential.userId where

/-- A row of `mfa_recovery_codes`. -/
structure RecoveryCode where
  id : String
  userId : String
  codeHash : String
  usedAt : Option Time := none
deriving DecidableEq, Repr

instance : Keyed RecoveryCode where
  clash a b := a.id == b.id || a.userId == b.userId && a.codeHash == b.codeHash

instance : IsKey RecoveryCode.id where

/-- A row of `mfa_recent_verifications`: the proof that the holder of one access token passed
an MFA check. -/
structure RecentVerification where
  userId : String
  tokenJti : String
  verifiedAt : Time
  expiresAt : Time
deriving DecidableEq, Repr

/-- The primary key of `mfa_recent_verifications`. -/
def RecentVerification.key (r : RecentVerification) : String × String := (r.userId, r.tokenJti)

instance : Keyed RecentVerification := .ofKey RecentVerification.key

instance : IsKey RecentVerification.key where

/-! ### Roles and permissions -/

/-- The principals a role can be assigned to (`roles.assignable_to`). -/
inductive AssignableTo
  | all
  | only (principalType : PrincipalType)
deriving DecidableEq, Repr

/-- `roles.scope`. -/
inductive RoleScope
  | platform
  | organization
deriving DecidableEq, Repr

/-- A row of `roles`. -/
structure Role where
  id : String
  name : String
  assignableTo : AssignableTo := .all
  scope : RoleScope := .platform
  version : Int := 1
  system : Bool := false
deriving DecidableEq, Repr

instance : Keyed Role where
  clash a b := a.id == b.id || a.name == b.name

instance : IsKey Role.id where

instance : IsKey Role.name where

/-- A row of `permissions`. -/
structure Permission where
  id : String
  name : String
deriving DecidableEq, Repr

instance : Keyed Permission where
  clash a b := a.id == b.id || a.name == b.name

instance : IsKey Permission.id where

/-- A row of `role_permissions`. -/
structure RolePermission where
  roleId : String
  permissionId : String
deriving DecidableEq, Repr

instance : Keyed RolePermission := .ofKey id

/-- A row of `user_roles`. -/
structure UserRole where
  userId : String
  roleId : String
deriving DecidableEq, Repr

instance : Keyed UserRole := .ofKey id

/-- A row of `principal_roles`. -/
structure PrincipalRole where
  principalId : String
  roleId : String
deriving DecidableEq, Repr

instance : Keyed PrincipalRole := .ofKey id

/-- A row of `organization_role_bindings`, whose scope is always `organization`. -/
structure RoleBinding where
  organizationId : String
  principalId : String
  roleId : String
deriving DecidableEq, Repr

instance : Keyed RoleBinding := .ofKey id

/-- A row of `resources`. A resource without an organization is a platform resource. -/
structure Resource where
  id : String
  app : String
  resourceType : String
  code : String
  name : String := ""
  parentId : Option String := none
  displayOrder : Int := 0
  description : Option String := none
  /-- The text of a JSON value. -/
  metadata : Option String := none
  active : Bool := true
  version : Nat := 1
  organizationId : Option String := none
deriving DecidableEq, Repr

/-- The columns of the two partial unique indexes, for platform and for tenant resources. -/
def Resource.identity (r : Resource) : Option String × String × String × String :=
  (r.organizationId, r.app, r.resourceType, r.code)

instance : Keyed Resource where
  clash a b := a.id == b.id || a.identity == b.identity

instance : IsKey Resource.id where

instance : IsKey Resource.identity where

/-- A row of `resource_permissions`. -/
structure ResourcePermission where
  resourceId : String
  permissionId : String
deriving DecidableEq, Repr

instance : Keyed ResourcePermission := .ofKey id

/-! ### Clients and machines -/

/-- A row of `service_clients`. As for OIDC clients, the scope is platform exactly if there is no
organization. -/
structure ServiceClient where
  serviceId : String
  name : String
  active : Bool := true
  organizationId : Option String := none
deriving DecidableEq, Repr

instance : Keyed ServiceClient := .ofKey ServiceClient.serviceId

instance : IsKey ServiceClient.serviceId where

/-- A row of `clients`. -/
structure Client where
  id : String
  /-- The bcrypt hash of the secret. -/
  secret : String := ""
  name : String
  description : Option String := none
  active : Bool := true
  isAdminClient : Bool := false
deriving DecidableEq, Repr

instance : Keyed Client := .ofKey Client.id

instance : IsKey Client.id where

/-- A row of `device_principal_scopes`. -/
structure DeviceScope where
  principalId : String
  organizationId : Option String
deriving DecidableEq, Repr

instance : Keyed DeviceScope := .ofKey DeviceScope.principalId

instance : IsKey DeviceScope.principalId where

/-- `machine_credentials.status`. -/
inductive CredentialStatus
  | active
  | revoked
deriving DecidableEq, Repr

/-- A row of `machine_credentials`; of the API key only the digest of its secret is stored. -/
structure MachineCredential where
  keyId : String
  keyPrefix : String
  secretHash : String
  principalId : String
  organizationId : Option String := none
  status : CredentialStatus := .active
  expiresAt : Option Time := none
  lastUsedAt : Option Time := none
  createdByPrincipalId : Option String := none
  allowedScopes : List String
  allowedAudiences : List String
  revokedAt : Option Time := none
  revokeReason : Option String := none
deriving DecidableEq, Repr

instance : Keyed MachineCredential where
  clash a b := a.keyId == b.keyId || a.keyPrefix == b.keyPrefix

instance : IsKey MachineCredential.keyId where

/-! ### Customer support -/

/-- The reads that a support grant can allow
(`customer_support_access_grant_operations.operation`). -/
inductive SupportOperation
  | organizationRead
  | membershipRead
  | authorizationAuditRead
  | refreshSessionRead
  | resourceRead
deriving DecidableEq, Repr

/-- A row of `customer_support_access_grants` with its rows of
`customer_support_access_grant_operations`, which are only written together with it. -/
structure SupportGrant where
  id : String
  supportPrincipalId : String
  organizationId : String
  reason : String
  grantedByPrincipalId : String
  grantedAt : Time
  expiresAt : Time
  revokedAt : Option Time := none
  revokedByPrincipalId : Option String := none
  revokeReason : Option String := none
  operations : List SupportOperation
deriving DecidableEq, Repr

instance : Keyed SupportGrant := .ofKey SupportGrant.id

instance : IsKey SupportGrant.id where

/-! ### OIDC relying parties -/

/-- `oidc_clients.client_type`. -/
inductive OidcClientType
  | publicClient
  | confidential
deriving DecidableEq, Repr

/-- A row of `oidc_clients`. A `CHECK` constraint makes `scope_kind` a function of
`organization_id`, so only the latter is kept. -/
structure OidcClient where
  clientId : String
  clientSecretHash : Option String := none
  clientType : OidcClientType
  redirectUris : List String
  grantTypes : List String := ["authorization_code"]
  scopes : List String := ["openid", "profile", "email"]
  active : Bool := true
  organizationId : Option String := none
deriving DecidableEq, Repr

instance : Keyed OidcClient := .ofKey OidcClient.clientId

instance : IsKey OidcClient.clientId where

/-- The grant bound to an authorization code. -/
structure OidcAuthorizationCode where
  clientId : String
  organizationId : Option String
  userId : String
  redirectUri : String
  scopes : List String
  nonce : Option String
  codeChallenge : String
  expiresAt : Int
deriving DecidableEq, Repr

/-- A row of `oidc_authorization_codes`. -/
structure AuthorizationCodeRow where
  id : String
  codeHash : String
  grant : OidcAuthorizationCode
  consumedAt : Option Time := none
deriving DecidableEq, Repr

instance : Keyed AuthorizationCodeRow where
  clash a b := a.id == b.id || a.codeHash == b.codeHash

instance : IsKey AuthorizationCodeRow.codeHash where

/-! ### Upstream identity providers -/

/-- `identity_sources.source_type`. -/
inductive IdentitySourceType
  | localPassword
  | oauth2
  | oidcUpstream
  | ldap
deriving DecidableEq, Repr

/-- `identity_sources.organization_strategy`. -/
inductive OrganizationStrategy
  | none
  | fixed
deriving DecidableEq, Repr

/-- A row of `identity_sources`. The configuration is an opaque document; a claim mapping names, for
some fields of the local profile, the claim it is taken from. -/
structure IdentitySource where
  id : String
  name : String
  sourceType : IdentitySourceType := .oidcUpstream
  displayName : String := ""
  description : Option String := none
  config : String := ""
  claimMapping : List (String × String) := []
  jitEnabled : Bool := false
  autoLinkEnabled : Bool := true
  active : Bool := true
  allowedUserClass : UserClass := .externalCustomer
  organizationStrategy : OrganizationStrategy := .none
  organizationId : Option String := none
deriving DecidableEq, Repr

instance : Keyed IdentitySource where
  clash a b := a.id == b.id || a.name == b.name

instance : IsKey IdentitySource.id where

/-- A row of `oidc_upstream_authorizations`. -/
structure UpstreamAuthorization where
  id : String
  stateHash : String
  sourceId : String
  nonceHash : String
  codeVerifierEncrypted : String
  expiresAt : Time
  consumedAt : Option Time := none
deriving DecidableEq, Repr

instance : Keyed UpstreamAuthorization where
  clash a b := a.id == b.id || a.stateHash == b.stateHash

instance : IsKey UpstreamAuthorization.stateHash where

/-- A row of `user_oauth_accounts`. -/
structure UserOauthAccount where
  id : String
  userId : String
  providerId : String
  providerUserId : String
deriving DecidableEq, Repr

/-- The identity at the provider that an account links. -/
def UserOauthAccount.subject (a : UserOauthAccount) : String × String :=
  (a.providerId, a.providerUserId)

instance : Keyed UserOauthAccount where
  clash a b := a.id == b.id || a.subject == b.subject

/-! ### Settings -/

/-- `system_settings.value`, as far as it is read. -/
inductive SettingValue
  | bool (value : Bool)
  | string (value : String)
deriving DecidableEq, Repr

/-- `Value::as_bool`. -/
def SettingValue.asBool : SettingValue → Option Bool
  | .bool value => some value
  | .string _ => none

/-- A row of `system_settings`. -/
structure Setting where
  key : String
  value : SettingValue
deriving DecidableEq, Repr

instance : Keyed Setting := .ofKey Setting.key

instance : IsKey Setting.key where

/-! ### The database -/

/-- The tables of the database and its clock. -/
structure Db where
  clock : Time := 0
  users : Table User := ∅
  principals : Table Principal := ∅
  organizations : Table Organization := ∅
  memberships : Table Membership := ∅
  roles : Table Role := ∅
  permissions : Table Permission := ∅
  rolePermissions : Table RolePermission := ∅
  userRoles : Table UserRole := ∅
  principalRoles : Table PrincipalRole := ∅
  roleBindings : Table RoleBinding := ∅
  resources : Table Resource := ∅
  resourcePermissions : Table ResourcePermission := ∅
  serviceClients : Table ServiceClient := ∅
  clients : Table Client := ∅
  externalUserMappings : Table ExternalUserMapping := ∅
  refreshSessions : Table RefreshSession := ∅
  refreshSessionTokens : Table RefreshSessionToken := ∅
  refreshTokens : Table RefreshToken := ∅
  blacklistedTokens : Table BlacklistedToken := ∅
  passwordResetTokens : Table PasswordResetToken := ∅
  emailVerificationTokens : Table EmailVerificationToken := ∅
  browserSessions : Table BrowserSession := ∅
  deviceScopes : Table DeviceScope := ∅
  oidcClients : Table OidcClient := ∅
  authorizationCodes : Table AuthorizationCodeRow := ∅
  totpCredentials : Table TotpCredential := ∅
  recoveryCodes : Table RecoveryCode := ∅
  recentVerifications : Table RecentVerification := ∅
  machineCredentials : Table MachineCredential := ∅
  supportGrants : Table SupportGrant := ∅
  identitySources : Table IdentitySource := ∅
  upstreamAuthorizations : Table UpstreamAuthorization := ∅
  userOauthAccounts : Table UserOauthAccount := ∅
  systemSettings : Table Setting := ∅

theorem map_eq_ok {ε α β : Type*} {f : α → β} {x : Except ε α} {b : β} :
    x.map f = .ok b ↔ ∃ a, x = .ok a ∧ f a = b := by
  cases x <;> simp [Except.map]

theorem bind_eq_ok {ε α β : Type*} {x : Except ε α} {f : α → Except ε β} {b : β} :
    x.bind f = .ok b ↔ ∃ a, x = .ok a ∧ f a = .ok b := by
  cases x <;> simp [Except.bind]

/-- The database after a transaction; one that fails changes nothing. -/
def commit (db : Db) : Except String Db → Db
  | .ok db' => db'
  | .error _ => db

end Keylo
