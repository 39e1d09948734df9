import Mathlib.Tactic.TFAE
import Keylo.Authorization.Check
import Keylo.Oidc.Codes
import Keylo.Organizations

/-!
# Live organization contexts

Whether a user may act in an organization is decided in several places: when a context is
selected (`getActiveOrganizationMembership`), when an OIDC client of the organization is used
(`oidcClientUserContextIsActive`, `createAuthorizationCode`), and in the queries for the roles and
permissions of the organization (`isLiveMember`). All of them require the organization, the
membership, the principal and the user to be active (`Standing`). Only the first and the last
also require the class of the user to be admitted by the kind of the organization, so that they
disagree with the OIDC statements on external customers in other than customer organizations.

## Main results

* `contextIsActive_iff`, `isLiveMember_iff`, `getActiveOrganizationMembership_iff` : the predicates,
  in terms of `Standing`.
* `organization_contexts_agree` : when they agree.
-/

namespace Keylo.Tenancy

open Relational Oidc Authorization Table

variable {db : Db} {principal : Principal} {organizationId : String} {user user' : User}
  {organization organization' : Organization}

/-- The organization, the membership of the principal in it, the principal and its user are
active. -/
structure Standing (db : Db) (principal : Principal) (organizationId : String) (user : User)
    (organization : Organization) : Prop where
  user_mem : user ∈ db.users
  user_id : user.id = principal.refId
  user_active : user.active = true
  organization_mem : organization ∈ db.organizations
  organization_id : organization.id = organizationId
  organization_active : organization.status = .active
  principal_active : principal.active = true
  membership : ∃ m ∈ db.memberships, m.organizationId = organizationId ∧
    m.principalId = principal.id ∧ m.status = .active

theorem Standing.user_unique (h : Standing db principal organizationId user organization)
    (h' : Standing db principal organizationId user' organization') : user = user' :=
  have hid : user.id = user'.id := h.user_id.trans h'.user_id.symm
  eq_of_key h.user_mem h'.user_mem hid

theorem Standing.organization_unique
    (h : Standing db principal organizationId user organization)
    (h' : Standing db principal organizationId user' organization') :
    organization = organization' :=
  have hid : organization.id = organization'.id :=
    h.organization_id.trans h'.organization_id.symm
  eq_of_key h.organization_mem h'.organization_mem hid

/-- The class of the user is admitted by the kind of the organization. -/
def ClassAdmitted (user : User) (organization : Organization) : Prop :=
  user.userClass ≠ .externalCustomer ∨ organization.kind = .customer

/-! ### The predicates -/

section

variable (organizationId) (hprincipal : principal ∈ db.principals)
  (htype : principal.principalType = .user)

include hprincipal htype

theorem getActiveOrganizationMembership_iff :
    (getActiveOrganizationMembership db organizationId principal.id).isSome = true ↔
      ∃ user organization, Standing db principal organizationId user organization ∧
        ClassAdmitted user organization := by
  simp only [getActiveOrganizationMembership, mayActInOrganization, Table.find?, List.find?_isSome,
    any_eq_true, Bool.and_eq_true, Bool.or_eq_true, beq_iff_eq, bne_iff_ne]
  constructor
  · rintro ⟨m, hm, ⟨⟨hmo, hmp⟩, hms⟩, organization, ho, ⟨hoid, hos⟩, p, hp, ⟨hpid, hpa⟩, hmay⟩
    obtain rfl : p = principal := eq_of_key hp hprincipal hpid
    obtain hmay | ⟨user, hu, ⟨huid, hua⟩, hclass⟩ := hmay
    · exact absurd htype hmay
    · exact ⟨user, organization, ⟨hu, huid, hua, ho, hoid, hos, hpa, m, hm, hmo, hmp, hms⟩, hclass⟩
  · rintro ⟨user, organization, h, hclass⟩
    obtain ⟨m, hm, hmo, hmp, hms⟩ := h.membership
    exact ⟨m, hm, ⟨⟨hmo, hmp⟩, hms⟩, organization, h.organization_mem,
      ⟨h.organization_id, h.organization_active⟩, principal, hprincipal, ⟨rfl, h.principal_active⟩,
      .inr ⟨user, h.user_mem, ⟨h.user_id, h.user_active⟩, hclass⟩⟩

theorem isLiveMember_iff : isLiveMember db organizationId principal.id = true ↔
    ∃ user organization, Standing db principal organizationId user organization ∧
      ClassAdmitted user organization := by
  rw [← getActiveOrganizationMembership_iff organizationId hprincipal htype]
  simp only [isLiveMember, getActiveOrganizationMembership, Table.find?, List.find?_isSome,
    any_eq_true, Bool.and_eq_true, beq_iff_eq]
  constructor
  · rintro ⟨m, hm, ⟨⟨rfl, hmp⟩, hms⟩, h⟩
    exact ⟨m, hm, ⟨⟨rfl, hmp⟩, hms⟩, hmp ▸ h⟩
  · rintro ⟨m, hm, ⟨⟨rfl, hmp⟩, hms⟩, h⟩
    exact ⟨m, hm, ⟨⟨rfl, hmp⟩, hms⟩, hmp ▸ h⟩

/-- The OIDC statements do not look at the class of the user. -/
theorem contextIsActive_iff {client : OidcClient} (hclient : client ∈ db.oidcClients)
    (hactive : client.active = true) (hscope : client.organizationId = some organizationId) :
    contextIsActive db client.clientId (some organizationId) principal.refId = true ↔
      ∃ user organization, Standing db principal organizationId user organization := by
  simp only [contextIsActive, membershipIsActive, any_eq_true, Bool.and_eq_true,
    beq_iff_eq]
  constructor
  · rintro ⟨c, -, ⟨⟨-, hcs⟩, -⟩, user, hu, ⟨huid, hua⟩, p, hp, ⟨⟨hpt, hpr⟩, hpa⟩, hmember⟩
    have howner : p.owner = principal.owner := by
      simp [Principal.owner, hpt, htype, hpr.trans huid]
    obtain rfl : p = principal := eq_of_key hp hprincipal howner
    rw [hcs, Option.all_some] at hmember
    obtain ⟨organization, ho, ⟨hoid, hos⟩, m, hm, ⟨hmo, hmp⟩, hms⟩ := by
      simpa only [any_eq_true, Bool.and_eq_true, beq_iff_eq] using hmember
    exact ⟨user, organization, hu, huid, hua, ho, hoid, hos, hpa, m, hm, hmo.trans hoid, hmp, hms⟩
  · rintro ⟨user, organization, h⟩
    obtain ⟨m, hm, hmo, hmp, hms⟩ := h.membership
    refine ⟨client, hclient, ⟨⟨rfl, hscope⟩, hactive⟩, user, h.user_mem,
      ⟨h.user_id, h.user_active⟩, principal, hprincipal,
      ⟨⟨htype, h.user_id.symm⟩, h.principal_active⟩, ?_⟩
    rw [hscope, Option.all_some]
    simp only [any_eq_true, Bool.and_eq_true, beq_iff_eq]
    exact ⟨organization, h.organization_mem, ⟨h.organization_id, h.organization_active⟩, m, hm,
      ⟨hmo.trans h.organization_id.symm, hmp⟩, hms⟩

end

/-- A code that is not in the table yet is created exactly under a live context. -/
theorem createAuthorizationCode_iff {C : Crates} {id rawCode : String}
    (authorization : OidcAuthorizationCode)
    (hfresh : ∀ row ∈ db.authorizationCodes,
      id ≠ row.id ∧ authorizationCodeHash C rawCode ≠ row.codeHash) :
    (∃ db', createAuthorizationCode C db id rawCode authorization = .ok db') ↔
      contextIsActive db authorization.clientId authorization.organizationId
        authorization.userId = true := by
  obtain ⟨codes, hcodes⟩ := exists_insert_iff.2 fun row hrow =>
    show clash (⟨id, authorizationCodeHash C rawCode, authorization, none⟩ :
      AuthorizationCodeRow) row = false by simpa [clash] using hfresh row hrow
  unfold createAuthorizationCode
  split_ifs with hcontext
  · simp [hcontext, hcodes]
  · simp [hcontext]

/-! ### Agreement -/

/-- An external customer in good standing in an organization that is not a customer
organization. -/
def StrayCustomer (db : Db) (principal : Principal) (organizationId : String) : Prop :=
  ∃ user organization, Standing db principal organizationId user organization ∧
    user.userClass = .externalCustomer ∧ organization.kind ≠ .customer

theorem not_classAdmitted :
    ¬ ClassAdmitted user organization ↔
      user.userClass = .externalCustomer ∧ organization.kind ≠ .customer := by
  simp [ClassAdmitted]

theorem admitted_iff_standing :
    ((∃ user organization, Standing db principal organizationId user organization ∧
        ClassAdmitted user organization) ↔
      ∃ user organization, Standing db principal organizationId user organization) ↔
    ¬ StrayCustomer db principal organizationId := by
  constructor
  · rintro h ⟨user, organization, hstanding, hclass⟩
    obtain ⟨user', organization', hstanding', hadmitted⟩ := h.2 ⟨user, organization, hstanding⟩
    obtain rfl := hstanding.user_unique hstanding'
    obtain rfl := hstanding.organization_unique hstanding'
    exact not_classAdmitted.2 hclass hadmitted
  · intro h
    refine ⟨fun ⟨user, organization, hstanding, _⟩ => ⟨user, organization, hstanding⟩, ?_⟩
    rintro ⟨user, organization, hstanding⟩
    refine ⟨user, organization, hstanding, Classical.not_not.1 fun hclass => ?_⟩
    exact h ⟨user, organization, hstanding, not_classAdmitted.1 hclass⟩

/-- The predicates agree on a user principal and an organization with an active client unless the
user is a customer in good standing in an organization for employees only. -/
theorem organization_contexts_agree (C : Crates) (db : Db) (principal : Principal)
    (organizationId : String) (client : OidcClient) (id rawCode : String)
    (authorization : OidcAuthorizationCode) (hprincipal : principal ∈ db.principals)
    (htype : principal.principalType = .user) (hclient : client ∈ db.oidcClients)
    (hactive : client.active = true) (hscope : client.organizationId = some organizationId)
    (hgrant : authorization.clientId = client.clientId ∧
      authorization.organizationId = some organizationId ∧
      authorization.userId = principal.refId)
    (hfresh : ∀ row ∈ db.authorizationCodes,
      id ≠ row.id ∧ authorizationCodeHash C rawCode ≠ row.codeHash) :
    List.TFAE [
      (getActiveOrganizationMembership db organizationId principal.id).isSome = true,
      oidcClientUserContextIsActive db client.clientId principal.refId (some organizationId) =
        true,
      ∃ db', createAuthorizationCode C db id rawCode authorization = .ok db',
      isLiveMember db organizationId principal.id = true] ↔
    ¬ StrayCustomer db principal organizationId := by
  have hmembership := getActiveOrganizationMembership_iff organizationId hprincipal htype
  have hlive := isLiveMember_iff organizationId hprincipal htype
  have hcontext := contextIsActive_iff organizationId hprincipal htype hclient hactive hscope
  have hcreate := createAuthorizationCode_iff authorization hfresh
  rw [hgrant.1, hgrant.2.1, hgrant.2.2, hcontext] at hcreate
  rw [oidcClientUserContextIsActive, ← admitted_iff_standing]
  constructor
  · intro h
    exact hmembership.symm.trans ((h.out 0 1).trans hcontext)
  · intro h
    tfae_have 1 ↔ 2 := hmembership.trans (h.trans hcontext.symm)
    tfae_have 2 ↔ 3 := hcontext.trans hcreate.symm
    tfae_have 1 ↔ 4 := hmembership.trans hlive.symm
    tfae_finish

/-- A client of an organization. -/
def sampleClient : OidcClient where
  clientId := "client"
  clientType := .publicClient
  redirectUris := ["https://app/callback"]
  organizationId := some "o"

/-- An active member of the organization. -/
def sampleContext (userClass : UserClass) (kind : OrganizationKind) : Db where
  users := .single { id := "u", username := "u", email := "e", userClass }
  principals := .single ⟨.user, "u", "u", true⟩
  organizations := .single { id := "o", kind }
  memberships := .single ⟨"o", "user-u", .active, .member⟩
  oidcClients := .single sampleClient

def sampleGrant : OidcAuthorizationCode :=
  ⟨"client", some "o", "u", "https://app/callback", ["openid"], some "nonce", "challenge", 300⟩

theorem organization_contexts_agree_internalEmployee :
    (getActiveOrganizationMembership (sampleContext .internalEmployee .internal) "o"
      "user-u").isSome = true ∧
    ∃ db', createAuthorizationCode .readable (sampleContext .internalEmployee .internal) "id"
      "code" sampleGrant = .ok db' := by
  have hstray : ¬ StrayCustomer (sampleContext .internalEmployee .internal)
      ⟨.user, "u", "u", true⟩ "o" := by
    rintro ⟨user, organization, hstanding, hclass, -⟩
    obtain rfl := List.mem_singleton.1 hstanding.user_mem
    cases hclass
  have hagree := (organization_contexts_agree .readable (sampleContext .internalEmployee .internal)
    ⟨.user, "u", "u", true⟩ "o" sampleClient "id" "code" sampleGrant (List.mem_singleton.2 rfl) rfl
    (List.mem_singleton.2 rfl) rfl rfl ⟨rfl, rfl, rfl⟩
    fun _ h => absurd h not_mem_empty).2 hstray
  have hmember : (getActiveOrganizationMembership (sampleContext .internalEmployee .internal) "o"
      "user-u").isSome = true := by decide +kernel
  exact ⟨hmember, (hagree.out 0 2).1 hmember⟩

/-- A customer who is a member of an internal organization is refused its context, its roles and
its permissions, and yet is given a code by a client of the organization. -/
theorem stray_customer_given_code :
    (getActiveOrganizationMembership (sampleContext .externalCustomer .internal) "o"
      "user-u").isSome = false ∧
    isLiveMember (sampleContext .externalCustomer .internal) "o" "user-u" = false ∧
    oidcClientUserContextIsActive (sampleContext .externalCustomer .internal) "client" "u"
      (some "o") = true ∧
    ∃ db', createAuthorizationCode .readable (sampleContext .externalCustomer .internal) "id"
      "code" sampleGrant = .ok db' := by
  have hcontext : contextIsActive (sampleContext .externalCustomer .internal) "client" (some "o")
      "u" = true := by decide +kernel
  exact ⟨by decide +kernel, by decide +kernel, hcontext,
    (createAuthorizationCode_iff _ fun _ h => absurd h not_mem_empty).2 hcontext⟩

end Keylo.Tenancy
