import Keylo.Tenancy.Context
import Keylo.Tenancy.Grants

/-!
# The end of an organization or a membership

Logins, refreshes, authorizations and exchanges are interleaved with changes of organizations,
memberships and clients. An organization is ended by a status other than active, a membership by
the platform or by a manager of the organization. Afterwards every session that is refreshed and
every code that is exchanged in the scope of the change should have been created after it.

The platform discards pending codes together with the membership; a manager does not, so that a
code from before a suspension is exchanged after it (`code_survives_suspension`). If no such code
is pending, the end is final for all three changes (`deactivation_final`).

The transactions on organizations, memberships and sessions lock the row of the organization and
are single steps. The `INSERT` of a code has read the organization before it commits.

## Main definitions

* `protocol` : the statements of all requests.
* `deactivates` : the scope that a step ends.
* `uses` : the grant that a step uses.

## Main results

* `Settled.step` : an organization that is not active has no usable grants.
* `deactivation_final` : what is used after an end was created after it.
-/

namespace Keylo.Tenancy

open Relational Transition Oidc Table

/-! ### Requests -/

/-- The next statement or transaction of a request. -/
inductive Task
  | oidc (t : Configuration.Task)
  /-- The session of a login or of a selected context. -/
  | createSession (params : CreateRefreshSessionParams)
  | created
  | refresh (refreshToken : String) (expectedOrganizationId : Option String) (new : Replacement)
  | refreshed (result : ConsumeRefreshSessionResult)
  | setStatus (organizationId status : String)
  | upsertMembership (organizationId principalId status : String) (managementRole : Option String)
  | upsertMembershipAsManager (organizationId actorPrincipalId targetPrincipalId status : String)
      (managementRole : Option String)
  | join (organizationId principalId : String)
  | done

variable (S : Server) (a : Input) (db : Db)

/-- The transaction of a request. -/
def execute : Task → Except String (Task × Db)
  | .createSession params => (createRefreshSession S.crates db params).map fun r => (.created, r.2)
  | .refresh token expected new =>
    (consumeAndRotateRefreshSession S.crates db token expected new).map fun r =>
      (.refreshed r.1, r.2)
  | .setStatus organizationId status =>
    (setOrganizationStatus db organizationId status).map fun r => (.done, r.2)
  | .upsertMembership organizationId principalId status managementRole =>
    (upsertOrganizationMembership db organizationId principalId status managementRole).map fun r =>
      (.done, r.2)
  | .upsertMembershipAsManager organizationId actor target status managementRole =>
    (upsertOrganizationMembershipAsManager db organizationId actor target status
      managementRole).map fun r => (.done, r.2)
  | .join organizationId principalId =>
    (joinOrganizationMembership db organizationId principalId).map fun r => (.done, r.2)
  | .oidc _ | .created | .refreshed _ | .done => .ok (.done, db)

/-- A statement that fails changes nothing. -/
def next : Task → Option (Db × Task)
  | .oidc t => (Configuration.next S a db t).map fun r => (r.1, .oidc r.2)
  | .created | .refreshed _ | .done => none
  | t =>
    match a.fault, execute S db t with
    | none, .ok (t', db') => some (db', t')
    | _, _ => some (db, .done)

/-- What else happens: users, principals, clients, memberships and tokens change, sessions are
revoked or deleted, codes discarded, and an organization is founded. -/
structure Surroundings where
  elapsed : Nat := 0
  users : Table User
  principals : Table Principal
  memberships : Table Membership
  oidcClients : Table OidcClient
  refreshSessionTokens : Table RefreshSessionToken
  revoked : RefreshSession → Bool
  deleted : RefreshSession → Bool
  discarded : AuthorizationCodeRow → Bool
  founded : Option (String × OrganizationKind) := none

def Surroundings.apply (b : Surroundings) : Db :=
  { db with
    clock := db.clock + b.elapsed
    users := b.users
    principals := b.principals
    memberships := b.memberships
    oidcClients := b.oidcClients
    refreshSessionTokens := b.refreshSessionTokens
    refreshSessions :=
      (db.refreshSessions.update b.revoked (revokeSession db.clock none)).delete b.deleted
    authorizationCodes := db.authorizationCodes.delete b.discarded
    organizations := (b.founded.bind fun o =>
      db.organizations.insert { id := o.1, kind := o.2 }).getD db.organizations }

/-- All requests, interleaved with the changes around them. -/
def protocol (ι : Type*) : Protocol ι Db Task Input Surroundings where
  next _ a db := next S a db
  env b db := some (b.apply db)

/-! ### Ends and uses -/

/-- The scope that the next step ends. -/
def deactivates : Task → Option Scope
  | .setStatus organizationId status =>
    match setOrganizationStatus db organizationId status with
    | .ok (some _, _) =>
      if organizationStatus? (trim status) = some .active then none
      else some ⟨organizationId, none⟩
    | _ => none
  | .upsertMembership organizationId principalId status managementRole =>
    match upsertOrganizationMembership db organizationId principalId status managementRole with
    | .ok (membership, _) =>
      if membership.status = .active then none else some ⟨organizationId, some principalId⟩
    | .error _ => none
  | .upsertMembershipAsManager organizationId actor target status managementRole =>
    match upsertOrganizationMembershipAsManager db organizationId actor target status
        managementRole with
    | .ok (membership, _) =>
      if membership.status = .active then none else some ⟨organizationId, some target⟩
    | .error _ => none
  | _ => none

/-- The grant that a step from one task to the next creates. -/
def creates : Task → Task → Option Grant
  | .createSession params, .created => some (newSession params)
  | .oidc (.inserting row _), .oidc (.endpoint (.redirected (.ok _))) => some (codeGrant row)
  | _, _ => none

/-- The grant that a step from one task to the next uses. -/
def uses : Task → Task → Option Grant
  | .refresh .., .refreshed (.consumed session) =>
    some ⟨.session, session.sessionId, session.organizationId, session.principalId⟩
  | .oidc (.endpoint (.tokenConsume request _ _)), .oidc (.endpoint (.tokenUser _ grant)) =>
    some ⟨.code, authorizationCodeHash S.crates request.code, grant.organizationId,
      principalId .user grant.userId⟩
  | _, _ => none

variable {ι : Type*}

/-- The grants created so far. -/
def recordCreated (created : List Grant) (c : Config ι Db Task) :
    Action ι Input Surroundings → Config ι Db Task → List Grant
  | .environment _, _ => created
  | .request i _, c' => (creates (c.request i) (c'.request i)).toList ++ created

/-- The step uses no grant of the scope that is not one of those created. -/
def usesCreated (scope : Scope) (s : Config ι Db Task × List Grant) :
    Action ι Input Surroundings → Config ι Db Task × List Grant → Bool
  | .environment _, _ => true
  | .request i _, s' =>
    (uses S (s.1.request i) (s'.1.request i)).all fun g => !scope.covers g || s.2.contains g

/-- A manager ends a membership only while no code of the member is pending, and a code is
committed only while its organization is active. -/
def wellTimed : Task → Bool
  | .upsertMembershipAsManager organizationId _ target status _ =>
    membershipStatus? (trim status) == some .active ||
      !db.authorizationCodes.any fun row => row.consumedAt.isNone &&
        (Scope.mk organizationId (some target)).covers (codeGrant row)
  | .oidc (.inserting row _) =>
    row.grant.organizationId.all fun organizationId =>
      (db.organizations.lookup Organization.id organizationId).any (·.status == .active)
  | _ => true

/-- The statement of the request is well timed. -/
def WellTimed (c : Config ι Db Task) : Action ι Input Surroundings → Prop
  | .environment _ => True
  | .request i _ => wellTimed c.shared (c.request i) = true

instance (c : Config ι Db Task) : DecidablePred (WellTimed c)
  | .environment _ => .isTrue trivial
  | .request i _ => inferInstanceAs (Decidable (wellTimed c.shared (c.request i) = true))

/-! ### What a step does -/

variable {S a db} {db' : Db} {t t' : Task} {g : Grant} {scope : Scope}
  {managementRole : Option String} {membership : Membership} {organizationId : String}

/-- The steps of a request: the task before it, the database after it and the next task. -/
inductive Step (S : Server) (a : Input) (db : Db) : Task → Db → Task → Prop
  | oidc {t t' : Configuration.Task} {db' : Db} (h : Configuration.Change S a db t db' t') :
      Step S a db (.oidc t) db' (.oidc t')
  | created {params} {db' : Db}
      (h : createRefreshSession S.crates db params = .ok ((), db')) :
      Step S a db (.createSession params) db' .created
  | refreshed {token expected new result} {db' : Db}
      (h : consumeAndRotateRefreshSession S.crates db token expected new =
        .ok (result, db')) :
      Step S a db (.refresh token expected new) db' (.refreshed result)
  | status {organizationId status : String} {previous} {db' : Db}
      (h : setOrganizationStatus db organizationId status = .ok (previous, db')) :
      Step S a db (.setStatus organizationId status) db' .done
  | membership {t : Task} {db' : Db} (hlapses : Lapses db db')
      (horganizations : db'.organizations = db.organizations) : Step S a db t db' .done

theorem organizations_upsertOrganizationMembership {principalId status : String}
    (h : upsertOrganizationMembership db organizationId principalId status managementRole =
      .ok (membership, db')) : db'.organizations = db.organizations := by
  obtain ⟨newStatus, newRole, -, -, -, -, rfl⟩ := upsertOrganizationMembership_eq_ok h
  split_ifs <;> rfl

theorem organizations_upsertOrganizationMembershipAsManager {actor target status : String}
    (h : upsertOrganizationMembershipAsManager db organizationId actor target status
      managementRole = .ok (membership, db')) : db'.organizations = db.organizations := by
  obtain ⟨newStatus, newRole, -, -, -, -, ⟨-, rfl⟩ | ⟨-, rfl⟩⟩ :=
    upsertOrganizationMembershipAsManager_eq_ok h
  · rfl
  · split_ifs <;> rfl

theorem step_of_execute (h : execute S db t = .ok (t', db')) : Step S a db t db' t' := by
  cases t with
  | createSession =>
    obtain ⟨⟨u, db₁⟩, hcreate, heq⟩ := map_eq_ok.1 h
    cases heq
    exact .created hcreate
  | refresh =>
    obtain ⟨⟨result, db₁⟩, hrefresh, heq⟩ := map_eq_ok.1 h
    cases heq
    exact .refreshed hrefresh
  | setStatus =>
    obtain ⟨⟨previous, db₁⟩, hstatus, heq⟩ := map_eq_ok.1 h
    cases heq
    exact .status hstatus
  | upsertMembership =>
    obtain ⟨⟨membership, db₁⟩, hupsert, heq⟩ := map_eq_ok.1 h
    cases heq
    exact .membership (lapses_upsertOrganizationMembership hupsert)
      (organizations_upsertOrganizationMembership hupsert)
  | upsertMembershipAsManager =>
    obtain ⟨⟨membership, db₁⟩, hupsert, heq⟩ := map_eq_ok.1 h
    cases heq
    exact .membership (lapses_upsertOrganizationMembershipAsManager hupsert)
      (organizations_upsertOrganizationMembershipAsManager hupsert)
  | join =>
    obtain ⟨⟨membership, db₁⟩, hjoin, heq⟩ := map_eq_ok.1 h
    cases heq
    refine .membership (lapses_joinOrganizationMembership hjoin) ?_
    obtain ⟨memberships, rfl⟩ := joinOrganizationMembership_eq_ok hjoin
    rfl
  | _ =>
    cases h
    exact .membership (.refl _) rfl

theorem step_of_next (h : next S a db t = some (db', t')) : Step S a db t db' t' := by
  unfold next at h
  split at h
  case h_1 t =>
    obtain ⟨⟨db₁, t₁⟩, hnext, heq⟩ := Option.map_eq_some_iff.1 h
    cases heq
    exact .oidc (Configuration.change_of_next hnext)
  case h_5 =>
    split at h
    · cases h
      exact step_of_execute ‹_›
    · cases h
      exact .membership (.refl _) rfl
  all_goals cases h

/-- A step adds at most the grant that it creates. -/
theorem Step.usable (h : Step S a db t db' t') (hg : Usable db' g) :
    Usable db g ∨ creates t t' = some g := by
  cases h with
  | oidc hchange =>
    obtain ⟨-, hlapses | ⟨row, rawCode, rfl, rfl, hinserts⟩⟩ := lapses_or_inserts hchange
    · exact .inl (hlapses.usable hg)
    · exact (hinserts g hg).imp_right fun heq => congrArg some heq.symm
  | created hcreate =>
    exact ((usable_createRefreshSession hcreate).1 g hg).imp_right fun heq =>
      congrArg some heq.symm
  | refreshed hrefresh => exact .inl ((lapses_consumeAndRotateRefreshSession hrefresh).1.usable hg)
  | status hstatus => exact .inl ((lapses_setOrganizationStatus hstatus).usable hg)
  | membership hlapses => exact .inl (hlapses.usable hg)

/-- A grant that is used was usable. -/
theorem Step.uses_usable (h : Step S a db t db' t') (hg : uses S t t' = some g) : Usable db g := by
  unfold uses at hg
  split at hg
  case h_1 =>
    cases hg
    cases h with
    | refreshed hrefresh => exact usable_of_consumed hrefresh
  case h_2 =>
    cases hg
    cases h with
    | oidc hchange =>
      cases hchange with
      | endpoint _ heffect =>
        cases heffect with
        | consumed hconsume =>
          obtain ⟨row, hrow, hhash, hpending, rfl, -⟩ := consume_eq_some hconsume
          exact .inr ⟨row, hrow, by rw [codeGrant, hhash], hpending⟩
  case h_3 => cases hg

/-! ### Organizations that are not active -/

/-- An organization that is not active has no usable grants. -/
def Settled (db : Db) : Prop :=
  ∀ o ∈ db.organizations, o.status ≠ .active → Ends ⟨o.id, none⟩ db

theorem Settled.of_organizations (h : Settled db)
    (horganizations : db'.organizations = db.organizations)
    (husable : ∀ g, Usable db' g → Usable db g ∨ ∀ organizationId ∈ g.organizationId,
      ∃ organization, db.organizations.lookup Organization.id organizationId = some organization ∧
        organization.status = .active) : Settled db' := by
  intro o ho hinactive g hcovers hg
  rw [horganizations] at ho
  obtain hg | hactive := husable g hg
  · exact h o ho hinactive g hcovers hg
  obtain ⟨organization, hlookup, hactive⟩ := hactive o.id (Scope.covers_eq_true.1 hcovers).1
  rw [(mem_iff_lookup Organization.id).1 ho] at hlookup
  cases hlookup
  exact hinactive hactive

theorem Settled.status {status : String} {previous : Option OrganizationStatus} (h : Settled db)
    (hstatus : setOrganizationStatus db organizationId status = .ok (previous, db')) :
    Settled db' := by
  have hlapses := lapses_setOrganizationStatus hstatus
  obtain ⟨-, rfl⟩ | ⟨newStatus, organization, hnew, hlookup, hdb'⟩ :=
    setOrganizationStatus_eq_ok hstatus
  · exact h
  have horganizations :
      db'.organizations = (writeStatus db organizationId newStatus).organizations := by
    rw [hdb']
    split_ifs <;> rfl
  intro o ho hinactive
  rw [horganizations] at ho
  obtain ⟨o₀, ho₀, heq⟩ := mem_update.1 ho
  by_cases hid : o₀.id = organizationId
  · rw [if_pos (by simpa using hid)] at heq
    subst heq hid
    obtain rfl : o₀ = organization :=
      Option.some.inj (((mem_iff_lookup Organization.id).1 ho₀).symm.trans hlookup)
    by_cases hactive : o₀.status = .active
    · exact ends_setOrganizationStatus hstatus hlookup hnew hinactive hactive
    · exact (h o₀ ho₀ hactive).lapses hlapses
  · rw [if_neg (by simpa using hid)] at heq
    subst heq
    exact (h o₀ ho₀ hinactive).lapses hlapses

/-- Every well-timed step leaves organizations that are not active without grants. -/
theorem Settled.step (h : Settled db) (hstep : Step S a db t db' t')
    (htimed : wellTimed db t = true) : Settled db' := by
  cases hstep with
  | oidc hchange =>
    obtain ⟨horganizations, hlapses | ⟨row, rawCode, rfl, rfl, hinserts⟩⟩ :=
      lapses_or_inserts hchange
    · exact h.of_organizations horganizations fun g hg => .inl (hlapses.usable hg)
    · refine h.of_organizations horganizations fun g hg => (hinserts g hg).imp_right ?_
      rintro rfl organizationId horganization
      simp only [wellTimed, Option.all_eq_true] at htimed
      have := htimed organizationId horganization
      simpa [Option.any_eq_true] using this
  | created hcreate =>
    obtain ⟨hgrows, horganizations, hactive⟩ := usable_createRefreshSession hcreate
    refine h.of_organizations horganizations fun g hg => (hgrows g hg).imp_right ?_
    rintro rfl
    exact hactive
  | refreshed hrefresh =>
    obtain ⟨hlapses, horganizations⟩ := lapses_consumeAndRotateRefreshSession hrefresh
    exact h.of_organizations horganizations fun g hg => .inl (hlapses.usable hg)
  | status hstatus => exact h.status hstatus
  | membership hlapses horganizations =>
    exact h.of_organizations horganizations fun g hg => .inl (hlapses.usable hg)

theorem lapses_surroundings (db : Db) (b : Surroundings) : Lapses db (b.apply db) where
  clock := Int.le_add_of_nonneg_right (Int.natCast_nonneg _)
  sessions s hs hlive :=
    ⟨s, (mem_of_revoke (mem_delete.1 hs).1 hlive).1, rfl, hlive, rfl⟩
  codes _ hrow _ := (mem_delete.1 hrow).1

theorem Settled.surroundings (h : Settled db) (b : Surroundings) : Settled (b.apply db) := by
  intro o ho hinactive
  refine (h o ?_ hinactive).lapses (lapses_surroundings db b)
  simp only [Surroundings.apply] at ho
  cases hfounded : b.founded.bind fun o => db.organizations.insert { id := o.1, kind := o.2 } with
  | none => simpa [hfounded] using ho
  | some =>
    rw [hfounded, Option.getD_some] at ho
    obtain ⟨new, -, hinsert⟩ := Option.bind_eq_some_iff.1 hfounded
    obtain rfl | ho := (mem_of_insert_eq_some hinsert).1 ho
    · exact absurd rfl hinactive
    · exact ho

/-- The scope of a well-timed step that ends it is left without grants. -/
theorem ends_of_deactivates (h : Settled db) (hnext : next S a db t = some (db', t'))
    (hfault : a.fault = none) (htimed : wellTimed db t = true)
    (hscope : deactivates db t = some scope) : Ends scope db' := by
  cases t with
  | setStatus =>
    simp only [deactivates] at hscope
    split at hscope
    case h_1 previous db₁ hstatus =>
      split_ifs at hscope with hnew
      cases hscope
      simp only [next, execute, hfault, hstatus, Except.map] at hnext
      cases hnext
      obtain ⟨hnone, -⟩ | ⟨newStatus, organization, hparsed, hlookup, -⟩ :=
        setOrganizationStatus_eq_ok hstatus
      · cases hnone
      obtain ⟨hmem, rfl⟩ := lookup_eq_some_iff.1 hlookup
      by_cases hactive : organization.status = .active
      · exact ends_setOrganizationStatus hstatus hlookup hparsed
          (fun heq => hnew (heq ▸ hparsed)) hactive
      · exact (h organization hmem hactive).lapses (lapses_setOrganizationStatus hstatus)
    case h_2 => cases hscope
  | upsertMembership =>
    simp only [deactivates] at hscope
    split at hscope
    case h_1 membership db₁ hupsert =>
      split_ifs at hscope with hactive
      cases hscope
      simp only [next, execute, hfault, hupsert, Except.map] at hnext
      cases hnext
      exact ends_upsertOrganizationMembership hupsert hactive
    case h_2 => cases hscope
  | upsertMembershipAsManager organizationId actor target status =>
    simp only [deactivates] at hscope
    split at hscope
    case h_1 membership db₁ hupsert =>
      split_ifs at hscope with hactive
      cases hscope
      simp only [next, execute, hfault, hupsert, Except.map] at hnext
      cases hnext
      obtain ⟨newStatus, newRole, -, hparse, -, -, hresult⟩ :=
        upsertOrganizationMembershipAsManager_eq_ok hupsert
      have hnew : membershipStatus? (trim status) ≠ some .active := by
        rw [(parseMembership_eq_ok hparse).1, ← (hresult.resolve_left fun h => hactive h.1).1]
        exact fun heq => hactive (Option.some.inj heq)
      refine ends_upsertOrganizationMembershipAsManager hupsert hactive ?_
      simpa [wellTimed, hnew] using htimed
    case h_2 => cases hscope
  | _ => cases hscope

/-! ### Runs -/

variable [DecidableEq ι] {c c' : Config ι Db Task} {s s' : Config ι Db Task × List Grant}
  {l : Action ι Input Surroundings}

theorem settled_step (h : Settled c.shared) (htimed : WellTimed c l)
    (hstep : (protocol S ι).system.step c l = some c') : Settled c'.shared := by
  obtain ⟨b, db', rfl, hdb', rfl⟩ | ⟨i, a, db', t', rfl, hnext, rfl⟩ := Protocol.step_cases hstep
  · cases hdb'
    exact h.surroundings b
  exact h.step (step_of_next hnext) htimed

/-- The usable grants of the scope have all been created since the beginning. -/
def OnlyCreated (scope : Scope) (db : Db) (created : List Grant) : Prop :=
  ∀ g, scope.covers g = true → Usable db g → g ∈ created

theorem OnlyCreated.step (h : OnlyCreated scope s.1.shared s.2)
    (hstep : ((protocol S ι).system.observe recordCreated).step s l = some s') :
    OnlyCreated scope s'.1.shared s'.2 ∧ usesCreated S scope s l s' = true := by
  obtain ⟨c, created⟩ := s
  obtain ⟨c', hbase, rfl⟩ := System.observe_step_eq_some.1 hstep
  simp only at h
  obtain ⟨b, db', rfl, hdb', rfl⟩ | ⟨i, a, db', t', rfl, hnext, rfl⟩ := Protocol.step_cases hbase
  · cases hdb'
    exact ⟨fun g hcovers hg => h g hcovers ((lapses_surroundings _ b).usable hg), rfl⟩
  have hi := step_of_next hnext
  simp only [OnlyCreated, recordCreated, usesCreated, Function.update_self, List.mem_append,
    Option.mem_toList]
  refine ⟨fun g hcovers hg => ?_, ?_⟩
  · obtain hold | hnew := hi.usable hg
    · exact .inr (h g hcovers hold)
    · exact .inl hnew
  · rw [Option.all_eq_true]
    intro g hg
    by_cases hcovers : scope.covers g = true
    · simp [hcovers, h g hcovers (hi.uses_usable hg)]
    · simp [hcovers]

/-- **The end of an organization or a membership is final.**  After a step that disables or
archives an organization or ends a membership, whatever happens then, the usable sessions and
pending codes of the organization (for a membership: of the organization and its member) have all
been created after that step, and so have those that are refreshed and exchanged. -/
theorem deactivation_final (S : Server) (c₀ : Config ι Db Task)
    (hsettled : Settled c₀.shared) (ls ls' : List (Action ι Input Surroundings))
    (c₁ c₂ : Config ι Db Task) (i : ι) (a : Input) (scope : Scope)
    (hrun : (protocol S ι).system.run c₀ ls = some c₁)
    (hstep : (protocol S ι).system.step c₁ (.request i a) = some c₂) (hfault : a.fault = none)
    (hscope : deactivates c₁.shared (c₁.request i) = some scope)
    (htimed : (protocol S ι).system.Along (fun c l _ => WellTimed c l) c₀
      (ls ++ [.request i a])) :
    ((protocol S ι).system.observe recordCreated).Along
      (fun s l s' => OnlyCreated scope s'.1.shared s'.2 ∧ usesCreated S scope s l s' = true)
      (c₂, []) ls' := by
  have hbefore := ((protocol S ι).system.along_append hrun).1 htimed
  have hsettled₁ : Settled c₁.shared :=
    System.run_invariant_along _ (I := fun c : Config ι Db Task => Settled c.shared)
      (fun _ _ _ h htimed hstep => settled_step h htimed hstep) hsettled hbefore.1 hrun
  have htimed₁ : WellTimed c₁ (.request i a) := System.Along.last htimed hrun hstep
  obtain ⟨db', t', hnext, rfl⟩ := (Protocol.step_request_eq_some _).1 hstep
  have hends : Ends scope db' := ends_of_deactivates hsettled₁ hnext hfault htimed₁ hscope
  refine System.along_of_invariant _ (I := fun s => OnlyCreated scope s.1.shared s.2)
    (fun s l s' h _ hstep => ?_) (fun g hcovers hg => absurd hg (hends g hcovers))
    (System.along_true _)
  exact ⟨(h.step hstep).1, h.step hstep⟩

/-! ### A code from before a suspension -/

/-- An organization with a member, a manager and a client. -/
def sampleTenant : Db where
  users := ⟨[{ id := "u", username := "u", email := "u" },
    { id := "m", username := "m", email := "m" }], by decide⟩
  principals := ⟨[⟨.user, "u", "u", true⟩, ⟨.user, "m", "m", true⟩], by decide⟩
  organizations := .single { id := "o", kind := .customer }
  memberships := ⟨[⟨"o", "user-u", .active, .member⟩, ⟨"o", "user-m", .active, .owner⟩],
    by decide⟩
  oidcClients := .single sampleClient

/-- The request 0 asks for a code, the request 1 ends the membership of its user, the request 2
makes it active again, and the request 3 presents the code. -/
def sampleTasks (ending : Task) : Fin 4 → Task
  | 0 =>
    .oidc (.endpoint (.received (.authorize
      { responseType := "code"
        clientId := "client"
        redirectUri := "https://app/callback"
        scope := "openid"
        nonce := some "n"
        codeChallenge := sampleVerifier
        codeChallengeMethod := "S256" } "u")))
  | 1 => ending
  | 2 => .upsertMembership "o" "user-u" "active" none
  | 3 =>
    .oidc (.endpoint (.received (.token
      { code := "k"
        redirectUri := "https://app/callback"
        clientId := some "client"
        codeVerifier := sampleVerifier })))

def sampleTenantConfig (ending : Task) : Config (Fin 4) Db Task :=
  ⟨sampleTenant, sampleTasks ending⟩

/-- The code is issued. -/
def issueRun : List (Action (Fin 4) Input Surroundings) :=
  [.request 0 {}, .request 0 {}, .request 0 { id := "1", code := "k" }, .request 0 {}]

/-- The membership is active again and the code is presented. -/
def returnRun : List (Action (Fin 4) Input Surroundings) :=
  [.request 2 {}, .request 3 {}, .request 3 {}, .request 3 {}]

/-- The suspension of a member by the platform. -/
def platformEnding : Task := .upsertMembership "o" "user-u" "suspended" none

/-- The suspension of a member by an owner of the organization. -/
def managerEnding : Task := .upsertMembershipAsManager "o" "user-m" "user-u" "suspended" none

/-- The scope that the request 1 ends, and whether grants from before are left alone afterwards. -/
def endingOutcome (ending : Task) : Option (Option Scope × Bool) :=
  ((protocol sampleServer (Fin 4)).system.run (sampleTenantConfig ending) issueRun).bind fun c₁ =>
    ((protocol sampleServer (Fin 4)).system.step c₁ (.request 1 {})).map fun c₂ =>
      (deactivates c₁.shared (c₁.request 1),
        decide (((protocol sampleServer (Fin 4)).system.observe recordCreated).Along
          (fun s l s' => usesCreated sampleServer ⟨"o", some "user-u"⟩ s l s' = true)
          (c₂, []) returnRun))

theorem endingOutcome_eq_some {ending : Task} {r : Option Scope × Bool}
    (h : endingOutcome ending = some r) :
    ∃ c₁ c₂, (protocol sampleServer (Fin 4)).system.run (sampleTenantConfig ending) issueRun =
        some c₁ ∧
      (protocol sampleServer (Fin 4)).system.step c₁ (.request 1 {}) = some c₂ ∧
      deactivates c₁.shared (c₁.request 1) = r.1 ∧
      (((protocol sampleServer (Fin 4)).system.observe recordCreated).Along
        (fun s l s' => usesCreated sampleServer ⟨"o", some "user-u"⟩ s l s' = true)
        (c₂, []) returnRun ↔ r.2 = true) := by
  obtain ⟨c₁, hrun, h⟩ := Option.bind_eq_some_iff.1 h
  obtain ⟨c₂, hstep, rfl⟩ := Option.map_eq_some_iff.1 h
  exact ⟨c₁, c₂, hrun, hstep, rfl, decide_eq_true_iff.symm⟩

theorem deactivation_final_platform :
    ∃ c₁ c₂, (protocol sampleServer (Fin 4)).system.run (sampleTenantConfig platformEnding)
        issueRun = some c₁ ∧
      (protocol sampleServer (Fin 4)).system.step c₁ (.request 1 {}) = some c₂ ∧
      ((protocol sampleServer (Fin 4)).system.observe recordCreated).Along
        (fun s l s' => OnlyCreated ⟨"o", some "user-u"⟩ s'.1.shared s'.2 ∧
          usesCreated sampleServer ⟨"o", some "user-u"⟩ s l s' = true) (c₂, []) returnRun := by
  have hsettled : Settled sampleTenant := by
    intro o ho hinactive
    obtain rfl := List.mem_singleton.1 ho
    exact absurd rfl hinactive
  have htimed : (protocol sampleServer (Fin 4)).system.Along (fun c l _ => WellTimed c l)
      (sampleTenantConfig platformEnding) (issueRun ++ [.request 1 {}]) := by decide +kernel
  have heval : endingOutcome platformEnding = some (some ⟨"o", some "user-u"⟩, true) := by
    decide +kernel
  obtain ⟨c₁, c₂, hrun, hstep, hscope, -⟩ := endingOutcome_eq_some heval
  exact ⟨c₁, c₂, hrun, hstep, deactivation_final sampleServer _ hsettled issueRun returnRun c₁ c₂ 1
    {} _ hrun hstep rfl hscope htimed⟩

/-- A code issued before the suspension of its user by a manager is exchanged after it. -/
theorem code_survives_suspension :
    ∃ c₁ c₂, (protocol sampleServer (Fin 4)).system.run (sampleTenantConfig managerEnding)
        issueRun = some c₁ ∧
      (protocol sampleServer (Fin 4)).system.step c₁ (.request 1 {}) = some c₂ ∧
      deactivates c₁.shared (c₁.request 1) = some ⟨"o", some "user-u"⟩ ∧
      ¬ ((protocol sampleServer (Fin 4)).system.observe recordCreated).Along
        (fun s l s' => usesCreated sampleServer ⟨"o", some "user-u"⟩ s l s' = true)
        (c₂, []) returnRun := by
  have heval : endingOutcome managerEnding = some (some ⟨"o", some "user-u"⟩, false) := by
    decide +kernel
  obtain ⟨c₁, c₂, hrun, hstep, hscope, huses⟩ := endingOutcome_eq_some heval
  exact ⟨c₁, c₂, hrun, hstep, hscope, by simp [huses]⟩

end Keylo.Tenancy
