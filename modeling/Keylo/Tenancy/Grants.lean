import Keylo.Memberships
import Keylo.Oidc.Configuration
import Keylo.Sessions

/-!
# Grants that live in an organization

A refresh session and a pending authorization code are grants of a user in an organization. This
file says which grants are usable (`Usable`), and what the transactions on sessions, codes,
memberships and organizations do to them. Most of them let grants lapse and add none (`Lapses`);
the end of an organization or of a membership leaves none in its scope (`Ends`).

## Main definitions

* `Usable` : the grants that can be used.
* `Lapses` : a change that adds no usable grant.
* `Scope` : the grants of an organization, or of one member of it.

## Main results

* `ends_setOrganizationStatus`, `ends_upsertOrganizationMembership`,
  `ends_upsertOrganizationMembershipAsManager` : what the three ways to end an organization or a
  membership leave.
* `usable_createRefreshSession` : the one grant that a login adds.
-/

namespace Keylo.Tenancy

open Relational Oidc Table

/-! ### Grants -/

inductive GrantKind
  | session
  | code
deriving DecidableEq, Repr

/-- A session or a code, with its organization and the principal of its user. -/
structure Grant where
  kind : GrantKind
  /-- The id of the session, or the hash of the code. -/
  key : String
  organizationId : Option String
  principalId : String
deriving DecidableEq, Repr

/-- A session as a grant. -/
def sessionGrant (s : RefreshSession) : Grant := ⟨.session, s.id, s.organizationId, s.principalId⟩

/-- A code as a grant to the user it was issued for. -/
def codeGrant (row : AuthorizationCodeRow) : Grant :=
  ⟨.code, row.codeHash, row.grant.organizationId, principalId .user row.grant.userId⟩

/-- The grant is a session that is neither revoked nor expired, or a code that is not consumed. -/
def Usable (db : Db) (g : Grant) : Prop :=
  (∃ s ∈ db.refreshSessions, sessionGrant s = g ∧ s.revokedAt = none ∧ db.clock < s.expiresAt) ∨
    ∃ row ∈ db.authorizationCodes, codeGrant row = g ∧ row.consumedAt = none

/-- An organization, or one of its members. -/
structure Scope where
  organizationId : String
  principalId : Option String := none
deriving DecidableEq, Repr

/-- The grant belongs to the scope. -/
def Scope.covers (scope : Scope) (g : Grant) : Bool :=
  g.organizationId == some scope.organizationId && scope.principalId.all (· == g.principalId)

variable {db db' db'' : Db} {g : Grant} {scope : Scope}

theorem Scope.covers_eq_true : scope.covers g = true ↔
    g.organizationId = some scope.organizationId ∧
      ∀ principalId ∈ scope.principalId, principalId = g.principalId := by
  simp only [covers, Bool.and_eq_true, beq_iff_eq, Option.all_eq_true, Option.mem_def]

/-! ### Changes that add no grant -/

/-- The change adds no usable session and no pending code. -/
structure Lapses (db db' : Db) : Prop where
  clock : db.clock ≤ db'.clock
  sessions : ∀ s ∈ db'.refreshSessions, s.revokedAt = none → ∃ s₀ ∈ db.refreshSessions,
    sessionGrant s₀ = sessionGrant s ∧ s₀.revokedAt = none ∧ s₀.expiresAt = s.expiresAt
  codes : ∀ row ∈ db'.authorizationCodes, row.consumedAt = none → row ∈ db.authorizationCodes

theorem Lapses.usable (h : Lapses db db') (hg : Usable db' g) : Usable db g := by
  obtain ⟨s, hs, rfl, hlive, hunexpired⟩ | ⟨row, hrow, rfl, hpending⟩ := hg
  · obtain ⟨s₀, hs₀, hgrant, hlive₀, hexpires⟩ := h.sessions s hs hlive
    exact .inl ⟨s₀, hs₀, hgrant, hlive₀, hexpires ▸ h.clock.trans_lt hunexpired⟩
  · exact .inr ⟨row, h.codes row hrow hpending, rfl, hpending⟩

theorem Lapses.of_sessions (hclock : db'.clock = db.clock)
    (hsessions : db'.refreshSessions = db.refreshSessions)
    (hcodes : ∀ row ∈ db'.authorizationCodes, row.consumedAt = none →
      row ∈ db.authorizationCodes) : Lapses db db' where
  clock := hclock.ge
  sessions s hs hlive := ⟨s, hsessions ▸ hs, rfl, hlive, rfl⟩
  codes := hcodes

theorem Lapses.of_eq (hclock : db'.clock = db.clock)
    (hsessions : db'.refreshSessions = db.refreshSessions)
    (hcodes : db'.authorizationCodes = db.authorizationCodes) : Lapses db db' :=
  .of_sessions hclock hsessions fun _ hrow _ => hcodes ▸ hrow

theorem Lapses.refl (db : Db) : Lapses db db := .of_eq rfl rfl rfl

theorem Lapses.trans (h : Lapses db db') (h' : Lapses db' db'') : Lapses db db'' where
  clock := h.clock.trans h'.clock
  sessions s hs hlive := by
    obtain ⟨s₁, hs₁, hgrant₁, hlive₁, hexpires₁⟩ := h'.sessions s hs hlive
    obtain ⟨s₀, hs₀, hgrant₀, hlive₀, hexpires₀⟩ := h.sessions s₁ hs₁ hlive₁
    exact ⟨s₀, hs₀, hgrant₀.trans hgrant₁, hlive₀, hexpires₀.trans hexpires₁⟩
  codes row hrow hpending := h.codes row (h'.codes row hrow hpending) hpending

/-- After a revocation, a session that is not revoked was not selected. -/
theorem mem_of_revoke {sessions : Table RefreshSession} {p : RefreshSession → Bool} {now : Time}
    {reason : Option String} {s : RefreshSession}
    (hs : s ∈ sessions.update p (revokeSession now reason)) (hlive : s.revokedAt = none) :
    s ∈ sessions ∧ p s = false := by
  obtain ⟨s₀, hs₀, rfl⟩ := mem_update.1 hs
  by_cases hp : p s₀ = true
  · simp [hp, revokeSession] at hlive
  · rw [if_neg hp]
    exact ⟨hs₀, Bool.eq_false_iff.2 hp⟩

theorem Lapses.revoke (db : Db) (p : RefreshSession → Bool) (now : Time) (reason : Option String) :
    Lapses db { db with refreshSessions := db.refreshSessions.update p (revokeSession now reason) }
    where
  clock := le_refl _
  sessions s hs hlive := ⟨s, (mem_of_revoke hs hlive).1, rfl, hlive, rfl⟩
  codes _ hrow _ := hrow

theorem Lapses.discard (db : Db) (p : AuthorizationCodeRow → Bool) :
    Lapses db { db with authorizationCodes := db.authorizationCodes.delete p } :=
  .of_sessions rfl rfl fun _ hrow _ => (mem_delete.1 hrow).1

/-! ### The end of organizations and memberships -/

/-- No usable grant is left in the scope. -/
def Ends (scope : Scope) (db : Db) : Prop := ∀ g, scope.covers g = true → ¬ Usable db g

variable {organizationId principalId status : String} {managementRole : Option String}
  {membership : Membership}

theorem lapses_discard_revoke_organization (db : Db) (organizationId reason : String) :
    Lapses db (discardOrganizationCodes (revokeOrganizationSessions db organizationId reason)
      organizationId) :=
  (Lapses.revoke ..).trans (Lapses.discard ..)

theorem ends_discard_revoke_organization (db : Db) (organizationId reason : String) :
    Ends ⟨organizationId, none⟩ (discardOrganizationCodes
      (revokeOrganizationSessions db organizationId reason) organizationId) := by
  intro g hcovers hg
  have horganization := (Scope.covers_eq_true.1 hcovers).1
  obtain ⟨s, hs, rfl, hlive, hunexpired⟩ | ⟨row, hrow, rfl, hpending⟩ := hg
  · have hkept := (mem_of_revoke hs hlive).2
    simp [show s.organizationId = some organizationId from horganization, hlive] at hkept
    exact absurd hunexpired (not_lt.2 hkept)
  · have hkept := (mem_delete.1 hrow).2
    simp [show row.grant.organizationId = some organizationId from horganization, hpending]
      at hkept

theorem lapses_revokeMemberSessions (db : Db) (organizationId principalId reason : String) :
    Lapses db (revokeMemberSessions db organizationId principalId reason) := Lapses.revoke ..

theorem not_usable_session_of_revokeMember {db : Db} {reason : String} {s : RefreshSession}
    (hs : s ∈ (revokeMemberSessions db organizationId principalId reason).refreshSessions)
    (hcovers : (Scope.mk organizationId (some principalId)).covers (sessionGrant s) = true)
    (hlive : s.revokedAt = none) : ¬ db.clock < s.expiresAt := by
  obtain ⟨horganization, hprincipal⟩ := Scope.covers_eq_true.1 hcovers
  have hkept := (mem_of_revoke hs hlive).2
  simpa [show s.organizationId = some organizationId from horganization,
    show principalId = s.principalId from hprincipal principalId rfl, hlive] using hkept

theorem Ends.lapses (h : Ends scope db) (hlapses : Lapses db db') : Ends scope db' :=
  fun g hcovers hg => h g hcovers (hlapses.usable hg)

variable {previous : Option OrganizationStatus}

theorem lapses_setOrganizationStatus
    (h : setOrganizationStatus db organizationId status = .ok (previous, db')) : Lapses db db' := by
  obtain ⟨-, rfl⟩ | ⟨newStatus, organization, -, -, rfl⟩ := setOrganizationStatus_eq_ok h
  · exact .refl _
  have hwrite : Lapses db (writeStatus db organizationId newStatus) := .of_eq rfl rfl rfl
  split_ifs
  · exact hwrite.trans (lapses_discard_revoke_organization ..)
  · exact hwrite

/-- An active organization that is disabled or archived is left without grants. -/
theorem ends_setOrganizationStatus {organization : Organization} {newStatus : OrganizationStatus}
    (h : setOrganizationStatus db organizationId status = .ok (previous, db'))
    (horganization : db.organizations.lookup Organization.id organizationId = some organization)
    (hstatus : organizationStatus? (trim status) = some newStatus) (hnew : newStatus ≠ .active)
    (hactive : organization.status = .active) : Ends ⟨organizationId, none⟩ db' := by
  rw [setOrganizationStatus, hstatus] at h
  simp only [horganization, hactive, hnew, ne_eq, not_false_eq_true, and_self, if_true] at h
  split at h
  · cases h
  · cases h
    exact ends_discard_revoke_organization _ _ _

theorem lapses_upsertOrganizationMembership
    (h : upsertOrganizationMembership db organizationId principalId status managementRole =
      .ok (membership, db')) : Lapses db db' := by
  obtain ⟨newStatus, newRole, -, -, -, -, rfl⟩ := upsertOrganizationMembership_eq_ok h
  have hwrite : Lapses db (writeMembership db organizationId principalId newStatus newRole) :=
    .of_eq rfl rfl rfl
  split_ifs
  · exact (hwrite.trans (lapses_revokeMemberSessions ..)).trans (Lapses.discard ..)
  · exact hwrite

/-- A membership that the platform ends is left without grants. -/
theorem ends_upsertOrganizationMembership
    (h : upsertOrganizationMembership db organizationId principalId status managementRole =
      .ok (membership, db')) (hstatus : membership.status ≠ .active) :
    Ends ⟨organizationId, some principalId⟩ db' := by
  obtain ⟨newStatus, newRole, principal, -, hprincipal, hnew, rfl⟩ :=
    upsertOrganizationMembership_eq_ok h
  rw [if_pos (hnew ▸ hstatus)]
  intro g hcovers hg
  obtain ⟨s, hs, rfl, hlive, hunexpired⟩ | ⟨row, hrow, rfl, hpending⟩ := hg
  · exact not_usable_session_of_revokeMember hs hcovers hlive hunexpired
  obtain ⟨horganization, huser⟩ := Scope.covers_eq_true.1 hcovers
  obtain ⟨hmem, hid⟩ := lookup_eq_some_iff.1 hprincipal
  have howner : principal.principalType = .user ∧ principal.refId = row.grant.userId :=
    principalId_inj.1 (hid.trans (huser principalId rfl))
  have hkept := (mem_delete.1 hrow).2
  simp only [show row.grant.organizationId = some organizationId from horganization, hpending,
    beq_self_eq_true, Option.isNone_none, Bool.and_self, Bool.true_and,
    any_eq_false] at hkept
  have := hkept principal hmem
  simp [howner.1, howner.2, hid] at this

section Manager

variable {actorPrincipalId targetPrincipalId : String}
  (h : upsertOrganizationMembershipAsManager db organizationId actorPrincipalId
    targetPrincipalId status managementRole = .ok (membership, db'))

include h

theorem lapses_upsertOrganizationMembershipAsManager : Lapses db db' := by
  obtain ⟨newStatus, newRole, -, -, -, -, ⟨-, rfl⟩ | ⟨-, rfl⟩⟩ :=
    upsertOrganizationMembershipAsManager_eq_ok h
  · exact .refl _
  · have hwrite : Lapses db
        (writeMembership db organizationId targetPrincipalId newStatus newRole) :=
      .of_eq rfl rfl rfl
    split_ifs
    · exact hwrite.trans (lapses_revokeMemberSessions ..)
    · exact hwrite

/-- A membership that a manager ends is left without grants if it has no pending codes. -/
theorem ends_upsertOrganizationMembershipAsManager (hstatus : membership.status ≠ .active)
    (hcodes : ∀ row ∈ db.authorizationCodes, row.consumedAt = none →
      (Scope.mk organizationId (some targetPrincipalId)).covers (codeGrant row) = false) :
    Ends ⟨organizationId, some targetPrincipalId⟩ db' := by
  have hlapses := lapses_upsertOrganizationMembershipAsManager h
  obtain ⟨newStatus, newRole, -, -, -, -, ⟨hactive, -⟩ | ⟨hnew, rfl⟩⟩ :=
    upsertOrganizationMembershipAsManager_eq_ok h
  · exact absurd hactive hstatus
  intro g hcovers hg
  obtain ⟨s, hs, rfl, hlive, hunexpired⟩ | ⟨row, hrow, rfl, hpending⟩ := hg
  · rw [if_pos (hnew ▸ hstatus)] at hs hunexpired
    exact not_usable_session_of_revokeMember hs hcovers hlive hunexpired
  · rw [hcodes row (hlapses.codes row hrow hpending) hpending] at hcovers
    cases hcovers

end Manager

theorem lapses_joinOrganizationMembership
    (h : joinOrganizationMembership db organizationId principalId = .ok (membership, db')) :
    Lapses db db' := by
  obtain ⟨memberships, rfl⟩ := joinOrganizationMembership_eq_ok h
  exact .of_eq rfl rfl rfl

/-! ### Sessions -/

variable {crates : Crates} {refreshToken : String} {new : Replacement}
  {expectedOrganizationId : Option String} {result : ConsumeRefreshSessionResult}

/-- A rotation only changes the current tokens of its session. -/
theorem lapses_rotate {now : Time} {session : RefreshSession}
    (h : rotate crates db now refreshToken session new = .ok (result, db')) :
    Lapses db db' ∧ db'.organizations = db.organizations := by
  obtain ⟨-, tokens, -, rfl⟩ := rotate_eq_ok h
  refine ⟨⟨le_refl _, fun s hs hlive => ?_, fun _ hrow _ => hrow⟩, rfl⟩
  obtain ⟨s₀, hs₀, rfl⟩ := mem_update.1 hs
  refine ⟨s₀, hs₀, ?_⟩
  split_ifs at hlive ⊢
  · exact ⟨rfl, hlive, rfl⟩
  · exact ⟨rfl, hlive, rfl⟩

theorem lapses_consumeAndRotateRefreshSession
    (h : consumeAndRotateRefreshSession crates db refreshToken expectedOrganizationId new =
      .ok (result, db')) : Lapses db db' ∧ db'.organizations = db.organizations := by
  unfold consumeAndRotateRefreshSession at h
  split at h
  · cases h
    exact ⟨.refl _, rfl⟩
  split_ifs at h
  · cases h
    exact ⟨.refl _, rfl⟩
  · cases h
    exact ⟨Lapses.revoke .., rfl⟩
  unfold consumeLocked at h
  split_ifs at h
  · cases h
    exact ⟨.refl _, rfl⟩
  · cases h
    exact ⟨Lapses.revoke .., rfl⟩
  · exact lapses_rotate h

/-- A session whose token is consumed was usable. -/
theorem usable_of_consumed {consumed : ConsumedRefreshSession}
    (h : consumeAndRotateRefreshSession crates db refreshToken expectedOrganizationId new =
      .ok (.consumed consumed, db')) :
    Usable db ⟨.session, consumed.sessionId, consumed.organizationId, consumed.principalId⟩ := by
  obtain ⟨token, session, hfound, rfl, -, -, -, hlive, hunexpired⟩ :=
    consumeAndRotateRefreshSession_eq_consumed h
  unfold refreshSessionOfToken at hfound
  split at hfound
  · cases hfound
  split at hfound
  · cases hfound
  case h_2 session' hsession =>
    cases hfound
    exact .inl ⟨session, (lookup_eq_some_iff.1 hsession).1, rfl, hlive, hunexpired⟩

/-- The grant of a new session. -/
def newSession (params : CreateRefreshSessionParams) : Grant :=
  ⟨.session, params.sessionId, params.organizationId, params.principalId⟩

/-- A login adds one grant, in an active organization if in any. -/
theorem usable_createRefreshSession {params : CreateRefreshSessionParams} {u : Unit}
    (h : createRefreshSession crates db params = .ok (u, db')) :
    (∀ g, Usable db' g → Usable db g ∨ g = newSession params) ∧
      db'.organizations = db.organizations ∧
      ∀ organizationId ∈ params.organizationId, ∃ organization,
        db.organizations.lookup Organization.id organizationId = some organization ∧
          organization.status = .active := by
  obtain ⟨hcontext, sessions, tokens, hsessions, -, rfl⟩ := createRefreshSession_eq_ok h
  refine ⟨fun g hg => ?_, rfl, fun organizationId horganization => ?_⟩
  · obtain ⟨s, hs, rfl, hlive, hunexpired⟩ | ⟨row, hrow, rfl, hpending⟩ := hg
    · obtain rfl | hs := (mem_of_insert_eq_some hsessions).1 hs
      · exact .inr rfl
      · exact .inl (.inl ⟨s, hs, rfl, hlive, hunexpired⟩)
    · exact .inl (.inr ⟨row, hrow, rfl, hpending⟩)
  · have hactive := hcontext organizationId horganization
    unfold lockActiveOrganizationSessionContext at hactive
    split at hactive
    · cases hactive
    case h_2 organization hlookup =>
      split_ifs at hactive with hstatus
      exact ⟨organization, hlookup, not_not.1 hstatus⟩

/-! ### Codes -/

/-- A step of the OIDC endpoints or of a change of clients inserts the code it has at hand, or adds
no grant. -/
theorem lapses_or_inserts {S : Server} {a : Input} {t t' : Configuration.Task}
    (h : Configuration.Change S a db t db' t') :
    db'.organizations = db.organizations ∧
      (Lapses db db' ∨ ∃ row rawCode, t = .inserting row rawCode ∧
        t' = .endpoint (.redirected (.ok rawCode)) ∧
        ∀ g, Usable db' g → Usable db g ∨ g = codeGrant row) := by
  cases h with
  | endpoint hp heffect =>
    cases heffect with
    | created => cases hp
    | consumed hconsume =>
      obtain ⟨row, -, -, -, -, -, -, -, -, codes, rfl, hcodes⟩ := consume_eq_some hconsume
      refine ⟨rfl, .inl (.of_sessions rfl rfl fun row' hrow' hpending => ?_)⟩
      obtain rfl | ⟨hrow', -⟩ := (hcodes row').1 hrow'
      · cases hpending
      · exact hrow'
    | _ => exact ⟨rfl, .inl (.refl _)⟩
  | @inserted row rawCode codes hinsert =>
    refine ⟨rfl, .inr ⟨row, rawCode, rfl, rfl, fun g hg => ?_⟩⟩
    obtain ⟨s, hs, rfl, hlive, hunexpired⟩ | ⟨row', hrow', rfl, hpending⟩ := hg
    · exact .inl (.inl ⟨s, hs, rfl, hlive, hunexpired⟩)
    obtain rfl | hrow' := (mem_of_insert_eq_some hinsert).1 hrow'
    · exact .inr rfl
    · exact .inl (.inr ⟨row', hrow', rfl, hpending⟩)
  | updated hupdate =>
    obtain ⟨-, rfl⟩ | ⟨_, clients, codes, -, rfl, -, hcodes⟩ :=
      updateOidcClientScoped_eq_ok hupdate
    · exact ⟨rfl, .inl (.refl _)⟩
    · exact ⟨rfl, .inl (.of_sessions rfl rfl fun row hrow _ => ((hcodes row).1 hrow).1)⟩
  | rotated =>
    exact ⟨rfl, .inl (.of_sessions rfl rfl fun _ hrow _ => (mem_delete.1 hrow).1)⟩
  | _ => exact ⟨rfl, .inl (.refl _)⟩

end Keylo.Tenancy
