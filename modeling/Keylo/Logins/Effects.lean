import Keylo.Anonymous.Frames
import Keylo.Logins.Requests

/-!
# What the statements of logins do

A statement of a login or of a change of credentials leaves sessions as they are, except for the
few that create or revoke them.

## Main definitions

* `Quiet`, `Shrinks` : no session is written, and no refresh session is created.
* `Phase.Sound` : the parts of a handler that are left write no session, and the session that is to
  be stored is one of the principal of the login.
* `Effect` : what a statement does.

## Main results

* `effect_of_proceed` : every statement has one of the effects.
-/

namespace Keylo.Logins

open Relational Transition Handler Anonymous Table
open Program (guarantees_pure results_return Ensures ensures_return ensures_throw)

variable {state : AppState} {ι : Type*} {db db' db₁ : Db}

/-! ### Sessions -/

/-- A refresh session that is neither revoked nor expired. -/
def live (db : Db) (s : RefreshSession) : Bool := s.revokedAt.isNone && db.clock < s.expiresAt

/-- No session is written, and no principal is removed. -/
structure Quiet (db db' : Db) : Prop where
  refreshSessions : db'.refreshSessions = db.refreshSessions
  browserSessions : db'.browserSessions = db.browserSessions
  clock_le : db.clock ≤ db'.clock
  hasOwner : ∀ owner, HasOwner db owner → HasOwner db' owner

theorem Quiet.refl (db : Db) : Quiet db db := ⟨rfl, rfl, le_rfl, fun _ => id⟩

theorem Quiet.tick (db : Db) (n : Nat) : Quiet db (db.tick n) :=
  ⟨rfl, rfl, Int.le_add_of_nonneg_right (Int.natCast_nonneg n), fun _ => id⟩

instance : Mirrors Quiet where
  tick := Quiet.tick
  mirror db n _ _ _ _ := ⟨rfl, rfl, (Quiet.tick db n).clock_le, hasOwner_upsertPrincipal.2⟩

/-- No refresh session is created, and none that is revoked is live again. -/
structure Shrinks (db db' : Db) : Prop where
  refresh : ∀ s ∈ db'.refreshSessions, s.revokedAt = none → ∃ s' ∈ db.refreshSessions,
    s'.id = s.id ∧ s'.principalId = s.principalId ∧ s'.revokedAt = none ∧
      s'.expiresAt = s.expiresAt
  clock_le : db.clock ≤ db'.clock

theorem Quiet.shrinks (h : Quiet db db') : Shrinks db db' where
  refresh s hs hrevoked := ⟨s, h.refreshSessions ▸ hs, rfl, rfl, hrevoked, rfl⟩
  clock_le := h.clock_le

/-- A revocation keeps the sessions that are left as they were. -/
theorem eq_of_not_revoked {t : Table RefreshSession} {p : RefreshSession → Bool} {now : Time}
    {reason : Option String} {s : RefreshSession} (hs : s ∈ t.update p (revokeSession now reason))
    (hrevoked : s.revokedAt = none) : s ∈ t ∧ p s = false := by
  obtain ⟨r, hr, rfl⟩ := mem_update.1 hs
  cases hp : p r with
  | false => simpa [hp] using hr
  | true => simp [hp, revokeSession] at hrevoked

theorem eq_of_not_revoked_browser {t : Table BrowserSession} {p : BrowserSession → Bool}
    {now : Time} {s : BrowserSession} (hs : s ∈ t.update p (revokeBrowserSession now))
    (hrevoked : s.revokedAt = none) : s ∈ t ∧ p s = false := by
  obtain ⟨r, hr, rfl⟩ := mem_update.1 hs
  cases hp : p r with
  | false => simpa [hp] using hr
  | true => simp [hp, revokeBrowserSession] at hrevoked

theorem hasActive_eq_false {id : String} :
    hasActiveRefreshSessionForPrincipal db id = false ↔
      ∀ s ∈ db.refreshSessions, s.principalId = id → live db s = false := by
  simp only [hasActiveRefreshSessionForPrincipal, any_eq_false]
  refine forall_congr' fun s => forall_congr' fun _ => ?_
  by_cases hid : s.principalId = id <;> simp [hid, live]

/-! ### Parts of handlers -/

/-- The session of the tokens is one of the principal of the login. -/
def IssuedFor (principal : Option Principal) (issued : Issued) : Prop :=
  ∀ params ∈ issued.session, ∃ p ∈ principal, params.principalId = p.id

/-- The principal of a user is its own, and what is left to do writes no session. -/
structure Login.Sound (login : Login) : Prop where
  owner : ∀ user ∈ login.user, ∀ principal ∈ login.principal, principal.owner = (.user, user.id)
  guarantees : login.issue.Guarantees Quiet
  issued : login.issue.Results fun r => ∀ issued, r = .ok issued → IssuedFor login.principal issued

theorem guarantees_signTokens {G : Db → Db → Prop} [Ticks G]
    (subject : Subject) (time : Time) : (signTokens state subject time).run.Guarantees G :=
  .bindExcept (.liftExcept guarantees_draw) fun _ =>
  .bindExcept (guarantees_sign state _) fun _ =>
  .bindExcept (.liftExcept guarantees_draw) fun _ =>
  .bindExcept (guarantees_sign state _) fun _ =>
  .bindExcept (.liftExcept guarantees_draw) fun _ => guarantees_pure _

/-- The session is for the client and the principal of the subject. -/
theorem results_signTokens_session (subject : Subject) (time : Time) :
    (signTokens state subject time).run.Results fun r =>
      ∀ issued, r = .ok issued → ∀ params ∈ issued.session, params.clientId = subject.clientId ∧
        ∃ p ∈ subject.principal, params.principalId = p.id := by
  refine .bindExcept_of_forall fun _ => .bindExcept_of_forall fun _ =>
    .bindExcept_of_forall fun _ => .bindExcept_of_forall fun _ =>
    .bindExcept_of_forall fun _ => results_return fun params hparams => ?_
  obtain ⟨principal, hprincipal, rfl⟩ := Option.map_eq_some_iff.1 hparams
  exact ⟨rfl, principal, hprincipal, rfl⟩

theorem results_signTokens {subject : Subject} {time : Time} {principal : Option Principal}
    (hprincipal : subject.principal = principal) :
    (signTokens state subject time).run.Results fun r =>
      ∀ issued, r = .ok issued → IssuedFor principal issued := by
  subst hprincipal
  exact (results_signTokens_session subject time).mono fun _ h issued hr params hparams =>
    (h issued hr params hparams).2

theorem results_ensurePrincipal (t : PrincipalType) (refId : String) :
    (Handler.ensurePrincipal t refId).run.Results fun r =>
      ∀ found, r = .ok found → ∀ principal ∈ found, principal.owner = (t, refId) := by
  refine .bindExcept_of_forall fun owner => ?_
  cases owner with
  | none => exact results_return nofun
  | some =>
    refine .bindExcept_of_forall fun _ => results_return ?_
    rintro principal ⟨⟩
    rfl

variable (payload : AuthPayload)

theorem guarantees_sessionOrganization (principal : Option Principal) :
    (sessionOrganization payload principal).run.Guarantees Quiet := by
  cases principal with
  | none =>
    dsimp only [sessionOrganization]
    split <;> exact guarantees_pure _
  | some principal =>
    exact guarantees_resolveRequestedOrganizationSessionScope _ principal

theorem ensures_userLogin (user : User) :
    Ensures Quiet (fun login => login.Sound ∧ login.user = some user)
      (userLogin state payload user) := by
  refine .of_guarantees (.liftExcept guarantees_now) fun _ =>
    .of_guarantees (.liftExcept (guarantees_isUserAdmin user.id)) fun _ =>
    .bind ⟨.adapt (guarantees_ensurePrincipal .user user.id),
      .adapt (results_ensurePrincipal .user user.id)⟩ fun principal hprincipal =>
    .of_guarantees (guarantees_sessionOrganization payload principal) fun _ =>
    ensures_return ⟨⟨?_, guarantees_signTokens _ _, results_signTokens rfl⟩, rfl⟩
  rintro _ ⟨⟩ p hp
  exact hprincipal p hp

theorem ensures_adminToken :
    Ensures Quiet (fun login => login.Sound ∧ login.user = none) (adminToken state payload) := by
  unfold adminToken
  split_ifs
  · exact ensures_throw
  · exact ensures_throw
  refine .of_guarantees (.liftExcept guarantees_consult) fun _ => ?_
  split
  · exact ensures_throw
  refine .of_guarantees (.liftExcept guarantees_consult) fun _ => ?_
  split
  · exact ensures_throw
  refine .of_guarantees (.adapt guarantees_fetch) fun found => ?_
  cases found with
  | none => exact ensures_throw
  | some =>
    dsimp only
    split_ifs
    · exact ensures_throw
    · exact ensures_throw
    exact .of_guarantees (.liftExcept guarantees_now) fun _ =>
      .of_guarantees (.adapt (guarantees_ensurePrincipal .client _)) fun _ =>
      ensures_return ⟨⟨nofun, guarantees_signTokens _ _, results_signTokens rfl⟩, rfl⟩

section External

variable {G : Db → Db → Prop} [Ticks G]

theorem guarantees_issueExternal (user : User) (principal : Principal) (clientId : String)
    (organizationId : Option String) :
    (issueExternal state user principal clientId organizationId).run.Guarantees G :=
  .bindExcept (.liftExcept guarantees_now) fun _ =>
  .bindExcept (.liftExcept (guarantees_isUserAdmin user.id)) fun _ =>
  guarantees_signTokens _ _

theorem guarantees_checkExternalOrganization (principal : Principal)
    (organizationId : Option String) :
    (checkExternalOrganization principal organizationId).run.Guarantees G := by
  cases organizationId with
  | none => exact guarantees_pure _
  | some =>
    refine .bindExcept (.adapt guarantees_fetch) fun membership => ?_
    cases membership <;> exact guarantees_pure _

omit [Ticks G] in
theorem ensures_issueExternalUserSession [Mirrors G] (user : User) (clientId : String)
    (organizationId : Option String) :
    Ensures G (fun login => login.user = none ∧ ∃ principal, principal.owner = (.user, user.id) ∧
        login.principal = some principal ∧
        login.issue = (issueExternal state user principal clientId organizationId).run)
      (issueExternalUserSession state user clientId organizationId) := by
  unfold issueExternalUserSession
  split
  · exact ensures_throw
  refine .bind ⟨.adapt (guarantees_ensurePrincipal .user user.id),
    .adapt (results_ensurePrincipal .user user.id)⟩ fun principal hprincipal => ?_
  cases principal with
  | none => exact ensures_throw
  | some principal =>
    exact .of_guarantees (guarantees_checkExternalOrganization principal organizationId)
      fun _ => ensures_return ⟨rfl, principal, hprincipal principal rfl, rfl, rfl⟩

end External

theorem Login.Sound.external {user : User} {principal : Principal} {clientId : String}
    {organizationId : Option String} {login : Login} (huser : login.user = none)
    (hprincipal : login.principal = some principal)
    (hissue : login.issue = (issueExternal state user principal clientId organizationId).run) :
    login.Sound := by
  refine ⟨by simp [huser], hissue ▸ guarantees_issueExternal _ _ _ _, ?_⟩
  rw [hissue, hprincipal]
  exact .bindExcept_of_forall fun _ => .bindExcept_of_forall fun _ => results_signTokens rfl

theorem guarantees_oidcLogin (request : OidcLoginRequest) :
    (oidcLogin request).run.Guarantees Quiet := by
  refine .bindExcept ?_ fun _ =>
    .bindExcept guarantees_enforcePasswordLoginLimits fun _ => guarantees_pure _
  refine .bindExcept (.adapt guarantees_fetch) fun client => ?_
  split
  · exact guarantees_pure _
  split
  · exact guarantees_pure _
  · refine .bindExcept (.adapt guarantees_fetch) fun _ => ?_
    split <;> exact guarantees_pure _

theorem guarantees_tokenRequest (payload : AuthPayload) :
    (authToken payload).run.Guarantees Quiet := by
  unfold authToken
  split
  · exact guarantees_pure _
  · exact .bindExcept guarantees_enforcePasswordLoginLimits fun _ => guarantees_pure _

/-! ### Phases -/

/-- The user whose password a request has verified, while its session is not yet stored. -/
def Phase.user : Phase → Option User
  | .resolving user _ => user
  | .checking login | .takingOver login | .issuing login _ | .storing login _ => login.user
  | .admitting _ user | .opening user => some user
  | _ => none

/-- The login has passed the policy on sessions, and its session is not yet stored. -/
def Phase.cleared : Phase → Option Login
  | .issuing login _ | .storing login _ => some login
  | _ => none

/-- The change of credentials that a request is making. -/
def Phase.transaction : Phase → Option Transaction
  | .revokingRefresh t | .revokingBrowser t | .committing t => some t
  | _ => none

def Phase.succeeded : Phase → Bool
  | .answered (.error _) => false
  | _ => true

/-- The step verifies a password, stores a session or commits a change. -/
def notable : Phase → Phase → Bool
  | .reading _, phase' => phase'.user.isSome
  | .storing _ issued, phase' => issued.session.isSome && phase'.succeeded
  | .opening _, phase' => phase'.succeeded
  | .committing _, phase' => phase'.succeeded
  | _, _ => false

/-- What is left of a handler writes no session before it has come to the next phase, and leads to
sessions of the principal of the login. -/
def Phase.Sound : Phase → Prop
  | .limiting rest => rest.Guarantees Quiet
  | .resolving user rest => rest.Guarantees Quiet ∧
      rest.Results fun r => ∀ login, r = .ok login → login.Sound ∧ login.user = user
  | .checking login | .takingOver login => login.Sound
  | .issuing login rest => login.Sound ∧ rest.Guarantees Quiet ∧
      rest.Results fun r => ∀ issued, r = .ok issued → IssuedFor login.principal issued
  | .storing login issued => login.Sound ∧ IssuedFor login.principal issued
  | .mirroring rest => rest.Guarantees Quiet
  | _ => True

theorem sound_receive (c : Call) : (receive state c).Sound := by
  cases c with
  | authToken payload => exact guarantees_tokenRequest payload
  | adminToken payload => exact ensures_adminToken payload
  | issueExternalUserSession user clientId organizationId =>
    obtain ⟨hguarantees, hresults⟩ :=
      @ensures_issueExternalUserSession state Quiet _ user clientId organizationId
    refine ⟨hguarantees, hresults.mono fun _ h login hr => ?_⟩
    obtain ⟨huser, _, -, hprincipal, hissue⟩ := h login hr
    exact ⟨.external huser hprincipal hissue, huser⟩
  | oidcLogin request => exact guarantees_oidcLogin request
  | change => trivial

/-! ### Steps -/

/-- A step that is not notable brings no user, no further login and no revocation. -/
structure Progress (state : AppState) (phase phase' : Phase) : Prop where
  user : phase'.user = none ∨ phase'.user = phase.user
  cleared : ∀ login, phase'.cleared = some login →
    phase.cleared = some login ∨ governed state login = none
  revokingBrowser : ∀ t, phase' ≠ .revokingBrowser t
  committing : ∀ t, phase' = .committing t → t.change.reason = none
  silent : notable phase phase' = false

/-- What a statement of a request does. -/
inductive Effect (state : AppState) (o : Oracle) (s : Store ι) (phase : Phase) (s' : Store ι)
    (phase' : Phase) : Prop
  | moved (hquiet : Quiet s.db s'.db) (hprogress : Progress state phase phase')
  | verified (request : PasswordRequest) (hphase : phase = .reading request)
      (hquiet : Quiet s.db s'.db) (hcleared : phase'.cleared = none)
      (htransaction : phase'.transaction = none)
  | passed (login : Login) (principal : Principal) (hphase : phase = .checking login)
      (hgoverned : governed state login = some principal) (hquiet : Quiet s.db s'.db)
      (hactive : hasActiveRefreshSessionForPrincipal s'.db principal.id = false)
      (hphase' : phase' = .issuing login login.issue)
  | tookOver (login : Login) (n : Nat) (hphase : phase = .takingOver login)
      (hdb : s'.db = login.principal.elim (s.db.tick n) fun principal =>
        revokePrincipalRefreshSessions (s.db.tick n) principal.id (some "session_takeover"))
      (hphase' : phase' = .issuing login login.issue)
  | stored (login : Login) (issued : Issued) (params : CreateRefreshSessionParams) (n : Nat)
      (hphase : phase = .storing login issued) (hparams : issued.session = some params)
      (hdb : storeSession state params (s.db.tick n) = .ok s'.db)
      (hphase' : phase' = Logins.stored issued)
  | opened (user : User) (n : Nat) (expiresAt : Int) (hphase : phase = .opening user)
      (hdb : createBrowserSession state.crates (s.db.tick n) o.uuid o.uuid' user.id expiresAt =
        .ok s'.db)
      (hphase' : phase' = .answered (.ok (.consent o.uuid')))
  | revokedRefresh (t : Transaction) (n : Nat) (hphase : phase = .revokingRefresh t)
      (hdb : s'.db = s.db.tick n)
      (hphase' : phase' = .revokingBrowser (t.revokeRefresh s'.db))
  | revokedBrowser (t : Transaction) (n : Nat) (hphase : phase = .revokingBrowser t)
      (hdb : s'.db = s.db.tick n)
      (hphase' : phase' = .committing (t.revokeBrowser s'.db))
  | committed (t : Transaction) (n : Nat) (hphase : phase = .committing t)
      (hdb : t.commit (s.db.tick n) = .ok s'.db) (hphase' : phase' = Logins.committed t.change)

variable {s s' : Store ι} {o : Oracle} {phase phase' : Phase} {login : Login}

/-- A part of a handler goes on, fails or returns. -/
theorem runPart_cases {ε α : Type} {part : Statements (Except ε α) → Phase} {failed : ε → Phase}
    {done : α → Phase} {rest : Statements (Except ε α)} {Q : Except ε α → Prop}
    (hguarantees : rest.Guarantees Quiet) (hresults : rest.Results Q)
    (h : some (runPart s o part failed done rest) = some (s', phase')) :
    Quiet s.db s'.db ∧
      ((∃ rest', rest'.Guarantees Quiet ∧ rest'.Results Q ∧ phase' = part rest') ∨
        (∃ e, phase' = failed e) ∨ ∃ a, Q (.ok a) ∧ phase' = done a) := by
  obtain ⟨rfl, rfl⟩ := Prod.ext_iff.1 (Option.some.inj h)
  refine Program.advance_cases (C := fun r => Quiet s.db r.1 ∧
      ((∃ rest', rest'.Guarantees Quiet ∧ rest'.Results Q ∧ r.2 = part rest') ∨
        (∃ e, r.2 = failed e) ∨ ∃ a, Q (.ok a) ∧ r.2 = done a))
    (fun e => ⟨.refl _, .inr (.inl ⟨e, rfl⟩)⟩) ?_ fun db' rest' hnext => ?_
  · rintro a rfl
    exact ⟨.refl _, .inr (.inr ⟨a, Program.results_done.1 hresults, rfl⟩)⟩
  · obtain ⟨hquiet, hrest⟩ := hguarantees.next hnext
    exact ⟨hquiet, .inl ⟨_, hrest, hresults.next hnext, rfl⟩⟩

theorem progress_of_transaction (huser : phase'.user = none ∨ phase'.user = phase.user)
    (hcleared : ∀ login, phase'.cleared = some login →
      phase.cleared = some login ∨ governed state login = none)
    (htransaction : phase'.transaction = none) (hsilent : notable phase phase' = false) :
    Progress state phase phase' where
  user := huser
  cleared := hcleared
  revokingBrowser t h := by
    rw [h] at htransaction
    cases htransaction
  committing t h := by
    rw [h] at htransaction
    cases htransaction
  silent := hsilent

theorem progress_of_cleared (huser : phase'.user = none ∨ phase'.user = phase.user)
    (hcleared : phase'.cleared = none := by rfl)
    (htransaction : phase'.transaction = none := by rfl)
    (hsilent : notable phase phase' = false := by rfl) : Progress state phase phase' := by
  refine progress_of_transaction huser (fun login h => ?_) htransaction hsilent
  rw [hcleared] at h
  cases h

theorem progress_refuse (e : AuthError) : Progress state phase (refuse e) := by
  refine progress_of_cleared (.inl rfl) rfl rfl ?_
  cases phase <;> simp [notable, refuse, Phase.user, Phase.succeeded]

/-- A statement has one of the effects, and leads to a sound phase. -/
def Good (state : AppState) (o : Oracle) (s : Store ι) (phase : Phase) (s' : Store ι)
    (phase' : Phase) : Prop := Effect state o s phase s' phase' ∧ phase'.Sound

theorem good_refuse {n : ℕ} (hdb : s'.db = s.db.tick n) (e : AuthError) :
    Good state o s phase s' (refuse e) :=
  ⟨.moved (hdb ▸ .tick _ _) (progress_refuse e), trivial⟩

/-- A statement fails and only lets time pass, or it succeeds. -/
theorem good_of_statement {s₁ : Store ι} {e : String → AuthError}
    {f : Db → Except String (Phase × Db)}
    (h : some (statement s₁ o (fun message => refuse (e message)) f) = some (s', phase'))
    (hok : ∀ phase' db', f (s₁.db.tick o.elapsed) = .ok (phase', db') →
      Good state o s phase { s₁ with db := db' } phase') (hs : s₁.db = s.db := by rfl) :
    Good state o s phase s' phase' := by
  obtain ⟨rfl, rfl⟩ := Prod.ext_iff.1 (Option.some.inj h)
  unfold statement
  cases h : outcome (fun _ => f) o s₁.db with
  | error => exact good_refuse (congrArg (Db.tick · o.elapsed) hs) _
  | ok r => exact hok r.1 r.2 (outcome_eq_ok h)

theorem good_of_read {request : PasswordRequest}
    (h : some (read state s o request) = some (s', phase')) :
    Good state o s (.reading request) s' phase' := by
  cases request with
  | token payload =>
    refine good_of_statement h ?_
    rintro _ _ ⟨⟩
    unfold readToken
    split
    · exact ⟨.verified _ rfl (.tick _ _) rfl rfl, trivial⟩
    · exact ⟨.verified _ rfl (.tick _ _) rfl rfl, trivial⟩
    · exact ⟨.verified _ rfl (.tick _ _) rfl rfl,
        ensures_userLogin payload _⟩
  | browser =>
    refine good_of_statement h ?_
    rintro _ _ ⟨⟩
    unfold readBrowser
    split
    · exact ⟨.verified _ rfl (.tick _ _) rfl rfl, trivial⟩
    split
    · exact ⟨.verified _ rfl (.tick _ _) rfl rfl, trivial⟩
    · split_ifs <;> exact ⟨.verified _ rfl (.tick _ _) rfl rfl, trivial⟩

theorem good_of_check (hlogin : login.Sound)
    (h : some (check state s o login) = some (s', phase')) :
    Good state o s (.checking login) s' phase' := by
  unfold check at h
  split at h
  · rename_i hgoverned
    cases h
    refine ⟨.moved (.refl _) (progress_of_transaction (.inr rfl) ?_ rfl rfl),
      hlogin, hlogin.guarantees, hlogin.issued⟩
    intro login' hlogin'
    cases Option.some.inj hlogin'
    exact .inr hgoverned
  · rename_i principal hgoverned
    refine good_of_statement h ?_
    rintro _ _ ⟨⟩
    split_ifs with hactive hforce
    · exact ⟨.passed login principal rfl hgoverned (.tick _ _) (by simpa using hactive) rfl,
        hlogin, hlogin.guarantees, hlogin.issued⟩
    · exact good_refuse rfl _
    · exact ⟨.moved (.tick _ _) (progress_of_cleared (.inr rfl)), hlogin⟩

theorem sound_stored (issued : Issued) : (stored issued).Sound := by
  unfold stored
  split <;> trivial

variable [DecidableEq ι] {i : ι} {issued : Issued}

theorem good_of_store (h : store state i s o login issued = some (s', phase')) :
    Good state o s (.storing login issued) s' phase' := by
  unfold store at h
  split at h
  · rename_i hsession
    cases h
    have hnone : (stored issued).user = none ∧ (stored issued).cleared = none ∧
        (stored issued).transaction = none := by
      unfold stored
      split <;> exact ⟨rfl, rfl, rfl⟩
    exact ⟨.moved (.refl _) (progress_of_cleared (.inl hnone.1) hnone.2.1 hnone.2.2
      (by simp [notable, hsession])), sound_stored issued⟩
  · rename_i params hsession
    split at h
    · cases h
    refine good_of_statement h fun _ _ hok => ?_
    obtain ⟨db, hdb, heq⟩ := map_eq_ok.1 hok
    cases heq
    exact ⟨.stored login issued params _ rfl hsession hdb rfl, sound_stored issued⟩

omit [DecidableEq ι] in
theorem good_of_storeToken (h : some (storeToken state s o issued) = some (s', phase')) :
    Good state o s (.storingToken issued) s' phase' := by
  unfold storeToken at h
  split at h
  · cases h
    exact ⟨.moved (.refl _) (progress_of_cleared (.inl rfl)), trivial⟩
  refine good_of_statement h fun _ _ hok => ?_
  obtain ⟨db, hdb, heq⟩ := map_eq_ok.1 hok
  cases heq
  refine ⟨.moved ?_ (progress_of_cleared (.inl rfl)), trivial⟩
  unfold createRefreshToken at hdb
  split at hdb <;> cases hdb
  exact ⟨rfl, rfl, (Quiet.tick s.db o.elapsed).clock_le, fun _ => id⟩

theorem good_of_lockRow {change : Change} (h : lockRow state i s o change = some (s', phase')) :
    Good state o s (.changing change) s' phase' := by
  unfold lockRow at h
  split at h
  · cases h
  have h := Option.some.inj h
  split at h
  · cases h
    exact good_refuse rfl _
  split at h
  · cases h
    exact good_refuse rfl _
  · cases h
    exact ⟨.moved (.tick _ _) (progress_of_cleared (.inl rfl)), trivial⟩
  obtain ⟨rfl, rfl⟩ := Prod.mk.inj h
  split_ifs with hreason
  · refine ⟨.moved (.tick _ _) ⟨.inl rfl, fun _ h => ?_, fun _ h => ?_, fun _ h => ?_,
      rfl⟩, trivial⟩ <;> cases h
  refine ⟨.moved (.tick _ _) ⟨.inl rfl, fun _ h => ?_, fun _ h => ?_, fun _ h => ?_,
    rfl⟩, trivial⟩ <;> cases h
  simpa using hreason

theorem good_inTransaction {f : Db → Phase}
    (h : some (inTransaction i s o f) = some (s', phase'))
    (hok : ∀ n, Good state o s phase { s with db := s.db.tick n } (f (s.db.tick n))) :
    Good state o s phase s' phase' := by
  unfold inTransaction at h
  split at h <;> cases h
  · exact good_refuse rfl _
  · exact hok o.elapsed

theorem sound_committed (change : Change) : (committed change).Sound := by
  cases change with
  | updateUser userId => exact guarantees_ensurePrincipal .user userId
  | _ => trivial

/-- A statement of a request has one of the effects, and leads to a sound phase. -/
theorem effect_of_proceed (hsound : phase.Sound)
    (h : proceed state i s o phase = some (s', phase')) : Good state o s phase s' phase' := by
  cases phase with
  | idle | answered => cases h
  | limiting rest =>
    obtain ⟨hquiet, ⟨rest', hrest, -, rfl⟩ | ⟨e, rfl⟩ | ⟨request, -, rfl⟩⟩ :=
      runPart_cases hsound (Program.results_of_forall rest fun _ => trivial) h
    · exact ⟨.moved hquiet (progress_of_cleared (.inl rfl)), hrest⟩
    · exact ⟨.moved hquiet (progress_refuse e), trivial⟩
    · exact ⟨.moved hquiet (progress_of_cleared (.inl rfl)), trivial⟩
  | reading => exact good_of_read h
  | resolving =>
    obtain ⟨hquiet, ⟨rest', hrest, hresults, rfl⟩ | ⟨e, rfl⟩ | ⟨login, hlogin, rfl⟩⟩ :=
      runPart_cases hsound.1 hsound.2 h
    · exact ⟨.moved hquiet (progress_of_cleared (.inr rfl)), hrest, hresults⟩
    · exact ⟨.moved hquiet (progress_refuse e), trivial⟩
    · exact ⟨.moved hquiet (progress_of_cleared (.inr (hlogin login rfl).2)),
        (hlogin login rfl).1⟩
  | checking => exact good_of_check hsound h
  | takingOver login =>
    refine good_of_statement h ?_
    rintro _ _ ⟨⟩
    have hlogin : login.Sound := hsound
    exact ⟨.tookOver login _ rfl rfl rfl, hlogin, hlogin.guarantees, hlogin.issued⟩
  | issuing =>
    obtain ⟨hlogin, hguarantees, hissued⟩ := hsound
    obtain ⟨hquiet, ⟨rest', hrest, hresults, rfl⟩ | ⟨e, rfl⟩ | ⟨issued, hfor, rfl⟩⟩ :=
      runPart_cases hguarantees hissued h
    · exact ⟨.moved hquiet (progress_of_transaction (.inr rfl) (fun _ => .inl) rfl rfl),
        hlogin, hrest, hresults⟩
    · exact ⟨.moved hquiet (progress_refuse e), trivial⟩
    · exact ⟨.moved hquiet (progress_of_transaction (.inr rfl) (fun _ => .inl) rfl rfl),
        hlogin, hfor issued rfl⟩
  | storing => exact good_of_store h
  | storingToken => exact good_of_storeToken h
  | admitting =>
    refine good_of_statement h ?_
    rintro _ _ ⟨⟩
    split_ifs
    · exact ⟨.moved (.tick _ _) (progress_of_cleared (.inr rfl)), trivial⟩
    · exact ⟨.moved (.tick _ _) (progress_of_cleared (.inl rfl)), trivial⟩
  | opening user =>
    refine good_of_statement h fun _ _ hok => ?_
    obtain ⟨db, hdb, heq⟩ := map_eq_ok.1 hok
    cases heq
    exact ⟨.opened user _ _ rfl hdb rfl, trivial⟩
  | changing => exact good_of_lockRow h
  | revokingRefresh t =>
    exact good_inTransaction h fun n => ⟨.revokedRefresh t n rfl rfl rfl, trivial⟩
  | revokingBrowser t =>
    exact good_inTransaction h fun n => ⟨.revokedBrowser t n rfl rfl rfl, trivial⟩
  | committing t =>
    refine good_of_statement h fun _ _ hok => ?_
    obtain ⟨db, hdb, heq⟩ := map_eq_ok.1 hok
    cases heq
    exact ⟨.committed t _ rfl hdb rfl, sound_committed t.change⟩
  | mirroring rest =>
    obtain ⟨hquiet, ⟨rest', hrest, -, rfl⟩ | ⟨e, rfl⟩ | ⟨found, -, rfl⟩⟩ :=
      runPart_cases hsound (Program.results_of_forall rest fun _ => trivial) h
    · exact ⟨.moved hquiet (progress_of_cleared (.inl rfl)), hrest⟩
    · exact ⟨.moved hquiet (progress_refuse _), trivial⟩
    · exact ⟨.moved hquiet (progress_of_cleared (.inl rfl)), trivial⟩

end Keylo.Logins
