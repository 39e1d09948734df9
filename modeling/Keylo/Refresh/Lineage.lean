import Keylo.Refresh.ExchangeOnce

/-!
# Access tokens of a login

All access tokens that come from a login, by `auth_refresh` or by
`auth_select_organization_context`, and when they expire. A refresh token of a session that has
been revoked is not exchanged, so that no `auth_refresh` that begins later signs an access token for
the login. `auth_select_organization_context` looks at the access token only, and gives it a new
lifetime whatever has become of the session.

## Main definitions

* `Bounded` : what a handler knows about the access token that it is about to return.
* `SelectsUnrevoked` : the step re-issues no access token of a login that has been revoked.

## Main results

* `access_ends_after_revocation` : without such steps, no access token of a login is accepted later
  than a lifetime and the leeway after its session has been revoked.
* `Lineage.access_extended_after_revocation` : a run with such a step.
-/

namespace Keylo.Exchange

open Relational Transition Anonymous
open Refresh (Moves Current)

/-! ### Signed access tokens -/

section Signed

variable {state : AppState} {b b' : Int} {text : String}

theorem SignedBy.mono (h : SignedBy state b text) (hb : b ≤ b') : SignedBy state b' text := by
  obtain ⟨claims, hsign, hexp⟩ := h
  exact ⟨claims, hsign, by omega⟩

variable {now : Int}

theorem signedBy_of_sign {claims : Claims} (hsign : state.jwtKeys.signToken claims = .ok text)
    (hexp : claims.exp = now + state.tokenExpirySeconds) (hnow : now ≤ b) :
    SignedBy state b text :=
  ⟨claims, hsign, by omega⟩

theorem results_sign (claims : Claims) :
    (sign state claims).run.Results fun r => ∀ text, r = .ok text →
      state.jwtKeys.signToken claims = .ok text := by
  unfold sign
  cases hsign : state.jwtKeys.signToken claims with
  | ok => exact Program.results_return rfl
  | error => exact Program.results_throw

theorem results_accessClaimsForPrincipal (principal : Principal) (now : Int) (jti : String) :
    (accessClaimsForPrincipal state principal now jti).run.Results
      fun r => ∀ claims, r = .ok claims → claims.exp = now + state.tokenExpirySeconds := by
  unfold accessClaimsForPrincipal
  split
  · refine .bindExcept_of_forall fun user => ?_
    split
    · exact Program.results_throw
    · exact .bindExcept_of_forall fun isAdmin => Program.results_return rfl
  · refine .bindExcept_of_forall fun isAdminClient => ?_
    split
    · exact Program.results_return rfl
    · exact Program.results_throw
  · exact Program.results_throw

/-- The access token of a response has been signed with the lifetime that begins at `now`. -/
theorem results_refreshedBody (refreshClaims : Claims) (session : ConsumedRefreshSession)
    (newRefreshToken : String) (accessJti : String) (hnow : now ≤ b) :
    (refreshedBody state refreshClaims session newRefreshToken now accessJti).run.Results
      fun r => ∀ body, r = .ok body → SignedBy state b body.accessToken := by
  unfold refreshedBody
  refine .bindExcept_of_forall fun principal => ?_
  split
  · exact Program.results_throw
  rename_i principal _
  refine .bindExcept (results_accessClaimsForPrincipal principal now accessJti)
    fun claims hexp => ?_
  refine .bindExcept (results_sign _) fun accessToken hsign => Program.results_return ?_
  exact signedBy_of_sign hsign hexp hnow

theorem results_migratedSession (clientId : String) (accessJti refreshJti : String)
    (hnow : now ≤ b) :
    (migratedSession state clientId now accessJti refreshJti).run.Results
      fun r => ∀ issued, r = .ok issued → SignedBy state b issued.1 := by
  unfold migratedSession
  refine .bindExcept_of_forall fun principal => ?_
  split
  · exact Program.results_throw
  rename_i principal
  refine .bindExcept (results_accessClaimsForPrincipal principal now accessJti)
    fun claims hexp => ?_
  refine .bindExcept (results_sign _) fun accessToken hsign => ?_
  refine .bindExcept_of_forall fun refreshToken => .bindExcept_of_forall fun sessionId => ?_
  exact Program.results_return (signedBy_of_sign hsign hexp hnow)

end Signed

/-! ### What a handler knows -/

section Bounded

/-- The session is stored. -/
def HasSession (sessionId : String) (db : Db) : Prop := ∃ r ∈ db.refreshSessions, r.id = sessionId

/-- The session is revoked. -/
def Revoked (sessionId : String) (db : Db) : Prop :=
  ∃ r ∈ db.refreshSessions, r.id = sessionId ∧ r.revokedAt.isSome = true

variable {free : Refresh.Row → Prop} {sessionId : String} {db db' : Db}

theorem Revoked.hasSession (h : Revoked sessionId db) : HasSession sessionId db := by
  obtain ⟨r, hr, hid, -⟩ := h
  exact ⟨r, hr, hid⟩

theorem HasSession.moves (h : HasSession sessionId db) (hmoves : Moves free db db') :
    HasSession sessionId db' := by
  obtain ⟨r, hr, hid⟩ := h
  obtain ⟨r', hr', hfollows, -⟩ := hmoves.sessions r hr
  exact ⟨r', hr', hfollows.id.trans hid⟩

theorem Revoked.moves (h : Revoked sessionId db) (hmoves : Moves free db db') :
    Revoked sessionId db' := by
  obtain ⟨r, hr, hid, hrevoked⟩ := h
  obtain ⟨r', hr', hfollows, -⟩ := hmoves.sessions r hr
  exact ⟨r', hr', hfollows.id.trans hid, hfollows.revokedAt hrevoked⟩

/-- The transaction creates a session with the given identifier, or has failed. -/
def Creates (sessionId : String) : Refresh.Task → Prop
  | .creating params => params.sessionId = sessionId
  | .returned result => result ≠ .created
  | _ => False

variable (state : AppState) (sessionId : String) (b : Int)

/-- The tokens are not those of the session, or the access token has been signed in time, or the
session is there and cannot be created once more. -/
def Stores (db : Db) (tokens : Tokens) (transaction : Refresh.Task) : Prop :=
  tokens.sessionId = some sessionId →
    SignedBy state b tokens.accessToken ∨
      (HasSession sessionId db ∧ Creates sessionId transaction)

/-- What a handler knows about an access token of the session that it is about to return. -/
def Bounded (db : Db) (t : Task) : Prop :=
  match t.phase with
  | .answered _ => t.transaction = .idle
  | .storingSession _ tokens => Stores state sessionId b db tokens.toTokens t.transaction
  | .storingMigrated _ tokens => Stores state sessionId b db tokens t.transaction
  | .storingToken _ tokens =>
    tokens.sessionId = some sessionId → SignedBy state b tokens.accessToken
  | .consuming _ _ now _ => (now.timestamp ≤ b ∨ Revoked sessionId db) ∧
    ∀ session, t.transaction = .returned (.consumed (.consumed session)) →
      session.sessionId = sessionId → now.timestamp ≤ b
  | .completing _ session _ body => body.Guarantees KeepsTokens ∧
    (session = sessionId → body.Results fun r => ∀ body, r = .ok body →
      SignedBy state b body.accessToken)
  | .migrating _ now _ _ => now.timestamp ≤ b ∨ HasSession sessionId db
  | .issuing _ session => session.Guarantees KeepsTokens ∧
    ((session.Results fun r => ∀ issued, r = .ok issued → SignedBy state b issued.1) ∨
      HasSession sessionId db)
  | .selecting _ _ organizationId => organizationId.Guarantees KeepsTokens
  | _ => True

/-- The access token of an answer has been signed in time, if it comes from the login. -/
def Grants (access : List (String × String)) : Phase → Prop
  | .answered (.issued tokens) | .answered (.rotated _ tokens) | .answered (.migrated _ tokens) =>
    tokens.sessionId = some sessionId → SignedBy state b tokens.accessToken
  | .answered (.selected accessToken newAccessToken) =>
    (sessionId, accessToken) ∈ access → SignedBy state b newAccessToken
  | _ => True

variable {state sessionId b} {b' : Int} {t : Task} {access : List (String × String)}

theorem Bounded.mono (h : Bounded state sessionId b db t) (hb : b ≤ b') :
    Bounded state sessionId b' db t := by
  obtain ⟨phase, transaction⟩ := t
  have hstores : ∀ tokens, Stores state sessionId b db tokens transaction →
      Stores state sessionId b' db tokens transaction :=
    fun tokens h htokens => (h htokens).imp_left (·.mono hb)
  cases phase with
  | storingSession | storingMigrated => exact hstores _ h
  | storingToken => exact fun htokens => (h htokens).mono hb
  | consuming =>
    exact ⟨h.1.imp_left (·.trans hb), fun session ht hid => (h.2 session ht hid).trans hb⟩
  | completing =>
    exact ⟨h.1, fun hid => (h.2 hid).mono fun r hr body hbody => (hr body hbody).mono hb⟩
  | migrating => exact h.imp_left (·.trans hb)
  | issuing =>
    exact ⟨h.1, h.2.imp_left (·.mono fun r hr issued hissued => (hr issued hissued).mono hb)⟩
  | _ => exact h

theorem Bounded.moves (h : Bounded state sessionId b db t) (hmoves : Moves free db db') :
    Bounded state sessionId b db' t := by
  obtain ⟨phase, transaction⟩ := t
  have hstores : ∀ tokens, Stores state sessionId b db tokens transaction →
      Stores state sessionId b db' tokens transaction :=
    fun tokens h htokens => (h htokens).imp_right (And.imp_left (·.moves hmoves))
  cases phase with
  | storingSession | storingMigrated => exact hstores _ h
  | consuming => exact ⟨h.1.imp_right (·.moves hmoves), h.2⟩
  | migrating => exact h.imp_right (·.moves hmoves)
  | issuing => exact ⟨h.1, h.2.imp_right (·.moves hmoves)⟩
  | _ => exact h

theorem mem_access_record {phase : Phase} {history : History} {text : String}
    (hgrants : Grants state sessionId b history.access phase)
    (haccess : ∀ text, (sessionId, text) ∈ history.access → SignedBy state b text)
    (h : (sessionId, text) ∈ (phase.record history).access) : SignedBy state b text := by
  have htokens : ∀ (tokens : Tokens) (history' : History), history'.access = history.access →
      (tokens.sessionId = some sessionId → SignedBy state b tokens.accessToken) →
      (sessionId, text) ∈ (tokens.record history').access → SignedBy state b text := by
    intro tokens history' hhistory htoken h
    obtain h | h := List.mem_append.1 h
    · obtain ⟨_, hid, ⟨⟩⟩ := Option.map_eq_some_iff.1 (Option.mem_toList.1 h)
      exact htoken hid
    · exact haccess text (hhistory ▸ h)
  cases phase with
  | answered outcome =>
    cases outcome with
    | issued tokens => exact htokens tokens history rfl hgrants h
    | rotated refreshToken tokens | migrated refreshToken tokens =>
      exact htokens tokens _ rfl hgrants h
    | selected accessToken =>
      obtain h | h := List.mem_append.1 h
      · obtain ⟨⟨sessionId', accessToken'⟩, hentry, ⟨⟩⟩ := List.mem_map.1 h
        obtain ⟨hmem, htext⟩ := List.mem_filter.1 hentry
        obtain rfl : accessToken' = accessToken := beq_iff_eq.1 htext
        exact hgrants hmem
      · exact haccess text h
    | _ => exact haccess text h
  | _ => exact haccess text h

end Bounded

/-! ### Steps of handlers -/

/-- A step of a handler itself leaves the sessions alone. -/
structure Stays {ι : Type*} (s s' : Store ι) : Prop where
  locks : s'.sessions.locks = s.sessions.locks
  sessions : s'.sessions.db.refreshSessions = s.sessions.db.refreshSessions
  tokens : s'.sessions.db.refreshSessionTokens = s.sessions.db.refreshSessionTokens
  clock : s.sessions.db.clock ≤ s'.sessions.db.clock

/-- What a step of a handler itself does. -/
structure Continues {ι : Type*} (state : AppState) (sessionId : String) (b : Int)
    (access : List (String × String)) (s s' : Store ι) (t' : Task) : Prop where
  stays : Stays s s'
  current : ∀ i : ι, Current state.crates i s'.sessions t'.transaction
  bounded : Bounded state sessionId b s'.sessions.db t'
  grants : Grants state sessionId b access t'.phase

section Handlers

variable {ι : Type*} {state : AppState} {sessionId : String} {b : Int}
  {access : List (String × String)} {s s' : Store ι} {t t' : Task}

theorem Stays.of_eq (h : s'.sessions = s.sessions) : Stays s s' := by
  constructor <;> rw [h]

theorem continues_statement {phase : Phase} {db : Db} (hkeeps : KeepsTokens s.sessions.db db)
    (hbounded : Bounded state sessionId b db ⟨phase, .idle⟩)
    (hgrants : Grants state sessionId b access phase) :
    Continues state sessionId b access s (withDb s db) ⟨phase, .idle⟩ :=
  ⟨⟨rfl, hkeeps.sessions, hkeeps.tokens, hkeeps.clock⟩, fun _ => trivial, hbounded, hgrants⟩

theorem continues_of_handled
    (hclock : s.sessions.db.clock.timestamp ≤ b ∨ Revoked sessionId s.sessions.db)
    (hselects : ∀ accessToken claims organizationId,
      t.phase = .reissuing accessToken claims organizationId →
      (sessionId, accessToken) ∈ access → s.sessions.db.clock.timestamp ≤ b)
    (hbounded : Bounded state sessionId b s.sessions.db t) (h : Handled state s t s' t') :
    Continues state sessionId b access s s' t' := by
  have hstays : ∀ t', Bounded state sessionId b s.sessions.db t' →
      Grants state sessionId b access t'.phase →
      (∀ i, Current state.crates i s.sessions t'.transaction) →
      Continues state sessionId b access s s t' :=
    fun t' hbounded hgrants hcurrent => ⟨.of_eq rfl, hcurrent, hbounded, hgrants⟩
  have hsigned : ∀ tokens, Stores state sessionId b s.sessions.db tokens (.returned .created) →
      tokens.sessionId = some sessionId → SignedBy state b tokens.accessToken :=
    fun tokens hstores hid => (hstores hid).resolve_right fun hcreates => hcreates.2 rfl
  cases h with
  | rejected | loggedOut | revoked => exact hstays _ rfl trivial fun _ => trivial
  | select => exact hstays _ (keepsTokens_selectContext _ _) trivial fun _ => trivial
  | revoke => exact hstays _ trivial trivial fun _ => Refresh.current_start _
  | revokeClient | notMigrated | tokenRevoked =>
    exact ⟨⟨rfl, rfl, rfl, le_refl _⟩, fun _ => trivial, rfl, trivial⟩
  | signedSession tokens hfresh hsign hid =>
    refine ⟨.of_eq rfl, fun _ => trivial, fun hid' => ?_, trivial⟩
    exact hclock.imp hsign.mono
      fun hrevoked => ⟨hrevoked.hasSession, Option.some.inj (hid.symm.trans hid')⟩
  | signedToken tokens hfresh hid =>
    exact ⟨.of_eq rfl, fun _ => trivial, fun hid' => (nomatch hid.symm.trans hid'), trivial⟩
  | issued tokens hfresh hid =>
    exact ⟨.of_eq rfl, fun _ => trivial, rfl, fun hid' => nomatch hid.symm.trans hid'⟩
  | sessionStored => exact hstays _ (hsigned _ hbounded) trivial fun _ => trivial
  | sessionIssued | migratedStored => exact ⟨.of_eq rfl, fun _ => trivial, rfl, hsigned _ hbounded⟩
  | tokenIssued => exact ⟨⟨rfl, rfl, rfl, le_refl _⟩, fun _ => trivial, rfl, hbounded⟩
  | replaced => exact ⟨.of_eq rfl, fun _ => trivial, ⟨hclock, fun _ => nofun⟩, trivial⟩
  | consumed =>
    refine hstays _ ⟨guarantees_refreshedBody state _ _ _ _ _, fun hid => ?_⟩
      trivial fun _ => trivial
    exact results_refreshedBody _ _ _ _ (hbounded.2 _ rfl hid)
  | notFound => exact hstays _ (hbounded.1.imp_right Revoked.hasSession) trivial fun _ => trivial
  | completing =>
    obtain ⟨hbody, hresults⟩ := hbounded
    obtain ⟨hkeeps, hnext⟩ := Program.guarantees_statement.1 hbody _ s.sessions.db
    exact continues_statement hkeeps
      ⟨hnext, fun hid => Program.results_statement.1 (hresults hid) _ s.sessions.db⟩ trivial
  | rotated htokens =>
    obtain rfl := htokens
    refine ⟨.of_eq rfl, fun _ => trivial, rfl, fun hid => ?_⟩
    exact Program.results_done.1 (hbounded.2 (Option.some.inj hid)) _ rfl
  | migrated =>
    exact ⟨⟨rfl, rfl, rfl, le_refl _⟩, fun _ => trivial, ⟨guarantees_migratedSession state _ _ _ _,
      hbounded.imp_left (results_migratedSession _ _ _)⟩, trivial⟩
  | issuing =>
    obtain ⟨hsession, hresults⟩ := hbounded
    obtain ⟨hkeeps, hnext⟩ := Program.guarantees_statement.1 hsession _ s.sessions.db
    refine continues_statement hkeeps ⟨hnext, hresults.imp
      (fun hresults => Program.results_statement.1 hresults _ s.sessions.db) ?_⟩ trivial
    rintro ⟨r, hr, hid⟩
    exact ⟨r, hkeeps.sessions ▸ hr, hid⟩
  | storing htokens =>
    obtain rfl := htokens
    refine ⟨.of_eq rfl, fun _ => trivial, fun hid => ?_, trivial⟩
    refine hbounded.2.imp (fun hsigned => ?_) fun hsession => ⟨hsession, Option.some.inj hid⟩
    exact Program.results_done.1 hsigned _ rfl
  | selecting =>
    obtain ⟨hkeeps, hnext⟩ := Program.guarantees_statement.1 hbounded _ s.sessions.db
    exact continues_statement hkeeps hnext trivial
  | reissued hsign =>
    exact hstays _ rfl (fun haccess => hsign.mono (hselects _ _ _ rfl haccess)) fun _ => trivial
  | _ => exact hstays _ trivial trivial fun _ => trivial

end Handlers

/-! ### Steps of transactions -/

section Transactions

variable {ι : Type*} [DecidableEq ι] {state : AppState} {sessionId : String} {b : Int} {i : ι}
  {a : Refresh.Input} {r r' : Refresh.Store ι} {transaction transaction' : Refresh.Task}
  {session : ConsumedRefreshSession}

/-- A session that is there is not created once more. -/
theorem Creates.next (h : Creates sessionId transaction) (hsession : HasSession sessionId r.db)
    (hready : transaction.isReady = false)
    (hnext : Refresh.next state.crates i a r transaction = some (r', transaction')) :
    Creates sessionId transaction' := by
  cases proceeds_of_not_ready hready hnext with
  | failed | notFound | mismatch | tokenNotFound => exact nofun
  | created hcreate =>
    obtain ⟨-, sessions, tokens, hsessions, -⟩ := createRefreshSession_eq_ok hcreate
    obtain ⟨row, hrow, hid⟩ := hsession
    exact absurd (hid.trans (Eq.symm h)) (Table.key_ne_of_insert hsessions hrow)
  | _ => exact h.elim

/-- Only a rotation that has locked its rows consumes a token. -/
theorem refreshToken_of_consumed (hready : transaction.isReady = false)
    (hnext : Refresh.next state.crates i a r transaction =
      some (r', .returned (.consumed (.consumed session)))) :
    ∃ refreshToken, transaction.refreshToken = some refreshToken := by
  cases proceeds_of_not_ready hready hnext with
  | consumed => exact ⟨_, rfl⟩

/-- No token of a session that has been revoked is consumed. -/
theorem not_revoked_of_consumed (hcurrent : Current state.crates i r transaction)
    (hready : transaction.isReady = false)
    (hnext : Refresh.next state.crates i a r transaction =
      some (r', .returned (.consumed (.consumed session)))) : ¬ Revoked session.sessionId r.db := by
  intro hrevoked
  obtain ⟨refreshToken, htoken⟩ := refreshToken_of_consumed hready hnext
  have hanswer : Refresh.answer transaction (.returned (.consumed (.consumed session))) =
      some (.consumed refreshToken session.sessionId) := by
    simp only [Refresh.answer, htoken, Option.map_some]
  have hsound := Refresh.sound_of_next hcurrent hnext hanswer
  exact (hsound.2 (.givenUp session.sessionId) hrevoked _ _ rfl).1 rfl

theorem bounded_transact {t : Task} (hcurrent : Current state.crates i r t.transaction)
    (hready : t.transaction.isReady = false) (h : Bounded state sessionId b r.db t)
    (hnext : Refresh.next state.crates i a r t.transaction = some (r', transaction')) :
    Bounded state sessionId b r'.db { t with transaction := transaction' } := by
  have hmoves := (Refresh.stepFacts_of_next hcurrent hnext).effect.moves
  obtain ⟨phase, transaction⟩ := t
  have hstores : ∀ tokens, Stores state sessionId b r.db tokens transaction →
      Stores state sessionId b r'.db tokens transaction' := fun tokens h hid =>
    (h hid).imp_right fun ⟨hsession, hcreates⟩ =>
      ⟨hsession.moves hmoves, hcreates.next hsession hready hnext⟩
  cases phase with
  | answered => exact absurd h (idle_ne_ready hready)
  | storingSession | storingMigrated => exact hstores _ h
  | consuming =>
    refine ⟨h.1.imp_right (·.moves hmoves), fun session htransaction hid => ?_⟩
    obtain rfl : transaction' = .returned (.consumed (.consumed session)) := htransaction
    exact h.1.resolve_right (hid ▸ not_revoked_of_consumed hcurrent hready hnext)
  | migrating => exact h.imp_right (·.moves hmoves)
  | issuing => exact ⟨h.1, h.2.imp_right (·.moves hmoves)⟩
  | _ => exact h

end Transactions

/-! ### Runs -/

section Runs

variable {ι : Type*} [DecidableEq ι] (state : AppState) (sessionId : String) (b : Int)

/-- What a step does. -/
structure Advances (access : List (String × String)) (i : ι) (s s' : Store ι) (t' : Task) :
    Prop where
  moves : Moves (fun row => s.sessions.locks.available i row = true) s.sessions.db s'.sessions.db
  locks : Locks.Keeps (some i) s.sessions.locks s'.sessions.locks
  current : Current state.crates i s'.sessions t'.transaction
  clock : s.sessions.db.clock ≤ s'.sessions.db.clock
  bounded : Bounded state sessionId b s'.sessions.db t'
  grants : Grants state sessionId b access t'.phase

/-- The step re-issues no access token of the login, if its session has been revoked. -/
def SelectsUnrevoked (c : Config ι (Store ι) Task × History) (l : Action ι Input Db)
    (_ : Config ι (Store ι) Task × History) : Prop :=
  ∀ i o newId accessToken claims organizationId, l = .request i (.handle o newId) →
    (c.1.request i).phase = .reissuing accessToken claims organizationId →
    (sessionId, accessToken) ∈ c.2.access → ¬ Revoked sessionId c.1.shared.sessions.db

/-- Every access token of the login has been signed in time, or is about to be returned. -/
structure Inherits (c : Config ι (Store ι) Task × History) : Prop where
  current : ∀ i, Current state.crates i c.1.shared.sessions (c.1.request i).transaction
  bounded : ∀ i, Bounded state sessionId b c.1.shared.sessions.db (c.1.request i)
  access : ∀ text, (sessionId, text) ∈ c.2.access → SignedBy state b text

variable {state sessionId b} {b' : Int} {access : List (String × String)} {i : ι}
  {s s' : Store ι} {t t' : Task} {c c' : Config ι (Store ι) Task} {history : History}
  {l : Action ι Input Db}

theorem Continues.advances (h : Continues state sessionId b access s s' t') :
    Advances state sessionId b access i s s' t' where
  moves := .of_eq h.stays.tokens h.stays.sessions
  locks := h.stays.locks ▸ .refl
  current := h.current i
  clock := h.stays.clock
  bounded := h.bounded
  grants := h.grants

theorem advances_of_next {a : Input}
    (hclock : s.sessions.db.clock.timestamp ≤ b ∨ Revoked sessionId s.sessions.db)
    (hselects : ∀ o newId accessToken claims organizationId, a = .handle o newId →
      t.phase = .reissuing accessToken claims organizationId →
      (sessionId, accessToken) ∈ access → s.sessions.db.clock.timestamp ≤ b)
    (hcurrent : Current state.crates i s.sessions t.transaction)
    (hbounded : Bounded state sessionId b s.sessions.db t)
    (h : next state i a s t = some (s', t')) : Advances state sessionId b access i s s' t' := by
  have htransact : ∀ a, (∀ c, a ≠ .call c) → transact state s i a t = some (s', t') →
      Advances state sessionId b access i s s' t' := by
    intro a ha h
    obtain ⟨⟨r', transaction'⟩, hnext, heq⟩ := Option.map_eq_some_iff.1 h
    cases heq
    have hready := isReady_of_next ha hnext
    have hrefresh := Refresh.stepFacts_of_next hcurrent hnext
    refine ⟨hrefresh.effect.moves, hrefresh.locks, hrefresh.current, ?_,
      bounded_transact hcurrent hready hbounded hnext, ?_⟩
    · exact (rowsChange_of_next hcurrent hnext).clock
    · obtain ⟨phase, transaction⟩ := t
      cases phase with
      | answered => exact absurd hbounded (idle_ne_ready hready)
      | _ => trivial
  cases a with
  | call =>
    simp only [next] at h
    split_ifs at h with hready
    refine (continues_of_handled hclock (fun _ _ _ hphase => ?_) hbounded
      (handled_of_call h)).advances
    rw [hphase] at hready
    cases hready
  | proceed => exact htransact .proceed (by rintro _ ⟨⟩) h
  | abort error => exact htransact (.fail error) (by rintro _ ⟨⟩) h
  | handle o newId =>
    simp only [next] at h
    split_ifs at h
    exact (continues_of_handled hclock (fun accessToken claims organizationId =>
      hselects o newId accessToken claims organizationId rfl) hbounded
      (handled_of_handle h)).advances

omit [DecidableEq ι] in
theorem Inherits.mono (h : Inherits state sessionId b (c, history)) (hb : b ≤ b') :
    Inherits state sessionId b' (c, history) :=
  ⟨h.current, fun i => (h.bounded i).mono hb, fun text htext => (h.access text htext).mono hb⟩

theorem Inherits.request (h : Inherits state sessionId b (c, history))
    (hadvances : Advances state sessionId b history.access i c.shared s' t') :
    Inherits state sessionId b (⟨s', Function.update c.request i t'⟩, t'.phase.record history) := by
  refine ⟨(Function.forall_update_iff _ fun j (t : Task) =>
        Current state.crates j s'.sessions t.transaction).2
      ⟨hadvances.current, fun j hj => (h.current j).other hj hadvances.locks hadvances.moves⟩,
    (Function.forall_update_iff _ fun _ => Bounded state sessionId b s'.sessions.db).2
      ⟨hadvances.bounded, fun j _ => (h.bounded j).moves hadvances.moves⟩,
    fun text => mem_access_record hadvances.grants h.access⟩

/-- A step keeps the invariant while the time `b` has not passed, and after the session has been
revoked. -/
theorem Inherits.step {c c' : Config ι (Store ι) Task × History}
    (h : Inherits state sessionId b c)
    (hclock : c.1.shared.sessions.db.clock.timestamp ≤ b ∨
      Revoked sessionId c.1.shared.sessions.db ∧ SelectsUnrevoked sessionId c l c')
    (hstep : ((protocol ι state).system.observe record).step c l = some c') :
    Inherits state sessionId b c' ∧
      Moves (fun _ => True) c.1.shared.sessions.db c'.1.shared.sessions.db ∧
      c.1.shared.sessions.db.clock ≤ c'.1.shared.sessions.db.clock := by
  obtain ⟨c, history⟩ := c
  obtain ⟨c', hbase, rfl⟩ := System.observe_step_eq_some.1 hstep
  dsimp only at hclock
  obtain ⟨other, s', rfl, henv, rfl⟩ | ⟨i, a, s', t', rfl, hnext, rfl⟩ := Protocol.step_cases hbase
  · obtain ⟨hlocks, -, -, hkeeps⟩ := surroundings_eq_some henv
    have hmoves : ∀ free, Moves free c.shared.sessions.db s'.sessions.db :=
      fun free => .of_eq hkeeps.tokens hkeeps.sessions
    refine ⟨⟨fun j => ?_, fun j => (h.bounded j).moves (hmoves fun _ => True), h.access⟩,
      hmoves _, hkeeps.clock⟩
    exact (h.current j).step (hlocks ▸ .refl) (Option.some_ne_none j) (hmoves _)
  have hselects : ∀ o newId accessToken claims organizationId, a = .handle o newId →
      (c.request i).phase = .reissuing accessToken claims organizationId →
      (sessionId, accessToken) ∈ history.access →
      c.shared.sessions.db.clock.timestamp ≤ b := by
    rintro o newId accessToken claims organizationId rfl hphase haccess
    refine hclock.resolve_right fun ⟨hrevoked, hselects⟩ => ?_
    exact hselects i o newId accessToken claims organizationId rfl hphase haccess hrevoked
  have hadvances := advances_of_next (hclock.imp_right And.left) hselects (h.current i)
    (h.bounded i) hnext
  refine ⟨?_, hadvances.moves.mono fun _ _ => trivial, hadvances.clock⟩
  simpa [record] using h.request hadvances

/-- Before the session is revoked, and in any case, tokens are signed at the time of the clock. -/
theorem inherits_run {c₀ c : Config ι (Store ι) Task} {ls : List (Action ι Input Db)}
    (hidle : ∀ i, c₀.request i = ⟨.idle, .idle⟩)
    (hrun : ((protocol ι state).system.observe record).run (c₀, {}) ls = some (c, history)) :
    Inherits state sessionId c.shared.sessions.db.clock.timestamp (c, history) := by
  refine System.run_invariant _ (I := fun c =>
    Inherits state sessionId c.1.shared.sessions.db.clock.timestamp c) ?_ ?_ hrun
  · intro c l c' hc hstep
    obtain ⟨hc', -, hclock⟩ := hc.step (.inl (le_refl _)) hstep
    exact hc'.mono (Int.ediv_le_ediv (by decide) hclock)
  · refine ⟨fun i => ?_, fun i => ?_, nofun⟩
    · rw [hidle i]
      trivial
    · rw [hidle i]
      trivial

/-- In every run in which no access token of the login is re-issued after its session has been
revoked, no access token that comes from the login is accepted later than a lifetime and the leeway
after the revocation. Times are in seconds, as in the tokens. -/
theorem access_ends_after_revocation (state : AppState) (sessionId : String)
    (c₀ c₁ c₂ : Config ι (Store ι) Task) (before after : List (Action ι Input Db))
    (history₁ history₂ : History) (hidle : ∀ i, c₀.request i = ⟨.idle, .idle⟩)
    (hbefore : ((protocol ι state).system.observe record).run (c₀, {}) before =
      some (c₁, history₁))
    (hrevoked : Revoked sessionId c₁.shared.sessions.db)
    (hafter : ((protocol ι state).system.observe record).run (c₁, history₁) after =
      some (c₂, history₂))
    (hselects : ((protocol ι state).system.observe record).Along (SelectsUnrevoked sessionId)
      (c₁, history₁) after)
    (text : String) (haccess : (sessionId, text) ∈ history₂.access) (reads : Blacklist.Reads)
    (hkeys : ∀ claims claims', state.jwtKeys.signToken claims = .ok text →
      reads.keys.payload text = some claims' → claims'.exp = claims.exp)
    (path : String) (claims : Claims)
    (haccept : authMiddleware (reads.checks state.crates) (some reads.db) path (some text) =
      .ok claims) :
    reads.decodedAt.timestamp ≤
      c₁.shared.sessions.db.clock.timestamp + state.tokenExpirySeconds + leeway := by
  have hc₂ := System.run_invariant_along _
    (I := fun c => Inherits state sessionId c₁.shared.sessions.db.clock.timestamp c ∧
      Revoked sessionId c.1.shared.sessions.db)
    (fun c l c' ⟨hc, hrevoked⟩ hselects hstep => by
      obtain ⟨hc', hmoves, -⟩ := hc.step (.inr ⟨hrevoked, hselects⟩) hstep
      exact ⟨hc', hrevoked.moves hmoves⟩)
    ⟨inherits_run hidle hbefore, hrevoked⟩ hselects hafter
  obtain ⟨signed, hsign, hexp⟩ := hc₂.1.access text haccess
  obtain ⟨hpayload, hnow⟩ := Blacklist.timestamp_le_of_decodeToken
    (Blacklist.decodes_of_authMiddleware haccept).1
  rw [hkeys signed claims hsign hpayload] at hnow
  omega

end Runs

/-! ### A login that is revoked -/

namespace Lineage

/-- A user who is a member of an organization. -/
def sampleDb : Db where
  users := .single { id := "u", username := "u", email := "u@e" }
  principals := .single ⟨.user, "u", "u", true⟩
  organizations := .single { id := "o", kind := .customer }
  memberships := .single ⟨"o", principalId .user "u", .active, .member⟩

/-- A server that names its tokens by their expiry. -/
def sampleState : AppState where
  crates := .readable
  jwtKeys :=
    { signToken := fun claims =>
        if claims.exp = 60 then .ok "a" else if claims.exp = 160 then .ok "b"
        else if claims.exp = 3600 then .ok "r" else .error .invalidToken
      decodeToken := fun _ => .error .invalidToken }
  tokenExpirySeconds := 60
  refreshTokenExpirySeconds := 3600
  sessionPolicy := "multi_session"

/-- The claims of the access token of the login at time 0. -/
def sampleClaims : Claims :=
  (userSubject ⟨"u", "p", none, none⟩ { id := "u", username := "u", email := "u@e" } false
    (some ⟨.user, "u", "u", true⟩) none 0).accessClaims sampleState 0 "j"

/-- The keys under which the tokens are read. -/
def sampleKeys : Verifier where
  payload token :=
    if token = "a" then some sampleClaims
    else if token = "b" then
      some { sampleClaims with organizationId := some "o", iat := 100, exp := 160, jti := "k" }
    else none
  hasIssuer _ := true
  audiences := ["admin-backend"]

/-- A request at the given time. -/
def readsAt (seconds : Int) (db : Db) : Blacklist.Reads :=
  ⟨sampleKeys, .ofTimestamp seconds, some db, db⟩

def sampleConfig : Config (Fin 2) (Store (Fin 2)) Task where
  shared := ⟨⟨sampleDb, fun _ => none⟩, [], []⟩
  request _ := ⟨.idle, .idle⟩

/-- Time passes. -/
def wait (seconds : Int) : Action (Fin 2) Input Db :=
  .environment { sampleDb with clock := .ofTimestamp seconds }

/-- The user logs in at time 0, and the session is revoked at time 1. -/
def sampleBefore : List (Action (Fin 2) Input Db) :=
  [.request 0 (.call (.authToken ⟨"u", "p", none, none⟩
      { id := "u", username := "u", email := "u@e" } false (some ⟨.user, "u", "u", true⟩) none)),
    .request 0 (.handle { uuid := "j", uuid' := "r" } "s"), .request 0 .proceed,
    .request 0 (.handle {} ""), wait 1,
    .request 1 (.call (.revokeSessions (.revokeRefreshSession "s" (some "admin_revoked")))),
    .request 1 .proceed, .request 1 (.handle {} "")]

/-- The access token is used to select the organization at time 100. -/
def sampleAfter : List (Action (Fin 2) Input Db) :=
  [wait 100, .request 0 (.call (.authSelectOrganizationContext "a" sampleClaims "o")),
    .request 0 (.handle {} ""), .request 0 (.handle {} ""), .request 0 (.handle {} ""),
    .request 0 (.handle { uuid := "k" } ""), wait 200]

/-- The last access token of the login is accepted for a minute after it has expired. -/
theorem access_ends_after_revocation_leeway :
    ∃ c₁ c₂ history₁ history₂,
      ((protocol (Fin 2) sampleState).system.observe record).run (sampleConfig, {}) sampleBefore =
        some (c₁, history₁) ∧
      ((protocol (Fin 2) sampleState).system.observe record).run (c₁, history₁) [wait 100] =
        some (c₂, history₂) ∧
      ("s", "a") ∈ history₂.access ∧
      authMiddleware ((readsAt 120 c₂.shared.sessions.db).checks .readable)
        (some c₂.shared.sessions.db) "/v1/auth/me" (some "a") = .ok sampleClaims ∧
      (readsAt 120 c₂.shared.sessions.db).decodedAt.timestamp ≤
        c₁.shared.sessions.db.clock.timestamp + sampleState.tokenExpirySeconds + leeway := by
  refine ⟨_, _, _, _, rfl, rfl, List.mem_cons_self, rfl, ?_⟩
  refine access_ends_after_revocation sampleState "s" sampleConfig _ _ sampleBefore [wait 100] _ _
    (fun _ => rfl) rfl ⟨_, List.mem_cons_self, rfl, rfl⟩ rfl ?_ "a" List.mem_cons_self
    _ ?_ "/v1/auth/me" sampleClaims ?_
  · refine ⟨?_, trivial⟩
    intro _ _ _ _ _ _ hl
    cases hl
  · intro claims claims' hsign hpayload
    obtain rfl : sampleClaims = claims' := Option.some.inj hpayload
    simp only [sampleState] at hsign
    split_ifs at hsign with hexp
    · exact hexp.symm
    · exact absurd (Except.ok.inj hsign) (by decide)
    · exact absurd (Except.ok.inj hsign) (by decide)
  · rfl

/-- The access token of a login whose session has been revoked at time 1 is used at time 100, and
replaced by one that is accepted at time 200. -/
theorem access_extended_after_revocation :
    ∃ c₁ c₂ history₁ history₂,
      ((protocol (Fin 2) sampleState).system.observe record).run (sampleConfig, {}) sampleBefore =
        some (c₁, history₁) ∧
      Revoked "s" c₁.shared.sessions.db ∧ c₁.shared.sessions.db.clock = .ofTimestamp 1 ∧
      ((protocol (Fin 2) sampleState).system.observe record).run (c₁, history₁) sampleAfter =
        some (c₂, history₂) ∧
      ("s", "b") ∈ history₂.access ∧ c₂.shared.sessions.db.clock = .ofTimestamp 200 ∧
      (∃ claims, authMiddleware ((readsAt 200 c₂.shared.sessions.db).checks .readable)
        (some c₂.shared.sessions.db) "/v1/auth/me" (some "b") = .ok claims) ∧
      1 + sampleState.tokenExpirySeconds + leeway < 200 := by
  refine ⟨_, _, _, _, rfl, ⟨_, List.mem_cons_self, rfl, rfl⟩, rfl, rfl, List.mem_cons_self, rfl,
    ⟨_, rfl⟩, by decide⟩

end Lineage

end Keylo.Exchange
