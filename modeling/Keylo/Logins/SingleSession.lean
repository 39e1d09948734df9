import Keylo.Logins.Effects

/-!
# One session for every principal

Under the policies `single_user_session` and `single_principal_session` a login refuses to go on, or
ends the other sessions first, if its principal has a session. The session of the login is stored
later. Two logins of one principal that have both passed the policy both store a session
(`two_sessions`). If a login passes the policy only while no other login of its principal is
between the policy and its session, there is never more than one (`single_session`).

## Main definitions

* `SingleSession` : every governed principal has one live session at most.
* `PassesAlone` : the condition on the steps of a run.
-/

namespace Keylo.Logins

open Relational Transition Handler Anonymous Function Table

variable {state : AppState} {ι : Type*} [DecidableEq ι] {db db' : Db} {s : RefreshSession}

/-- The sessions of the principal with the given id are subject to the policy. -/
def Governed (state : AppState) (id : String) : Prop :=
  ∃ principal : Principal, singleSessionApplies state principal = true ∧ principal.id = id

/-- Every governed principal has one session at most that is neither revoked nor expired. -/
def SingleSession (state : AppState) (db : Db) : Prop :=
  ∀ s ∈ db.refreshSessions, ∀ s' ∈ db.refreshSessions, Governed state s.principalId →
    s.principalId = s'.principalId → live db s = true → live db s' = true → s = s'

/-- The principal of a login that has passed the policy on sessions. -/
def Phase.clearedFor (state : AppState) (phase : Phase) : Option Principal :=
  phase.cleared.bind (governed state)

/-- A login that passes the policy is the only one of its principal between the policy and its
session. -/
def PassesAlone (state : AppState) (c : Config ι (Store ι) Phase) (a : Action ι Input Db) : Prop :=
  ∀ i o login principal, a = .request i (.proceed o) → governed state login = some principal →
    c.request i = .checking login ∨ c.request i = .takingOver login →
    ∀ j, j ≠ i → ∀ p, (c.request j).clearedFor state = some p → p.id ≠ principal.id

/-! ### Sessions after a step -/

theorem live_iff : live db s = true ↔ s.revokedAt = none ∧ db.clock < s.expiresAt := by
  simp [live, Option.isNone_iff_eq_none]

/-- A live session was live before, if none is created. -/
theorem Shrinks.live (h : Shrinks db db') (hs : s ∈ db'.refreshSessions)
    (hlive : live db' s = true) : ∃ s' ∈ db.refreshSessions, s'.id = s.id ∧
      s'.principalId = s.principalId ∧ Logins.live db s' = true := by
  obtain ⟨hrevoked, hexpires⟩ := live_iff.1 hlive
  obtain ⟨s', hs', hid, hprincipal, hrevoked', hexpires'⟩ := h.refresh s hs hrevoked
  exact ⟨s', hs', hid, hprincipal,
    live_iff.2 ⟨hrevoked', hexpires' ▸ h.clock_le.trans_lt hexpires⟩⟩

theorem SingleSession.shrinks (h : SingleSession state db) (hdb : Shrinks db db') :
    SingleSession state db' := by
  intro s hs s' hs' hgoverned hprincipal hlive hlive'
  obtain ⟨r, hr, hid, hp, hrlive⟩ := hdb.live hs hlive
  obtain ⟨r', hr', hid', hp', hrlive'⟩ := hdb.live hs' hlive'
  have heq : r = r' :=
    h r hr r' hr' (hp ▸ hgoverned) (hp.trans (hprincipal.trans hp'.symm)) hrlive hrlive'
  have hkey : RefreshSession.id s = RefreshSession.id s' := by rw [← hid, ← hid', heq]
  exact eq_of_key hs hs' hkey

/-- No session of the principal is live. -/
def NoSession (db : Db) (id : String) : Prop :=
  ∀ s ∈ db.refreshSessions, s.principalId = id → live db s = false

theorem NoSession.shrinks {id : String} (h : NoSession db id) (hdb : Shrinks db db') :
    NoSession db' id := by
  intro s hs hid
  by_contra hlive
  obtain ⟨s', hs', -, hprincipal, hlive'⟩ := hdb.live hs (Bool.not_eq_false _ ▸ hlive)
  rw [h s' hs' (hprincipal.trans hid)] at hlive'
  cases hlive'

theorem shrinks_revokePrincipal (db : Db) (n : Nat) (id : String) (reason : Option String) :
    Shrinks db (revokePrincipalRefreshSessions (db.tick n) id reason) where
  refresh s hs hrevoked := ⟨s, (eq_of_not_revoked hs hrevoked).1, rfl, rfl, hrevoked, rfl⟩
  clock_le := (Quiet.tick db n).clock_le

theorem noSession_revokePrincipal (db : Db) (id : String) (reason : Option String) :
    NoSession (revokePrincipalRefreshSessions db id reason) id := by
  intro s hs hid
  by_contra hlive
  obtain ⟨hrevoked, -⟩ := live_iff.1 (Bool.not_eq_false _ ▸ hlive)
  have hselected := (eq_of_not_revoked hs hrevoked).2
  simp [SessionScope.selects, hid, hrevoked] at hselected

variable {n : Nat} {params : CreateRefreshSessionParams} {principal : Principal} {login : Login}

theorem shrinks_commit {t : Transaction} (h : t.commit (db.tick n) = .ok db') :
    Shrinks db db' := by
  unfold Transaction.commit at h
  split at h
  · cases h
  cases h
  refine ⟨fun s hs hrevoked => ?_, ?_⟩
  · exact ⟨s, (eq_of_not_revoked hs hrevoked).1, rfl, rfl, hrevoked, rfl⟩
  · split_ifs <;> exact (Quiet.tick db n).clock_le

theorem shrinks_createBrowserSession {crates : Crates} {id rawSession userId : String}
    {expiresAt : Int}
    (h : createBrowserSession crates (db.tick n) id rawSession userId expiresAt = .ok db') :
    Shrinks db db' := by
  unfold createBrowserSession at h
  split_ifs at h
  split at h <;> cases h
  exact ⟨(Quiet.tick db n).shrinks.refresh, (Quiet.tick db n).clock_le⟩

/-- A new session is the only one that is added. -/
theorem storeSession_eq_ok (h : storeSession state params (db.tick n) = .ok db') :
    ∃ new : RefreshSession, new.id = params.sessionId ∧ new.principalId = params.principalId ∧
      new.revokedAt = none ∧ (∀ s ∈ db.refreshSessions, s.id ≠ new.id) ∧
      (∀ s, s ∈ db'.refreshSessions ↔ s = new ∨ s ∈ db.refreshSessions) ∧
      db'.browserSessions = db.browserSessions ∧ db.clock ≤ db'.clock ∧
      db'.principals = db.principals ∧ ∃ p ∈ db.principals, p.id = params.principalId := by
  unfold storeSession at h
  split at h
  · cases h
  rename_i hcreate
  split_ifs at h with hprincipal
  cases h
  obtain ⟨-, sessions, tokens, hsessions, -, rfl⟩ := createRefreshSession_eq_ok hcreate
  obtain ⟨p, hp, hid⟩ := any_eq_true.1 hprincipal
  exact ⟨_, rfl, rfl, rfl, fun s hs => key_ne_of_insert hsessions hs,
    fun s => mem_of_insert_eq_some hsessions, rfl, (Quiet.tick db n).clock_le, rfl, p, hp,
    by simpa using hid⟩

theorem shrinks_of_continues {other : Db} (h : continues db other = true) : Shrinks db other := by
  simp only [continues, Bool.and_eq_true, decide_eq_true_eq, List.all_eq_true, Bool.or_eq_true,
    any_eq_true, beq_iff_eq, Option.isNone_iff_eq_none, Option.isSome_iff_ne_none] at h
  obtain ⟨⟨⟨hclock, hrefresh⟩, -⟩, -⟩ := h
  refine ⟨fun s hs hrevoked => ?_, hclock⟩
  obtain hne | ⟨s', hs', ⟨⟨hid, hprincipal⟩, hrevoked'⟩, hexpires⟩ := hrefresh s hs
  · exact absurd hrevoked hne
  · exact ⟨s', hs', hid, hprincipal, hrevoked', hexpires⟩

/-! ### The invariant -/

theorem singleSessionApplies_congr {p q : Principal} (h : p.id = q.id) :
    singleSessionApplies state p = singleSessionApplies state q := by
  have htype : p.principalType = q.principalType := (principalId_inj.1 h).1
  unfold singleSessionApplies
  rw [htype]

theorem governed_eq_some :
    governed state login = some principal ↔
      login.principal = some principal ∧ singleSessionApplies state principal = true :=
  Option.filter_eq_some_iff

/-- One login at most has passed the policy for a principal, and then there is no session. -/
structure Invariant (state : AppState) (c : Config ι (Store ι) Phase) : Prop where
  sound : ∀ i, (c.request i).Sound
  single : SingleSession state c.shared.db
  unique : ∀ i j p q, (c.request i).clearedFor state = some p →
    (c.request j).clearedFor state = some q → p.id = q.id → i = j
  none : ∀ i p, (c.request i).clearedFor state = some p → NoSession c.shared.db p.id

variable {c : Config ι (Store ι) Phase} {s' : Store ι} {i : ι} {o : Oracle} {phase' : Phase}

theorem clearedFor_eq_none (h : phase'.cleared = none) : phase'.clearedFor state = none := by
  rw [Phase.clearedFor, h, Option.bind_none]

theorem cleared_stored (issued : Issued) : (stored issued).cleared = none := by
  unfold stored
  split <;> rfl

theorem cleared_committed (change : Change) : (committed change).cleared = none := by
  cases change <;> rfl

section Step

variable (h : Invariant state c)

include h

theorem Invariant.sound_update (hsound : phase'.Sound) : ∀ j, (update c.request i phase' j).Sound :=
  (forall_update_iff _ fun _ => Phase.Sound).2 ⟨hsound, fun j _ => h.sound j⟩

/-- A step that creates no session and after which no further login has passed the policy. -/
theorem Invariant.of_shrinks (hsound : phase'.Sound) (hdb : Shrinks c.shared.db s'.db)
    (hcleared : ∀ p, phase'.clearedFor state = some p → (c.request i).clearedFor state = some p) :
    Invariant state ⟨s', update c.request i phase'⟩ := by
  have hbefore : ∀ j p, (update c.request i phase' j).clearedFor state = some p →
      (c.request j).clearedFor state = some p := by
    exact (forall_update_iff _ fun j (phase : Phase) => ∀ p, phase.clearedFor state = some p →
      (c.request j).clearedFor state = some p).2 ⟨hcleared, fun _ _ _ => id⟩
  exact ⟨h.sound_update hsound, h.single.shrinks hdb,
    fun j k p q hp hq => h.unique j k p q (hbefore j p hp) (hbefore k q hq),
    fun j p hp => (h.none j p (hbefore j p hp)).shrinks hdb⟩

/-- A step by which a login passes the policy, alone and without a session. -/
theorem Invariant.of_passed (hsound : phase'.Sound) (hdb : Shrinks c.shared.db s'.db)
    (hcleared : phase'.clearedFor state = some principal) (hnone : NoSession s'.db principal.id)
    (halone : ∀ j, j ≠ i → ∀ p, (c.request j).clearedFor state = some p → p.id ≠ principal.id) :
    Invariant state ⟨s', update c.request i phase'⟩ := by
  refine ⟨h.sound_update hsound, h.single.shrinks hdb, fun j k p q hp hq hid => ?_,
    (forall_update_iff _ fun _ (t : Phase) =>
        ∀ p, t.clearedFor state = some p → NoSession s'.db p.id).2
      ⟨fun p hp => ?_, fun j _ p hp => (h.none j p hp).shrinks hdb⟩⟩
  · by_cases hj : j = i <;> by_cases hk : k = i
    · rw [hj, hk]
    · subst hj
      simp only [update_self, update_of_ne hk] at hp hq
      obtain rfl := Option.some.inj (hcleared.symm.trans hp)
      exact absurd hid.symm (halone k hk q hq)
    · subst hk
      simp only [update_self, update_of_ne hj] at hp hq
      obtain rfl := Option.some.inj (hcleared.symm.trans hq)
      exact absurd hid (halone j hj p hp)
    · simp only [update_of_ne hj, update_of_ne hk] at hp hq
      exact h.unique j k p q hp hq hid
  · obtain rfl := Option.some.inj (hcleared.symm.trans hp)
    exact hnone

/-- A step by which a login stores its session. -/
theorem Invariant.of_stored {issued : Issued} (hphase : c.request i = .storing login issued)
    (hparams : issued.session = some params)
    (hdb : storeSession state params (c.shared.db.tick n) = .ok s'.db) :
    Invariant state ⟨s', update c.request i (stored issued)⟩ := by
  obtain ⟨new, hid, hprincipal, hrevoked, hfresh, hmem, -, hclock, -⟩ := storeSession_eq_ok hdb
  have hsound := h.sound i
  rw [hphase] at hsound
  obtain ⟨principal, hlogin, hfor⟩ := hsound.2 params hparams
  -- a governed principal with the id of the new session is the one of the login
  have hnone : ∀ q : Principal, singleSessionApplies state q = true → q.id = new.principalId →
      (c.request i).clearedFor state = some principal ∧ q.id = principal.id := by
    intro q happlies hq
    have hsame : q.id = principal.id := by rw [hq, hprincipal, hfor]
    refine ⟨?_, hsame⟩
    rw [hphase]
    exact governed_eq_some.2 ⟨hlogin, singleSessionApplies_congr hsame ▸ happlies⟩
  have hlive : ∀ s ∈ c.shared.db.refreshSessions, live s'.db s = true →
      live c.shared.db s = true := by
    intro s _ hs
    obtain ⟨hrevoked, hexpires⟩ := live_iff.1 hs
    exact live_iff.2 ⟨hrevoked, hclock.trans_lt hexpires⟩
  have hold : ∀ s ∈ c.shared.db.refreshSessions, Governed state s.principalId →
      s.principalId = new.principalId → live s'.db s = true → False := by
    rintro s hs ⟨q, happlies, hq⟩ hsame hs'
    obtain ⟨hcleared, hqid⟩ := hnone q happlies (hq.trans hsame)
    have hdead := h.none i principal hcleared s hs (by rw [← hqid, hq])
    rw [hlive s hs hs'] at hdead
    cases hdead
  have hother : ∀ j p, (update c.request i (stored issued) j).clearedFor state = some p →
      j ≠ i ∧ (c.request j).clearedFor state = some p := by
    intro j p hp
    by_cases hj : j = i
    · subst hj
      rw [update_self, clearedFor_eq_none (cleared_stored issued)] at hp
      cases hp
    · rw [update_of_ne hj] at hp
      exact ⟨hj, hp⟩
  refine ⟨h.sound_update (sound_stored issued), ?_, fun j k p q hp hq => ?_, fun j p hp => ?_⟩
  · intro s hs r hr hgoverned hsame hslive hrlive
    rcases (hmem s).1 hs with rfl | hs
    · rcases (hmem r).1 hr with rfl | hr
      · rfl
      · exact (hold r hr (hsame ▸ hgoverned) hsame.symm hrlive).elim
    · rcases (hmem r).1 hr with rfl | hr
      · exact (hold s hs hgoverned hsame hslive).elim
      · exact h.single s hs r hr hgoverned hsame (hlive s hs hslive) (hlive r hr hrlive)
  · exact h.unique j k p q (hother j p hp).2 (hother k q hq).2
  · obtain ⟨hj, hp⟩ := hother j p hp
    intro s hs hsid
    rcases (hmem s).1 hs with rfl | hs
    · have happlies : singleSessionApplies state p = true := by
        obtain ⟨login', -, hgoverned⟩ := Option.bind_eq_some_iff.1 hp
        exact (governed_eq_some.1 hgoverned).2
      obtain ⟨hcleared, hpid⟩ := hnone p happlies hsid.symm
      exact absurd (h.unique j i p principal hp hcleared hpid) hj
    · by_contra hs'
      have hdead := h.none j p hp s hs hsid
      rw [hlive s hs (Bool.not_eq_false _ ▸ hs')] at hdead
      cases hdead

theorem Invariant.proceed (halone : PassesAlone state c (.request i (.proceed o)))
    (hnext : Logins.proceed state i c.shared o (c.request i) = some (s', phase')) :
    Invariant state ⟨s', update c.request i phase'⟩ := by
  obtain ⟨heffect, hsound⟩ := effect_of_proceed (h.sound i) hnext
  cases heffect with
  | moved hquiet hprogress =>
    refine h.of_shrinks hsound hquiet.shrinks fun p hp => ?_
    obtain ⟨login, hlogin, hgoverned⟩ := Option.bind_eq_some_iff.1 hp
    obtain hbefore | hnone := hprogress.cleared login hlogin
    · exact Option.bind_eq_some_iff.2 ⟨login, hbefore, hgoverned⟩
    · rw [hnone] at hgoverned
      cases hgoverned
  | verified request hphase hquiet hcleared =>
    refine h.of_shrinks hsound hquiet.shrinks fun p hp => ?_
    rw [clearedFor_eq_none hcleared] at hp
    cases hp
  | passed login principal hphase hgoverned hquiet hactive hphase' =>
    subst hphase'
    exact h.of_passed hsound hquiet.shrinks hgoverned (hasActive_eq_false.1 hactive)
      (halone i o login principal rfl hgoverned (.inl hphase))
  | tookOver login n hphase hdb hphase' =>
    subst hphase'
    cases hgoverned : governed state login with
    | none =>
      refine h.of_shrinks hsound ?_ fun p hp => ?_
      · rw [hdb]
        cases login.principal with
        | none => exact (Quiet.tick _ n).shrinks
        | some => exact shrinks_revokePrincipal _ n _ _
      · cases hgoverned.symm.trans hp
    | some principal =>
      rw [(governed_eq_some.1 hgoverned).1, Option.elim_some] at hdb
      refine h.of_passed hsound ?_ hgoverned ?_
        (halone i o login principal rfl hgoverned (.inr hphase))
      · exact hdb ▸ shrinks_revokePrincipal _ n _ _
      · exact hdb ▸ noSession_revokePrincipal _ _ _
  | stored login issued params n hphase hparams hdb hphase' =>
    subst hphase'
    exact h.of_stored hphase hparams hdb
  | opened user n expiresAt hphase hdb hphase' =>
    subst hphase'
    refine h.of_shrinks hsound (shrinks_createBrowserSession hdb) fun p hp => ?_
    cases hp
  | revokedRefresh t n hphase hdb hphase' | revokedBrowser t n hphase hdb hphase' =>
    subst hphase'
    refine h.of_shrinks hsound (hdb ▸ (Quiet.tick _ n).shrinks) fun p hp => ?_
    cases hp
  | committed t n hphase hdb hphase' =>
    subst hphase'
    refine h.of_shrinks hsound (shrinks_commit hdb) fun p hp => ?_
    rw [clearedFor_eq_none (cleared_committed t.change)] at hp
    cases hp

end Step

theorem Invariant.step {c' : Config ι (Store ι) Phase} {a : Action ι Input Db}
    (h : Invariant state c) (halone : PassesAlone state c a)
    (hstep : (protocol state ι).system.step c a = some c') : Invariant state c' := by
  obtain ⟨other, s, rfl, henv, rfl⟩ | ⟨i, input, s, phase, rfl, hnext, rfl⟩ :=
    Protocol.step_cases hstep
  · simp only [protocol] at henv
    split_ifs at henv with hcontinues
    cases henv
    have hdb := shrinks_of_continues hcontinues
    exact ⟨h.sound, h.single.shrinks hdb, h.unique, fun i p hp => (h.none i p hp).shrinks hdb⟩
  cases input with
  | proceed => exact h.proceed halone hnext
  | call call =>
    simp only [protocol, next] at hnext
    split_ifs at hnext
    cases hnext
    refine h.of_shrinks (sound_receive call) (Quiet.refl _).shrinks fun p hp => ?_
    cases call <;> cases hp

/-- If every login that passes the policy on sessions is the only one of its principal between the
policy and its session, then no governed principal ever has two sessions. -/
theorem single_session (state : AppState) {c₀ c : Config ι (Store ι) Phase}
    {ls : List (Action ι Input Db)} (hidle : ∀ i, c₀.request i = .idle)
    (hstart : SingleSession state c₀.shared.db)
    (halone : (protocol state ι).system.Along (fun c a _ => PassesAlone state c a) c₀ ls)
    (hrun : (protocol state ι).system.run c₀ ls = some c) :
    SingleSession state c.shared.db := by
  have hinvariant : Invariant state c₀ := by
    refine ⟨fun i => ?_, hstart, fun i j p q hp => ?_, fun i p hp => ?_⟩
    · rw [hidle i]
      trivial
    · rw [hidle i] at hp
      cases hp
    · rw [hidle i] at hp
      cases hp
  exact ((protocol state ι).system.run_invariant_along
    (fun _ _ _ h halone hstep => h.step halone hstep) hinvariant halone hrun).single

/-! ### Two logins -/

/-- Tokens are the random identifiers of their claims. -/
def plainKeys : JwtKeys := ⟨fun claims => .ok claims.jti, fun _ => .error .invalidToken⟩

/-- A server with one session for every user. -/
def singleState : AppState := ⟨.readable, plainKeys, 3600, 86400, "single_user_session"⟩

def account : User where
  id := "u"
  username := "ada"
  email := "ada@example.org"
  passwordHash := some "$pw"

/-- A database with one account, and no request under way. -/
def oneAccount : Config (Fin 2) (Store (Fin 2)) Phase :=
  ⟨⟨{ users := .single account }, fun _ => none⟩, fun _ => .idle⟩

/-- A login of the account up to the policy on sessions, which it passes. -/
def loginUntilPolicy (i : Fin 2) (force : Bool) : List (Action (Fin 2) Input Db) :=
  .request i (.call (.authToken ⟨"ada", "pw", some force, none⟩)) ::
    List.replicate 11 (.request i (.proceed {}))

/-- The rest of a login, with the identifiers that it draws. -/
def loginFromPolicy (i : Fin 2) (uuid : String) : List (Action (Fin 2) Input Db) :=
  List.replicate 5 (.request i (.proceed { uuid := uuid }))

/-- No other request is between the policy and its session. -/
def othersIdle (c : Config (Fin 2) (Store (Fin 2)) Phase) : Action (Fin 2) Input Db → Bool
  | .request i _ => decide (∀ j, j ≠ i → (c.request j).cleared.isNone = true)
  | .environment _ => true

theorem passesAlone_of_othersIdle {c : Config (Fin 2) (Store (Fin 2)) Phase}
    {a : Action (Fin 2) Input Db} (h : othersIdle c a = true) : PassesAlone state c a := by
  rintro i o login principal rfl - - j hj p hp
  have hnone := of_decide_eq_true h j hj
  rw [clearedFor_eq_none (Option.isNone_iff_eq_none.1 hnone)] at hp
  cases hp

/-- A login, and another one that takes over. -/
def takeover : List (Action (Fin 2) Input Db) :=
  loginUntilPolicy 0 false ++ loginFromPolicy 0 "a" ++ loginUntilPolicy 1 true ++
    [.request 1 (.proceed {})] ++ loginFromPolicy 1 "b"

theorem single_session_takeover :
    ∃ c, (protocol singleState (Fin 2)).system.run oneAccount takeover = some c ∧
      SingleSession singleState c.shared.db ∧
      c.shared.db.refreshSessions.rows.map (fun s => (s.id, s.revokeReason)) =
        [("b", none), ("a", some "session_takeover")] := by
  have hstart : SingleSession singleState oneAccount.shared.db := fun s hs =>
    absurd hs not_mem_empty
  have hidle : (protocol singleState (Fin 2)).system.Along (fun c a _ => othersIdle c a = true)
      oneAccount takeover := by decide
  have halone : (protocol singleState (Fin 2)).system.Along
      (fun c a _ => PassesAlone singleState c a) oneAccount takeover :=
    System.along_of_invariant _ (I := fun _ => True)
      (fun _ _ _ _ h _ => ⟨trivial, passesAlone_of_othersIdle h⟩) trivial hidle
  exact ⟨_, rfl, single_session singleState (fun _ => rfl) hstart halone rfl, by decide⟩

/-- Two logins of one user that both pass the policy before one of them has stored its session. -/
theorem two_sessions :
    SingleSession singleState oneAccount.shared.db ∧
    ∃ c, (protocol singleState (Fin 2)).system.run oneAccount
        (loginUntilPolicy 0 false ++ loginUntilPolicy 1 false ++ loginFromPolicy 0 "a" ++
          loginFromPolicy 1 "b") = some c ∧
      Governed singleState (principalId .user "u") ∧
      (c.shared.db.refreshSessions.select fun s =>
        s.principalId == principalId .user "u" && live c.shared.db s).map RefreshSession.id =
          ["b", "a"] := by
  refine ⟨fun s hs => absurd hs not_mem_empty, _, rfl, ⟨⟨.user, "u", "ada", true⟩, ?_, ?_⟩, ?_⟩
  · decide
  · decide
  · decide

end Keylo.Logins
