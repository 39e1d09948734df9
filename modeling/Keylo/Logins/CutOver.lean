import Keylo.Logins.SingleSession

/-!
# Sessions after a change of credentials

A change of a password and the disabling of an account revoke the sessions of the user in the
transaction that makes the change. A login that has verified the former password may store its
session after that, and nothing revokes it (`session_outlives_password`). If no login of a user is
under way while the credentials of the user are changed, every live session was authenticated with
the current credentials (`cut_over_complete`).

## Main definitions

* `History` : how often the credentials of a user have been changed, now and when a session was
  authenticated.
* `CutOver` : no live session was authenticated before the last change.
* `Apart` : the condition on the states of a run.
-/

namespace Keylo.Logins

open Relational Transition Handler Anonymous Function Table

variable {state : AppState} {ι : Type*} [DecidableEq ι] {db db' : Db}

/-! ### The history of credentials -/

/-- How often the credentials of every user have been changed, and how often they had been when the
user of a request was read and when a session was authenticated. Sessions of logins without a
password have no entry. -/
structure History (ι : Type*) where
  changes : String → ℕ
  seen : ι → ℕ
  refresh : String → Option ℕ
  browser : String → Option ℕ

/-- The history of a database in which no change has been made yet. -/
def History.start (ι : Type*) (db : Db) : History ι where
  changes _ := 0
  seen _ := 0
  refresh id := if db.refreshSessions.any fun s => s.id == id then some 0 else none
  browser id := if db.browserSessions.any fun s => s.id == id then some 0 else none

/-- Records a password that is verified, a session that is stored, and a change that is
committed. -/
def History.note (h : History ι) (i : ι) (o : Oracle) (phase phase' : Phase) : History ι :=
  match phase with
  | .reading _ =>
    phase'.user.elim h fun user => { h with seen := update h.seen i (h.changes user.id) }
  | .storing login issued =>
    issued.session.elim h fun params =>
      { h with
        refresh := update h.refresh params.sessionId (login.user.map fun _ => h.seen i) }
  | .opening _ => { h with browser := update h.browser o.uuid (some (h.seen i)) }
  | .committing t =>
    if t.change.reason.isSome then
      { h with
        changes :=
          update h.changes t.change.userId (h.changes t.change.userId + 1) }
    else h
  | _ => h

/-- The history after a step. -/
def record (h : History ι) (c : Config ι (Store ι) Phase) (a : Action ι Input Db)
    (c' : Config ι (Store ι) Phase) : History ι :=
  match a with
  | .request i (.proceed o) =>
    if notable (c.request i) (c'.request i) then h.note i o (c.request i) (c'.request i) else h
  | _ => h

/-- A browser session that is neither revoked nor expired. -/
def liveBrowser (db : Db) (s : BrowserSession) : Bool :=
  s.revokedAt.isNone && db.clock < s.expiresAt

/-- No live session was authenticated before the last change of the credentials of its user. -/
structure CutOver (h : History ι) (db : Db) : Prop where
  refresh : ∀ s ∈ db.refreshSessions, live db s = true → ∀ userId n,
    s.principalId = principalId .user userId → h.refresh s.id = some n → n = h.changes userId
  browser : ∀ s ∈ db.browserSessions, liveBrowser db s = true → ∀ n,
    h.browser s.id = some n → n = h.changes s.userId

/-- No login of a user is between its password and its session while the credentials of the user are
changed. -/
def Apart (c : Config ι (Store ι) Phase) : Prop :=
  ∀ i j t user, (c.request i).transaction = some t → t.change.reason.isSome = true →
    (c.request j).user = some user → user.id ≠ t.change.userId

/-! ### Sessions and their principals -/

/-- Every refresh session has its principal. -/
def Referenced (db : Db) : Prop :=
  ∀ s ∈ db.refreshSessions, ∃ p ∈ db.principals, p.id = s.principalId

theorem liveBrowser_iff {s : BrowserSession} :
    liveBrowser db s = true ↔ s.revokedAt = none ∧ db.clock < s.expiresAt := by
  simp [liveBrowser, Option.isNone_iff_eq_none]

/-- No browser session is created, and none that is revoked is live again. -/
def ShrinksBrowser (db db' : Db) : Prop :=
  ∀ s ∈ db'.browserSessions, s.revokedAt = none → ∃ s' ∈ db.browserSessions,
    s'.id = s.id ∧ s'.userId = s.userId ∧ s'.revokedAt = none ∧ s'.expiresAt = s.expiresAt

theorem Quiet.shrinksBrowser (h : Quiet db db') : ShrinksBrowser db db' :=
  fun s hs hrevoked => ⟨s, h.browserSessions ▸ hs, rfl, rfl, hrevoked, rfl⟩

theorem shrinksBrowser_of_eq (h : db'.browserSessions = db.browserSessions) :
    ShrinksBrowser db db' :=
  fun s hs hrevoked => ⟨s, h ▸ hs, rfl, rfl, hrevoked, rfl⟩

theorem Referenced.quiet (h : Referenced db) (hquiet : Quiet db db') : Referenced db' := by
  intro s hs
  obtain ⟨p, hp, hid⟩ := h s (hquiet.refreshSessions ▸ hs)
  obtain ⟨q, hq, howner⟩ := hquiet.hasOwner p.owner ⟨p, hp, rfl⟩
  refine ⟨q, hq, ?_⟩
  rw [← hid, Principal.id, Principal.id]
  obtain ⟨htype, href⟩ := Prod.mk.inj howner
  rw [htype, href]

theorem isSessionOf_of_referenced (h : Referenced db) {s : RefreshSession}
    (hs : s ∈ db.refreshSessions) {userId : String}
    (hprincipal : s.principalId = principalId .user userId) (hrevoked : s.revokedAt = none) :
    isSessionOf db userId s = true := by
  obtain ⟨p, hp, hid⟩ := h s hs
  obtain ⟨htype, href⟩ := principalId_inj.1 (hid.trans hprincipal)
  simp only [isSessionOf, hrevoked, Option.isNone_none, Bool.true_and]
  exact any_eq_true.2 ⟨p, hp, by simp [hid, htype, href]⟩

omit [DecidableEq ι] in
theorem CutOver.shrinks {h : History ι} (hcut : CutOver h db) (hdb : Shrinks db db')
    (hbrowser : ShrinksBrowser db db') : CutOver h db' where
  refresh s hs hlive userId n hprincipal hn := by
    obtain ⟨s', hs', hid, hprincipal', hlive'⟩ := hdb.live hs hlive
    exact hcut.refresh s' hs' hlive' userId n (hprincipal'.trans hprincipal) (hid ▸ hn)
  browser s hs hlive n hn := by
    obtain ⟨hrevoked, hexpires⟩ := liveBrowser_iff.1 hlive
    obtain ⟨s', hs', hid, huser, hrevoked', hexpires'⟩ := hbrowser s hs hrevoked
    rw [← huser]
    exact hcut.browser s' hs'
      (liveBrowser_iff.2 ⟨hrevoked', hexpires' ▸ hdb.clock_le.trans_lt hexpires⟩) n (hid ▸ hn)

variable {t : Transaction} {n : Nat}

theorem shrinksBrowser_commit (h : t.commit (db.tick n) = .ok db') :
    ShrinksBrowser db db' := by
  unfold Transaction.commit at h
  split at h <;> cases h
  exact fun s hs hrevoked => ⟨s, (eq_of_not_revoked_browser hs hrevoked).1, rfl, rfl, hrevoked, rfl⟩

/-- The sessions that are left after a change are not among those that it revokes. -/
theorem not_mem_of_commit (h : t.commit (db.tick n) = .ok db') :
    (∀ s ∈ db'.refreshSessions, s.revokedAt = none →
      s ∈ db.refreshSessions ∧ s.id ∉ t.refreshSessions) ∧
    ∀ s ∈ db'.browserSessions, s.revokedAt = none →
      s ∈ db.browserSessions ∧ s.id ∉ t.browserSessions := by
  unfold Transaction.commit at h
  split at h <;> cases h
  refine ⟨fun s hs hrevoked => ?_, fun s hs hrevoked => ?_⟩
  · obtain ⟨hs, hnot⟩ := eq_of_not_revoked hs hrevoked
    exact ⟨hs, by simpa using hnot⟩
  · obtain ⟨hs, hnot⟩ := eq_of_not_revoked_browser hs hrevoked
    exact ⟨hs, by simpa using hnot⟩

theorem Referenced.update (h : Referenced db) (hprincipals : db'.principals = db.principals)
    {p : RefreshSession → Bool} {now : Time} {reason : Option String}
    (hsessions : db'.refreshSessions = db.refreshSessions.update p (revokeSession now reason)) :
    Referenced db' := by
  intro s hs
  rw [hsessions] at hs
  obtain ⟨r, hr, rfl⟩ := mem_update.1 hs
  obtain ⟨q, hq, hid⟩ := h r hr
  refine ⟨q, hprincipals ▸ hq, hid.trans ?_⟩
  split_ifs <;> rfl

theorem referenced_commit (href : Referenced db) (h : t.commit (db.tick n) = .ok db') :
    Referenced db' := by
  unfold Transaction.commit at h
  split at h <;> cases h
  refine href.update ?_ rfl
  split_ifs <;> rfl

theorem continues_eq_true {other : Db} (h : continues db other = true) :
    ShrinksBrowser db other ∧ Referenced other := by
  simp only [continues, Bool.and_eq_true, decide_eq_true_eq, List.all_eq_true, Bool.or_eq_true,
    any_eq_true, beq_iff_eq, Option.isNone_iff_eq_none, Option.isSome_iff_ne_none] at h
  obtain ⟨⟨-, hbrowser⟩, href⟩ := h
  refine ⟨fun s hs hrevoked => ?_, href⟩
  obtain hne | ⟨s', hs', ⟨⟨hid, huser⟩, hrevoked'⟩, hexpires⟩ := hbrowser s hs
  · exact absurd hrevoked hne
  · exact ⟨s', hs', hid, huser, hrevoked', hexpires⟩

/-! ### Requests -/

variable {h : History ι}

/-- The change revokes the refresh sessions of the user that were authenticated by password. -/
def RefreshCovered (h : History ι) (db : Db) (t : Transaction) : Prop :=
  ∀ s ∈ db.refreshSessions, s.revokedAt = none → s.principalId = principalId .user t.change.userId →
    (h.refresh s.id).isSome = true → s.id ∈ t.refreshSessions

/-- The change revokes the browser sessions of the user that were authenticated by password. -/
def BrowserCovered (h : History ι) (db : Db) (t : Transaction) : Prop :=
  ∀ s ∈ db.browserSessions, s.revokedAt = none → s.userId = t.change.userId →
    (h.browser s.id).isSome = true → s.id ∈ t.browserSessions

/-- A change of credentials covers the sessions of the tables it has been to. -/
def Covers (h : History ι) (db : Db) : Phase → Prop
  | .revokingBrowser t => t.change.reason.isSome = true → RefreshCovered h db t
  | .committing t => t.change.reason.isSome = true → RefreshCovered h db t ∧ BrowserCovered h db t
  | _ => True

/-- What is known about a request. -/
structure Tracked (h : History ι) (db : Db) (i : ι) (phase : Phase) : Prop where
  sound : phase.Sound
  seen : ∀ user, phase.user = some user → h.seen i = h.changes user.id
  covers : Covers h db phase

variable {phase phase' : Phase} {i : ι}

section Shrinks

omit [DecidableEq ι]

theorem covers_of_transaction (h' : phase.transaction = none) :
    Covers h db phase := by
  cases phase <;> trivial

theorem Covers.mono {h' : History ι} (hcovers : Covers h db phase)
    (hrefresh : ∀ t, phase.transaction = some t → t.change.reason.isSome = true →
      RefreshCovered h db t → RefreshCovered h' db' t)
    (hbrowser : ∀ t, phase.transaction = some t → t.change.reason.isSome = true →
      BrowserCovered h db t → BrowserCovered h' db' t) : Covers h' db' phase := by
  cases phase with
  | revokingBrowser t => exact fun hreason => hrefresh t rfl hreason (hcovers hreason)
  | committing t =>
    exact fun hreason => ⟨hrefresh t rfl hreason (hcovers hreason).1,
      hbrowser t rfl hreason (hcovers hreason).2⟩
  | _ => trivial

theorem RefreshCovered.shrinks (hcovered : RefreshCovered h db t) (hdb : Shrinks db db') :
    RefreshCovered h db' t := by
  intro s hs hrevoked hprincipal hsome
  obtain ⟨s', hs', hid, hprincipal', hrevoked', -⟩ := hdb.refresh s hs hrevoked
  exact hid ▸ hcovered s' hs' hrevoked' (hprincipal'.trans hprincipal) (hid ▸ hsome)

theorem BrowserCovered.shrinks (hcovered : BrowserCovered h db t) (hdb : ShrinksBrowser db db') :
    BrowserCovered h db' t := by
  intro s hs hrevoked huser hsome
  obtain ⟨s', hs', hid, huser', hrevoked', -⟩ := hdb s hs hrevoked
  exact hid ▸ hcovered s' hs' hrevoked' (huser'.trans huser) (hid ▸ hsome)

theorem Covers.shrinks (hcovers : Covers h db phase) (hdb : Shrinks db db')
    (hbrowser : ShrinksBrowser db db') : Covers h db' phase :=
  hcovers.mono (fun _ _ _ hc => hc.shrinks hdb) fun _ _ _ hc => hc.shrinks hbrowser

theorem Tracked.shrinks (ht : Tracked h db i phase) (hdb : Shrinks db db')
    (hbrowser : ShrinksBrowser db db') : Tracked h db' i phase :=
  ⟨ht.sound, ht.seen, ht.covers.shrinks hdb hbrowser⟩

theorem tracked_of_none (hsound : phase'.Sound) (huser : phase'.user = none)
    (htransaction : phase'.transaction = none) : Tracked h db i phase' where
  sound := hsound
  seen user hu := by
    rw [huser] at hu
    cases hu
  covers := covers_of_transaction htransaction

theorem tracked_stored (issued : Issued) : Tracked h db i (stored issued) := by
  refine tracked_of_none (sound_stored issued) ?_ ?_ <;> unfold stored <;> split <;> rfl

theorem tracked_committed (change : Change) : Tracked h db i (committed change) := by
  refine tracked_of_none (sound_committed change) ?_ ?_ <;> cases change <;> rfl

end Shrinks

/-- The invariant of runs. -/
structure Cut (c : Config ι (Store ι) Phase) (h : History ι) : Prop where
  referenced : Referenced c.shared.db
  cutOver : CutOver h c.shared.db
  tracked : ∀ i, Tracked h c.shared.db i (c.request i)

variable {c : Config ι (Store ι) Phase} {s' : Store ι} {o : Oracle} {expiresAt : Int}

theorem tracked_update {h' : History ι} (hown : Tracked h' s'.db i phase')
    (hrely : ∀ j, j ≠ i → Tracked h' s'.db j (c.request j)) :
    ∀ j, Tracked h' s'.db j (update c.request i phase' j) :=
  (forall_update_iff _ fun j => Tracked h' s'.db j).2 ⟨hown, hrely⟩

theorem createBrowserSession_eq_ok {crates : Crates} {id rawSession userId : String}
    (h : createBrowserSession crates (db.tick n) id rawSession userId expiresAt = .ok db') :
    ∃ new : BrowserSession, new.id = id ∧ new.userId = userId ∧
      (∀ s ∈ db.browserSessions, s.id ≠ new.id) ∧
      (∀ s, s ∈ db'.browserSessions ↔ s = new ∨ s ∈ db.browserSessions) ∧
      db'.refreshSessions = db.refreshSessions ∧ db'.principals = db.principals := by
  unfold createBrowserSession at h
  split_ifs at h
  split at h
  · cases h
  rename_i sessions hsessions
  cases h
  exact ⟨_, rfl, rfl, fun s hs => key_ne_of_insert hsessions hs,
    fun s => mem_of_insert_eq_some hsessions, rfl, rfl⟩

theorem referenced_tookOver {login : Login} (href : Referenced db)
    (hdb : db' = login.principal.elim (db.tick n) fun principal =>
      revokePrincipalRefreshSessions (db.tick n) principal.id (some "session_takeover")) :
    Referenced db' ∧ Shrinks db db' ∧ ShrinksBrowser db db' := by
  subst hdb
  cases login.principal with
  | none => exact ⟨href, (Quiet.tick db n).shrinks, (Quiet.tick db n).shrinksBrowser⟩
  | some =>
    exact ⟨href.update rfl rfl, shrinks_revokePrincipal db n _ _, shrinksBrowser_of_eq rfl⟩

section Step

variable (hcut : Cut c h)

include hcut

theorem Cut.of_shrinks (href : Referenced s'.db) (hdb : Shrinks c.shared.db s'.db)
    (hbrowser : ShrinksBrowser c.shared.db s'.db) (hown : Tracked h s'.db i phase') :
    Cut ⟨s', update c.request i phase'⟩ h where
  referenced := href
  cutOver := hcut.cutOver.shrinks hdb hbrowser
  tracked := tracked_update hown fun j _ => (hcut.tracked j).shrinks hdb hbrowser

theorem Cut.of_quiet (hquiet : Quiet c.shared.db s'.db) (hown : Tracked h s'.db i phase') :
    Cut ⟨s', update c.request i phase'⟩ h :=
  hcut.of_shrinks (hcut.referenced.quiet hquiet) hquiet.shrinks hquiet.shrinksBrowser hown

theorem Cut.of_verified (hquiet : Quiet c.shared.db s'.db) (hsound : phase'.Sound)
    (htransaction : phase'.transaction = none) {user : User} (huser : phase'.user = some user) :
    Cut ⟨s', update c.request i phase'⟩
      { h with seen := update h.seen i (h.changes user.id) } := by
  have hcut' := hcut.cutOver.shrinks hquiet.shrinks hquiet.shrinksBrowser
  refine ⟨hcut.referenced.quiet hquiet, ⟨hcut'.refresh, hcut'.browser⟩,
    tracked_update ⟨hsound, fun user' hu => ?_, covers_of_transaction htransaction⟩
      fun j hj => ?_⟩
  · obtain rfl := Option.some.inj (huser.symm.trans hu)
    exact update_self i _ _
  · have htracked := (hcut.tracked j).shrinks hquiet.shrinks hquiet.shrinksBrowser
    refine ⟨htracked.sound, fun user' hu => ?_,
      htracked.covers.mono (fun _ _ _ hc => hc) fun _ _ _ hc => hc⟩
    dsimp only
    rw [update_of_ne hj]
    exact htracked.seen user' hu

variable (hapart : Apart c)

include hapart

theorem Cut.of_stored {login : Login} {issued : Issued} {params : CreateRefreshSessionParams}
    (hphase : c.request i = .storing login issued) (hparams : issued.session = some params)
    (hdb : storeSession state params (c.shared.db.tick n) = .ok s'.db) :
    Cut ⟨s', update c.request i (stored issued)⟩
      (h.note i o (.storing login issued) (stored issued)) := by
  obtain ⟨new, hid, hprincipal, hrevoked, hfresh, hmem, hbrowser, hclock, hprincipals, hkey⟩ :=
    storeSession_eq_ok hdb
  have htracked := hcut.tracked i
  rw [hphase] at htracked
  obtain ⟨hlogin, hissued⟩ := htracked.sound
  obtain ⟨principal, hp, hfor⟩ := hissued params hparams
  have hnote : h.note i o (.storing login issued) (stored issued) =
      { h with
        refresh :=
          update h.refresh params.sessionId (login.user.map fun _ => h.seen i) } := by
    simp only [History.note, hparams, Option.elim_some]
  rw [hnote]
  -- the entry of the new session, and those of all others
  have hnew : update h.refresh params.sessionId (login.user.map fun _ => h.seen i) new.id =
      login.user.map fun _ => h.seen i := by rw [hid, update_self]
  have hold : ∀ s ∈ c.shared.db.refreshSessions,
      update h.refresh params.sessionId (login.user.map fun _ => h.seen i) s.id =
        h.refresh s.id := fun s hs => update_of_ne (hid ▸ hfresh s hs) _ _
  have hown : ∀ user, login.user = some user → ∀ userId,
      new.principalId = principalId .user userId → userId = user.id := by
    intro user huser userId hu
    have howner := hlogin.owner user huser principal hp
    rw [hprincipal, hfor] at hu
    exact (principalId_inj.1 hu).2.symm.trans (Prod.mk.inj howner).2
  refine ⟨?_, ⟨?_, ?_⟩, tracked_update (tracked_stored issued) fun j hj => ?_⟩
  · intro s hs
    rw [hprincipals]
    rcases (hmem s).1 hs with rfl | hs
    · exact hprincipal ▸ hkey
    · exact hcut.referenced s hs
  · intro s hs hlive userId k hu hk
    rcases (hmem s).1 hs with rfl | hs
    · obtain ⟨user, huser, rfl⟩ := Option.map_eq_some_iff.1 (hnew.symm.trans hk)
      rw [hown user huser userId hu]
      exact htracked.seen user huser
    · obtain ⟨hrev, hexpires⟩ := live_iff.1 hlive
      exact hcut.cutOver.refresh s hs (live_iff.2 ⟨hrev, hclock.trans_lt hexpires⟩) userId k hu
        ((hold s hs).symm.trans hk)
  · intro s hs hlive k hk
    obtain ⟨hrev, hexpires⟩ := liveBrowser_iff.1 hlive
    exact hcut.cutOver.browser s (hbrowser ▸ hs)
      (liveBrowser_iff.2 ⟨hrev, hclock.trans_lt hexpires⟩) k hk
  · have hj := hcut.tracked j
    refine ⟨hj.sound, hj.seen, hj.covers.mono (fun t ht hreason hc => ?_) fun t _ _ hc => ?_⟩
    · intro s hs hrev hu hsome
      rcases (hmem s).1 hs with rfl | hs
      · dsimp only at hsome
        rw [hnew, Option.isSome_map] at hsome
        obtain ⟨user, huser⟩ := Option.isSome_iff_exists.1 hsome
        refine absurd (hown user huser _ hu).symm (hapart j i t user ht hreason ?_)
        rw [hphase]
        exact huser
      · exact hc s hs hrev hu (hold s hs ▸ hsome)
    · intro s hs
      exact hc s (hbrowser ▸ hs)

theorem Cut.of_opened {user : User} (hphase : c.request i = .opening user)
    (hdb : createBrowserSession state.crates (c.shared.db.tick n) o.uuid o.uuid' user.id expiresAt =
      .ok s'.db) :
    Cut ⟨s', update c.request i (.answered (.ok (.consent o.uuid')))⟩
      { h with browser := update h.browser o.uuid (some (h.seen i)) } := by
  obtain ⟨new, hid, huser, hfresh, hmem, hsessions, hprincipals⟩ := createBrowserSession_eq_ok hdb
  have hclock := (shrinks_createBrowserSession hdb).clock_le
  have htracked := hcut.tracked i
  rw [hphase] at htracked
  have hold : ∀ s ∈ c.shared.db.browserSessions,
      update h.browser o.uuid (some (h.seen i)) s.id = h.browser s.id :=
    fun s hs => update_of_ne (hid ▸ hfresh s hs) _ _
  refine ⟨?_, ⟨?_, ?_⟩, tracked_update (tracked_of_none trivial rfl rfl) fun j hj => ?_⟩
  · intro s hs
    rw [hprincipals]
    exact hcut.referenced s (hsessions ▸ hs)
  · intro s hs hlive
    obtain ⟨hrev, hexpires⟩ := live_iff.1 hlive
    exact hcut.cutOver.refresh s (hsessions ▸ hs) (live_iff.2 ⟨hrev, hclock.trans_lt hexpires⟩)
  · intro s hs hlive k hk
    dsimp only at hk
    rcases (hmem s).1 hs with rfl | hs
    · rw [hid, update_self] at hk
      rw [← Option.some.inj hk, huser]
      exact htracked.seen user rfl
    · obtain ⟨hrev, hexpires⟩ := liveBrowser_iff.1 hlive
      exact hcut.cutOver.browser s hs (liveBrowser_iff.2 ⟨hrev, hclock.trans_lt hexpires⟩) k
        ((hold s hs).symm.trans hk)
  · have hj := hcut.tracked j
    refine ⟨hj.sound, hj.seen, hj.covers.mono (fun t _ _ hc => ?_) fun t ht hreason hc => ?_⟩
    · intro s hs
      exact hc s (hsessions ▸ hs)
    · intro s hs hrev hu hsome
      dsimp only at hsome
      rcases (hmem s).1 hs with rfl | hs
      · refine absurd (huser.symm.trans hu) (hapart j i t user ht hreason ?_)
        rw [hphase]
        rfl
      · exact hc s hs hrev hu (hold s hs ▸ hsome)

theorem Cut.of_committed (hphase : c.request i = .committing t)
    (hdb : t.commit (c.shared.db.tick n) = .ok s'.db) :
    Cut ⟨s', update c.request i (committed t.change)⟩
      (h.note i o (.committing t) (committed t.change)) := by
  have hshrinks := shrinks_commit hdb
  have hbrowser := shrinksBrowser_commit hdb
  simp only [History.note]
  split_ifs with hreason
  · have htracked := hcut.tracked i
    rw [hphase] at htracked
    obtain ⟨hrefreshCovered, hbrowserCovered⟩ := htracked.covers hreason
    obtain ⟨hrefreshLeft, hbrowserLeft⟩ := not_mem_of_commit hdb
    have hcut' := hcut.cutOver.shrinks hshrinks hbrowser
    refine ⟨referenced_commit hcut.referenced hdb, ⟨?_, ?_⟩,
      tracked_update (tracked_committed _) fun j hj => ?_⟩
    · intro s hs hlive userId k hu hk
      dsimp only at hk ⊢
      by_cases huser : userId = t.change.userId
      · subst huser
        obtain ⟨hmem, hnot⟩ := hrefreshLeft s hs (live_iff.1 hlive).1
        exact absurd (hrefreshCovered s hmem (live_iff.1 hlive).1 hu (by rw [hk]; rfl)) hnot
      · rw [update_of_ne huser]
        exact hcut'.refresh s hs hlive userId k hu hk
    · intro s hs hlive k hk
      dsimp only at hk ⊢
      by_cases huser : s.userId = t.change.userId
      · obtain ⟨hmem, hnot⟩ := hbrowserLeft s hs (liveBrowser_iff.1 hlive).1
        exact absurd (hbrowserCovered s hmem (liveBrowser_iff.1 hlive).1 huser (by rw [hk]; rfl))
          hnot
      · rw [update_of_ne huser]
        exact hcut'.browser s hs hlive k hk
    · have hj := (hcut.tracked j).shrinks hshrinks hbrowser
      refine ⟨hj.sound, fun user hu => ?_, hj.covers.mono (fun _ _ _ hc => hc) fun _ _ _ hc => hc⟩
      have hne : user.id ≠ t.change.userId :=
        hapart i j t user (by rw [hphase]; rfl) hreason hu
      dsimp only
      rw [update_of_ne hne]
      exact hj.seen user hu
  · exact hcut.of_shrinks (referenced_commit hcut.referenced hdb) hshrinks hbrowser
      (tracked_committed _)

/-- The statements of all requests keep the invariant, with what the history records. -/
theorem Cut.proceed (hnext : Logins.proceed state i c.shared o (c.request i) = some (s', phase')) :
    Cut ⟨s', update c.request i phase'⟩
      (if notable (c.request i) phase' then h.note i o (c.request i) phase' else h) := by
  obtain ⟨heffect, hsound⟩ := effect_of_proceed (hcut.tracked i).sound hnext
  have hseen : phase'.user = none ∨ phase'.user = (c.request i).user →
      ∀ user, phase'.user = some user → h.seen i = h.changes user.id := by
    rintro (hnone | hsame) user huser
    · rw [hnone] at huser
      cases huser
    · exact (hcut.tracked i).seen user (hsame ▸ huser)
  cases heffect with
  | moved hquiet hprogress =>
    rw [hprogress.silent, if_neg Bool.false_ne_true]
    refine hcut.of_quiet hquiet ⟨hsound, hseen hprogress.user, ?_⟩
    cases hphase : phase' with
    | revokingBrowser t => exact absurd hphase (hprogress.revokingBrowser t)
    | committing t =>
      intro hreason
      rw [hprogress.committing t hphase] at hreason
      cases hreason
    | _ => trivial
  | verified request hphase hquiet hcleared htransaction =>
    rw [hphase]
    cases huser : phase'.user with
    | none =>
      simp only [notable, huser, Option.isSome_none, Bool.false_eq_true, if_false]
      exact hcut.of_quiet hquiet (tracked_of_none hsound huser htransaction)
    | some =>
      simp only [notable, History.note, huser, Option.isSome_some, if_true, Option.elim_some]
      exact hcut.of_verified hquiet hsound htransaction huser
  | passed login principal hphase hgoverned hquiet hactive hphase' =>
    subst hphase'
    rw [hphase] at hseen ⊢
    exact hcut.of_quiet hquiet ⟨hsound, hseen (.inr rfl), trivial⟩
  | tookOver login n hphase hdb hphase' =>
    subst hphase'
    rw [hphase] at hseen ⊢
    obtain ⟨href, hshrinks, hbrowser⟩ := referenced_tookOver hcut.referenced hdb
    exact hcut.of_shrinks href hshrinks hbrowser ⟨hsound, hseen (.inr rfl), trivial⟩
  | stored login issued params n hphase hparams hdb hphase' =>
    subst hphase'
    have hsucceeded : (stored issued).succeeded = true := by
      unfold stored
      split <;> rfl
    have hnotable : notable (c.request i) (stored issued) = true := by
      rw [hphase]
      simp only [notable, hparams, Option.isSome_some, hsucceeded, Bool.and_self]
    rw [hnotable, if_pos rfl, hphase]
    exact hcut.of_stored hapart hphase hparams hdb
  | opened user n expiresAt hphase hdb hphase' =>
    subst hphase'
    rw [hphase]
    exact hcut.of_opened hapart hphase hdb
  | revokedRefresh t n hphase hdb hphase' =>
    subst hphase'
    have hquiet : Quiet c.shared.db s'.db := hdb ▸ .tick _ n
    rw [hphase]
    refine hcut.of_quiet hquiet ⟨trivial, by rintro _ ⟨⟩, fun _ s hs hrevoked hprincipal _ => ?_⟩
    exact List.mem_map.2 ⟨s, mem_select.2 ⟨hs, isSessionOf_of_referenced
      (hcut.referenced.quiet hquiet) hs hprincipal hrevoked⟩, rfl⟩
  | revokedBrowser t n hphase hdb hphase' =>
    subst hphase'
    have hquiet : Quiet c.shared.db s'.db := hdb ▸ .tick _ n
    have htracked := (hcut.tracked i).shrinks hquiet.shrinks hquiet.shrinksBrowser
    rw [hphase] at htracked ⊢
    refine hcut.of_quiet hquiet
      ⟨trivial, by rintro _ ⟨⟩, fun hreason => ⟨htracked.covers hreason, ?_⟩⟩
    intro s hs hrevoked huser _
    exact List.mem_map.2 ⟨s, mem_select.2
      ⟨hs, by simp [isBrowserSessionOf, huser, hrevoked, Transaction.revokeBrowser]⟩, rfl⟩
  | committed t n hphase hdb hphase' =>
    subst hphase'
    have hnotable : notable (c.request i) (committed t.change) = true := by
      rw [hphase]
      cases t.change <;> rfl
    rw [hnotable, if_pos rfl, hphase]
    exact hcut.of_committed hapart hphase hdb

end Step

theorem Cut.step {c' : Config ι (Store ι) Phase} {a : Action ι Input Db} (hcut : Cut c h)
    (hapart : Apart c) (hstep : (protocol state ι).system.step c a = some c') :
    Cut c' (record h c a c') := by
  obtain ⟨other, s, rfl, henv, rfl⟩ | ⟨i, input, s, phase, rfl, hnext, rfl⟩ :=
    Protocol.step_cases hstep
  · simp only [protocol] at henv
    split_ifs at henv with hcontinues
    cases henv
    have hdb := shrinks_of_continues hcontinues
    obtain ⟨hbrowser, href⟩ := continues_eq_true hcontinues
    exact ⟨href, hcut.cutOver.shrinks hdb hbrowser,
      fun i => (hcut.tracked i).shrinks hdb hbrowser⟩
  cases input with
  | proceed =>
    have hcut' := hcut.proceed hapart hnext
    simpa only [record, update_self] using hcut'
  | call call =>
    simp only [protocol, next] at hnext
    split_ifs at hnext
    cases hnext
    refine hcut.of_quiet (.refl _) ⟨sound_receive call, fun user hu => ?_, covers_of_transaction ?_⟩
    · cases call <;> cases hu
    · cases call <;> rfl

omit [DecidableEq ι] in
theorem cut_start {c₀ : Config ι (Store ι) Phase} (hidle : ∀ i, c₀.request i = .idle)
    (href : Referenced c₀.shared.db) : Cut c₀ (History.start ι c₀.shared.db) := by
  refine ⟨href, ⟨fun s _ _ userId n _ hn => ?_, fun s _ _ n hn => ?_⟩, fun i => ?_⟩
  · simp only [History.start] at hn ⊢
    split_ifs at hn
    exact (Option.some.inj hn).symm
  · simp only [History.start] at hn ⊢
    split_ifs at hn
    exact (Option.some.inj hn).symm
  · rw [hidle i]
    exact tracked_of_none trivial rfl rfl

/-- If no login of a user is under way while the credentials of the user are changed, then no live
session was authenticated before the last change. -/
theorem cut_over_complete (state : AppState) {c₀ : Config ι (Store ι) Phase}
    {ls : List (Action ι Input Db)} {final : Config ι (Store ι) Phase × History ι}
    (hidle : ∀ i, c₀.request i = .idle) (href : Referenced c₀.shared.db)
    (hapart : (protocol state ι).system.Along (fun c _ _ => Apart c) c₀ ls)
    (hrun : ((protocol state ι).system.observe record).run
      (c₀, History.start ι c₀.shared.db) ls = some final) :
    CutOver final.2 final.1.shared.db :=
  (System.observe_run_invariant (I := Cut) (Q := fun _ _ _ => True) hrun (cut_start hidle href)
    hapart fun _ _ _ _ hcut hapart hstep => ⟨hcut.step hapart hstep, trivial⟩).1.cutOver

/-! ### A change of the password -/

/-- A change of the password of the account, from the call to the commit. -/
def passwordChange (i : Fin 2) : List (Action (Fin 2) Input Db) :=
  .request i (.call (.change (.changeUserPassword "u" "pw" "pw2"))) ::
    List.replicate 4 (.request i (.proceed {}))

/-- A login with the new password. -/
def newLogin (i : Fin 2) : List (Action (Fin 2) Input Db) :=
  .request i (.call (.authToken ⟨"ada", "pw2", none, none⟩)) ::
    List.replicate 11 (.request i (.proceed {}))

/-- No request has verified a password while another one changes credentials. -/
def apart (c : Config (Fin 2) (Store (Fin 2)) Phase) : Bool :=
  decide (∀ i j, (c.request i).transaction.isNone = true ∨ (c.request j).user.isNone = true)

theorem apart_of_eq_true {c : Config (Fin 2) (Store (Fin 2)) Phase} (h : apart c = true) :
    Apart c := by
  intro i j t user ht _ hu
  obtain hnone | hnone := of_decide_eq_true h i j
  · rw [ht] at hnone
    cases hnone
  · rw [hu] at hnone
    cases hnone

/-- A login, a change of the password, and another login. -/
def sequence : List (Action (Fin 2) Input Db) :=
  loginUntilPolicy 0 false ++ loginFromPolicy 0 "a" ++ passwordChange 1 ++ newLogin 0 ++
    loginFromPolicy 0 "b"

theorem cut_over_complete_sequence :
    ∃ final, ((protocol singleState (Fin 2)).system.observe record).run
        (oneAccount, History.start (Fin 2) oneAccount.shared.db) sequence = some final ∧
      CutOver final.2 final.1.shared.db ∧ final.2.changes "u" = 1 ∧
      final.1.shared.db.refreshSessions.rows.map (fun s => (s.id, s.revokeReason)) =
        [("b", none), ("a", some "password_changed")] := by
  have href : Referenced oneAccount.shared.db := fun s hs => absurd hs not_mem_empty
  have hbool : (protocol singleState (Fin 2)).system.Along (fun c _ _ => apart c = true)
      oneAccount sequence := by decide
  have hapart : (protocol singleState (Fin 2)).system.Along (fun c _ _ => Apart c)
      oneAccount sequence :=
    System.along_of_invariant _ (I := fun _ => True)
      (fun _ _ _ _ h _ => ⟨trivial, apart_of_eq_true h⟩) trivial hbool
  exact ⟨_, rfl, cut_over_complete singleState (fun _ => rfl) href hapart rfl, rfl, by decide⟩

/-- A login verifies the password, the password is changed, and then the login stores its session,
which stays live. -/
theorem session_outlives_password :
    Referenced oneAccount.shared.db ∧
    ∃ final, ((protocol singleState (Fin 2)).system.observe record).run
        (oneAccount, History.start (Fin 2) oneAccount.shared.db)
        (loginUntilPolicy 0 false ++ passwordChange 1 ++ loginFromPolicy 0 "a") = some final ∧
      final.1.shared.db.users.rows.map User.passwordHash = [some "$pw2"] ∧
      final.2.changes "u" = 1 ∧ final.2.refresh "a" = some 0 ∧
      (final.1.shared.db.refreshSessions.select fun s =>
        s.principalId == principalId .user "u" && live final.1.shared.db s).map
          RefreshSession.id = ["a"] ∧ ¬ CutOver final.2 final.1.shared.db := by
  refine ⟨fun s hs => absurd hs not_mem_empty, _, rfl, by decide, rfl, rfl, by decide, ?_⟩
  intro hcut
  have hstale := hcut.refresh _ (List.mem_cons_self) (by decide) "u" 0 (by decide) rfl
  cases hstale

end Keylo.Logins
