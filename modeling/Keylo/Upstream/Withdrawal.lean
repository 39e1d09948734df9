import Keylo.Upstream.Effects

/-!
# Withdrawn trust in an upstream source

An update that disables a source or changes its configuration or its policy revokes the sessions
that were opened through it, and a user that is unlinked from a source loses theirs. A login looks
at the source a second time, looks its mapping up, and stores its session, in statements of their
own; none of them locks the source or the mapping.

The steps of a run are numbered. A session keeps the numbers of the two looks of its login, and a
change the number of the step in which it took effect.

## Main definitions

* `record` : the numbers of the steps.
* `Final` : after a change there is no live session of a login that has seen the trust or the
  mapping from before.
* `apart` : no login is between its look and its session while a change is between its revocation
  and its end.

## Main results

* `withdrawal_final` : changes are final in runs whose logins and changes are apart.
* `disabled_source_keeps_session` : a login stores its session after the source was disabled.
-/

namespace Keylo.Withdrawal

open Relational Transition Callback Upstream Import Function Table

/-! ### Looks and changes -/

/-- When a login has last seen the trust in its source, and when it has looked its mapping up. -/
structure Looks where
  checked : ℕ := 0
  looked : ℕ := 0

def Looks.advance (looks : Looks) (now : ℕ) : Phase → Looks
  | .rechecking .. => { looks with checked := now }
  | .resolving _ _ _ false _ => { looks with looked := now }
  | _ => looks

/-- The next step makes the change of the request visible. -/
def changes : Phase → Bool
  | .committing _ | .deleting .. => true
  | _ => false

/-- The next step stores the session of the login. -/
def stores : Phase → Bool
  | .storing .. => true
  | _ => false

/-- The number of the last step, and those of the looks and changes so far. -/
structure History (ι : Type*) where
  now : ℕ := 0
  login : ι → Looks := fun _ => {}
  change : ι → ℕ := fun _ => 0
  session : String → Looks := fun _ => {}

variable {ι : Type*} [DecidableEq ι]

/-- The numbers of the steps; a new session gets the looks of its login. -/
def record (h : History ι) (c : Config ι (Store ι) Phase) :
    Action ι Input Db → Config ι (Store ι) Phase → History ι
  | .request i _, _ =>
    { now := h.now + 1
      login := update h.login i ((h.login i).advance (h.now + 1) (c.request i))
      change := if changes (c.request i) then update h.change i (h.now + 1) else h.change
      session := fun id =>
        if stores (c.request i) && !c.shared.db.refreshSessions.any (·.id == id) then h.login i
        else h.session id }
  | .environment _, _ => h

/-- After a change there is no live session that was opened through the source by a login that has
looked before. -/
def Final (c : Config ι (Store ι) Phase) (h : History ι) : Prop :=
  ∀ j, match c.request j with
    | .withdrawn source => ∀ s ∈ c.shared.db.refreshSessions,
        Logins.live c.shared.db s = true → s.clientId = oidcMappingProvider source →
          h.change j < (h.session s.id).checked
    | .unlinked source userId => ∀ s ∈ c.shared.db.refreshSessions,
        Logins.live c.shared.db s = true → s.clientId = oidcMappingProvider source →
          s.principalId = principalId .user userId → h.change j < (h.session s.id).looked
    | _ => True

/-! ### Logins and changes that are apart -/

/-- The login has seen the trust in the source, and has not stored its session. -/
def trusts (sourceId : String) : Phase → Bool
  | .resolving source .. | .preparing source .. | .storing source .. => source.id == sourceId
  | _ => false

/-- The login may rely on a mapping of the user that it has looked up. -/
def relies (sourceId userId : String) : Phase → Bool
  | .resolving source _ _ looked _ => looked && source.id == sourceId
  | .preparing source user _ | .storing source user _ =>
    source.id == sourceId && user.id == userId
  | _ => false

/-- The login is not on the way while the change is between its revocation and its end. -/
def apart (change login : Phase) : Bool :=
  match change with
  | .discarding u | .committing u => u.reason.isNone || !trusts u.source.id login
  | .mirroring source userId .. | .ending source userId .. | .auditing source userId =>
    !relies source.id userId login
  | _ => true

/-- No login and no change are in each other's way. -/
def Apart (c : Config ι (Store ι) Phase) : Prop :=
  ∀ i j, apart (c.request j) (c.request i) = true

instance {n : ℕ} (c : Config (Fin n) (Store (Fin n)) Phase) : Decidable (Apart c) :=
  inferInstanceAs (Decidable (∀ i j, apart (c.request j) (c.request i) = true))

/-- A source that is disabled, or that is no upstream source, has no unrevoked sessions. -/
def settled (db : Db) : Bool :=
  db.identitySources.rows.all fun source =>
    (source.active && source.sourceType == .oidcUpstream) || isClear db source

/-- The upstream source is active. -/
def IsActive (db : Db) (sourceId : String) : Prop :=
  ∃ row ∈ db.identitySources, row.id = sourceId ∧ row.active = true ∧
    row.sourceType = .oidcUpstream

def initial (db : Db) : Config ι (Store ι) Phase where
  shared := ⟨db, fun _ => none⟩
  request _ := .idle

/-! ### Effects on logins and sessions -/

section Effects

variable {server : Server} {i : ι} {s s' : Store ι} {phase phase' : Phase}

theorem not_trusts_of_isPlain (h : phase.isPlain = true) (x : String) :
    trusts x phase = false := by
  cases phase <;> first | rfl | cases h

theorem not_relies_of_isPlain (h : phase.isPlain = true) (x userId : String) :
    relies x userId phase = false := by
  cases phase <;> first | rfl | cases h

/-- A login that has seen the trust in a source has done so before, or finds it active now. -/
theorem trusts_of_effect (heffect : Effect server i s phase s' phase') {x : String}
    (h : trusts x phase' = true) :
    trusts x phase = true ∨
      (∃ source claims, phase = .rechecking source claims) ∧ IsActive s.db x := by
  cases heffect with
  | plain hplain => simp [not_trusts_of_isPlain hplain] at h
  | trusted n hphase hmem hid hactive htype =>
    exact .inr ⟨⟨_, _, hphase⟩, _, hmem, beq_iff_eq.1 h, hactive, htype⟩
  | resolving hphase | resolved hphase | preparing hphase | prepared hphase =>
    subst hphase
    exact .inl h
  | locked => split_ifs at h <;> cases h
  | committed =>
    unfold Update.answer at h
    split_ifs at h <;> cases h
  | _ => cases h

/-- A login that may rely on a mapping has done so before, or looks the mapping up now. -/
theorem relies_of_effect (heffect : Effect server i s phase s' phase') {x userId : String}
    (h : relies x userId phase' = true) :
    relies x userId phase = true ∨
      ∃ source claims profile rest, phase = .resolving source claims profile false rest := by
  cases heffect with
  | plain hplain => simp [not_relies_of_isPlain hplain] at h
  | @resolving source claims profile looked rest _ _ hphase =>
    subst hphase
    cases looked with
    | false => exact .inr ⟨_, _, _, _, rfl⟩
    | true => exact .inl h
  | @resolved source claims profile looked user rest _ hphase =>
    subst hphase
    cases looked with
    | false => exact .inr ⟨_, _, _, _, rfl⟩
    | true => exact .inl (Bool.and_eq_true_iff.1 h).1
  | preparing hphase | prepared hphase =>
    subst hphase
    exact .inl h
  | locked => split_ifs at h <;> cases h
  | committed =>
    unfold Update.answer at h
    split_ifs at h <;> cases h
  | _ => cases h

end Effects

/-! ### Steps -/

/-- What a step of `mover`, or of another request, does to logins and sessions. -/
structure Later (mover : Option ι) (c : Config ι (Store ι) Phase) (h : History ι)
    (c' : Config ι (Store ι) Phase) (h' : History ι) : Prop where
  /-- An unrevoked session has been one before, or a login has stored it. -/
  sessions : ∀ t ∈ c'.shared.db.refreshSessions, t.revokedAt = none →
    isUpstream t.clientId = true →
      (∃ r ∈ c.shared.db.refreshSessions, r.revokedAt = none ∧ r.id = t.id ∧
        r.clientId = t.clientId ∧ r.principalId = t.principalId ∧
        h'.session t.id = h.session t.id) ∨
      ∃ (i : ι) (source : IdentitySource) (user : User), trusts source.id (c.request i) = true ∧
        relies source.id user.id (c.request i) = true ∧
        t.clientId = oidcMappingProvider source ∧ t.principalId = principalId .user user.id ∧
        h'.session t.id = h.login i
  /-- A login has seen the trust in its source before, or sees it now. -/
  checked : ∀ i x, trusts x (c'.request i) = true →
    trusts x (c.request i) = true ∧ (h'.login i).checked = (h.login i).checked ∨
      h.now < (h'.login i).checked
  looked : ∀ i x userId, relies x userId (c'.request i) = true →
    relies x userId (c.request i) = true ∧ (h'.login i).looked = (h.login i).looked ∨
      h.now < (h'.login i).looked
  users : ∀ id, HasUser c.shared.db id → HasUser c'.shared.db id ∨
    ∀ t ∈ c'.shared.db.refreshSessions, t.principalId ≠ principalId .user id
  /-- A source is changed by a request that has locked it. -/
  sources : ∀ row ∈ c.shared.db.identitySources, row ∈ c'.shared.db.identitySources ∨
    ∃ i u, some i = mover ∧ c.request i = .committing u ∧ u.source.id = row.id
  locks : Locks.Keeps mover c.shared.locks c'.shared.locks
  change : ∀ j, (some j = mover → changes (c.request j) = false) → h'.change j = h.change j

section Steps

variable {server : Server} {c c' : Config ι (Store ι) Phase} {h h' : History ι} {i : ι}
  {s' : Store ι} {phase' : Phase} {phase : Phase}

theorem advance_checked {x : String} (looks : Looks) (now : ℕ) (htrusts : trusts x phase = true) :
    (looks.advance now phase).checked = looks.checked := by
  cases phase with
  | resolving _ _ _ looked => cases looked <;> rfl
  | preparing | storing => rfl
  | _ => cases htrusts

theorem advance_looked {x userId : String} (looks : Looks) (now : ℕ)
    (hrelies : relies x userId phase = true) :
    (looks.advance now phase).looked = looks.looked := by
  cases phase with
  | resolving _ _ _ looked =>
    cases looked with
    | false => cases hrelies
    | true => rfl
  | preparing | storing => rfl
  | _ => cases hrelies

theorem trusts_storing {source : IdentitySource} {user : User} {issued : Logins.Issued}
    (hphase : phase = .storing source user issued) :
    trusts source.id phase = true ∧ relies source.id user.id phase = true := by
  subst hphase
  simp [trusts, relies]

theorem later_of_effect {a : Input} (hsound : (c.request i).Sound server)
    (heffect : Effect server i c.shared (c.request i) s' phase') :
    Later (some i) c h ⟨s', update c.request i phase'⟩
      (record h c (.request i a) ⟨s', update c.request i phase'⟩) where
  sessions t ht hrevoked hupstream := by
    obtain hold | ⟨source, user, issued, hphase, hclient, hprincipal, hfresh⟩ :=
      heffect.sessions hsound ht hrevoked
    · have hany : c.shared.db.refreshSessions.any (·.id == t.id) = true :=
        any_eq_true.2 ⟨t, hold, beq_self_eq_true _⟩
      exact .inl ⟨t, hold, hrevoked, rfl, rfl, rfl,
        if_neg (by rw [hany, Bool.not_true, Bool.and_false]; exact Bool.false_ne_true)⟩
    · have hany : c.shared.db.refreshSessions.any (·.id == t.id) = false :=
        any_eq_false.2 fun r hr => by simpa using hfresh r hr
      obtain ⟨htrusts, hrelies⟩ := trusts_storing hphase
      exact .inr ⟨i, source, user, htrusts, hrelies, hclient, hprincipal,
        if_pos (by rw [hany, hphase]; rfl)⟩
  checked j x htrusts := by
    by_cases hji : j = i
    · subst hji
      simp only [update_self, record] at htrusts ⊢
      obtain hbefore | ⟨⟨source, claims, hphase⟩, -⟩ := trusts_of_effect heffect htrusts
      · exact .inl ⟨hbefore, advance_checked _ _ hbefore⟩
      · exact .inr (by simp [hphase, Looks.advance])
    · simp only [ne_eq, hji, not_false_eq_true, update_of_ne, record] at htrusts ⊢
      exact .inl ⟨htrusts, trivial⟩
  looked j x userId hrelies := by
    by_cases hji : j = i
    · subst hji
      simp only [update_self, record] at hrelies ⊢
      obtain hbefore | ⟨source, claims, profile, rest, hphase⟩ := relies_of_effect heffect hrelies
      · exact .inl ⟨hbefore, advance_looked _ _ hbefore⟩
      · exact .inr (by simp [hphase, Looks.advance])
    · simp only [ne_eq, hji, not_false_eq_true, update_of_ne, record] at hrelies ⊢
      exact .inl ⟨hrelies, trivial⟩
  users id := heffect.users
  sources row hrow := by
    obtain heq | ⟨u, db', n, hphase, hcommit, heq⟩ := heffect.sources
    · exact .inl (heq ▸ hrow)
    by_cases hid : row.id = u.source.id
    · exact .inr ⟨i, u, rfl, hphase, hid.symm⟩
    · exact .inl (heq ▸ ((commit_eq_ok hcommit).1 row).2 ⟨row, hrow, by simp [hid]⟩)
  locks := heffect.locks
  change j hj := by
    by_cases hji : j = i
    · subst hji
      simp [record, hj rfl]
    simp only [record]
    split_ifs
    · simp [hji]
    · rfl

omit [DecidableEq ι] in
theorem later_of_continues {other : Db} (hcontinues : continues c.shared.db other = true) :
    Later none c h { c with shared := { c.shared with db := other } } h := by
  simp only [continues, Bool.and_eq_true, List.all_eq_true, decide_eq_true_eq, Bool.or_eq_true,
    any_eq_true, beq_iff_eq, Option.isNone_iff_eq_none, Option.isSome_iff_ne_none,
    bne_iff_ne, Bool.not_eq_true'] at hcontinues
  obtain ⟨⟨⟨⟨hsources, -⟩, hsessions⟩, husers⟩, -⟩ := hcontinues
  refine ⟨fun t ht hrevoked hupstream => ?_, fun _ _ htrusts => .inl ⟨htrusts, rfl⟩,
    fun _ _ _ hrelies => .inl ⟨hrelies, rfl⟩, ?_, fun row hrow => .inl (hsources row hrow), .refl,
    fun _ _ => rfl⟩
  · obtain (hne | hclient) | ⟨r, hr, ⟨⟨hid, hprincipal⟩, hclient⟩, hrevoked'⟩ := hsessions t ht
    · exact absurd hrevoked hne
    · simp [hupstream] at hclient
    · exact .inl ⟨r, hr, hrevoked', hid, hclient, hprincipal, rfl⟩
  · rintro id ⟨u, hu, rfl⟩
    obtain ⟨u', hu', hid⟩ | hnone := husers u hu
    · exact .inl ⟨u', hu', hid⟩
    · exact .inr hnone

end Steps

/-! ### The invariant -/

/-- Every unrevoked session that was opened through the source satisfies `P`. -/
def Unrevoked (db : Db) (source : IdentitySource) (P : RefreshSession → Prop) : Prop :=
  ∀ t ∈ db.refreshSessions, t.revokedAt = none → t.clientId = oidcMappingProvider source → P t

/-- The transaction of an update has locked its source, which is the one that it has read. -/
structure Locked (c : Config ι (Store ι) Phase) (j : ι) (u : Update) : Prop where
  lock : c.shared.locks u.source.id = some j
  previous : u.previous ∈ c.shared.db.identitySources
  id : u.previous.id = u.source.id
  sourceType : u.previous.sourceType = u.source.sourceType

/-- The transaction has revoked all sessions of its source. -/
def Covered (c : Config ι (Store ι) Phase) (u : Update) : Prop :=
  u.reason.isSome = true → Unrevoked c.shared.db u.source fun t => t.id ∈ u.sessions

/-- Logins and sessions have seen the trust in the source after the change of `j`. -/
structure Withdrawn (c : Config ι (Store ι) Phase) (h : History ι) (j : ι)
    (source : IdentitySource) : Prop where
  logins : ∀ i, trusts source.id (c.request i) = true → h.change j < (h.login i).checked
  sessions : Unrevoked c.shared.db source fun t => h.change j < (h.session t.id).checked

variable (c : Config ι (Store ι) Phase) (h : History ι) (j : ι)

/-- The logins have looked a mapping of the user up after the change of `j`. -/
def Unlinked (source : IdentitySource) (userId : String) : Prop :=
  ∀ i, relies source.id userId (c.request i) = true → h.change j < (h.login i).looked

/-- So have the logins of the sessions. -/
def Cleared (source : IdentitySource) (userId : String) : Prop :=
  Unrevoked c.shared.db source fun t => t.principalId = principalId .user userId →
    h.change j < (h.session t.id).looked

/-- What a change has achieved. -/
def Holds : Phase → Prop
  | .revoking u => Locked c j u
  | .discarding u => Locked c j u ∧ Covered c u
  | .committing u => Locked c j u ∧ Covered c u
  | .withdrawn source => Withdrawn c h j source
  | .mirroring source userId _ rest => Unlinked c h j source userId ∧
      (Cleared c h j source userId ∨
        (rest = (Handler.ensureUserPrincipal userId).run ∧ HasUser c.shared.db userId) ∨
        rest.Results fun r => r ≠ .ok none)
  | .ending source userId _ _ => Unlinked c h j source userId
  | .auditing source userId => Unlinked c h j source userId ∧ Cleared c h j source userId
  | .unlinked source userId => Unlinked c h j source userId ∧ Cleared c h j source userId
  | _ => True

/-- What holds along a run whose logins and changes are apart. -/
structure Invariant (server : Server) (c : Config ι (Store ι) Phase) (h : History ι) : Prop where
  sound : ∀ i, (c.request i).Sound server
  apart : Apart c
  /-- A login that has seen the trust in its source finds the source active. -/
  trusted : ∀ i x, trusts x (c.request i) = true → IsActive c.shared.db x
  settled : ∀ row ∈ c.shared.db.identitySources,
    ¬(row.active = true ∧ row.sourceType = .oidcUpstream) →
      Unrevoked c.shared.db row fun _ => False
  past : ∀ j, h.change j ≤ h.now
  holds : ∀ j, Holds c h j (c.request j)

section Rely

variable {server : Server} {c c' : Config ι (Store ι) Phase} {h h' : History ι} {mover : Option ι}
  {source : IdentitySource} {userId : String} {j : ι}

omit [DecidableEq ι]

theorem invariant_initial {db : Db} (hsettled : settled db = true) :
    Invariant server (initial db : Config ι (Store ι) Phase) {} where
  sound _ := trivial
  apart _ _ := rfl
  trusted _ _ htrusts := by cases htrusts
  settled row hrow hinactive t ht hrevoked hclient := by
    have hclear := List.all_eq_true.1 hsettled row hrow
    simp only [Bool.or_eq_true, Bool.and_eq_true, beq_iff_eq, hinactive, false_or] at hclear
    have := List.all_eq_true.1 hclear t ht
    simp [hrevoked, hclient] at this
  past _ := le_rfl
  holds _ := trivial

theorem Invariant.final (hinvariant : Invariant server c h) : Final c h := by
  intro j
  have hholds := hinvariant.holds j
  have hunrevoked {t : RefreshSession} (hlive : Logins.live c.shared.db t = true) :
      t.revokedAt = none :=
    Option.isNone_iff_eq_none.1 (Bool.and_eq_true_iff.1 hlive).1
  split
  · rename_i source hphase
    rw [hphase] at hholds
    exact fun t ht hlive hclient => hholds.sessions t ht (hunrevoked hlive) hclient
  · rename_i source userId hphase
    rw [hphase] at hholds
    exact fun t ht hlive hclient => hholds.2 t ht (hunrevoked hlive) hclient
  · trivial

variable (hlater : Later mover c h c' h')

include hlater

theorem Later.unrevoked {P Q : RefreshSession → Prop}
    (hold : Unrevoked c.shared.db source P)
    (hkeep : ∀ r t, P r → r.id = t.id → r.principalId = t.principalId →
      h'.session t.id = h.session t.id → Q t)
    (hnew : ∀ t i user, trusts source.id (c.request i) = true →
      relies source.id (User.id user) (c.request i) = true →
      t.principalId = principalId .user user.id → h'.session t.id = h.login i → Q t) :
    Unrevoked c'.shared.db source Q := by
  intro t ht hrevoked hclient
  have hupstream : isUpstream t.clientId = true := hclient ▸ isUpstream_oidcMappingProvider source
  obtain ⟨r, hr, hrevoked', hid, hclient', hprincipal, hlooks⟩ |
    ⟨i, source', user, htrusts, hrelies, hclient', hprincipal, hlooks⟩ :=
      hlater.sessions t ht hrevoked hupstream
  · exact hkeep r t (hold r hr hrevoked' (hclient'.trans hclient)) hid hprincipal hlooks
  · have hid : source'.id = source.id := oidcMappingProvider_inj (hclient'.symm.trans hclient)
    rw [hid] at htrusts hrelies
    exact hnew t i user htrusts hrelies hprincipal hlooks

/-- The sessions of a user that is gone are gone as well. -/
theorem Later.hasUser (huser : HasUser c.shared.db userId) :
    HasUser c'.shared.db userId ∨ Cleared c' h' j source userId := by
  obtain huser | hnone := hlater.users userId huser
  · exact .inl huser
  · exact .inr fun t ht _ _ hprincipal => absurd hprincipal (hnone t ht)

theorem Later.locked {u : Update} (hj : some j ≠ mover)
    (hholds : ∀ i, Holds c h i (c.request i)) (hold : Locked c j u) : Locked c' j u where
  lock := hlater.locks _ _ hold.lock hj
  previous := by
    refine (hlater.sources u.previous hold.previous).resolve_right ?_
    rintro ⟨i, u', rfl, hphase, hid⟩
    have hi := hholds i
    rw [hphase] at hi
    have hlock := hi.1.lock
    rw [hid, hold.id, hold.lock] at hlock
    exact hj hlock
  id := hold.id
  sourceType := hold.sourceType

/-- While an update has revoked the sessions of its source, no login opens another one. -/
theorem Later.covered {u : Update}
    (hapart : ∀ i, u.reason.isNone = true ∨ trusts u.source.id (c.request i) = false)
    (hold : Covered c u) : Covered c' u := by
  intro hreason
  refine hlater.unrevoked (hold hreason) (fun r t hr hid _ _ => hid ▸ hr)
    fun t i user htrusts _ _ _ => ?_
  obtain hnone | hfalse := hapart i
  · simp [Option.isNone_iff_eq_none.1 hnone] at hreason
  · simp [hfalse] at htrusts

section Unmoved

variable (hj : some j = mover → changes (c.request j) = false)

include hj

theorem Later.cleared (hlogins : Unlinked c h j source userId)
    (hold : Cleared c h j source userId) : Cleared c' h' j source userId := by
  rw [Cleared, hlater.change j hj]
  refine hlater.unrevoked hold (fun r t hr hid hprincipal hlooks huser => ?_)
    fun t i user _ hrelies hprincipal hlooks huser => ?_
  · rw [hlooks, ← hid]
    exact hr (hprincipal.trans huser)
  · have hid : user.id = userId := (principalId_inj.1 (hprincipal.symm.trans huser)).2
    rw [hlooks]
    exact hlogins i (hid ▸ hrelies)

variable (hpast : ∀ j, h.change j ≤ h.now)

include hpast

theorem Later.withdrawn (hold : Withdrawn c h j source) :
    Withdrawn c' h' j source where
  logins i htrusts := by
    rw [hlater.change j hj]
    obtain ⟨hbefore, heq⟩ | hnow := hlater.checked i source.id htrusts
    · exact heq ▸ hold.logins i hbefore
    · exact (hpast j).trans_lt hnow
  sessions := by
    rw [hlater.change j hj]
    refine hlater.unrevoked hold.sessions (fun r t hr hid _ hlooks => ?_)
      fun t i user htrusts _ _ hlooks => ?_
    · rw [hlooks, ← hid]
      exact hr
    · rw [hlooks]
      exact hold.logins i htrusts

theorem Later.unlinked (hold : Unlinked c h j source userId) :
    Unlinked c' h' j source userId := by
  intro i hrelies
  rw [hlater.change j hj]
  obtain ⟨hbefore, heq⟩ | hnow := hlater.looked i source.id userId hrelies
  · exact heq ▸ hold i hbefore
  · exact (hpast j).trans_lt hnow

end Unmoved

variable (hinvariant : Invariant server c h)

include hinvariant

/-- A step of another request keeps what a change has achieved. -/
theorem Later.holds (hj : some j ≠ mover) : Holds c' h' j (c.request j) := by
  have hj' : some j = mover → changes (c.request j) = false := fun heq => absurd heq hj
  have hapart (i : ι) := hinvariant.apart i j
  have hholds := hinvariant.holds j
  generalize hphase : c.request j = phase at hholds hapart
  cases phase with
  | revoking => exact hlater.locked hj hinvariant.holds hholds
  | discarding u | committing u =>
    refine ⟨hlater.locked hj hinvariant.holds hholds.1, hlater.covered (fun i => ?_) hholds.2⟩
    simpa [apart] using hapart i
  | withdrawn => exact hlater.withdrawn hj' hinvariant.past hholds
  | mirroring =>
    obtain ⟨hlogins, hcleared | ⟨hrest, huser⟩ | hresults⟩ := hholds
    · exact ⟨hlater.unlinked hj' hinvariant.past hlogins,
        .inl (hlater.cleared hj' hlogins hcleared)⟩
    · refine ⟨hlater.unlinked hj' hinvariant.past hlogins, ?_⟩
      obtain huser | hcleared := hlater.hasUser huser
      · exact .inr (.inl ⟨hrest, huser⟩)
      · exact .inl hcleared
    · exact ⟨hlater.unlinked hj' hinvariant.past hlogins, .inr (.inr hresults)⟩
  | ending => exact hlater.unlinked hj' hinvariant.past hholds
  | auditing source userId | unlinked source userId =>
    exact ⟨hlater.unlinked hj' hinvariant.past hholds.1, hlater.cleared hj' hholds.1 hholds.2⟩
  | _ => trivial

/-- No session is opened through a source that is not active. -/
theorem Later.settled {row : IdentitySource}
    (hrow : row ∈ c.shared.db.identitySources)
    (hinactive : ¬(row.active = true ∧ row.sourceType = .oidcUpstream)) :
    Unrevoked c'.shared.db row fun _ => False := by
  refine hlater.unrevoked (hinvariant.settled row hrow hinactive) (fun _ _ hfalse _ _ _ => hfalse)
    fun t j user htrusts _ _ _ => ?_
  obtain ⟨row', hrow', hid, hactive, htype⟩ := hinvariant.trusted j _ htrusts
  have hkey : IdentitySource.id row' = IdentitySource.id row := hid
  obtain rfl := eq_of_key hrow' hrow hkey
  exact hinactive ⟨hactive, htype⟩

end Rely

/-! ### Changes -/

section Own

variable {server : Server} {c c' : Config ι (Store ι) Phase} {h h' : History ι} {i : ι}
  {s' : Store ι} {phase' : Phase} {u : Update} {db' : Db} {n : ℕ}

omit [DecidableEq ι]

theorem Invariant.environment {other : Db} (hinvariant : Invariant server c h)
    (hcontinues : continues c.shared.db other = true) :
    Invariant server { c with shared := { c.shared with db := other } } h := by
  have hlater := later_of_continues (h := h) hcontinues
  simp only [continues, Bool.and_eq_true, List.all_eq_true, decide_eq_true_eq,
    Bool.or_eq_true] at hcontinues
  obtain ⟨⟨⟨⟨hold, hnew⟩, -⟩, -⟩, -⟩ := hcontinues
  refine ⟨hinvariant.sound, hinvariant.apart, fun j x htrusts => ?_, fun row hrow hinactive => ?_,
    hinvariant.past, fun j => hlater.holds hinvariant nofun⟩
  · obtain ⟨row, hrow, hrest⟩ := hinvariant.trusted j x htrusts
    exact ⟨row, hold row hrow, hrest⟩
  · obtain hrow | hclear := hnew row hrow
    · exact hlater.settled hinvariant hrow hinactive
    · intro t ht hrevoked hclient
      have := List.all_eq_true.1 hclear t ht
      simp [hrevoked, hclient] at this

/-- An update of an active upstream source that disables it or changes its trust has a reason to
revoke sessions. -/
theorem reason_isSome (hactive : u.previous.active = true)
    (htype : u.previous.sourceType = .oidcUpstream)
    (hchange : u.withdraws = true ∨ u.source.active = false) : u.reason.isSome = true := by
  unfold Update.reason withdrawalReason
  cases hsource : u.source.active with
  | false => simp [hactive, htype]
  | true =>
    have hreconfigured : isReconfigured u.previous u.source = true := by
      simpa [Update.withdraws, hsource] using hchange
    simp [hactive, htype, hreconfigured]

/-- The source that is read again is the one that is locked. -/
theorem eq_previous {row : IdentitySource} (hlocked : Locked c i u)
    (hrow : row ∈ c.shared.db.identitySources) (hid : row.id = u.source.id) :
    row = u.previous := by
  have hkey : IdentitySource.id row = IdentitySource.id u.previous := hid.trans hlocked.id.symm
  exact eq_of_key hrow hlocked.previous hkey

/-- The rest of a request that has looked for the principal of a user returns one, unless there is
no such user. -/
theorem next_mirror {o : Oracle} {userId : String} {db db' : Db}
    {rest' : Statements (Except String (Option Principal))}
    (hnext : (Handler.ensureUserPrincipal userId).run.next o db = some (db', rest')) :
    (rest'.Results fun r => r ≠ .ok none) ∨ ¬HasUser db userId := by
  rw [Handler.ensureUserPrincipal, Handler.ensurePrincipal, next_fetch_bind] at hnext
  obtain ⟨-, rfl⟩ := Prod.mk.inj (Option.some.inj hnext)
  split
  · exact .inl (Program.results_done.2 (by rintro ⟨⟩))
  cases howner : readOwner (db.tick o.elapsed) .user userId with
  | none =>
    right
    rintro ⟨u, hu, rfl⟩
    have hlookup : (db.tick o.elapsed).users.lookup User.id u.id = some u :=
      lookup_eq_some_iff.2 ⟨hu, rfl⟩
    simp [readOwner, hlookup] at howner
  | some =>
    left
    refine Program.Results.mono (P := fun r => ∀ found, r = .ok found → found ≠ none)
      (Program.Results.bindExcept_of_forall fun _ => Program.results_return (by rintro ⟨⟩))
      fun r hr hnone => hr none hnone rfl

theorem run_mirror_ne_done (userId : String) (r : Except String (Option Principal)) :
    (Handler.ensureUserPrincipal userId).run ≠ .done r := by
  intro hdone
  cases hdone

theorem holds_of_isPlain (hplain : phase'.isPlain = true) : Holds c' h' i phase' := by
  cases phase' <;> trivial

theorem locked_of_apply {params : UpdateIdentitySourceParams}
    (hlock : c'.shared.locks u.source.id = some i)
    (hprevious : u.previous ∈ c'.shared.db.identitySources)
    (hsource : u.source = params.apply u.previous) : Locked c' i u :=
  ⟨hlock, hprevious, by rw [hsource]; rfl, by rw [hsource]; rfl⟩

/-- A revocation of the sessions of a principal and a client leaves none. -/
theorem cleared_of_revocation {source : IdentitySource} {userId reason : String}
    {principal : Principal} {db : Db} (howner : principal.owner = (.user, userId))
    (hdb : c'.shared.db = revokePrincipalClientRefreshSessions db principal.id
      (oidcMappingProvider source) (some reason)) : Cleared c' h' i source userId := by
  intro t ht hrevoked hclient huser
  rw [hdb] at ht
  have hkept := (Logins.eq_of_not_revoked ht hrevoked).2
  have hprincipal : t.principalId = principal.id := huser.trans (id_of_owner howner).symm
  simp [SessionScope.selects, hprincipal, hclient, hrevoked] at hkept

variable (hinvariant : Invariant server c h) (hphase : c.request i = .committing u)

include hinvariant hphase

/-- No login has seen the trust in a source whose update is about to withdraw it. -/
theorem not_trusts_of_withdraws (hchange : u.withdraws = true ∨ u.source.active = false) (j : ι) :
    trusts u.source.id (c.request j) = false := by
  have hholds := hinvariant.holds i
  have hapart := hinvariant.apart j i
  rw [hphase] at hholds hapart
  by_contra htrusts
  rw [Bool.not_eq_false] at htrusts
  obtain ⟨row, hrow, hid, hactive, htype⟩ := hinvariant.trusted j _ htrusts
  obtain rfl := eq_previous hholds.1 hrow hid
  have hreason := reason_isSome hactive htype hchange
  simp [apart, htrusts, Option.isNone_iff_eq_none] at hapart
  simp [hapart] at hreason

/-- A source whose trust is withdrawn has no unrevoked sessions after the commit. -/
theorem clear_of_commit
    (hchange : u.withdraws = true ∨
      ¬(u.source.active = true ∧ u.source.sourceType = .oidcUpstream))
    (hcommit : u.commit (c.shared.db.tick n) = .ok db') :
    Unrevoked db' u.source fun _ => False := by
  intro t ht hrevoked hclient
  have hholds := hinvariant.holds i
  rw [hphase] at hholds
  obtain ⟨hlocked, hcovered⟩ := hholds
  rw [(commit_eq_ok hcommit).2.1] at ht
  obtain ⟨ht, hkept⟩ := Logins.eq_of_not_revoked ht hrevoked
  by_cases hprevious : u.previous.active = true ∧ u.previous.sourceType = .oidcUpstream
  · have hchange' : u.withdraws = true ∨ u.source.active = false := by
      refine hchange.imp_right fun hinactive => ?_
      rw [← hlocked.sourceType, hprevious.2] at hinactive
      simpa using hinactive
    have hmem := hcovered (reason_isSome hprevious.1 hprevious.2 hchange') t ht hrevoked hclient
    simp [hmem] at hkept
  · have hsame : oidcMappingProvider u.source = oidcMappingProvider u.previous := by
      rw [oidcMappingProvider, oidcMappingProvider, hlocked.id]
    exact hinvariant.settled u.previous hlocked.previous hprevious t ht hrevoked
      (hclient.trans hsame)

end Own

/-! ### Runs -/

section Runs

variable {server : Server} {c c' : Config ι (Store ι) Phase} {h : History ι} {i : ι} {s' : Store ι}
  {phase' : Phase} {mover : Option ι} {h' : History ι} {row : IdentitySource}

variable {a : Input}

theorem past_record (hpast : ∀ j, h.change j ≤ h.now) (j : ι) :
    (record h c (.request i a) c').change j ≤ (record h c (.request i a) c').now := by
  simp only [record]
  split_ifs
  · by_cases hji : j = i
    · subst hji
      rw [update_self]
    · rw [update_of_ne hji]
      exact (hpast j).trans (Nat.le_succ _)
  · exact (hpast j).trans (Nat.le_succ _)

section Effects

variable (hinvariant : Invariant server c h)

include hinvariant

/-- A commit that withdraws the trust in a source leaves no login and no session that relies on the
trust from before. -/
theorem withdrawn_of_commit {u : Update} {n : ℕ} (hphase : c.request i = .committing u)
    (hchange : u.withdraws = true)
    (hcommit : u.commit (c.shared.db.tick n) = .ok s'.db) :
    Withdrawn ⟨s', update c.request i (.withdrawn u.source)⟩
      (record h c (.request i a) ⟨s', update c.request i (.withdrawn u.source)⟩) i
      u.source where
  logins j htrusts := by
    dsimp only at htrusts
    by_cases hji : j = i
    · subst hji
      rw [update_self] at htrusts
      cases htrusts
    · rw [update_of_ne hji] at htrusts
      rw [not_trusts_of_withdraws hinvariant hphase (.inl hchange) j] at htrusts
      cases htrusts
  sessions t ht hrevoked hclient :=
    (clear_of_commit hinvariant hphase (.inl hchange) hcommit t ht hrevoked hclient).elim

variable (heffect : Effect server i c.shared (c.request i) s' phase')

include heffect

/-- The request that makes a step achieves what its phase promises. -/
theorem holds_of_effect
    (hapart : Apart (⟨s', update c.request i phase'⟩ : Config ι (Store ι) Phase)) :
    Holds ⟨s', update c.request i phase'⟩
      (record h c (.request i a) ⟨s', update c.request i phase'⟩) i phase' := by
  have hlater := later_of_effect (a := a) (h := h) (hinvariant.sound i) heffect
  have hholds := hinvariant.holds i
  have hsound := hinvariant.sound i
  have hown {phase : Phase} (hphase : c.request i = phase) (hchanges : changes phase = false)
      (_ : some i = some i) : changes (c.request i) = false := hphase ▸ hchanges
  cases heffect with
  | plain hplain => exact holds_of_isPlain hplain
  | @locked params u n hphase hfree hprevious hsource =>
    have hlocked {c' : Config ι (Store ι) Phase}
        (hshared : c'.shared = ⟨c.shared.db.tick n, c.shared.locks.acquire i [u.source.id]⟩) :
        Locked c' i u :=
      locked_of_apply (by rw [hshared]; exact Locks.acquire_of_mem (List.mem_singleton.2 rfl))
        (by rw [hshared]; exact hprevious) hsource
    split_ifs with hreason
    · exact hlocked rfl
    · exact ⟨hlocked rfl, fun hsome => absurd hsome hreason⟩
  | @revoked u n hphase =>
    rw [hphase] at hholds
    refine ⟨⟨hholds.lock, hholds.previous, hholds.id, hholds.sourceType⟩, fun _ t ht hrevoked
      hclient => ?_⟩
    refine List.mem_map.2 ⟨t, mem_select.2 ⟨ht, ?_⟩, rfl⟩
    simp [hclient, hrevoked, Update.revoke]
  | @discarded u n hphase =>
    rw [hphase] at hholds
    exact ⟨⟨hholds.1.lock, hholds.1.previous, hholds.1.id, hholds.1.sourceType⟩, hholds.2⟩
  | @committed u db' n hphase hcommit =>
    unfold Update.answer
    split_ifs with hchange
    · exact withdrawn_of_commit hinvariant hphase hchange hcommit
    · trivial
  | @unlinked source userId reason db' hphase huser hwrites =>
    refine ⟨fun j hrelies => ?_, .inr (.inl ⟨rfl, huser⟩)⟩
    have hbetween := hapart j i
    simp only [update_self, apart, hrelies] at hbetween
    cases hbetween
  | @mirroring source userId reason o db' rest rest' hphase hnext hwrites =>
    rw [hphase] at hholds
    refine ⟨hlater.unlinked (hown hphase rfl) hinvariant.past hholds.1, ?_⟩
    obtain hcleared | ⟨rfl, huser⟩ | hresults := hholds.2
    · exact .inl (hlater.cleared (hown hphase rfl) hholds.1 hcleared)
    · exact .inr (.inr ((next_mirror hnext).resolve_right (not_not.2 huser)))
    · exact .inr (.inr (hresults.next hnext))
  | @missing source userId reason hphase =>
    rw [hphase] at hholds
    refine ⟨hlater.unlinked (hown hphase rfl) hinvariant.past hholds.1, ?_⟩
    obtain hcleared | ⟨hdone, -⟩ | hresults := hholds.2
    · exact hlater.cleared (hown hphase rfl) hholds.1 hcleared
    · exact absurd hdone.symm (run_mirror_ne_done userId _)
    · exact (Program.results_done.1 hresults rfl).elim
  | @mirrored source userId reason principal rest hphase =>
    rw [hphase] at hholds
    exact hlater.unlinked (hown hphase rfl) hinvariant.past hholds.1
  | @ended source userId reason principal n hphase =>
    rw [hphase] at hholds hsound
    exact ⟨hlater.unlinked (hown hphase rfl) hinvariant.past hholds,
      cleared_of_revocation hsound rfl⟩
  | @audited source userId n hphase =>
    rw [hphase] at hholds
    exact ⟨hlater.unlinked (hown hphase rfl) hinvariant.past hholds.1,
      hlater.cleared (hown hphase rfl) hholds.1 hholds.2⟩
  | _ => trivial

/-- A row that a login has found active stays active, as long as the login is on its way. -/
theorem active_of_effect {x : String} {j : ι}
    (htrusts : trusts x (c.request j) = true ∨
      ∃ source claims, c.request i = .rechecking source claims)
    (hactive : IsActive c.shared.db x) : IsActive s'.db x := by
  obtain ⟨row, hrow, hid, hactive, htype⟩ := hactive
  obtain heq | ⟨u, db', n, hphase, hcommit, heq⟩ := heffect.sources
  · exact ⟨row, heq ▸ hrow, hid, hactive, htype⟩
  have hmem := (commit_eq_ok hcommit).1
  rw [heq]
  by_cases hsource : row.id = u.source.id
  · have hholds := hinvariant.holds i
    rw [hphase] at hholds htrusts
    obtain rfl := eq_previous hholds.1 hrow hsource
    have htrusts' : trusts u.source.id (c.request j) = true := by
      obtain htrusts | ⟨_, _, hcontra⟩ := htrusts
      · rwa [← hid, hsource] at htrusts
      · cases hcontra
    -- An update that disables the source would have to wait for the login.
    have hstill : u.source.active = true := by
      by_contra hinactive
      rw [Bool.not_eq_true] at hinactive
      rw [not_trusts_of_withdraws hinvariant hphase (.inr hinactive) j] at htrusts'
      cases htrusts'
    exact ⟨u.source, (hmem _).2 ⟨u.previous, hrow, by simp [hsource]⟩, hsource.symm.trans hid,
      hstill, hholds.1.sourceType.symm.trans htype⟩
  · exact ⟨row, (hmem _).2 ⟨row, hrow, by simp [hsource]⟩, hid, hactive, htype⟩

theorem trusted_of_effect
    (j : ι) (x : String)
    (htrusts : trusts x (update c.request i phase' j) = true) : IsActive s'.db x := by
  have hbefore : trusts x (c.request j) = true ∨
      (∃ source claims, c.request i = .rechecking source claims) ∧ IsActive c.shared.db x := by
    by_cases hji : j = i
    · subst hji
      rw [update_self] at htrusts
      exact trusts_of_effect heffect htrusts
    · rw [update_of_ne hji] at htrusts
      exact .inl htrusts
  obtain htrusts | ⟨hphase, hactive⟩ := hbefore
  · exact active_of_effect hinvariant heffect (.inl htrusts) (hinvariant.trusted j x htrusts)
  · exact active_of_effect (j := j) hinvariant heffect (.inr hphase) hactive

theorem settled_of_effect (hrow : row ∈ s'.db.identitySources)
    (hinactive : ¬(row.active = true ∧ row.sourceType = .oidcUpstream)) :
    Unrevoked s'.db row fun _ => False := by
  have hlater := later_of_effect (a := .proceed {}) (h := h) (hinvariant.sound i) heffect
  obtain heq | ⟨u, db', n, hphase, hcommit, heq⟩ := heffect.sources
  · exact hlater.settled hinvariant (heq ▸ hrow) hinactive
  rw [heq] at hrow
  obtain ⟨old, hold, hrow⟩ := ((commit_eq_ok hcommit).1 row).1 hrow
  split_ifs at hrow
  · subst hrow
    rw [heq]
    exact clear_of_commit hinvariant hphase (.inr hinactive) hcommit
  · subst hrow
    exact hlater.settled hinvariant hold hinactive

end Effects

theorem Invariant.request (hinvariant : Invariant server c h)
    (hnext : next server i a c.shared (c.request i) = some (s', phase'))
    (hapart : Apart (⟨s', update c.request i phase'⟩ : Config ι (Store ι) Phase)) :
    Invariant server ⟨s', update c.request i phase'⟩
      (record h c (.request i a) ⟨s', update c.request i phase'⟩) := by
  obtain ⟨heffect, hsound⟩ := good_of_next (hinvariant.sound i) hnext
  have hlater := later_of_effect (a := a) (h := h) (hinvariant.sound i) heffect
  exact ⟨(forall_update_iff _ fun _ => Phase.Sound server).2
      ⟨hsound, fun j _ => hinvariant.sound j⟩, hapart, trusted_of_effect hinvariant heffect,
    fun row => settled_of_effect hinvariant heffect, past_record hinvariant.past,
    (forall_update_iff _ _).2 ⟨holds_of_effect hinvariant heffect hapart, fun j hj =>
        hlater.holds hinvariant fun heq => hj (Option.some.inj heq)⟩⟩

theorem Invariant.step {l : Action ι Input Db} (hinvariant : Invariant server c h)
    (hstep : (protocol server ι).system.step c l = some c') (hapart : Apart c') :
    Invariant server c' (record h c l c') := by
  obtain ⟨other, s', rfl, henv, rfl⟩ | ⟨i, a, s', phase', rfl, hnext, rfl⟩ :=
    Protocol.step_cases hstep
  · simp only [protocol] at henv
    split_ifs at henv with hcontinues
    cases henv
    exact hinvariant.environment hcontinues
  exact hinvariant.request hnext hapart

/-- In every run in which logins and changes are apart, changes are final in every state that is
reached. -/
theorem withdrawal_final (server : Server) {db : Db} (hdb : settled db = true)
    {ls : List (Action ι Input Db)} {c : Config ι (Store ι) Phase} {h : History ι}
    (hapart : (protocol server ι).system.Along (fun _ _ c' => Apart c') (initial db) ls)
    (hrun : ((protocol server ι).system.observe record).run (initial db, {}) ls = some (c, h)) :
    Final c h :=
  (System.observe_run_invariant (I := Invariant server) (Q := fun _ _ _ => True) hrun
    (invariant_initial hdb) hapart fun _ _ _ _ hinvariant hapart hstep =>
      ⟨hinvariant.step hstep hapart, trivial⟩).1.final

end Runs

/-! ### A login that is on its way -/

def upstreamServer : Server where
  state := ⟨.readable, ⟨fun claims => .ok claims.jti, fun _ => .error .invalidToken⟩, 3600, 86400,
    "multi_session"⟩
  parseConfig _ := .ok ⟨"issuer", "keylo"⟩

/-- An account with a password that is linked to an identity of a source. -/
def linkedDb : Db where
  users := .single { id := "u", username := "ada", email := "ada@example.org"
                     passwordHash := some "$pw" }
  identitySources := .single { id := "s", name := "s" }
  externalUserMappings :=
    .single ⟨"oidc_upstream:s", externalSubjectHash .readable "7", "u"⟩
  upstreamAuthorizations :=
    .single { id := "a", sourceId := "s", stateHash := opaqueHash upstreamServer "state"
              nonceHash := opaqueHash upstreamServer "nonce", codeVerifierEncrypted := ""
              expiresAt := .ofTimestamp 600 }

def idToken : OidcUpstreamIdTokenClaims where
  iss := "issuer"
  sub := "7"
  aud := .string "keylo"
  exp := 600
  nonce := some "nonce"
  email := some "ada@example.org"

/-- A login that is about to store its session. -/
def loginUntilSession : List (Action (Fin 2) Input Db) :=
  .request 0 (.call (.completeOidcUpstreamLogin { state := some "state", code := some "code" }
      { claims := .ok idToken })) ::
    List.replicate 17 (.request 0 (.proceed {}))

/-- The whole transaction of an update that disables the source. -/
def disableSource : List (Action (Fin 2) Input Db) :=
  .request 1 (.call (.updateIdentitySource { id := "s", active := some false })) ::
    List.replicate 4 (.request 1 (.proceed {}))

/-- The whole request of an unlink. -/
def unlinkAccount : List (Action (Fin 2) Input Db) :=
  .request 1 (.call (.unlink "s" "u" "upstream_identity_unlinked")) ::
    List.replicate 7 (.request 1 (.proceed {}))

theorem withdrawal_final_disabled :
    settled linkedDb = true ∧
    ∃ c h, ((protocol upstreamServer (Fin 2)).system.observe record).run (initial linkedDb, {})
        (loginUntilSession ++ .request 0 (.proceed {}) :: disableSource) = some (c, h) ∧
      c.shared.db.refreshSessions.rows.map (·.revokeReason) = [some "identity_source_disabled"] ∧
      Final c h := by
  have hapart : (protocol upstreamServer (Fin 2)).system.Along (fun _ _ c' => Apart c')
      (initial linkedDb) (loginUntilSession ++ .request 0 (.proceed {}) :: disableSource) := by
    decide
  exact ⟨by decide, _, _, rfl, by decide,
    withdrawal_final upstreamServer (by decide) hapart rfl⟩

/-- The session that the login stores at its end. -/
def lateSession : RefreshSession where
  id := ""
  principalId := principalId .user "u"
  clientId := "oidc_upstream:s"
  currentRefreshTokenId := ""
  currentAccessJti := ""
  expiresAt := .ofTimestamp 86400

/-- A login stores its session after the source was disabled, or after the account was unlinked. -/
theorem disabled_source_keeps_session :
    settled linkedDb = true ∧
    (∃ c h, ((protocol upstreamServer (Fin 2)).system.observe record).run (initial linkedDb, {})
        (loginUntilSession ++ disableSource ++ [.request 0 (.proceed {})]) = some (c, h) ∧
      c.shared.db.identitySources.rows.map (·.active) = [false] ∧
      lateSession ∈ c.shared.db.refreshSessions ∧ Logins.live c.shared.db lateSession = true ∧
      ¬ Final c h) ∧
    ∃ c h, ((protocol upstreamServer (Fin 2)).system.observe record).run (initial linkedDb, {})
        (loginUntilSession ++ unlinkAccount ++ [.request 0 (.proceed {})]) = some (c, h) ∧
      c.shared.db.externalUserMappings.rows = [] ∧
      lateSession ∈ c.shared.db.refreshSessions ∧ Logins.live c.shared.db lateSession = true ∧
      ¬ Final c h := by
  refine ⟨by decide, ⟨_, _, rfl, by decide, by decide, by decide, fun hfinal => ?_⟩,
    _, _, rfl, by decide, by decide, by decide, fun hfinal => ?_⟩
  · exact absurd (hfinal 1 lateSession (by decide) (by decide) (by decide)) (by decide)
  · exact absurd (hfinal 1 lateSession (by decide) (by decide) (by decide) (by decide)) (by decide)

end Keylo.Withdrawal
