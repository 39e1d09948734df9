import Keylo.Refresh.Rotation

/-!
# Chains of refresh tokens

The tokens of a session form a chain: each of them replaces the one before, and all of them expire
with the session. The events of a run are the answers to the calls that present a refresh token.

## Main definitions

* `Chains` : at most the newest token of a session can be used.
* `record` : the answers of a run, newest first.

## Main results

* `chains_of_effect` : every step keeps the chains.
* `refresh_tokens_rotate_once` : a token is consumed at most once, and none of its session once the
  session has been given up.
-/

namespace Keylo.Refresh

open Relational Transition Table

/-! ### Chains -/

/-- The token has not been consumed or revoked. -/
def Unused (t : RefreshSessionToken) : Prop := t.consumedAt = none ∧ t.revokedAt = none

/-- Every token expires with its session, and an unused token is the current one. -/
structure Chains (db : Db) : Prop where
  session : ∀ t ∈ db.refreshSessionTokens, ∃ r ∈ db.refreshSessions,
    r.id = t.sessionId ∧ r.expiresAt = t.expiresAt ∧
      (Unused t → r.currentRefreshTokenId = t.tokenId)
  whole : ∀ r ∈ db.refreshSessions, Time.ofTimestamp r.expiresAt.timestamp = r.expiresAt

variable {ι : Type*} [DecidableEq ι] {crates : Crates} {free : Row → Prop} {db db' : Db}
  {t : RefreshSessionToken} {r : RefreshSession}

theorem ofTimestamp_timestamp (n : Int) :
    Time.ofTimestamp (Time.ofTimestamp n).timestamp = Time.ofTimestamp n := by
  unfold Time.timestamp Time.ofTimestamp
  rw [Int.mul_ediv_cancel _ (by decide)]

section Kept

variable (h : Chains db)

include h

/-- The token of a session is the session's own. -/
theorem Chains.of_session (ht : t ∈ db.refreshSessionTokens) (hr : r ∈ db.refreshSessions)
    (hid : t.sessionId = r.id) :
    r.expiresAt = t.expiresAt ∧ (Unused t → r.currentRefreshTokenId = t.tokenId) := by
  obtain ⟨r', hr', hid', hfacts⟩ := h.session t ht
  obtain rfl : r' = r := eq_of_key hr' hr (hid'.trans hid)
  exact hfacts

/-- A session has at most one unused token. -/
theorem Chains.eq_of_unused {t' : RefreshSessionToken} (ht : t ∈ db.refreshSessionTokens)
    (ht' : t' ∈ db.refreshSessionTokens) (hid : t.sessionId = t'.sessionId) (hunused : Unused t)
    (hunused' : Unused t') : t = t' := by
  obtain ⟨r, hr, hrid, -, hcurrent⟩ := h.session t ht
  have hcurrent' := (h.of_session ht' hr (hid.symm.trans hrid.symm)).2 hunused'
  exact eq_of_key ht ht' ((hcurrent hunused).symm.trans hcurrent')

theorem chains_of_created {params : CreateRefreshSessionParams}
    (hcreate : createRefreshSession crates db params = .ok ((), db')) : Chains db' := by
  obtain ⟨-, sessions, tokens, hsessions, htokens, rfl⟩ := createRefreshSession_eq_ok hcreate
  have hmem : ∀ r, r ∈ sessions ↔ _ := fun r => mem_of_insert_eq_some hsessions
  refine ⟨fun t ht => ?_, fun r hr => ?_⟩
  · obtain rfl | ht := (mem_of_insert_eq_some htokens).1 ht
    · exact ⟨_, (hmem _).2 (.inl rfl), rfl, rfl, fun _ => rfl⟩
    · obtain ⟨r, hr, hfacts⟩ := h.session t ht
      exact ⟨r, (hmem r).2 (.inr hr), hfacts⟩
  · obtain rfl | hr := (hmem r).1 hr
    · exact ofTimestamp_timestamp _
    · exact h.whole r hr

/-- The token that is consumed is the only unused one of its session, so that none is left beside
its replacement. -/
theorem chains_of_rotation {refreshToken : String} {session : RefreshSession} {new : Replacement}
    (hrotation : IsRotation crates refreshToken session new db db') : Chains db' := by
  obtain ⟨⟨now, result, hrotate⟩, hsession, -, used, hused, hhash, hsid, hunused⟩ := hrotation
  obtain ⟨-, tokens, htokens, rfl⟩ := rotate_eq_ok hrotate
  have hexpiry := h.whole session hsession
  refine ⟨fun t' ht' => ?_, fun r' hr' => ?_⟩
  · obtain rfl | ht' := (mem_of_insert_eq_some htokens).1 ht'
    · refine ⟨(rotateSession now new.refreshTokenId new.accessJti).apply session,
        mem_update.2 ⟨session, hsession, if_pos (beq_self_eq_true _)⟩, rfl, hexpiry.symm,
        fun _ => rfl⟩
    · obtain ⟨t, ht, rfl⟩ := mem_update.1 ht'
      obtain ⟨r, hr, hid, hexpires, hcurrent⟩ := h.session t ht
      refine ⟨_, mem_update.2 ⟨r, hr, rfl⟩, ?_, ?_, fun hunused' => ?_⟩
      · split_ifs <;> exact hid
      · split_ifs <;> exact hexpires
      · split_ifs at hunused' ⊢ with hr' ht'
        · exact absurd hunused'.1 nofun
        · -- another unused token of the session that is rotated
          refine absurd ?_ ht'
          rw [h.eq_of_unused ht hused (hid.symm.trans ((beq_iff_eq.1 hr').trans hsid.symm)) hunused'
            hunused]
          exact beq_iff_eq.2 hhash
        · exact absurd hunused'.1 nofun
        · exact hcurrent hunused'
  · obtain ⟨r, hr, rfl⟩ := mem_update.1 hr'
    split_ifs <;> exact h.whole r hr

theorem chains_of_revoked {now : Time} {reason : Option String} {p : RefreshSessionToken → Bool}
    {q : RefreshSession → Bool} : Chains (revokeRows db now reason p q) := by
  refine ⟨fun t' ht' => ?_, fun r' hr' => ?_⟩
  · obtain ⟨t, ht, rfl⟩ := mem_update.1 ht'
    obtain ⟨r, hr, hid, hexpires, hcurrent⟩ := h.session t ht
    refine ⟨_, mem_update.2 ⟨r, hr, rfl⟩, ?_, ?_, fun hunused => ?_⟩
    · split_ifs <;> exact hid
    · split_ifs <;> exact hexpires
    · have hunused' : Unused t := by
        split_ifs at hunused with hp
        · exact ⟨hunused.1, Option.or_eq_none_iff.1 hunused.2 |>.1⟩
        · exact hunused
      split_ifs <;> exact hcurrent hunused'
  · obtain ⟨r, hr, rfl⟩ := mem_update.1 hr'
    split_ifs <;> exact h.whole r hr

/-- Every step of a transaction keeps the chains. -/
theorem chains_of_effect {added : RefreshSessionToken → Prop}
    (heffect : Effect crates free added db db') : Chains db' := by
  cases heffect with
  | same => exact h
  | created hcreate => exact chains_of_created h hcreate
  | rotated hrotation => exact chains_of_rotation h hrotation
  | revoked => exact chains_of_revoked h

end Kept

/-! ### Answers -/

/-- An answer to a call that presents a refresh token. -/
inductive Event
  | consumed (refreshToken sessionId : String)
  /-- The token has been replayed, or the organization of the session is not active. -/
  | givenUp (sessionId : String)
deriving DecidableEq, Repr

/-- The token that the call of the transaction presents. -/
def Task.refreshToken : Task → Option String
  | .readingCandidate _ refreshToken _ _ | .checkingContext _ refreshToken _ _ _ _
  | .lockingToken _ refreshToken _ | .lockingSession _ refreshToken _
  | .rotating _ refreshToken _ _ _ => some refreshToken
  | _ => none

/-- The session that the transaction has found for its token. -/
def Task.session : Task → Option String
  | .checkingContext _ _ _ sessionId _ _ | .revokingInactive _ sessionId => some sessionId
  | .rotating _ _ _ _ session => some session.id
  | _ => none

/-- The answer that a transaction gives with the step from `task`. -/
def answer (task : Task) : Task → Option Event
  | .returned (.consumed (.consumed session)) =>
    task.refreshToken.map fun refreshToken => .consumed refreshToken session.sessionId
  | .returned (.consumed (.replayed sessionId)) => some (.givenUp sessionId)
  | .returned (.consumed .organizationContextInactive) => task.session.map .givenUp
  | _ => none

/-- The answers of a run, newest first. -/
def record (events : List Event) (c : Config ι (Store ι) Task) (l : Action ι Input Db)
    (c' : Config ι (Store ι) Task) : List Event :=
  match l with
  | .request i _ => (answer (c.request i) (c'.request i)).toList ++ events
  | .environment _ => events

def Event.consumedToken : Event → Option String
  | .consumed refreshToken _ => some refreshToken
  | .givenUp _ => none

/-- The database shows what has been answered. -/
def Event.Stored (crates : Crates) (db : Db) : Event → Prop
  | .consumed refreshToken _ => ∃ t ∈ db.refreshSessionTokens,
    t.tokenHash = tokenHash crates refreshToken ∧ t.consumedAt.isSome = true
  | .givenUp sessionId => ∃ r ∈ db.refreshSessions, r.id = sessionId ∧ r.revokedAt.isSome = true

/-- The token of a later answer has not been consumed, nor its session been given up. -/
def Event.MayFollow (later earlier : Event) : Prop :=
  ∀ refreshToken sessionId, later = .consumed refreshToken sessionId →
    earlier ≠ .givenUp sessionId ∧ earlier.consumedToken ≠ some refreshToken

variable {e e' : Event} {i : ι} {s s' : Store ι} {task task' : Task} {a : Input}

theorem Event.Stored.moves (h : e.Stored crates db) (hmoves : Moves free db db') :
    e.Stored crates db' := by
  cases e with
  | consumed =>
    obtain ⟨t, ht, hhash, hconsumed⟩ := h
    obtain ⟨t', ht', hfollows, -⟩ := hmoves.tokens t ht
    exact ⟨t', ht', hfollows.tokenHash.trans hhash, hfollows.consumedAt hconsumed⟩
  | givenUp =>
    obtain ⟨r, hr, hid, hrevoked⟩ := h
    obtain ⟨r', hr', hfollows, -⟩ := hmoves.sessions r hr
    exact ⟨r', hr', hfollows.id.trans hid, hfollows.revokedAt hrevoked⟩

/-- The answer of a step is stored, and follows what is stored before the step. -/
def Sound (crates : Crates) (db db' : Db) (e : Event) : Prop :=
  e.Stored crates db' ∧ ∀ earlier : Event, earlier.Stored crates db → e.MayFollow earlier

theorem sound_givenUp {now : Time} {sessionId : String} {reason : Option String}
    (hsession : ∃ r ∈ db.refreshSessions, r.id = sessionId) :
    Sound crates db (revokeSessionsAt db now (fun r => r.id == sessionId) reason)
      (.givenUp sessionId) := by
  obtain ⟨r, hr, rfl⟩ := hsession
  refine ⟨⟨_, mem_update.2 ⟨r, hr, if_pos (beq_self_eq_true _)⟩, rfl, isSome_or_some _ _⟩,
    fun _ _ _ _ => nofun⟩

theorem sound_consumed {refreshToken : String} {session : RefreshSession} {new : Replacement}
    (h : IsRotation crates refreshToken session new db db') :
    Sound crates db db' (.consumed refreshToken session.id) := by
  obtain ⟨⟨now, result, hrotate⟩, hsession, hlive, used, hused, hhash, -, hunused, -⟩ := h
  obtain ⟨-, tokens, htokens, rfl⟩ := rotate_eq_ok hrotate
  refine ⟨⟨(consumeSessionToken now).apply used, (mem_of_insert_eq_some htokens).2 (.inr
    (mem_update.2 ⟨used, hused, if_pos (beq_iff_eq.2 hhash)⟩)), hhash, rfl⟩, ?_⟩
  rintro earlier hstored _ _ ⟨⟩
  constructor
  · rintro rfl
    obtain ⟨r, hr, hid, hrevoked⟩ := hstored
    obtain rfl : r = session := eq_of_key hr hsession hid
    rw [hlive] at hrevoked
    cases hrevoked
  · cases earlier with
    | givenUp => nofun
    | consumed =>
      rintro ⟨⟩
      obtain ⟨t, ht, hhash', hconsumed⟩ := hstored
      obtain rfl : t = used := eq_of_key ht hused (hhash'.trans hhash.symm)
      rw [hunused] at hconsumed
      cases hconsumed

omit [DecidableEq ι] in
theorem sound_consumeLocked {now : Time} {refreshToken : String} {new : Replacement}
    {token : RefreshSessionToken} {session : RefreshSession} {result : ConsumeRefreshSessionResult}
    (h : Current crates i s (.rotating now refreshToken new token session))
    (hconsume : consumeLocked crates s.db now refreshToken token session new = .ok (result, db))
    (he : answer (.rotating now refreshToken new token session) (.returned (.consumed result)) =
      some e) : Sound crates s.db db e := by
  obtain ⟨-, -, htoken, hhash, hsession, hid⟩ := h
  cases result with
  | consumed =>
    obtain ⟨hrotate, hunused, hunrevoked, -, hlive, -⟩ := consumeLocked_eq_consumed hconsume
    obtain ⟨⟨⟩, -⟩ := rotate_eq_ok hrotate
    cases he
    exact sound_consumed
      ⟨⟨now, _, hrotate⟩, hsession, hlive, token, htoken, hhash, hid, hunused, hunrevoked⟩
  | organizationContextInactive =>
    unfold consumeLocked at hconsume
    split_ifs at hconsume
    · cases hconsume
    · cases hconsume
    · cases (rotate_eq_ok hconsume).1
  | replayed =>
    cases he
    unfold consumeLocked at hconsume
    split_ifs at hconsume
    · cases hconsume
    · cases hconsume
      exact sound_givenUp ⟨session, hsession, rfl⟩
    · cases (rotate_eq_ok hconsume).1
  | _ => cases he

/-- Only a transaction that has locked its rows, or that has found the organization inactive, gives
an answer that is recorded. -/
theorem sound_of_next (hcurrent : Current crates i s task)
    (h : next crates i a s task = some (s', task')) (he : answer task task' = some e) :
    Sound crates s.db s'.db e := by
  obtain ⟨-, rfl, now, c, rfl⟩ | hproceeds := proceeds_of_next h
  · cases c <;> cases he
  cases hproceeds with
  | revokedInactive =>
    cases he
    exact sound_givenUp hcurrent
  | consumed hconsume => exact sound_consumeLocked hcurrent hconsume he
  | _ => cases he

/-! ### Runs -/

/-- The transactions know the rows they have locked, the tokens form chains, and the database shows
what has been answered. -/
structure Invariant (crates : Crates) (c : Config ι (Store ι) Task × List Event) : Prop where
  current : ∀ i, Current crates i c.1.shared (c.1.request i)
  chains : Chains c.1.shared.db
  stored : ∀ e ∈ c.2, e.Stored crates c.1.shared.db
  ordered : c.2.Pairwise Event.MayFollow

/-- A step keeps the terms of every session and of every token. -/
def KeepsTerms (c : Config ι (Store ι) Task) (_ : Action ι Input Db)
    (c' : Config ι (Store ι) Task) : Prop :=
  Moves (fun _ => True) c.shared.db c'.shared.db

variable {c c' : Config ι (Store ι) Task} {l : Action ι Input Db} {events : List Event}

theorem Moves.mono {free free' : Row → Prop} (h : Moves free db db')
    (hfree : ∀ row, free row → free' row) : Moves free' db db' where
  tokens t ht := by
    obtain ⟨t', ht', hfollows, hsame⟩ := h.tokens t ht
    exact ⟨t', ht', hfollows, hsame.imp_right (hfree _)⟩
  sessions r hr := by
    obtain ⟨r', hr', hfollows, hsame⟩ := h.sessions r hr
    exact ⟨r', hr', hfollows, hsame.imp_right (hfree _)⟩

theorem Current.other {i j : ι} (h : Current crates j s task) (hj : j ≠ i)
    (hlocks : Locks.Keeps (some i) s.locks s'.locks)
    (hmoves : Moves (fun row => s.locks.available i row = true) s.db s'.db) :
    Current crates j s' task :=
  h.step hlocks (by simpa using hj)
    (hmoves.mono fun row hrow k hk => congrArg some (Locks.eq_of_available hrow hk))

theorem Invariant.request {i : ι} {a : Input} (h : Invariant crates (c, events))
    (hnext : next crates i a c.shared (c.request i) = some (s', task')) :
    Invariant crates (⟨s', Function.update c.request i task'⟩,
      (answer (c.request i) task').toList ++ events) := by
  obtain ⟨heffect, hlocks, hcurrent⟩ := stepFacts_of_next (h.current i) hnext
  have hmoves := heffect.moves
  have hstored : ∀ e ∈ events, e.Stored crates s'.db := fun e he => (h.stored e he).moves hmoves
  refine ⟨(Function.forall_update_iff _ fun j => Current crates j s').2
      ⟨hcurrent, fun j hj => (h.current j).other hj hlocks hmoves⟩,
    chains_of_effect h.chains heffect, ?_, ?_⟩
  · intro e he
    obtain he | he := List.mem_append.1 he
    · exact (sound_of_next (h.current i) hnext (Option.mem_toList.1 he)).1
    · exact hstored e he
  · cases he : answer (c.request i) task' with
    | none => exact h.ordered
    | some =>
      exact List.pairwise_cons.2 ⟨fun earlier hearlier =>
        (sound_of_next (h.current i) hnext he).2 earlier (h.stored earlier hearlier), h.ordered⟩

omit [DecidableEq ι] in
theorem Chains.of_eq (h : Chains db) (htokens : db'.refreshSessionTokens = db.refreshSessionTokens)
    (hsessions : db'.refreshSessions = db.refreshSessions) : Chains db' := by
  obtain ⟨hsession, hwhole⟩ := h
  rw [← htokens, ← hsessions] at hsession
  rw [← hsessions] at hwhole
  exact ⟨hsession, hwhole⟩

theorem Invariant.step (h : Invariant crates (c, events))
    (hstep : (protocol ι crates).system.step c l = some c') :
    Invariant crates (c', record events c l c') ∧ KeepsTerms c l c' := by
  obtain ⟨other, s', rfl, henv, rfl⟩ | ⟨i, a, s', task', rfl, hnext, rfl⟩ :=
    Protocol.step_cases hstep
  · simp only [protocol, surroundings] at henv
    split_ifs at henv
    cases henv
    have hmoves : ∀ free, Moves free c.shared.db
        { other with
          refreshSessions := c.shared.db.refreshSessions
          refreshSessionTokens := c.shared.db.refreshSessionTokens } := fun _ => .of_eq rfl rfl
    exact ⟨⟨fun j => (h.current j).step .refl (Option.some_ne_none j) (hmoves _),
      h.chains.of_eq rfl rfl, fun e he => (h.stored e he).moves (hmoves fun _ => True),
      h.ordered⟩, hmoves _⟩
  have hmoves := (stepFacts_of_next (h.current i) hnext).effect.moves
  refine ⟨?_, hmoves.mono fun _ _ => trivial⟩
  simpa [record] using h.request hnext

/-- In every run from empty tables, every token is consumed at most once; every session has at most
one unused token, which is its current one; all tokens of a session expire with it, and no step
changes when; and once a replay or an inactive organization has been answered for a session, none
of its tokens is consumed. -/
theorem refresh_tokens_rotate_once (crates : Crates) (c₀ c : Config ι (Store ι) Task)
    (ls : List (Action ι Input Db)) (events : List Event)
    (htokens : c₀.shared.db.refreshSessionTokens = ∅)
    (hsessions : c₀.shared.db.refreshSessions = ∅) (hidle : ∀ i, c₀.request i = .idle)
    (hrun : ((protocol ι crates).system.observe record).run (c₀, []) ls = some (c, events)) :
    (events.filterMap Event.consumedToken).Nodup ∧
      (∀ t ∈ c.shared.db.refreshSessionTokens, ∀ t' ∈ c.shared.db.refreshSessionTokens,
        t.sessionId = t'.sessionId → Unused t → Unused t' → t = t') ∧
      (∀ t ∈ c.shared.db.refreshSessionTokens, ∃ r ∈ c.shared.db.refreshSessions,
        r.id = t.sessionId ∧ r.expiresAt = t.expiresAt ∧
          (Unused t → r.currentRefreshTokenId = t.tokenId)) ∧
      (protocol ι crates).system.Along KeepsTerms c₀ ls ∧
      events.Pairwise fun later earlier => ∀ refreshToken sessionId,
        earlier = .givenUp sessionId → later ≠ .consumed refreshToken sessionId := by
  have hc₀ : Invariant crates (c₀, []) :=
    ⟨fun i => by rw [hidle i]; trivial,
      ⟨by rw [htokens]; exact fun _ h => absurd h not_mem_empty,
        by rw [hsessions]; exact fun _ h => absurd h not_mem_empty⟩, nofun, .nil⟩
  obtain ⟨hc, halong⟩ := System.observe_run_invariant
    (I := fun c events => Invariant crates (c, events)) hrun hc₀ (System.along_true _)
    fun _ _ _ _ hc _ hstep => hc.step hstep
  refine ⟨?_, fun t ht t' ht' => hc.chains.eq_of_unused ht ht', hc.chains.session, halong, ?_⟩
  · refine List.Pairwise.filterMap Event.consumedToken (fun later earlier h token htoken
      token' htoken' => ?_) hc.ordered
    cases later with
    | givenUp => cases htoken
    | consumed =>
      cases htoken
      rintro rfl
      exact (h _ _ rfl).2 htoken'
  · refine hc.ordered.imp fun h refreshToken sessionId hearlier hlater => ?_
    exact (h _ _ hlater).1 hearlier

/-- A user who is a member of an organization. -/
def sampleDb (status : OrganizationStatus) : Db where
  users := .single { id := "u", username := "u", email := "e" }
  principals := .single ⟨.user, "u", "u", true⟩
  organizations := .single ⟨"o", .customer, status⟩
  memberships := .single { organizationId := "o", principalId := principalId .user "u" }

/-- A token is consumed, and replayed by two requests of which one presents its replacement; another
token is presented after its organization has been disabled. -/
def sampleRun : List (Action (Fin 3) Input Db) :=
  let session (sessionId refreshTokenId refreshToken : String) (organizationId : Option String) :=
    Input.call (.createRefreshSession
      { sessionId, principalId := principalId .user "u", clientId := "c", refreshTokenId
        refreshToken, accessJti := "j", organizationId, expiresAt := 9 })
  [.request 0 (session "s" "1" "a" none), .request 0 .proceed,
    .request 0 (.call (.consumeAndRotateRefreshSession "a" none ⟨"2", "b", "k"⟩)),
    .request 1 (.call (.consumeAndRotateRefreshSession "a" none ⟨"3", "d", "l"⟩)),
    .request 0 .proceed, .request 1 .proceed, .request 0 .proceed, .request 0 .proceed,
    .request 0 .proceed, .request 1 .proceed, .request 1 .proceed, .request 1 .proceed,
    .request 2 (.call (.consumeAndRotateRefreshSession "b" none ⟨"4", "e", "m"⟩)),
    .request 2 .proceed, .request 2 .proceed, .request 2 .proceed, .request 2 .proceed,
    .request 0 (session "r" "5" "f" (some "o")), .request 0 .proceed,
    .environment (sampleDb .disabled),
    .request 0 (.call (.consumeAndRotateRefreshSession "f" (some "o") ⟨"6", "g", "n"⟩)),
    .request 0 .proceed, .request 0 .proceed, .request 0 .proceed]

/-- No request has been made. -/
def sampleConfig : Config (Fin 3) (Store (Fin 3)) Task :=
  ⟨⟨sampleDb .active, fun _ => none⟩, fun _ => .idle⟩

theorem refresh_tokens_rotate_once_replay :
    ∃ c, ((protocol (Fin 3) Crates.readable).system.observe record).run (sampleConfig, [])
        sampleRun = some (c, [.givenUp "r", .givenUp "s", .givenUp "s", .consumed "a" "s"]) ∧
      (protocol (Fin 3) Crates.readable).system.Along KeepsTerms sampleConfig sampleRun :=
  ⟨_, rfl, (refresh_tokens_rotate_once Crates.readable sampleConfig _ sampleRun _ rfl rfl
    (fun _ => rfl) rfl).2.2.2.1⟩

end Keylo.Refresh
