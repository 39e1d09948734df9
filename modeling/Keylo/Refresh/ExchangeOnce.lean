import Keylo.Refresh.Steps

/-!
# One exchange for every refresh token

A refresh token that has been returned has all the rows it will ever have, in `refresh_tokens`, in
`refresh_session_tokens` or in both; with rows in both, it expires at the same time in both. The
older table is asked only if the token has no session or has expired, so that a token with a session
is never exchanged there.

## Main definitions

* `Consistent` : what holds of all rows and handlers together.

## Main results

* `refresh_token_exchanged_once` : no token is exchanged twice, and none that has been revoked or
  logged out is exchanged without a session.
-/

namespace Keylo.Exchange

open Relational Transition Anonymous Function Table
open Refresh (Chains Current)

variable {ι : Type*} {crates : Crates} {s s' : Store ι} {t t' : Task} {text : String}
  {state : AppState}

theorem spent_of_won (hknows : Knows crates s t) (hwon : t.won = some text) :
    text ∈ s.issued ∧ Spent crates s.sessions.db text := by
  have hfacts := hknows.facts
  obtain ⟨phase, transaction⟩ := t
  cases phase with
  | consuming =>
    obtain ⟨rfl, session, rfl⟩ := won_consuming hwon
    exact ⟨hknows.presented _ rfl, hfacts⟩
  | completing | issuing | storingMigrated =>
    cases hwon
    exact ⟨hknows.presented _ rfl, hfacts.1⟩
  | _ => cases hwon

/-- What holds of all rows and handlers together. -/
structure Consistent (crates : Crates) (c : Config ι (Store ι) Task × History) : Prop where
  shared : Shared crates c.1.shared
  knows : ∀ i, Knows crates c.1.shared (c.1.request i)
  current : ∀ i, Current crates i c.1.shared.sessions (c.1.request i).transaction
  /-- No two handlers have signed the same token. -/
  apart : ∀ i j text, text ∈ (c.1.request i).phase.pending →
    text ∈ (c.1.request j).phase.pending → i = j
  /-- No two handlers have consumed the same token. -/
  won : ∀ i j text, (c.1.request i).won = some text → (c.1.request j).won = some text → i = j
  exchanged : ∀ text ∈ c.2.exchanged, text ∈ c.1.shared.issued ∧
    Spent crates c.1.shared.sessions.db text ∧ ∀ i, (c.1.request i).won ≠ some text
  nodup : c.2.exchanged.Nodup
  loggedOut : ∀ text ∈ c.2.loggedOut,
    Barred crates c.1.shared.sessions.db text c.1.shared.issued

variable {c c' : Config ι (Store ι) Task} {history : History} {i : ι} {phase : Phase}

theorem won_ne_of_exchanged (h : t.phase.exchanged = some text) : t.won ≠ some text := by
  obtain ⟨phase, transaction⟩ := t
  cases phase with
  | answered => nofun
  | _ => cases h

/-- Tokens and sessions are not changed by anybody else. -/
theorem surroundings_eq_some {other : Db} (h : surroundings other s = some s') :
    s'.sessions.locks = s.sessions.locks ∧ s'.signed = s.signed ∧ s'.issued = s.issued ∧
      KeepsTokens s.sessions.db s'.sessions.db := by
  obtain ⟨sessions, henv, rfl⟩ := Option.map_eq_some_iff.1 h
  unfold Refresh.surroundings at henv
  split_ifs at henv with hclock
  cases henv
  exact ⟨rfl, rfl, rfl, rfl, rfl, rfl, hclock⟩

theorem Consistent.environment {other : Db} (hinj : Injective (tokenHash crates))
    (h : Consistent crates (c, history)) (henv : surroundings other c.shared = some s') :
    Consistent crates ({ c with shared := s' }, history) := by
  obtain ⟨hlocks, hsigned, hissued, hkeeps⟩ := surroundings_eq_some henv
  have hrows : RowsChange crates (fun _ => False) c.shared.sessions.db s'.sessions.db :=
    .of_eq hkeeps.tokens hkeeps.legacy hkeeps.clock
  refine ⟨⟨h.shared.chains.of_eq hkeeps.tokens hkeeps.sessions, ?_, ?_, ?_, ?_⟩, fun j => ?_,
    fun j => ?_, h.apart, h.won, fun text htext => ?_, h.nodup, fun text htext => ?_⟩
  · intro row hrow u hu
    exact h.shared.matched row (hkeeps.tokens ▸ hrow) u (hkeeps.legacy ▸ hu)
  · rw [hkeeps.tokens, hsigned]
    exact h.shared.tokens
  · rw [hkeeps.legacy, hsigned]
    exact h.shared.legacy
  · rw [hissued, hsigned]
    exact h.shared.issued
  · refine (h.knows j).change hinj hrows (hsigned ▸ List.Subset.refl _)
      (hissued ▸ List.Subset.refl _) (fun _ _ => not_false)
      fun text htext => ⟨not_false, ?_⟩
    rw [hissued]
    exact ((h.knows j).pending text htext).notIssued
  · exact (h.current j).step (hlocks ▸ .refl) (Option.some_ne_none j)
      (.of_eq hkeeps.tokens hkeeps.sessions)
  · obtain ⟨hmem, hspent, hlost⟩ := h.exchanged text htext
    exact ⟨hissued ▸ hmem, hspent.keeps hkeeps, hlost⟩
  · exact (h.loggedOut text htext).change hinj hrows (hissued ▸ List.Subset.refl _)
      fun _ => not_false

/-- A state without sessions. There may be tokens from before, in `refresh_tokens`; all of them
have been signed, and so have those that have been returned. -/
structure Initial (crates : Crates) (c : Config ι (Store ι) Task) : Prop where
  idle : ∀ i, c.request i = ⟨.idle, .idle⟩
  sessions : c.shared.sessions.db.refreshSessions = ∅
  tokens : c.shared.sessions.db.refreshSessionTokens = ∅
  legacy : ∀ u ∈ c.shared.sessions.db.refreshTokens, ∃ text ∈ c.shared.signed,
    u.tokenHash = tokenHash crates text
  issued : c.shared.issued ⊆ c.shared.signed

theorem consistent_initial (h : Initial crates c) : Consistent crates (c, {}) := by
  have hnone : ∀ row, row ∉ c.shared.sessions.db.refreshSessionTokens := by
    rw [h.tokens]
    exact fun _ => not_mem_empty
  refine ⟨⟨⟨fun row hrow => absurd hrow (hnone row), ?_⟩, fun row hrow => absurd hrow (hnone row),
    fun row hrow => absurd hrow (hnone row), h.legacy, h.issued⟩, fun i => ?_, fun i => ?_,
    fun i j text hi => ?_, fun i j text hi => ?_, nofun, .nil, nofun⟩
  · rw [h.sessions]
    exact fun _ hrow => absurd hrow not_mem_empty
  · rw [h.idle i]
    exact ⟨nofun, nofun, rfl⟩
  · rw [h.idle i]
    trivial
  · rw [h.idle i] at hi
    cases hi
  · rw [h.idle i] at hi
    cases hi

theorem migrates_of_isReady (h : phase.isReady = true) : phase.migrates = none := by
  cases phase with
  | issuing | storingMigrated => cases h
  | _ => rfl

variable [DecidableEq ι]

theorem Shared.step (hshared : Shared crates s) (hknows : Knows crates s t)
    (h : StepFacts crates i s s' t t') : Shared crates s' where
  chains := h.chains
  matched := h.matched
  tokens row' hrow' := by
    obtain ⟨row, hrow, hfollows⟩ | ⟨text, htext, hhash⟩ := h.rows.added row' hrow'
    · obtain ⟨text, htext, hhash⟩ := hshared.tokens row hrow
      exact ⟨text, h.moved.signed htext, hfollows.tokenHash.trans hhash⟩
    · exact ⟨text, h.moved.signed (hknows.pending text htext).signed, hhash⟩
  legacy u' hu' := by
    obtain ⟨u, hu, hfollows⟩ | ⟨text, htext, hhash⟩ := h.rows.stored u' hu'
    · obtain ⟨text, htext, hhash⟩ := hshared.legacy u hu
      exact ⟨text, h.moved.signed htext, hfollows.tokenHash.trans hhash⟩
    · exact ⟨text, h.moved.signed (hknows.pending text htext).signed, hhash⟩
  issued := h.moved.issuedSigned

theorem Knows.step {u : Task} (hinj : Injective (tokenHash crates))
    (hknows : Knows crates s t) (hu : Knows crates s u)
    (hapart : ∀ text, text ∈ u.phase.pending → text ∉ t.phase.pending)
    (h : StepFacts crates i s s' t t') : Knows crates s' u := by
  refine hu.change hinj h.rows h.moved.signed h.moved.issued
    (fun text htext hpending => (hknows.pending text hpending).notIssued htext)
    fun text htext => ⟨hapart text htext, fun hissued => ?_⟩
  obtain hissued | hpending | hsigned := h.moved.returned text hissued
  · exact (hu.pending text htext).notIssued hissued
  · exact hapart text htext hpending
  · exact hsigned (hu.pending text htext).signed

theorem exchanged_record (phase : Phase) (history : History) :
    (phase.record history).exchanged = phase.exchanged.toList ++ history.exchanged := by
  cases phase with
  | answered outcome => cases outcome <;> rfl
  | _ => rfl

theorem loggedOut_record (h : text ∈ (phase.record history).loggedOut) :
    phase = .answered (.loggedOut text) ∨ text ∈ history.loggedOut := by
  cases phase with
  | answered outcome =>
    cases outcome with
    | loggedOut =>
      obtain rfl | h := List.mem_cons.1 h
      · exact .inl rfl
      · exact .inr h
    | _ => exact .inr h
  | _ => exact .inr h

/-- A value that no two handlers have in common, and that the handler that makes a step does not get
from others. -/
theorem eq_of_update (f : Task → Option String)
    (hold : ∀ j k text, f (c.request j) = some text → f (c.request k) = some text → j = k)
    (hnew : ∀ j, j ≠ i → ∀ text, f t' = some text → f (c.request j) ≠ some text)
    (j k : ι) (text : String) (hj : f (update c.request i t' j) = some text)
    (hk : f (update c.request i t' k) = some text) : j = k := by
  by_cases hji : j = i <;> by_cases hki : k = i
  · exact hji.trans hki.symm
  · subst hji
    simp only [update_self, update_of_ne hki] at hj hk
    exact absurd hk (hnew k hki text hj)
  · subst hki
    simp only [update_self, update_of_ne hji] at hj hk
    exact absurd hj (hnew j hji text hk)
  · simp only [update_of_ne hji, update_of_ne hki] at hj hk
    exact hold j k text hj hk

theorem Consistent.request (hinj : Injective (tokenHash crates))
    (h : Consistent crates (c, history))
    (hfacts : StepFacts crates i c.shared s' (c.request i) t') :
    Consistent crates
      (⟨s', update c.request i t'⟩, t'.phase.record history) := by
  have hown := h.knows i
  have hissued : ∀ text ∈ c.shared.issued, text ∉ (c.request i).phase.pending :=
    fun text htext hpending => (hown.pending text hpending).notIssued htext
  have hspent : ∀ text ∈ c.shared.issued, Spent crates c.shared.sessions.db text →
      Spent crates s'.sessions.db text :=
    fun text htext hspent => hspent.change hinj hfacts.rows (hissued text htext)
  have hbarred : ∀ text, Barred crates c.shared.sessions.db text c.shared.issued →
      Barred crates s'.sessions.db text s'.issued :=
    fun text hbarred => hbarred.change hinj hfacts.rows hfacts.moved.issued (hissued text)
  -- a token that another handler signs or has consumed is not one that this one gets
  have hsigned : ∀ j, j ≠ i → ∀ text ∈ t'.phase.pending,
      text ∉ (c.request j).phase.pending := by
    intro j hj text htext hpending
    obtain hold | hfresh := hfacts.moved.pending text htext
    · exact hj (h.apart j i text hpending hold)
    · exact hfresh ((h.knows j).pending text hpending).signed
  have hwins : ∀ j, j ≠ i → ∀ text, t'.won = some text → (c.request j).won ≠ some text := by
    intro j hj text hwon hother
    obtain hold | hunspent := hfacts.moved.won text hwon
    · exact hj (h.won j i text hother hold)
    · exact hunspent (spent_of_won (h.knows j) hother).2
  refine ⟨h.shared.step hown hfacts,
    (forall_update_iff _ fun _ => Knows crates s').2 ⟨hfacts.moved.knows, fun j hj => ?_⟩,
    (forall_update_iff _ fun j (t : Task) =>
        Refresh.Current crates j s'.sessions t.transaction).2
      ⟨hfacts.current, fun j hj => (h.current j).other hj hfacts.locks hfacts.moves⟩,
    eq_of_update (fun t => t.phase.pending) h.apart hsigned, eq_of_update Task.won h.won hwins,
    fun text htext => ?_, ?_, fun text htext => ?_⟩
  · exact Knows.step hinj hown (h.knows j)
      (fun text htext hpending => hj (h.apart j i text htext hpending)) hfacts
  · rw [exchanged_record] at htext
    obtain hnew | hold := List.mem_append.1 htext
    · have hphase : t'.phase.exchanged = some text := Option.mem_toList.1 hnew
      have hwon := hfacts.moved.exchanged text hphase
      obtain ⟨hmem, hspent'⟩ := spent_of_won hown hwon
      refine ⟨hfacts.moved.issued hmem, hspent text hmem hspent', fun j hj => ?_⟩
      by_cases hji : j = i
      · subst hji
        simp only [update_self] at hj
        exact won_ne_of_exchanged hphase hj
      · simp only [update_of_ne hji] at hj
        exact hji (h.won j i text hj hwon)
    · obtain ⟨hmem, hspent', hlost⟩ := h.exchanged text hold
      refine ⟨hfacts.moved.issued hmem, hspent text hmem hspent', fun j hj => ?_⟩
      by_cases hji : j = i
      · subst hji
        simp only [update_self] at hj
        exact (hfacts.moved.won text hj).elim (hlost j) fun hunspent => hunspent hspent'
      · simp only [update_of_ne hji] at hj
        exact hlost j hj
  · rw [exchanged_record]
    cases hphase : t'.phase.exchanged with
    | none => exact h.nodup
    | some text =>
      refine List.nodup_cons.2 ⟨fun hold => ?_, h.nodup⟩
      exact (h.exchanged text hold).2.2 i (hfacts.moved.exchanged text hphase)
  · obtain hphase | hold := loggedOut_record htext
    · exact hfacts.moved.loggedOut text hphase
    · exact hbarred text (h.loggedOut text hold)

/-! ### The theorem -/

/-- The step does not exchange the token without a session. -/
def NotMigrated (i : ι) (text : String) (_ : Config ι (Store ι) Task) (l : Action ι Input Db)
    (c' : Config ι (Store ι) Task) : Prop :=
  ∀ a tokens, l = .request i a → (c'.request i).phase ≠ .answered (.migrated text tokens)

section Step

variable {l : Action ι Input Db} (hinj : Injective (tokenHash state.crates))
  (h : Consistent state.crates (c, history)) (hstep : (protocol ι state).system.step c l = some c')

include hinj h hstep

theorem Consistent.step : Consistent state.crates (c', record history c l c') := by
  obtain ⟨other, s', rfl, henv, rfl⟩ | ⟨i, a, s', t', rfl, hnext, rfl⟩ := Protocol.step_cases hstep
  · exact h.environment hinj henv
  have hfacts := stepFacts_of_next hinj h.shared (h.knows i) (h.current i) hnext
  simpa [record] using h.request hinj hfacts

/-- A token that is barred is not consumed without a session. -/
theorem notMigrated_step (hbarred : Barred state.crates c.shared.sessions.db text c.shared.issued)
    (hmigrates : (c.request i).phase.migrates ≠ some text) :
    Barred state.crates c'.shared.sessions.db text c'.shared.issued ∧
      (c'.request i).phase.migrates ≠ some text ∧ NotMigrated i text c l c' := by
  obtain ⟨other, s', rfl, henv, rfl⟩ | ⟨j, a, s', t', rfl, hnext, rfl⟩ := Protocol.step_cases hstep
  · obtain ⟨-, -, hissued, hkeeps⟩ := surroundings_eq_some henv
    have hrows : RowsChange state.crates (fun _ => False) c.shared.sessions.db s'.sessions.db :=
      .of_eq hkeeps.tokens hkeeps.legacy hkeeps.clock
    exact ⟨hbarred.change hinj hrows (hissued ▸ List.Subset.refl _) fun _ => not_false, hmigrates,
      fun _ _ => nofun⟩
  have hfacts := stepFacts_of_next hinj h.shared (h.knows j) (h.current j) hnext
  refine ⟨hbarred.change hinj hfacts.rows hfacts.moved.issued fun hissued hpending =>
    ((h.knows j).pending text hpending).notIssued hissued, ?_, fun b tokens hl => ?_⟩
  · by_cases hji : i = j
    · subst hji
      simp only [update_self]
      intro hnew
      exact (hfacts.moved.migrates text hnew).elim hmigrates fun h => h hbarred
    · simpa [hji] using hmigrates
  · obtain ⟨rfl, -⟩ := Action.request.inj hl
    simp only [update_self]
    exact fun hphase => hmigrates (hfacts.moved.migrated text tokens hphase)

end Step

/-- In every run, no refresh token is exchanged twice, with or without a session. A token that has
been revoked or logged out, or whose session has been, is not exchanged without a session by any
request that begins afterwards. -/
theorem refresh_token_exchanged_once (state : AppState)
    (hinj : Injective (tokenHash state.crates)) (c₀ c₁ c₂ : Config ι (Store ι) Task)
    (before after : List (Action ι Input Db)) (history₁ history₂ : History)
    (hinitial : Initial state.crates c₀)
    (hbefore : ((protocol ι state).system.observe record).run (c₀, {}) before =
      some (c₁, history₁))
    (hafter : ((protocol ι state).system.observe record).run (c₁, history₁) after =
      some (c₂, history₂)) :
    history₂.exchanged.Nodup ∧
      ∀ i text, (c₁.request i).phase.isReady = true →
        Withdrawn state.crates c₁.shared.sessions.db text ∨ text ∈ history₁.loggedOut →
        (protocol ι state).system.Along (NotMigrated i text) c₁ after := by
  have hstep : ∀ c l c', Consistent state.crates c →
      ((protocol ι state).system.observe record).step c l = some c' →
      Consistent state.crates c' := by
    rintro ⟨c, history⟩ l _ hc hstep
    obtain ⟨c', hbase, rfl⟩ := System.observe_step_eq_some.1 hstep
    exact hc.step hinj hbase
  have hc₁ := System.run_invariant _ hstep (consistent_initial hinitial) hbefore
  have hc₂ := System.run_invariant _ hstep hc₁ hafter
  refine ⟨hc₂.nodup, fun i text hready hwithdrawn => ?_⟩
  have hbarred : Barred state.crates c₁.shared.sessions.db text c₁.shared.issued :=
    hwithdrawn.elim barred_of_withdrawn (hc₁.loggedOut text)
  have hmigrates : (c₁.request i).phase.migrates ≠ some text := by
    rw [migrates_of_isReady hready]
    nofun
  rw [← System.observe_along _ record after (c₁, history₁)]
  refine System.along_of_invariant _ (I := fun c => Consistent state.crates c ∧
      Barred state.crates c.1.shared.sessions.db text c.1.shared.issued ∧
      (c.1.request i).phase.migrates ≠ some text) ?_ ⟨hc₁, hbarred, hmigrates⟩
    (System.along_true _)
  rintro ⟨c, history⟩ l _ ⟨hc, hbarred, hmigrates⟩ - hstep'
  obtain ⟨c', hbase, rfl⟩ := System.observe_step_eq_some.1 hstep'
  obtain ⟨hbarred', hmigrates', hnot⟩ := notMigrated_step hinj hc hbase hbarred hmigrates
  exact ⟨⟨hstep _ _ _ hc hstep', hbarred', hmigrates'⟩, hnot⟩

/-- A server whose tokens are their identifiers. -/
def sampleState : AppState where
  crates := .readable
  jwtKeys :=
    { signToken := fun claims => .ok claims.jti
      decodeToken := fun token => .ok { tokenType := .refresh, jti := token } }
  tokenExpirySeconds := 60
  refreshTokenExpirySeconds := 3600
  sessionPolicy := "multi_session"

/-- An administrative client. -/
def sampleConfig : Config (Fin 4) (Store (Fin 4)) Task where
  shared :=
    { sessions :=
        { db :=
            { clients := .single { id := "c", secret := "s", name := "c", isAdminClient := true }
              principals := .single ⟨.client, "c", "c", true⟩ }
          locks := fun _ => none }
      signed := []
      issued := [] }
  request _ := ⟨.idle, .idle⟩

def go (i : Fin 4) : Action (Fin 4) Input Db := .request i (.handle {} "")

/-- The client logs in, its token is exchanged, and the new one is logged out. -/
def sampleBefore : List (Action (Fin 4) Input Db) :=
  [.request 0 (.call (.adminToken ⟨"c", "s", none, none⟩ (some ⟨.client, "c", "c", true⟩))),
    .request 0 (.handle { uuid := "a", uuid' := "t" } "s"), .request 0 .proceed, go 0, go 0,
    .request 1 (.call (.authRefresh "t")), go 1,
    .request 1 (.handle { uuid := "b", uuid' := "n" } ""), .request 1 .proceed, .request 1 .proceed,
    .request 1 .proceed, .request 1 .proceed, go 1, go 1, go 1, go 1,
    .request 2 (.call (.authLogoutRefreshToken "n")), .request 2 .proceed, .request 2 .proceed,
    go 2]

/-- Both tokens are presented once more. -/
def sampleAfter : List (Action (Fin 4) Input Db) :=
  [.request 2 (.call (.authRefresh "t")), go 2, .request 2 (.handle { uuid' := "m" } ""),
    .request 3 (.call (.authRefresh "n")), go 3, .request 3 (.handle { uuid' := "l" } ""),
    .request 3 .proceed, .request 2 .proceed, .request 3 .proceed, .request 2 .proceed,
    .request 3 .proceed, .request 3 .proceed, .request 2 .proceed, .request 2 .proceed, go 2, go 3]

theorem tokenHash_readable_injective : Injective (tokenHash .readable) :=
  Crates.readable.text_injective.comp Crates.readable.bytes_injective

theorem refresh_token_exchanged_once_logout :
    ∃ c₁ c₂ history₁ history₂,
      ((protocol (Fin 4) sampleState).system.observe record).run (sampleConfig, {}) sampleBefore =
        some (c₁, history₁) ∧
      ((protocol (Fin 4) sampleState).system.observe record).run (c₁, history₁) sampleAfter =
        some (c₂, history₂) ∧
      history₁.exchanged = ["t"] ∧ history₁.loggedOut = ["n"] ∧ history₂.exchanged.Nodup ∧
      (protocol (Fin 4) sampleState).system.Along (NotMigrated 3 "n") c₁ sampleAfter := by
  have hinitial : Initial sampleState.crates sampleConfig :=
    ⟨fun _ => rfl, rfl, rfl, fun _ hu => absurd hu not_mem_empty, List.Subset.refl _⟩
  refine ⟨_, _, _, _, rfl, rfl, rfl, rfl, ?_⟩
  have honce := refresh_token_exchanged_once sampleState tokenHash_readable_injective sampleConfig
    _ _ sampleBefore sampleAfter _ _ hinitial rfl rfl
  exact ⟨honce.1, honce.2 3 "n" rfl (.inr List.mem_cons_self)⟩

end Keylo.Exchange
