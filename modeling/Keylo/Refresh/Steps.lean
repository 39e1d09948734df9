import Keylo.Anonymous.Frames
import Keylo.Refresh.Exchange
import Keylo.Refresh.Rows

/-!
# The steps of the handlers that exchange refresh tokens

What a handler knows in each of its phases about the token it has been given and the token it has
signed. Every step keeps this, and changes no rows but those of the token that its own handler has
signed, or by revoking or consuming them.

## Main definitions

* `Knows` : what a handler knows in each of its phases.
* `StepFacts` : what a step of a handler does.

## Main results

* `Knows.change` : what a handler knows is not invalidated by others.
* `stepFacts_of_next` : the facts about every step.
-/

namespace Keylo.Exchange

open Relational Transition Anonymous Function Table
open Refresh (TokenFollows Moves Chains Current)

/-! ### Parts of handlers that keep tokens -/

/-- Tokens and sessions are the same, and time does not go back. -/
structure KeepsTokens (db db' : Db) : Prop where
  sessions : db'.refreshSessions = db.refreshSessions
  tokens : db'.refreshSessionTokens = db.refreshSessionTokens
  legacy : db'.refreshTokens = db.refreshTokens
  clock : db.clock ≤ db'.clock

instance : Mirrors KeepsTokens where
  tick _ n := ⟨rfl, rfl, rfl, Int.le_add_of_nonneg_right (Int.natCast_nonneg n)⟩
  mirror _ n _ _ _ _ := ⟨rfl, rfl, rfl, Int.le_add_of_nonneg_right (Int.natCast_nonneg n)⟩

theorem keepsTokens_selectContext (claims : Claims) (organizationId : String) :
    (selectContext claims organizationId).run.Guarantees KeepsTokens := by
  unfold selectContext
  split
  · exact Program.guarantees_pure _
  split
  · exact Program.guarantees_pure _
  refine .bindExcept (.adapt guarantees_fetch) fun found => ?_
  split
  · exact Program.guarantees_pure _
  split
  · exact Program.guarantees_pure _
  · refine .bindExcept (.adapt guarantees_fetch) fun membership => ?_
    split <;> exact Program.guarantees_pure _

/-! ### What a handler knows -/

/-- The token that the request presents. -/
def Phase.presented : Phase → Option String
  | .checkingMembership refreshToken _ | .rotating refreshToken _ | .consuming refreshToken _ _ _
  | .completing refreshToken _ _ _ | .migrating refreshToken _ _ _ | .issuing refreshToken _
  | .storingMigrated refreshToken _ | .loggingOut refreshToken | .revokingToken refreshToken =>
    some refreshToken
  | _ => none

/-- The token that has been signed and not been returned. -/
def Phase.pending : Phase → Option String
  | .storingSession _ tokens | .storingToken _ tokens => some tokens.refreshToken
  | .consuming _ _ _ new => some new.refreshToken
  | .completing _ _ newRefreshToken _ => some newRefreshToken
  | .storingMigrated _ tokens => some tokens.refreshToken
  | _ => none

/-- The handler has consumed the token that it will answer with an exchange. -/
def Task.won (t : Task) : Option String :=
  match t.phase, t.transaction with
  | .completing refreshToken _ _ _, _ | .issuing refreshToken _, _
  | .storingMigrated refreshToken _, _ => some refreshToken
  | .consuming refreshToken _ _ _, .returned (.consumed (.consumed _)) => some refreshToken
  | _, _ => none

/-- The token has been consumed without a session. -/
def Phase.migrates : Phase → Option String
  | .issuing refreshToken _ | .storingMigrated refreshToken _ => some refreshToken
  | _ => none

/-- The token has been exchanged. -/
def Phase.exchanged : Phase → Option String
  | .answered (.rotated refreshToken _) | .answered (.migrated refreshToken _) => some refreshToken
  | _ => none

variable {ι : Type*} (crates : Crates)

/-- The sessions of a token that has just been signed expire with it. -/
def Terms (db : Db) (tokens : SignedTokens) : Prop :=
  ∀ t, IsSessionRow crates db tokens.refreshToken t → t.expiresAt = .ofTimestamp tokens.exp

/-- What a handler knows from the statements it has carried out. -/
def Facts (db : Db) (t : Task) : Prop :=
  match t.phase with
  | .storingSession _ tokens =>
    Terms crates db tokens ∧ Storing tokens.refreshToken tokens.exp t.transaction
  | .storingToken _ tokens => Terms crates db tokens ∧ t.transaction = .idle
  | .consuming refreshToken _ _ new => Consuming crates db refreshToken new t.transaction
  | .completing refreshToken _ _ body =>
    Spent crates db refreshToken ∧ t.transaction = .idle ∧ body.Guarantees KeepsTokens
  | .migrating refreshToken _ _ _ => Expired crates db refreshToken ∧ t.transaction = .idle
  | .issuing refreshToken session =>
    Spent crates db refreshToken ∧ t.transaction = .idle ∧ session.Guarantees KeepsTokens
  | .storingMigrated refreshToken tokens =>
    Spent crates db refreshToken ∧ ∃ exp, Storing tokens.refreshToken exp t.transaction
  | .loggingOut refreshToken => RevokingToken crates db refreshToken t.transaction
  | .revokingInactive | .revokingSessions => Revoking t.transaction
  | .selecting _ _ organizationId =>
    t.transaction = .idle ∧ organizationId.Guarantees KeepsTokens
  | _ => t.transaction = .idle

/-- A token that has been signed is stored in `refresh_tokens` just before it is returned. -/
structure Pends (s : Store ι) (text : String) : Prop where
  signed : text ∈ s.signed
  notIssued : text ∉ s.issued
  noLegacy : ∀ u, ¬ IsLegacyRow crates s.sessions.db text u

/-- What a handler knows about the tokens it has been given and has signed. -/
structure Knows (s : Store ι) (t : Task) : Prop where
  presented : ∀ text ∈ t.phase.presented, text ∈ s.issued
  pending : ∀ text ∈ t.phase.pending, Pends crates s text
  facts : Facts crates s.sessions.db t

variable {crates} {new : String → Prop} {db db' : Db} {s s' : Store ι} {t t' : Task} {text : String}
  {refreshClaims : Claims}

theorem Consuming.change {replacement : Replacement} {transaction : Refresh.Task}
    (hinj : Injective (tokenHash crates)) (hrows : RowsChange crates new db db')
    (htext : ¬ new text) (h : Consuming crates db text replacement transaction) :
    Consuming crates db' text replacement transaction := by
  cases transaction with
  | readingCandidate | checkingContext | lockingToken | lockingSession | rotating =>
    exact ⟨h.1, h.2.1, le_trans h.2.2 hrows.clock⟩
  | returned result =>
    cases result with
    | consumed result =>
      cases result with
      | notFound => exact Expired.change hinj hrows htext h
      | consumed => exact Spent.change hinj hrows htext h
      | _ => exact h
    | _ => exact h
  | _ => exact h

theorem RevokingToken.change {transaction : Refresh.Task} (hrows : RowsChange crates new db db')
    (h : RevokingToken crates db text transaction) : RevokingToken crates db' text transaction := by
  cases transaction with
  | returned result =>
    cases result with
    | revokedByToken sessionId =>
      cases sessionId with
      | none => trivial
      | some =>
        obtain ⟨row, hrow⟩ := h
        obtain ⟨row', hrow', -⟩ := hrow.forward hrows
        exact ⟨row', hrow'⟩
    | _ => exact h
  | _ => exact h

/-- What a handler knows stays true, as long as nobody stores the tokens it knows about. -/
theorem Facts.change (hinj : Injective (tokenHash crates))
    (hrows : RowsChange crates new db db') (hpresented : ∀ text ∈ t.phase.presented, ¬ new text)
    (hpending : ∀ text ∈ t.phase.pending, ¬ new text) (h : Facts crates db t) :
    Facts crates db' t := by
  have hterms : ∀ tokens : SignedTokens, ¬ new tokens.refreshToken → Terms crates db tokens →
      Terms crates db' tokens := by
    intro tokens hnew hterms row' hrow'
    obtain ⟨row, hrow, hfollows⟩ := hrow'.backward hinj hrows hnew
    exact hfollows.expiresAt.trans (hterms row hrow)
  obtain ⟨phase, transaction⟩ := t
  cases phase with
  | storingSession login tokens | storingToken login tokens =>
    exact ⟨hterms tokens (hpending _ rfl) h.1, h.2⟩
  | consuming => exact Consuming.change hinj hrows (hpresented _ rfl) h
  | completing | issuing | storingMigrated =>
    exact ⟨Spent.change hinj hrows (hpresented _ rfl) h.1, h.2⟩
  | migrating => exact ⟨Expired.change hinj hrows (hpresented _ rfl) h.1, h.2⟩
  | loggingOut => exact RevokingToken.change hrows h
  | _ => exact h

theorem Knows.change (hinj : Injective (tokenHash crates))
    (hrows : RowsChange crates new s.sessions.db s'.sessions.db) (hsigned : s.signed ⊆ s'.signed)
    (hissued : s.issued ⊆ s'.issued) (hnew : ∀ text ∈ s.issued, ¬ new text)
    (hpending : ∀ text ∈ t.phase.pending, ¬ new text ∧ text ∉ s'.issued) (h : Knows crates s t) :
    Knows crates s' t where
  presented text htext := hissued (h.presented text htext)
  pending text htext := by
    obtain ⟨hs, -, hlegacy⟩ := h.pending text htext
    refine ⟨hsigned hs, (hpending text htext).2, fun u' hu' => ?_⟩
    obtain ⟨u, hu, -⟩ := hu'.backward hinj hrows (hpending text htext).1
    exact hlegacy u hu
  facts := h.facts.change hinj hrows (fun text htext => hnew text (h.presented text htext))
    fun text htext => (hpending text htext).1

/-! ### Steps -/

/-- A token with rows in both tables expires at the same time in both. -/
def Matched (db : Db) : Prop :=
  ∀ t ∈ db.refreshSessionTokens, ∀ u ∈ db.refreshTokens, t.tokenHash = u.tokenHash →
    t.expiresAt = u.expiresAt

/-- All rows are of tokens that have been signed, and so are all tokens that have been returned. -/
structure Shared (crates : Crates) (s : Store ι) : Prop where
  chains : Chains s.sessions.db
  matched : Matched s.sessions.db
  tokens : ∀ t ∈ s.sessions.db.refreshSessionTokens, ∃ text ∈ s.signed,
    t.tokenHash = tokenHash crates text
  legacy : ∀ u ∈ s.sessions.db.refreshTokens, ∃ text ∈ s.signed,
    u.tokenHash = tokenHash crates text
  issued : s.issued ⊆ s.signed

/-- What a step of a handler does, apart from the rows. -/
structure Moved (crates : Crates) (s s' : Store ι) (t t' : Task) : Prop where
  signed : s.signed ⊆ s'.signed
  issued : s.issued ⊆ s'.issued
  issuedSigned : s'.issued ⊆ s'.signed
  returned : ∀ text ∈ s'.issued, text ∈ s.issued ∨ text ∈ t.phase.pending ∨ text ∉ s.signed
  pending : ∀ text ∈ t'.phase.pending, text ∈ t.phase.pending ∨ text ∉ s.signed
  knows : Knows crates s' t'
  won : ∀ text, t'.won = some text → t.won = some text ∨ ¬ Spent crates s.sessions.db text
  migrates : ∀ text ∈ t'.phase.migrates,
    text ∈ t.phase.migrates ∨ ¬ Barred crates s.sessions.db text s.issued
  migrated : ∀ text tokens, t'.phase = .answered (.migrated text tokens) →
    text ∈ t.phase.migrates
  exchanged : ∀ text ∈ t'.phase.exchanged, t.won = some text
  loggedOut : ∀ text, t'.phase = .answered (.loggedOut text) →
    Barred crates s'.sessions.db text s'.issued

/-- What a step of a handler does. -/
structure StepFacts [DecidableEq ι] (crates : Crates) (i : ι) (s s' : Store ι) (t t' : Task) :
    Prop where
  moved : Moved crates s s' t t'
  moves : Moves (fun row => s.sessions.locks.available i row = true) s.sessions.db s'.sessions.db
  locks : Locks.Keeps (some i) s.sessions.locks s'.sessions.locks
  current : Current crates i s'.sessions t'.transaction
  chains : Chains s'.sessions.db
  rows : RowsChange crates (fun text => text ∈ t.phase.pending) s.sessions.db s'.sessions.db
  matched : Matched s'.sessions.db

/-! ### Steps of transactions -/

theorem won_consuming {refreshToken : String} {now : Time} {new : Replacement}
    {transaction : Refresh.Task}
    (h : Task.won ⟨.consuming refreshToken refreshClaims now new, transaction⟩ = some text) :
    refreshToken = text ∧ ∃ session, transaction = .returned (.consumed (.consumed session)) := by
  cases transaction with
  | returned result =>
    cases result with
    | consumed result =>
      cases result with
      | consumed session =>
        cases h
        exact ⟨rfl, session, rfl⟩
      | _ => cases h
    | _ => cases h
  | _ => cases h

theorem not_exchanged {phase : Phase} (h : ∀ outcome, phase ≠ .answered outcome) :
    text ∉ phase.exchanged := by
  cases phase with
  | answered outcome => exact absurd rfl (h outcome)
  | _ => nofun

section Transact

variable [DecidableEq ι] {i : ι} {a : Refresh.Input} {r' : Refresh.Store ι}
  {transaction' : Refresh.Task}

theorem idle_ne_ready {transaction : Refresh.Task} (hready : transaction.isReady = false) :
    transaction ≠ .idle := by
  rintro rfl
  cases hready

/-- A transaction stores only the token that its handler has signed. -/
theorem pending_of_newToken (hready : t.transaction.isReady = false) (h : Facts crates db t)
    (hnew : newToken t.transaction = some text) : text ∈ t.phase.pending := by
  obtain ⟨phase, transaction⟩ := t
  have hidle := idle_ne_ready hready
  cases phase with
  | storingSession =>
    obtain ⟨-, ⟨params, rfl, htext, -⟩ | ⟨result, rfl⟩⟩ := h
    · cases hnew
      exact htext ▸ rfl
    · cases hready
  | storingMigrated =>
    obtain ⟨-, exp, ⟨params, rfl, htext, -⟩ | ⟨result, rfl⟩⟩ := h
    · cases hnew
      exact htext ▸ rfl
    · cases hready
  | consuming =>
    cases transaction with
    | rotating =>
      obtain ⟨-, rfl, -⟩ := h
      cases hnew
      rfl
    | creating => exact h.elim
    | _ => cases hnew
  | loggingOut | revokingInactive | revokingSessions =>
    cases transaction with
    | rotating | creating => exact h.elim
    | _ => cases hnew
  | storingToken | migrating => exact absurd h.2 hidle
  | completing | issuing => exact absurd h.2.1 hidle
  | selecting => exact absurd h.1 hidle
  | _ => exact absurd h hidle

variable (hshared : Shared crates s) (hknows : Knows crates s t)
  (hcurrent : Current crates i s.sessions t.transaction) (hready : t.transaction.isReady = false)
  (h : Refresh.next crates i a s.sessions t.transaction = some (r', transaction'))

include hshared hknows hcurrent hready h

theorem facts_transact (hinj : Injective (tokenHash crates)) :
    Facts crates r'.db { t with transaction := transaction' } := by
  have hrows := rowsChange_of_next hcurrent h
  have hpresented : ∀ text ∈ t.phase.presented, newToken t.transaction ≠ some text := by
    intro text htext hnew
    exact (hknows.pending text (pending_of_newToken hready hknows.facts hnew)).notIssued
      (hknows.presented text htext)
  have hfacts := hknows.facts
  obtain ⟨phase, transaction⟩ := t
  have hidle := idle_ne_ready hready
  cases phase with
  | storingSession =>
    refine ⟨fun row' hrow' => ?_, hfacts.2.next hready h⟩
    obtain ⟨hterms, ⟨params, rfl, htext, hexp⟩ | ⟨result, rfl⟩⟩ := hfacts
    · obtain ⟨row, hrow, hfollows⟩ | hadds :=
        (Refresh.stepFacts_of_next hcurrent h).effect.backward row' hrow'.1
      · exact hfollows.expiresAt.trans (hterms row ⟨hrow, hfollows.tokenHash.symm.trans hrow'.2⟩)
      · exact hadds.2.trans (congrArg _ hexp)
    · cases hready
  | storingMigrated =>
    obtain ⟨hspent, exp, hstoring⟩ := hfacts
    exact ⟨hspent.change hinj hrows (hpresented _ rfl), exp, hstoring.next hready h⟩
  | consuming =>
    exact Consuming.next hready h hcurrent hshared.chains hfacts
  | loggingOut => exact RevokingToken.next hready h hcurrent hfacts
  | revokingInactive | revokingSessions => exact Revoking.next hready h hfacts
  | storingToken | migrating => exact absurd hfacts.2 hidle
  | completing | issuing => exact absurd hfacts.2.1 hidle
  | selecting => exact absurd hfacts.1 hidle
  | _ => exact absurd hfacts hidle

/-- A session that is stored has a token that is not in `refresh_tokens`. -/
theorem matched_transact : Matched r'.db := by
  have hrows := rowsChange_of_next hcurrent h
  obtain ⟨hlegacy, -⟩ := effect_eq (Refresh.stepFacts_of_next hcurrent h).effect
  intro row' hrow' u hu hhash
  rw [hlegacy] at hu
  obtain ⟨row, hrow, hfollows⟩ | ⟨text, hnew, hhash'⟩ := hrows.added row' hrow'
  · rw [hfollows.expiresAt]
    exact hshared.matched row hrow u hu (hfollows.tokenHash.symm.trans hhash)
  · have hpends := hknows.pending text (pending_of_newToken hready hknows.facts hnew)
    exact absurd ⟨hu, hhash.symm.trans hhash'⟩ (hpends.noLegacy u)

omit hshared in
theorem won_transact (hinj : Injective (tokenHash crates))
    (hwon : Task.won { t with transaction := transaction' } = some text) :
    t.won = some text ∨ ¬ Spent crates s.sessions.db text := by
  obtain ⟨phase, transaction⟩ := t
  cases phase with
  | consuming =>
    obtain ⟨rfl, session, rfl⟩ := won_consuming hwon
    refine .inr (not_spent_of_consumed hinj hcurrent hknows.facts hready (fun hnew => ?_) h)
    have hpending := pending_of_newToken hready hknows.facts hnew
    exact (hknows.pending _ hpending).notIssued (hknows.presented _ rfl)
  | completing | issuing | storingMigrated => exact .inl hwon
  | _ => cases hwon

theorem stepFacts_transact (hinj : Injective (tokenHash crates)) :
    StepFacts crates i s { s with sessions := r' } t { t with transaction := transaction' } := by
  have hrefresh := Refresh.stepFacts_of_next hcurrent h
  have hrows := rowsChange_of_next hcurrent h
  have hlegacy := (effect_eq hrefresh.effect).1
  have hanswered : ∀ outcome, t.phase ≠ .answered outcome := by
    rintro outcome hphase
    obtain ⟨phase, transaction⟩ := t
    cases hphase
    exact absurd hknows.facts (idle_ne_ready hready)
  refine ⟨⟨List.Subset.refl _, List.Subset.refl _, hshared.issued, fun _ => .inl, fun _ => .inl,
    ⟨hknows.presented, fun text htext => ?_, ?_⟩, ?_, fun _ => .inl,
    fun _ _ h => absurd h (hanswered _), fun _ h => absurd h (not_exchanged hanswered),
    fun _ h => absurd h (hanswered _)⟩,
    hrefresh.effect.moves, hrefresh.locks, hrefresh.current,
    Refresh.chains_of_effect hshared.chains hrefresh.effect,
    hrows.mono fun _ => pending_of_newToken hready hknows.facts,
    matched_transact hshared hknows hcurrent hready h⟩
  · obtain ⟨hs, hi, hl⟩ := hknows.pending text htext
    refine ⟨hs, hi, fun u hu => hl u ⟨?_, hu.2⟩⟩
    rw [← hlegacy]
    exact hu.1
  · exact facts_transact hshared hknows hcurrent hready h hinj
  · exact fun text => won_transact hknows hcurrent hready h hinj

end Transact

/-! ### Steps of handlers -/

/-- A step of a handler itself leaves the sessions alone. -/
structure Quiet (crates : Crates) (s s' : Store ι) (t t' : Task) : Prop where
  moved : Moved crates s s' t t'
  locks : s'.sessions.locks = s.sessions.locks
  sessions : s'.sessions.db.refreshSessions = s.sessions.db.refreshSessions
  tokens : s'.sessions.db.refreshSessionTokens = s.sessions.db.refreshSessionTokens
  rows : RowsChange crates (fun text => text ∈ t.phase.pending) s.sessions.db s'.sessions.db
  matched : Matched s'.sessions.db
  current : ∀ i : ι, Current crates i s'.sessions t'.transaction

theorem knows_answered (outcome : Outcome) : Knows crates s ⟨.answered outcome, .idle⟩ :=
  ⟨fun _ h => (by cases h), fun _ h => (by cases h), rfl⟩

section Quiet

variable (hinj : Injective (tokenHash crates)) (hshared : Shared crates s)

include hshared

theorem Quiet.stepFacts [DecidableEq ι] {i : ι} (h : Quiet crates s s' t t') :
    StepFacts crates i s s' t t' where
  moved := h.moved
  moves := .of_eq h.tokens h.sessions
  locks := h.locks ▸ .refl
  current := h.current i
  chains := hshared.chains.of_eq h.tokens h.sessions
  rows := h.rows
  matched := h.matched

theorem Quiet.of_same (hsessions : s'.sessions = s.sessions)
    (hmoved : Moved crates s s' t t')
    (hcurrent : ∀ i : ι, Current crates i s'.sessions t'.transaction) :
    Quiet crates s s' t t' where
  moved := hmoved
  locks := by rw [hsessions]
  sessions := by rw [hsessions]
  tokens := by rw [hsessions]
  rows := by
    rw [hsessions]
    exact .of_eq rfl rfl (le_refl _)
  matched := by
    rw [hsessions]
    exact hshared.matched
  current := hcurrent

theorem moved_answer {db : Db} {outcome : Outcome}
    (hexchanged : (Phase.answered outcome).exchanged = none)
    (hloggedOut : ∀ text, Phase.answered outcome = .answered (.loggedOut text) →
      Barred crates db text s.issued) :
    Moved crates s (withDb s db) t ⟨.answered outcome, .idle⟩ where
  signed := List.Subset.refl _
  issued := List.Subset.refl _
  issuedSigned := hshared.issued
  returned _ := .inl
  pending _ h := by cases h
  knows := knows_answered outcome
  won _ h := by cases h
  migrates _ h := by cases h
  migrated _ _ h := by
    obtain rfl := Phase.answered.inj h
    cases hexchanged
  exchanged _ h := by
    rw [hexchanged] at h
    cases h
  loggedOut := hloggedOut

/-- An answer with a token that has been signed before, or just now. -/
theorem moved_give {s₁ : Store ι} {outcome : Tokens → Outcome} {tokens : Tokens}
    (hsigned : s.signed ⊆ s₁.signed) (hissued : s₁.issued = s.issued)
    (htext : tokens.refreshToken ∈ s₁.signed)
    (hpending : tokens.refreshToken ∈ t.phase.pending ∨ tokens.refreshToken ∉ s.signed)
    (hmigrated : ∀ text tokens', outcome tokens = .migrated text tokens' →
      text ∈ t.phase.migrates)
    (hexchanged : ∀ text ∈ (Phase.answered (outcome tokens)).exchanged, t.won = some text)
    (hloggedOut : ∀ text, outcome tokens ≠ .loggedOut text) :
    Moved crates s (give s₁ outcome tokens).1 t (give s₁ outcome tokens).2 where
  signed := hsigned
  issued := fun text' htext' => List.mem_cons_of_mem _ (hissued ▸ htext')
  issuedSigned := by
    intro text' htext'
    obtain rfl | htext' := List.mem_cons.1 htext'
    · exact htext
    · exact hsigned (hshared.issued (hissued ▸ htext'))
  returned := by
    intro text' htext'
    obtain rfl | htext' := List.mem_cons.1 htext'
    · exact .inr hpending
    · exact .inl (hissued ▸ htext')
  pending _ h := by cases h
  knows := knows_answered (outcome tokens)
  won _ h := by cases h
  migrates _ h := by cases h
  migrated text' tokens' h := hmigrated text' tokens' (Phase.answered.inj h)
  exchanged := hexchanged
  loggedOut text' h := absurd (Phase.answered.inj h) (hloggedOut text')

include hinj in
/-- A token that has just been signed has no rows. -/
theorem pends_of_fresh (hfresh : text ∉ s.signed) :
    Pends crates { s with signed := text :: s.signed } text where
  signed := List.mem_cons_self
  notIssued h := hfresh (hshared.issued h)
  noLegacy u hu := by
    obtain ⟨text', htext', hhash⟩ := hshared.legacy u hu.1
    exact hfresh (hinj (hu.2.symm.trans hhash) ▸ htext')

include hinj in
theorem not_isSessionRow_of_fresh (hfresh : text ∉ s.signed) (row : RefreshSessionToken) :
    ¬ IsSessionRow crates s.sessions.db text row := by
  rintro ⟨hrow, hhash⟩
  obtain ⟨text', htext', hhash'⟩ := hshared.tokens row hrow
  exact hfresh (hinj (hhash.symm.trans hhash') ▸ htext')

theorem Quiet.stay (hknows : Knows crates s t')
    (hpending : ∀ text ∈ t'.phase.pending, text ∈ t.phase.pending := by nofun)
    (hwon : ∀ text, t'.won = some text → t.won = some text := by nofun)
    (hmigrates : ∀ text ∈ t'.phase.migrates, text ∈ t.phase.migrates := by nofun)
    (hanswered : ∀ outcome, t'.phase ≠ .answered outcome := by nofun)
    (hcurrent : ∀ i : ι, Current crates i s.sessions t'.transaction := by intro; trivial) :
    Quiet crates s s t t' := by
  refine .of_same hshared rfl ⟨List.Subset.refl _, List.Subset.refl _, hshared.issued,
    fun _ => .inl, fun text h => .inl (hpending text h), hknows, fun text h => .inl (hwon text h),
    fun text h => .inl (hmigrates text h), fun _ _ h => absurd h (hanswered _),
    fun _ h => absurd h (not_exchanged hanswered), fun _ h => absurd h (hanswered _)⟩ hcurrent

theorem Quiet.sign (hfresh : text ∉ s.signed) (hpending : t'.phase.pending = some text)
    (hknows : Knows crates { s with signed := text :: s.signed } t')
    (hwon : ∀ text, t'.won = some text → t.won = some text := by nofun)
    (hmigrates : ∀ text ∈ t'.phase.migrates, text ∈ t.phase.migrates := by nofun)
    (hcurrent : ∀ i : ι, Current crates i s.sessions t'.transaction := by intro; trivial) :
    Quiet crates s { s with signed := text :: s.signed } t t' := by
  have hanswered : ∀ outcome, t'.phase ≠ .answered outcome := by
    intro outcome h
    rw [h] at hpending
    cases hpending
  refine .of_same hshared rfl ⟨List.subset_cons_self _ _, List.Subset.refl _,
    fun text' h => List.mem_cons_of_mem _ (hshared.issued h), fun _ => .inl, fun text' h => ?_,
    hknows, fun text h => .inl (hwon text h), fun text h => .inl (hmigrates text h),
    fun _ _ h => absurd h (hanswered _), fun _ h => absurd h (not_exchanged hanswered),
    fun _ h => absurd h (hanswered _)⟩ hcurrent
  rw [hpending] at h
  cases h
  exact .inr hfresh

end Quiet

/-! ### Every step of a handler -/

/-- The rows of `refresh_tokens` that are found are revoked. -/
def revokeTokens (s : Store ι) (p : RefreshToken → Bool) : Store ι :=
  withDb s { s.sessions.db with
    refreshTokens := s.sessions.db.refreshTokens.update p revokeLegacyToken }

def addSigned (s : Store ι) (text : String) : Store ι := { s with signed := text :: s.signed }

/-- The token expires at most a lifetime after the time `b`, in seconds. -/
def SignedBy (state : AppState) (b : Int) (text : String) : Prop :=
  ∃ claims, state.jwtKeys.signToken claims = .ok text ∧ claims.exp ≤ b + state.tokenExpirySeconds

/-- What a handler does when it begins, and between its transactions. -/
inductive Handled (state : AppState) (s : Store ι) : Task → Store ι → Task → Prop
  | rejected {t : Task} : Handled state s t s ⟨.answered .rejected, .idle⟩
  | login {t : Task} {login} : Handled state s t s ⟨.signing login, .idle⟩
  | refresh {t : Task} {refreshToken claims} (h : refreshToken ∈ s.issued) :
      Handled state s t s ⟨.checkingMembership refreshToken claims, .idle⟩
  | logout {t : Task} {now refreshToken reason} (h : refreshToken ∈ s.issued) :
      Handled state s t s ⟨.loggingOut refreshToken, .findingToken now refreshToken reason⟩
  | select {t : Task} {accessToken claims organizationId} : Handled state s t s
      ⟨.selecting accessToken claims (selectContext claims organizationId).run, .idle⟩
  | revoke {t : Task} {now c} (h : isRevocation c = true) :
      Handled state s t s ⟨.revokingSessions, Refresh.start now c⟩
  | revokeClient {t : Task} {p} : Handled state s t (revokeTokens s p) ⟨.answered .revoked, .idle⟩
  | signedSession {login transaction} (tokens : SignedTokens) {params : CreateRefreshSessionParams}
      (hfresh : tokens.refreshToken ∉ s.signed)
      (hsign : SignedBy state s.sessions.db.clock.timestamp tokens.accessToken)
      (hid : tokens.sessionId = some params.sessionId)
      (htext : params.refreshToken = tokens.refreshToken) (hexp : params.expiresAt = tokens.exp) :
      Handled state s ⟨.signing login, transaction⟩ (addSigned s tokens.refreshToken)
        ⟨.storingSession login tokens, .creating params⟩
  | signedToken {login transaction} (tokens : SignedTokens)
      (hfresh : tokens.refreshToken ∉ s.signed) (hid : tokens.sessionId = none) :
      Handled state s ⟨.signing login, transaction⟩ (addSigned s tokens.refreshToken)
        ⟨.storingToken login tokens, .idle⟩
  | issued {login transaction} (tokens : Tokens) (hfresh : tokens.refreshToken ∉ s.signed)
      (hid : tokens.sessionId = none) : Handled state s ⟨.signing login, transaction⟩
        (give (addSigned s tokens.refreshToken) .issued tokens).1
        ⟨.answered (.issued tokens), .idle⟩
  | sessionStored {login tokens} :
      Handled state s ⟨.storingSession login tokens, .returned .created⟩ s
        ⟨.storingToken login tokens, .idle⟩
  | sessionIssued {login tokens} :
      Handled state s ⟨.storingSession login tokens, .returned .created⟩
        (give s .issued tokens.toTokens).1 ⟨.answered (.issued tokens.toTokens), .idle⟩
  | tokenIssued {login tokens transaction u refreshTokens}
      (hhash : u.tokenHash = tokenHash state.crates tokens.refreshToken)
      (hexp : u.expiresAt = .ofTimestamp tokens.exp)
      (hinsert : s.sessions.db.refreshTokens.insert u = some refreshTokens) :
      Handled state s ⟨.storingToken login tokens, transaction⟩
        (give (withDb s { s.sessions.db with refreshTokens := refreshTokens }) .issued
          tokens.toTokens).1 ⟨.answered (.issued tokens.toTokens), .idle⟩
  | member {refreshToken claims transaction} :
      Handled state s ⟨.checkingMembership refreshToken claims, transaction⟩ s
        ⟨.rotating refreshToken claims, .idle⟩
  | notMember {refreshToken claims transaction now reason} :
      Handled state s ⟨.checkingMembership refreshToken claims, transaction⟩ s
        ⟨.revokingInactive, .findingToken now refreshToken reason⟩
  | replaced {refreshToken claims transaction organizationId} (new : Replacement)
      (hfresh : new.refreshToken ∉ s.signed) :
      Handled state s ⟨.rotating refreshToken claims, transaction⟩ (addSigned s new.refreshToken)
        ⟨.consuming refreshToken claims s.sessions.db.clock new,
          .readingCandidate s.sessions.db.clock refreshToken organizationId new⟩
  | consumed {refreshToken claims now session} {new : Replacement} : Handled state s
      ⟨.consuming refreshToken claims now new, .returned (.consumed (.consumed session))⟩ s
      ⟨.completing refreshToken session.sessionId new.refreshToken (refreshedBody state claims
        session new.refreshToken now.timestamp new.accessJti).run, .idle⟩
  | notFound {refreshToken claims now} {new : Replacement} :
      Handled state s ⟨.consuming refreshToken claims now new, .returned (.consumed .notFound)⟩ s
        ⟨.migrating refreshToken now new.accessJti new.refreshTokenId, .idle⟩
  | completing {refreshToken sessionId newRefreshToken write next transaction o} : Handled state s
      ⟨.completing refreshToken sessionId newRefreshToken (.statement write next), transaction⟩
      (withDb s (write o s.sessions.db))
      ⟨.completing refreshToken sessionId newRefreshToken (next o s.sessions.db), .idle⟩
  | rotated {refreshToken sessionId newRefreshToken transaction} {body : AuthBody}
      {tokens} (h : tokens = ⟨some sessionId, body.accessToken, newRefreshToken⟩) :
      Handled state s
        ⟨.completing refreshToken sessionId newRefreshToken (.done (.ok body)), transaction⟩
        (give s (.rotated refreshToken) tokens).1 ⟨.answered (.rotated refreshToken tokens), .idle⟩
  | migrated {refreshToken now accessJti refreshJti transaction u clientId}
      (hu : u ∈ s.sessions.db.refreshTokens)
      (hunused : isUnused state.crates s.sessions.db refreshToken u = true) :
      Handled state s ⟨.migrating refreshToken now accessJti refreshJti, transaction⟩
        (revokeTokens s (isUnused state.crates s.sessions.db refreshToken))
        ⟨.issuing refreshToken
          (migratedSession state clientId now.timestamp accessJti refreshJti).run, .idle⟩
  | notMigrated {t : Task} {p} : Handled state s t (revokeTokens s p) ⟨.answered .rejected, .idle⟩
  | issuing {refreshToken write next transaction o} :
      Handled state s ⟨.issuing refreshToken (.statement write next), transaction⟩
        (withDb s (write o s.sessions.db)) ⟨.issuing refreshToken (next o s.sessions.db), .idle⟩
  | storing {refreshToken issued transaction} {tokens : Tokens}
      (h : tokens = ⟨some issued.2.sessionId, issued.1, issued.2.refreshToken⟩)
      (hfresh : tokens.refreshToken ∉ s.signed) :
      Handled state s ⟨.issuing refreshToken (.done (.ok issued)), transaction⟩
        (addSigned s tokens.refreshToken)
        ⟨.storingMigrated refreshToken tokens, .creating issued.2⟩
  | migratedStored {refreshToken tokens} :
      Handled state s ⟨.storingMigrated refreshToken tokens, .returned .created⟩
        (give s (.migrated refreshToken) tokens).1
        ⟨.answered (.migrated refreshToken tokens), .idle⟩
  | loggedOut {refreshToken sessionId} : Handled state s
      ⟨.loggingOut refreshToken, .returned (.revokedByToken (some sessionId))⟩ s
      ⟨.answered (.loggedOut refreshToken), .idle⟩
  | noSession {refreshToken} :
      Handled state s ⟨.loggingOut refreshToken, .returned (.revokedByToken none)⟩ s
        ⟨.revokingToken refreshToken, .idle⟩
  | tokenRevoked {refreshToken transaction} :
      Handled state s ⟨.revokingToken refreshToken, transaction⟩
        (revokeTokens s fun u => u.tokenHash == tokenHash state.crates refreshToken)
        ⟨.answered (.loggedOut refreshToken), .idle⟩
  | selecting {accessToken claims write next transaction o} :
      Handled state s ⟨.selecting accessToken claims (.statement write next), transaction⟩
        (withDb s (write o s.sessions.db))
        ⟨.selecting accessToken claims (next o s.sessions.db), .idle⟩
  | selected {accessToken claims organizationId transaction} :
      Handled state s ⟨.selecting accessToken claims (.done (.ok organizationId)), transaction⟩ s
        ⟨.reissuing accessToken claims organizationId, .idle⟩
  | reissued {accessToken claims organizationId transaction} {text : String}
      (hsign : SignedBy state s.sessions.db.clock.timestamp text) :
      Handled state s ⟨.reissuing accessToken claims organizationId, transaction⟩ s
        ⟨.answered (.selected accessToken text), .idle⟩
  | revoked {transaction} : Handled state s ⟨.revokingSessions, transaction⟩ s
      ⟨.answered .revoked, .idle⟩

variable {state : AppState} {o : Oracle} {refreshToken sessionId : String} {now : Time}
  {transaction : Refresh.Task} {u : RefreshToken} {login : Subject}

theorem createRefreshToken_eq_ok {tokenId clientId : String} {expiresAt : Int}
    (h : createRefreshToken crates db tokenId clientId text expiresAt = .ok db') :
    ∃ u refreshTokens, u.tokenHash = tokenHash crates text ∧
      u.expiresAt = .ofTimestamp expiresAt ∧ db.refreshTokens.insert u = some refreshTokens ∧
      db' = { db with refreshTokens := refreshTokens } := by
  unfold createRefreshToken at h
  split at h
  · cases h
  rename_i refreshTokens hinsert
  cases h
  exact ⟨_, refreshTokens, rfl, rfl, hinsert, rfl⟩

theorem handled_signLogin (h : signLogin state s o sessionId login = some (s', t')) :
    Handled state s ⟨.signing login, transaction⟩ s' t' := by
  unfold signLogin at h
  dsimp only at h
  split at h
  · rename_i accessToken refreshToken haccess _
    split at h
    · cases h
    rename_i hsigned
    have hfresh : refreshToken ∉ s.signed := by simpa using hsigned
    split at h
    · cases h
      exact .signedSession ⟨⟨_, accessToken, refreshToken⟩, _, _⟩ hfresh
        ⟨_, haccess, le_refl _⟩ rfl rfl rfl
    split_ifs at h
    · cases h
      exact .signedToken ⟨⟨_, accessToken, refreshToken⟩, _, _⟩ hfresh rfl
    · cases h
      exact .issued ⟨_, accessToken, refreshToken⟩ hfresh rfl
  · cases h
    exact .rejected

theorem handled_checkMembership :
    Handled state s ⟨.checkingMembership refreshToken refreshClaims, transaction⟩
      (checkMembership s o refreshToken refreshClaims).1
      (checkMembership s o refreshToken refreshClaims).2 := by
  unfold checkMembership
  split
  · exact .member
  split
  · exact .rejected
  split
  · exact .rejected
  split_ifs
  · exact .rejected
  · exact .member
  · exact .notMember

theorem handled_migrate {accessJti refreshJti : String} :
    Handled state s ⟨.migrating refreshToken now accessJti refreshJti, transaction⟩
      (migrate state s o refreshToken now accessJti refreshJti).1
      (migrate state s o refreshToken now accessJti refreshJti).2 := by
  unfold migrate
  split
  · exact .rejected
  split
  · rename_i db hconsume
    obtain ⟨-, rfl⟩ := Prod.mk.inj hconsume
    exact .notMigrated
  · rename_i id clientId db hconsume
    obtain ⟨hfind, rfl⟩ := Prod.mk.inj hconsume
    obtain ⟨u, hu, -⟩ := Option.map_eq_some_iff.1 hfind
    exact .migrated (List.mem_of_find?_eq_some hu) (List.find?_some hu)

theorem Handled.of_eq {r : Store ι × Task} (h : some r = some (s', t'))
    (hr : Handled state s t r.1 r.2) : Handled state s t s' t' := by
  obtain rfl := Option.some.inj h
  exact hr

theorem handled_of_handle (h : handle state s o sessionId t.transaction t.phase = some (s', t')) :
    Handled state s t s' t' := by
  obtain ⟨phase, transaction⟩ := t
  dsimp only at h
  cases phase with
  | idle | answered => cases h
  | signing => exact handled_signLogin h
  | storingSession =>
    refine .of_eq h ?_
    unfold sessionStored
    split
    · split_ifs
      · exact .sessionStored
      · exact .sessionIssued
    · exact .rejected
  | storingToken =>
    refine .of_eq h ?_
    unfold storeToken
    split_ifs
    · exact .rejected
    split
    · exact .rejected
    rename_i db hcreate
    obtain ⟨u, refreshTokens, hhash, hexp, hinsert, rfl⟩ := createRefreshToken_eq_ok hcreate
    exact .tokenIssued hhash hexp hinsert
  | checkingMembership => exact .of_eq h handled_checkMembership
  | revokingInactive =>
    cases h
    exact .rejected
  | rotating =>
    simp only [handle, signReplacement] at h
    split at h
    · cases h
      exact .rejected
    rename_i text _
    split_ifs at h with hsigned
    cases h
    exact .replaced ⟨o.uuid', text, o.uuid⟩ (by simpa using hsigned)
  | consuming =>
    refine .of_eq h ?_
    unfold consumed
    split
    · exact .consumed
    · split_ifs
      · exact .rejected
      · exact .notFound
    · exact .rejected
  | completing =>
    simp only [handle, runStatement] at h
    split at h
    · cases h
      exact .rotated rfl
    · cases h
      exact .rejected
    · cases h
      exact .completing
  | migrating => exact .of_eq h handled_migrate
  | issuing =>
    simp only [handle, runStatement, storeMigrated] at h
    split at h
    · split_ifs at h with hsigned
      cases h
      exact .storing rfl (by simpa using hsigned)
    · cases h
      exact .rejected
    · cases h
      exact .issuing
  | storingMigrated =>
    refine .of_eq h ?_
    unfold migratedStored
    split
    · exact .migratedStored
    · exact .rejected
  | loggingOut =>
    refine .of_eq h ?_
    unfold loggedOut
    split
    · exact .loggedOut
    · exact .noSession
    · exact .rejected
  | revokingToken =>
    refine .of_eq h ?_
    unfold revokeToken
    split_ifs
    · exact .rejected
    · exact .tokenRevoked
  | selecting =>
    simp only [handle, runStatement] at h
    split at h
    · cases h
      exact .selected
    · cases h
      exact .rejected
    · cases h
      exact .selecting
  | reissuing =>
    simp only [handle, reissue] at h
    split at h
    · cases h
      exact .rejected
    rename_i hsign
    cases h
    exact .reissued ⟨_, hsign, le_refl _⟩
  | revokingSessions =>
    cases h
    exact .revoked

/-- A handler that accepts a token accepts one that has been returned. -/
theorem handled_decoded {accept : Claims → Store ι × Task}
    (haccept : ∀ refreshClaims, refreshToken ∈ s.issued →
      Handled state s t (accept refreshClaims).1 (accept refreshClaims).2)
    (h : decoded state s refreshToken accept = some (s', t')) : Handled state s t s' t' := by
  unfold decoded at h
  split at h
  · cases h
    exact .rejected
  rename_i refreshClaims _
  split_ifs at h with htype hissued
  · cases h
    exact .rejected
  · obtain ⟨rfl, rfl⟩ := Prod.mk.inj (Option.some.inj h)
    exact haccept refreshClaims (by simpa using hissued)

theorem handled_of_call {c : Call} (h : call state s c = some (s', t')) :
    Handled state s t s' t' := by
  cases c with
  | authToken | adminToken =>
    cases h
    exact .login
  | authRefresh => exact handled_decoded (fun _ => .refresh) h
  | authLogoutRefreshToken => exact handled_decoded (fun _ => .logout) h
  | authSelectOrganizationContext =>
    simp only [call] at h
    split_ifs at h
    cases h
    exact .select
  | revokeSessions =>
    simp only [call] at h
    split_ifs at h with hrevocation
    cases h
    exact .revoke hrevocation
  | revokeClientRefreshTokens =>
    cases h
    exact .revokeClient

/-! ### What the steps keep -/

/-- A statement that keeps tokens, in the middle of a handler. -/
theorem quiet_statement {phase' : Phase} (hshared : Shared crates s)
    (hkeeps : KeepsTokens s.sessions.db db) (hknows : Knows crates s t)
    (hpresented : phase'.presented = t.phase.presented)
    (hpending : phase'.pending = t.phase.pending)
    (hwon : Task.won ⟨phase', .idle⟩ = t.won) (hmigrates : phase'.migrates = t.phase.migrates)
    (hanswered : ∀ outcome, phase' ≠ .answered outcome)
    (hfacts : Facts crates db ⟨phase', .idle⟩) :
    Quiet crates s (withDb s db) t ⟨phase', .idle⟩ := by
  have hknows' : Knows crates (withDb s db) ⟨phase', .idle⟩ := by
    refine ⟨fun text h => hknows.presented text (hpresented ▸ h), fun text h => ?_, hfacts⟩
    obtain ⟨hsigned, hissued, hlegacy⟩ := hknows.pending text (hpending ▸ h)
    exact ⟨hsigned, hissued, fun u hu => hlegacy u ⟨hkeeps.legacy ▸ hu.1, hu.2⟩⟩
  refine ⟨⟨List.Subset.refl _, List.Subset.refl _, hshared.issued, fun _ => .inl,
    fun text h => .inl (hpending ▸ h), hknows', fun text h => .inl (hwon ▸ h),
    fun text h => .inl (hmigrates ▸ h), fun _ _ h => absurd h (hanswered _),
    fun _ h => absurd h (not_exchanged hanswered), fun text h => absurd h (hanswered _)⟩,
    rfl, hkeeps.sessions, hkeeps.tokens, .of_eq hkeeps.tokens hkeeps.legacy hkeeps.clock, ?_,
    fun _ => trivial⟩
  intro row hrow u hu
  exact hshared.matched row (hkeeps.tokens ▸ hrow) u (hkeeps.legacy ▸ hu)

theorem Spent.keeps (hkeeps : KeepsTokens db db') (h : Spent crates db text) :
    Spent crates db' text := by
  unfold Spent IsSessionRow IsLegacyRow
  rw [hkeeps.tokens, hkeeps.legacy]
  exact h

/-- An update of `refresh_tokens` that revokes rows keeps the sessions. -/
theorem quiet_revoke {p : RefreshToken → Bool} (hshared : Shared crates s)
    (hmoved : Moved crates s (revokeTokens s p) t t') (hidle : t'.transaction = .idle) :
    Quiet crates s (revokeTokens s p) t t' := by
  refine ⟨hmoved, rfl, rfl, rfl, .revoke, fun row hrow u' hu' hhash => ?_, fun i => ?_⟩
  · obtain ⟨u, hu, rfl⟩ := mem_update.1 hu'
    split_ifs at hhash ⊢ <;> exact hshared.matched row hrow u hu hhash
  · rw [hidle]
    trivial

theorem revoking_start {c : Refresh.Call} (h : isRevocation c = true) :
    Revoking (Refresh.start now c) := by
  cases c with
  | createRefreshSession | consumeAndRotateRefreshSession => cases h
  | _ => trivial

/-- The token of a login of `admin_token` expires with its session. -/
theorem quiet_tokenIssued {tokens : SignedTokens} {refreshTokens : Table RefreshToken}
    (hshared : Shared crates s) (hknows : Knows crates s ⟨.storingToken login tokens, transaction⟩)
    (hhash : u.tokenHash = tokenHash crates tokens.refreshToken)
    (hexp : u.expiresAt = .ofTimestamp tokens.exp)
    (hinsert : s.sessions.db.refreshTokens.insert u = some refreshTokens) :
    Quiet crates s (give (withDb s { s.sessions.db with refreshTokens := refreshTokens }) .issued
      tokens.toTokens).1 ⟨.storingToken login tokens, transaction⟩
      ⟨.answered (.issued tokens.toTokens), .idle⟩ := by
  have hpends := hknows.pending tokens.refreshToken rfl
  have hterms : Terms crates s.sessions.db tokens := hknows.facts.1
  have hmem : ∀ v, v ∈ refreshTokens ↔ v = u ∨ v ∈ s.sessions.db.refreshTokens :=
    fun v => mem_of_insert_eq_some hinsert
  refine ⟨moved_give hshared (List.Subset.refl _) rfl hpends.signed (.inl rfl) nofun nofun nofun,
    rfl, rfl, rfl, ⟨fun t ht => ⟨t, ht, .refl t⟩, fun t ht => .inl ⟨t, ht, .refl t⟩,
      fun v hv => ⟨v, (hmem v).2 (.inr hv), .refl v⟩, fun v hv => ?_, le_refl _⟩, ?_,
    fun _ => trivial⟩
  · obtain rfl | hv := (hmem v).1 hv
    · exact .inr ⟨tokens.refreshToken, rfl, hhash⟩
    · exact .inl ⟨v, hv, .refl v⟩
  · intro t ht v hv heq
    obtain rfl | hv := (hmem v).1 hv
    · exact (hterms t ⟨ht, heq.trans hhash⟩).trans hexp.symm
    · exact hshared.matched t ht v hv heq

/-- Only a token without a session is consumed in `refresh_tokens`, since a session of it would have
expired at the same time. -/
theorem quiet_migrated {accessJti refreshJti clientId : String} (hshared : Shared state.crates s)
    (hknows : Knows state.crates s ⟨.migrating refreshToken now accessJti refreshJti, transaction⟩)
    (hu : u ∈ s.sessions.db.refreshTokens)
    (hunused : isUnused state.crates s.sessions.db refreshToken u = true) :
    Quiet state.crates s (revokeTokens s (isUnused state.crates s.sessions.db refreshToken))
      ⟨.migrating refreshToken now accessJti refreshJti, transaction⟩
      ⟨.issuing refreshToken
        (migratedSession state clientId now.timestamp accessJti refreshJti).run, .idle⟩ := by
  have hexpired : Expired state.crates s.sessions.db refreshToken := hknows.facts.1
  have hunused' := hunused
  simp only [isUnused, Bool.and_eq_true, beq_iff_eq, decide_eq_true_eq, Bool.not_eq_true']
    at hunused'
  obtain ⟨⟨hhash, hunexpired⟩, hunrevoked⟩ := hunused'
  have hnone : ∀ row, ¬ IsSessionRow state.crates s.sessions.db refreshToken row := by
    intro row hrow
    have hexpires := hshared.matched row hrow.1 u hu (hrow.2.trans hhash.symm)
    exact absurd (hexpired row hrow) (not_le.2 (hexpires ▸ hunexpired))
  have hunique : ∀ v, IsLegacyRow state.crates s.sessions.db refreshToken v → v = u :=
    fun v hv => eq_of_key hv.1 hu (hv.2.trans hhash.symm)
  have hnotRevoked :
      ¬ ∀ v, IsLegacyRow state.crates s.sessions.db refreshToken v → v.revoked = true := by
    intro h
    rw [h u ⟨hu, hhash⟩] at hunrevoked
    cases hunrevoked
  refine quiet_revoke hshared ⟨List.Subset.refl _, List.Subset.refl _, hshared.issued,
    fun _ => .inl, nofun, ⟨hknows.presented, nofun, ?_⟩, ?_, ?_, nofun, nofun, nofun⟩ rfl
  · refine ⟨.inr ⟨hnone, fun v' hv' => ?_⟩, rfl, guarantees_migratedSession state _ _ _ _⟩
    obtain ⟨hv', hhash'⟩ := hv'
    obtain ⟨v, hv, rfl⟩ := mem_update.1 hv'
    split_ifs at hhash' ⊢ with hlive
    · rfl
    · exact absurd (hunique v ⟨hv, hhash'⟩ ▸ hunused) hlive
  · rintro _ ⟨⟩
    refine .inr ?_
    rintro (⟨row, hrow, -⟩ | ⟨-, hrevoked⟩)
    · exact hnone row hrow
    · exact hnotRevoked hrevoked
  · rintro _ ⟨⟩
    refine .inr ?_
    rintro (⟨row, hrow⟩ | ⟨v, hv, hrevoked⟩ | ⟨-, hrevoked⟩)
    · exact hnone row hrow
    · rw [hunique v hv, hunrevoked] at hrevoked
      cases hrevoked
    · exact hnotRevoked hrevoked

theorem barred_revokeTokens (h : refreshToken ∈ s.issued) :
    Barred crates (revokeTokens s fun u => u.tokenHash == tokenHash crates refreshToken).sessions.db
      refreshToken s.issued := by
  refine .inr (.inr ⟨h, fun v' hv' => ?_⟩)
  obtain ⟨hv', hhash'⟩ := hv'
  obtain ⟨v, hv, rfl⟩ := mem_update.1 hv'
  split_ifs at hhash' ⊢ with hlive
  · rfl
  · exact absurd (beq_iff_eq.2 hhash') hlive

theorem quiet_of_handled (hinj : Injective (tokenHash state.crates))
    (hshared : Shared state.crates s) (hknows : Knows state.crates s t)
    (h : Handled state s t s' t') : Quiet state.crates s s' t t' := by
  have hanswer : ∀ outcome, (Phase.answered outcome).exchanged = none →
      (∀ text, outcome = .loggedOut text → Barred state.crates s.sessions.db text s.issued) →
      Quiet state.crates s s t ⟨.answered outcome, .idle⟩ := by
    intro outcome hexchanged hloggedOut
    have hmoved := moved_answer (t := t) hshared hexchanged fun text h =>
      hloggedOut text (Phase.answered.inj h)
    exact .of_same hshared rfl hmoved fun _ => trivial
  have hpresents : ∀ text ∈ s.issued, ∀ text' ∈ some text, text' ∈ s.issued := by
    rintro text htext _ ⟨⟩
    exact htext
  have hpends : ∀ text ∉ s.signed, ∀ text' ∈ some text,
      Pends state.crates (addSigned s text) text' := by
    rintro text htext _ ⟨⟩
    exact pends_of_fresh hinj hshared htext
  cases h with
  | rejected | reissued | revoked => exact hanswer _ rfl nofun
  | login | selected => exact .stay hshared ⟨nofun, nofun, rfl⟩
  | refresh hissued | logout hissued =>
    exact .stay hshared ⟨hpresents _ hissued, nofun, rfl⟩
  | select =>
    exact .stay hshared ⟨nofun, nofun, rfl, keepsTokens_selectContext _ _⟩
  | revoke hrevocation =>
    exact .stay hshared ⟨nofun, nofun, revoking_start hrevocation⟩ nofun nofun nofun nofun
      fun _ => Refresh.current_start _
  | revokeClient | notMigrated => exact quiet_revoke hshared (moved_answer hshared rfl nofun) rfl
  | signedSession tokens hfresh hsign hid htext hexp =>
    have hrows := not_isSessionRow_of_fresh hinj hshared hfresh
    exact .sign hshared hfresh rfl ⟨nofun, hpends _ hfresh, fun row hrow => absurd hrow (hrows row),
      .inl ⟨_, rfl, htext, hexp⟩⟩
  | signedToken tokens hfresh =>
    have hrows := not_isSessionRow_of_fresh hinj hshared hfresh
    exact .sign hshared hfresh rfl ⟨nofun, hpends _ hfresh, fun row hrow => absurd hrow (hrows row),
      rfl⟩
  | issued tokens hfresh =>
    exact .of_same hshared rfl (moved_give hshared (List.subset_cons_self _ _) rfl
      List.mem_cons_self (.inr hfresh) nofun nofun nofun) fun _ => trivial
  | sessionStored =>
    exact .stay hshared ⟨nofun, hknows.pending, hknows.facts.1, rfl⟩ fun _ h => h
  | sessionIssued =>
    exact .of_same hshared rfl (moved_give hshared (List.Subset.refl _) rfl
      (hknows.pending _ rfl).signed (.inl rfl) nofun nofun nofun) fun _ => trivial
  | tokenIssued hhash hexp hinsert => exact quiet_tokenIssued hshared hknows hhash hexp hinsert
  | member | noSession =>
    exact .stay hshared ⟨hknows.presented, nofun, rfl⟩
  | notMember => exact .stay hshared ⟨nofun, nofun, trivial⟩
  | replaced new hfresh =>
    exact .sign hshared hfresh rfl ⟨hknows.presented, hpends _ hfresh, rfl, rfl, le_refl _⟩
  | consumed =>
    exact .stay hshared ⟨hknows.presented, hknows.pending, hknows.facts, rfl,
      guarantees_refreshedBody state _ _ _ _ _⟩ (fun _ h => h) fun _ h => h
  | notFound =>
    exact .stay hshared ⟨hknows.presented, nofun, hknows.facts, rfl⟩
  | completing | issuing =>
    obtain ⟨hspent, -, hrest⟩ := hknows.facts
    obtain ⟨hkeeps, hnext⟩ := Program.guarantees_statement.1 hrest _ s.sessions.db
    exact quiet_statement hshared hkeeps hknows rfl rfl rfl rfl nofun
      ⟨hspent.keeps hkeeps, rfl, hnext⟩
  | rotated htokens =>
    obtain rfl := htokens
    refine .of_same hshared rfl (moved_give hshared (List.Subset.refl _) rfl
      (hknows.pending _ rfl).signed (.inl rfl) nofun ?_ nofun) fun _ => trivial
    rintro _ ⟨⟩
    rfl
  | migrated hu hunused => exact quiet_migrated hshared hknows hu hunused
  | storing htokens hfresh =>
    obtain rfl := htokens
    exact .sign hshared hfresh rfl ⟨hknows.presented, hpends _ hfresh, hknows.facts.1, _,
      .inl ⟨_, rfl, rfl, rfl⟩⟩ (fun _ h => h) fun _ h => h
  | migratedStored =>
    refine .of_same hshared rfl (moved_give hshared (List.Subset.refl _) rfl
      (hknows.pending _ rfl).signed (.inl rfl) ?_ ?_ nofun) fun _ => trivial
    · rintro _ _ ⟨⟩
      rfl
    · rintro _ ⟨⟩
      rfl
  | loggedOut =>
    refine hanswer _ rfl ?_
    rintro _ ⟨⟩
    exact .inl hknows.facts
  | tokenRevoked =>
    refine quiet_revoke hshared (moved_answer hshared rfl ?_) rfl
    rintro _ ⟨⟩
    exact barred_revokeTokens (hknows.presented _ rfl)
  | selecting =>
    obtain ⟨-, hselect⟩ := hknows.facts
    obtain ⟨hkeeps, hnext⟩ := Program.guarantees_statement.1 hselect _ s.sessions.db
    exact quiet_statement hshared hkeeps hknows rfl rfl rfl rfl nofun ⟨rfl, hnext⟩

theorem stepFacts_of_next [DecidableEq ι] {i : ι} {a : Input}
    (hinj : Injective (tokenHash state.crates)) (hshared : Shared state.crates s)
    (hknows : Knows state.crates s t) (hcurrent : Current state.crates i s.sessions t.transaction)
    (h : next state i a s t = some (s', t')) : StepFacts state.crates i s s' t t' := by
  have htransact : ∀ a, (∀ c, a ≠ .call c) → transact state s i a t = some (s', t') →
      StepFacts state.crates i s s' t t' := by
    intro a ha h
    obtain ⟨⟨r', transaction'⟩, hnext, heq⟩ := Option.map_eq_some_iff.1 h
    cases heq
    exact stepFacts_transact hshared hknows hcurrent (isReady_of_next ha hnext) hnext hinj
  cases a with
  | call =>
    simp only [next] at h
    split_ifs at h
    exact (quiet_of_handled hinj hshared hknows (handled_of_call h)).stepFacts hshared
  | proceed => exact htransact .proceed nofun h
  | abort error => exact htransact (.fail error) nofun h
  | handle =>
    simp only [next] at h
    split_ifs at h
    exact (quiet_of_handled hinj hshared hknows (handled_of_handle h)).stepFacts hshared

end Keylo.Exchange
