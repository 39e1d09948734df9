import Keylo.Refresh.Chains

/-!
# The rows of a refresh token

A refresh token has rows in `refresh_session_tokens`, in `refresh_tokens`, or in both. Rows stay,
with their terms, and get consumed or revoked; what a handler has found out about the rows of a
token that nobody stores any more stays true.

## Main definitions

* `Spent` : the token cannot be exchanged any more.
* `Barred` : the token cannot be exchanged without a session.
* `RowsChange` : what a step may do to rows.

## Main results

* `Spent.change`, `Expired.change`, `Barred.change` : rows that change.
* `Consuming.next` : what the result of a transaction says about the token it consumes.
* `not_spent_of_consumed` : a token that is consumed is not spent.
-/

namespace Keylo.Exchange

open Relational Transition Table
open Refresh (TokenFollows Moves Chains Current)

/-! ### Rows of a token -/

/-- A later state of a token without a session. -/
structure LegacyFollows (u u' : RefreshToken) : Prop where
  tokenHash : u'.tokenHash = u.tokenHash
  expiresAt : u'.expiresAt = u.expiresAt
  revoked : u.revoked = true → u'.revoked = true

theorem LegacyFollows.refl (u : RefreshToken) : LegacyFollows u u := ⟨rfl, rfl, fun h => h⟩

variable {ι : Type*} (crates : Crates) (db : Db) (text : String)

/-- The rows of the token in `refresh_session_tokens`. -/
def IsSessionRow (t : RefreshSessionToken) : Prop :=
  t ∈ db.refreshSessionTokens ∧ t.tokenHash = tokenHash crates text

/-- The rows of the token in `refresh_tokens`. -/
def IsLegacyRow (u : RefreshToken) : Prop :=
  u ∈ db.refreshTokens ∧ u.tokenHash = tokenHash crates text

/-- The token cannot be exchanged any more. -/
def Spent : Prop :=
  (∃ t, IsSessionRow crates db text t ∧ t.consumedAt.isSome = true) ∨
    (∀ t, ¬ IsSessionRow crates db text t) ∧ ∀ u, IsLegacyRow crates db text u → u.revoked = true

/-- All sessions of the token have expired. -/
def Expired : Prop := ∀ t, IsSessionRow crates db text t → t.expiresAt ≤ db.clock

/-- The token, or a session of it, has been revoked. -/
def Withdrawn : Prop :=
  (∃ t, IsSessionRow crates db text t ∧ (t.revokedAt.isSome = true ∨
    ∃ r ∈ db.refreshSessions, r.id = t.sessionId ∧ r.revokedAt.isSome = true)) ∨
    ∃ u, IsLegacyRow crates db text u ∧ u.revoked = true

/-- The token cannot be exchanged without a session. -/
def Barred (issued : List String) : Prop :=
  (∃ t, IsSessionRow crates db text t) ∨ (∃ u, IsLegacyRow crates db text u ∧ u.revoked = true) ∨
    text ∈ issued ∧ ∀ u, IsLegacyRow crates db text u → u.revoked = true

variable {crates db text}

theorem barred_of_withdrawn {issued : List String} (h : Withdrawn crates db text) :
    Barred crates db text issued := by
  obtain ⟨t, ht, -⟩ | h := h
  · exact .inl ⟨t, ht⟩
  · exact .inr (.inl h)

/-! ### Changes of rows -/

/-- The rows of tokens and sessions stay, with their terms; all new rows are of a token with `new`.
Time does not go back. -/
structure RowsChange (crates : Crates) (new : String → Prop) (db db' : Db) : Prop where
  tokens : ∀ t ∈ db.refreshSessionTokens, ∃ t' ∈ db'.refreshSessionTokens, TokenFollows t t'
  added : ∀ t' ∈ db'.refreshSessionTokens, (∃ t ∈ db.refreshSessionTokens, TokenFollows t t') ∨
    ∃ text, new text ∧ t'.tokenHash = tokenHash crates text
  legacy : ∀ u ∈ db.refreshTokens, ∃ u' ∈ db'.refreshTokens, LegacyFollows u u'
  stored : ∀ u' ∈ db'.refreshTokens, (∃ u ∈ db.refreshTokens, LegacyFollows u u') ∨
    ∃ text, new text ∧ u'.tokenHash = tokenHash crates text
  clock : db.clock ≤ db'.clock

variable {new : String → Prop} {db' : Db}

theorem RowsChange.of_eq (htokens : db'.refreshSessionTokens = db.refreshSessionTokens)
    (hlegacy : db'.refreshTokens = db.refreshTokens) (hclock : db.clock ≤ db'.clock) :
    RowsChange crates new db db' where
  tokens t ht := ⟨t, htokens ▸ ht, .refl t⟩
  added t ht := .inl ⟨t, htokens ▸ ht, .refl t⟩
  legacy u hu := ⟨u, hlegacy ▸ hu, .refl u⟩
  stored u hu := .inl ⟨u, hlegacy ▸ hu, .refl u⟩
  clock := hclock

theorem RowsChange.mono {new' : String → Prop} (h : RowsChange crates new db db')
    (hnew : ∀ text, new text → new' text) : RowsChange crates new' db db' where
  tokens := h.tokens
  added t' ht' := (h.added t' ht').imp_right fun ⟨text, htext, hhash⟩ =>
    ⟨text, hnew text htext, hhash⟩
  legacy := h.legacy
  stored u' hu' := (h.stored u' hu').imp_right fun ⟨text, htext, hhash⟩ =>
    ⟨text, hnew text htext, hhash⟩
  clock := h.clock

theorem RowsChange.revoke {p : RefreshToken → Bool} :
    RowsChange crates new db
      { db with refreshTokens := db.refreshTokens.update p revokeLegacyToken } where
  tokens t ht := ⟨t, ht, .refl t⟩
  added t ht := .inl ⟨t, ht, .refl t⟩
  legacy u hu := by
    refine ⟨_, mem_update.2 ⟨u, hu, rfl⟩, ?_⟩
    split_ifs
    · exact ⟨rfl, rfl, fun _ => rfl⟩
    · exact .refl u
  stored u' hu' := by
    obtain ⟨u, hu, rfl⟩ := mem_update.1 hu'
    refine .inl ⟨u, hu, ?_⟩
    split_ifs
    · exact ⟨rfl, rfl, fun _ => rfl⟩
    · exact .refl u
  clock := le_refl _

section Stable

variable (hinj : Function.Injective (tokenHash crates)) (h : RowsChange crates new db db')

include h in
theorem IsSessionRow.forward {t : RefreshSessionToken} (ht : IsSessionRow crates db text t) :
    ∃ t', IsSessionRow crates db' text t' ∧ TokenFollows t t' := by
  obtain ⟨t', ht', hfollows⟩ := h.tokens t ht.1
  exact ⟨t', ⟨ht', hfollows.tokenHash.trans ht.2⟩, hfollows⟩

include h in
theorem IsLegacyRow.forward {u : RefreshToken} (hu : IsLegacyRow crates db text u) :
    ∃ u', IsLegacyRow crates db' text u' ∧ LegacyFollows u u' := by
  obtain ⟨u', hu', hfollows⟩ := h.legacy u hu.1
  exact ⟨u', ⟨hu', hfollows.tokenHash.trans hu.2⟩, hfollows⟩

include hinj h

/-- A token that is not new gets no new rows. -/
theorem IsSessionRow.backward (htext : ¬ new text) {t' : RefreshSessionToken}
    (ht' : IsSessionRow crates db' text t') :
    ∃ t, IsSessionRow crates db text t ∧ TokenFollows t t' := by
  obtain ⟨t, ht, hfollows⟩ | ⟨text', hnew, hhash⟩ := h.added t' ht'.1
  · exact ⟨t, ⟨ht, hfollows.tokenHash.symm.trans ht'.2⟩, hfollows⟩
  · rw [hinj (ht'.2.symm.trans hhash)] at htext
    exact absurd hnew htext

theorem IsLegacyRow.backward (htext : ¬ new text) {u' : RefreshToken}
    (hu' : IsLegacyRow crates db' text u') :
    ∃ u, IsLegacyRow crates db text u ∧ LegacyFollows u u' := by
  obtain ⟨u, hu, hfollows⟩ | ⟨text', hnew, hhash⟩ := h.stored u' hu'.1
  · exact ⟨u, ⟨hu, hfollows.tokenHash.symm.trans hu'.2⟩, hfollows⟩
  · rw [hinj (hu'.2.symm.trans hhash)] at htext
    exact absurd hnew htext

theorem Spent.change (htext : ¬ new text) (hspent : Spent crates db text) :
    Spent crates db' text := by
  obtain ⟨t, ht, hconsumed⟩ | ⟨hnone, hrevoked⟩ := hspent
  · obtain ⟨t', ht', hfollows⟩ := ht.forward h
    exact .inl ⟨t', ht', hfollows.consumedAt hconsumed⟩
  refine .inr ⟨fun t' ht' => ?_, fun u' hu' => ?_⟩
  · obtain ⟨t, ht, -⟩ := ht'.backward hinj h htext
    exact hnone t ht
  · obtain ⟨u, hu, hfollows⟩ := hu'.backward hinj h htext
    exact hfollows.revoked (hrevoked u hu)

theorem Expired.change (htext : ¬ new text) (hexpired : Expired crates db text) :
    Expired crates db' text := by
  intro t' ht'
  obtain ⟨t, ht, hfollows⟩ := ht'.backward hinj h htext
  rw [hfollows.expiresAt]
  exact le_trans (hexpired t ht) h.clock

theorem Barred.change {issued issued' : List String} (hissued : issued ⊆ issued')
    (htext : text ∈ issued → ¬ new text) (hbarred : Barred crates db text issued) :
    Barred crates db' text issued' := by
  obtain ⟨t, ht⟩ | ⟨u, hu, hrevoked⟩ | ⟨hmem, hrevoked⟩ := hbarred
  · obtain ⟨t', ht', -⟩ := ht.forward h
    exact .inl ⟨t', ht'⟩
  · obtain ⟨u', hu', hfollows⟩ := hu.forward h
    exact .inr (.inl ⟨u', hu', hfollows.revoked hrevoked⟩)
  refine .inr (.inr ⟨hissued hmem, fun u' hu' => ?_⟩)
  obtain ⟨u, hu, hfollows⟩ := hu'.backward hinj h (htext hmem)
  exact hfollows.revoked (hrevoked u hu)

end Stable

/-! ### Transactions -/

/-- The token that a transaction may store. -/
def newToken : Refresh.Task → Option String
  | .creating params => some params.refreshToken
  | .rotating _ _ new _ _ => some new.refreshToken
  | _ => none

variable [DecidableEq ι] {i : ι} {a : Refresh.Input} {r r' : Refresh.Store ι} {t t' : Refresh.Task}

omit [DecidableEq ι] in
theorem exists_newToken {row : RefreshSessionToken} (h : t.Adds crates row) :
    ∃ text, newToken t = some text ∧ row.tokenHash = tokenHash crates text := by
  cases t with
  | creating => exact ⟨_, rfl, h.1⟩
  | rotating => exact ⟨_, rfl, h⟩
  | _ => exact h.elim

theorem effect_eq {free : Refresh.Row → Prop} {added : RefreshSessionToken → Prop}
    (h : Refresh.Effect crates free added db db') :
    db'.refreshTokens = db.refreshTokens ∧ db'.clock = db.clock := by
  cases h with
  | same | revoked => exact ⟨rfl, rfl⟩
  | created h =>
    obtain ⟨-, sessions, tokens, -, -, rfl⟩ := createRefreshSession_eq_ok h
    exact ⟨rfl, rfl⟩
  | rotated h =>
    obtain ⟨now, result, hrotate⟩ := h.rotated
    obtain ⟨-, tokens, -, rfl⟩ := rotate_eq_ok hrotate
    exact ⟨rfl, rfl⟩

theorem rowsChange_of_next (hcurrent : Current crates i r t)
    (h : Refresh.next crates i a r t = some (r', t')) :
    RowsChange crates (fun text => newToken t = some text) r.db r'.db := by
  have heffect := (Refresh.stepFacts_of_next hcurrent h).effect
  obtain ⟨hlegacy, hclock⟩ := effect_eq heffect
  refine ⟨fun t ht => ?_, fun t' ht' => ?_, ?_, ?_, hclock.ge⟩
  · obtain ⟨t', ht', hfollows, -⟩ := heffect.moves.tokens t ht
    exact ⟨t', ht', hfollows⟩
  · obtain hold | hadded := heffect.backward t' ht'
    · exact .inl hold
    · exact .inr (exists_newToken hadded)
  · rw [hlegacy]
    exact fun u hu => ⟨u, hu, .refl u⟩
  · rw [hlegacy]
    exact fun u hu => .inl ⟨u, hu, .refl u⟩

/-- A transaction that stores a session with the given token. -/
def Storing (text : String) (exp : Int) (t : Refresh.Task) : Prop :=
  (∃ params : CreateRefreshSessionParams,
    t = .creating params ∧ params.refreshToken = text ∧ params.expiresAt = exp) ∨
    ∃ result, t = .returned result

/-- A transaction that revokes sessions. -/
def Revoking : Refresh.Task → Prop
  | .revoking .. | .findingToken .. | .revokingToken .. | .selecting .. | .revokingSelected ..
  | .returned _ => True
  | _ => False

/-- A transaction that revokes the session of a token; if it has found one, the token has a row. -/
def RevokingToken (crates : Crates) (db : Db) (text : String) : Refresh.Task → Prop
  | .findingToken _ text' _ | .revokingToken _ text' _ _ => text' = text
  | .returned (.revokedByToken (some _)) => ∃ t, IsSessionRow crates db text t
  | .returned _ => True
  | _ => False

/-- A transaction that consumes a token, and what its result says about the token. -/
def Consuming (crates : Crates) (db : Db) (text : String) (new : Replacement) :
    Refresh.Task → Prop
  | .readingCandidate now text' _ new' | .checkingContext now text' new' _ _ _
  | .lockingToken now text' new' | .lockingSession now text' new' | .rotating now text' new' _ _ =>
    text' = text ∧ new' = new ∧ now ≤ db.clock
  | .revokingInactive .. => True
  | .returned (.consumed .notFound) => Expired crates db text
  | .returned (.consumed (.consumed _)) => Spent crates db text
  | .returned _ => True
  | _ => False

theorem isReady_of_next (ha : ∀ c, a ≠ .call c)
    (h : Refresh.next crates i a r t = some (r', t')) : t.isReady = false := by
  cases a with
  | call c => exact absurd rfl (ha c)
  | proceed => cases t <;> first | rfl | cases h
  | fail =>
    simp only [Refresh.next] at h
    split_ifs at h with hready
    exact Bool.not_eq_true _ ▸ hready

theorem not_isSessionRow_of_none (hchains : Chains db)
    (h : refreshSessionOfToken crates db text = none) (row : RefreshSessionToken) :
    ¬ IsSessionRow crates db text row := by
  rintro ⟨hrow, hhash⟩
  obtain ⟨session, hsession, hid, -⟩ := hchains.session row hrow
  unfold refreshSessionOfToken at h
  rw [lookup_eq_some_iff.2 ⟨hrow, hhash⟩] at h
  dsimp only at h
  rw [lookup_eq_some_iff.2 ⟨hsession, hid⟩] at h
  cases h

theorem expired_of_none (hchains : Chains db)
    (h : refreshSessionOfToken crates db text = none) : Expired crates db text :=
  fun row hrow => absurd hrow (not_isSessionRow_of_none hchains h row)

variable {new : Replacement}

/-- The token or its session has expired, and so has the other. -/
theorem expired_of_notFound {now : Time} {token : RefreshSessionToken} {session : RefreshSession}
    (hchains : Chains db) (hnow : now ≤ db.clock) (htoken : token ∈ db.refreshSessionTokens)
    (hhash : token.tokenHash = tokenHash crates text) (hsession : session ∈ db.refreshSessions)
    (hid : token.sessionId = session.id)
    (h : consumeLocked crates db now text token session new = .ok (.notFound, db')) :
    Expired crates db' text := by
  have hexpires := (hchains.of_session htoken hsession hid).1
  unfold consumeLocked at h
  split_ifs at h with hexpired
  · cases h
    rintro row ⟨hrow, hhash'⟩
    obtain rfl : row = token := eq_of_key hrow htoken (hhash'.trans hhash.symm)
    simp only [hexpires, Bool.or_self, Bool.not_eq_true', decide_eq_false_iff_not, not_lt]
      at hexpired
    exact le_trans hexpired hnow
  · cases h
  · cases (rotate_eq_ok h).1

section Next

variable (hready : t.isReady = false)
  (h : Refresh.next crates i a r t = some (r', t'))

include hready h

/-- A transaction that has begun makes a step. -/
theorem proceeds_of_not_ready : Refresh.Proceeds crates i r t r' t' := by
  obtain ⟨hready', -⟩ | hproceeds := Refresh.proceeds_of_next h
  · rw [hready] at hready'
    cases hready'
  · exact hproceeds

theorem Storing.next {exp : Int} (ht : Storing text exp t) :
    Storing text exp t' := by
  obtain ⟨params, rfl, -⟩ | ⟨result, rfl⟩ := ht
  · cases proceeds_of_not_ready hready h with
    | failed | created => exact .inr ⟨_, rfl⟩
    | notFound ht => cases ht
  · cases hready

theorem Revoking.next (ht : Revoking t) : Revoking t' := by
  cases proceeds_of_not_ready hready h with
  | candidate | organization | active | inactive | lockedToken | lockedSession => exact ht.elim
  | _ => trivial

variable (hcurrent : Current crates i r t)

include hcurrent

theorem RevokingToken.next (ht : RevokingToken crates r.db text t) :
    RevokingToken crates r'.db text t' := by
  have hrows := rowsChange_of_next hcurrent h
  cases proceeds_of_not_ready hready h with
  | tokenLocked => exact ht
  | tokenRevoked =>
    obtain rfl := ht
    obtain ⟨-, row, hrow, hhash, -⟩ := hcurrent
    obtain ⟨row', hrow', -⟩ := IsSessionRow.forward hrows ⟨hrow, hhash⟩
    exact ⟨row', hrow'⟩
  | failed | notFound | tokenNotFound => trivial
  | _ => exact ht.elim

theorem Consuming.next (hchains : Chains r.db) (ht : Consuming crates r.db text new t) :
    Consuming crates r'.db text new t' := by
  have hsound := @Refresh.sound_of_next ι _ crates
  cases proceeds_of_not_ready hready h with
  | notFound htext hnone =>
    cases t with
    | readingCandidate | lockingToken | lockingSession =>
      obtain ⟨rfl, -⟩ := ht
      cases htext
      exact expired_of_none hchains hnone
    | _ => cases htext
  | candidate | organization | active | lockedToken | lockedSession => exact ht
  | failed | mismatch | inactive | revokedInactive => trivial
  | consumed hconsume =>
    obtain ⟨rfl, rfl, hnow⟩ := ht
    have hcurrent' := hcurrent
    obtain ⟨-, -, htoken, hhash, hsession, hid⟩ := hcurrent'
    rename_i result db
    cases result with
    | notFound => exact expired_of_notFound hchains hnow htoken hhash hsession hid hconsume
    | consumed =>
      obtain ⟨⟨row, hrow, hhash', hconsumed⟩, -⟩ := hsound hcurrent h rfl
      exact .inl ⟨row, ⟨hrow, hhash'⟩, hconsumed⟩
    | _ => trivial
  | _ => exact ht.elim

end Next

/-- A token that a transaction consumes is not spent. -/
theorem not_spent_of_consumed {session : ConsumedRefreshSession}
    (hinj : Function.Injective (tokenHash crates)) (hcurrent : Current crates i r t)
    (ht : Consuming crates r.db text new t) (hready : t.isReady = false)
    (hnew : newToken t ≠ some text)
    (h : Refresh.next crates i a r t = some (r', .returned (.consumed (.consumed session)))) :
    ¬ Spent crates r.db text := by
  have hrows := rowsChange_of_next hcurrent h
  have hanswer : Refresh.answer t (.returned (.consumed (.consumed session))) =
      some (.consumed text session.sessionId) := by
    cases t with
    | readingCandidate | checkingContext | lockingToken | lockingSession | rotating =>
      obtain ⟨rfl, -⟩ := ht
      rfl
    | revokingInactive => nomatch proceeds_of_not_ready hready h
    | returned => cases hready
    | _ => exact ht.elim
  obtain ⟨⟨row', hrow', hhash', -⟩, hfollow⟩ := Refresh.sound_of_next hcurrent h hanswer
  rintro (⟨row, hrow, hconsumed⟩ | ⟨hnone, -⟩)
  · have hstored : (Refresh.Event.consumed text session.sessionId).Stored crates r.db :=
      ⟨row, hrow.1, hrow.2, hconsumed⟩
    exact (hfollow _ hstored _ _ rfl).2 rfl
  · obtain ⟨row, hrow, -⟩ := IsSessionRow.backward hinj hrows hnew ⟨hrow', hhash'⟩
    exact hnone row hrow

end Keylo.Exchange
