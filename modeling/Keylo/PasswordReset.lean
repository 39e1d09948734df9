import Keylo.Sessions

/-!
# Password reset tokens

The transactions of `db/password_reset.rs`. A token is bound to the account and to the verified
email address it is sent to, and is stored as a digest.

## Main definitions

* `issuePasswordResetToken`, `consumePasswordResetToken`, `revokePasswordResetToken`.
* `LiveResetToken` : the tokens that can be consumed.

## Main results

* `consumePasswordResetToken_eq_ok` : what the consuming transaction does to accounts.
-/

namespace Keylo

open Relational Table

variable (crates : Crates) (db : Db)

/-- A reset may be requested for an active account with a verified email and a password. -/
def isEligible (u : User) : Bool := u.active && u.emailVerified && u.passwordHash.isSome

def eligibleByEmail (identifier : String) : Option User :=
  db.users.find? fun u => u.email == identifier && isEligible u

def eligibleByUsername (identifier : String) : Option User :=
  db.users.find? fun u => u.username == identifier && isEligible u

/-- The account that a reset is requested for, found by email before username. -/
def eligibleUser (identifier : String) : Option User :=
  match eligibleByEmail db identifier with
  | some user => some user
  | none => eligibleByUsername db identifier

structure IssuedPasswordResetToken where
  id : String
  email : String
  token : String
  expiresAt : Int
deriving DecidableEq, Repr

/-- Stores a new token. -/
def insertResetToken (token tokenId userId email : String) (expiresAt : Int) :
    Except String (IssuedPasswordResetToken × Db) :=
  match db.passwordResetTokens.insert
    { id := tokenId, userId := userId, emailSnapshot := email,
      tokenHash := tokenHash crates token, expiresAt := .ofTimestamp expiresAt } with
  | none => .error uniqueViolation
  | some tokens =>
    .ok (⟨tokenId, email, token, expiresAt⟩, { db with passwordResetTokens := tokens })

/-- Revokes the pending tokens of the account and stores a new one. -/
def issuePasswordResetToken (token tokenId identifier : String) (lifetimeSeconds : Int) :
    Except String (Option IssuedPasswordResetToken × Db) :=
  match eligibleUser db identifier with
  | none => .ok (none, db)
  | some user =>
    let expiresAt := db.clock.timestamp + max lifetimeSeconds 1
    (insertResetToken crates (revokePendingResetTokens db user.id) token tokenId user.id user.email
      expiresAt).map fun r => (some r.1, r.2)

inductive ConsumePasswordResetTokenResult
  | reset (userId : String) (revokedRefreshSessions revokedBrowserSessions : Nat)
  | invalid
deriving DecidableEq, Repr

/-- Whether a stored token cannot be used for its account at the given time. -/
def resetTokenInvalid (now : Time) (token : PasswordResetToken) (account : User) : Bool :=
  token.consumedAt.isSome || token.revokedAt.isSome || token.expiresAt ≤ now || !account.active ||
    !account.emailVerified || account.passwordHash.isNone || account.email != token.emailSnapshot

/-- `SET consumed_at = NOW()`. -/
def consumeResetToken (now : Time) : Assignment PasswordResetToken :=
  ⟨fun t => { t with consumedAt := some now }, fun _ _ => rfl⟩

/-- `SET password_hash = $2, password_change_required = TRUE`. -/
def replacePassword (passwordHash : String) : Assignment User :=
  ⟨fun u => { u with passwordHash := some passwordHash, passwordChangeRequired := true },
    fun _ _ => rfl⟩

/-- The token with the given text and its account. -/
def accountOfResetToken (token : String) : Option (PasswordResetToken × User) :=
  match db.passwordResetTokens.lookup PasswordResetToken.tokenHash (tokenHash crates token) with
  | none => none
  | some record =>
    match db.users.lookup User.id record.userId with
    | none => none
    | some account => some (record, account)

/-- The writes of a reset: they consume the token, replace the password of its account, and revoke
the sessions and the other tokens of the account. -/
def writePasswordReset (record : PasswordResetToken) (passwordHash : String) : Db :=
  let db := { db with
    passwordResetTokens :=
      db.passwordResetTokens.update (fun t => t.id == record.id) (consumeResetToken db.clock)
    users := db.users.update (fun u => u.id == record.userId) (replacePassword passwordHash) }
  let db := revokeUserSessions db record.userId "password_reset"
  { db with
    passwordResetTokens := db.passwordResetTokens.update
      (fun t => t.userId == record.userId && t.id != record.id && t.consumedAt.isNone &&
        t.revokedAt.isNone)
      (revokeResetToken db.clock) }

/-- Consumes a token that has been read with its account; one that is not valid is revoked. -/
def consumeResetRecord (salt newPassword : String) (record : PasswordResetToken) (account : User) :
    Except String (ConsumePasswordResetTokenResult × Db) :=
  if resetTokenInvalid db.clock record account then
    if record.consumedAt.isNone && record.revokedAt.isNone then
      .ok (.invalid, { db with
        passwordResetTokens := db.passwordResetTokens.update (fun t => t.id == record.id)
          (revokeResetToken db.clock) })
    else .ok (.invalid, db)
  else
    match crates.bcryptHash salt newPassword with
    | none => .error hashFailure
    | some passwordHash =>
      .ok (.reset record.userId
          (db.refreshSessions.select (isSessionOf db record.userId)).length
          (db.browserSessions.select (isBrowserSessionOf record.userId)).length,
        writePasswordReset db record passwordHash)

def consumePasswordResetToken (salt token newPassword : String) :
    Except String (ConsumePasswordResetTokenResult × Db) :=
  match accountOfResetToken crates db token with
  | none => .ok (.invalid, db)
  | some (record, account) => consumeResetRecord crates db salt newPassword record account

/-- Revokes a token that could not be delivered. -/
def revokePasswordResetToken (tokenId : String) : Db :=
  { db with
    passwordResetTokens := db.passwordResetTokens.update
      (fun t => t.id == tokenId && t.consumedAt.isNone && t.revokedAt.isNone)
      (revokeResetToken db.clock) }

/-! ### Live tokens -/

variable {crates db} {db' : Db} {salt token newPassword userId : String}
  {result : ConsumePasswordResetTokenResult}

theorem insertResetToken_eq_ok {tokenId email : String} {expiresAt : Int}
    {issued : IssuedPasswordResetToken}
    (h : insertResetToken crates db token tokenId userId email expiresAt = .ok (issued, db')) :
    ∃ tokens, db.passwordResetTokens.insert
        { id := tokenId, userId := userId, emailSnapshot := email,
          tokenHash := tokenHash crates token, expiresAt := .ofTimestamp expiresAt } = some tokens ∧
      issued = ⟨tokenId, email, token, expiresAt⟩ ∧
      db' = { db with passwordResetTokens := tokens } := by
  unfold insertResetToken at h
  split at h
  · cases h
  rename_i tokens hinsert
  cases h
  exact ⟨tokens, hinsert, rfl, rfl⟩

variable {record : PasswordResetToken} {account : User}

theorem accountOfResetToken_eq_some
    (h : accountOfResetToken crates db token = some (record, account)) :
    record ∈ db.passwordResetTokens ∧ record.tokenHash = tokenHash crates token ∧
      account ∈ db.users ∧ account.id = record.userId := by
  unfold accountOfResetToken at h
  split at h
  · cases h
  rename_i hrecord
  split at h
  · cases h
  rename_i haccount
  cases h
  obtain ⟨hmem, hhash⟩ := lookup_eq_some_iff.1 hrecord
  exact ⟨hmem, hhash, lookup_eq_some_iff.1 haccount⟩

/-- The token is stored for the account and can be used. -/
def LiveResetToken (crates : Crates) (db : Db) (token userId : String) : Prop :=
  ∃ record account, accountOfResetToken crates db token = some (record, account) ∧
    record.userId = userId ∧ resetTokenInvalid db.clock record account = false

theorem not_liveResetToken_of_consumed
    (h : ∀ record ∈ db.passwordResetTokens, record.tokenHash = tokenHash crates token →
      record.consumedAt.isSome = true) : ¬ LiveResetToken crates db token userId := by
  rintro ⟨record, account, hfound, -, hvalid⟩
  obtain ⟨hmem, hhash, -⟩ := accountOfResetToken_eq_some hfound
  simp [resetTokenInvalid, h record hmem hhash] at hvalid

/-- A token that is not valid is at most revoked; one that is valid is consumed. -/
theorem consumeResetRecord_eq_ok
    (h : consumeResetRecord crates db salt newPassword record account = .ok (result, db')) :
    (result = .invalid ∧ resetTokenInvalid db.clock record account = true ∧
      (db' = db ∨ db' = { db with
        passwordResetTokens := db.passwordResetTokens.update (fun t => t.id == record.id)
          (revokeResetToken db.clock) })) ∨
    ∃ passwordHash refreshSessions browserSessions,
      result = .reset record.userId refreshSessions browserSessions ∧
      resetTokenInvalid db.clock record account = false ∧
      crates.bcryptHash salt newPassword = some passwordHash ∧
      db' = writePasswordReset db record passwordHash := by
  unfold consumeResetRecord at h
  split at h
  · rename_i hinvalid
    split at h
    · cases h
      exact .inl ⟨rfl, hinvalid, .inr rfl⟩
    · cases h
      exact .inl ⟨rfl, hinvalid, .inl rfl⟩
  · rename_i hvalid
    split at h
    · cases h
    rename_i passwordHash hhash
    cases h
    exact .inr ⟨passwordHash, _, _, rfl, by simpa using hvalid, hhash, rfl⟩

/-- The token rows after a reset: the one of the token is consumed and the other pending ones of
the account are revoked. -/
theorem mem_passwordResetTokens_writePasswordReset {r : PasswordResetToken}
    {passwordHash : String} :
    r ∈ (writePasswordReset db record passwordHash).passwordResetTokens ↔
      ∃ t ∈ db.passwordResetTokens,
        (if t.id = record.id then { t with consumedAt := some db.clock }
          else if t.userId = record.userId ∧ t.consumedAt = none ∧ t.revokedAt = none then
            { t with revokedAt := some db.clock }
          else t) = r := by
  have hrow : ∀ t : PasswordResetToken,
      (let t' := if t.id == record.id then (consumeResetToken db.clock).apply t else t
       if t'.userId == record.userId && t'.id != record.id && t'.consumedAt.isNone &&
          t'.revokedAt.isNone then (revokeResetToken db.clock).apply t' else t') =
        if t.id = record.id then { t with consumedAt := some db.clock }
          else if t.userId = record.userId ∧ t.consumedAt = none ∧ t.revokedAt = none then
            { t with revokedAt := some db.clock }
          else t := by
    intro t
    by_cases hid : t.id = record.id
    · simp [hid, consumeResetToken]
    by_cases hpending : t.userId = record.userId ∧ t.consumedAt = none ∧ t.revokedAt = none
    · simp [hid, hpending, revokeResetToken]
    simp only [hid, hpending, beq_eq_false_iff_ne.2 hid, if_false, Bool.false_eq_true]
    rw [if_neg]
    simpa [hid, and_assoc] using hpending
  simp only [writePasswordReset, revokeUserSessions, mem_update, exists_exists_and_eq_and]
  simp only [← hrow]

/-- Consuming a token changes no account, or the password of the one that the token, which was
live and no longer is, belongs to. -/
theorem consumePasswordResetToken_eq_ok
    (h : consumePasswordResetToken crates db salt token newPassword = .ok (result, db')) :
    ∃ users passwordResetTokens refreshSessions browserSessions,
      db' = { db with
        users := users
        passwordResetTokens := passwordResetTokens
        refreshSessions := refreshSessions
        browserSessions := browserSessions } ∧
      (users = db.users ∨ ∃ userId passwordHash, LiveResetToken crates db token userId ∧
        ¬ LiveResetToken crates db' token userId ∧
        users = db.users.update (fun u => u.id == userId) (replacePassword passwordHash)) := by
  unfold consumePasswordResetToken at h
  split at h
  · cases h
    exact ⟨db.users, db.passwordResetTokens, db.refreshSessions, db.browserSessions, rfl, .inl rfl⟩
  rename_i record account hfound
  obtain ⟨-, -, rfl | rfl⟩ | ⟨passwordHash, _, _, -, hvalid, -, rfl⟩ := consumeResetRecord_eq_ok h
  · exact ⟨_, _, _, _, rfl, .inl rfl⟩
  · exact ⟨db.users, _, db.refreshSessions, db.browserSessions, rfl, .inl rfl⟩
  refine ⟨_, _, _, _, rfl, .inr ⟨record.userId, passwordHash,
    ⟨record, account, hfound, rfl, hvalid⟩, not_liveResetToken_of_consumed ?_, rfl⟩⟩
  obtain ⟨hrecord, hhash, -⟩ := accountOfResetToken_eq_some hfound
  intro r hr hkey
  obtain ⟨t, ht, rfl⟩ := mem_passwordResetTokens_writePasswordReset.1 hr
  obtain rfl : t = record := by
    refine eq_of_key ht hrecord (Eq.trans ?_ (hkey.trans hhash.symm))
    split_ifs <;> rfl
  simp

end Keylo
