import Keylo.Foundation.Locks
import Keylo.PasswordReset

/-!
# Password reset tokens

Tokens are issued, consumed and revoked by requests that lock rows of `users` and of
`password_reset_tokens` in different orders: a request that issues a token locks the account and
then the pending tokens of the account, a request that consumes a token locks the token and then
its account. Two of them can wait for each other, and one is then aborted; no interleaving leaves
an account with two pending tokens or lets a token be used twice (`reset_tokens_used_once`).

## Main definitions

* `protocol` : the statements of the requests, up to their locks.
* `Exclusive` : no account has two pending tokens.
* `IsReset`, `IsIssue` : what a request does that resets a password or issues a token.

## Main results

* `step_of_next` : what every step does to accounts and tokens.
-/

namespace Keylo.ResetTokens

open Relational Transition Table

/-! ### Requests -/

/-- The rows that requests lock. -/
inductive Row
  | user (id : String)
  | token (id : String)
deriving DecidableEq

/-- The database, and the requests that have locked a row and not yet committed. -/
structure Store (ι : Type*) where
  db : Db
  locks : Locks Row ι

inductive Call
  | issuePasswordResetToken (identifier : String) (lifetimeSeconds : Int)
  | consumePasswordResetToken (token newPassword : String)
  | revokePasswordResetToken (tokenId : String)
  | updateUser (userId : String) (changes : UserChanges)

inductive Result
  | issued (token : Option IssuedPasswordResetToken)
  | consumed (result : ConsumePasswordResetTokenResult)
  | revoked
  | updated (user : Option User)
  | failed
deriving DecidableEq

/-- What a request is about to do. -/
inductive Task
  | idle
  | returned (result : Result)
  | findingByEmail (identifier : String) (lifetimeSeconds : Int)
  | findingByUsername (identifier : String) (lifetimeSeconds : Int)
  /-- The account is locked. -/
  | revokingPending (userId email : String) (lifetimeSeconds : Int)
  /-- The account and its pending tokens are locked. -/
  | storing (userId email : String) (expiresAt : Int) (pending : List String)
  | findingToken (token newPassword : String)
  /-- The token is locked. -/
  | lockingAccount (token newPassword : String) (record : PasswordResetToken)
  /-- The token and its account are locked. -/
  | consuming (token newPassword : String) (record : PasswordResetToken) (account : User)
  | revoking (tokenId : String)
  | lockingUser (userId : String) (changes : UserChanges)
  /-- The account is locked if its email may change. -/
  | updating (userId : String) (changes : UserChanges)

/-- The request can make another call. -/
def Task.isReady : Task → Bool
  | .idle | .returned _ => true
  | _ => false

/-- The token that the request presents. -/
def Task.token : Task → Option String
  | .findingToken token _ | .lockingAccount token _ _ | .consuming token _ _ _ => some token
  | _ => none

/-- The request has locked its token and the account. -/
def Task.Consumes (task : Task) : Prop :=
  ∃ token newPassword record account, task = .consuming token newPassword record account

/-- The request has reset a password. -/
def Task.isReset : Task → Bool
  | .returned (.consumed (.reset ..)) => true
  | _ => false

inductive Input
  | call (c : Call)
  /-- The next statements, with the random values they draw. -/
  | proceed (token tokenId salt : String)
  /-- The row that a statement has waited for is no longer one that it selects. -/
  | miss
  /-- The transaction is aborted. -/
  | fail

variable {ι : Type*} [DecidableEq ι] (crates : Crates) (i : ι) (s : Store ι)

/-- The transaction of the request ends. -/
def finish (db : Db) (result : Result) : Store ι × Task :=
  (⟨db, s.locks.release i⟩, .returned result)

/-- Locks the account that one of the two statements of `eligible_user` has found. -/
def lockEligible (account : Option User) (lifetimeSeconds : Int) (otherwise : Task) :
    Option (Store ι × Task) :=
  match account with
  | none => some (s, otherwise)
  | some user =>
    if s.locks.available i (.user user.id) then
      some ({ s with locks := s.locks.acquire i [.user user.id] },
        .revokingPending user.id user.email lifetimeSeconds)
    else none

/-- The pending tokens of the account. -/
def pendingTokens (db : Db) (userId : String) : List PasswordResetToken :=
  db.passwordResetTokens.select fun t =>
    t.userId == userId && t.consumedAt.isNone && t.revokedAt.isNone

/-- None of the pending tokens of the account is locked by another request. -/
def pendingAvailable (userId : String) : Bool :=
  (pendingTokens s.db userId).all fun t => s.locks.available i (.token t.id)

/-- The update of the pending tokens, which is not visible to others before the commit. -/
def revokePending (userId email : String) (lifetimeSeconds : Int) : Option (Store ι × Task) :=
  if pendingAvailable i s userId then
    let pending := (pendingTokens s.db userId).map PasswordResetToken.id
    some ({ s with locks := s.locks.acquire i (pending.map .token) },
      .storing userId email (s.db.clock.timestamp + max lifetimeSeconds 1) pending)
  else none

/-- The tokens that a request has locked are revoked. -/
def revokeResetTokens (db : Db) (tokenIds : List String) : Db :=
  { db with
    passwordResetTokens := db.passwordResetTokens.update (fun t => tokenIds.contains t.id)
      (revokeResetToken db.clock) }

/-- The insert of the new token and the commit. -/
def store (token tokenId userId email : String) (expiresAt : Int) (pending : List String) :
    Store ι × Task :=
  match insertResetToken crates (revokeResetTokens s.db pending) token tokenId userId email
      expiresAt with
  | .error _ => finish i s s.db .failed
  | .ok (issued, db) => finish i s db (.issued (some issued))

/-- Locks the token. -/
def findToken (token newPassword : String) : Option (Store ι × Task) :=
  match accountOfResetToken crates s.db token with
  | none => some (finish i s s.db (.consumed .invalid))
  | some (record, _) =>
    if s.locks.available i (.token record.id) then
      some ({ s with locks := s.locks.acquire i [.token record.id] },
        .lockingAccount token newPassword record)
    else none

/-- Locks the account of the token, and reads it as it is then. -/
def lockAccount (token newPassword : String) (record : PasswordResetToken) :
    Option (Store ι × Task) :=
  match s.db.users.lookup User.id record.userId with
  | none => some (finish i s s.db (.consumed .invalid))
  | some account =>
    if s.locks.available i (.user account.id) then
      some ({ s with locks := s.locks.acquire i [.user account.id] },
        .consuming token newPassword record account)
    else none

/-- The statements that follow the locks, and the commit. -/
def consume (salt newPassword : String) (record : PasswordResetToken) (account : User) :
    Option (Store ι × Task) :=
  if resetTokenInvalid s.db.clock record account || pendingAvailable i s record.userId then
    match consumeResetRecord crates s.db salt newPassword record account with
    | .error _ => some (finish i s s.db .failed)
    | .ok (result, db) => some (finish i s db (.consumed result))
  else none

/-- `revoke_password_reset_token` is a single statement. -/
def revoke (tokenId : String) : Option (Store ι × Task) :=
  if s.locks.available i (.token tokenId) then
    some (finish i s (revokePasswordResetToken s.db tokenId) .revoked)
  else none

/-- Locks the account if its email may change. -/
def lockUser (userId : String) (changes : UserChanges) : Option (Store ι × Task) :=
  if changes.email.isNone then some (s, .updating userId changes)
  else if s.locks.available i (.user userId) then
    some ({ s with locks := s.locks.acquire i [.user userId] }, .updating userId changes)
  else none

/-- The update of the account changes its email. -/
def changesEmail (db : Db) (userId : String) (changes : UserChanges) : Bool :=
  (db.users.lookup User.id userId).any fun u => !changes.email.all (· == u.email)

/-- The transaction of `update_user`. -/
def update (salt userId : String) (changes : UserChanges) : Option (Store ι × Task) :=
  if s.locks.available i (.user userId) &&
      (!changesEmail s.db userId changes || pendingAvailable i s userId) then
    match updateUserRow crates s.db salt userId changes with
    | .error _ => some (finish i s s.db .failed)
    | .ok (user, db) => some (finish i s db (.updated user))
  else none

/-- The first statement of a call. -/
def start : Call → Task
  | .issuePasswordResetToken identifier lifetimeSeconds =>
    .findingByEmail identifier lifetimeSeconds
  | .consumePasswordResetToken token newPassword => .findingToken token newPassword
  | .revokePasswordResetToken tokenId => .revoking tokenId
  | .updateUser userId changes => .lockingUser userId changes

/-- The next statements of a request. -/
def proceed (token tokenId salt : String) : Task → Option (Store ι × Task)
  | .idle | .returned _ => none
  | .findingByEmail identifier lifetimeSeconds =>
    lockEligible i s (eligibleByEmail s.db identifier) lifetimeSeconds
      (.findingByUsername identifier lifetimeSeconds)
  | .findingByUsername identifier lifetimeSeconds =>
    lockEligible i s (eligibleByUsername s.db identifier) lifetimeSeconds (.returned (.issued none))
  | .revokingPending userId email lifetimeSeconds => revokePending i s userId email lifetimeSeconds
  | .storing userId email expiresAt pending =>
    some (store crates i s token tokenId userId email expiresAt pending)
  | .findingToken token newPassword => findToken crates i s token newPassword
  | .lockingAccount token newPassword record => lockAccount i s token newPassword record
  | .consuming _ newPassword record account => consume crates i s salt newPassword record account
  | .revoking tokenId => revoke i s tokenId
  | .lockingUser userId changes => lockUser i s userId changes
  | .updating userId changes => update crates i s salt userId changes

/-- A request whose row is gone goes on without it. -/
def miss : Task → Option Task
  | .findingByEmail identifier lifetimeSeconds =>
    some (.findingByUsername identifier lifetimeSeconds)
  | .findingByUsername .. => some (.returned (.issued none))
  | .findingToken .. => some (.returned (.consumed .invalid))
  | _ => none

def next (i : ι) : Input → Store ι → Task → Option (Store ι × Task)
  | .call c, s, t => if t.isReady then some (s, start c) else none
  | .proceed token tokenId salt, s, t => proceed crates i s token tokenId salt t
  | .miss, s, t => (miss t).map fun t' => (s, t')
  | .fail, s, t => if t.isReady then none else some (finish i s s.db .failed)

/-- Other requests change anything but the tokens and the accounts that are locked. -/
def surroundings (other : Db) (s : Store ι) : Option (Store ι) :=
  if ∀ u ∈ s.db.users.rows, (s.locks (.user u.id)).isSome → u ∈ other.users.rows then
    some { s with db := { other with passwordResetTokens := s.db.passwordResetTokens } }
  else none

variable (ι) in
/-- The statements of the requests, named by `ι`, and all other writes. -/
def protocol : Protocol ι (Store ι) Task Input Db where
  next := next crates
  env := surroundings

/-! ### What a step does -/

/-- The token is neither consumed nor revoked. -/
def Pending (t : PasswordResetToken) : Prop := t.consumedAt = none ∧ t.revokedAt = none

/-- No account has two pending tokens. -/
def Exclusive (db : Db) : Prop :=
  ∀ t ∈ db.passwordResetTokens, ∀ t' ∈ db.passwordResetTokens, t.userId = t'.userId →
    Pending t → Pending t' → t = t'

/-- A later state of a token. -/
structure Follows (t t' : PasswordResetToken) : Prop where
  id : t'.id = t.id
  userId : t'.userId = t.userId
  emailSnapshot : t'.emailSnapshot = t.emailSnapshot
  tokenHash : t'.tokenHash = t.tokenHash
  expiresAt : t'.expiresAt = t.expiresAt
  consumedAt : t.consumedAt.isSome → t'.consumedAt = t.consumedAt
  revokedAt : t.revokedAt.isSome → t'.revokedAt = t.revokedAt

variable {t t' : PasswordResetToken} {db db' : Db}

theorem Follows.refl : Follows t t := ⟨rfl, rfl, rfl, rfl, rfl, fun _ => rfl, fun _ => rfl⟩

theorem Follows.pending (h : Follows t t') (ht' : Pending t') : Pending t := by
  constructor
  · by_contra hc
    have hsome := Option.isSome_iff_ne_none.2 hc
    exact hc ((h.consumedAt hsome).symm.trans ht'.1)
  · by_contra hr
    have hsome := Option.isSome_iff_ne_none.2 hr
    exact hr ((h.revokedAt hsome).symm.trans ht'.2)

theorem follows_revoke (now : Time) : Follows t ((revokeResetToken now).apply t) where
  id := rfl
  userId := rfl
  emailSnapshot := rfl
  tokenHash := rfl
  expiresAt := rfl
  consumedAt _ := rfl
  revokedAt h := by
    obtain ⟨at', hat⟩ := Option.isSome_iff_exists.1 h
    simp [revokeResetToken, hat]

/-- Every token of before is there in a later state, and is the same unless it is one of `changed`;
there is no other token. -/
structure Advances (changed : PasswordResetToken → Prop) (db db' : Db) : Prop where
  forward : ∀ t ∈ db.passwordResetTokens, ∃ t' ∈ db'.passwordResetTokens,
    Follows t t' ∧ (t' = t ∨ changed t)
  backward : ∀ t' ∈ db'.passwordResetTokens, ∃ t ∈ db.passwordResetTokens, Follows t t'

variable {changed : PasswordResetToken → Prop} {now : Time}

theorem Advances.of_eq (h : db'.passwordResetTokens = db.passwordResetTokens) :
    Advances changed db db' where
  forward t ht := ⟨t, h ▸ ht, .refl, .inl rfl⟩
  backward t ht := ⟨t, h ▸ ht, .refl⟩

theorem Advances.of_map {f : PasswordResetToken → PasswordResetToken}
    (hmem : ∀ r, r ∈ db'.passwordResetTokens ↔ ∃ t ∈ db.passwordResetTokens, f t = r)
    (hf : ∀ t ∈ db.passwordResetTokens, Follows t (f t) ∧ (f t = t ∨ changed t)) :
    Advances changed db db' where
  forward t ht := ⟨f t, (hmem _).2 ⟨t, ht, rfl⟩, hf t ht⟩
  backward t' ht' := by
    obtain ⟨t, ht, rfl⟩ := (hmem t').1 ht'
    exact ⟨t, ht, (hf t ht).1⟩

theorem Advances.of_revoke {p : PasswordResetToken → Bool}
    (h : db'.passwordResetTokens = db.passwordResetTokens.update p (revokeResetToken now)) :
    Advances (fun t => p t = true) db db' := by
  refine .of_map (f := fun t => if p t then (revokeResetToken now).apply t else t)
    (fun r => by rw [h, mem_update]) fun t _ => ?_
  split_ifs with hp
  · exact ⟨follows_revoke now, .inr hp⟩
  · exact ⟨.refl, .inl rfl⟩

theorem Exclusive.advances (hdb : Exclusive db) (h : Advances changed db db') : Exclusive db' := by
  intro t₁' ht₁' t₂' ht₂' huser hp₁ hp₂
  obtain ⟨t₁, ht₁, h₁⟩ := h.backward t₁' ht₁'
  obtain ⟨t₂, ht₂, h₂⟩ := h.backward t₂' ht₂'
  obtain rfl : t₁ = t₂ := by
    refine hdb t₁ ht₁ t₂ ht₂ ?_ (h₁.pending hp₁) (h₂.pending hp₂)
    rw [← h₁.userId, huser, h₂.userId]
  exact eq_of_key ht₁' ht₂' (h₁.id.trans h₂.id.symm)

/-- What a step does to the rows and the locks, if `mover` is the request that makes it. -/
structure Step (mover : Option ι) (s s' : Store ι) : Prop where
  locks : Locks.Keeps mover s.locks s'.locks
  users : ∀ u ∈ s.db.users, ∀ j, s.locks (.user u.id) = some j → some j ≠ mover → u ∈ s'.db.users
  tokens : ∀ t ∈ s.db.passwordResetTokens, ∀ j, s.locks (.token t.id) = some j → some j ≠ mover →
    t ∈ s'.db.passwordResetTokens
  forward : ∀ t ∈ s.db.passwordResetTokens, ∃ t' ∈ s'.db.passwordResetTokens, Follows t t'
  backward : ∀ t' ∈ s'.db.passwordResetTokens, (∃ t ∈ s.db.passwordResetTokens, Follows t t') ∨
    ∃ i, mover = some i ∧ s.locks (.user t'.userId) = some i
  exclusive : Exclusive s'.db

/-- The account has the email, and a reset may be requested for it. -/
def HasEligible (db : Db) (userId email : String) : Prop :=
  ∃ user ∈ db.users, user.id = userId ∧ user.email = email ∧ isEligible user = true

/-- The token with the given text is stored in the row. -/
def HasRecord (db : Db) (token : String) (record : PasswordResetToken) : Prop :=
  record ∈ db.passwordResetTokens ∧ record.tokenHash = tokenHash crates token

/-- What a request knows: the rows it has locked are as it has read them. -/
def TaskSound (i : ι) (s : Store ι) : Task → Prop
  | .revokingPending userId email _ =>
    s.locks (.user userId) = some i ∧ HasEligible s.db userId email
  | .storing userId email _ pending =>
    (s.locks (.user userId) = some i ∧ HasEligible s.db userId email) ∧
      (∀ tokenId ∈ pending, s.locks (.token tokenId) = some i) ∧
      ∀ t ∈ s.db.passwordResetTokens, t.userId = userId → Pending t → t.id ∈ pending
  | .lockingAccount token _ record =>
    s.locks (.token record.id) = some i ∧ HasRecord crates s.db token record
  | .consuming token _ record account =>
    (s.locks (.token record.id) = some i ∧ HasRecord crates s.db token record) ∧
      s.locks (.user account.id) = some i ∧ account ∈ s.db.users ∧ account.id = record.userId
  | _ => True

variable {crates} {i j : ι} {s s' : Store ι} {mover : Option ι} {task task' : Task}

/-- A request changes only rows that no other request has locked, and adds no token. -/
theorem Step.of_advances (hdb : Exclusive s.db) (hlocks : Locks.Keeps (some i) s.locks s'.locks)
    (husers : ∀ u ∈ s.db.users, u ∈ s'.db.users ∨ s.locks.available i (.user u.id) = true)
    (htokens : Advances changed s.db s'.db)
    (hchanged : ∀ t ∈ s.db.passwordResetTokens, changed t →
      s.locks.available i (.token t.id) = true) : Step (some i) s s' where
  locks := hlocks
  users u hu j hj hne :=
    (husers u hu).resolve_right fun h => hne (congrArg some (Locks.eq_of_available h hj))
  tokens t ht j hj hne := by
    obtain ⟨t', ht', -, rfl | hc⟩ := htokens.forward t ht
    · exact ht'
    · exact absurd (congrArg some (Locks.eq_of_available (hchanged t ht hc) hj)) hne
  forward t ht := by
    obtain ⟨t', ht', hfollows, -⟩ := htokens.forward t ht
    exact ⟨t', ht', hfollows⟩
  backward t' ht' := .inl (htokens.backward t' ht')
  exclusive := hdb.advances htokens

theorem Step.of_locks (hdb : Exclusive s.db) {locks : Locks Row ι}
    (hlocks : Locks.Keeps (some i) s.locks locks) : Step (some i) s { s with locks := locks } := by
  have hsame : Advances (fun _ => False) s.db s.db := .of_eq rfl
  exact .of_advances hdb hlocks (fun _ hu => .inl hu) hsame fun _ _ => False.elim

omit [DecidableEq ι] in
theorem HasEligible.step {userId email : String} (h : HasEligible s.db userId email)
    (hlock : s.locks (.user userId) = some j) (hs : Step mover s s') (hj : some j ≠ mover) :
    HasEligible s'.db userId email := by
  obtain ⟨user, huser, rfl, hfacts⟩ := h
  exact ⟨user, hs.users user huser j hlock hj, rfl, hfacts⟩

omit [DecidableEq ι] in
theorem TaskSound.step (ht : TaskSound crates j s task) (hs : Step mover s s')
    (hj : some j ≠ mover) : TaskSound crates j s' task := by
  cases task with
  | revokingPending =>
    obtain ⟨hlock, haccount⟩ := ht
    exact ⟨hs.locks _ j hlock hj, haccount.step hlock hs hj⟩
  | storing =>
    obtain ⟨⟨hlock, haccount⟩, hlocks, hpending⟩ := ht
    refine ⟨⟨hs.locks _ j hlock hj, haccount.step hlock hs hj⟩,
      fun tokenId hmem => hs.locks _ j (hlocks tokenId hmem) hj, fun t' ht' huser hp => ?_⟩
    obtain ⟨t, ht, hfollows⟩ | ⟨i, rfl, hi⟩ := hs.backward t' ht'
    · rw [hfollows.id]
      exact hpending t ht (hfollows.userId.symm.trans huser) (hfollows.pending hp)
    · rw [huser, hlock] at hi
      exact absurd hi hj
  | lockingAccount token _ record =>
    obtain ⟨hlock, hrecord, hhash⟩ := ht
    exact ⟨hs.locks _ j hlock hj, hs.tokens record hrecord j hlock hj, hhash⟩
  | consuming token _ record account =>
    obtain ⟨⟨hlock, hrecord, hhash⟩, hlock', haccount, hid⟩ := ht
    exact ⟨⟨hs.locks _ j hlock hj, hs.tokens record hrecord j hlock hj, hhash⟩,
      hs.locks _ j hlock' hj, hs.users account haccount j hlock' hj, hid⟩
  | _ => trivial

/-! ### The steps of a request -/

variable {token newPassword salt userId email tokenId : String} {record : PasswordResetToken}
  {account : User} {tokenIds : List String}

theorem mem_pendingTokens :
    t ∈ pendingTokens db userId ↔ t ∈ db.passwordResetTokens ∧ t.userId = userId ∧ Pending t := by
  simp [pendingTokens, Pending, and_assoc]

theorem available_of_pendingAvailable (h : pendingAvailable i s userId = true)
    (ht : t ∈ s.db.passwordResetTokens) (huser : t.userId = userId) (hp : Pending t) :
    s.locks.available i (.token t.id) = true :=
  List.all_eq_true.1 h t (mem_pendingTokens.2 ⟨ht, huser, hp⟩)

theorem hasEligible_of_find {p : User → Bool} {user : User}
    (h : (db.users.find? fun u => p u && isEligible u) = some user) :
    HasEligible db user.id user.email := by
  have hp := List.find?_some h
  exact ⟨user, List.mem_of_find?_eq_some h, rfl, rfl, (Bool.and_eq_true_iff.1 hp).2⟩

theorem not_pending_revokeResetTokens (ht : t ∈ (revokeResetTokens db tokenIds).passwordResetTokens)
    (hid : t.id ∈ tokenIds) : ¬ Pending t := by
  obtain ⟨r, -, rfl⟩ := mem_update.1 ht
  split_ifs at hid ⊢ with hr
  · exact fun hp => by simpa [revokeResetToken] using hp.2
  · exact absurd (List.contains_iff_mem.2 hid) hr

theorem mem_revokeResetTokens (ht : t ∈ db.passwordResetTokens) (hid : t.id ∉ tokenIds) :
    t ∈ (revokeResetTokens db tokenIds).passwordResetTokens :=
  mem_update.2 ⟨t, ht, if_neg (by simpa using hid)⟩

theorem advances_writePasswordReset {passwordHash : String}
    (hrecord : record ∈ db.passwordResetTokens) (hpending : Pending record) :
    Advances (fun t => t.id = record.id ∨ t.userId = record.userId ∧ Pending t) db
      (writePasswordReset db record passwordHash) := by
  refine .of_map (fun r => mem_passwordResetTokens_writePasswordReset) fun t ht => ?_
  split_ifs with hid hsibling
  · obtain rfl : t = record := eq_of_key ht hrecord hid
    exact ⟨⟨rfl, rfl, rfl, rfl, rfl, by simp [hpending.1], fun _ => rfl⟩, .inr (.inl rfl)⟩
  · exact ⟨⟨rfl, rfl, rfl, rfl, rfl, fun _ => rfl, by simp [hsibling.2.2]⟩,
      .inr (.inr ⟨hsibling.1, hsibling.2⟩)⟩
  · exact ⟨.refl, .inl rfl⟩

theorem pending_of_valid (h : resetTokenInvalid now record account = false) : Pending record := by
  simp only [resetTokenInvalid, Bool.or_eq_false_iff, Option.isSome_eq_false_iff,
    Option.isNone_iff_eq_none] at h
  exact ⟨h.1.1.1.1.1.1, h.1.1.1.1.1.2⟩

/-! ### Resets -/

/-- What a request does that resets the password of an account: the token is valid for the account,
it is consumed, and the password, the sessions and the other tokens of the account change with the
same commit. -/
structure IsReset (crates : Crates) (token newPassword : String) (record : PasswordResetToken)
    (account : User) (db db' : Db) : Prop where
  stored : HasRecord crates db token record
  pending : Pending record
  unexpired : db.clock < record.expiresAt
  owner : account ∈ db.users ∧ account.id = record.userId
  active : account.active = true
  hasPassword : account.passwordHash.isSome = true
  email : account.emailVerified = true ∧ account.email = record.emailSnapshot
  password : ∃ salt passwordHash, crates.bcryptHash salt newPassword = some passwordHash ∧
    { account with passwordHash := some passwordHash, passwordChangeRequired := true } ∈ db'.users
  consumed : { record with consumedAt := some db.clock } ∈ db'.passwordResetTokens
  siblings : ∀ t ∈ db'.passwordResetTokens, t.userId = record.userId → ¬ Pending t
  refreshSessions : ∀ p ∈ db.principals, p.owner = (.user, record.userId) →
    ∀ session ∈ db.refreshSessions, session.principalId = p.id →
      ∃ session' ∈ db'.refreshSessions, session'.id = session.id ∧ session'.revokedAt.isSome
  browserSessions : ∀ session ∈ db.browserSessions, session.userId = record.userId →
    ∃ session' ∈ db'.browserSessions, session'.id = session.id ∧ session'.revokedAt.isSome

/-- At most the revocation of the token changes. -/
def OnlyRevokes (crates : Crates) (token : String) (db db' : Db) : Prop :=
  ∃ (tokens : Table PasswordResetToken) (revokedAt : PasswordResetToken → Option Time),
    db' = { db with passwordResetTokens := tokens } ∧
    tokens.rows = db.passwordResetTokens.rows.map fun t =>
      if t.tokenHash = tokenHash crates token then { t with revokedAt := revokedAt t } else t

/-- What a request does that issues a token: it is stored for the email of the account. -/
structure IsIssue (crates : Crates) (userId : String) (issued : IssuedPasswordResetToken)
    (db db' : Db) : Prop where
  account : HasEligible db userId issued.email
  stored :
    { id := issued.id, userId := userId, emailSnapshot := issued.email,
      tokenHash := tokenHash crates issued.token, expiresAt := .ofTimestamp issued.expiresAt } ∈
        db'.passwordResetTokens

/-- What the steps of a request that consumes a token and the last step of a request that issues one
do to the database. -/
def Legal (crates : Crates) (db db' : Db) : Task → Task → Prop
  | .consuming token newPassword record account, .returned (.consumed (.reset userId _ _)) =>
    userId = record.userId ∧ IsReset crates token newPassword record account db db'
  | .findingToken token _, _ | .lockingAccount token _ _, _ | .consuming token _ _ _, _ =>
    OnlyRevokes crates token db db'
  | .storing userId _ _ _, .returned (.issued (some issued)) => IsIssue crates userId issued db db'
  | _, _ => True

theorem OnlyRevokes.refl : OnlyRevokes crates token db db :=
  ⟨db.passwordResetTokens, PasswordResetToken.revokedAt, rfl, by simp⟩

theorem onlyRevokes_revoke (h : HasRecord crates db token record) :
    OnlyRevokes crates token db { db with
      passwordResetTokens := db.passwordResetTokens.update (fun t => t.id == record.id)
        (revokeResetToken db.clock) } := by
  refine ⟨_, fun t => t.revokedAt.or (some db.clock), rfl, List.map_congr_left fun t ht => ?_⟩
  have hiff : t.id = record.id ↔ t.tokenHash = tokenHash crates token := by
    constructor
    · intro hid
      rw [eq_of_key ht h.1 hid, h.2]
    · intro hhash
      rw [eq_of_key ht h.1 (hhash.trans h.2.symm)]
  simp only [beq_iff_eq, hiff]
  rfl

/-- The sessions of the account of before a reset are revoked. -/
theorem isReset_of_valid {passwordHash : String} (hstored : HasRecord crates db token record)
    (haccount : account ∈ db.users) (hid : account.id = record.userId)
    (hvalid : resetTokenInvalid db.clock record account = false)
    (hhash : crates.bcryptHash salt newPassword = some passwordHash) :
    IsReset crates token newPassword record account db
      (writePasswordReset db record passwordHash) := by
  have hpending := pending_of_valid hvalid
  simp only [resetTokenInvalid, Bool.or_eq_false_iff, decide_eq_false_iff_not, not_le,
    Bool.not_eq_false', Option.isNone_eq_false_iff, bne_eq_false_iff_eq] at hvalid
  obtain ⟨⟨⟨⟨⟨-, hexpiry⟩, hactive⟩, hverified⟩, hpassword⟩, hemail⟩ := hvalid
  refine ⟨hstored, hpending, hexpiry, ⟨haccount, hid⟩, hactive, hpassword, ⟨hverified, hemail⟩,
    ⟨salt, passwordHash, hhash, ?_⟩, ?_, ?_, ?_, ?_⟩
  · exact mem_update.2 ⟨account, haccount, if_pos (by simpa using hid)⟩
  · exact mem_passwordResetTokens_writePasswordReset.2 ⟨record, hstored.1, if_pos rfl⟩
  · intro r hr huser hp
    obtain ⟨t, ht, rfl⟩ := mem_passwordResetTokens_writePasswordReset.1 hr
    split_ifs at huser hp with hsame hsibling
    · exact Option.some_ne_none _ hp.1
    · exact Option.some_ne_none _ hp.2
    · exact hsibling ⟨huser, hp⟩
  · intro p hp howner session hsession hprincipal
    refine ⟨_, mem_update.2 ⟨session, hsession, rfl⟩, ?_⟩
    obtain ⟨htype, href⟩ : p.principalType = .user ∧ p.refId = record.userId :=
      Prod.ext_iff.1 howner
    have hany : (db.principals.any fun p => p.id == session.principalId &&
        p.principalType == .user && p.refId == record.userId) = true :=
      any_eq_true.2 ⟨p, hp, by simp [hprincipal, htype, href]⟩
    cases hrevoked : session.revokedAt <;>
      simp [isSessionOf, hrevoked, hany, revokeSession]
  · intro session hsession huser
    refine ⟨_, mem_update.2 ⟨session, hsession, rfl⟩, ?_⟩
    cases hrevoked : session.revokedAt <;>
      simp [isBrowserSessionOf, huser, hrevoked, revokeBrowserSession]

/-! ### Steps of requests -/

section Steps

/-- A step of a request, after which it knows what it has read. -/
def Steps (crates : Crates) (i : ι) (s s' : Store ι) (task' : Task) : Prop :=
  Step (some i) s s' ∧ TaskSound crates i s' task'

variable (hdb : Exclusive s.db) {changes : UserChanges} {lifetimeSeconds : Int} {a : Input}

include hdb

theorem step_of_finish (result : Result) :
    Steps crates i s (finish i s s.db result).1 (finish i s s.db result).2 :=
  ⟨.of_locks hdb Locks.keeps_release, trivial⟩

theorem step_of_lockEligible {account : Option User}
    (haccount : ∀ user, account = some user → HasEligible s.db user.id user.email)
    (htask : TaskSound crates i s task)
    (h : lockEligible i s account lifetimeSeconds task = some (s', task')) :
    Steps crates i s s' task' := by
  unfold lockEligible at h
  split at h
  · cases h
    exact ⟨.of_locks hdb .refl, htask⟩
  rename_i user
  split_ifs at h with havailable
  cases h
  exact ⟨.of_locks hdb (Locks.keeps_acquire (by simpa using havailable)),
    Locks.acquire_of_mem (by simp), haccount user rfl⟩

theorem step_of_revokePending
    (htask : TaskSound crates i s (.revokingPending userId email lifetimeSeconds))
    (h : revokePending i s userId email lifetimeSeconds = some (s', task')) :
    Steps crates i s s' task' := by
  unfold revokePending at h
  split_ifs at h with havailable
  cases h
  obtain ⟨hlock, haccount⟩ := htask
  refine ⟨.of_locks hdb (Locks.keeps_acquire ?_), ⟨Locks.acquire_of_held hlock, haccount⟩,
    fun tokenId hmem => Locks.acquire_of_mem (List.mem_map_of_mem hmem),
    fun t ht huser hp => List.mem_map_of_mem (mem_pendingTokens.2 ⟨ht, huser, hp⟩)⟩
  simpa using List.all_eq_true.1 havailable

/-- The new token is the only pending one of its account, since all others are revoked with the
same commit. -/
theorem step_of_store {expiresAt : Int} {pending : List String}
    (htask : TaskSound crates i s (.storing userId email expiresAt pending))
    (h : store crates i s token tokenId userId email expiresAt pending = (s', task')) :
    Steps crates i s s' task' ∧
      Legal crates s.db s'.db (.storing userId email expiresAt pending) task' := by
  obtain ⟨⟨hlock, haccount⟩, hlocks, hpending⟩ := htask
  unfold store at h
  split at h
  · cases h
    exact ⟨step_of_finish hdb _, trivial⟩
  rename_i issued db' hinsert
  cases h
  obtain ⟨tokens, htokens, rfl, rfl⟩ := insertResetToken_eq_ok hinsert
  have hmem : ∀ r, r ∈ tokens ↔ _ := fun r => mem_of_insert_eq_some htokens
  have hrevoked : Advances (fun t => pending.contains t.id = true) s.db
    (revokeResetTokens s.db pending) := .of_revoke rfl
  have hold : ∀ r ∈ (revokeResetTokens s.db pending).passwordResetTokens, r.userId = userId →
      ¬ Pending r := by
    intro r hr huser hp
    obtain ⟨t, ht, hfollows⟩ := hrevoked.backward r hr
    refine not_pending_revokeResetTokens hr ?_ hp
    rw [hfollows.id]
    exact hpending t ht (hfollows.userId.symm.trans huser) (hfollows.pending hp)
  refine ⟨⟨⟨Locks.keeps_release, fun _ hu _ _ _ => hu, ?_, ?_, ?_, ?_⟩, trivial⟩, haccount,
    (hmem _).2 (.inl rfl)⟩
  · intro t ht j hj hne
    refine (hmem t).2 (.inr (mem_revokeResetTokens ht fun hid => hne ?_))
    rw [← hj, hlocks _ hid]
  · intro t ht
    obtain ⟨t', ht', hfollows, -⟩ := hrevoked.forward t ht
    exact ⟨t', (hmem t').2 (.inr ht'), hfollows⟩
  · intro t' ht'
    obtain rfl | ht' := (hmem t').1 ht'
    · exact .inr ⟨i, rfl, hlock⟩
    · exact .inl (hrevoked.backward t' ht')
  · intro t₁ ht₁ t₂ ht₂ huser hp₁ hp₂
    obtain rfl | ht₁ := (hmem t₁).1 ht₁
    · obtain rfl | ht₂ := (hmem t₂).1 ht₂
      · rfl
      · exact absurd hp₂ (hold t₂ ht₂ huser.symm)
    · obtain rfl | ht₂ := (hmem t₂).1 ht₂
      · exact absurd hp₁ (hold t₁ ht₁ huser)
      · exact hdb.advances hrevoked t₁ ht₁ t₂ ht₂ huser hp₁ hp₂

theorem step_of_findToken
    (h : findToken crates i s token newPassword = some (s', task')) :
    Steps crates i s s' task' := by
  unfold findToken at h
  split at h
  · cases h
    exact step_of_finish hdb _
  rename_i record account hfound
  split_ifs at h with havailable
  cases h
  obtain ⟨hrecord, hhash, -⟩ := accountOfResetToken_eq_some hfound
  exact ⟨.of_locks hdb (Locks.keeps_acquire (by simpa using havailable)),
    Locks.acquire_of_mem (by simp), hrecord, hhash⟩

theorem step_of_lockAccount
    (htask : TaskSound crates i s (.lockingAccount token newPassword record))
    (h : lockAccount i s token newPassword record = some (s', task')) :
    Steps crates i s s' task' := by
  unfold lockAccount at h
  split at h
  · cases h
    exact step_of_finish hdb _
  rename_i account hfound
  split_ifs at h with havailable
  cases h
  obtain ⟨hlock, hrecord⟩ := htask
  have hheld : s.locks.acquire i [.user account.id] (.token record.id) = some i :=
    Locks.acquire_of_held hlock
  exact ⟨.of_locks hdb (Locks.keeps_acquire (by simpa using havailable)),
    ⟨hheld, hrecord⟩, Locks.acquire_of_mem (by simp), lookup_eq_some_iff.1 hfound⟩

theorem step_of_consume
    (htask : TaskSound crates i s (.consuming token newPassword record account))
    (h : consume crates i s salt newPassword record account = some (s', task')) :
    Steps crates i s s' task' ∧
      Legal crates s.db s'.db (.consuming token newPassword record account) task' := by
  obtain ⟨⟨hlock, hstored⟩, hlock', haccount, hid⟩ := htask
  unfold consume at h
  split_ifs at h with havailable
  split at h
  · cases h
    exact ⟨step_of_finish hdb _, OnlyRevokes.refl⟩
  rename_i result db' hconsume
  cases h
  obtain ⟨rfl, -, rfl | rfl⟩ | ⟨passwordHash, _, _, rfl, hvalid, hhash, rfl⟩ :=
    consumeResetRecord_eq_ok hconsume
  · exact ⟨⟨.of_locks hdb Locks.keeps_release, trivial⟩, OnlyRevokes.refl⟩
  · refine ⟨⟨.of_advances hdb Locks.keeps_release (fun _ hu => .inl hu) (.of_revoke rfl)
      fun t _ hchanged => ?_, trivial⟩, onlyRevokes_revoke hstored⟩
    rw [show t.id = record.id by simpa using hchanged]
    exact Locks.available_of_held hlock
  · have hpending := pending_of_valid hvalid
    have hsiblings : pendingAvailable i s record.userId = true := by
      simpa [hvalid] using havailable
    refine ⟨⟨.of_advances hdb Locks.keeps_release (fun u hu => ?_)
      (advances_writePasswordReset hstored.1 hpending) fun t ht hchanged => ?_, trivial⟩,
      rfl, isReset_of_valid hstored haccount hid hvalid hhash⟩
    · by_cases huser : u.id = record.userId
      · rw [huser, ← hid]
        exact .inr (Locks.available_of_held hlock')
      · exact .inl (mem_update.2 ⟨u, hu, if_neg (by simpa using huser)⟩)
    · obtain hsame | ⟨huser, hp⟩ := hchanged
      · rw [hsame]
        exact Locks.available_of_held hlock
      · exact available_of_pendingAvailable hsiblings ht huser hp

theorem step_of_revoke (h : revoke i s tokenId = some (s', task')) :
    Steps crates i s s' task' := by
  unfold revoke at h
  split_ifs at h with havailable
  cases h
  refine ⟨.of_advances hdb Locks.keeps_release (fun _ hu => .inl hu) (.of_revoke rfl)
    fun t _ hchanged => ?_, trivial⟩
  have hid : t.id = tokenId := by
    simp only [Bool.and_eq_true, beq_iff_eq] at hchanged
    exact hchanged.1.1
  rwa [hid]

theorem step_of_lockUser (h : lockUser i s userId changes = some (s', task')) :
    Steps crates i s s' task' := by
  unfold lockUser at h
  split_ifs at h with hemail havailable
  · cases h
    exact ⟨.of_locks hdb .refl, trivial⟩
  · cases h
    exact ⟨.of_locks hdb (Locks.keeps_acquire (by simpa using havailable)), trivial⟩

theorem step_of_update (h : update crates i s salt userId changes = some (s', task')) :
    Steps crates i s s' task' := by
  unfold update at h
  split_ifs at h with havailable
  obtain ⟨huser, htokens⟩ := Bool.and_eq_true_iff.1 havailable
  split at h
  · cases h
    exact step_of_finish hdb _
  rename_i user db' hupdate
  cases h
  refine ⟨?_, trivial⟩
  cases user with
  | none =>
    obtain rfl := updateUserRow_eq_ok_none hupdate
    exact .of_locks hdb Locks.keeps_release
  | some =>
    obtain ⟨old, passwordHash, users, _, _, _, _, hold, -, hupdated, hdb'⟩ :=
      updateUserRow_eq_ok hupdate
    obtain ⟨old', hold', hrevoked⟩ := passwordResetTokens_updateUserRow hupdate
    obtain rfl : old' = old := Option.some.inj (hold'.symm.trans hold)
    have husers : ∀ u ∈ s.db.users, u ∈ db'.users ∨ s.locks.available i (.user u.id) = true := by
      intro u hu
      by_cases hid : u.id = userId
      · exact .inr (hid ▸ huser)
      rw [hdb']
      exact .inl ((mem_of_tryUpdate_eq_some hupdated).2
        ⟨u, hu, if_neg (by simpa using hid)⟩)
    split_ifs at hrevoked with hemail
    · have hsame : Advances (fun _ => False) s.db db' := .of_eq hrevoked
      exact .of_advances hdb Locks.keeps_release husers hsame fun _ _ => False.elim
    refine .of_advances hdb Locks.keeps_release husers (.of_revoke hrevoked)
      fun t ht hchanged => ?_
    have hsiblings : pendingAvailable i s userId = true := by
      simpa [changesEmail, hold, hemail] using htokens
    simp only [Bool.and_eq_true, beq_iff_eq, Option.isNone_iff_eq_none] at hchanged
    exact available_of_pendingAvailable hsiblings ht hchanged.1.1 ⟨hchanged.1.2, hchanged.2⟩

theorem step_of_proceed (htask : TaskSound crates i s task)
    (h : proceed crates i s token tokenId salt task = some (s', task')) :
    Steps crates i s s' task' := by
  cases task with
  | idle | returned => cases h
  | findingByEmail | findingByUsername =>
    exact step_of_lockEligible hdb (fun _ => hasEligible_of_find) (by trivial) h
  | revokingPending => exact step_of_revokePending hdb htask h
  | storing => exact (step_of_store hdb htask (Option.some.inj h)).1
  | findingToken => exact step_of_findToken hdb h
  | lockingAccount => exact step_of_lockAccount hdb htask h
  | consuming => exact (step_of_consume hdb htask h).1
  | revoking => exact step_of_revoke hdb h
  | lockingUser => exact step_of_lockUser hdb h
  | updating => exact step_of_update hdb h

theorem step_of_next (htask : TaskSound crates i s task)
    (h : next crates i a s task = some (s', task')) : Steps crates i s s' task' := by
  cases a with
  | call c =>
    simp only [next] at h
    split_ifs at h
    cases h
    refine ⟨.of_locks hdb .refl, ?_⟩
    cases c <;> trivial
  | proceed => exact step_of_proceed hdb htask h
  | miss =>
    obtain ⟨t, ht, heq⟩ := Option.map_eq_some_iff.1 h
    cases heq
    refine ⟨.of_locks hdb .refl, ?_⟩
    cases task <;> cases ht <;> trivial
  | fail =>
    simp only [next] at h
    split_ifs at h
    cases h
    exact step_of_finish hdb _

theorem legal_of_next (htask : TaskSound crates i s task)
    (h : next crates i a s task = some (s', task')) : Legal crates s.db s'.db task task' := by
  cases a with
  | call =>
    simp only [next] at h
    split_ifs at h
    cases h
    cases task <;> trivial
  | proceed =>
    cases task with
    | findingToken | lockingAccount =>
      simp only [next, proceed, findToken, lockAccount] at h
      split at h
      · cases h
        exact OnlyRevokes.refl
      split_ifs at h
      cases h
      exact OnlyRevokes.refl
    | consuming => exact (step_of_consume hdb htask h).2
    | storing => exact (step_of_store hdb htask (Option.some.inj h)).2
    | _ => trivial
  | miss =>
    obtain ⟨t, ht, heq⟩ := Option.map_eq_some_iff.1 h
    cases heq
    cases task <;> cases ht <;> first | trivial | exact OnlyRevokes.refl
  | fail =>
    simp only [next] at h
    split_ifs at h
    cases h
    cases task <;> first | trivial | exact OnlyRevokes.refl

omit hdb in
/-- Only a request that has locked its token and the account resets a password. -/
theorem consuming_of_reset (h : next crates i a s task = some (s', task'))
    (hreset : task'.isReset = true) : task.Consumes := by
  cases a with
  | call c =>
    simp only [next] at h
    split_ifs at h
    cases h
    cases c <;> cases hreset
  | miss => cases task <;> cases h <;> cases hreset
  | fail =>
    simp only [next] at h
    split_ifs at h
    cases h
    cases hreset
  | proceed =>
    cases task with
    | consuming => exact ⟨_, _, _, _, rfl⟩
    | idle | returned => cases h
    | _ =>
      simp only [next, proceed, lockEligible, revokePending, store, findToken, lockAccount, revoke,
        lockUser, update] at h
      repeat' split at h
      all_goals cases h <;> cases hreset

omit [DecidableEq ι] in
/-- The other requests change no token and no account that is locked. -/
theorem step_of_surroundings {other : Db}
    (h : surroundings other s = some s') : Step none s s' := by
  unfold surroundings at h
  split_ifs at h with hlocked
  cases h
  exact ⟨.refl, fun u hu j hj _ => hlocked u hu (by simp [hj]), fun _ ht _ _ _ => ht,
    fun t ht => ⟨t, ht, .refl⟩, fun t ht => .inl ⟨t, ht, .refl⟩, hdb⟩

end Steps

/-! ### Runs -/

/-- The tokens that the requests have presented which have reset a password. -/
def recordReset (resets : List (Option String)) (c : Config ι (Store ι) Task)
    (l : Action ι Input Db) (c' : Config ι (Store ι) Task) : List (Option String) :=
  match l with
  | .environment _ => resets
  | .request i _ => if (c'.request i).isReset then (c.request i).token :: resets else resets

/-- The tokens are consumed. -/
def Spent (crates : Crates) (db : Db) (tokens : List (Option String)) : Prop :=
  ∀ token ∈ tokens, ∃ text, token = some text ∧ ∃ t ∈ db.passwordResetTokens,
    t.tokenHash = tokenHash crates text ∧ t.consumedAt.isSome = true

/-- No account has two pending tokens, every request knows what it has read under its locks, and
the tokens that have been used are consumed. -/
structure Invariant (crates : Crates) (c : Config ι (Store ι) Task × List (Option String)) :
    Prop where
  exclusive : Exclusive c.1.shared.db
  tasks : ∀ i, TaskSound crates i c.1.shared (c.1.request i)
  spent : Spent crates c.1.shared.db c.2
  nodup : c.2.Nodup

/-- What a step of a run does: tokens keep their terms, and requests do to the database what they
are for. -/
def IsLegal (crates : Crates) (c : Config ι (Store ι) Task) (l : Action ι Input Db)
    (c' : Config ι (Store ι) Task) : Prop :=
  (∀ t ∈ c.shared.db.passwordResetTokens, ∃ t' ∈ c'.shared.db.passwordResetTokens, Follows t t') ∧
    ∀ i a, l = .request i a →
      Legal crates c.shared.db c'.shared.db (c.request i) (c'.request i) ∧
        ((c'.request i).isReset = true → (c.request i).Consumes)

variable {c c' : Config ι (Store ι) Task} {l : Action ι Input Db} {resets : List (Option String)}

omit [DecidableEq ι] in
theorem Spent.step (h : Spent crates s.db resets) (hs : Step mover s s') :
    Spent crates s'.db resets := by
  intro token htoken
  obtain ⟨text, htext, t, ht, hhash, hconsumed⟩ := h token htoken
  obtain ⟨t', ht', hfollows⟩ := hs.forward t ht
  exact ⟨text, htext, t', ht', hfollows.tokenHash.trans hhash,
    by rwa [hfollows.consumedAt hconsumed]⟩

/-- A token that is used has not been used before. -/
theorem IsReset.not_mem (h : IsReset crates token newPassword record account db db')
    (hspent : Spent crates db resets) :
    some token ∉ resets := by
  intro htoken
  obtain ⟨_, ⟨⟩, t, ht, hhash, hconsumed⟩ := hspent _ htoken
  obtain rfl : t = record := eq_of_key ht h.stored.1 (hhash.trans h.stored.2.symm)
  simp [h.pending.1] at hconsumed

theorem IsReset.spent (h : IsReset crates token newPassword record account db db')
    (hspent : Spent crates db' resets) :
    Spent crates db' (some token :: resets) := by
  rintro _ htoken
  obtain rfl | htoken := List.mem_cons.1 htoken
  · exact ⟨token, rfl, _, h.consumed, h.stored.2, rfl⟩
  · exact hspent _ htoken

omit [DecidableEq ι] in
theorem spent_recordReset (a : Input) (h : Spent crates c.shared.db resets) (hnodup : resets.Nodup)
    (hs : Step (some i) c.shared c'.shared)
    (hlegal : Legal crates c.shared.db c'.shared.db (c.request i) (c'.request i))
    (hreset : (c'.request i).isReset = true → (c.request i).Consumes) :
    Spent crates c'.shared.db (recordReset resets c (.request i a) c') ∧
      (recordReset resets c (.request i a) c').Nodup := by
  unfold recordReset
  dsimp only
  split
  · rename_i hanswer
    obtain ⟨token, newPassword, record, account, htask⟩ := hreset hanswer
    rw [htask] at hlegal ⊢
    unfold Task.isReset at hanswer
    split at hanswer
    · rename_i htask'
      rw [htask'] at hlegal
      exact ⟨hlegal.2.spent (h.step hs), List.nodup_cons.2 ⟨hlegal.2.not_mem h, hnodup⟩⟩
    · cases hanswer
  · exact ⟨h.step hs, hnodup⟩

theorem Invariant.step (h : Invariant crates (c, resets))
    (hstep : (protocol ι crates).system.step c l = some c') :
    Invariant crates (c', recordReset resets c l c') ∧ IsLegal crates c l c' := by
  obtain ⟨other, s', rfl, henv, rfl⟩ | ⟨i, a, s', task', rfl, hnext, rfl⟩ :=
    Protocol.step_cases hstep
  · have hs := step_of_surroundings h.exclusive henv
    exact ⟨⟨hs.exclusive, fun j => (h.tasks j).step hs nofun, h.spent.step hs, h.nodup⟩,
      hs.forward, fun _ _ => nofun⟩
  obtain ⟨hs, htask'⟩ := step_of_next h.exclusive (h.tasks i) hnext
  let c' : Config ι (Store ι) Task := ⟨s', Function.update c.request i task'⟩
  have hlegal : Legal crates c.shared.db c'.shared.db (c.request i) (c'.request i) := by
    rw [show c'.request i = task' from Function.update_self ..]
    exact legal_of_next h.exclusive (h.tasks i) hnext
  have hreset : (c'.request i).isReset = true → (c.request i).Consumes := by
    rw [show c'.request i = task' from Function.update_self ..]
    exact consuming_of_reset hnext
  obtain ⟨hspent, hnodup⟩ := spent_recordReset a h.spent h.nodup hs hlegal hreset
  refine ⟨⟨hs.exclusive, (Function.forall_update_iff _ _).2 ⟨htask', fun j hj =>
    (h.tasks j).step hs (by simpa using hj)⟩, hspent, hnodup⟩, hs.forward, fun j b heq => ?_⟩
  obtain ⟨rfl, -⟩ := Action.request.inj heq
  exact ⟨hlegal, hreset⟩

/-- In every run from a state in which no account has two pending tokens, none ever has two; no two
requests reset a password with the same token; and every step of a request that consumes a token
resets the password with everything that belongs to it, or changes at most the revocation of the
token. -/
theorem reset_tokens_used_once (crates : Crates) (c₀ c : Config ι (Store ι) Task)
    (ls : List (Action ι Input Db)) (resets : List (Option String))
    (hexclusive : Exclusive c₀.shared.db) (hidle : ∀ i, c₀.request i = .idle)
    (hrun : ((protocol ι crates).system.observe recordReset).run (c₀, []) ls =
      some (c, resets)) :
    Exclusive c.shared.db ∧ resets.Nodup ∧
      (protocol ι crates).system.Along (IsLegal crates) c₀ ls := by
  have hc₀ : Invariant crates (c₀, []) :=
    ⟨hexclusive, fun i => by rw [hidle i]; trivial, nofun, .nil⟩
  obtain ⟨hc, halong⟩ := System.observe_run_invariant
    (I := fun c resets => Invariant crates (c, resets)) hrun hc₀ (System.along_true _)
    fun _ _ _ _ hc _ hstep => hc.step hstep
  exact ⟨hc.exclusive, hc.nodup, halong⟩

/-- An account with a password and a verified email, and a session of each kind. -/
def sampleDb : Db where
  users :=
    .single { id := "u", username := "u", email := "u@e", passwordHash := some "old",
              emailVerified := true }
  principals := .single ⟨.user, "u", "u", true⟩
  refreshSessions :=
    .single { id := "r", principalId := principalId .user "u", clientId := "c"
              currentRefreshTokenId := "i", currentAccessJti := "j", expiresAt := 9 }
  browserSessions := .single { id := "b", sessionHash := "b", userId := "u", expiresAt := 9 }

def sampleConfig : Config (Fin 3) (Store (Fin 3)) Task :=
  ⟨⟨sampleDb, fun _ => none⟩, fun _ => .idle⟩

/-- A token is issued, and two requests try to use it. -/
def sampleRun : List (Action (Fin 3) Input Db) :=
  [.request 0 (.call (.issuePasswordResetToken "u@e" 60)), .request 0 (.proceed "" "" ""),
    .request 0 (.proceed "" "" ""), .request 0 (.proceed "t" "id" ""),
    .request 1 (.call (.consumePasswordResetToken "t" "new")),
    .request 2 (.call (.consumePasswordResetToken "t" "other")),
    .request 1 (.proceed "" "" ""), .request 1 (.proceed "" "" ""), .request 1 (.proceed "" "" ""),
    .request 2 (.proceed "" "" ""), .request 2 (.proceed "" "" ""), .request 2 (.proceed "" "" "")]

theorem reset_tokens_used_once_race :
    ∃ c, ((protocol (Fin 3) Crates.readable).system.observe recordReset).run (sampleConfig, [])
        sampleRun = some (c, [some "t"]) ∧
      c.request 1 = .returned (.consumed (.reset "u" 1 1)) ∧
      c.request 2 = .returned (.consumed .invalid) ∧
      Exclusive c.shared.db ∧ [some "t"].Nodup ∧
        (protocol (Fin 3) Crates.readable).system.Along (IsLegal Crates.readable) sampleConfig
          sampleRun :=
  ⟨_, rfl, rfl, rfl, reset_tokens_used_once Crates.readable sampleConfig _ sampleRun [some "t"]
    (fun _ h => absurd h not_mem_empty) (fun _ => rfl) rfl⟩

end Keylo.ResetTokens
