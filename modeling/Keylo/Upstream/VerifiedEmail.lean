import Keylo.Upstream.Login

/-!
# Verified email addresses

The flag `email_verified` of an account is set by a token that was sent to the address, by an
upstream login whose profile has the same, verified address, and by an administrator. It is cleared
when the address changes. An upstream login reads the account first and sets the flag in a later
transaction, which looks at the id of the account only.

Every transaction on an account locks its row before it reads it and keeps the lock to its end. The
transactions of one account therefore act one after the other, and are single steps here.

## Main definitions

* `issueEmailVerificationToken`, `consumeEmailVerificationToken`, `revokeEmailVerificationToken` :
  the transactions of `db/email_verification.rs`.
* `VerifiedEmail.protocol` : the requests that change addresses and flags.
* `VerifiedEmail.History` : what has been proven about the address of every account since the
  account has it.

## Main results

* `VerifiedEmail.verified_email_proven` : a flag that is set has been proven, as long as the logins
  set it for the address that they have read.
* `VerifiedEmail.changed_email_verified` : a login sets the flag for an address that was changed
  after it was read.
-/

namespace Keylo

open Relational Table

/-! ### Tokens -/

section Tokens

variable (crates : Crates) (db : Db)

structure IssuedEmailVerificationToken where
  id : String
  email : String
  token : String
  expiresAt : Int
deriving DecidableEq, Repr

/-- Revokes the pending tokens of the account and stores a new one for its address. -/
def issueEmailVerificationToken (token tokenId userId : String) (lifetimeSeconds : Int) :
    Except String (Option IssuedEmailVerificationToken × Db) :=
  match db.users.lookup User.id userId with
  | none => .ok (none, db)
  | some user =>
    if !user.active || user.emailVerified then .ok (none, db)
    else
      let expiresAt := db.clock.timestamp + max lifetimeSeconds 1
      let db := revokePendingEmailTokens db userId
      match db.emailVerificationTokens.insert
        { id := tokenId, userId := userId, emailSnapshot := user.email,
          tokenHash := tokenHash crates token, expiresAt := .ofTimestamp expiresAt } with
      | none => .error uniqueViolation
      | some tokens =>
        .ok (some ⟨tokenId, user.email, token, expiresAt⟩,
          { db with emailVerificationTokens := tokens })

/-- The token with the given text and its account. -/
def accountOfEmailToken (token : String) : Option (EmailVerificationToken × User) :=
  match db.emailVerificationTokens.lookup EmailVerificationToken.tokenHash
      (tokenHash crates token) with
  | none => none
  | some record =>
    match db.users.lookup User.id record.userId with
    | none => none
    | some account => some (record, account)

/-- Whether a stored token cannot be used for its account at the given time. -/
def emailTokenInvalid (now : Time) (token : EmailVerificationToken) (account : User) : Bool :=
  token.consumedAt.isSome || token.revokedAt.isSome || token.expiresAt ≤ now || !account.active ||
    account.email != token.emailSnapshot

/-- `SET consumed_at = NOW()`. -/
def consumeEmailToken (now : Time) : Assignment EmailVerificationToken :=
  ⟨fun t => { t with consumedAt := some now }, fun _ _ => rfl⟩

/-- Consumes a token for the address of its account; one that is not valid is revoked. The result
is the account that was verified. -/
def consumeEmailVerificationToken (token : String) : Option String × Db :=
  match accountOfEmailToken crates db token with
  | none => (none, db)
  | some (record, account) =>
    if emailTokenInvalid db.clock record account then
      (none,
        if record.consumedAt.isNone && record.revokedAt.isNone then
          { db with
            emailVerificationTokens := db.emailVerificationTokens.update (·.id == record.id)
              (revokeEmailToken db.clock) }
        else db)
    else
      let db := { db with
        emailVerificationTokens := db.emailVerificationTokens.update (·.id == record.id)
          (consumeEmailToken db.clock) }
      (some account.id,
        if account.emailVerified then db
        else { db with users := db.users.update (·.id == account.id) Upstream.setEmailVerified })

def revokeEmailVerificationToken (tokenId : String) : Db :=
  { db with
    emailVerificationTokens := db.emailVerificationTokens.update
      (fun t => t.id == tokenId && t.consumedAt.isNone && t.revokedAt.isNone)
      (revokeEmailToken db.clock) }

end Tokens

namespace VerifiedEmail

open Transition Upstream
open Program (guarantees_pure)

/-! ### Requests -/

inductive Call
  /-- A local account, or one that is imported; its address is not verified. -/
  | createUser (new : NewUser)
  | updateUser (userId : String) (changes : UserChanges)
  | issueEmailVerificationToken (userId : String) (lifetimeSeconds : Int)
  | consumeEmailVerificationToken (token : String)
  | revokeEmailVerificationToken (tokenId : String)
  /-- The request of an administrator. -/
  | verifyEmail (userId : String)
  /-- A login with a profile of a verified upstream identity. -/
  | upstreamLogin (source : IdentitySource) (profile : OidcUpstreamProfile)

inductive Answer
  | user (user : User)
  | issued (token : Option IssuedEmailVerificationToken)
  | verified (userId : String)
  | invalid
  | done

/-- The error of a function of the store, or of a login. -/
inductive Failure
  | store (error : String)
  | notFound
  | login (error : AuthError)

/-- How far a request has come. -/
inductive Phase
  | idle
  | called (call : Call)
  /-- The principal of an account is refreshed. -/
  | mirroring (user : User) (rest : Statements (Except String (Option Principal)))
  /-- An administrator has found the account. -/
  | marking (userId : String)
  | finding (source : IdentitySource) (profile : OidcUpstreamProfile)
      (rest : Statements (Except AuthError Resolution))
  /-- A login has read the account. -/
  | verifying (profile : OidcUpstreamProfile) (user : User)
  | creating (source : IdentitySource) (profile : OidcUpstreamProfile) (username : String)
  | binding (user : User) (rest : Statements (Except AuthError User))
  | answered (answer : Answer)
  | failed (failure : Failure)

def Phase.isReady : Phase → Bool
  | .idle | .answered _ | .failed _ => true
  | _ => false

inductive Input
  | call (call : Call)
  | proceed (o : Oracle)

section Statements

variable (crates : Crates) (db : Db) (o : Oracle)

/-- A transaction; one that fails changes nothing. -/
def transaction (failure : String → Failure) (f : Db → Except String (Phase × Db)) : Db × Phase :=
  match outcome (fun _ => f) o db with
  | .ok (phase, db') => (db', phase)
  | .error e => (db.tick o.elapsed, .failed (failure e))

/-- What follows the resolution of a user. -/
def resolved (source : IdentitySource) (profile : OidcUpstreamProfile) : Resolution → Phase
  | .existing user => .verifying profile user
  | .jit username => .creating source profile username

/-- The first statement of a request. -/
def start : Call → Db × Phase
  | .createUser new =>
    transaction db o .store fun db =>
      (insertUser crates db o.salt o.uuid { new with emailVerified := false }).map fun r =>
        (.mirroring r.1 (Handler.ensureUserPrincipal r.1.id).run, r.2)
  | .updateUser userId changes =>
    transaction db o .store fun db =>
      (updateUserRow crates db o.salt userId changes).map fun r =>
        (r.1.elim (.answered .done) fun user =>
          .mirroring user (Handler.ensureUserPrincipal user.id).run, r.2)
  | .issueEmailVerificationToken userId lifetimeSeconds =>
    transaction db o .store fun db =>
      (issueEmailVerificationToken crates db o.uuid o.uuid' userId lifetimeSeconds).map fun r =>
        (.answered (.issued r.1), r.2)
  | .consumeEmailVerificationToken token =>
    transaction db o .store fun db =>
      let r := consumeEmailVerificationToken crates db token
      .ok (.answered (r.1.elim .invalid .verified), r.2)
  | .revokeEmailVerificationToken tokenId =>
    transaction db o .store fun db => .ok (.answered .done, revokeEmailVerificationToken db tokenId)
  | .verifyEmail userId =>
    transaction db o .store fun db =>
      .ok ((db.users.lookup User.id userId).elim (.failed .notFound) fun user =>
        .marking user.id, db)
  | .upstreamLogin source profile =>
    (db, .finding source profile (findOidcUpstreamUser crates source profile).run)

/-- The flag is set if the address that was read is the one of the profile. -/
def applyVerification (profile : OidcUpstreamProfile) (user : User) : Db × Phase :=
  if !upstreamEmailMatchesLocal profile user.email then (db, .answered (.user user))
  else
    transaction db o (fun _ => .login (.databaseError "Failed to persist email verification"))
      fun db => .ok (.answered (.user user), markUserEmailVerified db user.id)

/-- The next statement of a request. -/
def proceed : Phase → Option (Db × Phase)
  | .idle | .answered _ | .failed _ => none
  | .called call => some (start crates db o call)
  | .mirroring user rest =>
    some (rest.advance o db (.mirroring user) (.failed ∘ .store) fun _ => .answered (.user user))
  | .marking userId =>
    some (transaction db o .store fun db =>
      .ok (.answered (.verified userId), markUserEmailVerified db userId))
  | .finding source profile rest =>
    some (rest.advance o db (.finding source profile) (.failed ∘ .login) (resolved source profile))
  | .verifying profile user => some (applyVerification db o profile user)
  | .creating source profile username =>
    some (transaction db o (fun e => .login (jitError e)) fun db =>
      (insertUser crates db o.salt o.uuid (jitUser source profile username)).map fun r =>
        (.binding r.1 (bindJitUser crates source profile r.1).run, r.2))
  | .binding user rest =>
    some (rest.advance o db (.binding user) (.failed ∘ .login) fun user => .answered (.user user))

end Statements

/-- Other requests create no accounts, and change neither addresses nor their flags. -/
def keepsEmails (db other : Db) : Bool :=
  other.users.rows.all fun u => db.users.any fun v =>
    v.id == u.id && v.email == u.email && v.emailVerified == u.emailVerified

/-- The requests that change addresses and flags, among others. -/
def protocol (crates : Crates) (ι : Type*) : Protocol ι Db Phase Input Db where
  next _ input db phase :=
    match input with
    | .call call => if phase.isReady then some (db, .called call) else none
    | .proceed o => proceed crates db o phase
  env other db := if keepsEmails db other then some other else none

/-! ### What has been proven -/

/-- What proves an address. -/
inductive Evidence
  /-- A token for the address was consumed. -/
  | token (address : String)
  /-- A profile was processed. -/
  | profile (profile : OidcUpstreamProfile)
  | administrator
deriving DecidableEq

/-- The evidence is about the given address. -/
def Evidence.proves (email : String) : Evidence → Bool
  | .token address => address == email
  | .profile p => p.emailVerified && eqIgnoreAsciiCase p.email email
  | .administrator => true

/-- For every account, what has been processed since it has its address. -/
abbrev History := String → List Evidence

def emailOf (db : Db) (userId : String) : Option String :=
  (db.users.lookup User.id userId).map User.email

/-- What a successful statement proves, and the account it is about. -/
def evidence (crates : Crates) (db : Db) : Phase → Phase → Option (String × Evidence)
  | .called (.consumeEmailVerificationToken token), .answered (.verified userId) =>
    (db.emailVerificationTokens.lookup EmailVerificationToken.tokenHash
      (tokenHash crates token)).map fun record => (userId, .token record.emailSnapshot)
  | .marking userId, .answered _ => some (userId, .administrator)
  | .verifying profile user, .answered _ => some (user.id, .profile profile)
  | .creating _ profile _, .binding user _ => some (user.id, .profile profile)
  | _, _ => none

/-- An account whose address changes has nothing proven; a statement adds what it proves. -/
def remember (h : History) (db db' : Db) (proof : Option (String × Evidence)) : History :=
  fun userId =>
    ((proof.filter (·.1 == userId)).map Prod.snd).toList ++
      if emailOf db userId = emailOf db' userId then h userId else []

variable {ι : Type*} [DecidableEq ι]

/-- The history after a step. -/
def record (crates : Crates) (h : History) (c : Config ι Db Phase) :
    Action ι Input Db → Config ι Db Phase → History
  | .request i _, c' =>
    remember h c.shared c'.shared (evidence crates c.shared (c.request i) (c'.request i))
  | .environment _, c' => remember h c.shared c'.shared none

/-- Every address with the flag has been proven since the account has it. -/
def Proven (db : Db) (h : History) : Prop :=
  ∀ u ∈ db.users, u.emailVerified = true → ∃ e ∈ h u.id, e.proves u.email = true

/-- A login that sets the flag finds the address that it has read, without blanks around it. -/
def careful (c : Config ι Db Phase) : Action ι Input Db → Bool
  | .request i (.proceed _) =>
    match c.request i with
    | .verifying profile user =>
      !upstreamEmailMatchesLocal profile user.email ||
        (c.shared.users.lookup User.id user.id).all fun u =>
          u.emailVerified || u.email == user.email && trim u.email == u.email
    | _ => true
  | _ => true

/-! ### Statements -/

/-- The accounts with a flag have had it before, or the statement has proven their address. -/
def Justified (db db' : Db) (proof : Option (String × Evidence)) : Prop :=
  ∀ u' ∈ db'.users, u'.emailVerified = true →
    (∃ u ∈ db.users, u.id = u'.id ∧ u.email = u'.email ∧ u.emailVerified = true) ∨
      ∃ e : Evidence, proof = some (u'.id, e) ∧ e.proves u'.email = true

/-- Accounts are deleted at most. -/
def KeepsUsers (db db' : Db) : Prop := ∀ u ∈ db'.users, u ∈ db.users

section Facts

variable {crates : Crates} {db db' : Db} {h : History} {proof : Option (String × Evidence)}
  {userId : String}

theorem KeepsUsers.of_eq (h : db'.users = db.users) : KeepsUsers db db' := fun _ hu => h ▸ hu

theorem KeepsUsers.justified (h : KeepsUsers db db') : Justified db db' proof :=
  fun u hu hflag => .inl ⟨u, h u hu, rfl, rfl, hflag⟩

theorem Justified.proven (hjustified : Justified db db' proof) (hproven : Proven db h) :
    Proven db' (remember h db db' proof) := by
  intro u' hu' hflag
  obtain ⟨u, hu, hid, hemail, hverified⟩ | ⟨e, rfl, he⟩ := hjustified u' hu' hflag
  · obtain ⟨e, hmem, he⟩ := hproven u hu hverified
    have hsame : emailOf db u'.id = emailOf db' u'.id := by
      rw [emailOf, emailOf, lookup_eq_some_iff.2 ⟨hu, hid⟩,
        lookup_eq_some_iff.2 ⟨hu', rfl⟩, Option.map_some, Option.map_some, hemail]
    refine ⟨e, List.mem_append_right _ ?_, hemail ▸ he⟩
    rwa [if_pos hsame, ← hid]
  · exact ⟨e, List.mem_append_left _ (by simp), he⟩

variable {salt id token : String} {changes : UserChanges} {new : NewUser} {user : User}

theorem emailVerified_of_insertUser (hinsert : insertUser crates db salt id new = .ok (user, db')) :
    user.emailVerified = new.emailVerified := by
  unfold insertUser at hinsert
  split at hinsert
  · cases hinsert
  dsimp only at hinsert
  split at hinsert <;> cases hinsert
  rfl

theorem Justified.of_tick {n : ℕ} (h : Justified (db.tick n) db' proof) :
    Justified db db' proof := h

theorem justified_insertUser (hinsert : insertUser crates db salt id new = .ok (user, db'))
    (hproof : new.emailVerified = true →
      ∃ e : Evidence, proof = some (user.id, e) ∧ e.proves new.email = true) :
    Justified db db' proof := by
  intro u hu hflag
  obtain ⟨-, -, hemail, -, users, hrow, rfl⟩ := insertUser_eq_ok hinsert
  obtain rfl | hu := (mem_of_insert_eq_some hrow).1 hu
  · rw [hemail]
    exact .inr (hproof (emailVerified_of_insertUser hinsert ▸ hflag))
  · exact .inl ⟨u, hu, rfl, rfl, hflag⟩

/-- The flag of a changed row has been there before, and its address is the same. -/
theorem emailVerified_apply {passwordHash : Option String} {u : User}
    (hflag : (changes.apply passwordHash u).emailVerified = true) :
    u.email = (changes.apply passwordHash u).email ∧ u.emailVerified = true := by
  obtain ⟨hemail, hverified⟩ := Bool.and_eq_true_iff.1 hflag
  refine ⟨?_, hverified⟩
  cases h : changes.email with
  | none => simp [UserChanges.apply, h]
  | some email =>
    have heq : email = u.email := by simpa [h] using hemail
    simp [UserChanges.apply, h, heq]

theorem justified_updateUserRow {found : Option User}
    (hupdate : updateUserRow crates db salt userId changes = .ok (found, db')) :
    Justified db db' proof := by
  cases found with
  | none =>
    rw [updateUserRow_eq_ok_none hupdate]
    exact (KeepsUsers.of_eq rfl).justified
  | some =>
    intro u' hu' hflag
    obtain ⟨old, passwordHash, users, _, _, _, _, -, -, hrow, rfl⟩ := updateUserRow_eq_ok hupdate
    obtain ⟨u, hu, rfl⟩ := (mem_of_tryUpdate_eq_some hrow).1 hu'
    left
    by_cases hid : (u.id == userId) = true
    · rw [if_pos hid] at hflag ⊢
      obtain ⟨hemail, hverified⟩ := emailVerified_apply hflag
      exact ⟨u, hu, rfl, hemail, hverified⟩
    · rw [if_neg hid] at hflag ⊢
      exact ⟨u, hu, rfl, rfl, hflag⟩

/-- A flag that is set for the accounts with the property `p` has to be proven for them. -/
theorem justified_setEmailVerified {p : User → Bool}
    (husers : db'.users = db.users.update p setEmailVerified)
    (hproof : ∀ u ∈ db.users, p u = true → u.emailVerified = false →
      ∃ e : Evidence, proof = some (u.id, e) ∧ e.proves u.email = true) :
    Justified db db' proof := by
  intro u' hu' hflag
  rw [husers] at hu'
  obtain ⟨u, hu, rfl⟩ := mem_update.1 hu'
  by_cases hp : p u = true
  · rw [if_pos hp]
    cases hverified : u.emailVerified with
    | true => exact .inl ⟨u, hu, rfl, rfl, hverified⟩
    | false => exact .inr (hproof u hu hp hverified)
  · rw [if_neg hp] at hflag ⊢
    exact .inl ⟨u, hu, rfl, rfl, hflag⟩

theorem users_issueEmailVerificationToken {tokenId : String} {lifetimeSeconds : Int}
    {issued : Option IssuedEmailVerificationToken}
    (hissue : issueEmailVerificationToken crates db token tokenId userId lifetimeSeconds =
      .ok (issued, db')) : db'.users = db.users := by
  unfold issueEmailVerificationToken at hissue
  split at hissue
  · cases hissue
    rfl
  split_ifs at hissue
  · cases hissue
    rfl
  dsimp only at hissue
  split at hissue <;> cases hissue
  rfl

theorem accountOfEmailToken_eq_some {record : EmailVerificationToken} {account : User}
    (haccount : accountOfEmailToken crates db token = some (record, account)) :
    db.emailVerificationTokens.lookup EmailVerificationToken.tokenHash (tokenHash crates token) =
      some record ∧ account ∈ db.users := by
  unfold accountOfEmailToken at haccount
  split at haccount
  · cases haccount
  rename_i hrecord
  split at haccount
  · cases haccount
  rename_i hlookup
  cases haccount
  exact ⟨hrecord, (lookup_eq_some_iff.1 hlookup).1⟩

/-- A token that is consumed was for the address that its account has. -/
theorem justified_consumeEmailVerificationToken (token : String) :
    Justified db (consumeEmailVerificationToken crates db token).2
      (evidence crates db (.called (.consumeEmailVerificationToken token))
        (.answered ((consumeEmailVerificationToken crates db token).1.elim .invalid
          .verified))) := by
  unfold consumeEmailVerificationToken
  split
  · exact (KeepsUsers.of_eq rfl).justified
  rename_i record account haccount
  obtain ⟨hrecord, huser⟩ := accountOfEmailToken_eq_some haccount
  split_ifs with hinvalid hpending hverified
  · exact (KeepsUsers.of_eq rfl).justified
  · exact (KeepsUsers.of_eq rfl).justified
  · exact (KeepsUsers.of_eq rfl).justified
  refine justified_setEmailVerified rfl fun u hu hid _ => ?_
  have hkey : User.id u = User.id account := beq_iff_eq.1 hid
  obtain rfl := eq_of_key hu huser hkey
  have hemail : record.emailSnapshot = u.email := by
    simp only [emailTokenInvalid, Bool.or_eq_true, not_or, bne_iff_ne, ne_eq,
      not_not] at hinvalid
    exact hinvalid.2.symm
  exact ⟨.token record.emailSnapshot, by simp [evidence, hrecord], by simpa [Evidence.proves]⟩

end Facts

/-! ### Requests -/

/-- The rest of a request deletes accounts at most. -/
def Phase.Sound : Phase → Prop
  | .mirroring _ rest => rest.Guarantees KeepsUsers
  | .finding _ _ rest => rest.Guarantees KeepsUsers
  | .binding _ rest => rest.Guarantees KeepsUsers
  | _ => True

section Requests

variable {crates : Crates} {db db' : Db} {o : Oracle}

instance : Anonymous.Mirrors KeepsUsers where
  tick _ _ := .of_eq rfl
  mirror _ _ _ _ _ _ := .of_eq rfl

theorem keepsUsers_insertMapping {n : ℕ} {provider externalUserId userId : String}
    (h : insertMapping crates (db.tick n) provider externalUserId userId = .ok db') :
    KeepsUsers db db' := by
  unfold insertMapping at h
  split_ifs at h
  split at h
  · cases h
  rename_i hcreate
  cases h
  obtain ⟨_, -, rfl⟩ := Option.map_eq_some_iff.1 hcreate
  exact .of_eq rfl

theorem keepsUsers_deleteUser (db : Db) (n : ℕ) (userId : String) :
    KeepsUsers db (deleteUser (db.tick n) userId) := by
  unfold deleteUser
  split
  · exact .of_eq rfl
  dsimp only
  split_ifs
  · exact .of_eq rfl
  · exact fun u hu => (mem_delete.1 hu).1

theorem guarantees_find (source : IdentitySource) (profile : OidcUpstreamProfile) :
    (findOidcUpstreamUser crates source profile).run.Guarantees KeepsUsers :=
  guarantees_findOidcUpstreamUser fun _ _ _ _ => keepsUsers_insertMapping

theorem guarantees_bind (source : IdentitySource) (profile : OidcUpstreamProfile) (user : User) :
    (bindJitUser crates source profile user).run.Guarantees KeepsUsers := by
  refine guarantees_bindJitUser (fun _ _ _ _ => keepsUsers_insertMapping)
    (fun db n _ _ _ db' h => ?_) keepsUsers_deleteUser user
  obtain ⟨_, _, _, -, -, -, rfl⟩ := upsertOrganizationMembership_eq_ok h
  split_ifs <;> exact .of_eq rfl

/-- What a careful step of a request does. -/
def StepFacts (crates : Crates) (db : Db) (phase : Phase) (db' : Db) (phase' : Phase) : Prop :=
  Justified db db' (evidence crates db phase phase') ∧ phase'.Sound

theorem StepFacts.of_keepsUsers {phase phase' : Phase} (h : KeepsUsers db db')
    (hsound : phase'.Sound) : StepFacts crates db phase db' phase' :=
  ⟨h.justified, hsound⟩

variable {phase : Phase}

theorem stepFacts_transaction {failure : String → Failure} {f : Db → Except String (Phase × Db)}
    (hok : ∀ phase' db', f (db.tick o.elapsed) = .ok (phase', db') →
      StepFacts crates db phase db' phase') :
    StepFacts crates db phase (transaction db o failure f).1 (transaction db o failure f).2 := by
  unfold transaction
  cases h : outcome (fun _ => f) o db with
  | error => exact .of_keepsUsers (.of_eq rfl) trivial
  | ok r => exact hok r.1 r.2 (outcome_eq_ok h)

theorem stepFacts_advance {ε α : Type} {part : Statements (Except ε α) → Phase}
    {failure : ε → Failure} {done : α → Phase} {rest : Statements (Except ε α)}
    (hrest : rest.Guarantees KeepsUsers) (hdone : ∀ a, (done a).Sound)
    (hpart : ∀ rest, rest.Guarantees KeepsUsers → (part rest).Sound) :
    StepFacts crates db phase (rest.advance o db part (.failed ∘ failure) done).1
      (rest.advance o db part (.failed ∘ failure) done).2 := by
  refine Program.advance_cases (C := fun r => StepFacts crates db phase r.1 r.2)
    (fun _ => .of_keepsUsers (.of_eq rfl) trivial)
    (fun a _ => .of_keepsUsers (.of_eq rfl) (hdone a)) fun db' rest' hnext => ?_
  obtain ⟨hwrite, hrest'⟩ := hrest.next hnext
  exact .of_keepsUsers hwrite (hpart _ hrest')

theorem stepFacts_start (call : Call) :
    StepFacts crates db (.called call) (start crates db o call).1 (start crates db o call).2 := by
  cases call with
  | createUser =>
    refine stepFacts_transaction fun phase db' h => ?_
    obtain ⟨r, hinsert, hr⟩ := map_eq_ok.1 h
    cases hr
    exact ⟨(justified_insertUser hinsert fun h => by cases h).of_tick,
      Anonymous.guarantees_ensurePrincipal .user _⟩
  | updateUser =>
    refine stepFacts_transaction fun phase db' h => ?_
    obtain ⟨⟨found, _⟩, hupdate, hr⟩ := map_eq_ok.1 h
    cases hr
    refine ⟨(justified_updateUserRow hupdate).of_tick, ?_⟩
    cases found with
    | none => trivial
    | some => exact Anonymous.guarantees_ensurePrincipal .user _
  | issueEmailVerificationToken =>
    refine stepFacts_transaction fun phase db' h => ?_
    obtain ⟨r, hissue, hr⟩ := map_eq_ok.1 h
    cases hr
    have husers : r.2.users = (db.tick o.elapsed).users := users_issueEmailVerificationToken hissue
    exact .of_keepsUsers (.of_eq husers) trivial
  | consumeEmailVerificationToken token =>
    refine stepFacts_transaction fun phase db' h => ?_
    cases h
    exact ⟨justified_consumeEmailVerificationToken token, trivial⟩
  | revokeEmailVerificationToken =>
    refine stepFacts_transaction fun phase db' h => ?_
    cases h
    exact .of_keepsUsers (.of_eq rfl) trivial
  | verifyEmail userId =>
    refine stepFacts_transaction fun phase db' h => ?_
    cases h
    refine .of_keepsUsers (.of_eq rfl) ?_
    cases (db.tick o.elapsed).users.lookup User.id userId <;> trivial
  | upstreamLogin source profile =>
    exact .of_keepsUsers (.of_eq rfl) (guarantees_find source profile)

/-- A login sets the flag for an address that is the one of its profile. -/
theorem stepFacts_applyVerification {profile : OidcUpstreamProfile} {user : User}
    (hcareful : upstreamEmailMatchesLocal profile user.email = true → ∀ u ∈ db.users,
      u.id = user.id → u.emailVerified = false → u.email = user.email ∧ trim u.email = u.email) :
    StepFacts crates db (.verifying profile user) (applyVerification db o profile user).1
      (applyVerification db o profile user).2 := by
  unfold applyVerification
  split_ifs with hmatches
  · exact .of_keepsUsers (.of_eq rfl) trivial
  have hmatches' : upstreamEmailMatchesLocal profile user.email = true := by
    simpa using hmatches
  refine stepFacts_transaction fun phase db' h => ?_
  cases h
  refine ⟨justified_setEmailVerified rfl fun u hu hp hverified => ?_, trivial⟩
  have hid : u.id = user.id := by
    simp only [Bool.and_eq_true, beq_iff_eq] at hp
    exact hp.1
  obtain ⟨hemail, htrim⟩ := hcareful hmatches' u hu hid hverified
  refine ⟨.profile profile, by simp [evidence, hid], ?_⟩
  rw [upstreamEmailMatchesLocal, ← hemail, htrim] at hmatches'
  exact hmatches'

theorem stepFacts_proceed {r : Db × Phase} (hsound : phase.Sound)
    (hcareful : ∀ profile user, phase = .verifying profile user →
      upstreamEmailMatchesLocal profile user.email = true → ∀ u ∈ db.users,
      u.id = user.id → u.emailVerified = false → u.email = user.email ∧ trim u.email = u.email)
    (hproceed : proceed crates db o phase = some r) : StepFacts crates db phase r.1 r.2 := by
  cases phase with
  | idle | answered _ | failed _ => cases hproceed
  | called call =>
    cases hproceed
    exact stepFacts_start call
  | mirroring | binding =>
    cases hproceed
    exact stepFacts_advance hsound (fun _ => trivial) fun _ => id
  | marking =>
    cases hproceed
    refine stepFacts_transaction fun phase db' h => ?_
    cases h
    refine ⟨justified_setEmailVerified rfl fun u _ hp _ => ⟨.administrator, ?_, rfl⟩, trivial⟩
    simp only [Bool.and_eq_true, beq_iff_eq] at hp
    simp [evidence, hp.1]
  | finding =>
    cases hproceed
    refine stepFacts_advance hsound (fun resolution => ?_) fun _ => id
    cases resolution <;> trivial
  | verifying profile user =>
    cases hproceed
    exact stepFacts_applyVerification (hcareful profile user rfl)
  | creating source profile =>
    cases hproceed
    refine stepFacts_transaction fun phase db' h => ?_
    obtain ⟨r, hinsert, hr⟩ := map_eq_ok.1 h
    cases hr
    refine ⟨(justified_insertUser hinsert fun hverified => ?_).of_tick, guarantees_bind _ _ _⟩
    refine ⟨.profile profile, rfl, ?_⟩
    exact Bool.and_eq_true_iff.2 ⟨hverified, beq_self_eq_true _⟩

end Requests

/-! ### Runs -/

section Runs

variable {crates : Crates} {c c' : Config ι Db Phase} {a : Action ι Input Db} {h : History}

theorem justified_of_keepsEmails {db other : Db} (hkeeps : keepsEmails db other = true) :
    Justified db other none := by
  intro u' hu' hflag
  obtain ⟨u, hu, hsame⟩ := any_eq_true.1 (List.all_eq_true.1 hkeeps u' hu')
  simp only [Bool.and_eq_true, beq_iff_eq] at hsame
  exact .inl ⟨u, hu, hsame.1.1, hsame.1.2, hsame.2.trans hflag⟩

omit [DecidableEq ι] in
theorem addressUnchanged_of_careful {i : ι} {o : Oracle} {profile : OidcUpstreamProfile}
    {user : User} (hcareful : careful c (.request i (.proceed o)) = true)
    (hphase : c.request i = .verifying profile user)
    (hmatches : upstreamEmailMatchesLocal profile user.email = true) {u : User}
    (hu : u ∈ c.shared.users) (hid : u.id = user.id) (hverified : u.emailVerified = false) :
    u.email = user.email ∧ trim u.email = u.email := by
  simpa [careful, hphase, hmatches, lookup_eq_some_iff.2 ⟨hu, hid⟩, hverified] using hcareful

/-- The requests are sound and the flags have been proven. -/
structure Invariant (c : Config ι Db Phase) (h : History) : Prop where
  sound : ∀ i, (c.request i).Sound
  proven : Proven c.shared h

theorem Invariant.step (hinvariant : Invariant c h) (hcareful : careful c a = true)
    (hstep : (protocol crates ι).system.step c a = some c') :
    Invariant c' (record crates h c a c') := by
  obtain ⟨other, db, rfl, henv, rfl⟩ | ⟨i, input, db, phase, rfl, hnext, rfl⟩ :=
    Protocol.step_cases hstep
  · simp only [protocol] at henv
    split_ifs at henv with hkeeps
    cases henv
    exact ⟨hinvariant.sound, (justified_of_keepsEmails hkeeps).proven hinvariant.proven⟩
  have hfacts : StepFacts crates c.shared (c.request i) db phase := by
    cases input with
    | call =>
      simp only [protocol] at hnext
      split_ifs at hnext
      cases hnext
      exact .of_keepsUsers (.of_eq rfl) trivial
    | proceed =>
      exact stepFacts_proceed (hinvariant.sound i)
        (fun profile user hphase hmatches u =>
          addressUnchanged_of_careful hcareful hphase hmatches) hnext
  have hproven := hfacts.1.proven hinvariant.proven
  exact ⟨(Function.forall_update_iff _ fun _ => Phase.Sound).2
    ⟨hfacts.2, fun j _ => hinvariant.sound j⟩, by simpa [record] using hproven⟩

/-- In every run in which the logins find the addresses that they have read when they set the flag,
every flag that is set has been proven since the account has its address. -/
theorem verified_email_proven (crates : Crates) {c₀ : Config ι Db Phase} {h₀ : History}
    {ls : List (Action ι Input Db)} {c : Config ι Db Phase} {h : History}
    (hidle : ∀ i, c₀.request i = .idle) (hstart : Proven c₀.shared h₀)
    (hcareful : (protocol crates ι).system.Along (fun c a _ => careful c a = true) c₀ ls)
    (hrun : ((protocol crates ι).system.observe (record crates)).run (c₀, h₀) ls = some (c, h)) :
    Proven c.shared h := by
  have hinvariant : Invariant c₀ h₀ := ⟨fun i => by rw [hidle i]; trivial, hstart⟩
  exact (System.observe_run_invariant (I := Invariant) (Q := fun _ _ _ => True) hrun hinvariant
    hcareful fun _ _ _ _ hx hcareful hstep => ⟨hx.step hcareful hstep, trivial⟩).1.proven

end Runs

/-! ### A changed address -/

/-- An account that is linked to an identity of a source, and not verified. -/
def linkedAccount : Config (Fin 2) Db Phase :=
  ⟨{ users := .single { id := "u", username := "ada", email := "ada@example.org" }
     externalUserMappings :=
      .single ⟨"oidc_upstream:s", Import.externalSubjectHash .readable "7", "u"⟩ },
    fun _ => .idle⟩

def upstreamProfile : OidcUpstreamProfile := ⟨"7", "ada", "ada@example.org", true⟩

/-- A login that has read the account, and whose next statement sets the flag. -/
def loginUntilVerification : List (Action (Fin 2) Input Db) :=
  .request 0 (.call (.upstreamLogin { id := "s", name := "s" } upstreamProfile)) ::
    List.replicate 5 (.request 0 (.proceed {}))

theorem proven_linkedAccount : Proven linkedAccount.shared fun _ => [] := by
  intro u hu hflag
  obtain rfl := List.mem_singleton.1 hu
  cases hflag

theorem verified_email_proven_login :
    ∃ c h, ((protocol .readable (Fin 2)).system.observe (record .readable)).run
        (linkedAccount, fun _ => []) (loginUntilVerification ++ [.request 0 (.proceed {})]) =
          some (c, h) ∧
      c.shared.users.rows.map (fun u => (u.email, u.emailVerified)) = [("ada@example.org", true)] ∧
      h "u" = [.profile upstreamProfile] ∧ Proven c.shared h := by
  have hcareful : (protocol .readable (Fin 2)).system.Along (fun c a _ => careful c a = true)
      linkedAccount (loginUntilVerification ++ [.request 0 (.proceed {})]) := by decide
  exact ⟨_, _, rfl, by decide, by decide,
    verified_email_proven .readable (fun _ => rfl) proven_linkedAccount hcareful rfl⟩

/-- The address is changed after a login has read it; the login sets the flag for the new one. -/
theorem changed_email_verified :
    Proven linkedAccount.shared (fun _ => []) ∧
    ∃ c h, ((protocol .readable (Fin 2)).system.observe (record .readable)).run
        (linkedAccount, fun _ => []) (loginUntilVerification ++
          [.request 1 (.call (.updateUser "u" { email := some "eve@example.org" })),
            .request 1 (.proceed {}), .request 0 (.proceed {})]) = some (c, h) ∧
      c.shared.users.rows.map (fun u => (u.email, u.emailVerified)) = [("eve@example.org", true)] ∧
      h "u" = [.profile upstreamProfile] ∧ ¬ Proven c.shared h := by
  refine ⟨proven_linkedAccount, _, _, rfl, by decide, by decide, fun hproven => ?_⟩
  obtain ⟨e, he, hproves⟩ := hproven
    { id := "u", username := "ada", email := "eve@example.org", emailVerified := true }
    (by decide) rfl
  obtain rfl : e = .profile upstreamProfile := List.mem_singleton.1 he
  exact absurd hproves (by decide)

end VerifiedEmail

end Keylo
