import Keylo.Import
import Keylo.Foundation.Locks

/-!
# Linking and unlinking login methods

A user logs in with a password, through an external identity source, or with an OAuth account. An
external mapping is removed under a lock of the account, after a look at the other login methods.
An OAuth account is removed by a single statement, which looks at nothing.

Statements are single steps. A transaction keeps the rows it has locked until it ends; a row that
comes to refer to an account waits for a lock of that account, a row that is removed or moved to
another account does not.

## Main definitions

* `hasLoginMethod` : a user can still log in.
* `proceed` : the next statement of a request.
* `careful` : OAuth accounts and mappings are taken away from users who keep a login method and
  whose account is not locked.

## Main results

* `unlink_keeps_login_method` : an unlink never takes the last login method, as long as all steps
  are careful.
* `last_oauth_account_unlinked` : an only OAuth account is removed, and an unlink of a mapping
  relies on an OAuth account that is gone before it commits.
-/

namespace Keylo.Unlink

open Relational Transition Keylo.Import Table

/-! ### Login methods -/

section Methods

variable (db : Db) (userId : String)

def hasPassword : Bool := db.users.any fun u => u.id == userId && u.passwordHash.isSome

/-- A mapping of the user at a provider with the property `p`. -/
def hasMapping (p : String → Bool) : Bool :=
  db.externalUserMappings.any fun m => m.userId == userId && p m.provider

/-- An OAuth account of the user at a provider with the property `p`. -/
def hasOauthAccount (p : String → Bool) : Bool :=
  db.userOauthAccounts.any fun a => a.userId == userId && p a.providerId

/-- The user can still log in. -/
def hasLoginMethod : Bool :=
  hasPassword db userId || hasMapping db userId (fun _ => true) ||
    hasOauthAccount db userId fun _ => true

def userExists : Bool := db.users.any (·.id == userId)

end Methods

/-! ### Requests -/

/-- The functions of the store that link and unlink login methods. An account that is linked comes
with the identifier drawn for it. -/
inductive Call
  | unlinkExternalUserMapping (provider userId : String)
  | unlinkOauthAccount (userId providerId : String)
  | upsertExternalUserMapping (provider externalUserId userId : String)
  | createExternalUserMapping (provider externalUserId userId : String)
  | linkOauthAccount (account : UserOauthAccount)
deriving DecidableEq

inductive Reply
  | linked
  | notFound
  | lastLoginMethod
  | conflict
  | databaseError
deriving DecidableEq

/-- How far a request has come. -/
inductive Phase
  | idle
  | called (call : Call)
  /-- The account is locked. -/
  | locked (provider userId : String) (hasPassword : Bool)
  /-- The user has a mapping at the provider. -/
  | found (provider userId : String) (hasPassword : Bool)
  /-- The mappings at other providers have been read. -/
  | compared (provider userId : String) (hasPassword hasOtherExternalMapping : Bool)
  /-- Another login method has been found. -/
  | allowed (provider userId : String)
  /-- The rows are deleted, and the transaction is not yet committed. -/
  | deleted (provider userId : String) (rows : List ExternalUserMapping)
  /-- The identity at the OAuth provider is not linked yet. -/
  | linking (account : UserOauthAccount)
  | unlinked (userId : String)
  | answered (reply : Reply)
deriving DecidableEq

/-- The request has been made and is not answered. -/
def Phase.active : Phase → Bool
  | .idle | .unlinked _ | .answered _ => false
  | _ => true

/-- Rows that are locked. -/
inductive LockedRow
  | user (id : String)
  | mapping (subject : String × String)
deriving DecidableEq

/-- The database and the locks of the transactions that are open. -/
structure Store (ι : Type*) where
  db : Db
  locks : Locks LockedRow ι

inductive Input
  | call (call : Call)
  | proceed
  /-- The connection to the database fails. -/
  | fail
deriving DecidableEq

section Statements

variable {ι : Type*} [DecidableEq ι] (crates : Crates) (i : ι) (s : Store ι)

/-- The transaction of the request ends without a change. -/
def Store.close : Store ι := { s with locks := s.locks.release i }

/-- `SELECT password_hash IS NOT NULL … FOR UPDATE`. -/
def lockUser (provider userId : String) : Option (Store ι × Phase) :=
  match s.db.users.lookup User.id userId with
  | none => some (s, .answered .notFound)
  | some user =>
    if s.locks.available i (.user userId) then
      some ({ s with locks := s.locks.acquire i [.user userId] },
        .locked provider userId user.passwordHash.isSome)
    else none

/-- `DELETE FROM external_user_mappings`; the rows go when the transaction commits. -/
def deleteMappings (provider userId : String) : Option (Store ι × Phase) :=
  let rows := s.db.externalUserMappings.select fun m => m.provider == provider && m.userId == userId
  if rows.all fun m => s.locks.available i (.mapping m.subject) then
    some ({ s with locks := s.locks.acquire i (rows.map fun m => .mapping m.subject) },
      .deleted provider userId rows)
  else none

def commitUnlink (rows : List ExternalUserMapping) : Store ι where
  db := { s.db with
    externalUserMappings := s.db.externalUserMappings.delete fun m => decide (m ∈ rows) }
  locks := s.locks.release i

/-- The mapping is written; it waits for the account only if it comes to refer to it. -/
def upsertMapping (provider externalUserId userId : String) : Option (Store ι × Phase) :=
  if s.locks.available i (.mapping (provider, externalSubjectHash crates externalUserId)) &&
      (getMappedUserId crates s.db provider externalUserId == some userId ||
        s.locks.available i (.user userId)) then
    if userExists s.db userId then
      some ({ s with db := upsertExternalUserMapping crates s.db provider externalUserId userId },
        .answered .linked)
    else some (s, .answered .databaseError)
  else none

/-- A row that refers to the account is inserted; `insert` is the database with the row. -/
def insertFor (userId : String) (insert : Option Db) : Option (Store ι × Phase) :=
  match insert with
  | none => some (s, .answered .databaseError)
  | some db =>
    if s.locks.available i (.user userId) then
      if userExists s.db userId then some ({ s with db := db }, .answered .linked)
      else some (s, .answered .databaseError)
    else none

/-- `INSERT INTO external_user_mappings`, with no rule for conflicts. -/
def createExternalUserMapping (db : Db) (provider externalUserId userId : String) : Option Db :=
  (db.externalUserMappings.insert
    ⟨provider, externalSubjectHash crates externalUserId, userId⟩).map fun mappings =>
      { db with externalUserMappings := mappings }

def linkOauthAccount (db : Db) (account : UserOauthAccount) : Option Db :=
  (db.userOauthAccounts.insert account).map fun accounts =>
    { db with userOauthAccounts := accounts }

def unlinkOauthAccount (db : Db) (userId providerId : String) : Db :=
  { db with
    userOauthAccounts := db.userOauthAccounts.delete fun a =>
      a.userId == userId && a.providerId == providerId }

/-- The next statement of a request, if it does not have to wait for a lock. -/
def proceed : Phase → Option (Store ι × Phase)
  | .called (.unlinkExternalUserMapping provider userId) => lockUser i s provider userId
  | .locked provider userId password =>
    if hasMapping s.db userId (· == provider) then some (s, .found provider userId password)
    else some (s.close i, .answered .notFound)
  | .found provider userId password =>
    some (s, .compared provider userId password (hasMapping s.db userId (· != provider)))
  | .compared provider userId password other =>
    if !password && !other && !hasOauthAccount s.db userId (fun _ => true) then
      some (s.close i, .answered .lastLoginMethod)
    else some (s, .allowed provider userId)
  | .allowed provider userId => deleteMappings i s provider userId
  | .deleted _ userId rows => some (commitUnlink i s rows, .unlinked userId)
  | .called (.unlinkOauthAccount userId providerId) =>
    if hasOauthAccount s.db userId (· == providerId) then
      some ({ s with db := unlinkOauthAccount s.db userId providerId }, .unlinked userId)
    else some (s, .answered .notFound)
  | .called (.upsertExternalUserMapping provider externalUserId userId) =>
    upsertMapping crates i s provider externalUserId userId
  | .called (.createExternalUserMapping provider externalUserId userId) =>
    if s.locks.available i (.mapping (provider, externalSubjectHash crates externalUserId)) then
      insertFor i s userId (createExternalUserMapping crates s.db provider externalUserId userId)
    else none
  | .called (.linkOauthAccount account) =>
    if s.db.userOauthAccounts.any (·.subject == account.subject) then
      some (s, .answered .conflict)
    else some (s, .linking account)
  | .linking account => insertFor i s account.userId (linkOauthAccount s.db account)
  | .idle | .unlinked _ | .answered _ => none

def next : Input → Phase → Option (Store ι × Phase)
  | .call call, phase => if phase.active then none else some (s, .called call)
  | .proceed, phase => proceed crates i s phase
  | .fail, phase =>
    if phase.active then some (s.close i, .answered .databaseError) else none

end Statements

/-- Other requests change accounts. None of them clears a password or changes a locked row. -/
def keepsUsers {ι : Type*} (s : Store ι) (users : Table User) : Bool :=
  !(s.db.users.any fun u =>
    (u.passwordHash.isSome && !users.any fun v => v.id == u.id && v.passwordHash.isSome) ||
      ((s.locks (.user u.id)).isSome && !decide (u ∈ users)))

variable {ι : Type*} [DecidableEq ι]

/-- Requests that link and unlink login methods, among others that change accounts. -/
def protocol (crates : Crates) (ι : Type*) [DecidableEq ι] :
    Protocol ι (Store ι) Phase Input (Table User) where
  next i input s phase := next crates i s input phase
  env users s :=
    if keepsUsers s users then some { s with db := { s.db with users := users } } else none

/-- No request is under way. -/
def start (db : Db) : Config ι (Store ι) Phase := ⟨⟨db, fun _ => none⟩, fun _ => .idle⟩

/-! ### Careful steps -/

section Careful

variable (crates : Crates) (db : Db)

/-- The user who loses an OAuth account or a mapping by the next statement, other than by an unlink
of a mapping. -/
def Phase.takesFrom : Phase → Option String
  | .called (.unlinkOauthAccount userId providerId) =>
    if hasOauthAccount db userId (· == providerId) then some userId else none
  | .called (.upsertExternalUserMapping provider externalUserId userId) =>
    (getMappedUserId crates db provider externalUserId).filter (· != userId)
  | _ => none

/-- An unlink of OAuth accounts leaves a mapping or an account at another provider. -/
def Phase.leavesLink : Phase → Bool
  | .called (.unlinkOauthAccount userId providerId) =>
    hasMapping db userId (fun _ => true) || hasOauthAccount db userId (· != providerId)
  | _ => true

/-- Who loses an OAuth account or a mapping has a password, or keeps another link and is not at the
same time being unlinked from an identity source. -/
def carefulStatement (s : Store ι) (phase : Phase) : Bool :=
  (phase.takesFrom crates s.db).all fun userId =>
    hasPassword s.db userId || (s.locks (.user userId)).isNone && phase.leavesLink s.db

/-- The step is no statement, or a careful one. -/
def careful (c : Config ι (Store ι) Phase) : Action ι Input (Table User) → Bool
  | .request i .proceed => carefulStatement crates c.shared (c.request i)
  | _ => true

end Careful

/-! ### What a statement changes -/

section Kept

variable {crates : Crates} {db db' : Db} {userId externalUserId : String} {p : String → Bool}

theorem hasPassword_eq_true :
    hasPassword db userId = true ↔
      ∃ u ∈ db.users, u.id = userId ∧ u.passwordHash.isSome = true := by
  simp [hasPassword]

theorem hasMapping_eq_true :
    hasMapping db userId p = true ↔
      ∃ m ∈ db.externalUserMappings, m.userId = userId ∧ p m.provider = true := by
  simp [hasMapping]

theorem hasOauthAccount_eq_true :
    hasOauthAccount db userId p = true ↔
      ∃ a ∈ db.userOauthAccounts, a.userId = userId ∧ p a.providerId = true := by
  simp [hasOauthAccount]

theorem hasLoginMethod_eq_true :
    hasLoginMethod db userId = true ↔
      hasPassword db userId = true ∨ hasMapping db userId (fun _ => true) = true ∨
        hasOauthAccount db userId (fun _ => true) = true := by
  simp only [hasLoginMethod, Bool.or_eq_true, or_assoc]

/-- The user keeps the password, and all links unless there is a password. -/
structure Kept (db db' : Db) (userId : String) : Prop where
  password : hasPassword db userId = true → hasPassword db' userId = true
  links : hasPassword db userId = true ∨
    (∀ m ∈ db.externalUserMappings, m.userId = userId → m ∈ db'.externalUserMappings) ∧
      ∀ a ∈ db.userOauthAccounts, a.userId = userId → a ∈ db'.userOauthAccounts

theorem Kept.refl : Kept db db userId := ⟨id, .inr ⟨fun _ h _ => h, fun _ h _ => h⟩⟩

theorem Kept.of_users (h : db'.users = db.users)
    (hmappings : ∀ m ∈ db.externalUserMappings, m.userId = userId → m ∈ db'.externalUserMappings)
    (haccounts : ∀ a ∈ db.userOauthAccounts, a.userId = userId → a ∈ db'.userOauthAccounts) :
    Kept db db' userId := by
  refine ⟨fun hpassword => ?_, .inr ⟨hmappings, haccounts⟩⟩
  unfold hasPassword at hpassword ⊢
  rwa [h]

theorem Kept.of_password (h : db'.users = db.users) (hpassword : hasPassword db userId = true) :
    Kept db db' userId := by
  refine ⟨fun hpassword => ?_, .inl hpassword⟩
  unfold hasPassword at hpassword ⊢
  rwa [h]

theorem Kept.mapping (h : Kept db db' userId) (hmapping : hasMapping db userId p = true) :
    hasPassword db' userId = true ∨ hasMapping db' userId p = true := by
  obtain hpassword | ⟨hmappings, -⟩ := h.links
  · exact .inl (h.password hpassword)
  · obtain ⟨m, hm, huser, hp⟩ := hasMapping_eq_true.1 hmapping
    exact .inr (hasMapping_eq_true.2 ⟨m, hmappings m hm huser, huser, hp⟩)

theorem Kept.oauthAccount (h : Kept db db' userId) (haccount : hasOauthAccount db userId p = true) :
    hasPassword db' userId = true ∨ hasOauthAccount db' userId p = true := by
  obtain hpassword | ⟨-, haccounts⟩ := h.links
  · exact .inl (h.password hpassword)
  · obtain ⟨a, ha, huser, hp⟩ := hasOauthAccount_eq_true.1 haccount
    exact .inr (hasOauthAccount_eq_true.2 ⟨a, haccounts a ha huser, huser, hp⟩)

/-- Only the user that the mapping has belonged to loses it. -/
theorem kept_upsertExternalUserMapping {provider newUserId : String}
    (h : (getMappedUserId crates db provider externalUserId).filter (· != newUserId) ≠
      some userId) :
    Kept db (upsertExternalUserMapping crates db provider externalUserId newUserId) userId := by
  refine .of_users rfl (fun m hm huser => mem_upsertExternalUserMapping.2 ?_) fun _ h _ => h
  by_cases hsubject : m.subject = (provider, externalSubjectHash crates externalUserId)
  · have hmapped : getMappedUserId crates db provider externalUserId = some userId := by
      rw [getMappedUserId, lookup_eq_some_iff.2 ⟨hm, hsubject⟩, Option.map_some, huser]
    have hnew : userId = newUserId := by
      by_contra hne
      exact h (by simp [hmapped, Option.filter, hne])
    obtain ⟨hprovider, hexternal⟩ := Prod.mk.inj hsubject
    left
    rw [← hprovider, ← hexternal, ← hnew, ← huser]
  · exact .inr ⟨hm, hsubject⟩

theorem kept_createExternalUserMapping {provider newUserId : String}
    (h : createExternalUserMapping crates db provider externalUserId newUserId = some db') :
    Kept db db' userId := by
  obtain ⟨mappings, hinsert, rfl⟩ := Option.map_eq_some_iff.1 h
  exact .of_users rfl (fun m hm _ => (mem_of_insert_eq_some hinsert).2 (.inr hm))
    fun _ h _ => h

theorem kept_linkOauthAccount {account : UserOauthAccount}
    (h : linkOauthAccount db account = some db') : Kept db db' userId := by
  obtain ⟨accounts, hinsert, rfl⟩ := Option.map_eq_some_iff.1 h
  exact .of_users rfl (fun _ h _ => h)
    fun a ha _ => (mem_of_insert_eq_some hinsert).2 (.inr ha)

theorem kept_unlinkOauthAccount {oldUserId providerId : String} (h : userId ≠ oldUserId) :
    Kept db (unlinkOauthAccount db oldUserId providerId) userId := by
  refine .of_users rfl (fun _ h _ => h) fun a ha huser => mem_delete.2 ⟨ha, ?_⟩
  simp [huser, h]

end Kept

/-! ### Steps -/

/-- The user whose account the request has locked. -/
def Phase.unlinking : Phase → Option String
  | .locked _ userId _ | .found _ userId _ | .compared _ userId _ _ | .allowed _ userId
  | .deleted _ userId _ => some userId
  | _ => none

/-- A login method other than the mappings at the provider. -/
def Remains (db : Db) (provider userId : String) : Prop :=
  hasPassword db userId = true ∨ hasMapping db userId (· != provider) = true ∨
    hasOauthAccount db userId (fun _ => true) = true

/-- What a request has read about the other login methods is still true. -/
def Phase.Sound (db : Db) : Phase → Prop
  | .locked _ userId password | .found _ userId password =>
    password = true → hasPassword db userId = true
  | .compared provider userId password other =>
    (password = true → hasPassword db userId = true) ∧
      (other = true → Remains db provider userId)
  | .allowed provider userId => Remains db provider userId
  | .deleted provider userId rows =>
    Remains db provider userId ∧ ∀ m ∈ rows, m.provider = provider ∧ m.userId = userId
  | _ => True

section Steps

variable {crates : Crates} {i : ι} {s s' : Store ι} {phase phase' : Phase} {db db' : Db}
  {provider userId : String}

theorem Remains.kept (hkept : Kept db db' userId) (h : Remains db provider userId) :
    Remains db' provider userId := by
  obtain hpassword | hmapping | haccount := h
  · exact .inl (hkept.password hpassword)
  · exact (hkept.mapping hmapping).imp_right .inl
  · exact (hkept.oauthAccount haccount).imp_right .inr

theorem Phase.Sound.kept (hkept : ∀ userId, phase.unlinking = some userId → Kept db db' userId)
    (h : phase.Sound db) : phase.Sound db' := by
  cases phase with
  | locked provider userId | found provider userId =>
    exact fun hp => (hkept userId rfl).password (h hp)
  | compared provider userId =>
    exact ⟨fun hp => (hkept userId rfl).password (h.1 hp),
      fun ho => (h.2 ho).kept (hkept userId rfl)⟩
  | allowed provider userId => exact Remains.kept (hkept userId rfl) h
  | deleted provider userId => exact ⟨h.1.kept (hkept userId rfl), h.2⟩
  | _ => trivial

/-- What the next statement of a request does. -/
inductive Effect (crates : Crates) (i : ι) (s : Store ι) : Phase → Store ι → Phase → Prop
  | lock (provider userId : String) (user : User) (huser : user ∈ s.db.users)
      (hid : user.id = userId) (havailable : s.locks.available i (.user userId) = true) :
      Effect crates i s (.called (.unlinkExternalUserMapping provider userId))
        { s with locks := s.locks.acquire i [.user userId] }
        (.locked provider userId user.passwordHash.isSome)
  | find (provider userId : String) (password : Bool) :
      Effect crates i s (.locked provider userId password) s (.found provider userId password)
  | compare (provider userId : String) (password : Bool) :
      Effect crates i s (.found provider userId password) s
        (.compared provider userId password (hasMapping s.db userId (· != provider)))
  | allow (provider userId : String) (password other : Bool)
      (h : password = true ∨ other = true ∨ hasOauthAccount s.db userId (fun _ => true) = true) :
      Effect crates i s (.compared provider userId password other) s (.allowed provider userId)
  | delete (provider userId : String) (rows : List ExternalUserMapping)
      (hrows : ∀ m ∈ rows, m.provider = provider ∧ m.userId = userId)
      (havailable : ∀ m ∈ rows, s.locks.available i (.mapping m.subject) = true) :
      Effect crates i s (.allowed provider userId)
        { s with locks := s.locks.acquire i (rows.map fun m => .mapping m.subject) }
        (.deleted provider userId rows)
  | commit (provider userId : String) (rows : List ExternalUserMapping) :
      Effect crates i s (.deleted provider userId rows) (commitUnlink i s rows) (.unlinked userId)
  | unlinkOauth (userId providerId : String)
      (h : hasOauthAccount s.db userId (· == providerId) = true) :
      Effect crates i s (.called (.unlinkOauthAccount userId providerId))
        { s with db := unlinkOauthAccount s.db userId providerId } (.unlinked userId)
  | link {phase : Phase} (db : Db) (hphase : phase.unlinking = none)
      (husers : db.users = s.db.users)
      (hkept : ∀ userId, phase.takesFrom crates s.db ≠ some userId → Kept s.db db userId) :
      Effect crates i s phase { s with db := db } (.answered .linked)
  | answer {phase : Phase} (reply : Reply) (hphase : phase.unlinking = none) :
      Effect crates i s phase s (.answered reply)
  | close {phase : Phase} (reply : Reply) : Effect crates i s phase (s.close i) (.answered reply)
  | check (account : UserOauthAccount) :
      Effect crates i s (.called (.linkOauthAccount account)) s (.linking account)

theorem effect_lockUser (h : lockUser i s provider userId = some (s', phase')) :
    Effect crates i s (.called (.unlinkExternalUserMapping provider userId)) s' phase' := by
  unfold lockUser at h
  split at h
  · cases h
    exact .answer _ rfl
  rename_i user hlookup
  split_ifs at h with havailable
  cases h
  obtain ⟨huser, hid⟩ := lookup_eq_some_iff.1 hlookup
  exact .lock provider userId user huser hid havailable

theorem effect_deleteMappings (h : deleteMappings i s provider userId = some (s', phase')) :
    Effect crates i s (.allowed provider userId) s' phase' := by
  simp only [deleteMappings] at h
  split_ifs at h with havailable
  cases h
  refine .delete provider userId _ (fun m hm => ?_) (List.all_eq_true.1 havailable)
  simpa using (mem_select.1 hm).2

theorem effect_upsertMapping {externalUserId : String}
    (h : upsertMapping crates i s provider externalUserId userId = some (s', phase')) :
    Effect crates i s (.called (.upsertExternalUserMapping provider externalUserId userId)) s'
      phase' := by
  unfold upsertMapping at h
  split_ifs at h
  · cases h
    exact .link _ rfl rfl fun _ => kept_upsertExternalUserMapping
  · cases h
    exact .answer _ rfl

theorem effect_insertFor {insert : Option Db} (hphase : phase.unlinking = none)
    (hinsert : ∀ db, insert = some db →
      db.users = s.db.users ∧ ∀ userId, Kept s.db db userId)
    (h : insertFor i s userId insert = some (s', phase')) : Effect crates i s phase s' phase' := by
  unfold insertFor at h
  split at h
  · cases h
    exact .answer _ hphase
  rename_i db
  obtain ⟨husers, hkept⟩ := hinsert db rfl
  split_ifs at h
  · cases h
    exact .link db hphase husers fun userId _ => hkept userId
  · cases h
    exact .answer _ hphase

theorem effect_of_proceed (h : proceed crates i s phase = some (s', phase')) :
    Effect crates i s phase s' phase' := by
  cases phase with
  | idle | unlinked _ | answered _ => cases h
  | locked provider userId password =>
    simp only [proceed] at h
    split_ifs at h
    · cases h
      exact .find provider userId password
    · cases h
      exact .close _
  | found provider userId password =>
    cases h
    exact .compare provider userId password
  | compared provider userId password other =>
    simp only [proceed] at h
    split_ifs at h with hnone
    · cases h
      exact .close _
    cases h
    refine .allow provider userId password other ?_
    cases password <;> cases other <;> simp_all
  | allowed => exact effect_deleteMappings h
  | deleted provider userId rows =>
    cases h
    exact .commit provider userId rows
  | linking =>
    refine effect_insertFor rfl (fun db hdb => ⟨?_, fun _ => kept_linkOauthAccount hdb⟩) h
    obtain ⟨_, -, rfl⟩ := Option.map_eq_some_iff.1 hdb
    rfl
  | called call =>
    cases call with
    | unlinkExternalUserMapping => exact effect_lockUser h
    | unlinkOauthAccount userId providerId =>
      simp only [proceed] at h
      split_ifs at h with haccount
      · cases h
        exact .unlinkOauth userId providerId haccount
      · cases h
        exact .answer _ rfl
    | upsertExternalUserMapping => exact effect_upsertMapping h
    | createExternalUserMapping =>
      simp only [proceed] at h
      split_ifs at h
      refine effect_insertFor rfl
        (fun db hdb => ⟨?_, fun _ => kept_createExternalUserMapping hdb⟩) h
      obtain ⟨_, -, rfl⟩ := Option.map_eq_some_iff.1 hdb
      rfl
    | linkOauthAccount account =>
      simp only [proceed] at h
      split_ifs at h
      · cases h
        exact .answer _ rfl
      · cases h
        exact .check account

/-- What is known of the request that makes the step. -/
structure Known (s : Store ι) (i : ι) (phase : Phase) : Prop where
  sound : phase.Sound s.db
  held : ∀ userId, phase.unlinking = some userId → s.locks (.user userId) = some i

section Kept

variable (h : Effect crates i s phase s' phase')

include h

theorem Effect.keeps : Locks.Keeps (some i) s.locks s'.locks := by
  cases h with
  | lock provider userId user huser hid havailable =>
    exact Locks.keeps_acquire (by simpa using havailable)
  | delete provider userId rows hrows havailable =>
    refine Locks.keeps_acquire fun k hk => ?_
    obtain ⟨m, hm, rfl⟩ := List.mem_map.1 hk
    exact havailable m hm
  | commit | close => exact Locks.keeps_release
  | _ => exact Locks.Keeps.refl

theorem Effect.known (hknown : Known s i phase) : Known s' i phase' := by
  cases h with
  | lock provider userId user huser hid =>
    refine ⟨fun hpassword => hasPassword_eq_true.2 ⟨user, huser, hid, hpassword⟩, ?_⟩
    rintro _ ⟨⟩
    exact Locks.acquire_of_mem (List.mem_singleton.2 rfl)
  | find => exact ⟨hknown.sound, hknown.held⟩
  | compare =>
    exact ⟨⟨hknown.sound, fun hother => .inr (.inl hother)⟩, hknown.held⟩
  | allow provider userId password other hmethod =>
    refine ⟨?_, hknown.held⟩
    obtain hpassword | hother | haccount := hmethod
    · exact .inl (hknown.sound.1 hpassword)
    · exact hknown.sound.2 hother
    · exact .inr (.inr haccount)
  | delete provider userId rows hrows =>
    refine ⟨⟨hknown.sound, hrows⟩, ?_⟩
    rintro _ ⟨⟩
    exact Locks.acquire_of_held (hknown.held userId rfl)
  | _ => exact ⟨trivial, nofun⟩

/-- A careful statement takes nothing from a user who is being unlinked by another request. -/
theorem Effect.kept (hknown : Known s i phase) (hcareful : carefulStatement crates s phase = true)
    {j : ι} (hj : j ≠ i) (hlock : s.locks (.user userId) = some j) : Kept s.db s'.db userId := by
  have htaken (htakes : phase.takesFrom crates s.db = some userId) :
      hasPassword s.db userId = true := by
    simpa [carefulStatement, htakes, hlock] using hcareful
  cases h with
  | commit provider owner =>
    have howner : owner ≠ userId := by
      rintro rfl
      exact hj (Option.some.inj (hlock.symm.trans (hknown.held owner rfl)))
    refine .of_users rfl (fun m hm huser => mem_delete.2 ⟨hm, ?_⟩) fun _ h _ => h
    exact decide_eq_false fun hrow => howner ((hknown.sound.2 m hrow).2.symm.trans huser)
  | unlinkOauth owner providerId haccount =>
    by_cases howner : userId = owner
    · subst howner
      exact .of_password rfl (htaken (if_pos haccount))
    · exact kept_unlinkOauthAccount howner
  | link db hphase husers hkept =>
    by_cases htakes : phase.takesFrom crates s.db = some userId
    · exact .of_password husers (htaken htakes)
    · exact hkept userId htakes
  | _ => exact .refl

end Kept

/-- A careful statement that ends an unlink leaves a login method. -/
theorem Effect.hasLoginMethod (h : Effect crates i s phase s' (.unlinked userId))
    (hknown : Known s i phase) (hcareful : carefulStatement crates s phase = true) :
    hasLoginMethod s'.db userId = true := by
  refine hasLoginMethod_eq_true.2 ?_
  cases h with
  | commit provider _ rows =>
    obtain hpassword | hmapping | haccount := hknown.sound.1
    · exact .inl hpassword
    · obtain ⟨m, hm, huser, hprovider⟩ := hasMapping_eq_true.1 hmapping
      have hrow : m ∉ rows := fun hrow => by
        simp [(hknown.sound.2 m hrow).1] at hprovider
      exact .inr (.inl (hasMapping_eq_true.2
        ⟨m, mem_delete.2 ⟨hm, decide_eq_false hrow⟩, huser, rfl⟩))
    · exact .inr (.inr haccount)
  | unlinkOauth _ providerId haccount =>
    simp only [carefulStatement, Phase.takesFrom, haccount, if_true, Option.all_some,
      Phase.leavesLink, Bool.or_eq_true, Bool.and_eq_true] at hcareful
    obtain hpassword | ⟨-, hmapping | hother⟩ := hcareful
    · exact .inl hpassword
    · exact .inr (.inl hmapping)
    obtain ⟨a, ha, huser, hprovider⟩ := hasOauthAccount_eq_true.1 hother
    refine .inr (.inr (hasOauthAccount_eq_true.2 ⟨a, mem_delete.2 ⟨ha, ?_⟩, huser, rfl⟩))
    simpa using fun _ => bne_iff_ne.1 hprovider

end Steps

/-! ### Runs -/

section Runs

variable {crates : Crates} {c c' : Config ι (Store ι) Phase} {a : Action ι Input (Table User)}

/-- What every request relies on holds. -/
def Invariant (c : Config ι (Store ι) Phase) : Prop := ∀ i, Known c.shared i (c.request i)

variable {s : Store ι} {phase : Phase}

omit [DecidableEq ι] in
theorem Known.other {i j : ι} {s' : Store ι} (h : Known s j phase) (hj : j ≠ i)
    (hlocks : Locks.Keeps (some i) s.locks s'.locks)
    (hkept : ∀ userId, s.locks (.user userId) = some j → Kept s.db s'.db userId) :
    Known s' j phase where
  sound := h.sound.kept fun userId hu => hkept userId (h.held userId hu)
  held userId hu := hlocks _ j (h.held userId hu) fun he => hj (Option.some.inj he)

omit [DecidableEq ι] in
theorem kept_users {users : Table User} {userId : String} (h : keepsUsers s users = true) :
    Kept s.db { s.db with users := users } userId := by
  refine ⟨fun hpassword => ?_, .inr ⟨fun _ h _ => h, fun _ h _ => h⟩⟩
  obtain ⟨u, hu, hid, hset⟩ := hasPassword_eq_true.1 hpassword
  simp only [keepsUsers, Bool.not_eq_true', any_eq_false, Bool.or_eq_false_iff] at h
  have hu' := (h u hu).1
  rw [hset, Bool.true_and, Bool.not_eq_false', any_eq_true] at hu'
  obtain ⟨v, hv, hv'⟩ := hu'
  obtain ⟨hvid, hvset⟩ : v.id = u.id ∧ v.passwordHash.isSome = true := by simpa using hv'
  exact hasPassword_eq_true.2 ⟨v, hv, hvid.trans hid, hvset⟩

/-- What a careful step of a request does. -/
structure StepFacts (i : ι) (s s' : Store ι) (phase' : Phase) : Prop where
  keeps : Locks.Keeps (some i) s.locks s'.locks
  known : Known s' i phase'
  kept : ∀ j userId, j ≠ i → s.locks (.user userId) = some j → Kept s.db s'.db userId
  leaves : ∀ userId, phase' = .unlinked userId → hasLoginMethod s'.db userId = true

theorem stepFacts_of_next {i : ι} {input : Input}
    (h : next crates i c.shared input (c.request i) = some (s, phase))
    (hknown : Known c.shared i (c.request i))
    (hcareful : careful crates c (.request i input) = true) : StepFacts i c.shared s phase := by
  cases input with
  | call =>
    simp only [next] at h
    split_ifs at h
    cases h
    exact ⟨Locks.Keeps.refl, ⟨trivial, nofun⟩, fun _ _ _ _ => .refl, nofun⟩
  | proceed =>
    have heffect : Effect crates i c.shared (c.request i) s phase := effect_of_proceed h
    refine ⟨heffect.keeps, heffect.known hknown,
      fun j userId hj hlock => heffect.kept hknown hcareful hj hlock, ?_⟩
    rintro userId rfl
    exact heffect.hasLoginMethod hknown hcareful
  | fail =>
    simp only [next] at h
    split_ifs at h
    cases h
    exact ⟨Locks.keeps_release, ⟨trivial, nofun⟩, fun _ _ _ _ => .refl, nofun⟩

theorem Invariant.step (h : Invariant c) (hcareful : careful crates c a = true)
    (hstep : (protocol crates ι).system.step c a = some c') :
    Invariant c' ∧ ∀ i userId, c.request i ≠ .unlinked userId →
      c'.request i = .unlinked userId → hasLoginMethod c'.shared.db userId = true := by
  obtain ⟨users, s, rfl, henv, rfl⟩ | ⟨i, input, s, phase, rfl, hnext, rfl⟩ :=
    Protocol.step_cases hstep
  · simp only [protocol] at henv
    split_ifs at henv with hkeeps
    cases henv
    exact ⟨fun i => ⟨(h i).sound.kept fun _ _ => kept_users hkeeps, (h i).held⟩,
      fun i userId hne heq => absurd heq hne⟩
  have hfacts := stepFacts_of_next hnext (h i) hcareful
  refine ⟨(Function.forall_update_iff _ _).2 ⟨hfacts.known, fun j hj =>
    (h j).other hj hfacts.keeps fun userId => hfacts.kept j userId hj⟩, ?_⟩
  exact (Function.forall_update_iff _ fun j (t : Phase) => ∀ userId,
      c.request j ≠ .unlinked userId → t = .unlinked userId → hasLoginMethod s.db userId = true).2
    ⟨fun userId _ => hfacts.leaves userId, fun j _ userId hne heq => absurd heq hne⟩

/-- A user who is successfully unlinked has a login method afterwards, in every interleaving whose
steps are careful. -/
theorem unlink_keeps_login_method (crates : Crates) (db : Db)
    {ls : List (Action ι Input (Table User))}
    (hcareful : (protocol crates ι).system.Along (fun c a _ => careful crates c a = true)
      (start db) ls) :
    (protocol crates ι).system.Along
      (fun c _ c' => ∀ i userId, c.request i ≠ .unlinked userId →
        c'.request i = .unlinked userId → hasLoginMethod c'.shared.db userId = true)
      (start db) ls := by
  have hinvariant : Invariant (start db : Config ι (Store ι) Phase) := fun i => ⟨trivial, nofun⟩
  exact System.along_of_invariant _ (fun _ _ _ h hcareful hstep => h.step hcareful hstep)
    hinvariant hcareful

end Runs

/-! ### Locked out -/

/-- A user without a password, with a mapping and an OAuth account. -/
def linkedAccount : Db where
  users := .single { id := "u", username := "ada", email := "ada@example.org" }
  externalUserMappings := .single ⟨"oidc_upstream:s", "subject", "u"⟩
  userOauthAccounts := .single ⟨"a", "u", "github", "7"⟩

/-- A request that is made and goes on for some statements. -/
def request (i : Fin 2) (call : Call) (n : ℕ) : List (Action (Fin 2) Input (Table User)) :=
  .request i (.call call) :: List.replicate n (.request i .proceed)

/-- A mapping is unlinked, and the identity is linked again before the OAuth account goes. -/
def relinking : List (Action (Fin 2) Input (Table User)) :=
  request 0 (.unlinkExternalUserMapping "oidc_upstream:s" "u") 6 ++
    request 0 (.createExternalUserMapping "oidc_upstream:s" "subject" "u") 1 ++
    request 1 (.unlinkOauthAccount "u" "github") 1

theorem unlink_keeps_login_method_relinking :
    ∃ c, (protocol .readable (Fin 2)).system.run (start linkedAccount) relinking = some c ∧
      c.request 1 = .unlinked "u" ∧
      (protocol .readable (Fin 2)).system.Along
        (fun c _ c' => ∀ i userId, c.request i ≠ .unlinked userId →
          c'.request i = .unlinked userId → hasLoginMethod c'.shared.db userId = true)
        (start linkedAccount) relinking :=
  ⟨_, rfl, by decide, unlink_keeps_login_method .readable linkedAccount (by decide)⟩

/-- The only login method of a user, an OAuth account, is removed; and an OAuth account is removed
while an unlink of a mapping that has found it is not yet committed. -/
theorem last_oauth_account_unlinked :
    (∃ c, (protocol .readable (Fin 2)).system.run
        (start { linkedAccount with externalUserMappings := ∅ })
        (request 0 (.unlinkOauthAccount "u" "github") 1) = some c ∧
      hasLoginMethod { linkedAccount with externalUserMappings := ∅ } "u" = true ∧
      c.request 0 = .unlinked "u" ∧ hasLoginMethod c.shared.db "u" = false) ∧
    ∃ c c', (protocol .readable (Fin 2)).system.run (start linkedAccount)
        (request 0 (.unlinkExternalUserMapping "oidc_upstream:s" "u") 5 ++
          request 1 (.unlinkOauthAccount "u" "github") 1) = some c ∧
      hasLoginMethod c.shared.db "u" = true ∧
      (protocol .readable (Fin 2)).system.step c (.request 0 .proceed) = some c' ∧
      c'.request 0 = .unlinked "u" ∧ hasLoginMethod c'.shared.db "u" = false := by
  refine ⟨⟨_, rfl, ?_, ?_, ?_⟩, _, _, rfl, ?_, rfl, ?_, ?_⟩ <;> decide

end Keylo.Unlink
