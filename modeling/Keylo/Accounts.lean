import Keylo.Database
import Keylo.Users

/-!
# Accounts, statement by statement

The functions of `db/principal.rs`, `db/user.rs` and `db/rbac.rs` that consist of more than one
statement, as the handlers call them.

## Main definitions

* `ensureUserPrincipal`, `ensureClientPrincipal`.
* `createUser`, `updateUser`, `setUserActive`.
* `assignRoleToUser`.
-/

namespace Keylo.Handler

open Relational

/-- Reads an owner and mirrors it in its principal. -/
def ensurePrincipal (principalType : PrincipalType) (refId : String) :
    DbM String (Option Principal) := do
  match ← fetch fun db => readOwner db principalType refId with
  | none => pure none
  | some (displayName, active) =>
    atomically fun _ db => .ok ((), upsertPrincipal db principalType refId displayName active)
    pure (some ⟨principalType, refId, displayName, active⟩)

def ensureUserPrincipal : String → DbM String (Option Principal) := ensurePrincipal .user

def ensureClientPrincipal : String → DbM String (Option Principal) := ensurePrincipal .client

/-- A query that fails counts as a user who is no administrator. -/
def isUserAdmin (userId : String) : Statements Bool := do
  match ← (fetch fun db => userIsPlatformAdmin db userId).run with
  | .ok isAdmin => pure isAdmin
  | .error _ => pure false

def createUser (crates : Crates) (new : NewUser) : DbM String User := do
  let user ← atomically fun o db => insertUser crates db o.salt o.uuid new
  let _ ← ensureUserPrincipal user.id
  pure user

def updateUser (crates : Crates) (userId : String) (changes : UserChanges) :
    DbM String (Option User) := do
  match ← atomically fun o db => updateUserRow crates db o.salt userId changes with
  | none => pure none
  | some user =>
    let _ ← ensureUserPrincipal user.id
    pure (some user)

def setUserActive (userId : String) (active : Bool) : DbM String Unit :=
  atomically fun _ db => .ok ((), Keylo.setUserActive db userId active)

/-- `assign_roles_to_user_batch` of one role. -/
def assignRoleToUser (userId roleId : String) : DbM String Unit := do
  match ← ensureUserPrincipal userId with
  | none => throw "user_not_found"
  | some _ =>
    let roleIds := normalizedRoleIds [roleId]
    if roleIds.isEmpty then pure ()
    else
      atomically fun _ db =>
        match assignRolesToUser db userId roleIds with
        | .error e => .error e
        | .ok db' => .ok ((), db')

end Keylo.Handler
