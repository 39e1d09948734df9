import Keylo.Authorization.Check
import Keylo.Rbac

/-!
# Revocation over HTTP

The two revoking routes of `routes/rbac.rs`: the segments of their paths, the extractors of their
handlers and the handlers themselves. Both routes have two parameters, and both handlers read
them with two extractors `Path<String>`. Such an extractor deserialises all the parameters of the
route into one text and rejects the request unless there is exactly one.

## Main definitions

* `matchPath`, `pathText` : the parameters of a path and their extractor.
* `revokeWith` : what the two handlers have in common.
* `delete` : a `DELETE` request.

## Main results

* `delete_not_success` : no request to the two routes succeeds.
* `revoked_iff` : the routes revoke only where there is nothing to revoke.
-/

namespace Keylo.Revocation

open Relational Table Authorization

/-! ### Routes -/

inductive Segment
  | literal (text : String)
  | parameter (name : String)

/-- The parameters of a path that matches a route. Only a parameter at the end needs a text. -/
def matchPath : List Segment → List String → Option (List (String × String))
  | [], [] => some []
  | .literal text :: route, part :: path => if part = text then matchPath route path else none
  | .parameter name :: route, part :: path =>
    if part = "" ∧ path = [] then none else (matchPath route path).map ((name, part) :: ·)
  | _, _ => none

inductive Response
  | success (message : String)
  | failure (status : Nat) (error message : String)
  /-- The status 500 of an extractor that expects another number of parameters. -/
  | rejected (expected got : Nat)
deriving DecidableEq

/-- `Path<String>`. -/
def pathText : List (String × String) → Except Response String
  | [(_, value)] => .ok value
  | parameters => .error (.rejected 1 parameters.length)

/-! ### Handlers -/

/-- What a request meets outside the two routes. -/
structure Answers where
  /-- The refusal of an administrator without a recent MFA proof. -/
  refusal : Option Response := none
  /-- The error of the database. -/
  fault : Option String := none

variable (answers : Answers) (db : Db)

/-- A revocation of the second parameter from the first one, with the texts of its answers. -/
structure Kind where
  revoke : Db → String → String → Bool × Db
  revoked : String
  unbound : String
  notFound : String
  failed : String

/-- The body of a handler. -/
def revokeWith (kind : Kind) (first second : String) : Response × Db :=
  match answers.refusal, answers.fault with
  | some refusal, _ => (refusal, db)
  | none, some e => (.failure 500 (kind.failed ++ e) "", db)
  | none, none =>
    match kind.revoke db first second with
    | (true, db') => (.success kind.revoked, db')
    | (false, db') => (.failure 404 kind.unbound kind.notFound, db')

/-- A handler with its two extractors. -/
def handle (kind : Kind) (parameters : List (String × String)) : Response × Db :=
  match pathText parameters, pathText parameters with
  | .ok first, .ok second => revokeWith answers db kind first second
  | .error rejection, _ | _, .error rejection => (rejection, db)

/-- The user has the role, by one of the two tables. -/
def isAssigned (userId roleId : String) : Bool :=
  (db.userRoles.any fun ur => ur.userId == userId && ur.roleId == roleId) ||
    db.principalRoles.any fun pr =>
      (db.principals.any fun p =>
        p.id == pr.principalId && p.principalType == .user && p.refId == userId) &&
      pr.roleId == roleId

/-- The permission is bound to the role. -/
def isBound (roleId permissionId : String) : Bool :=
  db.rolePermissions.any fun rp => rp.roleId == roleId && rp.permissionId == permissionId

/-- `revoke_role_from_user_handler`. -/
def Kind.revokeRoleFromUser : Kind where
  revoke db userId roleId :=
    ((db.users.lookup User.id userId).isSome && isAssigned db userId roleId,
      Keylo.revokeRoleFromUser db userId roleId)
  revoked := "Role revoked from user successfully"
  unbound := "role_not_bound"
  notFound := "User role assignment not found"
  failed := "Failed to revoke role from user: "

/-- `revoke_permission_from_role_handler`. -/
def Kind.revokePermissionFromRole : Kind where
  revoke db roleId permissionId :=
    (isBound db roleId permissionId, Keylo.revokePermissionFromRole db roleId permissionId)
  revoked := "Permission revoked from role successfully"
  unbound := "permission_not_bound"
  notFound := "Role permission assignment not found"
  failed := "Failed to revoke permission from role: "

/-- The revoking routes. -/
def rbacRoutes : List (List Segment × Kind) :=
  [([.literal "users", .parameter "user_id", .literal "roles", .parameter "role_id"],
      Kind.revokeRoleFromUser),
    ([.literal "roles", .parameter "role_id", .literal "permissions", .parameter "permission_id"],
      Kind.revokePermissionFromRole)]

/-- A `DELETE` request. -/
def delete (path : List String) : Response × Db :=
  match rbacRoutes.findSome? fun (route, kind) =>
      (matchPath route path).map fun parameters => (kind, parameters) with
  | none => (.failure 404 "" "", db)
  | some (kind, parameters) => handle answers db kind parameters

/-! ### Results -/

/-- The answer to a revocation of a role says that it is revoked, and it is. -/
def RoleRevoked (userId roleId : String) (answer : Response × Db) : Prop :=
  (∃ message, answer.1 = .success message) ∧ isAssigned answer.2 userId roleId = false

/-- The answer to a revocation of a permission says that it is revoked, and it is: what a role
still grants, it grants by another binding. -/
def PermissionRevoked (roleId permissionId : String) (answer : Response × Db) : Prop :=
  (∃ message, answer.1 = .success message) ∧ isBound answer.2 roleId permissionId = false ∧
    ∀ r name, roleGrants answer.2 r name = true → ∃ rp ∈ db.rolePermissions,
      rp ≠ ⟨roleId, permissionId⟩ ∧ rp.roleId = r ∧ ∃ p ∈ db.permissions,
        p.id = rp.permissionId ∧ (p.name = name ∨ p.name = wildcard)

variable {answers db}

/-- Both routes have two parameters, so that no request gets past the extractors. -/
theorem delete_not_success {first second a b message : String} :
    (delete answers db [first, a, second, b]).1 ≠ .success message := by
  by_cases hb : b = ""
  · simp [delete, rbacRoutes, matchPath, hb]
  simp only [delete, rbacRoutes, List.findSome?_cons, matchPath, hb, reduceCtorEq, and_false,
    false_and, if_false]
  split_ifs <;> simp [handle, pathText]

/-- The two routes keep their promise only where there is nothing to revoke. -/
theorem revoked_iff (answers : Answers) (db : Db)
    (userId roleId permissionId : String) :
    ((isAssigned db userId roleId = true →
        RoleRevoked userId roleId (delete answers db ["users", userId, "roles", roleId])) ↔
      isAssigned db userId roleId = false) ∧
    ((isBound db roleId permissionId = true → PermissionRevoked db roleId permissionId
        (delete answers db ["roles", roleId, "permissions", permissionId])) ↔
      isBound db roleId permissionId = false) := by
  have hnot {b : Bool} {p : Prop} (hp : ¬ p) : (b = true → p) ↔ b = false := by
    cases b <;> simp [hp]
  exact ⟨hnot fun ⟨⟨_, h⟩, _⟩ => delete_not_success h,
    hnot fun ⟨⟨_, h⟩, _⟩ => delete_not_success h⟩

/-- A user with a role that carries a permission. -/
def assigned : Db where
  users := .single { id := "u", username := "ada", email := "ada@example.org" }
  userRoles := .single ⟨"u", "r"⟩
  rolePermissions := .single ⟨"r", "p"⟩

/-- The role and the permission stay, and both requests are answered with an error. -/
theorem revocations_rejected :
    isAssigned assigned "u" "r" = true ∧ isBound assigned "r" "p" = true ∧
      delete {} assigned ["users", "u", "roles", "r"] = (.rejected 1 2, assigned) ∧
      delete {} assigned ["roles", "r", "permissions", "p"] = (.rejected 1 2, assigned) :=
  ⟨rfl, rfl, rfl, rfl⟩

end Keylo.Revocation
