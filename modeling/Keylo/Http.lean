import Keylo.Schema

/-!
# Access tokens and error responses

The claims of a signed token and the error responses of the handlers.
-/

namespace Keylo

/-- The types of the tokens that carry `Claims`. -/
inductive TokenType
  | access
  | refresh
  | customerSupportAccess
deriving DecidableEq, Repr

/-- The claims of a signed token. -/
structure Claims where
  sub : String := ""
  uid : Option String := none
  principalId : Option String := none
  principalType : Option PrincipalType := none
  organizationId : Option String := none
  customerSupportGrantId : Option String := none
  aud : String := ""
  scope : List String := []
  role : List String := []
  tokenType : TokenType := .access
  passwordChangeRequired : Bool := false
  iat : Int := 0
  exp : Int := 0
  jti : String
deriving DecidableEq, Repr

namespace Claims

variable (claims : Claims)

def hasScope (scope : String) : Bool := claims.scope.contains scope

def hasAudience (audience : String) : Bool := claims.aud == audience || claims.aud == "*"

def hasRole (role : String) : Bool := claims.role.contains role

end Claims

/-- The errors of the handlers (`AuthError`), as far as the verified ones return them. -/
inductive AuthError
  | wrongCredentials
  | missingCredentials
  | tokenCreation
  | invalidToken
  | expiredToken
  | databaseError (message : String)
  | notFound
  | unauthorized
  | forbidden
  | tokenTypeInvalid
  | insufficientRole
  | invalidAudience
  | passwordChangeRequired
  | tooManyRequests
  | conflict (message : String)
  | invalidRequest (message : String)
  | internalServerError (message : String)
deriving DecidableEq, Repr

/-- The keys of the server; signing and checking a signature are calls of a library. -/
structure JwtKeys where
  signToken : Claims → Except AuthError String
  decodeToken : String → Except AuthError Claims

/-- A JSON error response: the status code and the `error` text. -/
structure ApiError where
  status : Nat
  error : String
  mfaRequired : Bool := false
deriving DecidableEq, Repr

variable (message : String)

def badRequestResponse : ApiError := ⟨400, message, false⟩

def notFoundResponse : ApiError := ⟨404, message, false⟩

def conflictResponse : ApiError := ⟨409, message, false⟩

def internalErrorResponse : ApiError := ⟨500, message, false⟩

end Keylo
