/-!
# Refused registrations

What can be wrong with a template, a pattern or a list of methods when a route is registered.
-/

set_option autoImplicit false

namespace RequestDispatch.Route

/-- Why a route was refused. -/
inductive RegistrationError where
  | invalidMethod (method : String)
  | noMethods (pattern : String)
  | unterminatedPlaceholder (template : String)
  | invalidPlaceholder (template name : String)
  | catchAllWithoutPlaceholder (template : String)
  | preAnchored (pattern : String)
  /-- The expression does not compile; what is wrong with it is said after the message. -/
  | expression (pattern : String)
  deriving Repr, DecidableEq

/-- The words of a refusal. -/
def RegistrationError.message : RegistrationError → String
  | .invalidMethod m => "invalid HTTP method `" ++ m ++ "`"
  | .noMethods p => "route `" ++ p ++ "` declares no HTTP methods"
  | .unterminatedPlaceholder t => "unterminated placeholder in template `" ++ t ++ "`"
  | .invalidPlaceholder t n => "invalid placeholder name `" ++ n ++ "` in template `" ++ t ++ "`"
  | .catchAllWithoutPlaceholder t => "catch-all template `" ++ t ++ "` has no placeholder"
  | .preAnchored p => "raw pattern `" ++ p ++ "` must not be anchored with ^ or $"
  | .expression p => "pattern `" ++ p ++ "` failed to compile"

end RequestDispatch.Route
