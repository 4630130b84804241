import RequestDispatch.Http.Form
import RequestDispatch.Text.Blank

/-!
# Cookies

A cookie header is a list of pairs `name=value` separated by `;`. White space around names and
values does not count, a pair without a name is dropped, and of a repeated name the last value
stays.
-/

set_option autoImplicit false

namespace RequestDispatch.Http.Cookie

/-- The pair that a part of the header spells, unless its name is empty. -/
def pair? (part : List Char) : Option (String × String) :=
  let (name, value) := Form.cut '=' (Text.trimBy Text.isBlank part)
  match Text.trimBy Text.isBlank name with
  | [] => none
  | name => some (String.ofList name, String.ofList (Text.trimBy Text.isBlank (value.getD [])))

/-- The pairs of a header, in order. -/
def pairs (header : List Char) : List (String × String) :=
  (Form.splitOn ';' header).filterMap pair?

/-- The cookies of a header. -/
def parse (header : Option String) : TextMap :=
  match header with
  | none => .empty
  | some h => .ofPairs (pairs h.toList)

end RequestDispatch.Http.Cookie
