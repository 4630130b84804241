import RequestDispatch.Text.Blank

/-!
# Request methods

A method is a token of the protocol, and tokens differ by letter case. Names that a user writes
are trimmed and put into upper case first (`Method.normalize`).
-/

set_option autoImplicit false

namespace RequestDispatch.Http

/-- The characters of a token: letters, digits and a few marks, all of them ASCII. -/
def isTokenChar (c : Char) : Bool :=
  c.isAlphanum || "!#$%&'*+-.^_`|~".toList.contains c

/-- Whether a text is a token. -/
def isToken (s : String) : Bool := !s.toList.isEmpty && s.toList.all isTokenChar

/-- A method. -/
structure Method where
  name : String
  deriving Repr, DecidableEq

namespace Method

/-- The method that a text spells, if it is a token. -/
def ofToken? (s : String) : Option Method := if isToken s then some ⟨s⟩ else none

/-- A text with its ASCII letters in upper case. -/
def upper (s : String) : String := String.ofList (s.toList.map Char.toUpper)

/-- The method that a name stands for: case and white space around it do not count. -/
def normalize (name : String) : Option Method := ofToken? (upper (Text.trim name))

end Method

end RequestDispatch.Http
