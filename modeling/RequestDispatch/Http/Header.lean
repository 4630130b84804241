/-!
# Header lists

Headers stand in a list of names and values. Names are compared without regard to the case of
ASCII letters, and `set` keeps the place and the spelling of a name that is already there.
-/

set_option autoImplicit false

namespace RequestDispatch.Http.Header

/-- A text with its ASCII letters in lower case. -/
def lower (s : String) : String := String.ofList (s.toList.map Char.toLower)

/-- Two names of the same header. -/
def sameName (a b : String) : Bool := lower a == lower b

/-- The value of the first header of a name. -/
def find? (name : String) (headers : List (String × String)) : Option String :=
  (headers.find? fun h => sameName h.1 name).map Prod.snd

/-- Sets a header: the first of its name gets the new value, and a new name goes to the end. -/
def set (name value : String) : List (String × String) → List (String × String)
  | [] => [(name, value)]
  | h :: rest => if sameName h.1 name then (h.1, value) :: rest else h :: set name value rest

end RequestDispatch.Http.Header
