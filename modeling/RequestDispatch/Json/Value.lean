import RequestDispatch.Dictionary
import RequestDispatch.Number.Double

/-!
# Structured values

A `Json` value is the tree that handlers, workers and the store exchange. `Json.ofMembers` builds an
object as a dictionary: members in the order of their keys, each key once, the last value.
-/

set_option autoImplicit false

namespace RequestDispatch

namespace Number

/-- The least whole number kept exactly. -/
def minInteger : Int := -0x8000000000000000

/-- The greatest whole number kept exactly. -/
def maxInteger : Int := 0xFFFFFFFFFFFFFFFF

end Number

/-- A structured value. Whole numbers in the range `Number.minInteger` to `Number.maxInteger` are
exact; every other number is a double. -/
inductive Json where
  | null
  | bool (b : Bool)
  | integer (n : Int)
  | real (x : Number.Double)
  | text (s : String)
  | array (items : List Json)
  | object (members : List (String × Json))
  deriving Repr, Inhabited

namespace Json

/-- An object with its members in the order of their keys. -/
def ofMembers (pairs : List (String × Json)) : Json :=
  .object (Dictionary.ofPairs pairs)

/-- A dictionary of texts. -/
def ofTexts (m : TextMap) : Json :=
  .object (m.entries.map fun p => (p.1, .text p.2))

/-- A list of pairs of texts. -/
def ofTextPairs (pairs : List (String × String)) : Json :=
  .array (pairs.map fun p => .array [.text p.1, .text p.2])

/-- The value of a member of an object. -/
def member? (key : String) : Json → Option Json
  | .object ms => Dictionary.find? key ms
  | _ => none

/-- A whole number, as a double where it is out of the exact range. -/
def ofInt (n : Int) : Json :=
  if Number.minInteger ≤ n && n ≤ Number.maxInteger then .integer n else .real (.ofInt n)

def ofNat (n : Nat) : Json := ofInt n

/-- The text of a value that is one. -/
def text? : Json → Option String
  | .text s => some s
  | _ => none

end Json

end RequestDispatch
