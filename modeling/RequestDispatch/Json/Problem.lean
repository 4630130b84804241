import RequestDispatch.Json.Draft
import RequestDispatch.Text.Quoted

/-!
# What can be wrong with structured data

A typed reader reports what it found and what it expected. `Wording` holds the two names that
formats spell differently.
-/

set_option autoImplicit false

namespace RequestDispatch.Json

open Number (Double)

/-- What a reader found. -/
inductive Found where
  | null
  | bool (b : Bool)
  | integer (n : Int)
  | real (x : Double)
  | text (s : String)
  | sequence
  | map
  /-- Something that has no kind of its own. -/
  | other (description : String)
  deriving Repr, DecidableEq

/-- Why data could not be read. -/
inductive Problem where
  | invalidType (found : Found) (expected : String)
  | invalidValue (found : Found) (expected : String)
  | invalidLength (length : Nat) (expected : String)
  | missingField (name : String)
  | duplicateField (name : String)
  | unknownField (name : String) (expected : List String)
  /-- An array of this length has more elements than expected. -/
  | surplus (length : Nat)
  /-- The value has the right kind, but its owner refuses it. -/
  | refused (message : String)
  /-- The document does not follow the grammar. -/
  | malformed
  deriving Repr, DecidableEq

/-- The words of a format for nothing and for a double. -/
structure Wording where
  null : String
  real : Double → String

/-- The words used for structured text. -/
def Wording.structured : Wording :=
  ⟨"null", fun x => (x.write? .structured).getD "NaN"⟩

/-- What was found, in words. -/
def Found.describe (w : Wording) : Found → String
  | .null => w.null
  | .bool b => "boolean `" ++ (if b then "true" else "false") ++ "`"
  | .integer n => "integer `" ++ toString n ++ "`"
  | .real x => "floating point `" ++ w.real x ++ "`"
  | .text s => "string " ++ Text.quoted s
  | .sequence => "sequence"
  | .map => "map"
  | .other description => description

/-- The alternatives of a list of names, in words. -/
def oneOf (names : List String) : String :=
  match names.map fun n => "`" ++ n ++ "`" with
  | [] => "there are no fields"
  | [a] => "expected " ++ a
  | [a, b] => "expected " ++ a ++ " or " ++ b
  | all => "expected one of " ++ ", ".intercalate all

/-- A problem in words; a document that does not follow the grammar has only a placeholder. -/
def Problem.describe (w : Wording) : Problem → String
  | .invalidType found expected => "invalid type: " ++ found.describe w ++ ", expected " ++ expected
  | .invalidValue found expected =>
    "invalid value: " ++ found.describe w ++ ", expected " ++ expected
  | .invalidLength n expected => "invalid length " ++ toString n ++ ", expected " ++ expected
  | .missingField name => "missing field `" ++ name ++ "`"
  | .duplicateField name => "duplicate field `" ++ name ++ "`"
  | .unknownField name expected => "unknown field `" ++ name ++ "`, " ++ oneOf expected
  | .surplus n => "invalid length " ++ toString n ++ ", expected fewer elements in array"
  | .refused m => m
  | .malformed => "<syntax>"

/-- A problem with structured text, in words. -/
def Problem.message (p : Problem) : String := p.describe .structured

end RequestDispatch.Json
