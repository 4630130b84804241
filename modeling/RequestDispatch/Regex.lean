import RequestDispatch.Regex.Matcher
import RequestDispatch.Regex.Reader
import RequestDispatch.Regex.Size

/-!
# Patterns

A `Regex` is the text of a pattern with the expression it spells. `Regex.compile` refuses texts
that spell none, whose tree is higher than 250 or whose machine is larger than `memoryLimit`;
`Regex.captures?` finds the leftmost match in a text and gives what the named groups took part
with.
-/

set_option autoImplicit false

namespace RequestDispatch

/-- A pattern that can be matched. -/
structure Regex where
  source : String
  expr : Regex.Expr
  deriving Repr

namespace Regex

/-- The greatest height of the tree of a pattern. -/
def maxHeight : Nat := 250

/-- The pattern that a text spells. -/
def compile (source : String) : Except Fault Regex :=
  match readPattern source.toList with
  | .error e => .error e
  | .ok part =>
    if maxHeight < part.height then .error .tooDeep
    else if memoryLimit < part.expr.memory then .error .tooLarge
    else .ok ⟨source, part.expr⟩

/-- The names of the groups, in the order of the text. -/
def names (r : Regex) : List String := r.expr.groupNames.map Prod.snd

/-- What stands between two offsets of a text. -/
def slice (text : List Char) (s : Span) : List Char :=
  (text.drop s.start).take (s.stop - s.start)

/-- The leftmost match in a text. -/
def find? (r : Regex) (text : List Char) : Option Match := r.expr.find? text

/-- What a match gives the named groups that took part in it. -/
def Match.named (m : Match) (text : List Char) (groups : List (Nat × String)) :
    List (String × String) :=
  groups.filterMap fun (index, name) =>
    (m.final.span? index).map fun span => (name, String.ofList (slice text span))

/-- What the named groups take part with in the leftmost match. -/
def captures? (r : Regex) (text : String) : Option (List (String × String)) :=
  (r.find? text.toList).map fun m => m.named text.toList r.expr.groupNames

/-- The characters that are escaped where a text is to stand for itself. -/
def escape (cs : List Char) : List Char :=
  cs.flatMap fun c => if isMeta c then ['\\', c] else [c]

end Regex

end RequestDispatch
