import RequestDispatch.Route.Error
import RequestDispatch.Route.Template

/-!
# Route patterns

A pattern matches whole paths and names what it captured. Templates become expressions between
`^` and `$`; a raw expression is put into a group between them, so it must not anchor itself.
-/

set_option autoImplicit false

namespace RequestDispatch.Route

/-- How a pattern was declared. -/
inductive PatternKind where
  | template
  /-- A template whose last placeholder takes the rest of the path. -/
  | catchAll
  | raw
  deriving Repr, DecidableEq

def PatternKind.name : PatternKind → String
  | .template => "Template"
  | .catchAll => "CatchAll"
  | .raw => "Raw"

/-- A compiled pattern. -/
structure Pattern where
  /-- The template, with its leading slash, or the raw expression. -/
  source : String
  kind : PatternKind
  regex : Regex
  /-- What the pattern can capture, in the order of its text. -/
  paramNames : List String
  deriving Repr

namespace Pattern

/-- Whether a raw expression starts with `^`, or ends with `$` but not with `\$`. -/
def isAnchored (raw : List Char) : Bool :=
  raw.head? == some '^' ||
    (raw.getLast? == some '$' && raw.dropLast.getLast? != some '\\')

/-- The expression of a template between its anchors. -/
def templateExpression (kind : PatternKind) (pieces : List Piece) : List Char :=
  ['^'] ++ Piece.expression (kind == .catchAll) pieces ++ ['$']

/-- Compiles a template of either kind. -/
def ofTemplate (kind : PatternKind) (template : String) : Except RegistrationError Pattern :=
  let normalized := withSlash template.toList
  let source := String.ofList normalized
  match Piece.read normalized with
  | .error .unterminated => .error (.unterminatedPlaceholder source)
  | .error (.badName name) => .error (.invalidPlaceholder source (String.ofList name))
  | .ok pieces =>
    if kind = .catchAll ∧ Piece.names pieces = [] then .error (.catchAllWithoutPlaceholder source)
    else
      match Regex.compile (String.ofList (templateExpression kind pieces)) with
      | .error _ => .error (.expression source)
      | .ok regex => .ok ⟨source, kind, regex, (Piece.names pieces).map String.ofList⟩

/-- The pattern of a template. -/
def template (t : String) : Except RegistrationError Pattern := ofTemplate .template t

/-- The pattern of a template whose last placeholder takes the rest of the path. -/
def catchAll (t : String) : Except RegistrationError Pattern := ofTemplate .catchAll t

/-- A raw expression between its anchors. -/
def rawExpression (raw : List Char) : List Char :=
  "^(?:".toList ++ raw ++ ")$".toList

/-- The pattern of a raw expression. -/
def raw (expression : String) : Except RegistrationError Pattern :=
  if isAnchored expression.toList then .error (.preAnchored expression)
  else
    match Regex.compile (String.ofList (rawExpression expression.toList)) with
    | .error _ => .error (.expression expression)
    | .ok regex => .ok ⟨expression, .raw, regex, regex.names⟩

/-- Compiles a pattern of a kind. -/
def ofKind : PatternKind → String → Except RegistrationError Pattern
  | .raw, source => raw source
  | kind, source => ofTemplate kind source

/-- What a path gives the names of a pattern that matches it, without the groups that took no
part. -/
def captures? (p : Pattern) (path : String) : Option (List (String × String)) :=
  p.regex.captures? path

end Pattern

end RequestDispatch.Route
