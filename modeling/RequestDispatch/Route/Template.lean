import RequestDispatch.Regex
import RequestDispatch.Text.Blank

/-!
# Path templates

A template is literal text with placeholders `{name}`. `Piece.read` takes it apart,
`Piece.expression` writes the regular expression that it stands for, and `Piece.fill` puts values
in place of the placeholders: a path matches exactly when it is the template filled with values
that are allowed there.
-/

set_option autoImplicit false

namespace RequestDispatch.Route

/-- A part of a template. -/
inductive Piece where
  | literal (text : List Char)
  | placeholder (name : List Char)
  deriving Repr, DecidableEq

/-- Why a text is no template. -/
inductive TemplateFault where
  | unterminated
  | badName (name : List Char)
  deriving Repr, DecidableEq

/-- Letters and underscores, then digits too, all of them ASCII. -/
def isIdentifier : List Char → Bool
  | [] => false
  | c :: rest => (c.isAlpha || c == '_') && rest.all fun d => d.isAlphanum || d == '_'

namespace Piece

/-- The literal text read so far, given backwards, as a piece in front of others. -/
def flush (held : List Char) (pieces : List Piece) : List Piece :=
  match held with
  | [] => pieces
  | _ => .literal held.reverse :: pieces

/-- Reads the pieces of a template. `held` is the literal text or the name read so far,
backwards; `inside` tells which. -/
def readFrom : (inside : Bool) → (held : List Char) → List Char →
    Except TemplateFault (List Piece)
  | false, held, [] => .ok (flush held [])
  | true, _, [] => .error .unterminated
  | false, held, c :: rest =>
    if c = '\x7b' then (readFrom true [] rest).map (flush held)
    else readFrom false (c :: held) rest
  | true, held, c :: rest =>
    if c = '\x7d' then
      if isIdentifier held.reverse then
        (readFrom false [] rest).map (.placeholder held.reverse :: ·)
      else .error (.badName held.reverse)
    else readFrom true (c :: held) rest

/-- The pieces of a template. -/
def read (template : List Char) : Except TemplateFault (List Piece) := readFrom false [] template

/-- The name of a placeholder. -/
def name? : Piece → Option (List Char)
  | .literal _ => none
  | .placeholder n => some n

/-- The names of the placeholders, in order. -/
def names (pieces : List Piece) : List (List Char) := pieces.filterMap name?

/-- A placeholder as a group: `[^/]+` for one segment, `.+` for the rest of the path. -/
def groupText (rest : Bool) (name : List Char) : List Char :=
  "(?P<".toList ++ name ++ ['>'] ++ (if rest then ".+".toList else "[^/]+".toList) ++ [')']

/-- The expression of pieces. With `catchAll` the last placeholder takes the rest of the path. -/
def expression (catchAll : Bool) : List Piece → List Char
  | [] => []
  | .literal t :: rest => Regex.escape t ++ expression catchAll rest
  | .placeholder n :: rest =>
    groupText (catchAll && (names rest).isEmpty) n ++ expression catchAll rest

/-- The text of pieces with values in place of the placeholders, in order. -/
def fill : List Piece → List (List Char) → List Char
  | [], _ => []
  | .literal t :: rest, values => t ++ fill rest values
  | .placeholder _ :: rest, v :: values => v ++ fill rest values
  | .placeholder _ :: rest, [] => fill rest []

/-- The template that pieces were read from. -/
def source : List Piece → List Char
  | [] => []
  | .literal t :: rest => t ++ source rest
  | .placeholder n :: rest => ['\x7b'] ++ n ++ ['\x7d'] ++ source rest

end Piece

/-! ## Slashes -/

/-- A template always starts with a slash. -/
def withSlash (template : List Char) : List Char :=
  if template.head? = some '/' then template else '/' :: template

/-- Joins a namespace and a template by one slash; slashes at the ends of either do not count. -/
def namespaced (space template : List Char) : List Char :=
  match Text.trimBy (· == '/') space, Text.trimBy (· == '/') template with
  | [], rest => '/' :: rest
  | ns, [] => '/' :: ns
  | ns, rest => '/' :: (ns ++ '/' :: rest)

/-- A template under a namespace, as texts. -/
def joinNamespace (space template : String) : String :=
  String.ofList (namespaced space.toList template.toList)

end RequestDispatch.Route
