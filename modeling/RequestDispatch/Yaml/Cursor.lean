/-!
# A place in a document

A `Cursor` is the rest of a document with its line and column. Line breaks of all kinds are read
as one character, a line feed unless they are the separators of lines and paragraphs.
-/

set_option autoImplicit false

namespace RequestDispatch.Yaml

/-- What is left of a document, and where it begins. -/
structure Cursor where
  rest : List Char
  line : Nat := 0
  column : Nat := 0
  /-- How many characters were passed. -/
  index : Nat := 0
  deriving Repr

def isBlank (c : Char) : Bool := c == ' ' || c == '\t'

def isBreak (c : Char) : Bool :=
  c == '\n' || c == '\r' || c == '\u0085' || c == '\u2028' || c == '\u2029'

/-- A letter, a digit, `_` or `-`. -/
def isWord (c : Char) : Bool := c.isAlphanum || c == '_' || c == '-'

/-- Whether a blank, a break or the end comes next. -/
def atGap : List Char → Bool
  | [] => true
  | c :: _ => isBlank c || isBreak c

/-- Whether a break or the end comes next. -/
def atLineEnd : List Char → Bool
  | [] => true
  | c :: _ => isBreak c

/-- Whether three dashes or three dots with a gap behind them come next. -/
def atDocumentMark : List Char → Bool
  | '-' :: '-' :: '-' :: rest => atGap rest
  | '.' :: '.' :: '.' :: rest => atGap rest
  | _ => false

namespace Cursor

/-- Passes one character that is not a break. -/
def skip (c : Cursor) : Cursor :=
  { c with rest := c.rest.tail, column := c.column + 1, index := c.index + 1 }

/-- Passes characters that are not breaks. -/
def skipN (c : Cursor) (n : Nat) : Cursor :=
  { c with rest := c.rest.drop n, column := c.column + n, index := c.index + n }

/-- Passes a break, and gives the character it stands for; at the end there is none. -/
def skipBreak (c : Cursor) : List Char × Cursor :=
  let next (rest : List Char) (n : Nat) : Cursor :=
    { rest, line := c.line + 1, column := 0, index := c.index + n }
  match c.rest with
  | [] => ([], c)
  | '\r' :: '\n' :: rest => (['\n'], next rest 2)
  | b :: rest => ([if b == '\u2028' || b == '\u2029' then b else '\n'], next rest 1)

/-- Passes characters as long as they satisfy a test that no break does. -/
def skipWhile (p : Char → Bool) (c : Cursor) : List Char × Cursor :=
  let (taken, _) := c.rest.span p
  (taken, c.skipN taken.length)

/-- Whether a document mark comes next at the beginning of a line. -/
def atMark (c : Cursor) : Bool := c.column == 0 && atDocumentMark c.rest

end Cursor

end RequestDispatch.Yaml
