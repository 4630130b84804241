import RequestDispatch.Json.Value
import RequestDispatch.Text.Digits

/-!
# Writing structured values

`Json.compact` writes a value without spaces, `Json.pretty` with two spaces of indentation. Both
work on characters, so that what they write can be compared with what `Json.Draft.read` reads.
-/

set_option autoImplicit false

namespace RequestDispatch.Json

/-- How one character of a text is written. -/
def escapeChar (c : Char) : List Char :=
  if c == '"' then ['\\', '"']
  else if c == '\\' then ['\\', '\\']
  else if c == '\x08' then ['\\', 'b']
  else if c == '\x0c' then ['\\', 'f']
  else if c == '\n' then ['\\', 'n']
  else if c == '\r' then ['\\', 'r']
  else if c == '\t' then ['\\', 't']
  else if c.toNat < 0x20 then
    ['\\', 'u', '0', '0', Text.hexDigit (c.toNat / 16), Text.hexDigit (c.toNat % 16)]
  else [c]

/-- A text between quotes. -/
def quote (s : String) : List Char :=
  '"' :: (s.toList.flatMap escapeChar ++ ['"'])

/-- A number that no double can be is written as `null`. -/
def writeReal (x : Number.Double) : List Char :=
  ((x.write? .structured).getD "null").toList

/-- Puts a separator between lists of characters. -/
def joinWith (sep : List Char) : List (List Char) → List Char
  | [] => []
  | [x] => x
  | x :: y :: rest => x ++ sep ++ joinWith sep (y :: rest)

mutual

/-- The characters of a value without spaces. -/
def compactChars : Json → List Char
  | .null => "null".toList
  | .bool true => "true".toList
  | .bool false => "false".toList
  | .integer n => (toString n).toList
  | .real x => writeReal x
  | .text s => quote s
  | .array items => '[' :: (joinWith [','] (compactItems items) ++ [']'])
  | .object members => '\x7b' :: (joinWith [','] (compactMembers members) ++ ['\x7d'])

/-- The items of an array, each written without spaces. -/
def compactItems : List Json → List (List Char)
  | [] => []
  | v :: rest => compactChars v :: compactItems rest

/-- The members of an object, each written without spaces. -/
def compactMembers : List (String × Json) → List (List Char)
  | [] => []
  | (k, v) :: rest => (quote k ++ ':' :: compactChars v) :: compactMembers rest

end

/-- A value as text without spaces. -/
def compact (v : Json) : String := String.ofList (compactChars v)

/-- A line break and the indentation of a depth. -/
def newline (depth : Nat) : List Char := '\n' :: List.replicate (2 * depth) ' '

mutual

/-- The characters of a value, indented from a depth on. -/
def prettyChars (depth : Nat) : Json → List Char
  | .array [] => ['[', ']']
  | .array items =>
    '[' :: (newline (depth + 1) ++
      joinWith (',' :: newline (depth + 1)) (prettyItems (depth + 1) items) ++ newline depth ++ [']'])
  | .object [] => ['\x7b', '\x7d']
  | .object members =>
    '\x7b' :: (newline (depth + 1) ++
      joinWith (',' :: newline (depth + 1)) (prettyMembers (depth + 1) members) ++
      newline depth ++ ['\x7d'])
  | v => compactChars v

/-- The items of an array, each indented from a depth on. -/
def prettyItems (depth : Nat) : List Json → List (List Char)
  | [] => []
  | v :: rest => prettyChars depth v :: prettyItems depth rest

/-- The members of an object, each indented from a depth on. -/
def prettyMembers (depth : Nat) : List (String × Json) → List (List Char)
  | [] => []
  | (k, v) :: rest => (quote k ++ ':' :: ' ' :: prettyChars depth v) :: prettyMembers depth rest

end

/-- A value as text over several lines. -/
def pretty (v : Json) : String := String.ofList (prettyChars 0 v)

end RequestDispatch.Json
