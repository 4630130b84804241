import RequestDispatch.Text.Category

/-!
# Quoted text for diagnostics

Diagnostics show a text between quotes with everything escaped that would not print as itself:
the quote, the backslash, controls, separators, unassigned characters, and characters that would
join the one before them.
-/

set_option autoImplicit false

namespace RequestDispatch.Text

/-- `\\u` with the code point between braces. -/
def codePointEscape (c : Char) : List Char :=
  ['\\', 'u', '\x7b'] ++ Nat.toDigits 16 c.toNat ++ ['\x7d']

/-- How a character is shown between quotes of the kind `mark`. -/
def quotedChar (mark : Char) (c : Char) : List Char :=
  if c == mark then ['\\', mark]
  else if c == '\\' then ['\\', '\\']
  else if c == '\x00' then ['\\', '0']
  else if c == '\t' then ['\\', 't']
  else if c == '\r' then ['\\', 'r']
  else if c == '\n' then ['\\', 'n']
  else if isExtend c || !isPrintable c then codePointEscape c
  else [c]

/-- A text between double quotes. -/
def quoted (s : String) : String :=
  String.ofList ('"' :: (s.toList.flatMap (quotedChar '"') ++ ['"']))

/-- A single character between single quotes. -/
def quotedSingle (c : Char) : String :=
  String.ofList ('\x27' :: (quotedChar '\x27' c ++ ['\x27']))

/-- A list of shown items between brackets. -/
def bracketed (items : List String) : String :=
  "[" ++ ", ".intercalate items ++ "]"

end RequestDispatch.Text
