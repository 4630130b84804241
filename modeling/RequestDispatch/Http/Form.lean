import RequestDispatch.Dictionary
import RequestDispatch.Text.Utf8

/-!
# Encoded forms

Query strings and form bodies are pairs `name=value` separated by `&`, with `+` for a space and
`%` before two hexadecimal digits for any byte. Nothing is refused: a `%` without digits stands
for itself, and bytes that are no text become U+FFFD.
-/

set_option autoImplicit false

namespace RequestDispatch.Http.Form

/-- The value of a hexadecimal digit. -/
def hexValue? (b : UInt8) : Option UInt8 :=
  if 48 ≤ b && b ≤ 57 then some (b - 48)
  else if 65 ≤ b && b ≤ 70 then some (b - 55)
  else if 97 ≤ b && b ≤ 102 then some (b - 87)
  else none

/-- The byte that the first two of some bytes spell as hexadecimal digits. -/
def escaped? : List UInt8 → Option UInt8
  | high :: low :: _ => do
    let high ← hexValue? high
    let low ← hexValue? low
    pure (high * 16 + low)
  | _ => none

/-- Decodes the bytes of a name or value after leaving out `skip` of them; `acc` holds what was
decoded, backwards. -/
def decodeFrom : (skip : Nat) → List UInt8 → (acc : List UInt8) → List UInt8
  | _, [], acc => acc.reverse
  | skip + 1, _ :: rest, acc => decodeFrom skip rest acc
  | 0, b :: rest, acc =>
    if b == 43 then decodeFrom 0 rest (32 :: acc)
    else if b == 37 then
      match escaped? rest with
      | some v => decodeFrom 2 rest (v :: acc)
      | none => decodeFrom 0 rest (b :: acc)
    else decodeFrom 0 rest (b :: acc)

/-- The text of a name or value. -/
def decode (bytes : List UInt8) : String := Text.decodeUtf8Lossy (decodeFrom 0 bytes [])

/-- The parts of a list between separators; `part` and `parts` hold what was cut off, backwards. -/
def splitFrom {α : Type} [BEq α] (sep : α) : List α → (part : List α) → (parts : List (List α)) →
    List (List α)
  | [], part, parts => (part.reverse :: parts).reverse
  | x :: rest, part, parts =>
    if x == sep then splitFrom sep rest [] (part.reverse :: parts)
    else splitFrom sep rest (x :: part) parts

/-- The parts of a list between separators. -/
def splitOn {α : Type} [BEq α] (sep : α) (xs : List α) : List (List α) := splitFrom sep xs [] []

/-- What stands before the first separator, and what stands after it if there is one. -/
def cut {α : Type} [BEq α] (sep : α) (xs : List α) : List α × Option (List α) :=
  (xs.takeWhile (· != sep), (xs.dropWhile (· != sep)).tail?)

/-- The pairs of a form, in order. -/
def pairs (bytes : List UInt8) : List (String × String) :=
  ((splitOn 38 bytes).filter fun part => !part.isEmpty).map fun part =>
    let (name, value) := cut 61 part
    (decode name, decode (value.getD []))

end RequestDispatch.Http.Form
