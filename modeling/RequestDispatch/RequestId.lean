import RequestDispatch.Text.Utf8

/-!
# Request ids

An id is a number of 128 bits, written as twenty-six digits of base 32 over the digits and the
letters without I, L, O and U. Letter case does not count when reading. Twenty-six digits hold two
bits more than an id has; they are lost when the first digit is above 7.
-/

set_option autoImplicit false

namespace RequestDispatch

/-- A request id. -/
structure RequestId where
  number : BitVec 128
  deriving DecidableEq, Repr, Inhabited

namespace RequestId

/-- Why a text is no id. -/
inductive Fault where
  | length
  | character
  deriving Repr, DecidableEq

def Fault.message : Fault → String
  | .length => "invalid length"
  | .character => "invalid character"

/-- The number of digits of an id. -/
def digitCount : Nat := 26

/-- The digits, from zero to thirty-one. -/
def alphabet : List Char := "0123456789ABCDEFGHJKMNPQRSTVWXYZ".toList

def digit (n : Nat) : Char := alphabet.getD n '0'

/-- The value of a digit in either case. -/
def digitValue? (c : Char) : Option Nat := alphabet.idxOf? c.toUpper

/-- The digits of an id from the lowest one on. -/
def lowDigits : (count : Nat) → Nat → List Char
  | 0, _ => []
  | count + 1, n => digit (n % 32) :: lowDigits count (n / 32)

/-- The text of an id. -/
def text (id : RequestId) : String :=
  String.ofList (lowDigits digitCount id.number.toNat).reverse

/-- Adds digits below a number; bits beyond 128 are lost. -/
def readDigits : BitVec 128 → List Char → Except Fault (BitVec 128)
  | n, [] => .ok n
  | n, c :: rest =>
    match digitValue? c with
    | none => .error .character
    | some v => readDigits (n <<< 5 ||| BitVec.ofNat 128 v) rest

/-- The id that a text spells. Its length counts in bytes. -/
def parse (s : String) : Except Fault RequestId :=
  if s.utf8ByteSize ≠ digitCount then .error .length else (readDigits 0 s.toList).map RequestId.mk

/-- The id that a header carries, if it carries one. -/
def ofHeader? (value : Option String) : Option RequestId :=
  value.bind fun s => (parse s).toOption

end RequestId

end RequestDispatch
