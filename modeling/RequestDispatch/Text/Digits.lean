/-!
# Digits

Hexadecimal digits, and whole numbers in a base up to sixteen.
-/

set_option autoImplicit false

namespace RequestDispatch.Text

/-- The value of a hexadecimal digit. -/
def hexValue? (c : Char) : Option Nat :=
  if '0' ≤ c && c ≤ '9' then some (c.toNat - 48)
  else if 'a' ≤ c && c ≤ 'f' then some (c.toNat - 87)
  else if 'A' ≤ c && c ≤ 'F' then some (c.toNat - 55)
  else none

/-- The lower-case hexadecimal digit of a number below sixteen. -/
def hexDigit (n : Nat) : Char := (Nat.toDigits 16 n).headD '0'

/-- The number that digits of a base spell; there is at least one. -/
def number? (base : Nat) (cs : List Char) : Option Nat :=
  if cs.isEmpty then none
  else
    cs.foldl (fun n c => do
      let n ← n
      let d ← hexValue? c
      if d < base then some (n * base + d) else none) (some 0)

/-- The same where a `+` may stand before the digits. -/
def signedNumber? (base : Nat) : List Char → Option Nat
  | '+' :: cs => number? base cs
  | cs => number? base cs

/-- A number in decimal with zeros before it up to a width. -/
def padded (width n : Nat) : String :=
  let digits := toString n
  String.ofList (List.replicate (width - digits.length) '0') ++ digits

end RequestDispatch.Text
