/-!
# Base 64

Bytes as text over the standard alphabet, padded to a multiple of four. `decodeBytes` accepts exactly
the texts that `encode` writes, and tells which symbol, length or padding is wrong otherwise.
-/

set_option autoImplicit false

namespace RequestDispatch.Text.Base64

/-- Why a text is no base 64. -/
inductive Fault where
  | symbol (byte : UInt8) (offset : Nat)
  | length (length : Nat)
  /-- The last symbol has bits set that stand for no byte. -/
  | lastSymbol (byte : UInt8) (offset : Nat)
  | padding
  deriving Repr, DecidableEq

def Fault.message : Fault → String
  | .symbol b i => "Invalid symbol " ++ toString b.toNat ++ ", offset " ++ toString i ++ "."
  | .length n => "Invalid input length: " ++ toString n
  | .lastSymbol b i => "Invalid last symbol " ++ toString b.toNat ++ ", offset " ++ toString i ++ "."
  | .padding => "Invalid padding"

/-- The symbol of six bits. -/
def symbol (n : Nat) : Char :=
  if n < 26 then Char.ofNat (65 + n)
  else if n < 52 then Char.ofNat (97 + (n - 26))
  else if n < 62 then Char.ofNat (48 + (n - 52))
  else if n == 62 then '+'
  else '/'

/-- The six bits of a symbol. -/
def value? (b : UInt8) : Option Nat :=
  let n := b.toNat
  if 65 ≤ n && n ≤ 90 then some (n - 65)
  else if 97 ≤ n && n ≤ 122 then some (n - 97 + 26)
  else if 48 ≤ n && n ≤ 57 then some (n - 48 + 52)
  else if n == 43 then some 62
  else if n == 47 then some 63
  else none

/-- The byte of the padding sign. -/
def pad : UInt8 := 61

/-- The four symbols of a number of twenty-four bits. -/
def quad (n : Nat) : List Char :=
  [symbol (n >>> 18), symbol ((n >>> 12) % 64), symbol ((n >>> 6) % 64), symbol (n % 64)]

/-- Encodes bytes, three at a time, in front of what `acc` holds backwards. -/
def encodeFrom : List UInt8 → (acc : List Char) → List Char
  | a :: b :: c :: rest, acc =>
    encodeFrom rest ((quad (a.toNat <<< 16 + b.toNat <<< 8 + c.toNat)).reverse ++ acc)
  | [a, b], acc =>
    acc.reverse ++ (quad (a.toNat <<< 16 + b.toNat <<< 8)).take 3 ++ ['=']
  | [a], acc => acc.reverse ++ (quad (a.toNat <<< 16)).take 2 ++ ['=', '=']
  | [], acc => acc.reverse

def encode (bytes : List UInt8) : String := String.ofList (encodeFrom bytes [])

/-- The three bytes of a number of twenty-four bits. -/
def triple (n : Nat) : List UInt8 :=
  [(n >>> 16).toUInt8, (n >>> 8).toUInt8, n.toUInt8]

/-- The values of symbols, or the first that is none. -/
def values (offset : Nat) : List UInt8 → Except Fault (List Nat)
  | [] => .ok []
  | b :: rest =>
    match value? b with
    | none => .error (.symbol b offset)
    | some v => (values (offset + 1) rest).map (v :: ·)

/-- The number that symbols spell. -/
def number (vs : List Nat) : Nat := vs.foldl (fun n v => n * 64 + v) 0

/-- Decodes rows of four symbols; `acc` holds the bytes so far, backwards. -/
def decodeQuads : (offset : Nat) → List UInt8 → (acc : List UInt8) → Except Fault (List UInt8)
  | offset, a :: b :: c :: d :: rest, acc =>
    match values offset [a, b, c, d] with
    | .error e => .error e
    | .ok vs => decodeQuads (offset + 4) rest ((triple (number vs)).reverse ++ acc)
  | _, _, acc => .ok acc

/-- Reads the symbols of the last row and counts its padding. Padding may stand only at the end
and after at least two symbols. -/
def lastRow (offset : Nat) : (index padding : Nat) → List UInt8 → Except Fault (List Nat × Nat)
  | _, padding, [] => .ok ([], padding)
  | index, padding, b :: rest =>
    if b == pad then
      if index < 2 then .error (.symbol b (offset + index))
      else lastRow offset (index + 1) (padding + 1) rest
    else if 0 < padding then .error (.symbol pad (offset + index - padding))
    else
      match value? b with
      | none => .error (.symbol b (offset + index))
      | some v => (lastRow offset (index + 1) padding rest).map fun (vs, p) => (v :: vs, p)

/-- Decodes the last row, which may be padded. -/
def decodeLast (offset : Nat) (row : List UInt8) (acc : List UInt8) : Except Fault (List UInt8) :=
  match lastRow offset 0 0 row with
  | .error e => .error e
  | .ok (vs, padding) =>
    let n := vs.length
    if n < 2 then .error (.length (offset + n))
    else if (padding + n) % 4 != 0 then .error .padding
    else
      let bytes := n * 6 / 8
      let bits := number (vs ++ List.replicate (4 - n) 0)
      if bits % (1 <<< (24 - 8 * bytes)) != 0 then
        .error (.lastSymbol ((row.take n).getLastD 0) (offset + n - 1))
      else .ok (acc.reverse ++ (triple bits).take bytes)

/-- The bytes that a text spells. -/
def decodeBytes (text : List UInt8) : Except Fault (List UInt8) :=
  let len := text.length
  let last := text.getLastD pad
  if len == 0 then .ok []
  else if len % 4 == 1 && last != pad && (value? last).isNone then .error (.symbol last (len - 1))
  else
    let start := len - (if len % 4 == 0 then 4 else len % 4)
    match decodeQuads 0 (text.take start) [] with
    | .error e => .error e
    | .ok acc => decodeLast start (text.drop start) acc

end RequestDispatch.Text.Base64
