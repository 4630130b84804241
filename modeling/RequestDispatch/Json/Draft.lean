import RequestDispatch.Json.Value
import RequestDispatch.Text.Digits
import RequestDispatch.Text.Utf8

/-!
# Reading structured values

`Draft.read` reads a document as far as it can: where the text stops following the grammar the
draft has a `fault`, and what stands before it is kept. A reader of typed data goes through the
draft in the order of the document, so of two things wrong it finds the one that comes first,
be it a value of the wrong kind or a fault. `Draft.value?` is the whole value of a draft without
fault.
-/

set_option autoImplicit false

namespace RequestDispatch.Json

open Number (Double)

/-- A document as far as it could be read. `closed` tells whether the closing bracket was
reached. -/
inductive Draft where
  | null
  | bool (b : Bool)
  | integer (n : Int)
  | real (x : Double)
  | text (s : String)
  | items (elements : List Draft) (closed : Bool)
  | entries (pairs : List (String × Draft)) (closed : Bool)
  | fault
  deriving Repr, Inhabited

/-- The greatest depth of nested brackets. -/
def maxDepth : Nat := 127

/-- The characters that may stand between tokens. -/
def isGap (c : Char) : Bool := c == ' ' || c == '\n' || c == '\t' || c == '\r'

def skipGap (cs : List Char) : List Char := cs.dropWhile isGap

/-! ## Texts -/

/-- Reads four hexadecimal digits. -/
def readHex4 : List Char → Option (Nat × List Char)
  | a :: b :: c :: d :: rest => do
    let a ← Text.hexValue? a
    let b ← Text.hexValue? b
    let c ← Text.hexValue? c
    let d ← Text.hexValue? d
    pure (((a * 16 + b) * 16 + c) * 16 + d, rest)
  | _ => none

/-- The character of a two-letter escape. -/
def escapeOf? (c : Char) : Option Char :=
  if c == '"' then some '"'
  else if c == '\\' then some '\\'
  else if c == '/' then some '/'
  else if c == 'b' then some '\x08'
  else if c == 'f' then some '\x0c'
  else if c == 'n' then some '\n'
  else if c == 'r' then some '\r'
  else if c == 't' then some '\t'
  else none

/-- Reads the digits of `\u`, and of the second half where the first is a high surrogate. A half
without its partner is refused. -/
def readUnicode (cs : List Char) : Option (Char × List Char) := do
  let (n, rest) ← readHex4 cs
  if 0xDC00 ≤ n && n ≤ 0xDFFF then none
  else if 0xD800 ≤ n && n ≤ 0xDBFF then
    match rest with
    | '\\' :: 'u' :: rest =>
      let (m, rest) ← readHex4 rest
      if 0xDC00 ≤ m && m ≤ 0xDFFF then
        pure (Char.ofNat (0x10000 + (n - 0xD800) * 0x400 + (m - 0xDC00)), rest)
      else none
    | _ => none
  else pure (Char.ofNat n, rest)

/-- Reads the rest of a text up to its closing quote; `acc` holds what was read, backwards. -/
def readText : (fuel : Nat) → List Char → (acc : List Char) → Option (String × List Char)
  | 0, _, _ => none
  | _ + 1, [], _ => none
  | fuel + 1, c :: rest, acc =>
    if c == '"' then some (String.ofList acc.reverse, rest)
    else if c == '\\' then
      match rest with
      | [] => none
      | 'u' :: rest =>
        match readUnicode rest with
        | some (u, rest) => readText fuel rest (u :: acc)
        | none => none
      | e :: rest =>
        match escapeOf? e with
        | some u => readText fuel rest (u :: acc)
        | none => none
    else if c.toNat < 0x20 then none
    else readText fuel rest (c :: acc)

/-! ## Numbers -/

/-- The parts of a written number. -/
structure Numeral where
  negative : Bool
  whole : List Char
  /-- The digits after the point, if there is a point. -/
  fraction : Option (List Char)
  /-- The sign and the digits of the exponent, if there is one. -/
  exponent : Option (Bool × List Char)

def isDigit (c : Char) : Bool := '0' ≤ c && c ≤ '9'

/-- The value of a row of decimal digits. -/
def digitsValue (ds : List Char) : Nat :=
  ds.foldl (fun n d => n * 10 + (d.toNat - 48)) 0

/-- Reads a number by the grammar: no leading zero, digits on both sides of the point and in the
exponent. -/
def readNumeral (cs : List Char) : Option (Numeral × List Char) :=
  let (negative, cs) := match cs with
    | '-' :: rest => (true, rest)
    | _ => (false, cs)
  let whole := cs.takeWhile isDigit
  let cs := cs.dropWhile isDigit
  if whole.isEmpty || (whole.length != 1 && whole.head? == some '0') then none
  else
    let afterPoint : Option (Option (List Char) × List Char) := match cs with
      | '.' :: rest =>
        let ds := rest.takeWhile isDigit
        if ds.isEmpty then none else some (some ds, rest.dropWhile isDigit)
      | _ => some (none, cs)
    match afterPoint with
    | none => none
    | some (fraction, cs) =>
      match cs with
      | e :: rest =>
        if e == 'e' || e == 'E' then
          let (minus, rest) := match rest with
            | '+' :: rest => (false, rest)
            | '-' :: rest => (true, rest)
            | _ => (false, rest)
          let ds := rest.takeWhile isDigit
          if ds.isEmpty then none
          else some (⟨negative, whole, fraction, some (minus, ds)⟩, rest.dropWhile isDigit)
        else some (⟨negative, whole, fraction, none⟩, cs)
      | [] => some (⟨negative, whole, fraction, none⟩, cs)

/-- Adds digits to a significand while it stays below `2 ^ 64`; returns it with the digits left
over. -/
def significand : List Char → Nat → Nat × List Char
  | [], n => (n, [])
  | d :: rest, n =>
    let m := n * 10 + (d.toNat - 48)
    if m < UInt64.size then significand rest m else (n, d :: rest)

/-- The double of a significand and a power of ten. The significand is rounded first, then the
product or quotient with the double of the power; a result beyond the doubles is refused. -/
def scaled : (fuel : Nat) → Double → Int → Option Double
  | 0, f, _ => some f
  | fuel + 1, f, exponent =>
    if exponent.natAbs ≤ 308 then
      let power := Double.ofDecimal false 1 exponent.natAbs
      if 0 ≤ exponent then
        match f.mul power with
        | .infinite _ => none
        | product => some product
      else some (f.div power)
    else if f.isZero then some f
    else if 0 ≤ exponent then none
    else scaled fuel (f.div (Double.ofDecimal false 1 308)) (exponent + 308)

/-- The double of a written number: the leading digits that fit into 64 bits count, and further
ones only by their number. -/
def Numeral.real? (n : Numeral) : Option Double :=
  let (s, spare) := significand n.whole 0
  let fraction := n.fraction.getD []
  let (s, taken) :=
    if spare.isEmpty then
      let (s, left) := significand fraction s
      (s, fraction.length - left.length)
    else (s, 0)
  let start : Int := (spare.length : Int) - taken
  let value := match n.exponent with
    | none => scaled 8 (.ofNat s) start
    | some (minus, ds) =>
      let e := digitsValue ds
      if 1 <<< 31 ≤ e then
        if s != 0 && !minus then none else some (.zero false)
      else scaled 8 (.ofNat s) (if minus then start - e else start + e)
  value.map fun x => if n.negative then x.neg else x

/-- The draft of a written number: a whole number in the exact range stays one, except `-0`. -/
def Numeral.draft (n : Numeral) : Draft :=
  let real := match n.real? with
    | some x => .real x
    | none => .fault
  if n.fraction.isNone && n.exponent.isNone then
    let v := digitsValue n.whole
    if n.negative then
      if v == 0 || 1 <<< 63 < v then real else .integer (-(v : Int))
    else if v < UInt64.size then .integer v else real
  else real

/-! ## Values -/

/-- Takes a given row of characters off the front. -/
def expect : List Char → List Char → Option (List Char)
  | [], cs => some cs
  | _ :: _, [] => none
  | x :: xs, c :: cs => if x == c then expect xs cs else none

/-- A draft, and the text after it if it has no fault. -/
abbrev Read := Draft × Option (List Char)

def Read.word (w : String) (d : Draft) (cs : List Char) : Read :=
  match expect w.toList cs with
  | some rest => (d, some rest)
  | none => (.fault, none)

mutual

/-- Reads a value; `depth` more brackets may be opened. -/
def readValue : (fuel depth : Nat) → List Char → Read
  | 0, _, _ => (.fault, none)
  | fuel + 1, depth, cs =>
    match skipGap cs with
    | [] => (.fault, none)
    | c :: rest =>
      if c == 'n' then Read.word "null" .null (c :: rest)
      else if c == 't' then Read.word "true" (.bool true) (c :: rest)
      else if c == 'f' then Read.word "false" (.bool false) (c :: rest)
      else if c == '"' then
        match readText (rest.length + 1) rest [] with
        | some (s, rest) => (.text s, some rest)
        | none => (.fault, none)
      else if c == '-' || isDigit c then
        match readNumeral (c :: rest) with
        | some (n, rest) =>
          match n.draft with
          | .fault => (.fault, none)
          | d => (d, some rest)
        | none => (.fault, none)
      else if c == '[' then
        match depth with
        | 0 => (.fault, none)
        | depth + 1 =>
          match skipGap rest with
          | ']' :: rest => (.items [] true, some rest)
          | rest => readItems fuel depth rest []
      else if c == '\x7b' then
        match depth with
        | 0 => (.fault, none)
        | depth + 1 =>
          match skipGap rest with
          | '\x7d' :: rest => (.entries [] true, some rest)
          | rest => readEntries fuel depth rest []
      else (.fault, none)

/-- Reads the items of an array from one item on. -/
def readItems : (fuel depth : Nat) → List Char → List Draft → Read
  | 0, _, _, acc => (.items acc.reverse false, none)
  | fuel + 1, depth, cs, acc =>
    match readValue fuel depth cs with
    | (d, none) => (.items (d :: acc).reverse false, none)
    | (d, some rest) =>
      match skipGap rest with
      | ',' :: rest => readItems fuel depth rest (d :: acc)
      | ']' :: rest => (.items (d :: acc).reverse true, some rest)
      | _ => (.items (d :: acc).reverse false, none)

/-- Reads the members of an object from one key on. -/
def readEntries : (fuel depth : Nat) → List Char → List (String × Draft) → Read
  | 0, _, _, acc => (.entries acc.reverse false, none)
  | fuel + 1, depth, cs, acc =>
    match skipGap cs with
    | '"' :: rest =>
      match readText (rest.length + 1) rest [] with
      | none => (.entries acc.reverse false, none)
      | some (key, rest) =>
        match skipGap rest with
        | ':' :: rest =>
          match readValue fuel depth rest with
          | (d, none) => (.entries ((key, d) :: acc).reverse false, none)
          | (d, some rest) =>
            match skipGap rest with
            | ',' :: rest => readEntries fuel depth rest ((key, d) :: acc)
            | '\x7d' :: rest => (.entries ((key, d) :: acc).reverse true, some rest)
            | _ => (.entries ((key, d) :: acc).reverse false, none)
        | _ => (.entries ((key, .fault) :: acc).reverse false, none)
    | _ => (.entries acc.reverse false, none)

end

/-- A document as far as it can be read, and whether nothing but gaps stands after it. -/
structure Document where
  draft : Draft
  complete : Bool

/-- Reads a document. -/
def Document.read (cs : List Char) : Document :=
  match readValue (2 * cs.length + 2) maxDepth cs with
  | (d, none) => ⟨d, false⟩
  | (d, some rest) => ⟨d, (skipGap rest).isEmpty⟩

/-- Reads a document from a text. -/
def Document.ofText (s : String) : Document := .read s.toList

/-- Reads a document from bytes. A byte that is no part of a character ends what can be read. -/
def Document.ofBytes (bytes : List UInt8) : Document :=
  match Text.decodeUtf8 bytes with
  | some s => .ofText s
  | none => .read ((Text.decodeValidPrefix bytes).1 ++ ['\x00'])

mutual

/-- The value of a draft without fault. -/
def Draft.value? : Draft → Option Json
  | .null => some .null
  | .bool b => some (.bool b)
  | .integer n => some (.integer n)
  | .real x => some (.real x)
  | .text s => some (.text s)
  | .items elements closed =>
    if closed then (Draft.values? elements).map .array else none
  | .entries pairs closed =>
    if closed then (Draft.members? pairs).map fun ms => .object (Dictionary.ofPairs ms) else none
  | .fault => none

def Draft.values? : List Draft → Option (List Json)
  | [] => some []
  | d :: rest =>
    match d.value?, Draft.values? rest with
    | some v, some vs => some (v :: vs)
    | _, _ => none

def Draft.members? : List (String × Draft) → Option (List (String × Json))
  | [] => some []
  | (k, d) :: rest =>
    match d.value?, Draft.members? rest with
    | some v, some vs => some ((k, v) :: vs)
    | _, _ => none

end

mutual

/-- A value as a draft without fault. -/
def Draft.ofJson : Json → Draft
  | .null => .null
  | .bool b => .bool b
  | .integer n => .integer n
  | .real x => .real x
  | .text s => .text s
  | .array vs => .items (Draft.ofItems vs) true
  | .object members => .entries (Draft.ofMembers members) true

def Draft.ofItems : List Json → List Draft
  | [] => []
  | v :: rest => Draft.ofJson v :: Draft.ofItems rest

def Draft.ofMembers : List (String × Json) → List (String × Draft)
  | [] => []
  | (k, v) :: rest => (k, Draft.ofJson v) :: Draft.ofMembers rest

end

/-- The value that a text spells. -/
def parse? (s : String) : Option Json :=
  let doc := Document.ofText s
  if doc.complete then doc.draft.value? else none

end RequestDispatch.Json
