import RequestDispatch.Json.Typed
import RequestDispatch.Text.Digits
import RequestDispatch.Yaml.Node

/-!
# Typed data from documents

A plain scalar means nothing, a boolean, a number or a text by its spelling, but where a text is
asked for it is its characters. Readers go through a document in its order and tell where the first
thing wrong stands: `Failure.data` has a path, and everything that breaks the grammar is
`Failure.broken`.
-/

set_option autoImplicit false

namespace RequestDispatch.Yaml

open Json (Found Problem)
open Number (Double)

/-! ## Meanings of plain scalars -/

def isNull (s : String) : Bool := ["null", "Null", "NULL", "~"].contains s

def bool? (s : String) : Option Bool :=
  if ["true", "True", "TRUE"].contains s then some true
  else if ["false", "False", "FALSE"].contains s then some false
  else none

/-- Digits with a zero before them are text. -/
def isPadded (cs : List Char) : Bool :=
  match cs with
  | '0' :: rest => !rest.isEmpty && rest.all Char.isDigit
  | _ => false

/-- The bases that have a mark. -/
def base? : List Char → Option (Nat × List Char)
  | '0' :: 'x' :: rest => some (16, rest)
  | '0' :: 'o' :: rest => some (8, rest)
  | '0' :: 'b' :: rest => some (2, rest)
  | _ => none

/-- A whole number without its sign. -/
def magnitude? (cs : List Char) : Option Nat :=
  match base? cs with
  | some (base, rest) => Text.number? base rest
  | none => if isPadded cs then none else Text.number? 10 cs

/-- The whole number that a scalar spells. -/
def integer? (s : String) : Option Int :=
  match s.toList with
  | '-' :: rest => (magnitude? rest).map fun n => -(n : Int)
  | '+' :: rest => (magnitude? rest).map fun n => (n : Int)
  | cs => (magnitude? cs).map fun n => (n : Int)

/-- The whole number that is asked for where no negative one will do. -/
def natural? (s : String) : Option Nat :=
  match s.toList with
  | '+' :: rest => magnitude? rest
  | cs => magnitude? cs

/-- The number that digits with a point and an exponent spell. -/
def decimal? (negative : Bool) (cs : List Char) : Option Double := do
  let (whole, rest) := cs.span Char.isDigit
  let (fraction, rest) := match rest with
    | '.' :: rest => rest.span Char.isDigit
    | _ => ([], rest)
  if whole.isEmpty && fraction.isEmpty then none
  else
    let exponent ← match rest with
      | [] => some (0 : Int)
      | e :: rest =>
        if e == 'e' || e == 'E' then
          match rest with
          | '-' :: ds => (Text.number? 10 ds).map fun n => -(n : Int)
          | '+' :: ds => (Text.number? 10 ds).map fun n => (n : Int)
          | ds => (Text.number? 10 ds).map fun n => (n : Int)
        else none
    let all ← Text.number? 10 (whole ++ fraction)
    let scale := exponent - fraction.length
    let width := ((whole ++ fraction).dropWhile (· == '0')).length
    if all = 0 || scale + width < -400 then some (.zero negative)
    else if 400 < scale + width then none
    else
      match Double.ofDecimal negative all scale with
      | .finite n m e => some (.finite n m e)
      | _ => none

def infinities : List String := [".inf", ".Inf", ".INF"]

/-- The double that a scalar spells. -/
def real? (s : String) : Option Double :=
  let signed (rest : List Char) : Bool := rest.head?.any fun c => c == '+' || c == '-'
  let unsigned (rest : List Char) : Option Double :=
    if infinities.contains (String.ofList rest) then some (.infinite false) else decimal? false rest
  if [".nan", ".NaN", ".NAN"].contains s then some .nan
  else
    match s.toList with
    | '-' :: rest =>
      if infinities.contains (String.ofList rest) then some (.infinite true) else decimal? true rest
    | '+' :: rest => if signed rest then none else unsigned rest
    | cs => unsigned cs

/-- A whole number as it is found: out of the range that is kept exactly it has a name of its own,
and beyond 128 bits it is none. -/
def wholeFound? (n : Int) : Option Found :=
  if Number.minInteger ≤ n && n ≤ Number.maxInteger then some (.integer n)
  else if 0 ≤ n && n.natAbs < 1 <<< 128 then some (.other ("integer `" ++ toString n ++ "` as u128"))
  else if n < 0 && n.natAbs ≤ 1 <<< 127 then some (.other ("integer `" ++ toString n ++ "` as i128"))
  else none

/-- What a plain scalar means. -/
def plainMeaning (s : String) : Found :=
  if s.isEmpty || isNull s then .null
  else
    match bool? s, (integer? s).bind wholeFound? with
    | some b, _ => .bool b
    | none, some found => found
    | none, none =>
      let body := match s.toList with
        | '-' :: rest => rest
        | '+' :: rest => rest
        | cs => cs
      match if isPadded body then none else real? s with
      | some x => .real x
      | none => .text s

/-- The tag of a type of the core schema. -/
def coreTag (name : String) : String := "tag:yaml.org,2002:" ++ name

/-- What a scalar means with its tag. -/
def meaning (s : String) (style : Style) (tag : Option String) : Except Problem Found :=
  let refused (expected : String) : Except Problem Found := .error (.invalidValue (.text s) expected)
  match tag with
  | none => .ok (if style = .plain then plainMeaning s else .text s)
  | some tag =>
    if tag = coreTag "bool" then (bool? s).elim (refused "a boolean") fun b => .ok (.bool b)
    else if tag = coreTag "int" then
      ((integer? s).bind wholeFound?).elim (refused "an integer") .ok
    else if tag = coreTag "float" then (real? s).elim (refused "a float") fun x => .ok (.real x)
    else if tag = coreTag "null" then if isNull s then .ok .null else refused "null"
    else .ok (if tag.startsWith "!" && style = .plain then plainMeaning s else .text s)

/-! ## Readers -/

/-- A step from a node to one inside it. -/
inductive Step where
  | key (name : String)
  | item (index : Nat)
  /-- The value of a key that is no scalar. -/
  | unknown
  deriving DecidableEq, Repr

/-- The steps from the root to a node, the last one first. -/
abbrev Path := List Step

/-- A path in words. -/
def Path.text : Path → String
  | [] => "."
  | .item i :: parent => Path.text parent ++ "[" ++ toString i ++ "]"
  | .key name :: [] => name
  | .key name :: parent => Path.text parent ++ "." ++ name
  | .unknown :: [] => "?"
  | .unknown :: parent => Path.text parent ++ ".?"

/-- Why data could not be read. -/
inductive Failure where
  | data (path : Path) (problem : Problem)
  /-- The document breaks the grammar. -/
  | broken
  deriving Repr

/-- The words for what is found in a document. -/
def wording : Json.Wording where
  null := "unit value"
  real x :=
    (x.write? .plain).getD (match x with
      | .infinite true => "-inf"
      | .infinite false => "inf"
      | _ => "NaN")

def Failure.message : Failure → String
  | .data [] p => p.describe wording
  | .data path p => path.text ++ ": " ++ p.describe wording
  | .broken => "<other>"

/-- A reader of data at a path. -/
abbrev Reader (α : Type) := Path → Node → Except Failure α

/-- Everything but a scalar of the right kind is a mismatch. -/
def mismatch {α : Type} (path : Path) (n : Node) (expected : String) : Except Failure α :=
  match n with
  | .scalar s style tag =>
    match meaning s style tag with
    | .ok found => .error (.data path (.invalidType found expected))
    | .error p => .error (.data path p)
  | .sequence _ _ _ => .error (.data path (.invalidType .sequence expected))
  | .mapping _ _ _ => .error (.data path (.invalidType .map expected))
  | .absent | .fault => .error .broken

namespace Reader

/-- The characters of any scalar. -/
def textAs (expected : String) : Reader String
  | _, .scalar s _ _ => .ok s
  | path, n => mismatch path n expected

def text : Reader String := textAs "a string"

/-- Whole numbers below a bound, which fits into 64 bits. -/
def natural (bound : Nat) (name : String) : Reader Nat
  | path, .scalar s style tag =>
    if style = .plain || (style = .literal && tag = some (coreTag "int")) then
      match natural? s with
      | some n =>
        if n < bound then .ok n
        else if n < UInt64.size then .error (.data path (.invalidValue (.integer n) name))
        else mismatch path (.scalar s style tag) name
      | none => mismatch path (.scalar s style tag) name
    else mismatch path (.scalar s style tag) name
  | path, n => mismatch path n name

/-- Whether a node stands for a value that is left out. -/
def isOmitted : Node → Except String Bool
  | .scalar s .plain tag =>
    if tag = some (coreTag "null") then if isNull s then .ok true else .error s
    else .ok (s.isEmpty || isNull s)
  | .absent => .ok true
  | _ => .ok false

/-- Nothing, or data. -/
def optional {α : Type} (r : Reader α) : Reader (Option α)
  | path, n =>
    match isOmitted n with
    | .ok true => .ok none
    | .ok false => (r path n).map some
    | .error s => .error (.data path (.invalidValue (.text s) "null"))

def elements {α : Type} (r : Reader α) (path : Path) (closed : Bool) (acc : List α) :
    (index : Nat) → List Node → Except Failure (List α)
  | _, [] => if closed then .ok acc.reverse else .error .broken
  | i, n :: rest =>
    match r (.item i :: path) n with
    | .error e => .error e
    | .ok x => elements r path closed (x :: acc) (i + 1) rest

/-- A sequence; where nothing is written it is empty. -/
def list {α : Type} (r : Reader α) : Reader (List α)
  | path, .sequence items closed _ => elements r path closed [] 0 items
  | _, .absent => .ok []
  | _, .scalar "" .plain _ => .ok []
  | path, n => mismatch path n "a sequence"

/-- The step to the value of a key. -/
def stepOf : Node → Step
  | .scalar s _ _ => .key s
  | _ => .unknown

mutual

/-- Whether a node can be passed over. -/
def whole : Node → Bool
  | .sequence items closed _ => wholeItems items && closed
  | .mapping pairs closed _ => wholePairs pairs && closed
  | .fault => false
  | _ => true

def wholeItems : List Node → Bool
  | [] => true
  | n :: rest => whole n && wholeItems rest

def wholePairs : List (Node × Node) → Bool
  | [] => true
  | (k, v) :: rest => whole k && whole v && wholePairs rest

end

mutual

/-- Any value, at most `depth` collections deep. -/
def value : (depth : Nat) → Reader Json
  | _, path, .scalar s style tag =>
    if tag.any fun t => t.startsWith "!" then
      .error (.data path (.invalidType (.other "enum") "any valid JSON value"))
    else
      match meaning s style tag with
      | .error p => .error (.data path p)
      | .ok .null => .ok .null
      | .ok (.bool b) => .ok (.bool b)
      | .ok (.integer n) => .ok (.integer n)
      | .ok (.real (.finite neg m e)) => .ok (.real (.finite neg m e))
      | .ok (.real _) => .ok .null
      | .ok (.text s) => .ok (.text s)
      | .ok _ => .error (.data path (.refused "JSON number out of range"))
  | 0, _, _ => .error .broken
  | depth + 1, path, .sequence items closed tag =>
    if tag.any fun t => t.startsWith "!" then
      .error (.data path (.invalidType (.other "enum") "any valid JSON value"))
    else (values depth path closed 0 items).map .array
  | depth + 1, path, .mapping pairs closed tag =>
    if tag.any fun t => t.startsWith "!" then
      .error (.data path (.invalidType (.other "enum") "any valid JSON value"))
    else (members depth path closed "a string key" pairs).map Json.ofMembers
  | _, _, .absent => .ok .null
  | _, _, .fault => .error .broken

def values (depth : Nat) (path : Path) (closed : Bool) :
    (index : Nat) → List Node → Except Failure (List Json)
  | _, [] => if closed then .ok [] else .error .broken
  | i, n :: rest =>
    match value depth (.item i :: path) n with
    | .error e => .error e
    | .ok v => (values depth path closed (i + 1) rest).map (v :: ·)

def members (depth : Nat) (path : Path) (closed : Bool) (expected : String) :
    List (Node × Node) → Except Failure (List (String × Json))
  | [] => if closed then .ok [] else .error .broken
  | (k, v) :: rest =>
    match textAs expected path k with
    | .error e => .error e
    | .ok name =>
      match value depth (stepOf k :: path) v with
      | .error e => .error e
      | .ok v => (members depth path closed "a string" rest).map ((name, v) :: ·)

end

/-- The greatest depth of collections inside one another. -/
def maxDepth : Nat := 128

/-- A mapping with values of any kind; where nothing is written it is empty. -/
def object (depth : Nat) : Reader (List (String × Json))
  | path, .mapping pairs closed _ =>
    (members depth path closed "a string" pairs).map Dictionary.ofPairs
  | _, .absent => .ok []
  | _, .scalar "" .plain _ => .ok []
  | path, n => mismatch path n "a map"

end Reader

/-! ## Structures -/

/-- A field of a structure, and what a document sets it to. -/
structure Field (σ : Type) where
  name : String
  set : Path → Node → σ → Except Failure σ

/-- The field that a reader reads. -/
def Field.of {σ α : Type} (name : String) (r : Reader α) (put : α → σ → σ) : Field σ :=
  ⟨name, fun path n s => (r path n).map fun x => put x s⟩

/-- Goes through the pairs of a mapping. A field that is given twice is refused, and pairs of other
names do not matter. -/
def readPairs {σ : Type} (fields : List (Field σ)) (path : Path) (closed : Bool) :
    (seen : List String) → σ → List (Node × Node) → Except Failure σ
  | _, s, [] => if closed then .ok s else .error .broken
  | seen, s, (k, v) :: rest =>
    match Reader.textAs "field identifier" path k with
    | .error e => .error e
    | .ok name =>
      match fields.find? fun f => f.name == name with
      | none => if Reader.whole v then readPairs fields path closed seen s rest else .error .broken
      | some f =>
        if seen.contains name then .error (.data path (.duplicateField name))
        else
          match f.set (.key name :: path) v s with
          | .error e => .error e
          | .ok s => readPairs fields path closed (name :: seen) s rest

/-- Reads a structure over its defaults. -/
def Reader.struct {σ : Type} (name : String) (default : σ) (fields : List (Field σ)) : Reader σ
  | path, .mapping pairs closed _ => readPairs fields path closed [] default pairs
  | _, .absent => .ok default
  | _, .scalar "" .plain _ => .ok default
  | path, n => mismatch path n ("struct " ++ name)

/-- Reads the only document of a text. -/
def decode {α : Type} (text : String) (r : Reader α) : Except Failure α :=
  let doc := Document.ofText text
  match r [] doc.root with
  | .error e => .error e
  | .ok x => if doc.complete then .ok x else .error .broken

end RequestDispatch.Yaml
