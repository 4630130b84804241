import RequestDispatch.Json.Problem

/-!
# Typed readers

A reader turns a draft into data, or says what is wrong. Readers go through a draft in the order
of the document, so the first thing wrong is the one reported. `Record` reads the fields of a
structure, which may be written as an object or as an array in the order of declaration.
-/

set_option autoImplicit false

namespace RequestDispatch.Json

/-- A reader of data. -/
abbrev Reader (α : Type) := Draft → Except Problem α

namespace Draft

/-- What a draft is, unless it is a fault. -/
def found? : Draft → Option Found
  | .null => some .null
  | .bool b => some (.bool b)
  | .integer n => some (.integer n)
  | .real x => some (.real x)
  | .text s => some (.text s)
  | .items _ _ => some .sequence
  | .entries _ _ => some .map
  | .fault => none

/-- The problem with a draft that is not of the expected kind. -/
def mismatch (d : Draft) (expected : String) : Problem :=
  match d.found? with
  | some f => .invalidType f expected
  | none => .malformed

end Draft

namespace Reader

def text : Reader String
  | .text s => .ok s
  | d => .error (d.mismatch "a string")

def bool : Reader Bool
  | .bool b => .ok b
  | d => .error (d.mismatch "a boolean")

/-- Whole numbers in a range; `name` names it. -/
def integer (low high : Int) (name : String) : Reader Int
  | .integer n => if low ≤ n ∧ n ≤ high then .ok n else .error (.invalidValue (.integer n) name)
  | d => .error (d.mismatch name)

/-- Whole numbers below a bound. -/
def natural (bound : Nat) (name : String) : Reader Nat
  | d => (integer 0 (bound - 1 : Nat) name d).map Int.toNat

/-- Numbers of any size. -/
def real : Reader Number.Double
  | .integer n => .ok (.ofInt n)
  | .real x => .ok x
  | d => .error (d.mismatch "f64")

/-- A text of one character. -/
def char : Reader Char
  | .text s =>
    match s.toList with
    | [c] => .ok c
    | _ => .error (.invalidValue (.text s) "a character")
  | d => .error (d.mismatch "a character")

/-- Nothing but `null`. -/
def null : Reader Unit
  | .null => .ok ()
  | d => .error (d.mismatch "unit")

/-- Any value, or the fault in the draft. -/
def value : Reader Json
  | d =>
    match d.value? with
    | some v => .ok v
    | none => .error .malformed

/-- A value that does not matter, as long as it follows the grammar. -/
def skipped : Reader Unit
  | d => (value d).map fun _ => ()

/-- `null` or data. -/
def optional {α : Type} (r : Reader α) : Reader (Option α)
  | .null => .ok none
  | d => (r d).map some

/-- Reads the elements of an array in order. -/
def elements {α : Type} (r : Reader α) (closed : Bool) (acc : List α) :
    List Draft → Except Problem (List α)
  | [] => if closed then .ok acc.reverse else .error .malformed
  | d :: rest =>
    match r d with
    | .error e => .error e
    | .ok x => elements r closed (x :: acc) rest

/-- An array of any length. -/
def list {α : Type} (r : Reader α) : Reader (List α)
  | .items ds closed => elements r closed [] ds
  | d => .error (d.mismatch "a sequence")

/-- The number of elements as a reader of a fixed number of them expects it. -/
def tupleName (size : Nat) : String := "a tuple of size " ++ toString size

/-- An array of exactly two elements. -/
def pair {α β : Type} (a : Reader α) (b : Reader β) : Reader (α × β)
  | .items ds closed =>
    match ds with
    | [] => if closed then .error (.invalidLength 0 (tupleName 2)) else .error .malformed
    | x :: rest =>
      match a x with
      | .error e => .error e
      | .ok x =>
        match rest with
        | [] => if closed then .error (.invalidLength 1 (tupleName 2)) else .error .malformed
        | y :: rest =>
          match b y with
          | .error e => .error e
          | .ok y =>
            if !rest.isEmpty then .error (.surplus ds.length)
            else if closed then .ok (x, y) else .error .malformed
  | d => .error (d.mismatch (tupleName 2))

/-- Reads the values of an object in order. -/
def members {α : Type} (r : Reader α) (closed : Bool) (acc : List (String × α)) :
    List (String × Draft) → Except Problem (List (String × α))
  | [] => if closed then .ok acc.reverse else .error .malformed
  | (k, d) :: rest =>
    match r d with
    | .error e => .error e
    | .ok x => members r closed ((k, x) :: acc) rest

/-- An object of any keys, its pairs in the order of the document. -/
def map {α : Type} (r : Reader α) : Reader (List (String × α))
  | .entries ps closed => members r closed [] ps
  | d => .error (d.mismatch "a map")

/-- A dictionary of texts. -/
def textMap : Reader TextMap
  | d => (map text d).map TextMap.ofPairs

end Reader

/-! ## Structures -/

/-- A field of a structure: its name, a check of its value, and whether it may be missing. -/
structure Field where
  name : String
  check : Reader Unit
  defaulted : Bool := false

/-- A field read by a reader. -/
def Field.of {α : Type} (name : String) (r : Reader α) (defaulted : Bool := false) : Field :=
  ⟨name, fun d => (r d).map fun _ => (), defaulted⟩

/-- The fields of a structure that a document gives, each checked. -/
structure Record where
  given : List (String × Draft)
  /-- The problem if the field at a place of the declaration is not given. -/
  absent : Nat → String → Problem

namespace Record

/-- Goes through the members of an object: a repeated field, a field that does not check and a
fault are reported where they stand. Other members do not matter. -/
def ofEntries (fields : List Field) (closed : Bool) (given : List (String × Draft)) :
    List (String × Draft) → Except Problem (List (String × Draft))
  | [] => if closed then .ok given else .error .malformed
  | (k, d) :: rest =>
    match fields.find? fun f => f.name == k with
    | none =>
      match Reader.skipped d with
      | .error e => .error e
      | .ok _ => ofEntries fields closed given rest
    | some f =>
      if given.any fun g => g.1 == k then .error (.duplicateField k)
      else
        match f.check d with
        | .error e => .error e
        | .ok _ => ofEntries fields closed ((k, d) :: given) rest

/-- Goes through the elements of an array, one for each field in order. -/
def ofElements (name : String) (count index : Nat) (closed : Bool) :
    List Field → List Draft → Except Problem (List (String × Draft))
  | [], [] => if closed then .ok [] else .error .malformed
  | [], _ :: rest => .error (.surplus (count + rest.length + 1))
  | f :: fields, [] =>
    if !closed then .error .malformed
    else if f.defaulted then ofElements name count (index + 1) closed fields []
    else
      .error (.invalidLength index
        ("struct " ++ name ++ " with " ++ toString count ++ " elements"))
  | f :: fields, d :: rest =>
    match f.check d with
    | .error e => .error e
    | .ok _ => (ofElements name count (index + 1) closed fields rest).map ((f.name, d) :: ·)

/-- Reads the fields of a structure. -/
def read (name : String) (fields : List Field) : Reader Record
  | .entries ps closed => (ofEntries fields closed [] ps).map fun g => ⟨g, fun _ f => .missingField f⟩
  | .items ds closed =>
    (ofElements name fields.length 0 closed fields ds).map fun g =>
      ⟨g, fun i _ => .invalidLength i
        ("struct " ++ name ++ " with " ++ toString fields.length ++ " elements")⟩
  | d => .error (d.mismatch ("struct " ++ name))

/-- The value of a field that must be given. -/
def required {α : Type} (r : Record) (place : Nat) (name : String) (reader : Reader α) :
    Except Problem α :=
  match r.given.lookup name with
  | some d => reader d
  | none => .error (r.absent place name)

/-- The value of a field that may be missing. -/
def defaulted {α : Type} (r : Record) (name : String) (default : α) (reader : Reader α) :
    Except Problem α :=
  match r.given.lookup name with
  | some d => reader d
  | none => .ok default

end Record

/-- Reads typed data from a document, after which nothing but gaps may stand. In a document,
elements that nobody expects break the grammar of what is read. -/
def Document.decode {α : Type} (doc : Document) (r : Reader α) : Except Problem α :=
  match r doc.draft with
  | .error (.surplus _) => .error .malformed
  | .error e => .error e
  | .ok x => if doc.complete then .ok x else .error .malformed

/-- Reads typed data from a value. -/
def decode {α : Type} (v : Json) (r : Reader α) : Except Problem α := r (Draft.ofJson v)

end RequestDispatch.Json
