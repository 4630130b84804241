import RequestDispatch.Json.Printer

/-!
# Typed data as structured values

`Json.Data` is what typed data consist of before they become a value. Not all data can: keys of a
dictionary have to be texts, or numbers or truth values, which are written out, and whole numbers
have to be in range.
-/

set_option autoImplicit false

namespace RequestDispatch.Json

/-- Typed data. -/
inductive Data where
  | null
  | bool (b : Bool)
  | integer (n : Int)
  | real (x : Number.Double)
  | text (s : String)
  | sequence (items : List Data)
  /-- A dictionary, with keys of any kind. -/
  | map (entries : List (Data × Data))
  /-- Fields by their names. -/
  | record (fields : List (String × Data))

namespace Data

/-- The text of a key. -/
def key : Data → Except String String
  | .text s => .ok s
  | .bool b => .ok (if b then "true" else "false")
  | .integer n => .ok (toString n)
  | .real (.finite negative mantissa exponent) =>
    .ok (Json.real (.finite negative mantissa exponent)).compact
  | .real _ => .error "float key must be finite"
  | _ => .error "key must be a string"

mutual

/-- The value of data, or the reason why there is none. -/
def toJson : Data → Except String Json
  | .null => .ok .null
  | .bool b => .ok (.bool b)
  | .integer n =>
    if Number.minInteger ≤ n ∧ n ≤ Number.maxInteger then .ok (.integer n)
    else .error "number out of range"
  | .real (.finite negative mantissa exponent) => .ok (.real (.finite negative mantissa exponent))
  | .real _ => .ok .null
  | .text s => .ok (.text s)
  | .sequence items => (itemsToJson items).map .array
  | .map entries => (entriesToJson entries).map .ofMembers
  | .record fields => (fieldsToJson fields).map .ofMembers

def itemsToJson : List Data → Except String (List Json)
  | [] => .ok []
  | d :: rest => do
    let v ← toJson d
    let rest ← itemsToJson rest
    return v :: rest

def entriesToJson : List (Data × Data) → Except String (List (String × Json))
  | [] => .ok []
  | (k, d) :: rest => do
    let k ← key k
    let v ← toJson d
    let rest ← entriesToJson rest
    return (k, v) :: rest

def fieldsToJson : List (String × Data) → Except String (List (String × Json))
  | [] => .ok []
  | (k, d) :: rest => do
    let v ← toJson d
    let rest ← fieldsToJson rest
    return (k, v) :: rest

end

/-- A list of pairs of texts. -/
def ofTextPairs (pairs : List (String × String)) : Data :=
  .sequence (pairs.map fun p => .sequence [.text p.1, .text p.2])

/-- A dictionary of texts. -/
def ofTexts (m : TextMap) : Data := .map (m.entries.map fun p => (.text p.1, .text p.2))

/-- Text that may be missing. -/
def ofOption (s : Option String) : Data := (s.map Data.text).getD .null

/-! ## Data that have a value -/

theorem toJson_ofTextPairs (pairs : List (String × String)) :
    (ofTextPairs pairs).toJson = .ok (Json.ofTextPairs pairs) := by
  have hitems : itemsToJson (pairs.map fun p => .sequence [.text p.1, .text p.2]) =
      .ok (pairs.map fun p => .array [.text p.1, .text p.2]) := by
    induction pairs with
    | nil => rfl
    | cons p pairs ih =>
      rw [List.map_cons, itemsToJson, ih]
      rfl
  rw [ofTextPairs, toJson, hitems]
  rfl

theorem toJson_ofTexts (m : TextMap) : (ofTexts m).toJson = .ok (Json.ofTexts m) := by
  have hentries (es : List (String × String)) :
      entriesToJson (es.map fun p => (.text p.1, .text p.2)) =
        .ok (es.map fun p => (p.1, .text p.2)) := by
    induction es with
    | nil => rfl
    | cons p es ih =>
      rw [List.map_cons, entriesToJson, ih]
      rfl
  have hordered : Dictionary.Ordered (m.entries.map fun p => (p.1, Json.text p.2)) :=
    List.pairwise_map.2 m.ordered
  rw [ofTexts, toJson, hentries]
  exact congrArg (fun ms => Except.ok (Json.object ms)) (Dictionary.ofPairs_of_ordered hordered)

theorem toJson_ofOption (s : Option String) :
    (ofOption s).toJson = .ok ((s.map Json.text).getD .null) := by
  cases s <;> rfl

end Data

end RequestDispatch.Json
