import RequestDispatch.Yaml.Token

/-!
# The nodes of a document

`Document.ofText` reads the first document of a text into nodes, as far as the text follows the
grammar: where it stops doing so there is a `fault`, and what stands before it is kept. An alias
is replaced by the node it names.
-/

set_option autoImplicit false

namespace RequestDispatch.Yaml

/-- A node as far as it could be read. `closed` tells whether the end of a collection was
reached. -/
inductive Node where
  | scalar (text : String) (style : Style) (tag : Option String)
  | sequence (items : List Node) (closed : Bool) (tag : Option String)
  | mapping (pairs : List (Node × Node)) (closed : Bool) (tag : Option String)
  /-- There is nothing at all. -/
  | absent
  | fault
  deriving Repr, Inhabited

/-- The empty scalar that stands where nothing is written. -/
def Node.empty : Node := .scalar "" .plain none

/-- The state of reading nodes from tokens. -/
structure Reading where
  tokens : List Token
  /-- The prefixes that tag handles stand for. -/
  handles : List (String × String) := [("!", "!"), ("!!", "tag:yaml.org,2002:")]
  anchors : List (String × Node) := []
  /-- The grammar was broken, and nothing more is read. -/
  broken : Bool := false

namespace Reading

def head? (r : Reading) : Option Token := r.tokens.head?

def next (r : Reading) : Reading := { r with tokens := r.tokens.tail }

/-- The reading of a node that breaks the grammar. -/
def fail (r : Reading) : Node × Reading := (.fault, { r with broken := true })

/-- Gives a node its anchor. -/
def name (anchor : Option String) (result : Node × Reading) : Node × Reading :=
  match anchor with
  | none => result
  | some a => (result.1, { result.2 with anchors := (a, result.1) :: result.2.anchors })

/-- An anchor and a tag, in either order. -/
structure Properties where
  anchor : Option String := none
  tag : Option (String × String) := none

def takeTag (p : Properties) (r : Reading) : Properties × Reading :=
  match r.head? with
  | some (.tag handle suffix) => ({ p with tag := some (handle, suffix) }, r.next)
  | _ => (p, r)

def takeAnchor (p : Properties) (r : Reading) : Properties × Reading :=
  match r.head? with
  | some (.anchor a) => ({ p with anchor := some a }, r.next)
  | _ => (p, r)

def properties (r : Reading) : Properties × Reading :=
  match r.head? with
  | some (.anchor _) => let (p, r) := takeAnchor {} r; takeTag p r
  | _ => let (p, r) := takeTag {} r; takeAnchor p r

/-- The full text of a tag; its handle must be known. -/
def resolveTag (r : Reading) : Option (String × String) → Option (Option String)
  | none => some none
  | some ("", suffix) => some (some suffix)
  | some (handle, suffix) => (r.handles.lookup handle).map fun p => some (p ++ suffix)

/-- Whether an item or a value is left out before what comes next. -/
def leftOut (stops : List Token) (r : Reading) : Bool := r.head?.any stops.contains

mutual

/-- Reads a node. Block collections are read only where `block` allows them, and a sequence whose
dashes stand no further in than its key only where `dashes` does. -/
def node : (fuel : Nat) → (block dashes : Bool) → Reading → Node × Reading
  | 0, _, _, r => r.fail
  | fuel + 1, block, dashes, r =>
    match r.head? with
    | some (.alias a) =>
      match r.anchors.lookup a with
      | some n => (n, r.next)
      | none => r.fail
    | _ =>
      let (p, r) := r.properties
      match r.resolveTag p.tag with
      | none => r.fail
      | some tag =>
        -- An alias inside the node that it names cannot be followed.
        let r := match p.anchor with
          | some a => { r with anchors := (a, .fault) :: r.anchors }
          | none => r
        name p.anchor <|
          match r.head? with
          | some .blockEntry =>
            if dashes then dashedItems fuel tag [] r
            else if p.anchor.isSome || tag.isSome then (.scalar "" .plain tag, r) else r.fail
          | some (.scalar text style) =>
            let tag := if tag == some "!" then none else tag
            (.scalar text style tag, r.next)
          | some .flowSequenceStart => flowItems fuel tag true [] r.next
          | some .flowMappingStart => flowPairs fuel tag true [] r.next
          | some .blockSequenceStart =>
            if block then blockItems fuel tag [] r.next
            else if p.anchor.isSome || tag.isSome then (.scalar "" .plain tag, r) else r.fail
          | some .blockMappingStart =>
            if block then blockPairs fuel tag [] r.next
            else if p.anchor.isSome || tag.isSome then (.scalar "" .plain tag, r) else r.fail
          | none => r.fail
          | some _ =>
            if p.anchor.isSome || tag.isSome then (.scalar "" .plain tag, r) else r.fail

/-- Reads a node, or the empty scalar where it is left out. -/
def nodeOrEmpty (fuel : Nat) (block dashes : Bool) (stops : List Token) (r : Reading) :
    Node × Reading :=
  if r.leftOut stops then (.empty, r)
  else
    match fuel with
    | 0 => r.fail
    | fuel + 1 => node fuel block dashes r

/-- The items of a block sequence, up to its end. -/
def blockItems : (fuel : Nat) → (tag : Option String) → (items : List Node) → Reading →
    Node × Reading
  | 0, _, _, r => r.fail
  | fuel + 1, tag, items, r =>
    match r.head? with
    | some .blockEntry =>
      let (n, r) := nodeOrEmpty fuel true false [.blockEntry, .blockEnd] r.next
      if r.broken then (.sequence (n :: items).reverse false tag, r)
      else blockItems fuel tag (n :: items) r
    | some .blockEnd => (.sequence items.reverse true tag, r.next)
    | _ => (.sequence items.reverse false tag, { r with broken := true })

/-- The items of a block sequence that has no indentation of its own. -/
def dashedItems : (fuel : Nat) → (tag : Option String) → (items : List Node) → Reading →
    Node × Reading
  | 0, _, _, r => r.fail
  | fuel + 1, tag, items, r =>
    match r.head? with
    | some .blockEntry =>
      let (n, r) := nodeOrEmpty fuel true false [.blockEntry, .key, .value, .blockEnd] r.next
      if r.broken then (.sequence (n :: items).reverse false tag, r)
      else dashedItems fuel tag (n :: items) r
    | none => (.sequence items.reverse false tag, { r with broken := true })
    | some _ => (.sequence items.reverse true tag, r)

/-- The pairs of a block mapping, up to its end. -/
def blockPairs : (fuel : Nat) → (tag : Option String) → (pairs : List (Node × Node)) → Reading →
    Node × Reading
  | 0, _, _, r => r.fail
  | fuel + 1, tag, pairs, r =>
    match r.head? with
    | some .key =>
      let stops := [Token.key, .value, .blockEnd]
      let (k, r) := nodeOrEmpty fuel true true stops r.next
      if r.broken then (.mapping ((k, .fault) :: pairs).reverse false tag, r)
      else
        let (v, r) := valueOf fuel true stops r
        if r.broken then (.mapping ((k, v) :: pairs).reverse false tag, r)
        else blockPairs fuel tag ((k, v) :: pairs) r
    | some .blockEnd => (.mapping pairs.reverse true tag, r.next)
    | _ => (.mapping pairs.reverse false tag, { r with broken := true })

/-- The value behind a key, which is empty where there is no mark for it. -/
def valueOf (fuel : Nat) (block : Bool) (stops : List Token) (r : Reading) : Node × Reading :=
  match r.head? with
  | none => r.fail
  | some .value =>
    match fuel with
    | 0 => r.fail
    | fuel + 1 => nodeOrEmpty fuel block block stops r.next
  | some _ => (.empty, r)

/-- The items of a sequence between brackets. A key there makes an item a mapping of one pair. -/
def flowItems : (fuel : Nat) → (tag : Option String) → (first : Bool) → (items : List Node) →
    Reading → Node × Reading
  | 0, _, _, _, r => r.fail
  | fuel + 1, tag, first, items, r =>
    let closed (r : Reading) : Node × Reading := (.sequence items.reverse true tag, r.next)
    let failed (items : List Node) (r : Reading) : Node × Reading :=
      (.sequence items.reverse false tag, { r with broken := true })
    let item (r : Reading) : Node × Reading :=
      match r.head? with
      | none => failed items r
      | some .flowSequenceEnd => closed r
      | some .key =>
        let stops := [Token.value, .flowEntry, .flowSequenceEnd]
        let (k, r) := nodeOrEmpty fuel false false stops r.next
        if r.broken then failed (.mapping [(k, .fault)] false none :: items) r
        else
          let (v, r) := valueOf fuel false [.flowEntry, .flowSequenceEnd] r
          if r.broken then failed (.mapping [(k, v)] false none :: items) r
          else flowItems fuel tag false (.mapping [(k, v)] true none :: items) r
      | some _ =>
        let (n, r) := nodeOrEmpty fuel false false [] r
        if r.broken then failed (n :: items) r else flowItems fuel tag false (n :: items) r
    match r.head? with
    | none => failed items r
    | some .flowSequenceEnd => closed r
    | some .flowEntry => if first then item r else item r.next
    | some _ => if first then item r else failed items r

/-- The pairs of a mapping between braces. -/
def flowPairs : (fuel : Nat) → (tag : Option String) → (first : Bool) →
    (pairs : List (Node × Node)) → Reading → Node × Reading
  | 0, _, _, _, r => r.fail
  | fuel + 1, tag, first, pairs, r =>
    let closed (r : Reading) : Node × Reading := (.mapping pairs.reverse true tag, r.next)
    let failed (pairs : List (Node × Node)) (r : Reading) : Node × Reading :=
      (.mapping pairs.reverse false tag, { r with broken := true })
    let pair (r : Reading) : Node × Reading :=
      match r.head? with
      | none => failed pairs r
      | some .flowMappingEnd => closed r
      | some .key =>
        let (k, r) := nodeOrEmpty fuel false false [.value, .flowEntry, .flowMappingEnd] r.next
        if r.broken then failed ((k, .fault) :: pairs) r
        else
          let (v, r) := valueOf fuel false [.flowEntry, .flowMappingEnd] r
          if r.broken then failed ((k, v) :: pairs) r
          else flowPairs fuel tag false ((k, v) :: pairs) r
      | some _ =>
        let (k, r) := nodeOrEmpty fuel false false [] r
        if r.broken then failed ((k, .fault) :: pairs) r
        else flowPairs fuel tag false ((k, .empty) :: pairs) r
    match r.head? with
    | none => failed pairs r
    | some .flowMappingEnd => closed r
    | some .flowEntry => if first then pair r else pair r.next
    | some _ => if first then pair r else failed pairs r

end

/-! ## Documents -/

/-- Passes directives. A version other than 1.1 and 1.2, a second version and a second meaning of
a handle are refused. -/
def directives (versioned : Bool) (declared : List String) (handles : List (String × String)) :
    List Token → Option (List (String × String) × List Token)
  | .versionDirective major minor :: rest =>
    if versioned || major ≠ 1 || (minor ≠ 1 && minor ≠ 2) then none
    else directives true declared handles rest
  | .tagDirective handle path :: rest =>
    if declared.contains handle then none
    else directives versioned (handle :: declared) ((handle, path) :: handles) rest
  | rest => some (handles, rest)

end Reading

/-- The first document of a text. -/
structure Document where
  root : Node
  /-- Nothing is wrong up to the end, and no second document follows. -/
  complete : Bool

namespace Document

/-- What stands behind a document is nothing but its end. -/
def endsWell : List Token → Bool
  | [.streamEnd] => true
  | .documentEnd :: rest => endsWell rest
  | _ => false

/-- Reads the content of a document. -/
def content (handles : List (String × String)) (tokens : List Token) : Document :=
  match tokens with
  | [] => ⟨.fault, false⟩
  | .streamEnd :: _ | .documentStart :: _ | .documentEnd :: _
  | .versionDirective _ _ :: _ | .tagDirective _ _ :: _ => ⟨.empty, endsWell tokens⟩
  | _ =>
    let (root, r) := Reading.node (2 * tokens.length + 2) true false { tokens, handles }
    ⟨root, !r.broken && endsWell r.tokens⟩

/-- The first document of a text. -/
def ofText (text : String) : Document :=
  let handles := Reading.handles { tokens := [] }
  match tokens text with
  | [] => ⟨.fault, false⟩
  | [.streamEnd] => ⟨.absent, true⟩
  | ts =>
    let isDirective := match ts with
      | .versionDirective _ _ :: _ | .tagDirective _ _ :: _ | .documentStart :: _ => true
      | _ => false
    if isDirective then
      match Reading.directives false [] handles ts with
      | some (handles, .documentStart :: rest) => content handles rest
      | _ => ⟨.fault, false⟩
    else
      match ts with
      | .documentEnd :: _ => ⟨.fault, false⟩
      | _ => content handles ts

end Document

end RequestDispatch.Yaml
