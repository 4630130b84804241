import RequestDispatch.Text.Utf8
import RequestDispatch.Yaml.Scalar

/-!
# Tokens of a document

`Tokens.ofText` cuts a document into tokens. Indentation becomes tokens of its own, and so does
what turns out to have been a key once its colon is met. Where the document breaks the rules the
tokens end; those that might still have become part of a key are not given.
-/

set_option autoImplicit false

namespace RequestDispatch.Yaml

/-- How a scalar was written, as far as it matters for its meaning. -/
inductive Style where
  | plain
  | literal
  | other
  deriving DecidableEq, Repr

inductive Token where
  | versionDirective (major minor : Nat)
  | tagDirective (handle path : String)
  | documentStart
  | documentEnd
  | streamEnd
  | blockSequenceStart
  | blockMappingStart
  | blockEnd
  | flowSequenceStart
  | flowSequenceEnd
  | flowMappingStart
  | flowMappingEnd
  | blockEntry
  | flowEntry
  | key
  | value
  | alias (name : String)
  | anchor (name : String)
  | tag (handle suffix : String)
  | scalar (text : String) (style : Style)
  deriving DecidableEq, Repr

/-- A place where a key may have begun without a mark. -/
structure PossibleKey where
  /-- Nothing but a key may stand there. -/
  required : Bool
  /-- The place of its first token. -/
  token : Nat
  line : Nat
  column : Nat
  index : Nat
  deriving Repr

/-- The state of cutting a document into tokens. -/
structure Scanner where
  cursor : Cursor
  tokens : Array Token := #[]
  /-- For each open bracket, and for the block around them, the key that may be open there. -/
  keys : List (Option PossibleKey) := [none]
  /-- The column of the innermost block collection. -/
  indent : Int := -1
  /-- The columns of the collections around it. -/
  outer : List Int := []
  /-- A key without a mark may begin here. -/
  keyAllowed : Bool := true
  deriving Repr

namespace Scanner

/-- Inside brackets indentation does not count. -/
def inFlow (s : Scanner) : Bool := 1 < s.keys.length

def emit (s : Scanner) (t : Token) : Scanner := { s with tokens := s.tokens.push t }

/-- Puts a token before the token at a place. -/
def emitAt (s : Scanner) (place : Nat) (t : Token) : Scanner :=
  { s with tokens := s.tokens.extract 0 place ++ #[t] ++ s.tokens.extract place s.tokens.size }

/-- Puts a token for the characters that come next. -/
def punctuate (s : Scanner) (width : Nat) (t : Token) : Scanner :=
  { s.emit t with cursor := s.cursor.skipN width }

/-- Gives up the key that may be open, unless it has to be one. -/
def dropKey (s : Scanner) : Option Scanner :=
  match s.keys with
  | some k :: rest => if k.required then none else some { s with keys := none :: rest }
  | _ => some s

/-- Notes that a key may begin here. -/
def saveKey (s : Scanner) : Option Scanner :=
  if s.keyAllowed then
    s.dropKey.map fun s =>
      let c := s.cursor
      { s with keys := some ⟨!s.inFlow && s.indent == c.column, s.tokens.size, c.line, c.column,
          c.index⟩ :: s.keys.tail }
  else some s

/-- A key ends on its line and within 1024 characters. -/
def isStale (c : Cursor) (k : PossibleKey) : Bool := k.line < c.line || k.index + 1024 < c.index

/-- Gives up keys that can no longer be any. -/
def dropStale (s : Scanner) : Option Scanner :=
  if s.keys.any fun k => k.any fun k => isStale s.cursor k && k.required then none
  else some { s with keys := s.keys.map fun k => k.filter fun k => !isStale s.cursor k }

/-- Opens a block collection at a column that is further in. -/
def openBlock (s : Scanner) (column : Nat) (place : Nat) (t : Token) : Scanner :=
  if s.inFlow || column ≤ s.indent then s
  else { s.emitAt place t with indent := column, outer := s.indent :: s.outer }

/-- Closes the block collections that are further in than a column. -/
def closeBlocks (column : Int) : (outer : List Int) → Scanner → Scanner
  | [], s => s
  | i :: outer, s =>
    if column < s.indent then
      closeBlocks column outer { s.emit .blockEnd with indent := i, outer := outer }
    else s

def closeTo (s : Scanner) (column : Int) : Scanner :=
  if s.inFlow then s else closeBlocks column s.outer s

/-- Passes blanks, comments and breaks. -/
def skipGap : (fuel : Nat) → Scanner → Scanner
  | 0, s => s
  | fuel + 1, s =>
    let c := if s.cursor.column == 0 && s.cursor.rest.head? == some '\uFEFF' then s.cursor.skip
      else s.cursor
    let tabs := s.inFlow || !s.keyAllowed
    let c := (c.skipWhile fun ch => ch == ' ' || (tabs && ch == '\t')).2
    let c := if c.rest.head? == some '#' then (c.skipWhile fun ch => !isBreak ch).2 else c
    if c.rest.head?.any isBreak then
      skipGap fuel { s with cursor := c.skipBreak.2, keyAllowed := s.keyAllowed || !s.inFlow }
    else { s with cursor := c }

/-! ## Directives, tags and names -/

/-- Reads digits. -/
def readNumber (c : Cursor) : Option (Nat × Cursor) :=
  let (digits, c) := c.skipWhile Char.isDigit
  if digits.isEmpty || 9 < digits.length then none
  else some (digits.foldl (fun n d => n * 10 + (d.toNat - '0'.toNat)) 0, c)

/-- Reads `!`, `!!` or `!name!`. -/
def readHandle (directive : Bool) (c : Cursor) : Option (List Char × Cursor) :=
  if c.rest.head? ≠ some '!' then none
  else
    let (name, c) := c.skip.skipWhile isWord
    if c.rest.head? == some '!' then some ('!' :: name ++ ['!'], c.skip)
    else if directive && !name.isEmpty then none
    else some ('!' :: name, c)

/-- The characters of a tag. -/
def isTagChar (c : Char) : Bool :=
  isWord c || ";/?:@&=+$.%!~*'()".toList.contains c

/-- Replaces `%` with two digits by the byte they stand for. -/
def decodeTag : List Char → List UInt8 → Option (List UInt8)
  | [], acc => some acc.reverse
  | '%' :: a :: b :: rest, acc =>
    match Text.hexValue? a, Text.hexValue? b with
    | some a, some b => decodeTag rest ((a * 16 + b).toUInt8 :: acc)
    | _, _ => none
  | c :: rest, acc =>
    if c == '%' then none else decodeTag rest ((Text.encodeUtf8 c.toString).reverse ++ acc)

/-- Reads the text of a tag behind a part that was read as a handle. -/
def readTagText (allowed : Char → Bool) (before : List Char) (c : Cursor) :
    Option (String × Cursor) := do
  let (chars, c) := c.skipWhile allowed
  let tail ← (decodeTag chars []).bind Text.decodeUtf8
  let text := String.ofList (before.drop 1) ++ tail
  if before.isEmpty && chars.isEmpty then none else some (text, c)

/-- Reads a tag: verbatim between `<` and `>`, or a handle and the rest. -/
def readTag (s : Scanner) : Option Scanner := do
  let c := s.cursor
  let (token, c) ←
    if c.rest.drop 1 |>.head? |> (· == some '<') then do
      let (text, c) ← readTagText (fun ch => isTagChar ch || ",[]".toList.contains ch) [] (c.skipN 2)
      if c.rest.head? == some '>' then some (Token.tag "" text, c.skip) else none
    else do
      let (handle, after) ← readHandle false c
      if 1 < handle.length && handle.getLast? == some '!' then do
        let (suffix, c) ← readTagText isTagChar [] after
        some (Token.tag (String.ofList handle) suffix, c)
      else do
        let (suffix, c) ← readTagText isTagChar handle after
        some (if suffix.isEmpty then Token.tag "" "!" else Token.tag "!" suffix, c)
  if atGap c.rest || (s.inFlow && c.rest.head? == some ',') then
    some { s.emit token with cursor := c }
  else none

/-- Reads a name behind `&` or `*`. -/
def readName (s : Scanner) (token : String → Token) : Option Scanner :=
  let (name, c) := s.cursor.skip.skipWhile isWord
  if name.isEmpty || !(atGap c.rest || c.rest.head?.any fun ch => "?:,]\x7d%@\x60".toList.contains ch)
  then none
  else some { s.emit (token (String.ofList name)) with cursor := c }

/-- Reads a directive, behind which only a comment may stand on its line. -/
def readDirective (s : Scanner) : Option Scanner := do
  let (name, c) := s.cursor.skip.skipWhile isWord
  let gap (c : Cursor) : Cursor := (c.skipWhile isBlank).2
  let (token, c) ←
    if name == "YAML".toList then do
      let (major, c) ← readNumber (gap c)
      if c.rest.head? ≠ some '.' then none
      else do
        let (minor, c) ← readNumber c.skip
        some (Token.versionDirective major minor, c)
    else if name == "TAG".toList && c.rest.head?.any isBlank then do
      let (handle, c) ← readHandle true (gap c)
      if !c.rest.head?.any isBlank then none
      else do
        let (path, c) ← readTagText (fun ch => isTagChar ch || ",[]".toList.contains ch) [] (gap c)
        if atGap c.rest then some (Token.tagDirective (String.ofList handle) path, c) else none
    else none
  let c := gap c
  let c := if c.rest.head? == some '#' then (c.skipWhile fun ch => !isBreak ch).2 else c
  if !atLineEnd c.rest then none
  else some { s.emit token with cursor := c.skipBreak.2 }

/-! ## One token -/

/-- Begins a token that may be the first of a key. -/
def beginItem (s : Scanner) : Option Scanner := s.saveKey.map ({ · with keyAllowed := false })

def openFlow (s : Scanner) (t : Token) : Option Scanner :=
  s.saveKey.map fun s =>
    { s.punctuate 1 t with keys := none :: s.keys, keyAllowed := true }

def closeFlow (s : Scanner) (t : Token) : Option Scanner :=
  s.dropKey.map fun s =>
    { s.punctuate 1 t with
      keys := if s.inFlow then s.keys.tail else s.keys, keyAllowed := false }

/-- A dash that begins an item of a block sequence. -/
def entry (s : Scanner) : Option Scanner := do
  if !s.inFlow && !s.keyAllowed then none
  else
    let s := s.openBlock s.cursor.column s.tokens.size .blockSequenceStart
    let s ← s.dropKey
    some { s.punctuate 1 .blockEntry with keyAllowed := true }

/-- A question mark that begins a key. -/
def markedKey (s : Scanner) : Option Scanner := do
  if !s.inFlow && !s.keyAllowed then none
  else
    let s := s.openBlock s.cursor.column s.tokens.size .blockMappingStart
    let s ← s.dropKey
    some { s.punctuate 1 .key with keyAllowed := !s.inFlow }

/-- A colon that begins a value. What was possibly a key before it is one. -/
def colon (s : Scanner) : Option Scanner :=
  match s.keys with
  | some k :: rest =>
    let s := (s.emitAt k.token .key).openBlock k.column k.token .blockMappingStart
    some { s.punctuate 1 .value with keys := none :: rest, keyAllowed := false }
  | _ =>
    if !s.inFlow && !s.keyAllowed then none
    else
      let s := s.openBlock s.cursor.column s.tokens.size .blockMappingStart
      some { s.punctuate 1 .value with keyAllowed := !s.inFlow }

def quoted (s : Scanner) (single : Bool) : Option Scanner := do
  let s ← s.beginItem
  let (text, c) ← readQuoted single (s.cursor.rest.length + 1) [] s.cursor.skip
  some { s.emit (.scalar (String.ofList text) .other) with cursor := c }

def block (s : Scanner) (literal : Bool) : Option Scanner := do
  let s ← s.dropKey
  let (text, c) ← readBlock literal s.indent s.cursor.skip
  some { s.emit (.scalar (String.ofList text) (if literal then .literal else .other)) with
         cursor := c, keyAllowed := true }

def plain (s : Scanner) : Option Scanner := do
  let s ← s.beginItem
  let (text, gap, c) ←
    readPlain s.inFlow (s.indent + 1).toNat (s.cursor.rest.length + 1) [] {} s.cursor
  some { s.emit (.scalar (String.ofList text) .plain) with
         cursor := c, keyAllowed := s.keyAllowed || gap.broken }

/-- Whether a plain scalar can begin with what comes next. -/
def startsPlain (flow : Bool) : List Char → Bool
  | [] => false
  | c :: rest =>
    if c == '-' then !rest.head?.any isBlank
    else if c == '?' || c == ':' then !flow && !atGap rest
    else !(isBlank c || isBreak c || isFlowMark c || "#&*!|>'\"%@\x60".toList.contains c)

/-- A document mark or a directive: all collections end before it. -/
def margin (s : Scanner) : Option Scanner :=
  (s.closeTo (-1)).dropKey.map ({ · with keyAllowed := false })

/-- Reads the token that begins at the cursor. -/
def token (s : Scanner) : Option Scanner :=
  let c := s.cursor
  match c.rest with
  | [] => s.margin.map fun s => s.emit .streamEnd
  | ch :: rest =>
    if c.column == 0 && ch == '%' then s.margin.bind readDirective
    else if c.atMark then
      s.margin.map fun s => s.punctuate 3 (if ch == '-' then .documentStart else .documentEnd)
    else if ch == '[' then s.openFlow .flowSequenceStart
    else if ch == '\x7b' then s.openFlow .flowMappingStart
    else if ch == ']' then s.closeFlow .flowSequenceEnd
    else if ch == '\x7d' then s.closeFlow .flowMappingEnd
    else if ch == ',' then
      s.dropKey.map fun s => { s.punctuate 1 .flowEntry with keyAllowed := true }
    else if ch == '-' && atGap rest then s.entry
    else if ch == '?' && (s.inFlow || atGap rest) then s.markedKey
    else if ch == ':' && (s.inFlow || atGap rest) then s.colon
    else if ch == '*' then s.beginItem.bind fun s => s.readName .alias
    else if ch == '&' then s.beginItem.bind fun s => s.readName .anchor
    else if ch == '!' then s.beginItem.bind readTag
    else if ch == '|' && !s.inFlow then s.block true
    else if ch == '>' && !s.inFlow then s.block false
    else if ch == '\'' then s.quoted true
    else if ch == '"' then s.quoted false
    else if startsPlain s.inFlow c.rest then s.plain
    else none

/-- The tokens that no key that may still be open holds back. -/
def released (s : Scanner) : List Token :=
  let pending := s.keys.filterMap fun k => k.map PossibleKey.token
  s.tokens.toList.take (pending.foldl min s.tokens.size)

/-- Reads tokens to the end of the document, or as far as it follows the rules. -/
def run : (fuel : Nat) → Scanner → List Token
  | 0, s => s.released
  | fuel + 1, s =>
    let s := skipGap (s.cursor.rest.length + 1) s
    match s.dropStale with
    | none => s.released
    | some s =>
      let s := s.closeTo s.cursor.column
      match s.token with
      | none => s.released
      | some next =>
        if s.cursor.rest.isEmpty then next.tokens.toList else run fuel next

end Scanner

/-- Characters that a document may hold. -/
def isPrintable (c : Char) : Bool :=
  c == '\t' || c == '\n' || c == '\r' || (' ' ≤ c && c ≤ '~') || c == '\u0085' ||
    ('\u00a0' ≤ c && c ≤ '\uD7FF') || ('\uE000' ≤ c && c ≤ '\uFFFD') || 0x10000 ≤ c.toNat

/-- The tokens of a document, as far as it follows the rules. -/
def tokens (text : String) : List Token :=
  let chars := text.toList
  if chars.all isPrintable then
    let chars := if chars.head? == some '\uFEFF' then chars.tail else chars
    Scanner.run (chars.length + 1) { cursor := { rest := chars } }
  else []

end RequestDispatch.Yaml
