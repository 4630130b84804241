import RequestDispatch.Text.Digits
import RequestDispatch.Yaml.Cursor

/-!
# Reading scalars

The text of a scalar in each of its styles: between quotes, plain, or as a block of lines. Line
breaks inside quoted and plain scalars fold to spaces.
-/

set_option autoImplicit false

namespace RequestDispatch.Yaml

/-- What stands between two words of a scalar: blanks, or breaks. -/
structure Gap where
  blanks : List Char := []
  /-- The first break, if there is one. -/
  first : Option (List Char) := none
  /-- The breaks behind the first. -/
  more : List Char := []

namespace Gap

def broken (g : Gap) : Bool := g.first.isSome

/-- What a gap is read as: blanks stay, a single line feed becomes a space, and of more breaks the
first is dropped. -/
def fold (g : Gap) : List Char :=
  match g.first with
  | none => g.blanks
  | some ['\n'] => if g.more.isEmpty then [' '] else g.more
  | some b => b ++ g.more

/-- Passes blanks and breaks. A tab before column `indent` of a new line is refused. -/
def read (indent : Nat) : (fuel : Nat) → Gap → Cursor → Option (Gap × Cursor)
  | 0, _, _ => none
  | fuel + 1, g, c =>
    match c.rest with
    | [] => some (g, c)
    | ch :: _ =>
      if isBlank ch then
        if g.broken then
          if ch == '\t' && c.column < indent then none else read indent fuel g c.skip
        else read indent fuel { g with blanks := g.blanks ++ [ch] } c.skip
      else if isBreak ch then
        let (b, c) := c.skipBreak
        read indent fuel
          (if g.broken then { g with more := g.more ++ b } else ⟨[], some b, []⟩) c
      else some (g, c)

/-- Passes the blanks and breaks that come next. -/
def next (indent : Nat) (start : Gap) (c : Cursor) : Option (Gap × Cursor) :=
  read indent (c.rest.length + 1) start c

end Gap

/-! ## Quoted scalars -/

/-- The character of an escape of one letter. -/
def escaped? (c : Char) : Option Char :=
  [('0', '\x00'), ('a', '\x07'), ('b', '\x08'), ('t', '\t'), ('\t', '\t'), ('n', '\n'),
   ('v', '\x0b'), ('f', '\x0c'), ('r', '\r'), ('e', '\x1b'), (' ', ' '), ('"', '"'), ('/', '/'),
   ('\\', '\\'), ('N', '\u0085'), ('_', '\u00a0'), ('L', '\u2028'), ('P', '\u2029')].lookup c

/-- How many hexadecimal digits follow the letter of an escape. -/
def escapeWidth? (c : Char) : Option Nat := [('x', 2), ('u', 4), ('U', 8)].lookup c

/-- The character of a code, unless it is none. -/
def ofCode? (digits : List Char) : Option Char := do
  let values ← digits.mapM Text.hexValue?
  let n := values.foldl (fun n d => n * 16 + d) 0
  if n.isValidChar then some (Char.ofNat n) else none

/-- Reads an escape behind its backslash. -/
def readEscape (c : Cursor) : Option (Char × Cursor) :=
  match c.rest with
  | [] => none
  | ch :: rest =>
    match escaped? ch, escapeWidth? ch with
    | some e, _ => some (e, c.skip)
    | none, some width =>
      if rest.length < width then none
      else (ofCode? (rest.take width)).map fun e => (e, c.skipN (width + 1))
    | none, none => none

/-- Reads a quoted scalar behind its opening quote. The text is kept in reverse. -/
def readQuoted (single : Bool) : (fuel : Nat) → (text : List Char) → Cursor →
    Option (List Char × Cursor)
  | 0, _, _ => none
  | fuel + 1, text, c =>
    if c.atMark then none
    else
      match c.rest with
      | [] => none
      | ch :: rest =>
        if single && ch == '\'' then
          if rest.head? == some '\'' then readQuoted single fuel ('\'' :: text) (c.skipN 2)
          else some (text.reverse, c.skip)
        else if !single && ch == '"' then some (text.reverse, c.skip)
        else if !single && ch == '\\' then
          if rest.head?.any isBreak then
            match Gap.next 0 ⟨[], some [], []⟩ c.skip.skipBreak.2 with
            | none => none
            | some (g, c) => readQuoted single fuel (g.more.reverse ++ text) c
          else
            match readEscape c.skip with
            | none => none
            | some (e, c) => readQuoted single fuel (e :: text) c
        else if isBlank ch || isBreak ch then
          match Gap.next 0 {} c with
          | none => none
          | some (g, c) => readQuoted single fuel (g.fold.reverse ++ text) c
        else readQuoted single fuel (ch :: text) c.skip

/-! ## Plain scalars -/

/-- Whether a character has a meaning of its own between brackets. -/
def isFlowMark (c : Char) : Bool :=
  c == ',' || c == '[' || c == ']' || c == '\x7b' || c == '\x7d'

/-- Whether a plain scalar ends before what comes next. -/
def endsPlain (flow : Bool) : List Char → Bool
  | [] => true
  | c :: rest =>
    isBlank c || isBreak c || (c == ':' && atGap rest) || (flow && isFlowMark c)

/-- Between brackets, a colon with a bracket, a comma or a question mark behind it is refused. -/
def colonClash : List Char → Bool
  | ':' :: c :: _ => isFlowMark c || c == '?'
  | _ => false

/-- Reads one word of a plain scalar. -/
def readWord (flow : Bool) : (fuel : Nat) → (text : List Char) → Cursor →
    Option (List Char × Cursor)
  | 0, _, _ => none
  | fuel + 1, text, c =>
    if flow && colonClash c.rest then none
    else if endsPlain flow c.rest then some (text, c)
    else readWord flow fuel (c.rest.head?.toList ++ text) c.skip

/-- Reads a plain scalar from a cursor that stands on its first word or on a word behind a gap. The
text is kept in reverse, and the last gap tells whether a new line was begun. -/
def readPlain (flow : Bool) (indent : Nat) : (fuel : Nat) → (text : List Char) → Gap → Cursor →
    Option (List Char × Gap × Cursor)
  | 0, _, _, _ => none
  | fuel + 1, text, g, c =>
    if c.atMark || c.rest.head? == some '#' then some (text.reverse, g, c)
    else
      match readWord flow (c.rest.length + 1) [] c with
      | none => none
      | some (word, after) =>
        let (text, g) :=
          if word.isEmpty then (text, g) else (word ++ (g.fold.reverse ++ text), {})
        if !after.rest.isEmpty && atGap after.rest then
          match Gap.next indent g after with
          | none => none
          | some (g, c) =>
            if !flow && c.column < indent then some (text.reverse, g, c)
            else readPlain flow indent fuel text g c
        else some (text.reverse, g, after)

/-! ## Block scalars -/

/-- What becomes of the breaks at the end of a block. -/
inductive Chomping where
  | strip
  | clip
  | keep
  deriving DecidableEq, Repr

/-- Reads a chomping mark. -/
def readChomping (c : Cursor) : Option Chomping × Cursor :=
  match c.rest with
  | '+' :: _ => (some .keep, c.skip)
  | '-' :: _ => (some .strip, c.skip)
  | _ => (none, c)

/-- Reads an indentation mark, which must not be zero. -/
def readIncrement (c : Cursor) : Option (Option Nat × Cursor) :=
  match c.rest with
  | d :: _ =>
    if d == '0' then none
    else if d.isDigit then some (some (d.toNat - '0'.toNat), c.skip)
    else some (none, c)
  | [] => some (none, c)

/-- Reads the marks behind the indicator of a block, in either order. -/
def readHeader (c : Cursor) : Option (Chomping × Option Nat × Cursor) :=
  match readChomping c with
  | (some chomping, c) => (readIncrement c).map fun (n, c) => (chomping, n, c)
  | (none, c) =>
    match readIncrement c with
    | none => none
    | some (none, c) => some (.clip, none, c)
    | some (some n, c) =>
      let (chomping, c) := readChomping c
      some (chomping.getD .clip, some n, c)

/-- Passes empty lines and the indentation of the next line; `indent` is 0 while it is not known.
Gives the breaks and the greatest column that was met. -/
def readBreaks (indent : Nat) : (fuel : Nat) → (breaks : List Char) → (widest : Nat) → Cursor →
    Option (List Char × Nat × Cursor)
  | 0, _, _, _ => none
  | fuel + 1, breaks, widest, c =>
    let spaces := (c.rest.takeWhile (· == ' ')).length
    let c := c.skipN (if indent = 0 then spaces else min spaces (indent - c.column))
    let widest := max widest c.column
    if (indent = 0 || c.column < indent) && c.rest.head? == some '\t' then none
    else if c.rest.head?.any isBreak then
      let (b, c) := c.skipBreak
      readBreaks indent fuel (breaks ++ b) widest c
    else some (breaks, widest, c)

/-- Reads the lines of a block. `last` is the break behind the last line, `breaks` are the empty
lines behind it, and `indented` tells whether it began with a blank. -/
def readLines (literal : Bool) (indent : Nat) : (fuel : Nat) → (text : List Char) →
    (last breaks : List Char) → (indented : Bool) → Cursor →
    Option (List Char × List Char × List Char × Cursor)
  | 0, _, _, _, _, _ => none
  | fuel + 1, text, last, breaks, indented, c =>
    if c.column ≠ indent || c.rest.isEmpty then some (text, last, breaks, c)
    else
      let blank := c.rest.head?.any isBlank
      let joint :=
        if !literal && last.head? == some '\n' && !indented && !blank then
          if breaks.isEmpty then [' '] else breaks
        else last ++ breaks
      let (line, c) := c.skipWhile fun ch => !isBreak ch
      let (last, c) := c.skipBreak
      match readBreaks indent (c.rest.length + 1) [] 0 c with
      | none => none
      | some (breaks, _, c) => readLines literal indent fuel (text ++ joint ++ line) last breaks blank c

/-- Reads a block behind its indicator. `parent` is the column of the collection around it. -/
def readBlock (literal : Bool) (parent : Int) (c : Cursor) : Option (List Char × Cursor) := do
  let (chomping, increment, c) ← readHeader c
  let (_, c) := c.skipWhile isBlank
  let c := if c.rest.head? == some '#' then (c.skipWhile fun ch => !isBreak ch).2 else c
  if !atLineEnd c.rest then none
  else
    let (_, c) := c.skipBreak
    let declared := match increment with
      | none => 0
      | some n => if 0 ≤ parent then parent.toNat + n else n
    let (breaks, widest, c) ← readBreaks declared (c.rest.length + 1) [] 0 c
    let indent := if declared = 0 then max widest (max (parent + 1).toNat 1) else declared
    let (text, last, breaks, c) ← readLines literal indent (c.rest.length + 1) [] [] breaks false c
    let ending := match chomping with
      | .strip => []
      | .clip => last
      | .keep => last ++ breaks
    pure (text ++ ending, c)

end RequestDispatch.Yaml
