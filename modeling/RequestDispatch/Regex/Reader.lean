import RequestDispatch.Regex.Expr
import RequestDispatch.Regex.Property
import RequestDispatch.Text.Blank
import RequestDispatch.Text.Digits
import RequestDispatch.Text.Fold

/-!
# Reading pattern texts

`readBody` reads a pattern up to its end or to a `)` that closes no group opened in it, and gives
the expression with the height of the text's tree (a text whose tree is too high is refused
later). Flags are resolved on the way: they hold from where they are set to the end of the
enclosing group.
-/

set_option autoImplicit false

namespace RequestDispatch.Regex

open Text (CharSet)

/-- Why a text is no pattern. -/
inductive Fault where
  | unclosedGroup
  | unopenedGroup
  | lookAround
  | nothingToRepeat
  | badCount
  | badEscape
  | badClass
  | unclosedClass
  | badFlags
  | badName
  | duplicateName
  | unknownProperty
  /-- It could match bytes that are no text. -/
  | notText
  | tooDeep
  | tooLarge
  deriving Repr, DecidableEq

/-- The flags in force at a place of a pattern. -/
structure Flags where
  ignoreCase : Bool := false
  multiLine : Bool := false
  dotNewline : Bool := false
  swapGreed : Bool := false
  unicode : Bool := true
  anyLineEnd : Bool := false
  /-- White space and comments in the pattern do not count. -/
  spaced : Bool := false
  deriving Repr, DecidableEq

/-- A part of a pattern: its expression, the height of its tree, and whether a repetition may
follow it. -/
structure Part where
  expr : Expr
  height : Nat
  repeatable : Bool := true
  deriving Repr

/-- What is known at a place of a pattern. -/
structure Scope where
  flags : Flags := {}
  /-- The number of groups opened so far. -/
  groups : Nat := 0
  names : List String := []
  deriving Repr

/-! ## Gaps -/

/-- Drops white space and comments, which run from `#` to the end of the line. -/
def dropSpace (inComment : Bool) : List Char → List Char
  | [] => []
  | c :: rest =>
    if inComment then dropSpace (c != '\n') rest
    else if Text.isBlank c then dropSpace false rest
    else if c == '#' then dropSpace true rest
    else c :: rest

/-- Drops what does not count under the flags. -/
def Flags.skip (f : Flags) (cs : List Char) : List Char :=
  if f.spaced then dropSpace false cs else cs

/-! ## Sets under flags -/

def asciiDigits : CharSet := ⟨[(48, 57)]⟩
def asciiBlanks : CharSet := ⟨[(9, 13), (32, 32)]⟩
def asciiWords : CharSet := ⟨[(48, 57), (65, 90), (95, 95), (97, 122)]⟩

/-- The complement of a set; without Unicode it would hold bytes that are no text. -/
def Flags.negate (f : Flags) (s : CharSet) : Except Fault CharSet :=
  if f.unicode then .ok s.complement else .error .notText

/-- The set closed under case, if case is ignored. -/
def Flags.fold (f : Flags) (s : CharSet) : CharSet :=
  if !f.ignoreCase then s
  else if f.unicode then s.closeCase
  else
    let ascii := (List.range 128).filter fun n =>
      let c := Char.ofNat n
      s.contains c || s.contains c.toUpper || s.contains c.toLower
    CharSet.normalize ⟨ascii.map fun n => (n, n)⟩

/-- The word characters that conditions refer to. -/
def Flags.words (f : Flags) : CharSet := if f.unicode then .words else asciiWords

/-- The expression of a character that stands for itself. Without Unicode only letters of ASCII
have another case. -/
def Flags.literal (f : Flags) (c : Char) : Expr :=
  if f.ignoreCase && (f.unicode || c.toNat < 0x80) then .set (f.fold (.ofChar c))
  else .set (.ofChar c)

/-- The set of `\d`, `\s` or `\w`, or of one of their capitals. -/
def Flags.shorthand (f : Flags) (c : Char) : Except Fault CharSet :=
  let base := match c.toLower with
    | 'd' => if f.unicode then CharSet.digits else asciiDigits
    | 's' => if f.unicode then CharSet.blanks else asciiBlanks
    | _ => f.words
  if c.isUpper then f.negate base else .ok base

/-! ## Escapes -/

/-- What an escape stands for. -/
inductive Atom where
  | char (c : Char)
  | set (s : CharSet)
  | look (l : Look)

/-- Characters with a meaning of their own somewhere in a pattern. -/
def isMeta (c : Char) : Bool :=
  c == '\\' || c == '.' || c == '+' || c == '*' || c == '?' || c == '(' || c == ')' || c == '|' ||
    c == '[' || c == ']' || c == '\x7b' || c == '\x7d' || c == '^' || c == '$' || c == '#' ||
    c == '&' || c == '-' || c == '~'

/-- The character of a row of hexadecimal digits. -/
def hexChar (ds : List Char) : Except Fault Char :=
  if ds.isEmpty then .error .badEscape
  else
    match ds.mapM Text.hexValue? with
    | none => .error .badEscape
    | some vs =>
      let n := vs.foldl (fun n v => min (n * 16 + v) 0x110000) 0
      if n.isValidChar then .ok (Char.ofNat n) else .error .badEscape

/-- Reads the digits after `\x`, `\u` or `\U`: a fixed number of them, or any between braces. -/
def readHex (count : Nat) (cs : List Char) : Except Fault (Char × List Char) :=
  match cs with
  | '\x7b' :: rest =>
    match rest.dropWhile (· != '\x7d') with
    | [] => .error .badEscape
    | _ :: after => do
      let c ← hexChar (rest.takeWhile (· != '\x7d'))
      pure (c, after)
  | _ =>
    if cs.length < count then .error .badEscape
    else do
      let c ← hexChar (cs.take count)
      pure (c, cs.drop count)

/-- Cuts a list at the first place where a row of characters stands. -/
def cutAt (row : List Char) : List Char → Option (List Char × List Char)
  | [] => none
  | c :: rest =>
    if row.isPrefixOf (c :: rest) then some ([], (c :: rest).drop row.length)
    else (cutAt row rest).map fun (a, b) => (c :: a, b)

/-- The set of a property name as written after `\p`. -/
def propertySet (f : Flags) (name : List Char) : Except Fault CharSet := do
  if !f.unicode then throw .notText
  let (found, inverted) := match cutAt ['!', '='] name with
    | some (p, v) => (valueSet? p v, true)
    | none =>
      match cutAt [':'] name with
      | some (p, v) => (valueSet? p v, false)
      | none =>
        match cutAt ['='] name with
        | some (p, v) => (valueSet? p v, false)
        | none => (namedSet? name, false)
  match found with
  | none => throw .unknownProperty
  | some s =>
    let s := f.fold s
    pure (if inverted then s.complement else s)

/-- Reads the name after `\p` or `\P` from its first character on: one letter, or any name
between braces. -/
def readPropertyName (f : Flags) (c : Char) (rest : List Char) : Except Fault (CharSet × List Char) :=
  if c == '\x7b' then
    match rest.dropWhile (· != '\x7d') with
    | [] => .error .badEscape
    | _ :: after => do
      let s ← propertySet f (rest.takeWhile (· != '\x7d'))
      pure (s, after)
  else if c == '\\' then .error .unknownProperty
  else if !f.unicode then .error .notText
  else
    match categorySet? (looseName [c]) with
    | some s => .ok (f.fold s, rest)
    | none => .error .unknownProperty

/-- Reads the name after `\p` or `\P`. -/
def readProperty (f : Flags) (cs : List Char) : Except Fault (CharSet × List Char) :=
  match f.skip cs with
  | [] => .error .badEscape
  | c :: rest => readPropertyName f c rest

/-- The condition of a name between braces after `\b`. -/
def Flags.boundary (f : Flags) (name : String) : Except Fault Look :=
  if name == "start" then .ok (.wordStart f.words)
  else if name == "end" then .ok (.wordEnd f.words)
  else if name == "start-half" then .ok (.wordStartHalf f.words)
  else if name == "end-half" then .ok (.wordEndHalf f.words)
  else .error .badEscape

/-- Whether a character may stand in the name of a condition. -/
def isBoundaryChar (c : Char) : Bool := c.isAlpha || c == '-'

/-- Reads the condition after `\b` where it is a braced one. -/
def readBoundary (f : Flags) (cs : List Char) : Except Fault (Look × List Char) :=
  match cs with
  | '\x7b' :: rest =>
    if (rest.head?.map isBoundaryChar).getD false then
      match rest.dropWhile isBoundaryChar with
      | '\x7d' :: after => do
        let l ← f.boundary (String.ofList (rest.takeWhile isBoundaryChar))
        pure (l, after)
      | _ => .error .badEscape
    else .ok (.wordBoundary f.words, cs)
  | _ => .ok (.wordBoundary f.words, cs)

/-- Reads an escape from the character after the backslash on. -/
def readEscape (f : Flags) (cs : List Char) : Except Fault (Atom × List Char) :=
  match cs with
  | [] => .error .badEscape
  | c :: rest =>
    if c.isDigit then .error .badEscape
    else if c == 'x' || c == 'u' || c == 'U' then do
      let digits := f.skip rest
      let (code, rest) ← readHex (if c == 'x' then 2 else if c == 'u' then 4 else 8) digits
      -- two digits alone stand for a byte where there is no Unicode
      if c == 'x' && digits.head? != some '\x7b' && !f.unicode && 0x80 ≤ code.toNat then
        throw .notText
      pure (.char code, rest)
    else if c == 'p' || c == 'P' then do
      let (s, rest) ← readProperty f rest
      pure (.set (if c == 'P' then s.complement else s), rest)
    else if c == 'd' || c == 's' || c == 'w' || c == 'D' || c == 'S' || c == 'W' then do
      let s ← f.shorthand c
      pure (.set s, rest)
    else if isMeta c then .ok (.char c, rest)
    else if c == 'a' then .ok (.char '\x07', rest)
    else if c == 'f' then .ok (.char '\x0c', rest)
    else if c == 't' then .ok (.char '\t', rest)
    else if c == 'n' then .ok (.char '\n', rest)
    else if c == 'r' then .ok (.char '\r', rest)
    else if c == 'v' then .ok (.char '\x0b', rest)
    else if c == 'A' then .ok (.look .textStart, rest)
    else if c == 'z' then .ok (.look .textEnd, rest)
    else if c == 'b' then do
      let (l, rest) ← readBoundary f rest
      pure (.look l, rest)
    else if c == 'B' then .ok (.look (.notWordBoundary f.words), rest)
    else if c == '<' then .ok (.look (.wordStart f.words), rest)
    else if c == '>' then .ok (.look (.wordEnd f.words), rest)
    else if c.toNat < 0x80 && !c.isAlphanum then .ok (.char c, rest)
    else .error .badEscape

/-! ## Bracketed sets -/

/-- An operation between parts of a bracketed set. -/
inductive SetOp where
  | inter
  | diff
  | symmDiff

def SetOp.apply : SetOp → CharSet → CharSet → CharSet
  | .inter, s, t => s.inter t
  | .diff, s, t => s.diff t
  | .symmDiff, s, t => s.symmDiff t

/-- A bracketed set as far as it was read: what stands before the last operation, and the union
of the items after it. -/
structure SetDraft where
  pending : Option (SetOp × CharSet × Nat) := none
  union : CharSet := .empty
  items : Nat := 0
  height : Nat := 0

namespace SetDraft

/-- Adds an item to the union. -/
def add (d : SetDraft) (s : CharSet) (height : Nat) : SetDraft :=
  { d with union := ⟨d.union.ranges ++ s.ranges⟩, items := d.items + 1,
           height := max d.height height }

/-- The set and the height of all that was read. -/
def value (d : SetDraft) (f : Flags) : CharSet × Nat :=
  let height := if 2 ≤ d.items then d.height + 1 else d.height
  match d.pending with
  | none => (d.union, height)
  | some (op, s, h) => (op.apply (f.fold s) (f.fold d.union), max h height + 1)

/-- Starts the operand after an operation. -/
def operate (d : SetDraft) (f : Flags) (op : SetOp) : SetDraft :=
  { pending := some (op, d.value f) }

end SetDraft

/-- The ranges of the named sets of `[:name:]`. -/
def namedAscii : List (String × List (Nat × Nat)) :=
  [("alnum", [(48, 57), (65, 90), (97, 122)]), ("alpha", [(65, 90), (97, 122)]),
   ("ascii", [(0, 127)]), ("blank", [(9, 9), (32, 32)]), ("cntrl", [(0, 31), (127, 127)]),
   ("digit", [(48, 57)]), ("graph", [(33, 126)]), ("lower", [(97, 122)]), ("print", [(32, 126)]),
   ("punct", [(33, 47), (58, 64), (91, 96), (123, 126)]), ("space", [(9, 13), (32, 32)]),
   ("upper", [(65, 90)]), ("word", [(48, 57), (65, 90), (95, 95), (97, 122)]),
   ("xdigit", [(48, 57), (65, 70), (97, 102)])]

/-- Reads a name and the `:]` behind it. -/
def readAsciiName? (cs : List Char) : Option (List (Nat × Nat) × List Char) :=
  match cs.dropWhile (· != ':') with
  | ':' :: ']' :: after =>
    (namedAscii.lookup (String.ofList (cs.takeWhile (· != ':')))).map (·, after)
  | _ => none

/-- Reads `[:name:]` or `[:^name:]`, or finds that it is something else. -/
def readNamedAscii? (cs : List Char) : Option (List (Nat × Nat) × Bool × List Char) :=
  match cs with
  | '[' :: ':' :: '^' :: rest => (readAsciiName? rest).map fun (ranges, after) => (ranges, true, after)
  | '[' :: ':' :: rest => (readAsciiName? rest).map fun (ranges, after) => (ranges, false, after)
  | _ => none

/-- The set of a name, or its complement. -/
def Flags.namedAscii (f : Flags) (ranges : List (Nat × Nat)) (negated : Bool) : Except Fault CharSet :=
  let s := f.fold ⟨ranges⟩
  if negated then f.negate s else .ok s

/-- Reads one item of a bracketed set, which may be the start of a range. -/
def readSetItem (f : Flags) (cs : List Char) : Except Fault (Atom × List Char) :=
  match cs with
  | [] => .error .unclosedClass
  | '\\' :: rest => readEscape f rest
  | c :: rest => .ok (.char c, rest)

/-- A range in a bracketed set; without Unicode it ends at U+007F. -/
def Flags.range (f : Flags) (a b : Char) : Except Fault CharSet :=
  if !f.unicode && 0x80 ≤ b.toNat then .error .notText
  else if b < a then .error .badClass
  else .ok (.ofRange a b)

/-- The set of one item. -/
def Flags.single (f : Flags) : Atom → Except Fault CharSet
  | .char a => f.range a a
  | .set s => .ok s
  | .look _ => .error .badClass

/-- The set of a range from one item to another. -/
def Flags.between (f : Flags) : Atom → Atom → Except Fault CharSet
  | .char a, .char b => f.range a b
  | _, _ => .error .badClass

/-- Whether a hyphen in front of a text stands between the ends of a range. -/
def Flags.endsRange (f : Flags) (cs : List Char) : Bool :=
  (f.skip cs).head? != some ']' && (f.skip cs).head? != some '-'

/-- Reads one item or range of a bracketed set. -/
def readSetRange (f : Flags) (cs : List Char) : Except Fault (CharSet × List Char) := do
  let (first, rest) ← readSetItem f cs
  match f.skip rest with
  | [] => throw .unclosedClass
  | c :: after =>
    if c == '-' && f.endsRange after then
      let (last, rest) ← readSetItem f (f.skip after)
      let s ← f.between first last
      pure (s, rest)
    else
      let s ← f.single first
      pure (s, c :: after)

/-- Takes the hyphens at the start of a bracketed set, which stand for themselves. -/
def takeHyphens (f : Flags) : (fuel : Nat) → List Char → SetDraft → List Char × SetDraft
  | 0, cs, d => (cs, d)
  | fuel + 1, cs, d =>
    match cs with
    | '-' :: rest => takeHyphens f fuel (f.skip rest) (d.add (.ofChar '-') 0)
    | _ => (cs, d)

/-- Takes the `^` of a negated set. -/
def takeNegation (f : Flags) (cs : List Char) : Bool × List Char :=
  match cs with
  | '^' :: rest => (true, f.skip rest)
  | _ => (false, cs)

/-- Takes a `]` that is the first item of a set, which does not close it. -/
def takeBracket (f : Flags) (cs : List Char) (d : SetDraft) : List Char × SetDraft :=
  match cs with
  | ']' :: rest => if d.items == 0 then (f.skip rest, d.add (.ofChar ']') 0) else (cs, d)
  | _ => (cs, d)

/-- Takes what stands before the items of a set: the `^`, hyphens and a first `]`. -/
def takeOpening (f : Flags) (fuel : Nat) (cs : List Char) : Bool × List Char × SetDraft :=
  let (negated, cs) := takeNegation f (f.skip cs)
  let (cs, d) := takeHyphens f fuel cs {}
  (negated, takeBracket f cs d)

/-- A bracketed set once it was read, or its complement. -/
def Flags.bracketed (f : Flags) (negated : Bool) (s : CharSet) : Except Fault CharSet :=
  let s := f.fold s
  if negated then f.negate s else .ok s.normalize

/-- Reads an item, a range, a set or an operation in a bracketed set; `nested` reads the sets. -/
def readSetPart (f : Flags) (nested : List Char → Except Fault (CharSet × Nat × List Char))
    (cs : List Char) (d : SetDraft) : Except Fault (SetDraft × List Char) :=
  match readNamedAscii? cs with
  | some (ranges, negated, after) => do
    let s ← f.namedAscii ranges negated
    pure (d.add s 0, after)
  | none =>
    match cs with
    | '[' :: rest => do
      let (s, height, rest) ← nested rest
      pure (d.add s height, rest)
    | '&' :: '&' :: rest => .ok (d.operate f .inter, rest)
    | '-' :: '-' :: rest => .ok (d.operate f .diff, rest)
    | '~' :: '~' :: rest => .ok (d.operate f .symmDiff, rest)
    | _ => do
      let (s, rest) ← readSetRange f cs
      pure (d.add s 0, rest)

mutual

/-- Reads a bracketed set from the character after its `[` on. -/
def readSet (f : Flags) : (fuel : Nat) → List Char → Except Fault (CharSet × Nat × List Char)
  | 0, _ => .error .unclosedClass
  | fuel + 1, cs =>
    let (negated, cs, d) := takeOpening f fuel cs
    match readSetItems f fuel cs d with
    | .error e => .error e
    | .ok (s, height, rest) => (f.bracketed negated s).map fun s => (s, height + 1, rest)

/-- Reads the parts of a bracketed set up to its `]`. -/
def readSetItems (f : Flags) :
    (fuel : Nat) → List Char → SetDraft → Except Fault (CharSet × Nat × List Char)
  | 0, _, _ => .error .unclosedClass
  | fuel + 1, cs, d =>
    match f.skip cs with
    | [] => .error .unclosedClass
    | c :: rest =>
      if c == ']' then .ok ((d.value f).1, (d.value f).2, rest)
      else
        match readSetPart f (fun cs => readSet f fuel cs) (c :: rest) d with
        | .error e => .error e
        | .ok (d, rest) => readSetItems f fuel rest d

end

/-! ## Groups and flags -/

/-- Whether a character may stand in the name of a group. -/
def isNameChar (isFirst : Bool) (c : Char) : Bool :=
  if isFirst then c == '_' || Text.isAlphabetic c
  else c == '_' || c == '.' || c == '[' || c == ']' || Text.isAlphanumeric c

/-- The name of a group, if it can be one. -/
def groupName (name : List Char) : Except Fault String :=
  match name with
  | [] => .error .badName
  | c :: more =>
    if isNameChar true c && more.all (isNameChar false) then .ok (String.ofList (c :: more))
    else .error .badName

/-- Reads the name of a group up to its `>`. -/
def readName (cs : List Char) : Except Fault (String × List Char) :=
  match cs.dropWhile (· != '>') with
  | [] => .error .badName
  | _ :: rest => do
    let name ← groupName (cs.takeWhile (· != '>'))
    pure (name, rest)

/-- The letters of the flags. -/
def flagLetters : List Char := ['i', 'm', 's', 'U', 'u', 'R', 'x']

def Flags.set (f : Flags) (letter : Char) (on : Bool) : Flags :=
  match letter with
  | 'i' => { f with ignoreCase := on }
  | 'm' => { f with multiLine := on }
  | 's' => { f with dotNewline := on }
  | 'U' => { f with swapGreed := on }
  | 'u' => { f with unicode := on }
  | 'R' => { f with anyLineEnd := on }
  | _ => { f with spaced := on }

/-- Reads flags up to `:` or `)`. `seen` holds the letters read, with a hyphen after which flags
are switched off. -/
def readFlags : List Char → (seen : List Char) → Flags → Except Fault (Flags × Bool × List Char)
  | [], _, _ => .error .badFlags
  | c :: rest, seen, f =>
    if c == ':' || c == ')' then
      if seen.head? == some '-' then .error .badFlags
      else if c == ')' && seen.isEmpty then .error .nothingToRepeat
      else .ok (f, c == ':', rest)
    else if seen.contains c then .error .badFlags
    else if c == '-' then readFlags rest (c :: seen) f
    else if flagLetters.contains c then readFlags rest (c :: seen) (f.set c (!seen.contains '-'))
    else .error .badFlags

/-- What an opening bracket begins. -/
inductive Opening where
  /-- A group, with its number and name if it captures; `inner` holds inside it. -/
  | group (index : Option (Nat × Option String)) (inner : Scope)
  /-- Flags for the rest of the enclosing group. -/
  | flags (scope : Scope)

/-- Opens the group of a name, which no other group may have. -/
def openNamed (sc : Scope) (name : String) : Except Fault Opening :=
  if sc.names.contains name then .error .duplicateName
  else
    .ok (.group (some (sc.groups + 1, some name))
      { sc with groups := sc.groups + 1, names := name :: sc.names })

/-- Reads the name of a group and opens the group. -/
def readNamed (sc : Scope) (cs : List Char) : Except Fault (Opening × List Char) := do
  let (name, rest) ← readName cs
  let opening ← openNamed sc name
  pure (opening, rest)

/-- Reads flags, and opens the group that they are for if there is one. -/
def readFlagged (sc : Scope) (cs : List Char) : Except Fault (Opening × List Char) := do
  let (flags, isGroup, rest) ← readFlags cs [] sc.flags
  if isGroup then pure (.group none { sc with flags := flags }, rest)
  else pure (.flags { sc with flags := flags }, rest)

/-- Reads the start of a group from the character after its `(` on. -/
def readOpening (sc : Scope) (cs : List Char) : Except Fault (Opening × List Char) :=
  match sc.flags.skip cs with
  | '?' :: '=' :: _ | '?' :: '!' :: _ | '?' :: '<' :: '=' :: _ | '?' :: '<' :: '!' :: _ =>
    .error .lookAround
  | '?' :: 'P' :: '<' :: rest => readNamed sc rest
  | '?' :: '<' :: rest => readNamed sc rest
  | '?' :: rest => readFlagged sc rest
  | rest => .ok (.group (some (sc.groups + 1, none)) { sc with groups := sc.groups + 1 }, rest)

/-! ## Repetitions -/

/-- Puts a repetition on the last part. -/
def repeatLast (f : Flags) (min : Nat) (max : Option Nat) (greedy : Bool) (parts : List Part) :
    Except Fault (List Part) :=
  match parts with
  | [] => .error .nothingToRepeat
  | p :: rest =>
    if p.repeatable then
      .ok (⟨p.expr.repeated min max (greedy != f.swapGreed), p.height + 1, true⟩ :: rest)
    else .error .nothingToRepeat

/-- Reads a decimal number with white space around it. -/
def readCount (f : Flags) (cs : List Char) : Except Fault (Nat × List Char) :=
  let cs := cs.dropWhile Text.isBlank
  let ds := cs.takeWhile Char.isDigit
  let n := ds.foldl (fun n d => min (n * 10 + (d.toNat - 48)) UInt32.size) 0
  if ds.isEmpty || UInt32.size ≤ n then .error .badCount
  else .ok (n, f.skip ((cs.dropWhile Char.isDigit).dropWhile Text.isBlank))

/-- Reads the upper bound of a counted repetition, which may be the lower one again or none. -/
def readUpper (f : Flags) (low : Nat) (cs : List Char) : Except Fault (Option Nat × List Char) :=
  match cs with
  | ',' :: rest =>
    match f.skip rest with
    | '\x7d' :: after => .ok (none, '\x7d' :: after)
    | rest => do
      let (n, rest) ← readCount f rest
      pure (some n, rest)
  | _ => .ok (some low, cs)

/-- Takes the `?` by which a repetition prefers fewer rounds. -/
def takeGreed (cs : List Char) : Bool × List Char :=
  match cs with
  | '?' :: rest => (false, rest)
  | _ => (true, cs)

/-- Reads the end of a counted repetition, and whether it prefers more rounds. -/
def closeCounts (f : Flags) (low : Nat) (high : Option Nat) (cs : List Char) :
    Except Fault (Bool × List Char) :=
  match cs with
  | '\x7d' :: rest =>
    if (high.getD low) < low then .error .badCount else .ok (takeGreed (f.skip rest))
  | _ => .error .badCount

/-- Reads a counted repetition from the character after its brace on. -/
def readCounts (f : Flags) (cs : List Char) :
    Except Fault ((Nat × Option Nat × Bool) × List Char) := do
  let (low, rest) ← readCount f (f.skip cs)
  let (high, rest) ← readUpper f low rest
  let (greedy, rest) ← closeCounts f low high rest
  pure ((low, high, greedy), rest)

/-! ## Patterns -/

/-- A sequence of parts, given backwards. -/
def closeSequence (parts : List Part) : Part :=
  match parts with
  | [] => ⟨.empty, 0, true⟩
  | [p] => ⟨p.expr, p.height, true⟩
  | _ =>
    ⟨.sequence (parts.reverse.map Part.expr), parts.foldl (fun h p => max h p.height) 0 + 1, true⟩

/-- A choice between sequences, given backwards. -/
def closeChoice (branches : List Part) : Part :=
  match branches with
  | [] => ⟨.empty, 0, true⟩
  | [p] => p
  | _ =>
    ⟨.choice (branches.reverse.map Part.expr),
      branches.foldl (fun h p => max h p.height) 0 + 1, true⟩

/-- The condition of `^` and `$`. -/
def Flags.startLook (f : Flags) : Look :=
  if !f.multiLine then .textStart else if f.anyLineEnd then .lineStartAny else .lineStart

def Flags.endLook (f : Flags) : Look :=
  if !f.multiLine then .textEnd else if f.anyLineEnd then .lineEndAny else .lineEnd

/-- The set of `.`. -/
def Flags.dot (f : Flags) : Except Fault CharSet :=
  if !f.unicode then .error .notText
  else if f.dotNewline then .ok .full
  else if f.anyLineEnd then .ok (CharSet.ofText "\n\r").complement
  else .ok (CharSet.ofChar '\n').complement

/-- What an escape stands for outside of sets. -/
def Flags.atom (f : Flags) : Atom → Expr
  | .char c => f.literal c
  | .set s => .set s
  | .look l => .look l

/-- Reads a part that is no group, set or repetition. -/
def readSingle (f : Flags) (c : Char) (rest : List Char) : Except Fault (Expr × List Char) :=
  if c == '\\' then do
    let (atom, rest) ← readEscape f rest
    pure (f.atom atom, rest)
  else if c == '.' then do
    let s ← f.dot
    pure (.set s, rest)
  else if c == '^' then .ok (.look f.startLook, rest)
  else if c == '$' then .ok (.look f.endLook, rest)
  else .ok (f.literal c, rest)

/-- Reads a part, or a repetition of the last one, and returns the parts with it. -/
def readPart (f : Flags) (c : Char) (parts : List Part) (cs : List Char) :
    Except Fault (List Part × List Char) :=
  if c == '[' then do
    let (s, height, rest) ← readSet f (2 * cs.length + 2) cs
    pure (⟨.set s, height, true⟩ :: parts, rest)
  else if c == '?' || c == '*' || c == '+' then do
    let (greedy, rest) := takeGreed cs
    let min := if c == '+' then 1 else 0
    let max := if c == '?' then some 1 else none
    let parts ← repeatLast f min max greedy parts
    pure (parts, rest)
  else if c == '\x7b' then do
    let ((min, max, greedy), rest) ← readCounts f cs
    let parts ← repeatLast f min max greedy parts
    pure (parts, rest)
  else do
    let (expr, rest) ← readSingle f c cs
    pure (⟨expr, 0, true⟩ :: parts, rest)

/-- The part of a group that was opened. -/
def closeGroup (index : Option (Nat × Option String)) (body : Part) : Part :=
  let expr := match index with
    | some (i, name) => .group i name body.expr
    | none => body.expr
  ⟨expr, body.height + 1, true⟩

/-- Reads a pattern up to its end or to a `)` of an enclosing group. `branches` holds the
sequences before the last `|` and `parts` the parts after it, both backwards. -/
def readBody : (fuel : Nat) → Scope → List Char → (branches parts : List Part) →
    Except Fault (Part × Scope × List Char)
  | 0, _, _, _, _ => .error .unclosedGroup
  | fuel + 1, sc, cs, branches, parts =>
    match sc.flags.skip cs with
    | [] => .ok (closeChoice (closeSequence parts :: branches), sc, [])
    | c :: rest =>
      if c == ')' then .ok (closeChoice (closeSequence parts :: branches), sc, c :: rest)
      else if c == '|' then readBody fuel sc rest (closeSequence parts :: branches) []
      else if c == '(' then
        match readOpening sc rest with
        | .error e => .error e
        | .ok (.flags sc', rest) => readBody fuel sc' rest branches (⟨.empty, 0, false⟩ :: parts)
        | .ok (.group index inner, rest) =>
          match readBody fuel inner rest [] [] with
          | .error e => .error e
          | .ok (_, _, []) => .error .unclosedGroup
          | .ok (body, after, _ :: rest) =>
            readBody fuel { after with flags := sc.flags } rest branches
              (closeGroup index body :: parts)
      else
        match readPart sc.flags c parts rest with
        | .error e => .error e
        | .ok (parts, rest) => readBody fuel sc rest branches parts

/-- Reads a whole pattern. -/
def readPattern (cs : List Char) : Except Fault Part :=
  match readBody (cs.length + 1) {} cs [] [] with
  | .error e => .error e
  | .ok (part, _, []) => .ok part
  | .ok (_, _, _ :: _) => .error .unopenedGroup

end RequestDispatch.Regex
