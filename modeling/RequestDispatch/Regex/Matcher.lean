import RequestDispatch.Regex.Expr

/-!
# Matching

`Expr.run e s` lists the states in which `e` can end when it starts in `s`, the preferred one
first. Two states at the same place differ only in their groups, and nothing that follows can
tell them apart, so of those only the first stays; this keeps the lists short and matching
polynomial. `find?` takes the leftmost place from which anything matches and its first state.
-/

set_option autoImplicit false

namespace RequestDispatch.Regex

open Text (CharSet)

/-! ## Sets of offsets -/

/-- A set of offsets into a text, as the bits of a number. -/
structure OffsetSet where
  bits : Nat

namespace OffsetSet

def empty : OffsetSet := ⟨0⟩

def contains (s : OffsetSet) (i : Nat) : Bool := s.bits.testBit i

def insert (s : OffsetSet) (i : Nat) : OffsetSet := ⟨s.bits ||| (1 <<< i)⟩

@[simp] theorem contains_empty (i : Nat) : empty.contains i = false := by
  simp [empty, contains]

@[simp] theorem contains_insert (s : OffsetSet) (i j : Nat) :
    (s.insert i).contains j = (s.contains j || decide (i = j)) := by
  simp only [insert, contains, Nat.testBit_or, Nat.one_shiftLeft, Nat.testBit_two_pow]

end OffsetSet

/-! ## States -/

/-- The part of a text that a group matched, by its offsets. -/
structure Span where
  start : Nat
  stop : Nat
  deriving Repr, DecidableEq

/-- A place in a text, with what the groups matched on the way there. -/
structure State where
  /-- The characters before the place, the nearest first. -/
  before : List Char
  after : List Char
  offset : Nat
  groups : List (Nat × Span)
  deriving Repr, DecidableEq

namespace State

/-- The start of a text. -/
def start (text : List Char) : State := ⟨[], text, 0, []⟩

/-- The state after the next character, if it is in a set. -/
def advance (s : State) (set : CharSet) : List State :=
  match s.after with
  | [] => []
  | c :: rest =>
    if set.contains c then [{ s with before := c :: s.before, after := rest, offset := s.offset + 1 }]
    else []

/-- Notes what a group matched; an earlier match of the same group is forgotten. -/
def record (s : State) (index : Nat) (span : Span) : State :=
  { s with groups := (index, span) :: s.groups.filter fun g => g.1 != index }

/-- What a group matched. -/
def span? (s : State) (index : Nat) : Option Span := s.groups.lookup index

end State

/-- Keeps the first state of each place. -/
def firsts : (seen : OffsetSet) → List State → List State
  | _, [] => []
  | seen, s :: rest =>
    if seen.contains s.offset then firsts seen rest
    else s :: firsts (seen.insert s.offset) rest

/-- Whether a word character stands next to a place on one side. -/
def wordAt (words : CharSet) (cs : List Char) : Bool := (cs.head?.map words.contains).getD false

/-- Whether a condition holds at a place. -/
def Look.holds (l : Look) (s : State) : Bool :=
  match l with
  | .textStart => s.before.isEmpty
  | .textEnd => s.after.isEmpty
  | .lineStart => s.before.isEmpty || s.before.head? == some '\n'
  | .lineEnd => s.after.isEmpty || s.after.head? == some '\n'
  | .lineStartAny =>
    s.before.isEmpty || s.before.head? == some '\n' ||
      (s.before.head? == some '\r' && s.after.head? != some '\n')
  | .lineEndAny =>
    s.after.isEmpty || s.after.head? == some '\r' ||
      (s.after.head? == some '\n' && s.before.head? != some '\r')
  | .wordBoundary w => wordAt w s.before != wordAt w s.after
  | .notWordBoundary w => wordAt w s.before == wordAt w s.after
  | .wordStart w => !wordAt w s.before && wordAt w s.after
  | .wordEnd w => wordAt w s.before && !wordAt w s.after
  | .wordStartHalf w => !wordAt w s.before
  | .wordEndHalf w => !wordAt w s.after

/-! ## Repetition -/

/-- What is left to do in a repetition. -/
inductive Task where
  /-- Between two rounds: go on or stop, by preference. -/
  | visit (count : Nat) (s : State)
  /-- At the start of a round. -/
  | enter (count : Nat) (s : State)
  /-- Leave the repetition. -/
  | leave (s : State)

/-- A repetition with rounds `step`, of which at most `limit` more may follow. A place between
rounds, at the start of a round or at the end is visited once: whatever could follow a second
visit was already tried after the first. `width` is greater than every offset. -/
def explore (greedy : Bool) (limit : Option Nat) (width : Nat) (step : State → List State) :
    (fuel : Nat) → List Task → (visited entered left : OffsetSet) → List State
  | 0, _, _, _, _ => []
  | _ + 1, [], _, _, _ => []
  | fuel + 1, .leave s :: rest, visited, entered, left =>
    if left.contains s.offset then explore greedy limit width step fuel rest visited entered left
    else s :: explore greedy limit width step fuel rest visited entered (left.insert s.offset)
  | fuel + 1, .visit count s :: rest, visited, entered, left =>
    if limit == some count then
      explore greedy limit width step fuel (.leave s :: rest) visited entered left
    else
      let key := count * width + s.offset
      if visited.contains key then explore greedy limit width step fuel rest visited entered left
      else
        let next :=
          if greedy then .enter count s :: .leave s :: rest else .leave s :: .enter count s :: rest
        explore greedy limit width step fuel next (visited.insert key) entered left
  | fuel + 1, .enter count s :: rest, visited, entered, left =>
    let key := count * width + s.offset
    if entered.contains key then explore greedy limit width step fuel rest visited entered left
    else
      let count' := if limit.isSome then count + 1 else 0
      explore greedy limit width step fuel ((step s).map (.visit count') ++ rest) visited
        (entered.insert key) left

/-- A number of tasks that no repetition exceeds. -/
def taskBound (limit : Option Nat) (width starts : Nat) : Nat :=
  3 * starts + 1 + (limit.getD 0 + 1) * (width + 1) * (width + 4)

/-- Runs `step` a number of times, from each of some states. -/
def rounds (step : State → List State) : Nat → List State → List State
  | 0, states => states
  | n + 1, states =>
    match states with
    | [] => []
    | _ => rounds step n (firsts .empty (states.flatMap step))

/-- The states in which a repetition can end. -/
def loopStates (min : Nat) (max : Option Nat) (greedy : Bool) (step : State → List State)
    (s : State) : List State :=
  let width := s.offset + s.after.length + 1
  match max with
  | some max =>
    let starts := rounds step min [s]
    let limit := some (max - min)
    explore greedy limit width step (taskBound limit width starts.length)
      (starts.map (.visit 0)) .empty .empty .empty
  | none =>
    match min with
    | 0 =>
      let tasks := if greedy then [.enter 0 s, .leave s] else [.leave s, .enter 0 s]
      explore greedy none width step (taskBound none width 1) tasks .empty .empty .empty
    | min + 1 =>
      let starts := rounds step min [s]
      explore greedy none width step (taskBound none width starts.length)
        (starts.map (.enter 0)) .empty .empty .empty

/-! ## Expressions -/

/-- The states in which an expression can end, the preferred one first, one for each place. -/
def Expr.run : Expr → State → List State
  | .empty, s => [s]
  | .set cs, s => s.advance cs
  | .look l, s => if l.holds s then [s] else []
  | .cat a b, s => firsts .empty ((a.run s).flatMap b.run)
  | .alt a b, s => firsts .empty (a.run s ++ b.run s)
  | .loop min max greedy e, s => loopStates min max greedy e.run s
  | .group index _ e, s => (e.run s).map fun t => t.record index ⟨s.offset, t.offset⟩

/-- A match: where it starts and the state in which it ends. -/
structure Match where
  start : Nat
  final : State
  deriving Repr, DecidableEq

/-- The leftmost match from a place on, and the preferred one there. -/
def Expr.findFrom (e : Expr) (before : List Char) (offset : Nat) : List Char → Option Match
  | [] => (e.run ⟨before, [], offset, []⟩).head?.map (⟨offset, ·⟩)
  | c :: rest =>
    match e.run ⟨before, c :: rest, offset, []⟩ with
    | t :: _ => some ⟨offset, t⟩
    | [] => e.findFrom (c :: before) (offset + 1) rest

/-- The leftmost match in a text. -/
def Expr.find? (e : Expr) (text : List Char) : Option Match := e.findFrom [] 0 text

end RequestDispatch.Regex
