import RequestDispatch.Text.CharSet

/-!
# Expressions

What a pattern means once its text has been read: sets of characters, conditions on the place,
sequences, choices in order of preference, repetitions and numbered groups. Without groups that
capture nothing, without flags: both are gone by the time a text has become an `Expr`.
-/

set_option autoImplicit false

namespace RequestDispatch.Regex

open Text (CharSet)

/-- A condition on the place between two characters. `words` is the set of word characters it
refers to. -/
inductive Look where
  | textStart
  | textEnd
  | lineStart
  | lineEnd
  /-- A line begins here where lines end with a carriage return, a line feed or both. -/
  | lineStartAny
  | lineEndAny
  | wordBoundary (words : CharSet)
  | notWordBoundary (words : CharSet)
  | wordStart (words : CharSet)
  | wordEnd (words : CharSet)
  | wordStartHalf (words : CharSet)
  | wordEndHalf (words : CharSet)
  deriving Repr, DecidableEq

/-- An expression. -/
inductive Expr where
  | empty
  | set (s : CharSet)
  | look (l : Look)
  | cat (a b : Expr)
  /-- Either, the first preferred. -/
  | alt (a b : Expr)
  /-- From `min` to `max` times; `greedy` prefers more, otherwise fewer. -/
  | loop (min : Nat) (max : Option Nat) (greedy : Bool) (e : Expr)
  | group (index : Nat) (name : Option String) (e : Expr)
  deriving Repr, DecidableEq, Inhabited

namespace Expr

/-- Whether an expression can only match the empty text. -/
def onlyEmpty : Expr → Bool
  | .empty | .look _ => true
  | .set _ => false
  | .cat a b => a.onlyEmpty && b.onlyEmpty
  | .alt a b => a.onlyEmpty && b.onlyEmpty
  | .loop _ max _ e => e.onlyEmpty || max == some 0
  | .group _ _ e => e.onlyEmpty

/-- A repetition. Repeating what can only match the empty text more than once says nothing more,
and a repetition of exactly no or one time is no repetition. -/
def repeated (min : Nat) (max : Option Nat) (greedy : Bool) (e : Expr) : Expr :=
  let (min, max) :=
    if e.onlyEmpty then (Nat.min min 1, some ((max.getD 1).min 1)) else (min, max)
  if max == some 0 then .empty
  else if min == 1 && max == some 1 then e
  else .loop min max greedy e

/-- A sequence. -/
def sequence : List Expr → Expr
  | [] => .empty
  | [e] => e
  | e :: rest => .cat e (sequence rest)

/-- A choice in order of preference. -/
def choice : List Expr → Expr
  | [] => .empty
  | [e] => e
  | e :: rest => .alt e (choice rest)

/-- The names of the groups with their numbers, in the order of the text. -/
def groupNames : Expr → List (Nat × String)
  | .empty | .set _ | .look _ => []
  | .cat a b | .alt a b => a.groupNames ++ b.groupNames
  | .loop _ _ _ e => e.groupNames
  | .group index name e =>
    match name with
    | some n => (index, n) :: e.groupNames
    | none => e.groupNames

end Expr

end RequestDispatch.Regex
