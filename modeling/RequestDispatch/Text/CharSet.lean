/-!
# Sets of characters

A `CharSet` is a list of ranges of code points, ends included. Membership reads any list of
ranges; the operations that need order (`complement`, and those built on it) first bring the
ranges into order with `normalize`.
-/

set_option autoImplicit false

namespace RequestDispatch.Text

/-- A set of characters as ranges of code points. -/
structure CharSet where
  ranges : List (Nat × Nat)
  deriving Repr, Inhabited, DecidableEq

namespace CharSet

/-- The greatest code point. -/
def maxCode : Nat := 0x10FFFF

def empty : CharSet := ⟨[]⟩

def full : CharSet := ⟨[(0, maxCode)]⟩

def ofChar (c : Char) : CharSet := ⟨[(c.toNat, c.toNat)]⟩

def ofRange (first last : Char) : CharSet := ⟨[(first.toNat, last.toNat)]⟩

/-- The characters of a text. -/
def ofText (s : String) : CharSet := ⟨s.toList.map fun c => (c.toNat, c.toNat)⟩

def containsCode (s : CharSet) (n : Nat) : Bool :=
  s.ranges.any fun (low, high) => low ≤ n && n ≤ high

def contains (s : CharSet) (c : Char) : Bool := s.containsCode c.toNat

/-- Puts a range into a list ordered by lower ends. -/
def insertRange (r : Nat × Nat) : List (Nat × Nat) → List (Nat × Nat)
  | [] => [r]
  | q :: rest => if r.1 ≤ q.1 then r :: q :: rest else q :: insertRange r rest

/-- Joins ranges that touch or overlap, in a list ordered by lower ends; `a` to `b` is the range
being extended. -/
def mergeFrom (a b : Nat) : List (Nat × Nat) → List (Nat × Nat)
  | [] => [(a, b)]
  | (c, d) :: rest =>
    if c ≤ b + 1 then mergeFrom a (max b d) rest else (a, b) :: mergeFrom c d rest

def merge : List (Nat × Nat) → List (Nat × Nat)
  | [] => []
  | (a, b) :: rest => mergeFrom a b rest

/-- The same set with its ranges in order, none touching the next. -/
def normalize (s : CharSet) : CharSet :=
  ⟨merge ((s.ranges.filter fun (a, b) => a ≤ b).foldr insertRange [])⟩

def union (s t : CharSet) : CharSet := normalize ⟨s.ranges ++ t.ranges⟩

/-- The gaps between ordered ranges, from `next` on. -/
def gaps (next : Nat) : List (Nat × Nat) → List (Nat × Nat)
  | [] => if next ≤ maxCode then [(next, maxCode)] else []
  | (a, b) :: rest => (if next < a then [(next, a - 1)] else []) ++ gaps (b + 1) rest

/-- All characters that are not in the set. -/
def complement (s : CharSet) : CharSet := ⟨gaps 0 s.normalize.ranges⟩

def inter (s t : CharSet) : CharSet := (union s.complement t.complement).complement

def diff (s t : CharSet) : CharSet := inter s t.complement

/-- The characters in exactly one of two sets. -/
def symmDiff (s t : CharSet) : CharSet := diff (union s t) (inter s t)

/-- Whether only characters below U+0080 are in the set. -/
def isAscii (s : CharSet) : Bool := s.ranges.all fun (_, b) => b < 0x80

end CharSet

end RequestDispatch.Text
