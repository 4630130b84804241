/-!
# White space and trimming

`isBlank` is the property *White_Space* of the character standard. `trimBy` removes the characters of
a class from both ends of a list and nothing else, and `trim` does so with the white space of a text.
-/

set_option autoImplicit false

namespace RequestDispatch.Text

/-- The twenty-five characters with the property *White_Space*. -/
def isBlank (c : Char) : Bool :=
  let n := c.toNat
  (9 ≤ n && n ≤ 13) || n == 0x20 || n == 0x85 || n == 0xA0 || n == 0x1680 ||
    (0x2000 ≤ n && n ≤ 0x200A) || n == 0x2028 || n == 0x2029 || n == 0x202F || n == 0x205F ||
    n == 0x3000

/-- Drops the longest run of `p` at the end of a list. -/
def dropWhileEnd {α : Type} (p : α → Bool) (xs : List α) : List α :=
  (xs.reverse.dropWhile p).reverse

/-- Drops the longest runs of `p` at both ends of a list. -/
def trimBy {α : Type} (p : α → Bool) (xs : List α) : List α :=
  dropWhileEnd p (xs.dropWhile p)

/-- The text without white space at its ends. -/
def trim (s : String) : String :=
  String.ofList (trimBy isBlank s.toList)

end RequestDispatch.Text
