import RequestDispatch.Regex.Expr

/-!
# The size of an expression

An expression is refused when the state machine for its UTF-8 form would grow beyond a limit.
`Expr.memory` counts that machine: a fixed cost for each state, and one for each edge of a choice.
Bounded repetitions count once for each round.
-/

set_option autoImplicit false

namespace RequestDispatch.Regex

open Text (CharSet)

/-- The number of bytes that the machine of one pattern may take. -/
def memoryLimit : Nat := 10 * 1024 * 1024

/-- The cost of one state. -/
def stateCost : Nat := 32

/-- Splits the codes `low` to `high` of characters with `n` continuation digits of six bits into
rows of digit ranges, in order. -/
def digitRows : (fuel n low high : Nat) → List (List (Nat × Nat))
  | 0, _, _, _ => []
  | _ + 1, 0, low, high => [[(low, high)]]
  | fuel + 1, n + 1, low, high =>
    let unit := Nat.pow 64 (n + 1)
    if low / unit == high / unit then
      (digitRows fuel n (low % unit) (high % unit)).map ((low / unit, low / unit) :: ·)
    else if low % unit != 0 then
      let cut := (low / unit + 1) * unit
      digitRows fuel (n + 1) low (cut - 1) ++ digitRows fuel (n + 1) cut high
    else if high % unit != unit - 1 then
      let cut := high / unit * unit
      digitRows fuel (n + 1) low (cut - 1) ++ digitRows fuel (n + 1) cut high
    else [(low / unit, high / unit) :: List.replicate (n + 1) (0, 63)]

/-- The rows of a range of characters, by the length of their encoding; surrogates are left
out. -/
def encodedRows (low high : Nat) : List (Nat × List (Nat × Nat)) :=
  let part (n first last : Nat) : List (Nat × List (Nat × Nat)) :=
    let a := max low first
    let b := min high last
    if a ≤ b then (digitRows 64 n a b).map (n, ·) else []
  part 0 0 0x7F ++ part 1 0x80 0x7FF ++ part 2 0x800 0xD7FF ++ part 2 0xE000 0xFFFF ++
    part 3 0x10000 0x10FFFF

/-- The number of positions at which a row differs from the one before it. -/
def newStates : List (Nat × List (Nat × Nat)) → Nat
  | [] => 0
  | [(_, row)] => row.length
  | (n, row) :: (m, next) :: rest =>
    let shared := if n == m then ((row.zip next).takeWhile fun (a, b) => a == b).length else 0
    (row.length - shared) + newStates ((m, next) :: rest)

/-- The cost of a set. -/
def setMemory (s : CharSet) : Nat :=
  match s.ranges with
  | [(a, b)] =>
    if a == b then
      stateCost * (if a < 0x80 then 1 else if a < 0x800 then 2 else if a < 0x10000 then 3 else 4)
    else if b < 0x80 then 2 * stateCost + 8
    else rowsMemory [(a, b)]
  | ranges =>
    if s.isAscii then 2 * stateCost + 8 * ranges.length else rowsMemory ranges
where
  rowsMemory (ranges : List (Nat × Nat)) : Nat :=
    let rows := ranges.flatMap fun (a, b) => encodedRows a b
    stateCost * (newStates rows + 2) + 4 * rows.length

/-- The cost of an expression. -/
def Expr.memory : Expr → Nat
  | .empty | .look _ => stateCost
  | .set s => setMemory s
  | .cat a b => a.memory + b.memory
  | .alt a b => a.memory + b.memory + 4 + stateCost
  | .loop min max _ e =>
    let round := e.memory
    let fork := stateCost + 8
    match max with
    | some max => max * round + (max - min) * fork + stateCost
    | none => (if min == 0 then 1 else min) * round + fork + stateCost
  | .group _ _ e => e.memory + 2 * stateCost

end RequestDispatch.Regex
