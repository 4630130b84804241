import Mathlib.Algebra.GroupWithZero.Nat
import RequestDispatch.Proofs.Route.Capture

/-!
# Which templates compile

A template compiles if its placeholders have different names and its expression is within the
limits of the height and of the memory (`exists_ofTemplate_iff`). A group for the rest of the path
is no higher than one for a segment, and takes as much memory, so a template with placeholders that
compiles also compiles when the last one takes the rest of the path (`exists_catchAll`).
-/

set_option autoImplicit false

namespace RequestDispatch.Regex

theorem Expr.memory_sequence {es : List Expr} (h : es ≠ []) :
    (Expr.sequence es).memory = (es.map Expr.memory).sum := by
  induction es with
  | nil => exact absurd rfl h
  | cons e es ih =>
    cases es with
    | nil => simp [Expr.sequence]
    | cons e' es =>
      rw [Expr.sequence_cons _ (List.cons_ne_nil e' es), memory, ih (List.cons_ne_nil e' es)]
      rfl

end RequestDispatch.Regex

namespace RequestDispatch.Route

open Regex

namespace Piece

/-- The part of a template with its anchors. -/
def whole (catchAll : Bool) (pieces : List Piece) : Part :=
  closeSequence (⟨.look .textEnd, 0, true⟩ ::
    ((parts catchAll 1 pieces).reverse ++ [⟨.look .textStart, 0, true⟩]))

/-! ## Heights -/

/-- The greatest of a height and those of some parts. -/
def tallest (ps : List Part) (h : Nat) : Nat := ps.foldr (fun p h => max h p.height) h

theorem height_whole (catchAll : Bool) (pieces : List Piece) :
    (whole catchAll pieces).height = tallest (parts catchAll 1 pieces) 0 + 1 := by
  have hne : (parts catchAll 1 pieces).reverse ++ [(⟨.look .textStart, 0, true⟩ : Part)] ≠ [] := by
    simp
  obtain ⟨p, l, hl⟩ := List.exists_cons_of_ne_nil hne
  rw [whole, hl]
  show ((⟨.look .textEnd, 0, true⟩ : Part) :: p :: l).foldl (fun h p => max h p.height) 0 + 1 = _
  rw [← hl]
  simp only [List.foldl_cons, List.foldl_append, List.foldl_reverse, List.foldl_nil, Nat.max_zero]
  rfl

theorem tallest_literal (t : List Char) (ps : List Part) (h : Nat) :
    tallest (t.map .ofChar ++ ps) h = tallest ps h := by
  induction t with
  | nil => rfl
  | cons c t ih =>
    show max (tallest (t.map .ofChar ++ ps) h) 0 = _
    rw [Nat.max_zero, ih]

theorem tallest_parts_le (pieces : List Piece) (index h : Nat) :
    tallest (parts true index pieces) h ≤ tallest (parts false index pieces) h := by
  induction pieces generalizing index with
  | nil => exact Nat.le_refl _
  | cons piece rest ih =>
    cases piece with
    | literal t =>
      rw [parts, parts, tallest_literal, tallest_literal]
      exact ih index
    | placeholder n =>
      have hgroup : (groupPart (true && (names rest).isEmpty) index n).height ≤
          (groupPart false index n).height := by
        cases (names rest).isEmpty <;> simp [groupPart]
      have hrest := ih (index + 1)
      simp only [parts, tallest, List.foldr_cons, Bool.false_and] at hrest ⊢
      omega

/-! ## Memory -/

theorem memory_whole (catchAll : Bool) (pieces : List Piece) :
    (whole catchAll pieces).expr.memory =
      ((parts catchAll 1 pieces).map fun p => p.expr.memory).sum + 2 * stateCost := by
  rw [whole, closeSequence_anchored, Expr.memory, Expr.memory_sequence (by simp), List.map_append,
    List.sum_append, List.map_map]
  show stateCost + (_ + (stateCost + 0)) = _
  have hmap : ((parts catchAll 1 pieces).map (Expr.memory ∘ Part.expr)).sum =
      ((parts catchAll 1 pieces).map fun p => p.expr.memory).sum := rfl
  omega

theorem memory_admitted : setMemory (admitted true) = setMemory (admitted false) := by decide

theorem memory_groupPart (takesRest : Bool) (index : Nat) (n : List Char) :
    (groupPart takesRest index n).expr.memory = (groupPart false index n).expr.memory := by
  cases takesRest with
  | false => rfl
  | true => simp only [groupPart, Expr.memory, memory_admitted]

theorem memory_parts (catchAll : Bool) (pieces : List Piece) (index : Nat) :
    ((parts catchAll index pieces).map fun p => p.expr.memory).sum =
      ((parts false index pieces).map fun p => p.expr.memory).sum := by
  induction pieces generalizing index with
  | nil => rfl
  | cons piece rest ih =>
    cases piece with
    | literal t => rw [parts, parts, List.map_append, List.map_append, List.sum_append,
        List.sum_append, ih index]
    | placeholder n =>
      rw [parts, parts, List.map_cons, List.map_cons, List.sum_cons, List.sum_cons,
        ih (index + 1), memory_groupPart, Bool.false_and]

end Piece

/-! ## Templates that compile -/

open Piece

theorem exists_ofTemplate_iff {kind : PatternKind} {t : String} :
    (∃ p, Pattern.ofTemplate kind t = .ok p) ↔
      ∃ pieces, read (withSlash t.toList) = .ok pieces ∧
        (kind = .catchAll → names pieces ≠ []) ∧ Fresh [] (names pieces) ∧
        (whole (kind == .catchAll) pieces).height ≤ maxHeight ∧
        (whole (kind == .catchAll) pieces).expr.memory ≤ memoryLimit := by
  cases hread : read (withSlash t.toList) with
  | error e => cases e <;> simp [Pattern.ofTemplate, hread]
  | ok pieces =>
    by_cases hnone : kind = .catchAll ∧ names pieces = []
    · simp [Pattern.ofTemplate, hread, hnone]
    · have hsome : kind = .catchAll → names pieces ≠ [] := fun hk hn => hnone ⟨hk, hn⟩
      have hpattern : (∃ p, Pattern.ofTemplate kind t = .ok p) ↔
          ∃ r, compile (String.ofList (Pattern.templateExpression kind pieces)) = .ok r := by
        simp only [Pattern.ofTemplate, hread, hnone, ↓reduceIte]
        cases compile (String.ofList (Pattern.templateExpression kind pieces)) <;> simp
      rw [hpattern, exists_compile_iff, String.toList_ofList,
        readPattern_templateExpression kind (isIdentifier_of_read hread)]
      by_cases hfresh : Fresh [] (names pieces)
      · simp [hfresh, and_iff_right hsome, whole]
      · simp [hfresh]

/-- A template with placeholders that compiles also does when the last of them takes the rest of the
path. -/
theorem exists_catchAll {t : String} {p : Pattern} (h : Pattern.template t = .ok p)
    (hnames : p.paramNames ≠ []) : ∃ q, Pattern.catchAll t = .ok q := by
  obtain ⟨pieces, hread, -, hfresh, hheight, hmemory⟩ := exists_ofTemplate_iff.1 ⟨p, h⟩
  obtain ⟨pieces', hread', hnames', -⟩ := ofTemplate_eq_ok h
  obtain rfl : pieces = pieces' := Except.ok.inj (hread.symm.trans hread')
  refine exists_ofTemplate_iff.2 ⟨pieces, hread, fun _ hnil => hnames ?_, hfresh, ?_, ?_⟩
  · rw [hnames', hnil, List.map_nil]
  · rw [height_whole] at hheight ⊢
    exact Nat.le_trans (Nat.succ_le_succ (tallest_parts_le pieces 1 0)) hheight
  · rw [memory_whole] at hmemory ⊢
    exact Nat.le_trans (Nat.le_of_eq (congrArg (· + 2 * stateCost) (memory_parts true pieces 1)))
      hmemory

end RequestDispatch.Route
