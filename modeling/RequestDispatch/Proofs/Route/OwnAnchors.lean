import Mathlib.Algebra.Group.Even
import Mathlib.Algebra.Group.Nat.Even
import RequestDispatch.Route.Pattern

/-!
# Raw expressions that bring their own anchors

A `$` at the end of an expression is an anchor unless a backslash escapes it, and a backslash escapes
it unless it is escaped itself. So the number of backslashes before the `$` decides: it is an anchor
if that number is even (`EndsWithAnchor`).

* `raw_preAnchored_iff`: an expression is refused for its anchors exactly if it begins with `^`, or
  ends with `$` and no backslash stands before that. So every refusal is for an anchor, and anchors
  are found except where they are `Overlooked`: behind backslashes that escape each other.
* `raw_overlooks_anchor`: such an expression is accepted, with its anchor.
-/

set_option autoImplicit false

namespace RequestDispatch.Route

/-- How many backslashes a text ends with. -/
def backslashes (text : List Char) : Nat := (text.reverse.takeWhile (· == '\\')).length

/-- The text ends with a `$` that is not escaped. -/
def EndsWithAnchor (raw : List Char) : Prop :=
  ∃ front, raw = front ++ ['$'] ∧ Even (backslashes front)

/-- The text has an anchor of its own, `^` at its start or `$` at its end. -/
def OwnAnchor (raw : List Char) : Prop := raw.head? = some '^' ∨ EndsWithAnchor raw

/-- The only anchor of the text is a `$` behind backslashes that escape each other. -/
def Overlooked (raw : List Char) : Prop :=
  raw.head? ≠ some '^' ∧
    ∃ front, raw = front ++ ['$'] ∧ Even (backslashes front) ∧ 0 < backslashes front

theorem Overlooked.ownAnchor {raw : List Char} (h : Overlooked raw) : OwnAnchor raw := by
  obtain ⟨-, front, hraw, heven, -⟩ := h
  exact .inr ⟨front, hraw, heven⟩

theorem backslashes_eq_zero_iff (text : List Char) :
    backslashes text = 0 ↔ text.getLast? ≠ some '\\' := by
  rw [backslashes, List.length_eq_zero_iff, ← List.head?_reverse]
  cases text.reverse with
  | nil => simp
  | cons c rest => by_cases hc : c = '\\' <;> simp [hc]

theorem isAnchored_iff (raw : List Char) : Pattern.isAnchored raw = true ↔
    raw.head? = some '^' ∨ ∃ front, raw = front ++ ['$'] ∧ backslashes front = 0 := by
  rw [Pattern.isAnchored, Bool.or_eq_true, Bool.and_eq_true, beq_iff_eq, beq_iff_eq, bne_iff_ne]
  refine or_congr_right ⟨fun ⟨hlast, hfront⟩ => ?_, ?_⟩
  · obtain ⟨front, rfl⟩ := List.getLast?_eq_some_iff.1 hlast
    rw [List.dropLast_concat] at hfront
    exact ⟨front, rfl, (backslashes_eq_zero_iff front).2 hfront⟩
  · rintro ⟨front, rfl, hfront⟩
    rw [List.getLast?_concat, List.dropLast_concat]
    exact ⟨rfl, (backslashes_eq_zero_iff front).1 hfront⟩

theorem isAnchored_iff_ownAnchor (raw : List Char) :
    Pattern.isAnchored raw = true ↔ OwnAnchor raw ∧ ¬ Overlooked raw := by
  rw [isAnchored_iff]
  constructor
  · rintro (hstart | ⟨front, rfl, hzero⟩)
    · exact ⟨.inl hstart, fun h => h.1 hstart⟩
    · refine ⟨.inr ⟨front, rfl, hzero ▸ Even.zero⟩, ?_⟩
      rintro ⟨-, other, hother, -, hpos⟩
      obtain ⟨rfl, -⟩ := List.append_inj' hother rfl
      omega
  · rintro ⟨hstart | ⟨front, rfl, heven⟩, hseen⟩
    · exact .inl hstart
    · by_contra hnone
      rw [not_or, not_exists] at hnone
      refine hseen ⟨hnone.1, front, rfl, heven, Nat.pos_of_ne_zero fun hzero => ?_⟩
      exact hnone.2 front ⟨rfl, hzero⟩

theorem raw_eq_preAnchored_iff (r : String) :
    Pattern.raw r = .error (.preAnchored r) ↔ Pattern.isAnchored r.toList = true := by
  unfold Pattern.raw
  split
  · exact iff_of_true rfl ‹_›
  · refine iff_of_false ?_ ‹_›
    split <;> simp

/-- An expression is refused for its anchors exactly if it has an anchor of its own that is not
overlooked; so refusing means having one for all expressions but those whose anchor is overlooked. -/
theorem raw_preAnchored_iff (r : String) :
    (Pattern.raw r = .error (.preAnchored r) ↔ OwnAnchor r.toList ∧ ¬ Overlooked r.toList) ∧
      ((Pattern.raw r = .error (.preAnchored r) ↔ OwnAnchor r.toList) ↔ ¬ Overlooked r.toList) := by
  have hraw := (raw_eq_preAnchored_iff r).trans (isAnchored_iff_ownAnchor r.toList)
  refine ⟨hraw, ?_⟩
  rw [hraw]
  constructor
  · intro h hover
    exact (h.2 hover.ownAnchor).2 hover
  · intro hseen
    exact ⟨fun h => h.1, fun h => ⟨h, hseen⟩⟩

/-- Of two backslashes one escapes the other, so the `$` behind them is an anchor. The expression is
accepted and has it, in front of the one that is put behind every expression. -/
theorem raw_overlooks_anchor : OwnAnchor "/a\\\\$".toList ∧
    ∃ p, Pattern.raw "/a\\\\$" = .ok p ∧
      p.regex.expr = .cat (.look .textStart) (.cat (.sequence [.set (.ofChar '/'),
        .set (.ofChar 'a'), .set (.ofChar '\\'), .look .textEnd]) (.look .textEnd)) := by
  have hanchor : OwnAnchor "/a\\\\$".toList :=
    .inr ⟨"/a\\\\".toList, by decide +kernel, by decide +kernel⟩
  have hexpr : (Pattern.raw "/a\\\\$").toOption.map (·.regex.expr) =
      some (.cat (.look .textStart) (.cat (.sequence [.set (.ofChar '/'), .set (.ofChar 'a'),
        .set (.ofChar '\\'), .look .textEnd]) (.look .textEnd))) := by decide +kernel
  cases hp : Pattern.raw "/a\\\\$" with
  | error e => simp [hp, Except.toOption] at hexpr
  | ok p =>
    rw [hp] at hexpr
    exact ⟨hanchor, p, rfl, Option.some.inj hexpr⟩

end RequestDispatch.Route
