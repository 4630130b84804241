import Mathlib.Data.List.Basic
import RequestDispatch.Http.Form

/-!
# Cutting at separators

`splitOn_eq`: the parts between separators are those of the library's `List.splitOn`. `cut_append`: a
text is cut at its first separator, so what stands before it and what stands after it are told by the
whole (`cut_inj`).
-/

set_option autoImplicit false

namespace RequestDispatch.Http.Form

variable {α : Type} [BEq α]

theorem splitFrom_eq (sep : α) (xs part : List α) (parts : List (List α)) :
    splitFrom sep xs part parts =
      parts.reverse ++ (xs.splitOn sep).modifyHead (part.reverse ++ ·) := by
  induction xs generalizing part parts with
  | nil => simp [splitFrom]
  | cons x xs ih =>
    rw [splitFrom, List.splitOn_cons_eq_if_modifyHead]
    split
    · have hid : (xs.splitOn sep).modifyHead ([].reverse ++ ·) = xs.splitOn sep :=
        congrFun List.modifyHead_id _
      rw [ih, hid]
      simp
    · rw [ih, List.modifyHead_modifyHead]
      simp [Function.comp_def]

theorem splitOn_eq (sep : α) (xs : List α) : splitOn sep xs = xs.splitOn sep := by
  rw [splitOn, splitFrom_eq]
  exact congrFun List.modifyHead_id _

section
variable [LawfulBEq α] {sep : α} {xs ys : List α}

theorem cut_append (h : sep ∉ xs) (rest : List α) : cut sep (xs ++ sep :: rest) = (xs, some rest) := by
  have hxs : ∀ x ∈ xs, (x != sep) = true := fun x hx => bne_iff_ne.2 fun heq => h (heq ▸ hx)
  rw [cut, List.takeWhile_append_of_pos hxs, List.dropWhile_append_of_pos hxs]
  simp

theorem cut_inj (hxs : sep ∉ xs) (hys : sep ∉ ys) {rest rest' : List α}
    (h : xs ++ sep :: rest = ys ++ sep :: rest') : xs = ys ∧ rest = rest' := by
  have hcut := congrArg (cut sep) h
  rw [cut_append hxs, cut_append hys] at hcut
  obtain ⟨hfront, hrest⟩ := Prod.mk.inj hcut
  exact ⟨hfront, Option.some.inj hrest⟩

end

end RequestDispatch.Http.Form
