import RequestDispatch.Text.Blank

/-!
# What trimming leaves

`exists_trimBy`: only characters of the class are cut off, at both ends. `trimBy_append`: what stands
between such characters is left if it neither begins nor ends with one. So what is left does not
depend on such characters at the ends (`trimBy_surround`), and a character of another class keeps the
two sides of a text apart (`trimBy_append_cons`).
-/

set_option autoImplicit false

namespace RequestDispatch.Text

variable {α : Type} {p : α → Bool}

theorem dropWhile_append_of_head {before xs : List α} (hbefore : ∀ x ∈ before, p x = true)
    (hxs : ∀ x ∈ xs.head?, p x = false) : (before ++ xs).dropWhile p = xs := by
  rw [List.dropWhile_append_of_pos hbefore]
  cases xs with
  | nil => rfl
  | cons x xs => rw [List.dropWhile_cons_of_neg (by simp [hxs x rfl])]

theorem dropWhileEnd_append_of_last {xs after : List α} (hafter : ∀ x ∈ after, p x = true)
    (hxs : ∀ x ∈ xs.getLast?, p x = false) : dropWhileEnd p (xs ++ after) = xs := by
  rw [dropWhileEnd, List.reverse_append, dropWhile_append_of_head, List.reverse_reverse]
  · simpa using hafter
  · rwa [List.head?_reverse]

theorem trimBy_append {before core after : List α} (hbefore : ∀ x ∈ before, p x = true)
    (hafter : ∀ x ∈ after, p x = true) (hfirst : ∀ x ∈ core.head?, p x = false)
    (hlast : ∀ x ∈ core.getLast?, p x = false) : trimBy p (before ++ core ++ after) = core := by
  cases core with
  | nil =>
    have hall : ∀ x ∈ before ++ after, p x = true := fun x hx =>
      (List.mem_append.1 hx).elim (hbefore x) (hafter x)
    have hnone : (before ++ after).dropWhile p = [] := by
      rw [← List.append_nil (before ++ after), List.dropWhile_append_of_pos hall, List.dropWhile_nil]
    rw [List.append_nil, trimBy, hnone]
    rfl
  | cons c core =>
    have hhead : ∀ x ∈ ((c :: core) ++ after).head?, p x = false := hfirst
    rw [trimBy, List.append_assoc, dropWhile_append_of_head hbefore hhead,
      dropWhileEnd_append_of_last hafter hlast]

theorem exists_dropWhileEnd (p : α → Bool) (xs : List α) :
    ∃ after, xs = dropWhileEnd p xs ++ after ∧ ∀ x ∈ after, p x = true := by
  refine ⟨(xs.reverse.takeWhile p).reverse, ?_, fun x hx => ?_⟩
  · rw [dropWhileEnd, ← List.reverse_append, List.takeWhile_append_dropWhile, List.reverse_reverse]
  · exact List.all_eq_true.1 List.all_takeWhile x (List.mem_reverse.1 hx)

theorem exists_trimBy (p : α → Bool) (xs : List α) :
    ∃ before after, xs = before ++ trimBy p xs ++ after ∧
      (∀ x ∈ before, p x = true) ∧ ∀ x ∈ after, p x = true := by
  obtain ⟨after, hxs, hafter⟩ := exists_dropWhileEnd p (xs.dropWhile p)
  refine ⟨xs.takeWhile p, after, ?_, fun x hx => List.all_eq_true.1 List.all_takeWhile x hx, hafter⟩
  rw [trimBy, List.append_assoc, ← hxs, List.takeWhile_append_dropWhile]

/-! ## The ends of what is left -/

theorem head?_dropWhile {xs : List α} : ∀ x ∈ (xs.dropWhile p).head?, p x = false := by
  intro x hx
  have h := List.head?_dropWhile_not p xs
  rw [Option.mem_def.1 hx] at h
  exact h

theorem head?_trimBy {xs : List α} : ∀ x ∈ (trimBy p xs).head?, p x = false := by
  intro x hx
  obtain ⟨after, hxs, -⟩ := exists_dropWhileEnd p (xs.dropWhile p)
  have hhead : (dropWhileEnd p (xs.dropWhile p)).head? = some x := hx
  have hdrop : (xs.dropWhile p).head? = some x := by rw [hxs, List.head?_append, hhead]; rfl
  exact head?_dropWhile x hdrop

theorem getLast?_trimBy {xs : List α} : ∀ x ∈ (trimBy p xs).getLast?, p x = false := by
  intro x hx
  rw [trimBy, dropWhileEnd, List.getLast?_reverse] at hx
  exact head?_dropWhile x hx

/-! ## What does not count -/

theorem trimBy_surround {before after : List α} (hbefore : ∀ x ∈ before, p x = true)
    (hafter : ∀ x ∈ after, p x = true) (xs : List α) :
    trimBy p (before ++ xs ++ after) = trimBy p xs := by
  obtain ⟨first, last, hxs, hfirst, hlast⟩ := exists_trimBy p xs
  have hall : before ++ xs ++ after = (before ++ first) ++ trimBy p xs ++ (last ++ after) :=
    (congrArg (before ++ · ++ after) hxs).trans (by simp only [List.append_assoc])
  rw [hall, trimBy_append _ _ head?_trimBy getLast?_trimBy]
  · exact fun x hx => (List.mem_append.1 hx).elim (hbefore x) (hfirst x)
  · exact fun x hx => (List.mem_append.1 hx).elim (hlast x) (hafter x)

theorem trimBy_trimBy (p : α → Bool) (xs : List α) : trimBy p (trimBy p xs) = trimBy p xs := by
  obtain ⟨before, after, hxs, hbefore, hafter⟩ := exists_trimBy p xs
  exact ((congrArg (trimBy p) hxs).trans (trimBy_surround hbefore hafter _)).symm

theorem trimBy_dropWhile (p : α → Bool) (xs : List α) :
    trimBy p (xs.dropWhile p) = trimBy p xs := by
  have hfront : ∀ x ∈ xs.takeWhile p, p x = true := fun x hx =>
    List.all_eq_true.1 List.all_takeWhile x hx
  have h := trimBy_surround hfront (List.forall_mem_nil _) (xs.dropWhile p)
  rw [List.append_nil, List.takeWhile_append_dropWhile] at h
  exact h.symm

theorem trimBy_dropWhileEnd (p : α → Bool) (xs : List α) :
    trimBy p (dropWhileEnd p xs) = trimBy p xs := by
  obtain ⟨after, hxs, hafter⟩ := exists_dropWhileEnd p xs
  have h := trimBy_surround (List.forall_mem_nil _) hafter (dropWhileEnd p xs)
  rw [List.nil_append, ← hxs] at h
  exact h.symm

/-! ## A character of another class -/

theorem dropWhile_append_cons {x : α} (hx : p x = false) (xs ys : List α) :
    (xs ++ x :: ys).dropWhile p = xs.dropWhile p ++ x :: ys := by
  rw [List.dropWhile_append]
  split
  · rename_i h
    rw [List.isEmpty_iff.1 h, List.dropWhile_cons_of_neg (by simp [hx]), List.nil_append]
  · rfl

theorem dropWhileEnd_append_cons {x : α} (hx : p x = false) (xs ys : List α) :
    dropWhileEnd p (xs ++ x :: ys) = xs ++ x :: dropWhileEnd p ys := by
  have hrev : (xs ++ x :: ys).reverse = ys.reverse ++ x :: xs.reverse := by simp
  rw [dropWhileEnd, hrev, dropWhile_append_cons hx, dropWhileEnd]
  simp

theorem trimBy_append_cons {x : α} (hx : p x = false) (xs ys : List α) :
    trimBy p (xs ++ x :: ys) = xs.dropWhile p ++ x :: dropWhileEnd p ys := by
  rw [trimBy, dropWhile_append_cons hx, dropWhileEnd_append_cons hx]

end RequestDispatch.Text
