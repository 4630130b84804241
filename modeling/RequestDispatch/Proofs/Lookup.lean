/-!
# Pairs under a key

What a look-up finds in a list of pairs: after a change of the second parts (`lookup_map_snd`),
after a choice by the first parts (`lookup_filter_fst`), where no key is repeated
(`lookup_of_mem`), and among all pairs under the key (`lookup_eq_head?`).
-/

set_option autoImplicit false

namespace RequestDispatch

variable {α β γ : Type} [BEq α] [LawfulBEq α]

theorem lookup_map_snd (f : α → β → γ) (u : α) (l : List (α × β)) :
    (l.map fun p => (p.1, f p.1 p.2)).lookup u = (l.lookup u).map (f u) := by
  induction l with
  | nil => rfl
  | cons p l ih =>
    rw [List.map_cons, List.lookup_cons, List.lookup_cons]
    split
    · rename_i hp
      rw [eq_of_beq hp, Option.map_some]
    · exact ih

theorem lookup_filter_fst (q : α → Bool) (u : α) (l : List (α × β)) :
    (l.filter fun p => q p.1).lookup u = if q u then l.lookup u else none := by
  induction l with
  | nil => simp
  | cons p l ih =>
    obtain ⟨k, v⟩ := p
    rw [List.filter_cons, List.lookup_cons]
    cases hk : u == k with
    | true =>
      rw [eq_of_beq hk] at ih ⊢
      by_cases hq : q k <;> simp [hq, ih]
    | false => by_cases hq : q k <;> simp [hq, hk, ih, List.lookup_cons]

theorem lookup_of_mem {ps : List (α × β)} {k : α} {x : β} (hnodup : (ps.map Prod.fst).Nodup)
    (h : (k, x) ∈ ps) : ps.lookup k = some x := by
  induction ps with
  | nil => cases h
  | cons p ps ih =>
    obtain ⟨j, y⟩ := p
    rw [List.map_cons, List.nodup_cons] at hnodup
    rw [List.lookup_cons]
    rcases List.mem_cons.1 h with heq | hmem
    · obtain ⟨rfl, rfl⟩ := Prod.mk.inj heq
      simp
    · have hne : (k == j) = false := by
        rw [beq_eq_false_iff_ne]
        rintro rfl
        exact hnodup.1 (List.mem_map.2 ⟨_, hmem, rfl⟩)
      rw [hne]
      exact ih hnodup.2 hmem

theorem lookup_reverse_of_mem {ps : List (α × β)} {k : α} {x : β}
    (hnodup : (ps.map Prod.fst).Nodup) (h : (k, x) ∈ ps) : ps.reverse.lookup k = some x := by
  refine lookup_of_mem ?_ (List.mem_reverse.2 h)
  rw [List.map_reverse]
  exact (List.reverse_perm _).nodup_iff.2 hnodup

theorem mem_of_lookup {ps : List (α × β)} {k : α} {x : β} (h : ps.lookup k = some x) :
    (k, x) ∈ ps := by
  obtain ⟨l₁, l₂, rfl, -⟩ := List.lookup_eq_some_iff.1 h
  exact List.mem_append_right _ (.head _)

/-- A look-up finds the first of all pairs under its key. -/
theorem lookup_eq_head? (k : α) (ps : List (α × β)) :
    ps.lookup k = ((ps.filter fun p => p.1 == k).map Prod.snd).head? := by
  induction ps with
  | nil => rfl
  | cons p ps ih =>
    rw [List.lookup_cons, List.filter_cons, Bool.beq_comm]
    cases hp : p.1 == k with
    | true => rfl
    | false => exact ih

theorem lookup_eq_none_of_not_mem {ps : List (α × β)} {k : α} (h : k ∉ ps.map Prod.fst) :
    ps.lookup k = none := by
  rw [List.lookup_eq_none_iff]
  intro p hp
  rw [bne_iff_ne]
  rintro rfl
  exact h (List.mem_map_of_mem hp)

end RequestDispatch
