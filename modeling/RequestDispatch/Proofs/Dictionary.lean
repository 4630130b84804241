import Mathlib.Data.List.Nodup
import RequestDispatch.Dictionary
import RequestDispatch.Proofs.Lookup

/-!
# What a dictionary of pairs holds

Of a repeated key a dictionary has the last value (`find?_ofPairs`). Where no key is repeated it has
all the pairs that it is made of (`mem_ofPairs_iff`). Dictionaries in which every look-up finds the
same are the same (`Ordered.ext`), so `TextMap.override` is all there is to say of one map on top of
another (`TextMap.find?_override`).
-/

set_option autoImplicit false

namespace RequestDispatch.Dictionary

variable {α : Type} {key : String} {value : α} {pairs : List (String × α)}

theorem Ordered.nodup {d : List (String × α)} (h : Ordered d) : (d.map Prod.fst).Nodup := by
  refine List.pairwise_map.2 (h.imp fun {a b} hlt heq => ?_)
  rw [heq] at hlt
  exact String.lt_irrefl _ hlt

theorem Ordered.mem_iff {d : List (String × α)} (h : Ordered d) :
    (key, value) ∈ d ↔ find? key d = some value :=
  ⟨lookup_of_mem h.nodup, mem_of_lookup⟩

theorem find?_foldl_put (pairs d : List (String × α)) :
    find? key (pairs.foldl (fun d p => put p.1 p.2 d) d) =
      (pairs.reverse.lookup key).or (find? key d) := by
  induction pairs generalizing d with
  | nil => simp
  | cons p pairs ih =>
    have hlast : find? key (put p.1 p.2 d) = ([p].lookup key).or (find? key d) := by
      by_cases hkey : key = p.1
      · rw [hkey, find?_put_self, List.lookup_cons_self, Option.some_or]
      · rw [find?_put_of_ne hkey, List.lookup_cons, beq_false_of_ne hkey, List.lookup_nil,
          Option.none_or]
    rw [List.foldl_cons, ih, hlast, List.reverse_cons, List.lookup_append, Option.or_assoc]

theorem find?_ofPairs (key : String) (pairs : List (String × α)) :
    find? key (ofPairs pairs) = pairs.reverse.lookup key := by
  rw [ofPairs, find?_foldl_put]
  simp [find?]

/-- The order leaves no choice in how the pairs stand. -/
theorem Ordered.ext {d e : List (String × α)} (hd : Ordered d) (he : Ordered e)
    (h : ∀ key, find? key d = find? key e) : d = e := by
  have hmem : ∀ p : String × α, p ∈ d ↔ p ∈ e := fun p => by rw [hd.mem_iff, he.mem_iff, h]
  have hperm : d.Perm e :=
    (List.perm_ext_iff_of_nodup (List.Nodup.of_map _ hd.nodup) (List.Nodup.of_map _ he.nodup)).2 hmem
  exact hperm.eq_of_pairwise
    (fun a b _ _ hab hba => absurd (String.lt_trans hab hba) (String.lt_irrefl a.1)) hd he

theorem mem_of_mem_ofPairs {p : String × α} (h : p ∈ ofPairs pairs) : p ∈ pairs := by
  rw [(ordered_ofPairs pairs).mem_iff, find?_ofPairs] at h
  exact List.mem_reverse.1 (mem_of_lookup h)

theorem mem_ofPairs_iff (hnodup : (pairs.map Prod.fst).Nodup) {p : String × α} :
    p ∈ ofPairs pairs ↔ p ∈ pairs := by
  refine ⟨mem_of_mem_ofPairs, fun h => ?_⟩
  rw [(ordered_ofPairs pairs).mem_iff, find?_ofPairs]
  exact lookup_reverse_of_mem hnodup h

theorem find?_ofPairs_of_mem (hnodup : (pairs.map Prod.fst).Nodup) (h : (key, value) ∈ pairs) :
    find? key (ofPairs pairs) = some value :=
  (ordered_ofPairs pairs).mem_iff.1 ((mem_ofPairs_iff hnodup).2 h)

theorem find?_ofPairs_eq_none (h : key ∉ pairs.map Prod.fst) :
    find? key (ofPairs pairs) = none := by
  rw [find?_ofPairs]
  refine lookup_eq_none_of_not_mem fun hmem => h ?_
  rw [List.map_reverse] at hmem
  exact List.mem_reverse.1 hmem

end RequestDispatch.Dictionary

namespace RequestDispatch.TextMap

theorem ext {m n : TextMap} (h : ∀ key, m.find? key = n.find? key) : m = n := by
  have hentries := m.ordered.ext n.ordered h
  cases m
  cases n
  cases hentries
  rfl

/-- The map on top of another: of a key that both have, its value stays. -/
def override (base top : TextMap) : TextMap :=
  top.entries.foldl (fun m p => m.put p.1 p.2) base

theorem foldl_put_entries (pairs : List (String × String)) (m : TextMap) :
    (pairs.foldl (fun m p => m.put p.1 p.2) m).entries =
      pairs.foldl (fun d p => Dictionary.put p.1 p.2 d) m.entries := by
  induction pairs generalizing m with
  | nil => rfl
  | cons p pairs ih => exact ih (m.put p.1 p.2)

theorem find?_override (base top : TextMap) (key : String) :
    (base.override top).find? key = (top.find? key).or (base.find? key) := by
  have hlast : top.entries.reverse.lookup key = top.find? key := by
    rw [← Dictionary.find?_ofPairs, Dictionary.ofPairs_of_ordered top.ordered, find?]
  show Dictionary.find? key (base.override top).entries = _
  rw [override, foldl_put_entries, Dictionary.find?_foldl_put, hlast]
  rfl

theorem find?_ofPairs (key : String) (pairs : List (String × String)) :
    (ofPairs pairs).find? key = pairs.reverse.lookup key :=
  Dictionary.find?_ofPairs key pairs

theorem ofPairs_append (front back : List (String × String)) :
    ofPairs (front ++ back) = (ofPairs front).override (ofPairs back) := by
  refine ext fun key => ?_
  rw [find?_override, find?_ofPairs, find?_ofPairs, find?_ofPairs, List.reverse_append,
    List.lookup_append]

end RequestDispatch.TextMap
