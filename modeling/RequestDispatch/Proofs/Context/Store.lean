import RequestDispatch.Context.Store
import RequestDispatch.Proofs.Lookup

/-!
# What a store holds after each of its operations

`Store.node?` is the view of a store: each operation is described by what it does to it.

* `node?_newUnit`, `node?_set`, `node?_release`: one equation for each operation.
* `Numbered`: the ids of live units have been given out. Every store that operations lead to is
  numbered and has its root at the top (`Reachable.numbered`, `Reachable.root`).
* `Climbs u us`: the walk from `u` upward meets the live units `us` and ends there. A walk that
  ends is what `chain` gives (`Climbs.chain_eq`), although `chain` counts its steps.
-/

set_option autoImplicit false

namespace RequestDispatch.Context.Store

/-! ## The view after an operation -/

/-- The ids of live units are below the next one. -/
def Numbered (s : Store) : Prop := ∀ p ∈ s.nodes, p.1.number < s.next

theorem mem_of_node? {s : Store} {u : UnitId} {node : Node} (h : s.node? u = some node) :
    (u, node) ∈ s.nodes := mem_of_lookup h

theorem contains_of_node? {s : Store} {u : UnitId} {node : Node} (h : s.node? u = some node) :
    s.contains u = true := by rw [contains, h, Option.isSome_some]

theorem Numbered.lt {s : Store} (h : s.Numbered) {u : UnitId} {node : Node}
    (hu : s.node? u = some node) : u.number < s.next := h _ (mem_of_node? hu)

theorem Numbered.node?_fresh {s : Store} (h : s.Numbered) {u : UnitId} (hu : s.next ≤ u.number) :
    s.node? u = none := by
  cases hn : s.node? u with
  | none => rfl
  | some node => exact absurd (h.lt hn) (Nat.not_lt.2 hu)

theorem node?_newUnit {s : Store} (h : s.Numbered) (parent : Option UnitId) (u : UnitId) :
    (s.newUnit parent).2.node? u =
      if u = ⟨s.next⟩ then some ⟨some (parent.getD .root), []⟩ else s.node? u := by
  have hnew : (s.newUnit parent).2.node? u =
      (s.node? u).or ([(⟨s.next⟩, ⟨some (parent.getD .root), []⟩)].lookup u) := List.lookup_append
  rw [hnew]
  split
  · rename_i hu
    rw [h.node?_fresh (hu ▸ Nat.le_refl _), hu]
    simp
  · rename_i hu
    rw [List.lookup_cons, beq_eq_false_iff_ne.2 hu, List.lookup_nil, Option.or_none]

theorem node?_set {s s' : Store} {u : UnitId} {key : String} {value : Json}
    (h : s.set u key value = .ok s') (w : UnitId) :
    s'.node? w = (s.node? w).map fun node => if w = u then
      { node with values := Dictionary.put key value node.values } else node := by
  unfold set at h
  split at h
  · obtain rfl := Except.ok.inj h
    refine Eq.trans (congrArg (List.lookup w) (List.map_congr_left fun p _ => ?_))
      (lookup_map_snd (fun w node => if w = u then
        { node with values := Dictionary.put key value node.values } else node) w s.nodes)
    split <;> rfl
  · simp at h

theorem node?_release (s : Store) (u w : UnitId) :
    (s.release u).2.node? w = if w = u ∧ u ≠ .root then none else s.node? w := by
  unfold release
  split
  · rename_i hu
    rw [if_neg fun h => h.2 hu]
  · rename_i hu
    rw [node?, lookup_filter_fst (fun w => decide (w ≠ u))]
    by_cases hw : w = u <;> simp [hw, hu, node?]

theorem set_eq_ok {s : Store} {u : UnitId} (h : s.contains u = true) (key : String)
    (value : Json) : ∃ s', s.set u key value = .ok s' := by
  simp [set, h]

theorem set_eq_error {s : Store} {u : UnitId} (h : s.contains u = false) (key : String)
    (value : Json) : s.set u key value = .error (.unknownUnit u) := by
  simp [set, h]

theorem next_set {s s' : Store} {u : UnitId} {key : String} {value : Json}
    (h : s.set u key value = .ok s') : s'.next = s.next := by
  unfold set at h
  split at h
  · rw [← Except.ok.inj h]
  · simp at h

theorem next_release (s : Store) (u : UnitId) : (s.release u).2.next = s.next := by
  unfold release
  split <;> rfl

theorem release_fst {s : Store} {u : UnitId} (h : u ≠ .root) :
    (s.release u).1 = s.contains u := by
  simp [release, h]

/-! ## Stores that operations lead to -/

/-- The stores that operations lead to from the first one. -/
inductive Reachable : Store → Prop
  | first : Reachable {}
  | newUnit {s : Store} (parent : Option UnitId) : Reachable s → Reachable (s.newUnit parent).2
  | set {s s' : Store} {u : UnitId} {key : String} {value : Json} :
      Reachable s → s.set u key value = .ok s' → Reachable s'
  | release {s : Store} (u : UnitId) : Reachable s → Reachable (s.release u).2

theorem Numbered.newUnit {s : Store} (h : s.Numbered) (parent : Option UnitId) :
    (s.newUnit parent).2.Numbered := by
  intro p hp
  rcases List.mem_append.1 hp with hp | hp
  · exact Nat.lt_succ_of_lt (h p hp)
  · rw [List.mem_singleton.1 hp]
    exact Nat.lt_succ_self _

theorem Numbered.set {s s' : Store} (h : s.Numbered) {u : UnitId} {key : String} {value : Json}
    (hs : s.set u key value = .ok s') : s'.Numbered := by
  unfold Store.set at hs
  split at hs
  · obtain rfl := Except.ok.inj hs
    intro p hp
    obtain ⟨q, hq, rfl⟩ := List.mem_map.1 hp
    have hlt := h q hq
    split <;> exact hlt
  · simp at hs

theorem Numbered.release {s : Store} (h : s.Numbered) (u : UnitId) :
    (s.release u).2.Numbered := by
  unfold Store.release
  split
  · exact h
  · exact fun p hp => h p (List.mem_filter.1 hp).1

theorem Reachable.numbered {s : Store} (h : s.Reachable) : s.Numbered := by
  induction h with
  | first =>
    intro p hp
    rw [List.mem_singleton.1 hp]
    exact Nat.lt_succ_self _
  | newUnit parent _ ih => exact ih.newUnit parent
  | set _ hs ih => exact ih.set hs
  | release u _ ih => exact ih.release u

theorem root_ne_fresh {s : Store} (hroot : (s.node? .root).isSome) (h : s.Numbered) :
    UnitId.root ≠ ⟨s.next⟩ := by
  intro he
  rw [h.node?_fresh (he ▸ Nat.le_refl _)] at hroot
  simp at hroot

/-- The root is live and has nothing above it. -/
theorem Reachable.root {s : Store} (h : s.Reachable) :
    ∃ values, s.node? .root = some ⟨none, values⟩ := by
  induction h with
  | first => exact ⟨[], rfl⟩
  | @newUnit s parent hs ih =>
    obtain ⟨values, hv⟩ := ih
    refine ⟨values, ?_⟩
    rw [node?_newUnit hs.numbered, if_neg (root_ne_fresh (by simp [hv]) hs.numbered), hv]
  | @set s s' u key value _ hs ih =>
    obtain ⟨values, hv⟩ := ih
    rw [node?_set hs, hv, Option.map_some]
    split
    · exact ⟨_, rfl⟩
    · exact ⟨_, rfl⟩
  | release u _ ih =>
    obtain ⟨values, hv⟩ := ih
    refine ⟨values, ?_⟩
    rw [node?_release, if_neg fun h => h.2 h.1.symm, hv]

/-- What is known of a unit that stands right below the root. -/
theorem Reachable.below_root {s : Store} (h : s.Reachable) {u : UnitId}
    (hu : s.parent? u = some .root) :
    (∃ values, s.node? u = some ⟨some .root, values⟩) ∧ u.number < s.next ∧ u ≠ .root := by
  unfold parent? at hu
  obtain ⟨⟨parent, values⟩, hnode, hparent⟩ := Option.bind_eq_some_iff.1 hu
  obtain rfl : parent = some .root := hparent
  refine ⟨⟨values, hnode⟩, h.numbered.lt hnode, ?_⟩
  rintro rfl
  obtain ⟨top, hroot⟩ := h.root
  simp [hroot] at hnode

/-! ## Walks upward -/

/-- A walk from a unit upward meets these live units, and ends. -/
inductive Climbs (s : Store) : UnitId → List UnitId → Prop
  | gone {u : UnitId} : s.node? u = none → Climbs s u []
  | top {u : UnitId} {node : Node} : s.node? u = some node → node.parent = none → Climbs s u [u]
  | up {u p : UnitId} {node : Node} {us : List UnitId} :
      s.node? u = some node → node.parent = some p → Climbs s p us → Climbs s u (u :: us)

namespace Climbs

variable {s : Store} {u : UnitId} {us vs : List UnitId}

theorem unique (h : s.Climbs u us) (h' : s.Climbs u vs) : us = vs := by
  induction h generalizing vs with
  | gone hu =>
    cases h' with
    | gone => rfl
    | top hv => simp [hu] at hv
    | up hv => simp [hu] at hv
  | top hu hp =>
    cases h' with
    | gone hv => simp [hu] at hv
    | top => rfl
    | up hv hq =>
      obtain rfl := Option.some.inj (hu.symm.trans hv)
      simp [hp] at hq
  | up hu hp _ ih =>
    cases h' with
    | gone hv => simp [hu] at hv
    | top hv hq =>
      obtain rfl := Option.some.inj (hu.symm.trans hv)
      simp [hp] at hq
    | up hv hq hrest =>
      obtain rfl := Option.some.inj (hu.symm.trans hv)
      obtain rfl := Option.some.inj (hp.symm.trans hq)
      rw [ih hrest]

theorem live (h : s.Climbs u us) : ∀ w ∈ us, ∃ node, s.node? w = some node := by
  induction h with
  | gone => simp
  | top hu _ => simpa using ⟨_, hu⟩
  | up hu _ _ ih =>
    intro w hw
    rcases List.mem_cons.1 hw with rfl | hw
    · exact ⟨_, hu⟩
    · exact ih w hw

/-- What is left of a walk where it meets a unit is the walk from there. -/
theorem exists_of_mem (h : s.Climbs u us) {w : UnitId} (hw : w ∈ us) :
    ∃ vs, s.Climbs w vs ∧ vs.length ≤ us.length := by
  induction h with
  | gone => simp at hw
  | top hu hp =>
    obtain rfl := List.mem_singleton.1 hw
    exact ⟨_, .top hu hp, Nat.le_refl _⟩
  | up hu hp hrest ih =>
    rcases List.mem_cons.1 hw with rfl | hw
    · exact ⟨_, .up hu hp hrest, Nat.le_refl _⟩
    · obtain ⟨vs, hvs, hlen⟩ := ih hw
      exact ⟨vs, hvs, Nat.le_succ_of_le hlen⟩

/-- A walk that ends does not meet a unit twice: it would go round for ever. -/
theorem nodup (h : s.Climbs u us) : us.Nodup := by
  induction h with
  | gone => exact List.Pairwise.nil
  | top => simp
  | @up u p node us hu hp hrest ih =>
    refine List.nodup_cons.2 ⟨fun hm => ?_, ih⟩
    obtain ⟨vs, hvs, hlen⟩ := hrest.exists_of_mem hm
    rw [(Climbs.up hu hp hrest).unique hvs |>.symm] at hlen
    exact absurd hlen (Nat.not_succ_le_self _)

theorem chainFrom_eq (h : s.Climbs u us) : ∀ {n : Nat}, us.length ≤ n → s.chainFrom n u = us := by
  induction h with
  | gone hu =>
    intro n _
    cases n with
    | zero => rfl
    | succ n => simp [chainFrom, hu]
  | top hu hp =>
    intro n hn
    obtain ⟨n, rfl⟩ : ∃ m, n = m + 1 := ⟨n - 1, by simp at hn; omega⟩
    simp [chainFrom, hu, hp]
  | up hu hp _ ih =>
    intro n hn
    obtain ⟨n, rfl⟩ : ∃ m, n = m + 1 := ⟨n - 1, by simp at hn; omega⟩
    simp only [chainFrom, hu, hp]
    rw [ih (by simpa using hn)]

/-- There are enough steps for any walk that ends. -/
theorem chain_eq (h : s.Climbs u us) : s.chain u = us := by
  refine h.chainFrom_eq ?_
  have hsub : us ⊆ s.nodes.map Prod.fst := fun w hw => by
    obtain ⟨node, hnode⟩ := h.live w hw
    exact List.mem_map.2 ⟨_, mem_of_node? hnode, rfl⟩
  simpa using h.nodup.length_le_of_subset hsub

end Climbs

end RequestDispatch.Context.Store
