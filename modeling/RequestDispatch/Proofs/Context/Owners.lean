import RequestDispatch.Context.Handle
import RequestDispatch.Proofs.Context.History

/-!
# Units and the handles to them

`Settled us handles`: the store of `us` has the root and the units of its owners, each owner counts
the handles to its unit, and a unit that nothing holds is gone. Each operation on handles keeps this
(`Settled.child`, `Settled.clone`, `Settled.drop`, `Settled.set`).

A drop may take a whole chain away. Between two units of it nothing is out of step but the one that
comes next: `Tracks` is `Settled` without its last part, and `settle_settled` goes up the chain with
at most one free unit at any time. A unit with an owner is held by a handle or by a unit below it, and
`Settled.owner_induction` is the induction that this allows, from the handles towards the root.
-/

set_option autoImplicit false

namespace RequestDispatch.Context.Units

/-- The units that have an owner, with the units above them. -/
def pairs (us : Units) : List (UnitId × UnitId) := us.owners.map fun o => (o.unit, o.parent)

/-- The units that a store should have. -/
def units (us : Units) : List UnitId := .root :: us.pairs.map Prod.fst

/-- The store has the units of the owners, and the owners count these handles. -/
structure Tracks (us : Units) (handles : List UnitId) : Prop where
  rising : us.store.Rising
  nodes : (us.store.nodes.map fun p => (p.1, p.2.parent)) =
    (.root, none) :: us.pairs.map fun p => (p.1, some p.2)
  nodup : us.units.Nodup
  parent : ∀ p ∈ us.pairs, p.2 ∈ us.units
  count : ∀ o ∈ us.owners, o.handles = handles.count o.unit
  handle : ∀ u ∈ handles, u ∈ us.units

/-- And every unit with an owner is held by a handle or by a unit below it. -/
structure Settled (us : Units) (handles : List UnitId) : Prop extends Tracks us handles where
  busy : ∀ o ∈ us.owners, us.isFree o = false

variable {us : Units} {handles : List UnitId} {u v : UnitId} {o : Owner}

theorem mem_pairs (ho : o ∈ us.owners) : (o.unit, o.parent) ∈ us.pairs :=
  List.mem_map_of_mem (f := fun o : Owner => (o.unit, o.parent)) ho

theorem mem_units (ho : o ∈ us.owners) : o.unit ∈ us.units :=
  .tail _ (List.mem_map_of_mem (f := Prod.fst) (mem_pairs ho))

theorem mem_units_iff : u ∈ us.units ↔ u = .root ∨ ∃ o ∈ us.owners, o.unit = u := by
  simp [units, pairs]

theorem isFree_iff :
    us.isFree o = true ↔ o.handles = 0 ∧ ∀ v, (v, o.unit) ∉ us.pairs := by
  simp only [isFree, pairs, Bool.and_eq_true, decide_eq_true_eq, List.all_eq_true, List.mem_map,
    Prod.mk.injEq, not_exists, not_and]
  exact and_congr_right fun _ => ⟨fun h v c hc _ => h c hc, fun h c hc => h _ c hc rfl⟩

theorem isFree_eq_false_iff :
    us.isFree o = false ↔ o.handles ≠ 0 ∨ ∃ v, (v, o.unit) ∈ us.pairs := by
  rw [← Bool.not_eq_true, isFree_iff]
  by_cases h : o.handles = 0 <;> simp [h]

/-! ## The store beside its owners -/

namespace Tracks

theorem contains_iff (h : Tracks us handles) : us.store.contains u = true ↔ u ∈ us.units := by
  have hkeys : us.store.nodes.map Prod.fst = us.units := by
    have := congrArg (List.map Prod.fst) h.nodes
    simpa [Function.comp_def, units] using this
  rw [← hkeys, Store.contains, Store.node?, List.lookup_isSome_iff, List.mem_map]
  exact exists_congr fun p => and_congr_right fun _ => beq_iff_eq.trans eq_comm

theorem contains_root (h : Tracks us handles) : us.store.contains .root = true :=
  h.contains_iff.2 (.head _)

theorem size (h : Tracks us handles) : us.store.size = 1 + us.pairs.length := by
  have hlength := congrArg List.length h.nodes
  simp only [List.length_map, List.length_cons] at hlength
  rw [Store.size, hlength, Nat.add_comm]

theorem ne_root (h : Tracks us handles) (ho : o ∈ us.owners) : o.unit ≠ .root := by
  intro heq
  refine (List.nodup_cons.1 h.nodup).1 ?_
  rw [← heq]
  exact List.mem_map_of_mem (f := Prod.fst) (mem_pairs ho)

theorem owner_unique (h : Tracks us handles) {p : Owner} (ho : o ∈ us.owners)
    (hp : p ∈ us.owners) (heq : o.unit = p.unit) : o = p := by
  have hfind : ∀ q ∈ us.owners, (us.owners.map fun q => (q.unit, q)).lookup q.unit = some q := by
    intro q hq
    refine lookup_of_mem ?_ (List.mem_map_of_mem (f := fun q : Owner => (q.unit, q)) hq)
    simpa [units, pairs, Function.comp_def] using (List.nodup_cons.1 h.nodup).2
  have ho' := hfind o ho
  rw [heq, hfind p hp] at ho'
  exact (Option.some.inj ho').symm

theorem parent?_eq (h : Tracks us handles) (ho : o ∈ us.owners) :
    us.store.parent? o.unit = some o.parent := by
  have hkeys : ((.root, none) :: us.pairs.map fun p => (p.1, some p.2)).map Prod.fst =
      us.units := by simp [units, Function.comp_def]
  have hlink := lookup_of_mem (hkeys ▸ h.nodup)
    (.tail _ (List.mem_map_of_mem (f := fun p : UnitId × UnitId => (p.1, some p.2))
      (mem_pairs ho)))
  rw [← h.nodes, lookup_map_snd fun (_ : UnitId) (node : Node) => node.parent] at hlink
  obtain ⟨node, hnode, hparent⟩ := Option.map_eq_some_iff.1 hlink
  rw [Store.parent?, Store.node?, hnode, Option.bind_some, hparent]

theorem parent_lt (h : Tracks us handles) (ho : o ∈ us.owners) :
    o.parent.number < o.unit.number := h.rising.parent_lt (h.parent?_eq ho)

theorem lt_next (h : Tracks us handles) (hu : u ∈ us.units) : u.number < us.store.next := by
  obtain ⟨node, hnode⟩ := Option.isSome_iff_exists.1 (h.contains_iff.2 hu)
  exact h.rising.reachable.numbered.lt hnode

/-- From a live unit the walk upward comes to the root. -/
theorem climbs_to_root (h : Tracks us handles) (hu : u ∈ us.units) :
    ∃ walk, us.store.Climbs u walk ∧ walk.getLast? = some .root := by
  induction u using h.rising.wellFounded.induction with
  | h u ih =>
    rcases mem_units_iff.1 hu with rfl | ⟨o, ho, rfl⟩
    · obtain ⟨values, hroot⟩ := h.rising.reachable.root
      exact ⟨[.root], .top hroot rfl, rfl⟩
    · have hparent := h.parent?_eq ho
      obtain ⟨walk, hwalk, hlast⟩ := ih o.parent hparent (h.parent _ (mem_pairs ho))
      obtain ⟨node, hnode, hup⟩ := Option.bind_eq_some_iff.1 hparent
      refine ⟨o.unit :: walk, .up hnode hup hwalk, ?_⟩
      rw [List.getLast?_cons, hlast]
      rfl

end Tracks

/-! ## What a drop takes away -/

/-- Some units of `us` are gone in `us'`, and they are these. -/
structure Released (us us' : Units) (gone : List UnitId) : Prop where
  next : us'.store.next = us.store.next
  kept : us'.pairs ⊆ us.pairs
  perm : (gone ++ us'.pairs.map Prod.fst).Perm (us.pairs.map Prod.fst)

theorem Released.refl (us : Units) : Released us us [] := ⟨rfl, fun _ h => h, .refl _⟩

theorem Released.trans {us us' us'' : Units} {gone gone' : List UnitId}
    (h : Released us us' gone) (h' : Released us' us'' gone') :
    Released us us'' (gone ++ gone') := by
  refine ⟨h'.next.trans h.next, fun p hp => h.kept (h'.kept hp), ?_⟩
  rw [List.append_assoc]
  exact (h'.perm.append_left gone).trans h.perm

/-- A unit is taken away with its owner. -/
def remove (us : Units) (u : UnitId) : Units :=
  ⟨(us.store.release u).2, us.owners.filter fun o => o.unit ≠ u⟩

theorem pairs_remove (us : Units) (u : UnitId) :
    (us.remove u).pairs = us.pairs.filter fun p => p.1 ≠ u := by
  simp [pairs, remove, List.filter_map, Function.comp_def]

theorem map_fst_pairs_remove (us : Units) (u : UnitId) :
    (us.remove u).pairs.map Prod.fst = (us.pairs.map Prod.fst).filter (· ≠ u) := by
  simp [pairs_remove, List.filter_map, Function.comp_def]

theorem mem_units_remove (hu : u ≠ .root) : v ∈ (us.remove u).units ↔ v ∈ us.units ∧ v ≠ u := by
  rw [units, units, map_fst_pairs_remove, List.mem_cons, List.mem_cons, List.mem_filter,
    decide_eq_true_iff]
  constructor
  · rintro (rfl | ⟨hv, hne⟩)
    · exact ⟨.inl rfl, hu.symm⟩
    · exact ⟨.inr hv, hne⟩
  · rintro ⟨rfl | hv, hne⟩
    · exact .inl rfl
    · exact .inr ⟨hv, hne⟩

namespace Tracks

theorem remove (h : Tracks us handles) (ho : o ∈ us.owners) (hfree : us.isFree o = true) :
    Tracks (us.remove o.unit) handles := by
  have hne := h.ne_root ho
  obtain ⟨hzero, hbelow⟩ := isFree_iff.1 hfree
  refine ⟨h.rising.release _, ?_, ?_, fun p hp => ?_, fun c hc => ?_, fun v hv => ?_⟩
  · have hnodes := congrArg (List.filter fun p => p.1 ≠ o.unit) h.nodes
    rw [List.filter_map, List.filter_cons_of_pos (by simpa using hne.symm), List.filter_map]
      at hnodes
    rw [pairs_remove, Units.remove, Store.release, if_neg hne]
    exact hnodes
  · exact h.nodup.sublist (.cons_cons _ ((List.filter_sublist.map _).map _))
  · rw [pairs_remove] at hp
    have hmem := (List.mem_filter.1 hp).1
    refine (mem_units_remove hne).2 ⟨h.parent p hmem, fun heq => hbelow p.1 ?_⟩
    rw [← heq]
    exact hmem
  · exact h.count c (List.mem_filter.1 hc).1
  · refine (mem_units_remove hne).2 ⟨h.handle v hv, fun heq => ?_⟩
    rw [h.count o ho, ← heq, List.count_eq_zero] at hzero
    exact hzero hv

theorem released_remove (h : Tracks us handles) (ho : o ∈ us.owners) :
    Released us (us.remove o.unit) [o.unit] := by
  have hnodup := (List.nodup_cons.1 h.nodup).2
  refine ⟨Store.next_release _ _, ?_, ?_⟩
  · rw [pairs_remove]
    exact fun p hp => (List.mem_filter.1 hp).1
  · have hfilter : (us.pairs.map Prod.fst).filter (· ≠ o.unit) =
        (us.pairs.map Prod.fst).erase o.unit := by
      rw [hnodup.erase_eq_filter]
      refine List.filter_congr fun v _ => ?_
      by_cases hv : v = o.unit <;> simp [hv]
    rw [map_fst_pairs_remove, hfilter]
    exact (List.perm_cons_erase (List.mem_map_of_mem (f := Prod.fst) (mem_pairs ho))).symm

/-- When a free unit goes, its parent is the only one that may have become free. -/
theorem busy_remove (h : Tracks us handles) (ho : o ∈ us.owners)
    (hbusy : ∀ c ∈ us.owners, us.isFree c = true → c.unit = o.unit) :
    ∀ c ∈ (us.remove o.unit).owners, (us.remove o.unit).isFree c = true → c.unit = o.parent := by
  intro c hc hfree
  obtain ⟨hmem, hne⟩ := List.mem_filter.1 hc
  obtain ⟨hzero, hbelow⟩ := isFree_iff.1 hfree
  have hheld : us.isFree c = false := by
    cases hc' : us.isFree c with
    | false => rfl
    | true => simp [hbusy c hmem hc'] at hne
  rcases isFree_eq_false_iff.1 hheld with hhandles | ⟨v, hv⟩
  · exact absurd hzero hhandles
  · -- nothing is below `c` any more, so what was below it is the unit that went
    have hlast : v = o.unit := Classical.byContradiction fun hv' => hbelow v <| by
      rw [pairs_remove, List.mem_filter]
      exact ⟨hv, decide_eq_true hv'⟩
    obtain ⟨d, hd, hpair⟩ := List.mem_map.1 hv
    obtain ⟨hunit, hup⟩ := Prod.mk.inj hpair
    rw [← hup, h.owner_unique hd ho (hunit.trans hlast)]

end Tracks

section

variable {n : Nat} (hfind : us.owners.find? (fun o => o.unit = u) = some o)
include hfind

theorem settle_busy (hfree : us.isFree o = false) : settle (n + 1) u us = (us, []) := by
  simp [settle, hfind, hfree]

theorem settle_free (hfree : us.isFree o = true) (hlive : (us.store.release u).1 = true) :
    settle (n + 1) u us =
      ((settle n o.parent (us.remove u)).1, u :: (settle n o.parent (us.remove u)).2) := by
  simp [settle, hfind, hfree, hlive, remove]

end

theorem Tracks.settled (h : Tracks us handles)
    (hbusy : ∀ o ∈ us.owners, us.isFree o = true → o.unit = u)
    (hu : ∀ o ∈ us.owners, o.unit = u → us.isFree o = false) : Settled us handles := by
  refine ⟨h, fun o ho => ?_⟩
  cases hfree : us.isFree o with
  | false => rfl
  | true => exact hfree.symm.trans (hu o ho (hbusy o ho hfree))

/-- Going up from a unit leaves nothing free, if nothing else was free before. -/
theorem settle_settled {n : Nat} (h : Tracks us handles)
    (hbusy : ∀ o ∈ us.owners, us.isFree o = true → o.unit = u) (hn : us.pairs.length ≤ n) :
    Settled (settle n u us).1 handles ∧ Released us (settle n u us).1 (settle n u us).2 := by
  -- `n` stays enough for the units that are left: each step up takes one away
  induction n generalizing u us with
  | zero =>
    have hnil : us.owners = [] := by simpa [pairs] using hn
    exact ⟨⟨h, by simp [settle, hnil]⟩, .refl us⟩
  | succ n ih =>
    cases hfind : us.owners.find? fun o => o.unit = u with
    | none =>
      have hstop : settle (n + 1) u us = (us, []) := by simp only [settle, hfind]
      rw [hstop]
      refine ⟨h.settled hbusy fun o ho hunit => ?_, .refl us⟩
      exact absurd hunit (by simpa using List.find?_eq_none.1 hfind o ho)
    | some o =>
      have ho := List.mem_of_find?_eq_some hfind
      obtain rfl : o.unit = u := by simpa using List.find?_some hfind
      cases hfree : us.isFree o with
      | false =>
        rw [settle_busy hfind hfree]
        refine ⟨h.settled hbusy fun p hp hunit => ?_, .refl us⟩
        rw [h.owner_unique hp ho hunit, hfree]
      | true =>
        have hgone := h.released_remove ho
        have hlength : (us.remove o.unit).pairs.length ≤ n := by
          have := hgone.perm.length_eq
          simp only [List.length_append, List.length_map, List.length_singleton] at this
          omega
        have hlive : (us.store.release o.unit).1 = true :=
          (Store.release_fst (h.ne_root ho)).trans (h.contains_iff.2 (mem_units ho))
        obtain ⟨hsettled, hreleased⟩ :=
          ih (h.remove ho hfree) (h.busy_remove ho hbusy) hlength
        rw [settle_free hfind hfree hlive]
        exact ⟨hsettled, hgone.trans hreleased⟩

/-! ## Handles counted anew -/

/-- The handles to one unit are counted anew. -/
def recount (us : Units) (u : UnitId) (f : Nat → Nat) : Units :=
  { us with owners := us.owners.map fun o =>
      if o.unit = u then { o with handles := f o.handles } else o }

section

variable {f : Nat → Nat}

theorem mem_owners_recount (ho : o ∈ (us.recount u f).owners) :
    ∃ p ∈ us.owners, o.unit = p.unit ∧
      o.handles = if p.unit = u then f p.handles else p.handles := by
  obtain ⟨p, hp, rfl⟩ := List.mem_map.1 ho
  by_cases hu : p.unit = u
  · exact ⟨p, hp, by simp [hu], by simp [hu]⟩
  · exact ⟨p, hp, by simp [hu], by simp [hu]⟩

theorem pairs_recount (us : Units) (u : UnitId) (f : Nat → Nat) :
    (us.recount u f).pairs = us.pairs := by
  rw [pairs, recount, List.map_map]
  refine List.map_congr_left fun o _ => ?_
  rw [Function.comp_apply]
  split <;> rfl

theorem units_recount (us : Units) (u : UnitId) (f : Nat → Nat) :
    (us.recount u f).units = us.units := by rw [units, pairs_recount, units]

theorem Tracks.recount (h : Tracks us handles) {handles' : List UnitId}
    (hcount : ∀ v, handles'.count v = if v = u then f (handles.count v) else handles.count v)
    (hhandle : ∀ v ∈ handles', v ∈ us.units) : Tracks (us.recount u f) handles' := by
  refine ⟨h.rising, ?_, ?_, ?_, fun o ho => ?_, ?_⟩
  · rw [pairs_recount]
    exact h.nodes
  · rw [units_recount]
    exact h.nodup
  · rw [pairs_recount, units_recount]
    exact h.parent
  · obtain ⟨p, hp, hunit, hhandles⟩ := mem_owners_recount ho
    rw [hunit, hcount, hhandles, h.count p hp]
  · rw [units_recount]
    exact hhandle

/-- Only a unit whose last handle went may be free. -/
theorem Settled.isFree_recount (h : Settled us handles) (ho : o ∈ (us.recount u f).owners)
    (hfree : (us.recount u f).isFree o = true) : o.unit = u ∧ o.handles = 0 := by
  obtain ⟨hzero, hbelow⟩ := isFree_iff.1 hfree
  rw [pairs_recount] at hbelow
  obtain ⟨p, hp, hunit, hhandles⟩ := mem_owners_recount ho
  refine ⟨Classical.byContradiction fun hne => ?_, hzero⟩
  rw [if_neg (hunit ▸ hne), hzero] at hhandles
  rcases isFree_eq_false_iff.1 (h.busy p hp) with hheld | ⟨v, hv⟩
  · exact hheld hhandles.symm
  · exact hbelow v (hunit ▸ hv)

end

/-! ## The operations -/

theorem pairs_child (us : Units) (u : UnitId) :
    (us.child u).2.pairs = us.pairs ++ [(⟨us.store.next⟩, u)] := by
  simp [pairs, child, Store.newUnit]

namespace Settled

theorem first : Settled {} [] :=
  ⟨⟨.first, rfl, by simp [units, pairs], by simp [pairs], by simp, by simp⟩, by simp⟩

/-- Handles to the root are not counted. -/
theorem root (h : Settled us handles) : Settled us (.root :: handles) := by
  refine ⟨⟨h.rising, h.nodes, h.nodup, h.parent, fun o ho => ?_, fun u hu => ?_⟩, h.busy⟩
  · rw [List.count_cons_of_ne (h.ne_root ho).symm]
    exact h.count o ho
  · rcases List.mem_cons.1 hu with rfl | hu
    · exact .head _
    · exact h.handle u hu

theorem clone (h : Settled us handles) (hu : u ∈ us.units) :
    Settled (us.clone u) (u :: handles) := by
  refine ⟨h.recount (f := (· + 1)) (fun v => ?_) fun v hv => ?_, fun o ho => ?_⟩
  · by_cases hv : v = u
    · rw [hv, List.count_cons_self, if_pos rfl]
    · rw [List.count_cons_of_ne (Ne.symm hv), if_neg hv]
  · rcases List.mem_cons.1 hv with rfl | hv
    · exact hu
    · exact h.handle v hv
  · cases hfree : (us.clone u).isFree o with
    | false => rfl
    | true =>
      obtain ⟨hunit, hzero⟩ := h.isFree_recount (f := (· + 1)) ho hfree
      obtain ⟨p, -, hp, hhandles⟩ := mem_owners_recount (f := (· + 1)) ho
      rw [if_pos (hp.symm.trans hunit), hzero] at hhandles
      cases hhandles

theorem drop (h : Settled us handles) (u : UnitId) :
    Settled (us.drop u).1 (handles.erase u) ∧ Released us (us.drop u).1 (us.drop u).2 := by
  have hcounted : Tracks (us.recount u (· - 1)) (handles.erase u) := by
    refine h.recount (fun v => ?_) fun v hv => h.handle v (List.mem_of_mem_erase hv)
    by_cases hv : v = u
    · rw [hv, List.count_erase_self, if_pos rfl]
    · rw [List.count_erase_of_ne hv, if_neg hv]
  have hlength : (us.recount u (· - 1)).pairs.length = us.owners.length := by
    rw [pairs_recount, pairs, List.length_map]
  obtain ⟨hsettled, hnext, hkept, hperm⟩ := settle_settled hcounted
    (fun o ho hfree => (h.isFree_recount ho hfree).1) (Nat.le_of_eq hlength)
  rw [pairs_recount] at hkept hperm
  exact ⟨hsettled, hnext, hkept, hperm⟩

theorem set (h : Settled us handles) {key : String} {value : Json} {s : Store}
    (hs : us.store.set u key value = .ok s) : Settled { us with store := s } handles := by
  refine ⟨⟨h.rising.set hs, ?_, h.nodup, h.parent, h.count, h.handle⟩, h.busy⟩
  refine Eq.trans ?_ h.nodes
  unfold Store.set at hs
  split at hs
  · obtain rfl := Except.ok.inj hs
    rw [List.map_map]
    refine List.map_congr_left fun p _ => ?_
    rw [Function.comp_apply]
    split <;> rfl
  · cases hs

theorem child (h : Settled us handles) (hu : u ∈ us.units) :
    Settled (us.child u).2 ((us.child u).1 :: handles) := by
  have hfresh : (⟨us.store.next⟩ : UnitId) ∉ us.units := fun hm =>
    Nat.lt_irrefl _ (h.lt_next hm)
  have hunits : (us.child u).2.units = us.units ++ [⟨us.store.next⟩] := by
    rw [units, pairs_child, List.map_append]
    rfl
  refine ⟨⟨?_, ?_, ?_, fun p hp => ?_, fun o ho => ?_, fun v hv => ?_⟩, fun o ho => ?_⟩
  · exact h.rising.newUnit (h.lt_next hu)
  · rw [pairs_child, List.map_append, ← List.cons_append, ← h.nodes]
    simp [Units.child, Store.newUnit]
  · rw [hunits, List.nodup_append]
    refine ⟨h.nodup, by simp, ?_⟩
    rintro v hv w hw rfl
    exact hfresh (List.mem_singleton.1 hw ▸ hv)
  · rw [pairs_child] at hp
    rw [hunits, List.mem_append]
    rcases List.mem_append.1 hp with hp | hp
    · exact .inl (h.parent p hp)
    · exact .inl (List.mem_singleton.1 hp ▸ hu)
  · rcases List.mem_append.1 ho with ho | ho
    · have hne : o.unit ≠ ⟨us.store.next⟩ := fun heq => hfresh (heq ▸ mem_units ho)
      exact (h.count o ho).trans (List.count_cons_of_ne hne.symm).symm
    · obtain rfl := List.mem_singleton.1 ho
      have hzero : handles.count ⟨us.store.next⟩ = 0 :=
        List.count_eq_zero.2 fun hm => hfresh (h.handle _ hm)
      exact (congrArg (· + 1) hzero).symm.trans List.count_cons_self.symm
  · rw [hunits, List.mem_append]
    rcases List.mem_cons.1 hv with rfl | hv
    · exact .inr (.head _)
    · exact .inl (h.handle v hv)
  · rcases List.mem_append.1 ho with ho | ho
    · rcases isFree_eq_false_iff.1 (h.busy o ho) with hhandles | ⟨v, hv⟩
      · exact isFree_eq_false_iff.2 (.inl hhandles)
      · refine isFree_eq_false_iff.2 (.inr ⟨v, ?_⟩)
        rw [pairs_child]
        exact List.mem_append_left _ hv
    · obtain rfl := List.mem_singleton.1 ho
      exact isFree_eq_false_iff.2 (.inl Nat.one_ne_zero)

/-- A write does not matter to who holds what, whether or not it is lost. -/
theorem write (h : us.Settled handles) (u : UnitId) (key : String) (value : Json) :
    (us.set u key value).Settled handles := by
  unfold Units.set
  split
  · rename_i hset
    exact h.set hset
  · exact h

theorem writeAll (h : us.Settled handles) (u : UnitId) (pairs : List (String × Json)) :
    (pairs.foldl (fun us p => us.set u p.1 p.2) us).Settled handles := by
  induction pairs generalizing us with
  | nil => exact h
  | cons p pairs ih => exact ih (h.write u p.1 p.2)

theorem perm {handles' : List UnitId} (h : us.Settled handles) (hp : handles.Perm handles') :
    us.Settled handles' := by
  refine ⟨⟨h.rising, h.nodes, h.nodup, h.parent, fun o ho => ?_, fun u hu => ?_⟩, h.busy⟩
  · rw [h.count o ho, hp.count_eq]
  · exact h.handle u (hp.mem_iff.2 hu)

/-- As handles to the root are not counted, they may as well be forgotten. -/
theorem filter_root {outside : List UnitId} (h : us.Settled (handles ++ outside)) :
    us.Settled (handles.filter (· ≠ .root) ++ outside) := by
  refine ⟨⟨h.rising, h.nodes, h.nodup, h.parent, fun o ho => ?_, fun u hu => h.handle u ?_⟩, h.busy⟩
  · rw [h.count o ho, List.count_append, List.count_append, List.count_filter]
    simpa using h.ne_root ho
  · rcases List.mem_append.1 hu with hu | hu
    · exact List.mem_append_left _ (List.mem_filter.1 hu).1
    · exact List.mem_append_right _ hu

/-- What holds of all handles, and of a unit's parent if it holds of the unit, holds of all units
with an owner: something holds each of them, and there is a youngest unit. -/
theorem owner_induction (h : us.Settled handles) {P : UnitId → Prop}
    (handle : ∀ u ∈ handles, P u) (parent : ∀ o ∈ us.owners, P o.unit → P o.parent) :
    ∀ o ∈ us.owners, P o.unit := by
  intro o ho
  obtain ⟨n, hn⟩ : ∃ n, us.store.next - o.unit.number = n := ⟨_, rfl⟩
  induction n using Nat.strongRecOn generalizing o with
  | ind n ih =>
    rcases isFree_eq_false_iff.1 (h.busy o ho) with hhandles | ⟨v, hv⟩
    · rw [h.count o ho] at hhandles
      exact handle _ (List.count_pos_iff.1 (Nat.pos_of_ne_zero hhandles))
    · obtain ⟨c, hc, hpair⟩ := List.mem_map.1 hv
      obtain ⟨-, hparent⟩ := Prod.mk.inj hpair
      have hyounger := h.parent_lt hc
      have hgiven := h.lt_next (mem_units hc)
      rw [hparent] at hyounger
      rw [← hparent]
      exact parent c hc (ih _ (by omega) c hc rfl)

end Settled

/-! ## Stores behind units -/

section

variable (h : us.store.Reachable)
include h

theorem reachable_child (parent : UnitId) : (us.child parent).2.store.Reachable :=
  h.newUnit (some parent)

theorem reachable_set (u : UnitId) (key : String) (value : Json) :
    (us.set u key value).store.Reachable := by
  unfold set
  split
  · rename_i hs
    exact h.set hs
  · exact h

theorem reachable_settle (n : Nat) (u : UnitId) : (settle n u us).1.store.Reachable := by
  induction n generalizing u us with
  | zero => exact h
  | succ n ih =>
    unfold settle
    split
    · exact h
    · split
      · exact ih (h.release u) _
      · exact h

theorem reachable_drop (u : UnitId) : (us.drop u).1.store.Reachable := by
  have hcounted : (us.recount u (· - 1)).store.Reachable := h
  exact reachable_settle hcounted us.owners.length u

end

end RequestDispatch.Context.Units
