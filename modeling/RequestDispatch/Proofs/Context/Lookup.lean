import RequestDispatch.Proofs.Context.History

/-!
# What look-ups answer, before and after a change

`Store.Reaches s key u w`: a look-up of the key from `u` comes as far as `w`, past units that do not
hold the key.

* `get_eq_ok_iff`, `get_eq_keyNotFound_iff`, `get_eq_unknownUnit_iff`: when a look-up gives a value
  and when each of its faults.
* `get_set_of_reaches`, `get_set_of_not_reaches`: a write is seen by the look-ups of its key that
  come as far as its unit, and by no others.
* `get_release`: a release is seen only where its unit stood in the chain.
* `Ledger.Reached.nearest_holder`: all of this for the stores that operations lead to.
-/

set_option autoImplicit false

namespace RequestDispatch.Context

namespace Store

variable {s s' : Store} {u w : UnitId} {us : List UnitId} {key : String} {value : Json}

/-- A look-up of the key from `u` comes as far as `w`. -/
def Reaches (s : Store) (key : String) (u w : UnitId) : Prop :=
  ∃ before after, s.chain u = before ++ w :: after ∧ ∀ x ∈ before, s.own? key x = none

/-! ## Look-ups -/

theorem Climbs.contains_iff (h : s.Climbs u us) : s.contains u = true ↔ us ≠ [] := by
  cases h with
  | gone hu => simp [contains, hu]
  | top hu => simp [contains, hu]
  | up hu => simp [contains, hu]

theorem get_eq_unknownUnit_iff (h : s.Climbs u us) :
    s.get u key = .error (.unknownUnit w) ↔ s.contains u = false ∧ w = u := by
  rw [h.get_eq]
  cases s.contains u with
  | true => cases us.findSome? (s.own? key) <;> simp [found]
  | false => simp [eq_comm]

theorem get_eq_ok_iff (h : s.Climbs u us) :
    s.get u key = .ok value ↔ ∃ w, s.Reaches key u w ∧ s.own? key w = some value := by
  have hget : s.get u key = .ok value ↔ us.findSome? (s.own? key) = some value := by
    rw [h.get_eq]
    cases hu : s.contains u with
    | true => cases us.findSome? (s.own? key) <;> simp [found]
    | false =>
      have hnil : us = [] := by simpa [hu] using h.contains_iff
      simp [hnil]
  rw [hget, List.findSome?_eq_some_iff]
  unfold Reaches
  rw [h.chain_eq]
  constructor
  · rintro ⟨before, w, after, hus, hw, hbefore⟩
    exact ⟨w, ⟨before, after, hus, hbefore⟩, hw⟩
  · rintro ⟨w, ⟨before, after, hus, hbefore⟩, hw⟩
    exact ⟨before, w, after, hus, hw, hbefore⟩

theorem get_eq_keyNotFound_iff (h : s.Climbs u us) {key' : String} :
    s.get u key = .error (.keyNotFound key') ↔
      s.contains u = true ∧ (∀ w ∈ us, s.own? key w = none) ∧ key' = key := by
  rw [h.get_eq]
  cases s.contains u with
  | true =>
    cases hfind : us.findSome? (s.own? key) with
    | some v =>
      obtain ⟨w, hw, hv⟩ := List.exists_of_findSome?_eq_some hfind
      simp only [found, if_true, reduceCtorEq, true_and, false_iff]
      rintro ⟨hnone, -⟩
      cases (hnone w hw).symm.trans hv
    | none =>
      have hnone := List.findSome?_eq_none_iff.1 hfind
      simp only [found, if_true, Except.error.injEq, Fault.keyNotFound.injEq, true_and]
      exact ⟨fun he => ⟨hnone, he.symm⟩, fun he => he.2.symm⟩
  | false => simp

/-! ## Writes -/

theorem Climbs.set (h : s.Climbs u us) (hs : s.set w key value = .ok s') : s'.Climbs u us := by
  induction h with
  | gone hu => exact .gone (by rw [node?_set hs, hu, Option.map_none])
  | top hu hp =>
    refine .top (by rw [node?_set hs, hu, Option.map_some]) ?_
    split <;> exact hp
  | up hu hp _ ih =>
    refine .up (by rw [node?_set hs, hu, Option.map_some]) ?_ ih
    split <;> exact hp

theorem contains_set (hs : s.set w key value = .ok s') (u : UnitId) :
    s'.contains u = s.contains u := by
  rw [contains, node?_set hs, Option.isSome_map]
  rfl

theorem own?_set_self (hs : s.set w key value = .ok s') : s'.own? key w = some value := by
  have hlive : s.contains w = true := by
    cases hw : s.contains w with
    | true => rfl
    | false =>
      rw [set_eq_error hw] at hs
      cases hs
  obtain ⟨node, hnode⟩ := Option.isSome_iff_exists.1 hlive
  rw [own?, node?_set hs, hnode, Option.map_some, if_pos rfl, Option.bind_some]
  exact Dictionary.find?_put_self key value node.values

theorem own?_set_of_ne (hs : s.set w key value = .ok s') {key' : String} {x : UnitId}
    (h : key' = key → x ≠ w) : s'.own? key' x = s.own? key' x := by
  rw [own?, node?_set hs, own?]
  cases s.node? x with
  | none => rfl
  | some node =>
    simp only [Option.map_some, Option.bind_some]
    split
    · rename_i hx
      exact Dictionary.find?_put_of_ne (fun hk => h hk hx) value node.values
    · rfl

/-- A write is seen by every look-up of its key that comes as far as its unit. -/
theorem get_set_of_reaches (h : s.Climbs u us) (hs : s.set w key value = .ok s')
    (hw : s.Reaches key u w) : s'.get u key = .ok value := by
  obtain ⟨before, after, hchain, hbefore⟩ := hw
  have hnodup := h.nodup
  rw [h.chain_eq] at hchain
  rw [hchain] at hnodup
  have hother : ∀ x ∈ before, x ≠ w := fun x hx =>
    (List.nodup_append.1 hnodup).2.2 x hx w (.head _)
  refine (get_eq_ok_iff (h.set hs)).2 ⟨w, ⟨before, after, ?_, fun x hx => ?_⟩, own?_set_self hs⟩
  · rw [(h.set hs).chain_eq, hchain]
  · rw [own?_set_of_ne hs fun _ => hother x hx]
    exact hbefore x hx

/-- A walk that a write is not met on: every unit at which it could be met stands behind one that
holds the key. -/
theorem findSome?_set (hs : s.set w key value = .ok s')
    (h : ∀ before after, us = before ++ w :: after → ∃ x ∈ before, s.own? key x ≠ none) :
    us.findSome? (s'.own? key) = us.findSome? (s.own? key) := by
  induction us with
  | nil => rfl
  | cons x us ih =>
    have hx : x ≠ w := by
      rintro rfl
      obtain ⟨y, hy, -⟩ := h [] us rfl
      cases hy
    rw [List.findSome?_cons, List.findSome?_cons, own?_set_of_ne hs fun _ => hx]
    cases hown : s.own? key x with
    | some v => rfl
    | none =>
      refine ih fun before after hus => ?_
      obtain ⟨y, hy, hheld⟩ := h (x :: before) after (congrArg (x :: ·) hus)
      rcases List.mem_cons.1 hy with rfl | hy
      · exact absurd hown hheld
      · exact ⟨y, hy, hheld⟩

/-- A write is seen by no other look-up. -/
theorem get_set_of_not_reaches (h : s.Climbs u us) (hs : s.set w key value = .ok s')
    {key' : String} (hw : ¬ (key' = key ∧ s.Reaches key u w)) : s'.get u key' = s.get u key' := by
  rw [(h.set hs).get_eq, h.get_eq, contains_set hs]
  by_cases hk : key' = key
  · subst key'
    have hfind : us.findSome? (s'.own? key) = us.findSome? (s.own? key) := by
      refine findSome?_set hs fun before after hus => Classical.byContradiction fun hnone => ?_
      refine hw ⟨rfl, before, after, h.chain_eq.trans hus, fun x hx => ?_⟩
      exact Classical.byContradiction fun hx' => hnone ⟨x, hx, hx'⟩
    rw [hfind]
  · have hown : s'.own? key' = s.own? key' :=
      funext fun x => own?_set_of_ne hs fun he => absurd he hk
    rw [hown]

/-! ## Releases -/

theorem own?_release {x : UnitId} (h : x ≠ w) : (s.release w).2.own? key x = s.own? key x := by
  rw [own?, node?_release, if_neg fun he => h he.1]
  rfl

theorem Climbs.release (h : s.Climbs u us) (hw : w ∉ us) : (s.release w).2.Climbs u us := by
  induction h with
  | gone hu =>
    refine .gone ?_
    rw [node?_release]
    split
    · rfl
    · exact hu
  | top hu hp =>
    refine .top ?_ hp
    rw [node?_release, if_neg fun he => hw (by simp [he.1])]
    exact hu
  | up hu hp _ ih =>
    refine .up ?_ hp (ih fun hm => hw (.tail _ hm))
    rw [node?_release, if_neg fun he => hw (by simp [he.1])]
    exact hu

/-- A release is seen by no look-up whose chain the unit did not stand in. -/
theorem get_release (h : s.Climbs u us) (hw : w ∉ us) (key : String) :
    (s.release w).2.get u key = s.get u key := by
  have hafter := h.release hw
  have hlive : (s.release w).2.contains u = s.contains u :=
    Bool.eq_iff_iff.2 (hafter.contains_iff.trans h.contains_iff.symm)
  have hfind : us.findSome? ((s.release w).2.own? key) = us.findSome? (s.own? key) := by
    have hown : us.map ((s.release w).2.own? key) = us.map (s.own? key) := by
      refine List.map_congr_left fun x hx => own?_release ?_
      rintro rfl
      exact hw hx
    have hfind := congrArg (List.findSome? id) hown
    rw [List.findSome?_map, List.findSome?_map] at hfind
    exact hfind
  rw [hafter.get_eq, h.get_eq, hlive, hfind]

end Store

/-! ## Stores that operations lead to -/

namespace Ledger

/-- A look-up gives the value of the nearest unit that holds the key; a write is seen by just those
look-ups of its key that come as far as its unit; a release is seen only from below; and there is
nothing to see where the unit is not live or the root is released. -/
theorem Reached.nearest_holder {l : Ledger} (h : l.Reached) :
    (∀ u, l.store.Climbs u (l.store.chain u)) ∧
    (∀ u key, (∀ w, l.store.get u key = .error (.unknownUnit w) ↔
        l.store.contains u = false ∧ w = u) ∧
      (∀ value, l.store.get u key = .ok value ↔
        ∃ w, l.store.Reaches key u w ∧ l.store.own? key w = some value) ∧
      (l.store.get u key = .error (.keyNotFound key) ↔
        l.store.contains u = true ∧ ∀ w ∈ l.store.chain u, l.store.own? key w = none)) ∧
    (∀ w key value, l.store.contains w = true →
      ∃ s, (Op.set w.number key value).run UnitId.mk l.store = (.set (.ok ()), s) ∧
        ∀ u key', (key' = key ∧ l.store.Reaches key u w → s.get u key' = .ok value) ∧
          (¬ (key' = key ∧ l.store.Reaches key u w) → s.get u key' = l.store.get u key')) ∧
    (∀ w key value, l.store.contains w = false →
      (Op.set w.number key value).run UnitId.mk l.store =
        (.set (.error (.unknownUnit w)), l.store)) ∧
    (∀ w u, w ∉ l.store.chain u → ∀ key, (l.store.release w).2.get u key = l.store.get u key) ∧
    l.store.release .root = (false, l.store) := by
  have hclimbs := h.sound.rising.climbs_chain
  refine ⟨hclimbs, fun u key => ⟨fun w => Store.get_eq_unknownUnit_iff (hclimbs u),
    fun value => Store.get_eq_ok_iff (hclimbs u), ?_⟩, fun w key value hw => ?_,
    fun w key value hw => ?_, fun w u hw key => Store.get_release (hclimbs u) hw key, rfl⟩
  · rw [Store.get_eq_keyNotFound_iff (hclimbs u)]
    simp
  · obtain ⟨s, hs⟩ := Store.set_eq_ok hw key value
    refine ⟨s, by simp only [Op.run, hs], fun u key' => ⟨?_, fun hn => ?_⟩⟩
    · rintro ⟨rfl, hr⟩
      exact Store.get_set_of_reaches (hclimbs u) hs hr
    · exact Store.get_set_of_not_reaches (hclimbs u) hs hn
  · simp only [Op.run, Store.set_eq_error hw]

/-- A unit that holds a key, one below it, and one below a third that is released; the middle unit
then takes a value of its own. -/
theorem nearest_holder_orphans : orphans.Reached ∧ orphans.store.contains ⟨2⟩ = true ∧
    ∃ s, (Op.set 2 "k" (.bool true)).run UnitId.mk orphans.store = (.set (.ok ()), s) ∧
      s.get ⟨2⟩ "k" = .ok (.bool true) ∧ s.get ⟨3⟩ "k" = orphans.store.get ⟨3⟩ "k" := by
  have h : orphans.Reached := reached_orphans
  obtain ⟨-, -, hset, -⟩ := Reached.nearest_holder h
  obtain ⟨s, hs, hget⟩ := hset ⟨2⟩ "k" (.bool true) rfl
  refine ⟨h, rfl, s, hs, (hget ⟨2⟩ "k").1 ⟨rfl, [], [], rfl, by simp⟩, (hget ⟨3⟩ "k").2 ?_⟩
  rintro ⟨-, before, after, hchain, -⟩
  have hmem : (⟨2⟩ : UnitId) ∈ orphans.store.chain ⟨3⟩ := hchain ▸ by simp
  exact absurd hmem (by decide)

end Ledger

end RequestDispatch.Context
