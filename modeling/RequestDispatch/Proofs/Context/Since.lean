import RequestDispatch.Proofs.Context.Owners

/-!
# Units since an earlier moment

Somebody works with units from some moment on, and uses no handle that was there before but those to
the root.

* `Since base top us`: this is how the units of `us` stand to those of `base`, the moment before.
  The root has the values `top`, and every other unit of that moment has what it had. Each operation
  keeps this (`Since.child`, `Since.set`, `Since.drop`).
* `Since.own_of_climbs`: from a unit that was opened since, a walk upward meets only such units and
  the root.
* `Since.node?_eq`: once all new handles are given up, the units are those of the moment before.
-/

set_option autoImplicit false

namespace RequestDispatch.Context

namespace Units

variable {us base : Units} {handles outside : List UnitId} {top : List (String × Json)}
  {u v : UnitId}

/-! ## What a drop leaves in the store -/

/-- Some units other than the root are gone, and that is all. -/
structure Fewer (us us' : Units) : Prop where
  next : us'.store.next = us.store.next
  root : us'.store.node? .root = us.store.node? .root
  node? : ∀ w node, us'.store.node? w = some node → us.store.node? w = some node

theorem Fewer.trans {us' us'' : Units} (h : Fewer us us') (h' : Fewer us' us'') : Fewer us us'' :=
  ⟨h'.next.trans h.next, h'.root.trans h.root, fun w node hw => h.node? w node (h'.node? w node hw)⟩

theorem fewer_remove (us : Units) (u : UnitId) : Fewer us (us.remove u) := by
  refine ⟨Store.next_release _ _, ?_, fun w node hw => ?_⟩
  · rw [remove, Store.node?_release, if_neg fun h => h.2 h.1.symm]
  · rw [remove, Store.node?_release] at hw
    split at hw
    · cases hw
    · exact hw

theorem fewer_settle (n : Nat) (us : Units) (u : UnitId) : Fewer us (settle n u us).1 := by
  induction n generalizing us u with
  | zero => exact ⟨rfl, rfl, fun _ _ hw => hw⟩
  | succ n ih =>
    unfold settle
    split
    · exact ⟨rfl, rfl, fun _ _ hw => hw⟩
    · split
      · exact (fewer_remove us u).trans (ih _ _)
      · exact ⟨rfl, rfl, fun _ _ hw => hw⟩

theorem fewer_drop (us : Units) (u : UnitId) : Fewer us (us.drop u).1 := by
  -- one handle less does not change the store
  obtain ⟨hnext, hroot, hnode⟩ := fewer_settle us.owners.length (us.recount u (· - 1)) u
  exact ⟨hnext, hroot, hnode⟩

/-! ## Since a moment -/

/-- The root, or a unit that was opened since. -/
def Own (base : Units) (u : UnitId) : Prop := u = .root ∨ base.store.next ≤ u.number

/-- What was done since was done to the root and to units opened since; the others are as they were,
as far as they are live. -/
structure Since (base : Units) (top : List (String × Json)) (us : Units) : Prop where
  next : base.store.next ≤ us.store.next
  root : us.store.node? .root = some ⟨none, top⟩
  old : ∀ u node, u ≠ .root → u.number < base.store.next → us.store.node? u = some node →
    base.store.node? u = some node
  parent : ∀ u node p, base.Own u → us.store.node? u = some node → node.parent = some p →
    base.Own p

namespace Since

theorem refl (h : base.Settled outside) (hroot : base.store.node? .root = some ⟨none, top⟩) :
    Since base top base := by
  refine ⟨Nat.le_refl _, hroot, fun _ _ _ _ hu => hu, fun u node p hu hnode hp => ?_⟩
  rcases hu with rfl | hu
  · cases hroot.symm.trans hnode
    cases hp
  · rw [h.rising.reachable.numbered.node?_fresh hu] at hnode
    cases hnode

theorem child (h : Since base top us) (hs : us.Settled handles) (hu : base.Own u) :
    Since base top (us.child u).2 ∧ base.Own (us.child u).1 := by
  have hnode := Store.node?_newUnit hs.rising.reachable.numbered (some u)
  have hfresh : base.Own (us.child u).1 := .inr h.next
  have hroot : UnitId.root ≠ ⟨us.store.next⟩ :=
    Store.root_ne_fresh (by rw [h.root]; rfl) hs.rising.reachable.numbered
  refine ⟨⟨Nat.le_succ_of_le h.next, ?_, fun w node hw hlt hlive => ?_,
    fun w node p hw hlive hp => ?_⟩, hfresh⟩
  · exact (hnode .root).trans ((if_neg hroot).trans h.root)
  · have hne : w ≠ ⟨us.store.next⟩ := by
      rintro rfl
      exact Nat.not_le.2 hlt h.next
    exact h.old w node hw hlt (((hnode w).trans (if_neg hne)).symm.trans hlive)
  · by_cases hnew : w = ⟨us.store.next⟩
    · cases ((hnode w).trans (if_pos hnew)).symm.trans hlive
      cases hp
      exact hu
    · exact h.parent w node p hw (((hnode w).trans (if_neg hnew)).symm.trans hlive) hp

/-- The root's values after one more write to a unit. -/
def put (top : List (String × Json)) (u : UnitId) (key : String) (value : Json) :
    List (String × Json) := if u = .root then Dictionary.put key value top else top

theorem set (h : Since base top us) (hu : base.Own u) (key : String) (value : Json) :
    Since base (put top u key value) (us.set u key value) := by
  cases hset : us.store.set u key value with
  | error e =>
    have hne : u ≠ .root := by
      rintro rfl
      have hlive : us.store.contains .root = true := Store.contains_of_node? h.root
      obtain ⟨s, hs⟩ := Store.set_eq_ok hlive key value
      cases hset.symm.trans hs
    simpa only [Units.set, hset, put, if_neg hne] using h
  | ok s =>
    have hnode := Store.node?_set hset
    simp only [Units.set, hset]
    refine ⟨(Store.next_set hset).symm ▸ h.next, ?_, fun w node hw hlt hlive => ?_,
      fun w node p hw hlive hp => ?_⟩
    · rw [hnode, h.root, Option.map_some, put]
      by_cases hroot : u = .root
      · simp [hroot]
      · simp [hroot, Ne.symm hroot]
    · have hne : w ≠ u := by
        rintro rfl
        rcases hu with rfl | hu
        · exact hw rfl
        · exact Nat.not_le.2 hlt hu
      rw [hnode] at hlive
      exact h.old w node hw hlt (by simpa [hne] using hlive)
    · rw [hnode] at hlive
      obtain ⟨before, hbefore, rfl⟩ := Option.map_eq_some_iff.1 hlive
      refine h.parent w before p hw hbefore ?_
      split at hp <;> exact hp

theorem setAll (h : Since base top us) (hu : base.Own u) (hne : u ≠ .root)
    (pairs : List (String × Json)) :
    Since base top (pairs.foldl (fun us p => us.set u p.1 p.2) us) := by
  induction pairs generalizing us with
  | nil => exact h
  | cons p pairs ih =>
    have hset := h.set hu p.1 p.2
    rw [put, if_neg hne] at hset
    exact ih hset

theorem drop (h : Since base top us) (u : UnitId) : Since base top (us.drop u).1 := by
  obtain ⟨hnext, hroot, hnode⟩ := fewer_drop us u
  refine ⟨hnext ▸ h.next, hroot.trans h.root, fun w node hw hlt hlive => ?_,
    fun w node p hw hlive hp => ?_⟩
  · exact h.old w node hw hlt (hnode w node hlive)
  · exact h.parent w node p hw (hnode w node hlive) hp

/-- A walk upward from a unit that was opened since meets only such units and the root. -/
theorem own_of_climbs (h : Since base top us) (hu : base.Own u) {walk : List UnitId}
    (hwalk : us.store.Climbs u walk) : ∀ v ∈ walk, base.Own v := by
  induction hwalk with
  | gone => simp
  | top _ _ => simpa using hu
  | up hnode hp _ ih =>
    intro v hv
    rcases List.mem_cons.1 hv with rfl | hv
    · exact hu
    · exact ih (h.parent _ _ _ hu hnode hp) v hv

/-- Where only the handles of the moment before are left, nothing that was opened since is live, and
nothing of before is gone. -/
theorem mem_units_iff (h : Since base top us) (hs : us.Settled outside)
    (hb : base.Settled outside) : u ∈ us.units ↔ u ∈ base.units := by
  constructor
  · intro hu
    rcases Units.mem_units_iff.1 hu with rfl | ⟨o, ho, rfl⟩
    · exact .head _
    · have hlt : o.unit.number < base.store.next := by
        refine hs.owner_induction (P := fun u => u.number < base.store.next)
          (fun v hv => hb.lt_next (hb.handle v hv)) (fun c hc hlt => ?_) o ho
        exact Nat.lt_trans (hs.parent_lt hc) hlt
      obtain ⟨node, hnode⟩ := Option.isSome_iff_exists.1 (hs.contains_iff.2 hu)
      have hbefore := h.old o.unit node (hs.ne_root ho) hlt hnode
      exact hb.contains_iff.1 (Store.contains_of_node? hbefore)
  · intro hu
    rcases Units.mem_units_iff.1 hu with rfl | ⟨o, ho, rfl⟩
    · exact .head _
    · refine hb.owner_induction (P := (· ∈ us.units)) (fun v hv => hs.handle v hv)
        (fun c hc hlive => ?_) o ho
      rcases Units.mem_units_iff.1 hlive with hroot | ⟨c', hc', hunit⟩
      · exact absurd hroot (hb.ne_root hc)
      · -- `c` stands below the same unit as before
        have hparent : us.store.parent? c.unit = base.store.parent? c.unit := by
          obtain ⟨node, hnode⟩ := Option.isSome_iff_exists.1 (hs.contains_iff.2 hlive)
          have hbefore := h.old c.unit node (hb.ne_root hc) (hb.lt_next (mem_units hc)) hnode
          rw [Store.parent?, hnode, Store.parent?, hbefore]
        rw [← hunit, hs.parent?_eq hc', hunit, hb.parent?_eq hc] at hparent
        rw [← Option.some.inj hparent]
        exact hs.parent _ (mem_pairs hc')

theorem node?_eq (h : Since base top us) (hs : us.Settled outside) (hb : base.Settled outside)
    (u : UnitId) :
    us.store.node? u = if u = .root then some ⟨none, top⟩ else base.store.node? u := by
  split
  · rename_i hu
    rw [hu, h.root]
  · rename_i hu
    cases hnode : us.store.node? u with
    | some node =>
      have hlive : u ∈ us.units := hs.contains_iff.1 (Store.contains_of_node? hnode)
      have hlt := hb.lt_next ((h.mem_units_iff hs hb).1 hlive)
      exact (h.old u node hu hlt hnode).symm
    | none =>
      cases hbefore : base.store.node? u with
      | none => rfl
      | some node =>
        have hlive : u ∈ base.units := hb.contains_iff.1 (Store.contains_of_node? hbefore)
        have hgone := hs.contains_iff.2 ((h.mem_units_iff hs hb).2 hlive)
        rw [Store.contains, hnode] at hgone
        cases hgone

theorem size_eq (h : Since base top us) (hs : us.Settled outside) (hb : base.Settled outside) :
    us.store.size = base.store.size := by
  have hperm := (List.perm_ext_iff_of_nodup hs.nodup hb.nodup).2 fun u => h.mem_units_iff hs hb
  have hlength := hperm.length_eq
  simp only [units, List.length_cons, List.length_map] at hlength
  rw [hs.size, hb.size]
  omega

end Since

end Units

end RequestDispatch.Context
