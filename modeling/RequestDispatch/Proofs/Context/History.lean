import RequestDispatch.Proofs.Context.Isolation

/-!
# Any sequence of operations on one store

A `Ledger` is a store with the ids that it has given out. Operations come in any order and name
units by their ids, live or released. All that is asked of them is that a unit is opened below the
root or below a unit that was given out before (`Ledger.Admits`). The store does not check it, and
without it a walk upward need not end (`not_climbs_below_itself`).

* `Store.Rising`: every live unit but the root has a parent, and the parent is older. Each operation
  keeps this (`Rising.newUnit`, `Rising.set`, `Rising.release`), although a parent that was released
  stays recorded.
* `Rising.wellFounded`, `Rising.climbs`: so there is no walk upward without end.
* `Ledger.Reached.walks_end`: this is how it stands after any sequence of operations, and the ids
  that were given out ascend.
-/

set_option autoImplicit false

namespace RequestDispatch.Context

namespace Store

/-! ## Parents are older -/

/-- A store that operations lead to, in which every live unit but the root has an older parent. -/
structure Rising (s : Store) : Prop where
  reachable : s.Reachable
  parent : ∀ u node, s.node? u = some node → u ≠ .root →
    ∃ p, node.parent = some p ∧ p.number < u.number

namespace Rising

variable {s s' : Store} {u p : UnitId}

theorem first : Rising {} := by
  refine ⟨.first, fun u node hu hne => ?_⟩
  have hroot := mem_of_node? hu
  simp only [List.mem_singleton, Prod.mk.injEq] at hroot
  exact absurd hroot.1 hne

theorem newUnit (h : s.Rising) {parent : Option UnitId}
    (hp : (parent.getD .root).number < s.next) : (s.newUnit parent).2.Rising := by
  refine ⟨.newUnit parent h.reachable, fun u node hu hne => ?_⟩
  rw [node?_newUnit h.reachable.numbered] at hu
  split at hu
  · subst u
    obtain rfl := Option.some.inj hu
    exact ⟨_, rfl, hp⟩
  · exact h.parent u node hu hne

theorem set (h : s.Rising) {key : String} {value : Json} (hs : s.set u key value = .ok s') :
    s'.Rising := by
  refine ⟨.set h.reachable hs, fun w node hw hne => ?_⟩
  rw [node?_set hs] at hw
  obtain ⟨old, hold, rfl⟩ := Option.map_eq_some_iff.1 hw
  obtain ⟨p, hp, hlt⟩ := h.parent w old hold hne
  exact ⟨p, by split <;> exact hp, hlt⟩

theorem release (h : s.Rising) (u : UnitId) : (s.release u).2.Rising := by
  refine ⟨.release u h.reachable, fun w node hw hne => ?_⟩
  rw [node?_release] at hw
  split at hw
  · cases hw
  · exact h.parent w node hw hne

theorem parent_lt (h : s.Rising) (hp : s.parent? u = some p) : p.number < u.number := by
  obtain ⟨node, hnode, hparent⟩ := Option.bind_eq_some_iff.1 hp
  by_cases hu : u = .root
  · subst u
    obtain ⟨values, hroot⟩ := h.reachable.root
    cases hroot.symm.trans hnode
    cases hparent
  · obtain ⟨q, hq, hlt⟩ := h.parent u node hnode hu
    cases hq.symm.trans hparent
    exact hlt

/-- No walk upward goes on for ever. -/
theorem wellFounded (h : s.Rising) : WellFounded fun p u => s.parent? u = some p :=
  Subrelation.wf (fun hp => h.parent_lt hp) (InvImage.wf UnitId.number Nat.lt_wfRel.wf)

theorem climbs (h : s.Rising) (u : UnitId) : ∃ us, s.Climbs u us := by
  induction u using h.wellFounded.induction with
  | h u ih =>
    cases hu : s.node? u with
    | none => exact ⟨[], .gone hu⟩
    | some node =>
      cases hp : node.parent with
      | none => exact ⟨[u], .top hu hp⟩
      | some p =>
        obtain ⟨us, hus⟩ := ih p (by simp [parent?, hu, hp])
        exact ⟨u :: us, .up hu hp hus⟩

theorem climbs_chain (h : s.Rising) (u : UnitId) : s.Climbs u (s.chain u) := by
  obtain ⟨us, hus⟩ := h.climbs u
  rw [hus.chain_eq]
  exact hus

end Rising

/-- A unit that is opened below the id that it is given itself has no walk upward that ends. -/
theorem not_climbs_below_itself {s : Store} (hs : s.Numbered) :
    ¬ ∃ us, (s.newUnit (some ⟨s.next⟩)).2.Climbs ⟨s.next⟩ us := by
  rintro ⟨us, hus⟩
  have hnode := (node?_newUnit hs (some ⟨s.next⟩) ⟨s.next⟩).trans (if_pos rfl)
  have hround := hus.unique (.up hnode rfl hus)
  have := congrArg List.length hround
  simp at this

/-- The answer to a look-up that has found a value or none. -/
def found (key : String) : Option Json → Except Fault Json
  | some v => .ok v
  | none => .error (.keyNotFound key)

/-- A look-up finds what the walk upward meets first. -/
theorem Climbs.get_eq {s : Store} {u : UnitId} {us : List UnitId} (h : s.Climbs u us)
    (key : String) : s.get u key =
      if s.contains u then found key (us.findSome? (s.own? key))
      else .error (.unknownUnit u) := by
  rw [get, h.chain_eq]
  split
  · split <;> simp only [found, *]
  · rfl

end Store

/-! ## Ids that were given out -/

theorem Consecutive.mem_iff {first next : Nat} {ids : List UnitId}
    (h : Consecutive first ids next) {u : UnitId} :
    u ∈ ids ↔ first ≤ u.number ∧ u.number < next := by
  rw [h.ids, h.next, List.mem_map]
  constructor
  · rintro ⟨k, hk, rfl⟩
    exact ⟨Nat.le_add_right first k, Nat.add_lt_add_left (List.mem_range.1 hk) first⟩
  · rintro ⟨hle, hlt⟩
    refine ⟨u.number - first, List.mem_range.2 (by omega), ?_⟩
    rw [Nat.add_sub_cancel' hle]

theorem Consecutive.ascending {first next : Nat} {ids : List UnitId}
    (h : Consecutive first ids next) : ids.Pairwise fun u v => u.number < v.number := by
  rw [h.ids, List.pairwise_map]
  exact List.pairwise_lt_range.imp fun hlt => Nat.add_lt_add_left hlt first

/-! ## Sequences of operations -/

/-- A store with the ids that it has given out, the first ones first. -/
structure Ledger where
  store : Store := {}
  issued : List UnitId := []

namespace Ledger

variable {l : Ledger}

/-- Performs an operation on the units with the ids that it names. -/
def step (l : Ledger) (op : Op) : Ledger :=
  let (a, s) := op.run UnitId.mk l.store
  ⟨s, l.issued ++ a.created⟩

/-- A unit is opened only below the root or below one that was given out before. -/
def Admits (l : Ledger) : Op → Prop
  | .newUnit (some parent) => ⟨parent⟩ ∈ UnitId.root :: l.issued
  | _ => True

/-- What sequences of operations lead to from an empty store. -/
inductive Reached : Ledger → Prop
  | first : Reached {}
  | step {l : Ledger} (op : Op) : Reached l → l.Admits op → Reached (l.step op)

/-- The ids that were given out are all those from 1 on, and parents are older than their units. -/
structure Sound (l : Ledger) : Prop where
  rising : l.store.Rising
  ids : Consecutive 1 l.issued l.store.next

theorem Sound.lt_next (h : l.Sound) {u : UnitId} (hu : u ∈ UnitId.root :: l.issued) :
    u.number < l.store.next := by
  rcases List.mem_cons.1 hu with rfl | hu
  · obtain ⟨values, hroot⟩ := h.rising.reachable.root
    exact h.rising.reachable.numbered.lt hroot
  · exact (h.ids.mem_iff.1 hu).2

theorem Sound.step (h : l.Sound) {op : Op} (hop : l.Admits op) : (l.step op).Sound := by
  refine ⟨?_, h.ids.run UnitId.mk op⟩
  cases op with
  | newUnit parent =>
    refine h.rising.newUnit (h.lt_next ?_)
    cases parent with
    | none => exact .head _
    | some n => exact hop
  | set n key value =>
    cases hs : l.store.set ⟨n⟩ key value with
    | ok s' => simpa [Ledger.step, Op.run, hs] using h.rising.set hs
    | error e => simpa [Ledger.step, Op.run, hs] using h.rising
  | get n key => exact h.rising
  | release n => exact h.rising.release _

theorem Reached.sound (h : l.Reached) : l.Sound := by
  induction h with
  | first => exact ⟨.first, rfl, rfl⟩
  | step op _ hop ih => exact ih.step hop

/-- Ids ascend and are never given out again, the root stays at the top, every other unit has an
older parent, and so every look-up ends, with what its walk upward meets first. -/
theorem Reached.walks_end (h : l.Reached) :
    l.issued.Pairwise (fun u v => u.number < v.number) ∧
    (∀ u ∈ l.issued, u.number ≤ l.issued.length) ∧
    (∃ values, l.store.node? .root = some ⟨none, values⟩) ∧
    (∀ u node, l.store.node? u = some node → u ≠ .root →
      u ∈ l.issued ∧ ∃ p, node.parent = some p ∧ p.number < u.number) ∧
    (WellFounded fun p u => l.store.parent? u = some p) ∧
    ∀ u key, ∃ us, l.store.Climbs u us ∧ l.store.get u key =
      if l.store.contains u then Store.found key (us.findSome? (l.store.own? key))
      else .error (.unknownUnit u) := by
  obtain ⟨hrising, hids⟩ := h.sound
  have hnext := hids.next
  refine ⟨hids.ascending, fun u hu => ?_, hrising.reachable.root, fun u node hu hne => ⟨?_, ?_⟩,
    hrising.wellFounded, fun u key => ?_⟩
  · have := hids.mem_iff.1 hu
    omega
  · have hpos : u.number ≠ 0 := fun hzero => hne (congrArg UnitId.mk hzero)
    exact hids.mem_iff.2 ⟨by omega, hrising.reachable.numbered.lt hu⟩
  · exact hrising.parent u node hu hne
  · obtain ⟨us, hus⟩ := hrising.climbs u
    exact ⟨us, hus, hus.get_eq key⟩

/-- A unit below one that is released, and then another below the released one. -/
def orphans : Ledger :=
  [Op.newUnit none, .newUnit (some 1), .set 2 "k" .null, .release 1, .newUnit (some 1)].foldl step
    {}

theorem reached_orphans : orphans.Reached :=
  .step (.newUnit (some 1)) (.step (.release 1) (.step (.set 2 "k" .null)
    (.step (.newUnit (some 1)) (.step (.newUnit none) .first trivial) (.tail _ (.head _)))
      trivial) trivial) (.tail _ (.head _))

theorem walks_end_orphans : orphans.Reached ∧ orphans.issued = [⟨1⟩, ⟨2⟩, ⟨3⟩] ∧
    orphans.store.contains ⟨1⟩ = false ∧
    (WellFounded fun p u => orphans.store.parent? u = some p) ∧
    ∃ us, orphans.store.Climbs ⟨3⟩ us ∧ us = [⟨3⟩] := by
  obtain ⟨-, -, -, -, hwf, hwalk⟩ := reached_orphans.walks_end
  obtain ⟨us, hus, -⟩ := hwalk ⟨3⟩ "k"
  exact ⟨reached_orphans, rfl, rfl, hwf, us, hus, hus.chain_eq.symm⟩

end Ledger

end RequestDispatch.Context
