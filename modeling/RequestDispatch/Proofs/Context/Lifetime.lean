import RequestDispatch.Proofs.Context.Lookup
import RequestDispatch.Proofs.Context.Owners

/-!
# How long units live

A `Holding` is the units of a store with all handles to them. A `Move` takes, copies, uses or drops
a handle; the only thing asked of it is that the handle is there (`Holding.Admits`), so parents may
be dropped before or after their children.

* `Sound.step`: a move keeps the units settled and the books right. The books say what was opened
  and what was released.
* `Sound.live_iff`: a unit is live just while there is a handle to it or to a unit below it.
* `Reached.lives_while_held`: after any run of moves, with what follows for the number of units and
  for reads and writes through a handle.
-/

set_option autoImplicit false

namespace RequestDispatch.Context

/-- What is done with handles. -/
inductive Move where
  /-- Take a handle to the root. -/
  | root
  /-- Open a unit below that of a handle. -/
  | child (u : UnitId)
  | clone (u : UnitId)
  /-- Take a handle to the unit above that of a handle. -/
  | above (u : UnitId)
  | drop (u : UnitId)
  | set (u : UnitId) (key : String) (value : Json)

/-- Units with the handles to them, and books on the units: which were opened and below which other
unit, and which were released, both in order. -/
structure Holding where
  units : Units := {}
  handles : List UnitId := []
  opened : List (UnitId × UnitId) := []
  released : List UnitId := []

/-- The second unit is the first one, or was opened somewhere below it. -/
inductive Below (opened : List (UnitId × UnitId)) (u : UnitId) : UnitId → Prop
  | refl : Below opened u u
  | up {v p : UnitId} : (v, p) ∈ opened → Below opened u p → Below opened u v

theorem Below.of_pair {opened : List (UnitId × UnitId)} {u v w : UnitId}
    (h : Below opened v w) (hv : (v, u) ∈ opened) : Below opened u w := by
  induction h with
  | refl => exact .up hv .refl
  | up hw _ ih => exact .up hw ih

namespace Holding

/-- A handle that is used is there. -/
def Admits (h : Holding) : Move → Prop
  | .root => True
  | .child u | .clone u | .above u | .drop u | .set u _ _ => u ∈ h.handles

def step (h : Holding) : Move → Holding
  | .root => { h with handles := .root :: h.handles }
  | .child u =>
    let (v, units) := h.units.child u
    { h with units, handles := v :: h.handles, opened := h.opened ++ [(v, u)] }
  | .clone u => { h with units := h.units.clone u, handles := u :: h.handles }
  | .above u =>
    match h.units.parent? u with
    | some p => { h with units := h.units.clone p, handles := p :: h.handles }
    | none => h
  | .drop u =>
    let (units, gone) := h.units.drop u
    { h with units, handles := h.handles.erase u, released := h.released ++ gone }
  | .set u key value => { h with units := h.units.set u key value }

/-- What runs of moves lead to from an empty store. -/
inductive Reached : Holding → Prop
  | first : Reached {}
  | step {h : Holding} (m : Move) : Reached h → h.Admits m → Reached (h.step m)

/-- The units are settled and the books are right. -/
structure Sound (h : Holding) : Prop where
  settled : h.units.Settled h.handles
  opened : h.units.pairs ⊆ h.opened
  ids : Consecutive 1 (h.opened.map Prod.fst) h.units.store.next
  released : (h.released ++ h.units.pairs.map Prod.fst).Perm (h.opened.map Prod.fst)

variable {h : Holding} {u v : UnitId}

/-! ## What a move keeps -/

namespace Sound

theorem first : Sound {} := ⟨.first, fun _ hp => hp, ⟨rfl, rfl⟩, .refl _⟩

theorem clone (hs : h.Sound) (hu : u ∈ h.units.units) :
    Sound { h with units := h.units.clone u, handles := u :: h.handles } := by
  have hpairs : (h.units.clone u).pairs = h.units.pairs := h.units.pairs_recount u (· + 1)
  refine ⟨hs.settled.clone hu, ?_, hs.ids, ?_⟩
  · exact hpairs ▸ hs.opened
  · exact hpairs ▸ hs.released

theorem child (hs : h.Sound) (hu : u ∈ h.handles) : (h.step (.child u)).Sound := by
  have hpairs : (h.units.child u).2.pairs = h.units.pairs ++ [(⟨h.units.store.next⟩, u)] :=
    h.units.pairs_child u
  refine ⟨hs.settled.child (hs.settled.handle u hu), ?_, ?_, ?_⟩
  · intro p hp
    rcases List.mem_append.1 (hpairs ▸ hp) with hp | hp
    · exact List.mem_append_left _ (hs.opened hp)
    · exact List.mem_append_right _ hp
  · simp only [step, List.map_append]
    exact hs.ids.snoc
  · simp only [step]
    rw [hpairs, List.map_append, List.map_append, ← List.append_assoc]
    exact hs.released.append_right _

theorem drop (hs : h.Sound) (u : UnitId) : (h.step (.drop u)).Sound := by
  obtain ⟨hsettled, hnext, hkept, hperm⟩ := hs.settled.drop u
  refine ⟨hsettled, fun p hp => hs.opened (hkept hp), ?_, ?_⟩
  · simp only [step]
    rw [hnext]
    exact hs.ids
  · simp only [step]
    rw [List.append_assoc]
    exact (hperm.append_left _).trans hs.released

theorem contains (hs : h.Sound) (hu : u ∈ h.handles) : h.units.store.contains u = true :=
  hs.settled.contains_iff.2 (hs.settled.handle u hu)

/-- A write through a handle is never lost. -/
theorem set_eq (hs : h.Sound) (hu : u ∈ h.handles) (key : String) (value : Json) :
    ∃ s, h.units.store.set u key value = .ok s ∧
      h.units.set u key value = { h.units with store := s } := by
  obtain ⟨s, hset⟩ := Store.set_eq_ok (hs.contains hu) key value
  exact ⟨s, hset, by simp only [Units.set, hset]⟩

theorem set (hs : h.Sound) (hu : u ∈ h.handles) (key : String) (value : Json) :
    (h.step (.set u key value)).Sound := by
  obtain ⟨s, hset, heq⟩ := hs.set_eq hu key value
  simp only [step, heq]
  refine ⟨hs.settled.set hset, hs.opened, ?_, hs.released⟩
  have hnext : s.next = h.units.store.next := Store.next_set hset
  simp only [hnext]
  exact hs.ids

theorem above (hs : h.Sound) (u : UnitId) : (h.step (.above u)).Sound := by
  cases hparent : h.units.parent? u with
  | none => simpa only [step, hparent] using hs
  | some p =>
    obtain ⟨o, ho, rfl⟩ := Option.map_eq_some_iff.1 hparent
    simp only [step, hparent]
    exact hs.clone (hs.settled.parent _ (Units.mem_pairs (List.mem_of_find?_eq_some ho)))

theorem step (hs : h.Sound) {m : Move} (hm : h.Admits m) : (h.step m).Sound := by
  cases m with
  | root => exact ⟨hs.settled.root, hs.opened, hs.ids, hs.released⟩
  | child u => exact hs.child hm
  | clone u => exact hs.clone (hs.settled.handle u hm)
  | above u => exact hs.above u
  | drop u => exact hs.drop u
  | set u key value => exact hs.set hm key value

end Sound

theorem Reached.sound (hr : h.Reached) : h.Sound := by
  induction hr with
  | first => exact .first
  | step m _ hm ih => exact ih.step hm

/-! ## Live and held -/

namespace Sound

theorem nodup_opened (hs : h.Sound) : (h.opened.map Prod.fst).Nodup :=
  hs.ids.ascending.imp fun hlt heq => Nat.ne_of_lt hlt (congrArg UnitId.number heq)

theorem ne_root_of_opened (hs : h.Sound) {p : UnitId} (hu : (u, p) ∈ h.opened) : u ≠ .root := by
  rintro rfl
  exact absurd (hs.ids.le _ (List.mem_map_of_mem hu)) (Nat.not_succ_le_zero 0)

/-- What stands above a live unit, as the books have it, is live. -/
theorem parent_live (hs : h.Sound) {p : UnitId} (hu : (u, p) ∈ h.opened)
    (hlive : u ∈ h.units.units) : p ∈ h.units.units := by
  rcases Units.mem_units_iff.1 hlive with rfl | ⟨o, ho, rfl⟩
  · exact absurd rfl (hs.ne_root_of_opened hu)
  · have hpair := Units.mem_pairs ho
    have heq := (lookup_of_mem hs.nodup_opened (hs.opened hpair)).symm.trans
      (lookup_of_mem hs.nodup_opened hu)
    exact Option.some.inj heq ▸ hs.settled.parent _ hpair

theorem live_of_below (hs : h.Sound) (hbelow : Below h.opened u v) (hv : v ∈ h.units.units) :
    u ∈ h.units.units := by
  induction hbelow with
  | refl => exact hv
  | up hpair _ ih => exact ih (hs.parent_live hpair hv)

/-- Something holds a unit with an owner: a handle to it, or to a unit below it. -/
theorem held_of_owner (hs : h.Sound) {o : Owner} (ho : o ∈ h.units.owners) :
    ∃ v ∈ h.handles, Below h.opened o.unit v := by
  refine hs.settled.owner_induction (P := fun u => ∃ v ∈ h.handles, Below h.opened u v)
    (fun u hu => ⟨u, hu, .refl⟩) (fun c hc hbelow => ?_) o ho
  obtain ⟨v, hv, hbelow⟩ := hbelow
  exact ⟨v, hv, hbelow.of_pair (hs.opened (Units.mem_pairs hc))⟩

theorem live_iff (hs : h.Sound) (hu : u ≠ .root) :
    h.units.store.contains u = true ↔ ∃ v ∈ h.handles, Below h.opened u v := by
  rw [hs.settled.contains_iff]
  constructor
  · intro hlive
    rcases Units.mem_units_iff.1 hlive with rfl | ⟨o, ho, rfl⟩
    · exact absurd rfl hu
    · exact hs.held_of_owner ho
  · rintro ⟨v, hv, hbelow⟩
    exact hs.live_of_below hbelow (hs.settled.handle v hv)

/-- A unit is released once, and then it is no longer live. -/
theorem released_iff (hs : h.Sound) :
    h.released.Nodup ∧ (u ∈ h.released ↔
      u ∈ h.opened.map Prod.fst ∧ h.units.store.contains u = false) := by
  have hnodup := hs.released.nodup_iff.2 hs.nodup_opened
  obtain ⟨hreleased, -, hapart⟩ := List.nodup_append.1 hnodup
  refine ⟨hreleased, ?_⟩
  rw [← Bool.not_eq_true, hs.settled.contains_iff, ← hs.released.mem_iff, List.mem_append]
  constructor
  · intro hu
    refine ⟨.inl hu, fun hlive => ?_⟩
    rcases List.mem_cons.1 hlive with rfl | hlive
    · have hopened := hs.released.mem_iff.1 (List.mem_append_left _ hu)
      obtain ⟨⟨w, p⟩, hp, hw⟩ := List.mem_map.1 hopened
      exact hs.ne_root_of_opened hp hw
    · exact hapart u hu u hlive rfl
  · rintro ⟨hu | hu, hgone⟩
    · exact hu
    · exact absurd (List.mem_cons_of_mem _ hu) hgone

theorem eq_root_of_below (hs : h.Sound) (hbelow : Below h.opened u .root) : u = .root := by
  cases hbelow with
  | refl => rfl
  | up hpair => exact absurd rfl (hs.ne_root_of_opened hpair)

end Sound

/-- After any run of moves a unit other than the root is live just while there is a handle to it or
to a unit below it; a unit is released once, when there is no such handle any more; the root stays,
and all units that are live are the root and those; and through a handle a write is never lost and
a read goes up to the root. -/
theorem Reached.lives_while_held (hr : h.Reached) :
    (∀ u, u ≠ .root →
      (h.units.store.contains u = true ↔ ∃ v ∈ h.handles, Below h.opened u v)) ∧
    (h.released.Nodup ∧ ∀ u, u ∈ h.released ↔
      u ∈ h.opened.map Prod.fst ∧ ¬ ∃ v ∈ h.handles, Below h.opened u v) ∧
    h.units.store.contains .root = true ∧
    (∃ held : List UnitId, held.Nodup ∧ h.units.store.size = 1 + held.length ∧
      ∀ u, u ∈ held ↔ u ≠ .root ∧ ∃ v ∈ h.handles, Below h.opened u v) ∧
    ((∀ v ∈ h.handles, v = .root) → h.units.store.size = 1) ∧
    ∀ u ∈ h.handles,
      (∀ key value, ∃ s, h.units.store.set u key value = .ok s ∧
        h.units.set u key value = { h.units with store := s }) ∧
      (∀ key w, h.units.store.get u key ≠ .error (.unknownUnit w)) ∧
      ∃ walk, h.units.store.Climbs u walk ∧ walk.getLast? = some .root ∧
        ∀ key, h.units.store.get u key =
          Store.found key (walk.findSome? (h.units.store.own? key)) := by
  have hs := hr.sound
  have hheld : ∀ u, u ∈ h.units.pairs.map Prod.fst ↔
      u ≠ .root ∧ ∃ v ∈ h.handles, Below h.opened u v := by
    intro u
    constructor
    · intro hu
      obtain ⟨o, ho, rfl⟩ : ∃ o ∈ h.units.owners, o.unit = u := by
        simpa [Units.pairs] using hu
      exact ⟨hs.settled.ne_root ho, hs.held_of_owner ho⟩
    · rintro ⟨hne, hbelow⟩
      have hlive := hs.settled.contains_iff.1 ((hs.live_iff hne).2 hbelow)
      exact (List.mem_cons.1 hlive).resolve_left hne
  refine ⟨fun u hu => hs.live_iff hu, ⟨hs.released_iff (u := .root).1, fun u => ?_⟩,
    hs.settled.contains_root, ⟨_, (List.nodup_cons.1 hs.settled.nodup).2, ?_, hheld⟩,
    fun hroot => ?_, fun u hu => ⟨hs.set_eq hu, fun key w hget => ?_, ?_⟩⟩
  · rw [hs.released_iff.2, ← Bool.not_eq_true]
    refine and_congr_right fun hu => not_congr (hs.live_iff ?_)
    obtain ⟨⟨v, p⟩, hp, rfl⟩ := List.mem_map.1 hu
    exact hs.ne_root_of_opened hp
  · rw [hs.settled.size, List.length_map]
  · have hnone : h.units.pairs.map Prod.fst = [] := by
      refine List.eq_nil_iff_forall_not_mem.2 fun u hu => ?_
      obtain ⟨hne, v, hv, hbelow⟩ := (hheld u).1 hu
      exact hne (hs.eq_root_of_below (hroot v hv ▸ hbelow))
    rw [hs.settled.size, List.map_eq_nil_iff.1 hnone, List.length_nil]
  · obtain ⟨us, hus⟩ := hs.settled.rising.climbs u
    have hgone := (Store.get_eq_unknownUnit_iff hus).1 hget
    rw [hs.contains hu] at hgone
    cases hgone.1
  · obtain ⟨walk, hwalk, hlast⟩ := hs.settled.climbs_to_root (hs.settled.handle u hu)
    refine ⟨walk, hwalk, hlast, fun key => ?_⟩
    rw [hwalk.get_eq, hs.contains hu, if_pos rfl]

/-- A unit below another one, of which the upper one is dropped first. -/
def upperFirst : Holding :=
  [Move.root, .child .root, .child ⟨1⟩, .drop ⟨1⟩].foldl step {}

theorem reached_upperFirst : upperFirst.Reached :=
  .step (.drop ⟨1⟩) (.step (.child ⟨1⟩) (.step (.child .root) (.step .root .first trivial)
    (.head _)) (.head _)) (.tail _ (.head _))

theorem lives_while_held_upperFirst : upperFirst.Reached ∧
    upperFirst.handles = [⟨2⟩, .root] ∧ upperFirst.units.store.contains ⟨1⟩ = true ∧
    (upperFirst.step (.drop ⟨2⟩)).Reached ∧
    (upperFirst.step (.drop ⟨2⟩)).released = [⟨2⟩, ⟨1⟩] ∧
    (upperFirst.step (.drop ⟨2⟩)).units.store.size = 1 := by
  have hbefore := reached_upperFirst
  have hafter : (upperFirst.step (.drop ⟨2⟩)).Reached := .step _ hbefore (.head _)
  refine ⟨hbefore, rfl, ?_, hafter, rfl, ?_⟩
  · obtain ⟨hlive, -⟩ := hbefore.lives_while_held
    refine (hlive ⟨1⟩ (by decide)).2 ⟨⟨2⟩, .head _, ?_⟩
    exact .up (p := ⟨1⟩) (.tail _ (.head _)) .refl
  · obtain ⟨-, -, -, -, hone, -⟩ := hafter.lives_while_held
    exact hone fun v hv => List.mem_singleton.1 hv

end Holding

end RequestDispatch.Context
