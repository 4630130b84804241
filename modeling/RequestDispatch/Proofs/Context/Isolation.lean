import RequestDispatch.Proofs.Context.Store

/-!
# Programs that share a store do not disturb each other

A `Program` works on a store through units of its own: the one it was given, which stands right
below the root, and those it creates. Several programs take turns on one store, in any order.

* `Alike pairs s t`: the units of a program alone, in `s`, and of the same program among others,
  in `t`, hold the same, unit by unit as `pairs` says. The walk from such a unit upward meets
  units of the program and then the root, in both stores (`Alike.climbs`), so look-ups agree
  (`Alike.get`).
* `Op.run_alike`: a step that both make keeps them alike and answers the same but for the ids.
  `Alike.frame`: a step of another program changes nothing of this (`Op.node?_run`).
* `Consecutive`, `Issued`: alone, a program is given all ids from some number on; among others, some
  of them, in the same order. So the ids of one run can be renamed to those of the other
  (`Issued.renaming`).
* `Parallel`: all that holds between the two runs. A step of the program in both keeps it
  (`Parallel.step`), and so does a step of another program (`Parallel.frame`).
* `answers_run`: so in every run each program is answered as if it were alone, up to a renaming of
  the ids that keeps their order and leaves those alone that were given out before.
-/

set_option autoImplicit false

namespace RequestDispatch.Context

/-! ## Answers -/

/-- A fault with its unit under another id. -/
def Fault.rename (ρ : UnitId → UnitId) : Fault → Fault
  | .keyNotFound key => .keyNotFound key
  | .unknownUnit u => .unknownUnit (ρ u)
  | .encode key reason => .encode key reason
  | .decode key problem => .decode key problem

/-- What a store answers to an operation. -/
inductive Answer where
  | unit (u : UnitId)
  | set (result : Except Fault Unit)
  | got (result : Except Fault Json)
  | released (wasLive : Bool)

namespace Answer

def rename (ρ : UnitId → UnitId) : Answer → Answer
  | .unit u => .unit (ρ u)
  | .set result => .set (result.mapError (Fault.rename ρ))
  | .got result => .got (result.mapError (Fault.rename ρ))
  | .released wasLive => .released wasLive

/-- All of an answer but the ids in it. -/
def seen (a : Answer) : Answer := a.rename fun _ => .root

def created : Answer → List UnitId
  | .unit u => [u]
  | _ => []

theorem seen_rename (ρ : UnitId → UnitId) (a : Answer) : (a.rename ρ).seen = a.seen := by
  have hfault : ∀ f : Fault, (f.rename ρ).rename (fun _ => .root) = f.rename fun _ => .root := by
    intro f
    cases f <;> rfl
  cases a with
  | unit u => rfl
  | set result =>
    cases result with
    | ok _ => rfl
    | error f => exact congrArg (fun f => Answer.set (.error f)) (hfault f)
  | got result =>
    cases result with
    | ok _ => rfl
    | error f => exact congrArg (fun f => Answer.got (.error f)) (hfault f)
  | released wasLive => rfl

end Answer

/-! ## Programs -/

/-- An operation of a program on units of its own, which it names by their places: the one it was
given first, then those it has created. A place beyond them stands for the one it was given. -/
inductive Op where
  /-- Creates a unit below one of them, or below the root. -/
  | newUnit (parent : Option Nat)
  | set (unit : Nat) (key : String) (value : Json)
  | get (unit : Nat) (key : String)
  | release (unit : Nat)

/-- Performs an operation; `unit` gives the units at the places. -/
def Op.run (unit : Nat → UnitId) : Op → Store → Answer × Store
  | .newUnit parent, s =>
    let (u, s) := s.newUnit (parent.map unit)
    (.unit u, s)
  | .set n key value, s =>
    match s.set (unit n) key value with
    | .ok s => (.set (.ok ()), s)
    | .error e => (.set (.error e), s)
  | .get n key, s => (.got (s.get (unit n) key), s)
  | .release n, s =>
    let (wasLive, s) := s.release (unit n)
    (.released wasLive, s)

/-- A program: what it does next may depend on all that it was answered, but not on the ids. -/
inductive Program where
  | done
  | perform (op : Op) (next : Answer → Program)

/-- A program on its way. -/
structure Party where
  given : UnitId
  program : Program
  created : List UnitId := []
  /-- What it was answered so far. -/
  answers : List Answer := []

namespace Party

/-- The units that a program may use. -/
def own (p : Party) : List UnitId := p.given :: p.created

def unit (p : Party) (n : Nat) : UnitId := p.own.getD n p.given

/-- The next operation of a program. -/
def step (p : Party) (s : Store) : Party × Store :=
  match p.program with
  | .done => (p, s)
  | .perform op next =>
    let (a, s) := op.run p.unit s
    ({ p with program := next a.seen, created := p.created ++ a.created,
              answers := p.answers ++ [a] }, s)

/-- A program alone, for a number of operations. -/
def run : (n : Nat) → Party × Store → Party × Store
  | 0, x => x
  | n + 1, x => run n (x.1.step x.2)

end Party

/-- Programs that share a store. -/
structure World (ι : Type) where
  store : Store
  party : ι → Party

namespace World

variable {ι : Type}

/-- Programs before their first operation, each with a unit of its own. -/
def start (s : Store) (given : ι → UnitId) (program : ι → Program) : World ι :=
  ⟨s, fun i => ⟨given i, program i, [], []⟩⟩

/-- One operation of one of the programs. -/
def turn [DecidableEq ι] (w : World ι) (i : ι) : World ι :=
  let (p, s) := (w.party i).step w.store
  ⟨s, fun j => if j = i then p else w.party j⟩

/-- One operation after another, of the programs in the order of a schedule. -/
def run [DecidableEq ι] (w : World ι) (schedule : List ι) : World ι := schedule.foldl turn w

end World

/-! ## Stores that are alike -/

/-- What is held for two units that stand for each other: the same values, and parents that stand
for each other. Parents are older, so a walk upward ends. -/
inductive NodeAlike (pairs : List (UnitId × UnitId)) (u : UnitId) : Option Node → Option Node → Prop
  | gone : NodeAlike pairs u none none
  | top (values : List (String × Json)) :
      NodeAlike pairs u (some ⟨none, values⟩) (some ⟨none, values⟩)
  | below {p q : UnitId} (values : List (String × Json)) : (p, q) ∈ pairs → p.number < u.number →
      NodeAlike pairs u (some ⟨some p, values⟩) (some ⟨some q, values⟩)

/-- Two stores with the same in units that stand for each other. -/
structure Alike (pairs : List (UnitId × UnitId)) (s t : Store) : Prop where
  numbered : s.Numbered ∧ t.Numbered
  lt : ∀ x ∈ pairs, x.1.number < s.next ∧ x.2.number < t.next
  eq_iff : ∀ x ∈ pairs, ∀ y ∈ pairs, x.1 = y.1 ↔ x.2 = y.2
  node : ∀ x ∈ pairs, NodeAlike pairs x.1 (s.node? x.1) (t.node? x.2)

namespace Alike

variable {pairs : List (UnitId × UnitId)} {s t : Store} {u v : UnitId}

theorem contains_eq (h : Alike pairs s t) (huv : (u, v) ∈ pairs) : s.contains u = t.contains v := by
  have hnode := h.node _ huv
  unfold Store.contains
  cases hs : s.node? u <;> cases ht : t.node? v <;> simp only [hs, ht] at hnode ⊢
  · cases hnode
  · cases hnode
  · rfl

theorem climbs (h : Alike pairs s t) (huv : (u, v) ∈ pairs) :
    ∃ us vs, s.Climbs u us ∧ t.Climbs v vs ∧
      ∀ key, us.findSome? (s.own? key) = vs.findSome? (t.own? key) := by
  -- the parents are older
  induction hn : u.number using Nat.strongRecOn generalizing u v with
  | ind n ih =>
    have hnode := h.node _ huv
    cases hs : s.node? u with
    | none =>
      cases ht : t.node? v with
      | none => exact ⟨[], [], .gone hs, .gone ht, fun _ => rfl⟩
      | some node => simp only [hs, ht] at hnode; cases hnode
    | some m =>
      cases ht : t.node? v with
      | none => simp only [hs, ht] at hnode; cases hnode
      | some node =>
        simp only [hs, ht] at hnode
        have hown : ∀ key, m.values = node.values → s.own? key u = t.own? key v := by
          intro key hvalues
          simp only [Store.own?, hs, ht, Option.bind_some, hvalues]
        cases hnode with
        | top values =>
          refine ⟨[u], [v], .top hs rfl, .top ht rfl, fun key => ?_⟩
          simp only [List.findSome?_cons, List.findSome?_nil, hown key rfl]
        | below values hpq hlt =>
          obtain ⟨us, vs, hus, hvs, hfind⟩ := ih _ (hn ▸ hlt) hpq rfl
          refine ⟨u :: us, v :: vs, .up hs rfl hus, .up ht rfl hvs, fun key => ?_⟩
          simp only [List.findSome?_cons, hown key rfl, hfind key]

/-- Look-ups give the same, and faults name the units that stand for each other. -/
theorem get (h : Alike pairs s t) (huv : (u, v) ∈ pairs) {ρ : UnitId → UnitId} (hρ : ρ u = v)
    (key : String) : (s.get u key).mapError (Fault.rename ρ) = t.get v key := by
  obtain ⟨us, vs, hus, hvs, hfind⟩ := h.climbs huv
  unfold Store.get
  rw [hus.chain_eq, hvs.chain_eq, hfind, h.contains_eq huv]
  split
  · split <;> rfl
  · exact congrArg (fun x => Except.error (Fault.unknownUnit x)) hρ

/-- A change to the second store that leaves the units in it alone. -/
theorem frame (h : Alike pairs s t) {t' : Store} (ht : t'.Numbered) (hnext : t.next ≤ t'.next)
    (hnode : ∀ x ∈ pairs, t'.node? x.2 = t.node? x.2) : Alike pairs s t' where
  numbered := ⟨h.numbered.1, ht⟩
  lt x hx := ⟨(h.lt x hx).1, Nat.lt_of_lt_of_le (h.lt x hx).2 hnext⟩
  eq_iff := h.eq_iff
  node x hx := hnode x hx ▸ h.node x hx

theorem NodeAlike.mono {pairs' : List (UnitId × UnitId)} (hsub : pairs ⊆ pairs')
    {a b : Option Node} (h : NodeAlike pairs u a b) : NodeAlike pairs' u a b := by
  cases h with
  | gone => exact .gone
  | top values => exact .top values
  | below values hpq hlt => exact .below values (hsub hpq) hlt

theorem newUnit (h : Alike pairs s t) {p q : Option UnitId}
    (hpq : (p.getD .root, q.getD .root) ∈ pairs) :
    Alike (pairs ++ [(⟨s.next⟩, ⟨t.next⟩)]) (s.newUnit p).2 (t.newUnit q).2 where
  numbered := ⟨h.numbered.1.newUnit p, h.numbered.2.newUnit q⟩
  lt x hx := by
    rcases List.mem_append.1 hx with hx | hx
    · exact ⟨Nat.lt_succ_of_lt (h.lt x hx).1, Nat.lt_succ_of_lt (h.lt x hx).2⟩
    · rw [List.mem_singleton.1 hx]
      exact ⟨Nat.lt_succ_self _, Nat.lt_succ_self _⟩
  eq_iff := by
    -- a unit that was there is not the new one
    have hne : ∀ x ∈ pairs, x.1 ≠ ⟨s.next⟩ ∧ x.2 ≠ ⟨t.next⟩ := fun x hx =>
      ⟨fun he => absurd (h.lt x hx).1 (by simp [he]), fun he => absurd (h.lt x hx).2 (by simp [he])⟩
    intro x hx y hy
    rcases List.mem_append.1 hx with hx | hx <;> rcases List.mem_append.1 hy with hy | hy
    · exact h.eq_iff x hx y hy
    · rw [List.mem_singleton.1 hy]
      simp [hne x hx]
    · rw [List.mem_singleton.1 hx]
      simp [(hne y hy).1.symm, (hne y hy).2.symm]
    · rw [List.mem_singleton.1 hx, List.mem_singleton.1 hy]
      simp
  node x hx := by
    rw [Store.node?_newUnit h.numbered.1, Store.node?_newUnit h.numbered.2]
    rcases List.mem_append.1 hx with hx | hx
    · rw [if_neg fun he => absurd (h.lt x hx).1 (by simp [he]),
        if_neg fun he => absurd (h.lt x hx).2 (by simp [he])]
      exact NodeAlike.mono (List.subset_append_left _ _) (h.node x hx)
    · rw [List.mem_singleton.1 hx, if_pos rfl, if_pos rfl]
      exact .below [] (List.mem_append_left _ hpq) (h.lt _ hpq).1

theorem set (h : Alike pairs s t) (huv : (u, v) ∈ pairs) {s' t' : Store} {key : String}
    {value : Json} (hs : s.set u key value = .ok s') (ht : t.set v key value = .ok t') :
    Alike pairs s' t' where
  numbered := ⟨h.numbered.1.set hs, h.numbered.2.set ht⟩
  lt := by
    rw [Store.next_set hs, Store.next_set ht]
    exact h.lt
  eq_iff := h.eq_iff
  node x hx := by
    have hiff := h.eq_iff x hx _ huv
    have hnode := h.node x hx
    rw [Store.node?_set hs, Store.node?_set ht]
    generalize s.node? x.1 = a, t.node? x.2 = b at hnode
    simp only at hiff
    cases hnode with
    | gone => exact .gone
    | top values =>
      simp only [Option.map_some, hiff]
      split
      · exact .top _
      · exact .top _
    | below values hpq hlt =>
      simp only [Option.map_some, hiff]
      split
      · exact .below _ hpq hlt
      · exact .below _ hpq hlt

theorem release (h : Alike pairs s t) (huv : (u, v) ∈ pairs) (hu : u ≠ .root) (hv : v ≠ .root) :
    Alike pairs (s.release u).2 (t.release v).2 where
  numbered := ⟨h.numbered.1.release u, h.numbered.2.release v⟩
  lt := by
    rw [Store.next_release, Store.next_release]
    exact h.lt
  eq_iff := h.eq_iff
  node x hx := by
    have hiff := h.eq_iff x hx _ huv
    rw [Store.node?_release, Store.node?_release]
    by_cases hxu : x.1 = u
    · rw [if_pos ⟨hxu, hu⟩, if_pos ⟨hiff.1 hxu, hv⟩]
      exact .gone
    · rw [if_neg fun he => hxu he.1, if_neg fun he => hxu (hiff.2 he.1)]
      exact h.node x hx

end Alike

/-! ## Steps -/

/-- A renaming that takes each unit to the one that it stands for. -/
def Follows (pairs : List (UnitId × UnitId)) (ρ : UnitId → UnitId) : Prop :=
  ∀ x ∈ pairs, ρ x.1 = x.2

theorem Alike.exists_follows {pairs : List (UnitId × UnitId)} {s t : Store}
    (h : Alike pairs s t) : ∃ ρ, Follows pairs ρ := by
  refine ⟨fun u => ((pairs.find? fun x => x.1 = u).map Prod.snd).getD .root, fun x hx => ?_⟩
  cases hfind : pairs.find? fun y => y.1 = x.1 with
  | none => exact absurd hx (by simpa using List.find?_eq_none.1 hfind x)
  | some y =>
    have hy : y.1 = x.1 := by simpa using List.find?_some hfind
    simp only [hfind, Option.map_some, Option.getD_some]
    exact (h.eq_iff y (List.mem_of_find?_eq_some hfind) x hx).1 hy

/-- The same operation on units that stand for each other. -/
theorem Op.run_alike {pairs : List (UnitId × UnitId)} {s t : Store} {f g : Nat → UnitId}
    (h : Alike pairs s t) (hroot : (.root, .root) ∈ pairs) (hunit : ∀ n, (f n, g n) ∈ pairs)
    (hf : ∀ n, f n ≠ .root) (hg : ∀ n, g n ≠ .root) (op : Op) :
    (op.run f s).1.created.length = (op.run g t).1.created.length ∧
    let pairs' := pairs ++ (op.run f s).1.created.zip (op.run g t).1.created
    Alike pairs' (op.run f s).2 (op.run g t).2 ∧
      ∀ ρ, Follows pairs' ρ → (op.run g t).1 = (op.run f s).1.rename ρ := by
  cases op with
  | newUnit parent =>
    have hparent : ((parent.map f).getD .root, (parent.map g).getD .root) ∈ pairs := by
      cases parent with
      | none => exact hroot
      | some n => exact hunit n
    refine ⟨rfl, h.newUnit hparent, fun ρ hρ => ?_⟩
    have hnew := hρ (⟨s.next⟩, ⟨t.next⟩) (by simp [run, Answer.created, Store.newUnit])
    exact congrArg Answer.unit hnew.symm
  | set n key value =>
    have hcontains := h.contains_eq (hunit n)
    cases hlive : s.contains (f n) with
    | true =>
      obtain ⟨s', hs⟩ := Store.set_eq_ok hlive key value
      obtain ⟨t', ht⟩ := Store.set_eq_ok (hcontains ▸ hlive) key value
      simp only [run, hs, ht, Answer.created, List.zip_nil_left, List.append_nil, true_and]
      exact ⟨h.set (hunit n) hs ht, fun ρ _ => rfl⟩
    | false =>
      simp only [run, Store.set_eq_error hlive, Store.set_eq_error (hcontains ▸ hlive),
        Answer.created, List.zip_nil_left, List.append_nil, true_and]
      refine ⟨h, fun ρ hρ => ?_⟩
      exact congrArg (fun x => Answer.set (.error (.unknownUnit x))) (hρ _ (hunit n)).symm
  | get n key =>
    simp only [run, Answer.created, List.zip_nil_left, List.append_nil, true_and]
    exact ⟨h, fun ρ hρ => congrArg Answer.got (h.get (hunit n) (hρ _ (hunit n)) key).symm⟩
  | release n =>
    have hwas : (s.release (f n)).1 = (t.release (g n)).1 := by
      rw [Store.release_fst (hf n), Store.release_fst (hg n), h.contains_eq (hunit n)]
    simp only [run, Answer.created, List.zip_nil_left, List.append_nil, true_and]
    exact ⟨h.release (hunit n) (hf n) (hg n), fun ρ _ => congrArg Answer.released hwas.symm⟩

theorem Op.numbered_run {s : Store} (h : s.Numbered) (unit : Nat → UnitId) (op : Op) :
    (op.run unit s).2.Numbered := by
  cases op with
  | newUnit parent => exact h.newUnit _
  | set n key value =>
    cases hs : s.set (unit n) key value with
    | ok s' => simpa [run, hs] using h.set hs
    | error e => simpa [run, hs] using h
  | get n key => exact h
  | release n => exact h.release _

/-- How many units an operation creates; the new one has the next id. -/
theorem Op.created_run (unit : Nat → UnitId) (op : Op) (s : Store) :
    (op.run unit s).1.created = [] ∧ (op.run unit s).2.next = s.next ∨
      (op.run unit s).1.created = [⟨s.next⟩] ∧ (op.run unit s).2.next = s.next + 1 := by
  cases op with
  | newUnit parent => exact .inr ⟨rfl, rfl⟩
  | set n key value =>
    cases hs : s.set (unit n) key value with
    | ok s' => simp [run, hs, Answer.created, Store.next_set hs]
    | error e => simp [run, hs, Answer.created]
  | get n key => exact .inl ⟨rfl, rfl⟩
  | release n => exact .inl ⟨rfl, Store.next_release s _⟩

/-- An operation changes nothing but the units it is about. -/
theorem Op.node?_run {s : Store} (h : s.Numbered) {unit : Nat → UnitId} {u : UnitId}
    (hu : ∀ n, u ≠ unit n) (hlt : u.number < s.next) (op : Op) :
    (op.run unit s).2.node? u = s.node? u := by
  cases op with
  | newUnit parent =>
    exact (Store.node?_newUnit h _ u).trans (if_neg fun he => by simp [he] at hlt)
  | set n key value =>
    cases hs : s.set (unit n) key value with
    | ok s' =>
      simp only [run, hs, Store.node?_set hs, if_neg (hu n), Option.map_id']
    | error e => simp only [run, hs]
  | get n key => rfl
  | release n => exact (Store.node?_release s _ u).trans (if_neg fun he => hu n he.1)

/-! ## Ids that are given out -/

/-- Ids that were given out one after the other, from `first` on and before `next`. -/
structure Issued (first : Nat) (ids : List UnitId) (next : Nat) : Prop where
  le : first ≤ next
  ascending : ids.Pairwise fun u v => u.number < v.number
  bounds : ∀ u ∈ ids, first ≤ u.number ∧ u.number < next

/-- All ids from `first` on and before `next`. -/
structure Consecutive (first : Nat) (ids : List UnitId) (next : Nat) : Prop where
  next : next = first + ids.length
  ids : ids = (List.range ids.length).map fun k => ⟨first + k⟩

section

variable {first : Nat} {ids : List UnitId} {s : Store}

theorem Issued.mono {n n' : Nat} (h : Issued first ids n) (hle : n ≤ n') : Issued first ids n' where
  le := Nat.le_trans h.le hle
  ascending := h.ascending
  bounds u hu := ⟨(h.bounds u hu).1, Nat.lt_of_lt_of_le (h.bounds u hu).2 hle⟩

theorem Issued.run (h : Issued first ids s.next) (unit : Nat → UnitId) (op : Op) :
    Issued first (ids ++ (op.run unit s).1.created) (op.run unit s).2.next := by
  obtain ⟨hc, hn⟩ | ⟨hc, hn⟩ := op.created_run unit s <;> rw [hc, hn]
  · rw [List.append_nil]
    exact h
  · refine ⟨Nat.le_succ_of_le h.le, ?_, ?_⟩
    · refine List.pairwise_append.2 ⟨h.ascending, List.pairwise_singleton _ _, fun u hu v hv => ?_⟩
      rw [List.mem_singleton.1 hv]
      exact (h.bounds u hu).2
    · intro u hu
      rcases List.mem_append.1 hu with hu | hu
      · exact ((h.mono (Nat.le_succ _)).bounds u hu)
      · rw [List.mem_singleton.1 hu]
        exact ⟨h.le, Nat.lt_succ_self _⟩

theorem Consecutive.snoc {n : Nat} (h : Consecutive first ids n) :
    Consecutive first (ids ++ [⟨n⟩]) (n + 1) := by
  constructor
  · rw [List.length_append, List.length_singleton, h.next, Nat.add_assoc]
  · rw [List.length_append, List.length_singleton, List.range_succ, List.map_append, ← h.ids,
      List.map_singleton, h.next]

theorem Consecutive.run (h : Consecutive first ids s.next) (unit : Nat → UnitId) (op : Op) :
    Consecutive first (ids ++ (op.run unit s).1.created) (op.run unit s).2.next := by
  obtain ⟨hc, hn⟩ | ⟨hc, hn⟩ := op.created_run unit s <;> rw [hc, hn]
  · rw [List.append_nil]
    exact h
  · exact h.snoc

theorem Consecutive.le {n : Nat} (h : Consecutive first ids n) : ∀ u ∈ ids, first ≤ u.number := by
  intro u hu
  rw [h.ids] at hu
  obtain ⟨k, -, rfl⟩ := List.mem_map.1 hu
  exact Nat.le_add_right first k

theorem Consecutive.getElem {n : Nat} (h : Consecutive first ids n) {k : Nat}
    (hk : k < ids.length) : ids[k] = ⟨first + k⟩ := by
  have hids := congrArg (·[k]?) h.ids
  simpa [hk] using hids

end

/-! ## A program alone and among others -/

namespace Party

variable {p q : Party}

theorem step_done (h : p.program = .done) (s : Store) : p.step s = (p, s) := by
  simp only [step, h]

theorem step_perform {op : Op} {next : Answer → Program} (h : p.program = .perform op next)
    (s : Store) : p.step s =
      ({ p with program := next (op.run p.unit s).1.seen
                created := p.created ++ (op.run p.unit s).1.created
                answers := p.answers ++ [(op.run p.unit s).1] }, (op.run p.unit s).2) := by
  simp only [step, h]

/-- The units of a program in two runs that stand for each other, and the root. -/
def pairs (p q : Party) : List (UnitId × UnitId) := (.root, .root) :: p.own.zip q.own

theorem unit_mem (p : Party) (n : Nat) : p.unit n ∈ p.own := by
  unfold unit
  rw [List.getD_eq_getElem?_getD]
  cases hn : p.own[n]? with
  | none => exact .head _
  | some u => exact List.mem_of_getElem? hn

theorem unit_mem_pairs (hlen : p.created.length = q.created.length) (n : Nat) :
    (p.unit n, q.unit n) ∈ p.pairs q := by
  have hlen : p.own.length = q.own.length := congrArg Nat.succ hlen
  refine List.mem_cons_of_mem _ ?_
  unfold unit
  rw [List.getD_eq_getElem?_getD, List.getD_eq_getElem?_getD]
  by_cases hn : n < p.own.length
  · have hn' : n < q.own.length := hlen ▸ hn
    have hz : (p.own.zip q.own)[n]? = some (p.own[n], q.own[n]) := by
      rw [List.getElem?_eq_getElem (by rw [List.length_zip]; exact Nat.lt_min.2 ⟨hn, hn'⟩),
        List.getElem_zip]
    simpa [hn, hn'] using List.mem_of_getElem? hz
  · rw [List.getElem?_eq_none (Nat.le_of_not_lt hn),
      List.getElem?_eq_none (hlen ▸ Nat.le_of_not_lt hn)]
    exact .head _

end Party

/-- A program in a run of its own, at `p` in `s`, and the same program among others, at `q` in `t`.
Alone it is given all ids from `first` on. -/
structure Parallel (first : Nat) (p : Party) (s : Store) (q : Party) (t : Store) : Prop where
  given : p.given = q.given
  given_ne : p.given ≠ .root
  given_lt : p.given.number < first
  program : p.program = q.program
  length : p.created.length = q.created.length
  alike : Alike (p.pairs q) s t
  answers : ∀ ρ, Follows (p.pairs q) ρ → q.answers = p.answers.map (Answer.rename ρ)
  alone : Consecutive first p.created s.next
  among : Issued first q.created t.next

namespace Parallel

variable {first : Nat} {p q : Party} {s t : Store}

theorem ne_root_of_le (h : Parallel first p s q t) {u : UnitId} (hu : first ≤ u.number) :
    u ≠ .root := by
  rintro rfl
  exact Nat.not_lt_zero _ (Nat.lt_of_lt_of_le h.given_lt hu)

theorem ne_root (h : Parallel first p s q t) : ∀ u ∈ q.own, u ≠ .root := by
  intro u hu
  rcases List.mem_cons.1 hu with rfl | hu
  · exact h.given ▸ h.given_ne
  · exact h.ne_root_of_le (h.among.bounds u hu).1

theorem ne_root_alone (h : Parallel first p s q t) : ∀ u ∈ p.own, u ≠ .root := by
  intro u hu
  rcases List.mem_cons.1 hu with rfl | hu
  · exact h.given_ne
  · exact h.ne_root_of_le (h.alone.le u hu)

/-- Both runs go on. -/
theorem step (h : Parallel first p s q t) :
    Parallel first (p.step s).1 (p.step s).2 (q.step t).1 (q.step t).2 := by
  cases hp : p.program with
  | done =>
    rw [Party.step_done hp, Party.step_done (h.program ▸ hp)]
    exact h
  | perform op next =>
    rw [Party.step_perform hp, Party.step_perform (h.program ▸ hp)]
    obtain ⟨hlen, halike, hanswer⟩ := op.run_alike h.alike (.head _)
      (fun n => Party.unit_mem_pairs h.length n)
      (fun n => h.ne_root_alone _ (p.unit_mem n)) (fun n => h.ne_root _ (q.unit_mem n))
    have halone := h.alone.run p.unit op
    have hamong := h.among.run q.unit op
    generalize op.run p.unit s = x at *
    generalize op.run q.unit t = y at *
    have hown : p.own.length = q.own.length := congrArg Nat.succ h.length
    have hpairs : p.pairs q ++ x.1.created.zip y.1.created =
        (.root, .root) :: (p.own ++ x.1.created).zip (q.own ++ y.1.created) := by
      rw [List.zip_append hown, Party.pairs, List.cons_append]
    simp only [hpairs] at halike hanswer
    obtain ⟨ρ₀, hρ₀⟩ := halike.exists_follows
    exact
      { given := h.given
        given_ne := h.given_ne
        given_lt := h.given_lt
        program := by
          change next x.1.seen = next y.1.seen
          rw [hanswer ρ₀ hρ₀, Answer.seen_rename]
        length := by simp [h.length, hlen]
        alike := halike
        answers := fun ρ hρ => by
          have hold : Follows (p.pairs q) ρ := fun z hz =>
            hρ z (by
              change z ∈ (.root, .root) :: (p.own ++ x.1.created).zip (q.own ++ y.1.created)
              exact hpairs ▸ List.mem_append_left _ hz)
          simp [h.answers ρ hold, hanswer ρ hρ]
        alone := halone
        among := hamong }

/-- Another program makes a step. -/
theorem frame (h : Parallel first p s q t) {unit : Nat → UnitId}
    (hunit : ∀ u ∈ q.own, ∀ n, u ≠ unit n) (hroot : ∀ n, unit n ≠ .root) (op : Op) :
    Parallel first p s q (op.run unit t).2 := by
  have hnext : t.next ≤ (op.run unit t).2.next := by
    rcases op.created_run unit t with ⟨-, hn⟩ | ⟨-, hn⟩ <;> omega
  have hnode : ∀ x ∈ p.pairs q, (op.run unit t).2.node? x.2 = t.node? x.2 := by
    intro x hx
    refine Op.node?_run h.alike.numbered.2 (fun n => ?_) (h.alike.lt x hx).2 op
    rcases List.mem_cons.1 hx with rfl | hx
    · exact (hroot n).symm
    · exact hunit _ (List.of_mem_zip hx).2 n
  exact { h with
    alike := h.alike.frame (op.numbered_run h.alike.numbered.2 unit) hnext hnode
    among := h.among.mono hnext }

end Parallel

/-! ## Runs -/

namespace World

variable {ι : Type}

/-- The units of each program are its own. -/
structure Apart (w : World ι) : Prop where
  numbered : w.store.Numbered
  lt : ∀ i, ∀ u ∈ (w.party i).own, u.number < w.store.next
  ne_root : ∀ i, ∀ u ∈ (w.party i).own, u ≠ .root
  disjoint : ∀ i j, ∀ u ∈ (w.party i).own, u ∈ (w.party j).own → i = j
  root_lt : 0 < w.store.next

variable [DecidableEq ι]

theorem store_turn (w : World ι) (i : ι) : (w.turn i).store = ((w.party i).step w.store).2 := rfl

theorem party_turn_self (w : World ι) (i : ι) :
    (w.turn i).party i = ((w.party i).step w.store).1 := if_pos rfl

theorem party_turn_of_ne (w : World ι) {i j : ι} (h : j ≠ i) : (w.turn i).party j = w.party j :=
  if_neg h

/-- The units of a program after a step: at most one more, with the next id. -/
theorem own_step (p : Party) (s : Store) :
    (p.step s).1.own = p.own ∧ (p.step s).2.next = s.next ∨
      (p.step s).1.own = p.own ++ [⟨s.next⟩] ∧ (p.step s).2.next = s.next + 1 := by
  cases hp : p.program with
  | done => exact .inl (by rw [Party.step_done hp]; exact ⟨rfl, rfl⟩)
  | perform op next =>
    rw [Party.step_perform hp]
    rcases op.created_run p.unit s with ⟨hc, hn⟩ | ⟨hc, hn⟩
    · exact .inl ⟨by simp [Party.own, hc], hn⟩
    · exact .inr ⟨by simp [Party.own, hc], hn⟩

theorem next_turn (w : World ι) (i : ι) : w.store.next ≤ (w.turn i).store.next := by
  rw [store_turn]
  rcases own_step (w.party i) w.store with ⟨-, hn⟩ | ⟨-, hn⟩ <;> omega

/-- A unit of any program after a turn was its own before, or is the new one. -/
theorem own_turn (w : World ι) (i : ι) {j : ι} {u : UnitId} (hu : u ∈ ((w.turn i).party j).own) :
    u ∈ (w.party j).own ∨
      j = i ∧ u = ⟨w.store.next⟩ ∧ (w.turn i).store.next = w.store.next + 1 := by
  by_cases hj : j = i
  · subst hj
    rw [party_turn_self] at hu
    rcases own_step (w.party j) w.store with ⟨ho, -⟩ | ⟨ho, hn⟩ <;> rw [ho] at hu
    · exact .inl hu
    · exact (List.mem_append.1 hu).imp_right fun hu => ⟨rfl, List.mem_singleton.1 hu, hn⟩
  · rw [party_turn_of_ne w hj] at hu
    exact .inl hu

theorem Apart.turn {w : World ι} (h : w.Apart) (i : ι) : (w.turn i).Apart := by
  have hroot : UnitId.root ≠ ⟨w.store.next⟩ := fun he =>
    Nat.ne_of_lt h.root_lt (congrArg UnitId.number he)
  refine ⟨?_, ?_, ?_, ?_, Nat.lt_of_lt_of_le h.root_lt (w.next_turn i)⟩
  · rw [store_turn]
    cases hp : (w.party i).program with
    | done => exact Party.step_done hp w.store ▸ h.numbered
    | perform op next => exact Party.step_perform hp w.store ▸ op.numbered_run h.numbered _
  · intro j u hu
    rcases w.own_turn i hu with hu | ⟨-, rfl, hn⟩
    · exact Nat.lt_of_lt_of_le (h.lt j u hu) (w.next_turn i)
    · exact hn ▸ Nat.lt_succ_self _
  · intro j u hu
    rcases w.own_turn i hu with hu | ⟨-, rfl, -⟩
    · exact h.ne_root j u hu
    · exact hroot.symm
  · intro j k u hj hk
    have hnew : ∀ {j : ι}, u ∈ (w.party j).own → u ≠ ⟨w.store.next⟩ := fun hu he =>
      Nat.lt_irrefl _ (he ▸ h.lt _ u hu)
    rcases w.own_turn i hj with hj | ⟨hji, hu, -⟩ <;>
      rcases w.own_turn i hk with hk | ⟨hki, hu', -⟩
    · exact h.disjoint j k u hj hk
    · exact absurd hu' (hnew hj)
    · exact absurd hu (hnew hk)
    · exact hji.trans hki.symm

/-- Whatever the others do in between, a program among them goes on as if it were alone. -/
theorem Apart.parallel {first : Nat} (i : ι) (schedule : List ι) :
    ∀ {w : World ι} {x : Party × Store}, w.Apart →
    Parallel first x.1 x.2 (w.party i) w.store →
    Parallel first (Party.run (schedule.count i) x).1 (Party.run (schedule.count i) x).2
      ((w.run schedule).party i) (w.run schedule).store := by
  induction schedule with
  | nil => exact fun _ h => h
  | cons j schedule ih =>
    intro w x hw h
    by_cases hj : j = i
    · subst hj
      rw [List.count_cons_self]
      refine ih (hw.turn j) ?_
      rw [party_turn_self, store_turn]
      exact h.step
    · rw [List.count_cons_of_ne hj]
      refine ih (hw.turn j) ?_
      rw [party_turn_of_ne w (Ne.symm hj), store_turn]
      cases hp : (w.party j).program with
      | done => rwa [Party.step_done hp]
      | perform op next =>
        rw [Party.step_perform hp]
        refine h.frame (fun u hu n he => ?_) (fun n => ?_) op
        · exact hj (hw.disjoint _ _ u (he ▸ Party.unit_mem _ n) hu)
        · exact hw.ne_root j _ (Party.unit_mem _ n)

end World

/-! ## Renamings -/

/-- A renaming that leaves the ids below a number alone and keeps the order of all. -/
structure Renaming (first : Nat) (ρ : UnitId → UnitId) : Prop where
  old : ∀ u : UnitId, u.number < first → ρ u = u
  mono : ∀ u v : UnitId, u.number < v.number → (ρ u).number < (ρ v).number

/-- The ids from `first` on become the given ones in turn, and those after them are moved up. -/
def renameFrom (first : Nat) (ids : List UnitId) (shift : Nat) (u : UnitId) : UnitId :=
  if u.number < first then u else (ids[u.number - first]?).getD ⟨u.number + shift⟩

theorem Issued.renaming {first shift : Nat} {ids : List UnitId} (h : Issued first ids shift) :
    Renaming first (renameFrom first ids shift) := by
  refine ⟨fun u hu => if_pos hu, fun u v huv => ?_⟩
  unfold renameFrom
  split
  · split
    · exact huv
    · rename_i hu hv
      cases hk : ids[v.number - first]? with
      | none => simp only [Option.getD_none]; omega
      | some w =>
        have hle := (h.bounds w (List.mem_of_getElem? hk)).1
        simp only [Option.getD_some]
        omega
  · rename_i hu
    rw [if_neg (by omega)]
    cases hk : ids[u.number - first]? with
    | none =>
      have hlen := List.getElem?_eq_none_iff.1 hk
      rw [List.getElem?_eq_none (by omega)]
      simp only [Option.getD_none]
      omega
    | some w =>
      have hw := h.bounds w (List.mem_of_getElem? hk)
      cases hl : ids[v.number - first]? with
      | none => simp only [Option.getD_some, Option.getD_none]; omega
      | some x =>
        obtain ⟨hi, rfl⟩ := List.getElem?_eq_some_iff.1 hk
        obtain ⟨hj, rfl⟩ := List.getElem?_eq_some_iff.1 hl
        exact List.pairwise_iff_getElem.1 h.ascending _ _ hi hj (by omega)

theorem Parallel.exists_renaming {first : Nat} {p q : Party} {s t : Store}
    (h : Parallel first p s q t) :
    ∃ ρ, Renaming first ρ ∧ q.answers = p.answers.map (Answer.rename ρ) := by
  have hρ := h.among.renaming
  refine ⟨_, hρ, h.answers _ fun x hx => ?_⟩
  rcases List.mem_cons.1 hx with rfl | hx
  · exact hρ.old _ (Nat.zero_lt_of_lt h.given_lt)
  · rw [Party.own, Party.own, List.zip_cons_cons] at hx
    rcases List.mem_cons.1 hx with rfl | hx
    · exact (hρ.old _ h.given_lt).trans h.given
    · obtain ⟨n, hn, rfl⟩ := List.mem_iff_getElem.1 hx
      have hn' : n < p.created.length ∧ n < q.created.length := by
        simpa [List.length_zip, h.length] using hn
      rw [List.getElem_zip]
      simp only [renameFrom, h.alone.getElem hn'.1]
      rw [if_neg (by omega), Nat.add_sub_cancel_left, List.getElem?_eq_getElem hn'.2,
        Option.getD_some]

/-! ## From the start -/

theorem World.apart_start {ι : Type} {s : Store} (hs : s.Reachable) {given : ι → UnitId}
    (hgiven : ∀ i, s.parent? (given i) = some .root) (hdistinct : ∀ i j, given i = given j → i = j)
    (program : ι → Program) : (World.start s given program).Apart := by
  obtain ⟨values, hroot⟩ := hs.root
  exact
    { numbered := hs.numbered
      lt := fun i u hu => List.mem_singleton.1 hu ▸ (hs.below_root (hgiven i)).2.1
      ne_root := fun i u hu => List.mem_singleton.1 hu ▸ (hs.below_root (hgiven i)).2.2
      disjoint := fun i j u hi hj =>
        hdistinct i j ((List.mem_singleton.1 hi).symm.trans (List.mem_singleton.1 hj))
      root_lt := hs.numbered.lt hroot }

/-- A store is like itself, at the root and at a unit right below it. -/
theorem Alike.start {s : Store} (hs : s.Reachable) {u : UnitId} (hu : s.parent? u = some .root) :
    Alike [(.root, .root), (u, u)] s s := by
  obtain ⟨⟨values, hnode⟩, hlt, hne⟩ := hs.below_root hu
  obtain ⟨top, hroot⟩ := hs.root
  have hpos : UnitId.root.number < u.number :=
    Nat.pos_of_ne_zero fun h => hne (congrArg UnitId.mk h)
  exact
    { numbered := ⟨hs.numbered, hs.numbered⟩
      lt := by simp [hs.numbered.lt hroot, hlt]
      eq_iff := by simp
      node := by
        simp only [List.mem_cons, List.not_mem_nil, or_false, forall_eq_or_imp, forall_eq, hroot,
          hnode]
        exact ⟨.top top, .below values (.head _) hpos⟩ }

theorem Parallel.start {s : Store} (hs : s.Reachable) {u : UnitId} (hu : s.parent? u = some .root)
    (program : Program) :
    Parallel s.next ⟨u, program, [], []⟩ s ⟨u, program, [], []⟩ s := by
  obtain ⟨-, hlt, hne⟩ := hs.below_root hu
  exact
    { given := rfl
      given_ne := hne
      given_lt := hlt
      program := rfl
      length := rfl
      alike := .start hs hu
      answers := fun _ _ => rfl
      alone := ⟨rfl, rfl⟩
      among := ⟨Nat.le_refl _, .nil, by simp⟩ }

/-- Programs with units of their own right below the root, whichever of them is next at each step:
each is answered what it would be answered if it were alone, but for a renaming of the ids that
were given out meanwhile. -/
theorem answers_run {ι : Type} [DecidableEq ι] {s : Store} (hs : s.Reachable) {given : ι → UnitId}
    (hgiven : ∀ i, s.parent? (given i) = some .root) (hdistinct : ∀ i j, given i = given j → i = j)
    (program : ι → Program) (schedule : List ι) (i : ι) :
    let alone := Party.run (schedule.count i) (⟨given i, program i, [], []⟩, s)
    let among := ((World.start s given program).run schedule).party i
    ∃ ρ, Renaming s.next ρ ∧ among.answers = alone.1.answers.map (Answer.rename ρ) := by
  have hapart := World.apart_start hs hgiven hdistinct program
  have hstart := Parallel.start hs (hgiven i) (program i)
  exact (hapart.parallel i schedule (x := (_, s)) hstart).exists_renaming

/-- A store with two units right below the root. -/
def siblings : Store := ((({} : Store).newUnit none).2.newUnit none).2

/-- One program opens a unit below its own; the other does too, sets a value there, and releases
the unit it was given. -/
def neighbours (second : Bool) : Program :=
  if second then .perform (.newUnit (some 0)) fun _ => .done
  else
    .perform (.newUnit (some 0)) fun _ => .perform (.set 1 "k" (.bool true)) fun _ =>
    .perform (.release 0) fun _ => .perform (.get 0 "k") fun _ =>
    .perform (.get 1 "k") fun _ => .done

/-- The second program goes first and takes the id 3. -/
theorem answers_run_neighbours :
    siblings.Reachable ∧
    (∀ i : Bool, siblings.parent? (if i then ⟨2⟩ else ⟨1⟩) = some .root) ∧
    ∃ ρ, Renaming 3 ρ ∧
      [.unit ⟨4⟩, .set (.ok ()), .released true, .got (.error (.unknownUnit ⟨1⟩)),
        .got (.ok (.bool true))] =
      [.unit ⟨3⟩, .set (.ok ()), .released true, .got (.error (.unknownUnit ⟨1⟩)),
        .got (.ok (.bool true))].map (Answer.rename ρ) := by
  have hs : siblings.Reachable := .newUnit none (.newUnit none .first)
  have hgiven : ∀ i : Bool, siblings.parent? (if i then ⟨2⟩ else ⟨1⟩) = some .root := by decide
  have hdistinct : ∀ i j : Bool,
      (if i then ⟨2⟩ else ⟨1⟩ : UnitId) = (if j then ⟨2⟩ else ⟨1⟩) → i = j := by
    decide
  obtain ⟨ρ, hρ, h⟩ :=
    answers_run hs hgiven hdistinct neighbours [true, false, false, false, false, false] false
  exact ⟨hs, hgiven, ρ, hρ, h⟩

end RequestDispatch.Context
