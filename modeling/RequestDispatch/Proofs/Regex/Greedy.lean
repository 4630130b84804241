import RequestDispatch.Regex

/-!
# The preferred way through a sequence

`find?` takes the first state that an expression yields, so of a sequence only heads matter: the
head behind `a` and then `b` is the first head of `b` behind a state of `a` (`head?_run_cat`).
A greedy repetition of a set yields one state for each length from the longest run down to one
character (`loopStates_oneOrMore`), in that order.
-/

set_option autoImplicit false

namespace RequestDispatch.Regex

open Text (CharSet)
open State

/-! ## Steps forward -/

/-- The state some characters further on. -/
def State.skip (s : State) (n : Nat) : State :=
  { s with before := (s.after.take n).reverse ++ s.before, after := s.after.drop n,
           offset := s.offset + n }

namespace State

@[simp] theorem skip_after (s : State) (n : Nat) : (s.skip n).after = s.after.drop n := rfl

@[simp] theorem skip_offset (s : State) (n : Nat) : (s.skip n).offset = s.offset + n := rfl

@[simp] theorem skip_zero (s : State) : s.skip 0 = s := rfl

theorem skip_skip (s : State) (m n : Nat) : (s.skip m).skip n = s.skip (m + n) := by
  simp only [skip, mk.injEq, List.drop_drop, Nat.add_assoc, and_true]
  rw [List.take_add, List.reverse_append, List.append_assoc]

theorem advance_of_cons {s : State} {c : Char} {rest : List Char} (h : s.after = c :: rest)
    (set : CharSet) : s.advance set = if set.contains c then [s.skip 1] else [] := by
  simp [advance, skip, h]

theorem advance_of_nil {s : State} (h : s.after = []) (set : CharSet) : s.advance set = [] := by
  simp [advance, h]

/-- The number of characters of a set that come next. -/
def ahead (s : State) (set : CharSet) : Nat := (s.after.takeWhile set.contains).length

theorem ahead_le (s : State) (set : CharSet) : s.ahead set ≤ s.after.length :=
  (List.takeWhile_prefix _).length_le

/-- A step takes one of the characters that come next. -/
theorem advance_eq (s : State) (set : CharSet) :
    (s.ahead set = 0 ∧ s.advance set = []) ∨
      (s.ahead set = (s.skip 1).ahead set + 1 ∧ s.advance set = [s.skip 1]) := by
  unfold ahead
  cases h : s.after with
  | nil => exact .inl ⟨rfl, advance_of_nil h set⟩
  | cons c rest =>
    cases hc : set.contains c with
    | false => simp [advance_of_cons h, hc]
    | true => simp [advance_of_cons h, hc, h]

end State

/-! ## Repetitions -/

/-- The numbers from `n` down to one. -/
def downTo : Nat → List Nat
  | 0 => []
  | n + 1 => (n + 1) :: downTo n

theorem mem_downTo {n k : Nat} : k ∈ downTo n ↔ 1 ≤ k ∧ k ≤ n := by
  induction n with
  | zero => simp only [downTo, List.not_mem_nil, false_iff]; omega
  | succ n ih => rw [downTo, List.mem_cons, ih]; omega

theorem length_downTo (n : Nat) : (downTo n).length = n := by
  induction n with
  | zero => rfl
  | succ n ih => rw [downTo, List.length_cons, ih]

theorem downTo_pairwise (n : Nat) : (downTo n).Pairwise fun a b => b < a := by
  induction n with
  | zero => exact .nil
  | succ n ih => exact .cons (fun k hk => Nat.lt_succ_of_le (mem_downTo.1 hk).2) ih

theorem downTo_succ (n : Nat) : downTo (n + 1) = (downTo n).map (· + 1) ++ [1] := by
  induction n with
  | zero => rfl
  | succ n ih => exact congrArg (List.cons (n + 2)) ih

section
variable {set : CharSet} {width fuel : Nat} {step : State → List State} {rest : List Task} {s : State}
  {visited entered left : OffsetSet}

theorem explore_enter (h : entered.contains s.offset = false) :
    explore true none width step (fuel + 1) (.enter 0 s :: rest) visited entered left =
      explore true none width step fuel ((step s).map (.visit 0) ++ rest) visited
        (entered.insert s.offset) left := by
  simp [explore, h]

theorem explore_visit (h : visited.contains s.offset = false) :
    explore true none width step (fuel + 1) (.visit 0 s :: rest) visited entered left =
      explore true none width step fuel (.enter 0 s :: .leave s :: rest) (visited.insert s.offset)
        entered left := by
  simp [explore, h]

theorem explore_leave (h : left.contains s.offset = false) :
    explore true none width step (fuel + 1) (.leave s :: rest) visited entered left =
      s :: explore true none width step fuel rest visited entered (left.insert s.offset) := by
  simp [explore, h]

end

section
variable (set : CharSet) (width : Nat)

/-- Rounds over a set that prefer more go on for as long as they can; what is left to do then is to
leave, from the last place on. -/
theorem explore_rounds (fuel j : Nat) : ∀ {s : State} (rest : List Task)
    {visited entered left : OffsetSet}, s.ahead set = j →
    (∀ k, s.offset ≤ k → entered.contains k = false) →
    (∀ k, s.offset < k → visited.contains k = false) →
    ∃ visited' entered',
      explore true none width (·.advance set) (fuel + (2 * j + 1)) (.enter 0 s :: rest)
        visited entered left =
      explore true none width (·.advance set) fuel
        ((downTo j).map (fun k => .leave (s.skip k)) ++ rest) visited' entered' left := by
  induction j with
  | zero =>
    intro s rest visited entered left hj he hv
    rcases s.advance_eq set with ⟨-, ha⟩ | ⟨h₁, -⟩
    · refine ⟨visited, entered.insert s.offset, ?_⟩
      rw [Nat.mul_zero, Nat.zero_add, explore_enter (he _ (Nat.le_refl _)), ha]
      rfl
    · omega
  | succ j ih =>
    intro s rest visited entered left hj he hv
    rcases s.advance_eq set with ⟨h₀, -⟩ | ⟨h₁, ha⟩
    · omega
    · have he' : ∀ k, (s.skip 1).offset ≤ k → (entered.insert s.offset).contains k = false := by
        intro k hk
        rw [skip_offset] at hk
        rw [OffsetSet.contains_insert, he k (by omega), decide_eq_false (by omega), Bool.or_false]
      have hv' : ∀ k, (s.skip 1).offset < k →
          (visited.insert (s.offset + 1)).contains k = false := by
        intro k hk
        rw [skip_offset] at hk
        rw [OffsetSet.contains_insert, hv k (by omega), decide_eq_false (by omega), Bool.or_false]
      obtain ⟨visited', entered', h⟩ := ih (s := s.skip 1) (.leave (s.skip 1) :: rest)
        (by omega) he' hv'
      refine ⟨visited', entered', ?_⟩
      have hskip : ∀ k, (s.skip 1).skip k = s.skip (k + 1) := fun k => by
        rw [skip_skip, Nat.add_comm]
      have hvisit : visited.contains (s.skip 1).offset = false := hv _ (Nat.lt_succ_self _)
      simp only [hskip] at h
      rw [show fuel + (2 * (j + 1) + 1) = fuel + (2 * j + 1) + 1 + 1 by omega,
        explore_enter (he _ (Nat.le_refl _)), ha, List.map_singleton, List.singleton_append,
        explore_visit hvisit, skip_offset, h, downTo_succ, List.map_append, List.map_map,
        List.append_assoc]
      rfl

/-- Leaving from different places, each for the first time. -/
theorem explore_leaves (visited entered : OffsetSet) {states : List State} :
    ∀ {fuel : Nat} {left : OffsetSet}, states.length ≤ fuel → (states.map (·.offset)).Nodup →
    (∀ s ∈ states, left.contains s.offset = false) →
    explore true none width (·.advance set) fuel (states.map .leave) visited entered left =
      states := by
  induction states with
  | nil => intro fuel left _ _ _; cases fuel <;> rfl
  | cons s states ih =>
    intro fuel left hf hd hl
    obtain ⟨fuel, rfl⟩ : ∃ k, fuel = k + 1 := ⟨fuel - 1, by simp only [List.length_cons] at hf; omega⟩
    rw [List.map_cons, List.nodup_cons] at hd
    rw [List.map_cons, explore_leave (hl s (.head _)),
      ih (Nat.le_of_succ_le_succ hf) hd.2 fun t ht => ?_]
    have hne : s.offset ≠ t.offset := fun h => hd.1 (h ▸ List.mem_map_of_mem ht)
    rw [OffsetSet.contains_insert, hl t (.tail _ ht), decide_eq_false hne, Bool.or_false]

end

/-- One or more characters of a set, as many as possible preferred. -/
theorem loopStates_oneOrMore (s : State) (set : CharSet) :
    loopStates 1 none true (·.advance set) s = (downTo (s.ahead set)).map s.skip := by
  have hle := s.ahead_le set
  -- three tasks for each character are fewer than the bound
  obtain ⟨fuel, hfuel, hbound⟩ : ∃ fuel, s.ahead set ≤ fuel ∧
      taskBound none (s.offset + s.after.length + 1) 1 = fuel + (2 * s.ahead set + 1) := by
    have hmul : 3 * (s.offset + s.after.length + 1 + 1) ≤
        (s.offset + s.after.length + 1 + 1) * (s.offset + s.after.length + 1 + 4) := by
      rw [Nat.mul_comm]
      exact Nat.mul_le_mul_left _ (by omega)
    simp only [taskBound, Option.getD_none, Nat.zero_add, Nat.one_mul]
    exact ⟨_, by omega, (Nat.sub_add_cancel (by omega)).symm⟩
  obtain ⟨visited, entered, h⟩ := explore_rounds set (s.offset + s.after.length + 1) fuel _ []
    (rfl : s.ahead set = _) (fun k _ => OffsetSet.contains_empty k)
    (fun k _ => OffsetSet.contains_empty k)
  have hdistinct : (((downTo (s.ahead set)).map s.skip).map (·.offset)).Nodup := by
    rw [List.map_map]
    refine List.pairwise_map.2 ((downTo_pairwise _).imp fun hlt => ?_)
    simp only [Function.comp_apply, skip_offset]
    omega
  have hcount : ((downTo (s.ahead set)).map s.skip).length ≤ fuel := by
    rwa [List.length_map, length_downTo]
  have hleave := explore_leaves set (s.offset + s.after.length + 1) visited entered hcount hdistinct
    fun t _ => OffsetSet.contains_empty _
  rw [List.map_map] at hleave
  show explore true none _ _ (taskBound none (s.offset + s.after.length + 1) 1) [.enter 0 s]
    .empty .empty .empty = _
  rw [hbound, h, List.append_nil]
  exact hleave

/-! ## Sequences -/

theorem head?_firsts (l : List State) : (firsts .empty l).head? = l.head? := by
  cases l with
  | nil => rfl
  | cons s l => simp [firsts]

namespace Expr

theorem head?_run_cat (a b : Expr) (s : State) :
    ((cat a b).run s).head? = (a.run s).findSome? fun t => (b.run t).head? := by
  rw [run, head?_firsts, List.head?_flatMap]

theorem sequence_cons (e : Expr) {es : List Expr} (h : es ≠ []) :
    sequence (e :: es) = cat e (sequence es) := by
  cases es with
  | nil => exact absurd rfl h
  | cons e' es => rfl

/-- The expressions of a text that stands for itself. -/
def text (cs : List Char) : List Expr := cs.map fun c => .set (.ofChar c)

theorem contains_ofChar (c d : Char) : (CharSet.ofChar c).contains d = (d == c) := by
  have h : d = c ↔ c.toNat = d.toNat := by rw [eq_comm, Char.toNat_inj]
  rw [Bool.eq_iff_iff, beq_iff_eq, h]
  simp only [CharSet.contains, CharSet.containsCode, CharSet.ofChar, List.any_cons, List.any_nil,
    Bool.or_false, Bool.and_eq_true, decide_eq_true_eq]
  omega

/-- In front of other expressions, a text takes its own characters. -/
theorem head?_run_text {es : List Expr} (hes : es ≠ []) (cs : List Char) : ∀ (s : State),
    ((sequence (text cs ++ es)).run s).head? =
      if cs <+: s.after then ((sequence es).run (s.skip cs.length)).head? else none := by
  induction cs with
  | nil => intro s; simp [text]
  | cons c cs ih =>
    intro s
    have hne : text cs ++ es ≠ [] := fun h => hes (List.append_eq_nil_iff.1 h).2
    have hcons : text (c :: cs) ++ es = .set (.ofChar c) :: (text cs ++ es) := rfl
    rw [hcons, sequence_cons _ hne, head?_run_cat, run]
    cases h : s.after with
    | nil =>
      rw [State.advance_of_nil h, if_neg (by simp)]
      rfl
    | cons d rest =>
      rw [State.advance_of_cons h, contains_ofChar]
      by_cases hd : d = c
      · subst hd
        have hs := ih (s.skip 1)
        rw [State.skip_after, h, List.drop_one, List.tail_cons, State.skip_skip, Nat.add_comm] at hs
        simp only [beq_self_eq_true, ↓reduceIte, List.findSome?_singleton, hs, List.cons_prefix_cons,
          true_and, List.length_cons]
      · rw [if_neg (by simpa using hd), if_neg (by simpa [List.cons_prefix_cons] using fun h => absurd h.symm hd)]
        rfl

/-- A group of one or more characters of a set takes as many as possible. -/
theorem run_group_oneOrMore (index : Nat) (name : Option String) (cs : CharSet) (s : State) :
    (group index name (loop 1 none true (set cs))).run s =
      (downTo (s.ahead cs)).map fun k =>
        (s.skip k).record index ⟨s.offset, s.offset + k⟩ := by
  have h := loopStates_oneOrMore s cs
  rw [run, run]
  change (loopStates 1 none true (·.advance cs) s).map _ = _
  rw [h, List.map_map]
  rfl

theorem run_textEnd (s : State) :
    (sequence [look .textEnd]).run s = if s.after = [] then [s] else [] := by
  cases h : s.after <;> simp [sequence, run, Look.holds, h]

/-- An expression behind the start of the text is tried at the start only. -/
theorem find?_textStart (e : Expr) (text : List Char) :
    (cat (look .textStart) e).find? text = (e.run (.start text)).head?.map (⟨0, ·⟩) := by
  have hlater : ∀ (cs before : List Char) (c : Char) (offset : Nat),
      (cat (look .textStart) e).findFrom (c :: before) offset cs = none := by
    intro cs
    induction cs with
    | nil => intro before c offset; simp [findFrom, run, Look.holds, firsts]
    | cons d cs ih => intro before c offset; simp [findFrom, run, Look.holds, firsts, ih]
  have hstart := head?_run_cat (look .textStart) e (.start text)
  have hlook : (look .textStart).run (.start text) = [.start text] := by
    simp [run, Look.holds, State.start]
  rw [hlook, List.findSome?_singleton] at hstart
  rw [← hstart]
  cases text with
  | nil => rfl
  | cons c text =>
    rw [find?, findFrom]
    cases hr : (cat (look .textStart) e).run (.start (c :: text)) with
    | nil =>
      rw [State.start] at hr
      rw [hr, hlater]; rfl
    | cons t l => rw [State.start] at hr; rw [hr]; rfl

end Expr

end RequestDispatch.Regex
