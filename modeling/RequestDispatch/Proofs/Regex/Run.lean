import RequestDispatch.Regex

/-!
# Where a run can lead

`State.Onward s t`: `t` stands further on in the text of `s`. Whatever an expression does, it only
goes onward (`run_onward`), so a condition that it cannot do without (`Expr.requires`) holds at
some place between the start of a match and its end (`run_requires`). With `Look.textStart` and
`Look.textEnd` for the condition this bounds a match from both sides:

* `find?_start`: a match of an expression that requires the start of the text starts there;
* `find?_stop`: a match of one that requires the end of the text ends there.

What a repetition yields is a round's result or a state that the repetition was given
(`loopStates_all`); what it yields after at least one round comes after a first one
(`loopStates_first`).
-/

set_option autoImplicit false

namespace RequestDispatch.Regex

/-! ## Places -/

/-- `t` stands in the text of `s`, as many characters further on as its offset says. -/
def State.Onward (s t : State) : Prop :=
  ∃ w, s.after = w ++ t.after ∧ t.before = w.reverse ++ s.before ∧ t.offset = s.offset + w.length

namespace State.Onward

theorem refl (s : State) : s.Onward s := ⟨[], by simp⟩

theorem trans {s t u : State} (h₁ : s.Onward t) (h₂ : t.Onward u) : s.Onward u := by
  obtain ⟨v, ha, hb, ho⟩ := h₁
  obtain ⟨w, ha', hb', ho'⟩ := h₂
  refine ⟨v ++ w, ?_, ?_, ?_⟩
  · rw [ha, ha', List.append_assoc]
  · rw [hb', hb, List.reverse_append, List.append_assoc]
  · rw [ho', ho, List.length_append, Nat.add_assoc]

theorem before_nil {s t : State} (h : s.Onward t) (ht : t.before = []) : s.before = [] := by
  obtain ⟨w, _, hb, _⟩ := h
  rw [ht] at hb
  exact (List.append_eq_nil_iff.1 hb.symm).2

theorem after_nil {s t : State} (h : s.Onward t) (hs : s.after = []) : t.after = [] := by
  obtain ⟨w, ha, _, _⟩ := h
  rw [hs] at ha
  exact (List.append_eq_nil_iff.1 ha.symm).2

/-- Offsets and what is left of the text add up to the same number everywhere. -/
theorem offset_add {s t : State} (h : s.Onward t) :
    t.offset + t.after.length = s.offset + s.after.length := by
  obtain ⟨w, ha, _, ho⟩ := h
  rw [ho, ha, List.length_append, Nat.add_assoc]

theorem record {s t : State} (h : s.Onward t) (index : Nat) (span : Span) :
    s.Onward (t.record index span) := h

end State.Onward

theorem onward_of_mem_advance {s t : State} {set : Text.CharSet} (h : t ∈ s.advance set) :
    s.Onward t := by
  unfold State.advance at h
  split at h
  · simp at h
  · rename_i c rest ha
    split at h
    · rw [List.mem_singleton] at h
      subst h
      exact ⟨[c], by simp [ha]⟩
    · simp at h

theorem mem_of_mem_firsts {t : State} {l : List State} :
    ∀ {seen : OffsetSet}, t ∈ firsts seen l → t ∈ l := by
  induction l with
  | nil => intro seen h; simp [firsts] at h
  | cons s l ih =>
    intro seen h
    unfold firsts at h
    split at h
    · exact .tail _ (ih h)
    · rcases List.mem_cons.1 h with rfl | h
      · exact .head _
      · exact .tail _ (ih h)

/-! ## Repetitions -/

/-- What a task adds to a repetition satisfies `P`: a round about to start answers for what it
leads to, not for where it starts. -/
def Task.Leads (P : State → Prop) (step : State → List State) : Task → Prop
  | .visit _ s => P s
  | .enter _ s => ∀ t ∈ step s, P t
  | .leave s => P s

section
variable {P : State → Prop} {step : State → List State}
  (hstep : ∀ s, P s → ∀ t ∈ step s, P t)
include hstep

theorem explore_all {greedy : Bool} {limit : Option Nat} {width : Nat} (fuel : Nat) :
    ∀ (tasks : List Task) (visited entered left : OffsetSet), (∀ k ∈ tasks, k.Leads P step) →
      ∀ t ∈ explore greedy limit width step fuel tasks visited entered left, P t := by
  induction fuel with
  | zero => intro tasks visited entered left _ t h; simp [explore] at h
  | succ fuel ih =>
    intro tasks visited entered left hk t h
    match tasks with
    | [] => simp [explore] at h
    | .leave s :: rest =>
      have hr : ∀ k ∈ rest, k.Leads P step := fun k hm => hk k (.tail _ hm)
      unfold explore at h
      split at h
      · exact ih _ _ _ _ hr t h
      · rcases List.mem_cons.1 h with rfl | h
        · exact hk _ (.head _)
        · exact ih _ _ _ _ hr t h
    | .visit count s :: rest =>
      have hs : P s := hk _ (.head _)
      have hr : ∀ k ∈ rest, k.Leads P step := fun k hm => hk k (.tail _ hm)
      unfold explore at h
      simp only at h
      split at h
      · refine ih _ _ _ _ (fun k hm => ?_) t h
        rcases List.mem_cons.1 hm with rfl | hm
        · exact hs
        · exact hr k hm
      · split at h
        · exact ih _ _ _ _ hr t h
        · -- the round and the way out, in either order
          have hnext : ∀ k, k = .enter count s ∨ k = .leave s ∨ k ∈ rest → k.Leads P step := by
            rintro k (rfl | rfl | hm)
            · exact hstep s hs
            · exact hs
            · exact hr k hm
          refine ih _ _ _ _ (fun k hm => hnext k ?_) t h
          split at hm
          · simpa using hm
          · simpa [or_left_comm] using hm
    | .enter count s :: rest =>
      have hs : ∀ t ∈ step s, P t := hk (.enter count s) (.head _)
      have hr : ∀ k ∈ rest, k.Leads P step := fun k hm => hk k (.tail _ hm)
      unfold explore at h
      simp only at h
      split at h
      · exact ih _ _ _ _ hr t h
      · refine ih _ _ _ _ (fun k hm => ?_) t h
        rcases List.mem_append.1 hm with hm | hm
        · obtain ⟨u, hu, rfl⟩ := List.mem_map.1 hm
          exact hs u hu
        · exact hr k hm

theorem rounds_all (n : Nat) :
    ∀ (states : List State), (∀ s ∈ states, P s) → ∀ t ∈ rounds step n states, P t := by
  induction n with
  | zero => intro states hs t h; exact hs t h
  | succ n ih =>
    intro states hs t h
    unfold rounds at h
    split at h
    · simp at h
    · refine ih _ (fun u hu => ?_) t h
      obtain ⟨s, hsm, hut⟩ := List.mem_flatMap.1 (mem_of_mem_firsts hu)
      exact hstep s (hs s hsm) u hut

/-- What holds at the start of a repetition and after every round holds at its end. -/
theorem loopStates_all {min : Nat} {max : Option Nat} {greedy : Bool} {s : State} (hs : P s) :
    ∀ t ∈ loopStates min max greedy step s, P t := by
  have hstarts : ∀ n, ∀ u ∈ rounds step n [s], P u := fun n =>
    rounds_all hstep n [s] fun u hu => by rwa [List.mem_singleton.1 hu]
  intro t h
  unfold loopStates at h
  simp only at h
  split at h
  · refine explore_all hstep _ _ _ _ _ (fun k hk => ?_) t h
    obtain ⟨u, hu, rfl⟩ := List.mem_map.1 hk
    exact hstarts _ u hu
  · split at h
    · refine explore_all hstep _ _ _ _ _ (fun k hk => ?_) t h
      have hk : k = .enter 0 s ∨ k = .leave s := by
        split at hk
        · simpa using hk
        · simpa [or_comm] using hk
      rcases hk with rfl | rfl
      · exact hstep s hs
      · exact hs
    · refine explore_all hstep _ _ _ _ _ (fun k hk => ?_) t h
      obtain ⟨u, hu, rfl⟩ := List.mem_map.1 hk
      exact hstep u (hstarts _ u hu)

end

/-- What a repetition of at least one round yields comes after a first round. -/
theorem loopStates_first {step : State → List State} {Q : State → State → Prop}
    (hrefl : ∀ u, Q u u) (hnext : ∀ u v, Q u v → ∀ t ∈ step v, Q u t)
    {min : Nat} {max : Option Nat} {greedy : Bool} {s t : State} (hmin : 0 < min)
    (h : t ∈ loopStates min max greedy step s) : ∃ u ∈ step s, Q u t := by
  let P : State → Prop := fun t => ∃ u ∈ step s, Q u t
  have hstep : ∀ v, P v → ∀ t ∈ step v, P t := fun v ⟨u, hu, hv⟩ t ht => ⟨u, hu, hnext u v hv t ht⟩
  obtain ⟨n, rfl⟩ : ∃ n, min = n + 1 := ⟨min - 1, by omega⟩
  have hstarts : ∀ n, ∀ u ∈ rounds step (n + 1) [s], P u := by
    intro n u hu
    unfold rounds at hu
    refine rounds_all hstep n _ (fun v hv => ?_) u hu
    have hv := mem_of_mem_firsts hv
    rw [List.flatMap_singleton] at hv
    exact ⟨v, hv, hrefl v⟩
  unfold loopStates at h
  simp only at h
  split at h
  · refine explore_all hstep _ _ _ _ _ (fun k hk => ?_) t h
    obtain ⟨u, hu, rfl⟩ := List.mem_map.1 hk
    exact hstarts n u hu
  · -- without an upper bound the last of the rounds is the first task
    refine explore_all hstep _ _ _ _ _ (fun k hk => ?_) t h
    obtain ⟨v, hv, rfl⟩ := List.mem_map.1 hk
    cases n with
    | zero =>
      rw [rounds, List.mem_singleton] at hv
      exact hv ▸ fun u hu => ⟨u, hu, hrefl u⟩
    | succ n => exact hstep v (hstarts n v hv)

/-! ## Expressions -/

namespace Expr

/-- An expression only goes onward. -/
theorem run_onward (e : Expr) : ∀ (s : State), ∀ t ∈ e.run s, s.Onward t := by
  induction e with
  | empty =>
    intro s t h
    rw [run, List.mem_singleton] at h
    exact h ▸ .refl s
  | set cs => intro s t h; exact onward_of_mem_advance h
  | look l =>
    intro s t h
    rw [run] at h
    split at h
    · rw [List.mem_singleton] at h
      exact h ▸ .refl s
    · simp at h
  | cat a b iha ihb =>
    intro s t h
    obtain ⟨u, hu, ht⟩ := List.mem_flatMap.1 (mem_of_mem_firsts h)
    exact (iha s u hu).trans (ihb u t ht)
  | alt a b iha ihb =>
    intro s t h
    rcases List.mem_append.1 (mem_of_mem_firsts h) with h | h
    · exact iha s t h
    · exact ihb s t h
  | loop min max greedy e ih =>
    intro s t h
    exact loopStates_all (P := s.Onward) (fun u hu t ht => hu.trans (ih u t ht)) (.refl s) t h
  | group index name e ih =>
    intro s t h
    obtain ⟨u, hu, rfl⟩ := List.mem_map.1 h
    exact (ih s u hu).record _ _

/-- Every way through the expression passes the condition. -/
def requires (l : Look) : Expr → Bool
  | .empty | .set _ => false
  | .look l' => l' == l
  | .cat a b => a.requires l || b.requires l
  | .alt a b => a.requires l && b.requires l
  | .loop min _ _ e => 0 < min && e.requires l
  | .group _ _ e => e.requires l

/-- A condition that an expression requires holds somewhere between the two ends of a match. -/
theorem run_requires {l : Look} (e : Expr) (he : e.requires l = true) :
    ∀ (s : State), ∀ t ∈ e.run s, ∃ u, s.Onward u ∧ u.Onward t ∧ l.holds u = true := by
  induction e with
  | empty => simp [requires] at he
  | set cs => simp [requires] at he
  | look l' =>
    intro s t h
    rw [requires, beq_iff_eq] at he
    subst he
    rw [run] at h
    split at h
    · rename_i hl
      obtain rfl := List.mem_singleton.1 h
      exact ⟨t, .refl t, .refl t, hl⟩
    · simp at h
  | cat a b iha ihb =>
    intro s t h
    obtain ⟨v, hv, ht⟩ := List.mem_flatMap.1 (mem_of_mem_firsts h)
    rw [requires, Bool.or_eq_true] at he
    rcases he with he | he
    · obtain ⟨u, hu, huv, hl⟩ := iha he s v hv
      exact ⟨u, hu, huv.trans (b.run_onward v t ht), hl⟩
    · obtain ⟨u, hu, hut, hl⟩ := ihb he v t ht
      exact ⟨u, (a.run_onward s v hv).trans hu, hut, hl⟩
  | alt a b iha ihb =>
    intro s t h
    rw [requires, Bool.and_eq_true] at he
    rcases List.mem_append.1 (mem_of_mem_firsts h) with h | h
    · exact iha he.1 s t h
    · exact ihb he.2 s t h
  | loop min max greedy e ih =>
    intro s t h
    rw [requires, Bool.and_eq_true, decide_eq_true_eq] at he
    -- the first round already passes the condition
    obtain ⟨v, hv, hvt⟩ := loopStates_first (Q := State.Onward) .refl
      (fun u v huv t ht => huv.trans (e.run_onward v t ht)) he.1 h
    obtain ⟨u, hu, huv, hl⟩ := ih he.2 s v hv
    exact ⟨u, hu, huv.trans hvt, hl⟩
  | group index name e ih =>
    intro s t h
    obtain ⟨v, hv, rfl⟩ := List.mem_map.1 h
    obtain ⟨u, hu, huv, hl⟩ := ih he s v hv
    exact ⟨u, hu, huv.record _ _, hl⟩

/-! ## Matches -/

/-- A match is a run from a place of the text. -/
theorem findFrom_run {e : Expr} {m : Match} :
    ∀ {text before : List Char} {offset : Nat}, e.findFrom before offset text = some m →
      ∃ s, (⟨before, text, offset, []⟩ : State).Onward s ∧ s.offset = m.start ∧
        m.final ∈ e.run s := by
  intro text
  induction text with
  | nil =>
    intro before offset h
    rw [findFrom] at h
    obtain ⟨t, ht, rfl⟩ := Option.map_eq_some_iff.1 h
    exact ⟨_, .refl _, rfl, List.mem_of_mem_head? ht⟩
  | cons c rest ih =>
    intro before offset h
    rw [findFrom] at h
    split at h
    · rename_i t _ hr
      obtain rfl := Option.some.inj h
      exact ⟨_, .refl _, rfl, by rw [hr]; exact .head _⟩
    · obtain ⟨s, hs, ho, hm⟩ := ih h
      exact ⟨s, .trans ⟨[c], by simp⟩ hs, ho, hm⟩

theorem find?_start {e : Expr} (he : e.requires .textStart = true) {text : List Char} {m : Match}
    (h : e.find? text = some m) : m.start = 0 := by
  obtain ⟨s, ⟨w, _, hb, ho⟩, hs, hm⟩ := findFrom_run h
  obtain ⟨u, hsu, _, hl⟩ := run_requires e he s m.final hm
  have hnil : s.before = [] := hsu.before_nil (List.isEmpty_iff.1 hl)
  simp only [hnil, List.append_nil, List.nil_eq, List.reverse_eq_nil_iff] at hb
  rw [← hs, ho, hb, List.length_nil]

theorem find?_stop {e : Expr} (he : e.requires .textEnd = true) {text : List Char} {m : Match}
    (h : e.find? text = some m) : m.final.after = [] ∧ m.final.offset = text.length := by
  obtain ⟨s, hos, _, hm⟩ := findFrom_run h
  obtain ⟨u, _, hut, hl⟩ := run_requires e he s m.final hm
  have hnil : m.final.after = [] := hut.after_nil (List.isEmpty_iff.1 hl)
  refine ⟨hnil, ?_⟩
  have hadd := (hos.trans (run_onward e s _ hm)).offset_add
  simpa [hnil] using hadd

end Expr

/-- What a compiled pattern is: its text, and the expression that the text spells, if that is within
the limits. -/
theorem compile_eq_ok_iff {source : String} {r : Regex} : compile source = .ok r ↔
    ∃ part, readPattern source.toList = .ok part ∧ part.height ≤ maxHeight ∧
      part.expr.memory ≤ memoryLimit ∧ r = ⟨source, part.expr⟩ := by
  unfold compile
  cases readPattern source.toList with
  | error e => simp
  | ok part =>
    by_cases hheight : maxHeight < part.height
    · simp [hheight, Nat.not_le.2 hheight]
    · by_cases hmemory : memoryLimit < part.expr.memory
      · simp [hheight, hmemory, Nat.not_le.2 hmemory]
      · simp [hheight, hmemory, Nat.not_lt.1 hheight, Nat.not_lt.1 hmemory, eq_comm]

theorem compile_eq_ok {source : String} {r : Regex} (h : compile source = .ok r) :
    ∃ part, readPattern source.toList = .ok part ∧ r.expr = part.expr := by
  obtain ⟨part, hpart, -, -, rfl⟩ := compile_eq_ok_iff.1 h
  exact ⟨part, hpart, rfl⟩

/-- A text that spells an expression compiles if the expression is within the limits. -/
theorem exists_compile_iff {source : String} : (∃ r, compile source = .ok r) ↔
    ∃ part, readPattern source.toList = .ok part ∧ part.height ≤ maxHeight ∧
      part.expr.memory ≤ memoryLimit := by
  constructor
  · rintro ⟨r, h⟩
    obtain ⟨part, hpart, hheight, hmemory, -⟩ := compile_eq_ok_iff.1 h
    exact ⟨part, hpart, hheight, hmemory⟩
  · rintro ⟨part, hpart, hheight, hmemory⟩
    exact ⟨_, compile_eq_ok_iff.2 ⟨part, hpart, hheight, hmemory, rfl⟩⟩

end RequestDispatch.Regex
