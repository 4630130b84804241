import Mathlib.Algebra.GroupWithZero.Nat
import RequestDispatch.Proofs.Outcome
import RequestDispatch.Proofs.Regex.Run

/-!
# The names of groups

A name that a group has already is refused for another one, so the groups of a pattern have
different names (`names_nodup`). The proof counts: what a reader puts together has a name no more
often than the parts that it was given and the groups that it opened (`Accounts`, with one lemma for
each thing that a pattern goes on with), and no name is opened twice. What a match captures is under
the names of different groups, in their order (`captures?_sublist`).
-/

set_option autoImplicit false

namespace RequestDispatch.Regex

/-! ## How often a name is used -/

/-- The number of groups of an expression that have a name. -/
def Expr.uses (x : String) (e : Expr) : Nat := (e.groupNames.map Prod.snd).count x

/-- The number of groups of some parts that have a name. -/
def usesAll (x : String) (ps : List Part) : Nat := (ps.map fun p => p.expr.uses x).sum

section
variable {x : String}

theorem usesAll_nil : usesAll x [] = 0 := rfl

theorem usesAll_cons (p : Part) (ps : List Part) :
    usesAll x (p :: ps) = p.expr.uses x + usesAll x ps := by
  rw [usesAll, List.map_cons, List.sum_cons]
  rfl

theorem Expr.uses_empty : Expr.empty.uses x = 0 := rfl

theorem Expr.uses_cat (a b : Expr) : (Expr.cat a b).uses x = a.uses x + b.uses x := by
  rw [uses, groupNames, List.map_append, List.count_append]
  rfl

theorem Expr.uses_alt (a b : Expr) : (Expr.alt a b).uses x = a.uses x + b.uses x := by
  rw [uses, groupNames, List.map_append, List.count_append]
  rfl

theorem Expr.uses_sequence (es : List Expr) :
    (Expr.sequence es).uses x = (es.map (uses x)).sum := by
  induction es with
  | nil => rfl
  | cons e es ih =>
    cases es with
    | nil => simp [sequence]
    | cons e' es =>
      rw [List.map_cons, List.sum_cons, ← ih]
      exact uses_cat e (sequence (e' :: es))

theorem Expr.uses_choice (es : List Expr) :
    (Expr.choice es).uses x = (es.map (uses x)).sum := by
  induction es with
  | nil => rfl
  | cons e es ih =>
    cases es with
    | nil => simp [choice]
    | cons e' es =>
      rw [List.map_cons, List.sum_cons, ← ih]
      exact uses_alt e (choice (e' :: es))

/-- A repetition of no round has no groups; every other one has those of its rounds. -/
theorem Expr.uses_repeated_le (min : Nat) (max : Option Nat) (greedy : Bool) (e : Expr) :
    (e.repeated min max greedy).uses x ≤ e.uses x := by
  have hbounds : ∀ (min : Nat) (max : Option Nat), (if max == some 0 then .empty
      else if min == 1 && max == some 1 then e else .loop min max greedy e : Expr).uses x ≤
        e.uses x := by
    intro min max
    split
    · exact Nat.zero_le _
    · split <;> exact Nat.le_refl _
  exact hbounds _ _

/-! ## What readers put together -/

theorem uses_closeSequence (ps : List Part) : (closeSequence ps).expr.uses x = usesAll x ps := by
  unfold closeSequence
  split
  · rfl
  · rw [usesAll_cons]; rfl
  · rw [Expr.uses_sequence, List.map_map, List.map_reverse, List.sum_reverse]
    rfl

theorem uses_closeChoice (ps : List Part) : (closeChoice ps).expr.uses x = usesAll x ps := by
  unfold closeChoice
  split
  · rfl
  · rw [usesAll_cons]; rfl
  · rw [Expr.uses_choice, List.map_map, List.map_reverse, List.sum_reverse]
    rfl

/-- The names that a group has, with those of the groups in it. -/
theorem uses_closeGroup (index : Option (Nat × Option String)) (body : Part) :
    (closeGroup index body).expr.uses x =
      (index.bind Prod.snd).toList.count x + body.expr.uses x := by
  match index with
  | none => simp [closeGroup]
  | some (i, none) => simp [closeGroup, Expr.uses, Expr.groupNames]
  | some (i, some n) => simp [closeGroup, Expr.uses, Expr.groupNames, List.count_cons, Nat.add_comm]

theorem usesAll_repeatLast_le {f : Flags} {min : Nat} {max : Option Nat} {greedy : Bool}
    {ps ps' : List Part} (h : repeatLast f min max greedy ps = .ok ps') :
    usesAll x ps' ≤ usesAll x ps := by
  unfold repeatLast at h
  split at h
  · cases h
  · split at h
    · obtain rfl := Except.ok.inj h
      rw [usesAll_cons, usesAll_cons]
      exact Nat.add_le_add_right (Expr.uses_repeated_le _ _ _ _) _
    · cases h

theorem uses_atom (f : Flags) (a : Atom) : (f.atom a).uses x = 0 := by
  cases a with
  | char c =>
    rw [Flags.atom, Flags.literal]
    split <;> rfl
  | set s => rfl
  | look l => rfl

theorem uses_readSingle {f : Flags} {c : Char} {cs rest : List Char} {e : Expr}
    (h : readSingle f c cs = .ok (e, rest)) : e.uses x = 0 := by
  unfold readSingle at h
  split at h
  · obtain ⟨⟨a, l⟩, -, h⟩ := bind_eq_ok.1 h
    obtain ⟨rfl, -⟩ := Prod.mk.inj (pure_eq_ok.1 h)
    exact uses_atom f a
  · split at h
    · obtain ⟨s, -, h⟩ := bind_eq_ok.1 h
      obtain ⟨rfl, -⟩ := Prod.mk.inj (pure_eq_ok.1 h)
      rfl
    · split at h
      · obtain ⟨rfl, -⟩ := Prod.mk.inj (Except.ok.inj h)
        rfl
      · split at h
        · obtain ⟨rfl, -⟩ := Prod.mk.inj (Except.ok.inj h)
          rfl
        · obtain ⟨rfl, -⟩ := Prod.mk.inj (Except.ok.inj h)
          exact uses_atom f (.char c)

/-- A part that opens no group brings no name. -/
theorem usesAll_readPart_le {f : Flags} {c : Char} {cs rest : List Char} {ps ps' : List Part}
    (h : readPart f c ps cs = .ok (ps', rest)) : usesAll x ps' ≤ usesAll x ps := by
  have hcons : ∀ p : Part, p.expr.uses x = 0 → usesAll x (p :: ps) ≤ usesAll x ps := fun p hp =>
    Nat.le_of_eq (by rw [usesAll_cons, hp, Nat.zero_add])
  unfold readPart at h
  split at h
  · obtain ⟨⟨s, height, l⟩, -, h⟩ := bind_eq_ok.1 h
    obtain ⟨rfl, -⟩ := Prod.mk.inj (pure_eq_ok.1 h)
    exact hcons _ rfl
  · split at h
    · obtain ⟨qs, hqs, h⟩ := bind_eq_ok.1 h
      obtain ⟨rfl, -⟩ := Prod.mk.inj (pure_eq_ok.1 h)
      exact usesAll_repeatLast_le hqs
    · split at h
      · obtain ⟨⟨⟨min, max, greedy⟩, l⟩, -, h⟩ := bind_eq_ok.1 h
        obtain ⟨qs, hqs, h⟩ := bind_eq_ok.1 h
        obtain ⟨rfl, -⟩ := Prod.mk.inj (pure_eq_ok.1 h)
        exact usesAll_repeatLast_le hqs
      · obtain ⟨⟨e, l⟩, he, h⟩ := bind_eq_ok.1 h
        obtain ⟨rfl, -⟩ := Prod.mk.inj (pure_eq_ok.1 h)
        exact hcons _ (uses_readSingle he)

end

/-! ## Which names are left -/

/-- The scope for the text behind an opening bracket. -/
def Opening.scope : Opening → Scope
  | .group _ inner => inner
  | .flags sc => sc

/-- The name that an opening bracket gives its group. -/
def Opening.name? : Opening → Option String
  | .group index _ => index.bind Prod.snd
  | .flags _ => none

/-- An opening bracket adds the name of its group to the names there are, if it has one and no
group has it yet. -/
def Opening.Names (sc : Scope) (o : Opening) : Prop :=
  o.scope.names = o.name?.toList ++ sc.names ∧ ∀ n, o.name? = some n → n ∉ sc.names

section
variable {sc : Scope} {o : Opening} {cs rest : List Char}

theorem names_readNamed (h : readNamed sc cs = .ok (o, rest)) : o.Names sc := by
  obtain ⟨⟨name, l⟩, -, h⟩ := bind_eq_ok.1 h
  obtain ⟨opening, hopen, h⟩ := bind_eq_ok.1 h
  obtain ⟨rfl, -⟩ := Prod.mk.inj (pure_eq_ok.1 h)
  unfold openNamed at hopen
  split at hopen
  · cases hopen
  · rename_i hnew
    obtain rfl := Except.ok.inj hopen
    refine ⟨rfl, fun n hn => ?_⟩
    obtain rfl := Option.some.inj hn
    exact fun hmem => hnew (List.contains_iff_mem.2 hmem)

theorem names_readFlagged (h : readFlagged sc cs = .ok (o, rest)) : o.Names sc := by
  obtain ⟨⟨f, isGroup, l⟩, -, h⟩ := bind_eq_ok.1 h
  cases isGroup <;>
  · obtain ⟨rfl, -⟩ := Prod.mk.inj (pure_eq_ok.1 h)
    exact ⟨rfl, nofun⟩

theorem names_readOpening (h : readOpening sc cs = .ok (o, rest)) : o.Names sc := by
  unfold readOpening at h
  split at h
  · cases h
  · cases h
  · cases h
  · cases h
  · exact names_readNamed h
  · exact names_readNamed h
  · exact names_readFlagged h
  · obtain ⟨rfl, -⟩ := Prod.mk.inj (Except.ok.inj h)
    exact ⟨rfl, nofun⟩

theorem Opening.Names.nodup (ho : o.Names sc) (hsc : sc.names.Nodup) : o.scope.names.Nodup := by
  rw [ho.1]
  cases hn : o.name? with
  | none => exact hsc
  | some n => exact List.nodup_cons.2 ⟨ho.2 n hn, hsc⟩

end

/-! ## Reading whole patterns -/

/-- On the way from one scope to another no name was opened twice, and a part was made that has a
name no more often than what was there before and the groups that were opened. -/
structure Accounts (sc sc' : Scope) (branches parts : List Part) (part : Part) : Prop where
  nodup : sc'.names.Nodup
  uses : ∀ x, part.expr.uses x + sc.names.count x ≤
    usesAll x branches + usesAll x parts + sc'.names.count x

namespace Accounts

variable {sc sc' : Scope} {branches parts : List Part} {part : Part}

/-- At its end a pattern is put together from what there is. -/
theorem close (hsc : sc.names.Nodup) (branches parts : List Part) :
    Accounts sc sc branches parts (closeChoice (closeSequence parts :: branches)) where
  nodup := hsc
  uses x := by
    refine Nat.le_of_eq ?_
    rw [uses_closeChoice, usesAll_cons, uses_closeSequence, Nat.add_comm (usesAll x parts)]

theorem branch (h : Accounts sc sc' (closeSequence parts :: branches) [] part) :
    Accounts sc sc' branches parts part where
  nodup := h.nodup
  uses x := by
    have hx := h.uses x
    rw [usesAll_cons, uses_closeSequence, usesAll_nil] at hx
    omega

theorem flags {inner : Scope} (ho : (Opening.flags inner).Names sc)
    (h : Accounts inner sc' branches (⟨.empty, 0, false⟩ :: parts) part) :
    Accounts sc sc' branches parts part where
  nodup := h.nodup
  uses x := by
    have hx := h.uses x
    rw [usesAll_cons, show inner.names = sc.names from ho.1, Expr.uses_empty, Nat.zero_add] at hx
    exact hx

/-- The name of a group is opened in front of the names in it. -/
theorem group {index : Option (Nat × Option String)} {inner after : Scope} {f : Flags} {body : Part}
    (ho : (Opening.group index inner).Names sc) (hbody : Accounts inner after [] [] body)
    (h : Accounts { after with flags := f } sc' branches (closeGroup index body :: parts) part) :
    Accounts sc sc' branches parts part where
  nodup := h.nodup
  uses x := by
    have hx := h.uses x
    have hb := hbody.uses x
    rw [show inner.names = _ from ho.1, List.count_append, usesAll_nil] at hb
    rw [usesAll_cons, uses_closeGroup] at hx
    simp only [Opening.name?] at hb hx
    omega

theorem parts_le {parts' : List Part} (hle : ∀ x, usesAll x parts' ≤ usesAll x parts)
    (h : Accounts sc sc' branches parts' part) : Accounts sc sc' branches parts part where
  nodup := h.nodup
  uses x := by
    have hx := h.uses x
    have := hle x
    omega

end Accounts

theorem readBody_accounts (n : Nat) : ∀ {sc sc' : Scope} {cs rest : List Char}
    {branches parts : List Part} {part : Part}, sc.names.Nodup →
    readBody n sc cs branches parts = .ok (part, sc', rest) →
      Accounts sc sc' branches parts part := by
  induction n with
  | zero => intro sc sc' cs rest branches parts part _ h; simp [readBody] at h
  | succ n ih =>
    intro sc sc' cs rest branches parts part hsc h
    unfold readBody at h
    split at h
    · simp only [Except.ok.injEq, Prod.mk.injEq] at h
      obtain ⟨rfl, rfl, -⟩ := h
      exact .close hsc branches parts
    · split at h
      · simp only [Except.ok.injEq, Prod.mk.injEq] at h
        obtain ⟨rfl, rfl, -⟩ := h
        exact .close hsc branches parts
      · split at h
        · exact (ih hsc h).branch
        · split at h
          · split at h
            · cases h
            · rename_i hopen
              have ho := names_readOpening hopen
              exact (ih (ho.nodup hsc) h).flags ho
            · rename_i hopen
              have ho := names_readOpening hopen
              split at h
              · cases h
              · cases h
              · rename_i body after d l hbody
                have hinner := ih (ho.nodup hsc) hbody
                have hafter : ({ after with flags := sc.flags } : Scope).names.Nodup := hinner.nodup
                exact .group ho hinner (ih hafter h)
          · split at h
            · cases h
            · rename_i hpart
              exact (ih hsc h).parts_le fun x => usesAll_readPart_le hpart

/-- No two groups of a pattern have the same name. -/
theorem names_nodup {source : String} {r : Regex} (h : compile source = .ok r) : r.names.Nodup := by
  obtain ⟨part, hpart, hexpr⟩ := compile_eq_ok h
  unfold readPattern at hpart
  split at hpart
  · cases hpart
  · rename_i read sc hbody
    obtain rfl : read = part := Except.ok.inj hpart
    have hall := readBody_accounts _ List.nodup_nil hbody
    rw [List.nodup_iff_count]
    intro x
    calc r.names.count x = read.expr.uses x := by rw [names, hexpr, Expr.uses]
      _ ≤ sc.names.count x := by simpa [usesAll_nil, usesAll_cons] using hall.uses x
      _ ≤ 1 := List.nodup_iff_count.1 hall.nodup x
  · cases hpart

/-! ## Captured names -/

/-- Captures are in the order of the groups, and those that took no part are missing. -/
theorem named_sublist (m : Match) (text : List Char) (groups : List (Nat × String)) :
    ((m.named text groups).map Prod.fst).Sublist (groups.map Prod.snd) := by
  induction groups with
  | nil => exact .refl _
  | cons g groups ih =>
    obtain ⟨index, name⟩ := g
    cases hspan : m.final.span? index with
    | none =>
      rw [Match.named, List.filterMap_cons_none (by simp only [hspan]; rfl)]
      exact ih.cons name
    | some span =>
      rw [Match.named, List.filterMap_cons_some (by simp only [hspan]; rfl)]
      exact ih.cons_cons name

/-- The names of captures are names of groups, each at most once. -/
theorem captures?_sublist {r : Regex} {text : String} {captured : List (String × String)}
    (h : r.captures? text = some captured) : (captured.map Prod.fst).Sublist r.names := by
  obtain ⟨m, -, rfl⟩ := Option.map_eq_some_iff.1 h
  exact named_sublist m _ _

end RequestDispatch.Regex
