import RequestDispatch.Proofs.Regex.Run
import RequestDispatch.Proofs.Route.Assignment
import RequestDispatch.Proofs.Route.TemplateText

/-!
# What templates capture

The expression of a template is its literals and groups between the anchors
(`readPattern_templateExpression`), and the preferred way through these is the one that `assign?`
takes through the pieces (`head?_run_exprs`): the first group tries its lengths from the longest
down, and the rest decides which of them is the first that leads to the end of the path.

* `captures?_eq_assign?`: so a template captures what `assign?` finds, each group by the span that
  was noted for it (`named_finish`).
* `captures?_ofTemplate`: it matches the paths that it can be filled to become, and captures the
  longest values, from the first placeholder on.
-/

set_option autoImplicit false

namespace RequestDispatch.Route

open Regex

namespace Piece

/-! ## The run of a template -/

theorem contains_admitted (takesRest : Bool) : (admitted takesRest).contains = admits takesRest := by
  funext c
  have hmax : c.toNat ≤ 0x10FFFF := by
    have hvalid := c.valid
    simp only [UInt32.isValidChar, Nat.isValidChar] at hvalid
    have : c.toNat = c.val.toNat := rfl
    omega
  have hne : ∀ d : Char, c = d ↔ c.toNat = d.toNat := fun d => Char.toNat_inj.symm
  rw [Bool.eq_iff_iff]
  cases takesRest with
  | false =>
    have : '/'.toNat = 47 := rfl
    simp only [admitted, admits, Text.CharSet.contains, Text.CharSet.containsCode, bne_iff_ne, ne_eq,
      hne, List.any_cons, List.any_nil, Bool.or_false, Bool.or_eq_true, Bool.and_eq_true,
      decide_eq_true_eq, Bool.false_eq_true, ↓reduceIte]
    omega
  | true =>
    have : '\n'.toNat = 10 := rfl
    simp only [admitted, admits, Text.CharSet.contains, Text.CharSet.containsCode, bne_iff_ne, ne_eq,
      hne, List.any_cons, List.any_nil, Bool.or_false, Bool.or_eq_true, Bool.and_eq_true,
      decide_eq_true_eq, ↓reduceIte]
    omega

/-- The state behind a template whose placeholders take some values, with its groups numbered
from `index` on. -/
def finish : (index : Nat) → List Piece → List (List Char) → State → State
  | _, [], _, s => s
  | index, .literal t :: rest, values, s => finish index rest values (s.skip t.length)
  | index, .placeholder _ :: rest, v :: values, s =>
    finish (index + 1) rest values
      ((s.skip v.length).record index ⟨s.offset, s.offset + v.length⟩)
  | _, .placeholder _ :: _, [], s => s

theorem findSome?_congr {α β : Type} {f g : α → Option β} {l : List α} (h : ∀ a ∈ l, f a = g a) :
    l.findSome? f = l.findSome? g := by
  induction l with
  | nil => rfl
  | cons a l ih =>
    rw [List.findSome?_cons, List.findSome?_cons, h a (.head _), ih fun b hb => h b (.tail _ hb)]

/-- The preferred way through a template is to give each placeholder, from the first on, the
longest value with which the rest can be matched. -/
theorem head?_run_exprs (catchAll : Bool) (pieces : List Piece) : ∀ (index : Nat) (s : State),
    ((Expr.sequence (exprs catchAll index pieces ++ [.look .textEnd])).run s).head? =
      (assign? catchAll pieces s.after).map fun values => finish index pieces values s := by
  induction pieces with
  | nil =>
    intro index s
    show ((Expr.sequence [.look .textEnd]).run s).head? = _
    rw [Expr.run_textEnd, assign?]
    split <;> rfl
  | cons piece rest ih =>
    intro index s
    have hne : ∀ i, exprs catchAll i rest ++ [.look .textEnd] ≠ [] := fun i => by simp
    cases piece with
    | literal t =>
      rw [exprs_literal, List.append_assoc, Expr.head?_run_text (hne index), assign?, ih]
      split <;> rfl
    | placeholder n =>
      rw [exprs_placeholder, List.cons_append, Expr.sequence_cons _ (hne (index + 1)),
        Expr.head?_run_cat, Expr.run_group_oneOrMore, List.findSome?_map, assign?,
        List.map_findSome?, State.ahead, contains_admitted]
      refine findSome?_congr fun k hk => ?_
      have hk := (mem_downTo.1 hk).2
      have hle := (List.takeWhile_prefix (l := s.after)
        (admits (catchAll && (names rest).isEmpty))).length_le
      have hlen : (s.after.take k).length = k := by rw [List.length_take]; omega
      have hfinish : (fun values => finish index (.placeholder n :: rest) values s) ∘
          (s.after.take k :: ·) = fun values => finish (index + 1) rest values
            ((s.skip k).record index ⟨s.offset, s.offset + k⟩) := by
        funext values
        simp only [Function.comp_apply, finish, hlen]
      rw [Function.comp_apply, Function.comp_apply, Option.map_map, hfinish, ih]
      rfl

/-! ## Spans of groups -/

theorem span?_record_self (s : State) (index : Nat) (span : Span) :
    (s.record index span).span? index = some span := by
  simp [State.record, State.span?]

theorem span?_record_of_ne {s : State} {index i : Nat} {span : Span} (h : i ≠ index) :
    (s.record index span).span? i = s.span? i := by
  have hbeq : ∀ j, i ≠ j → (i == j) = false := fun j => beq_eq_false_iff_ne.2
  have hfilter : ∀ l : List (Nat × Span), (l.filter fun g => g.1 != index).lookup i = l.lookup i := by
    intro l
    induction l with
    | nil => rfl
    | cons g l ih =>
      obtain ⟨j, sp⟩ := g
      by_cases hj : j = index
      · subst hj
        simp [List.lookup_cons, hbeq _ h, ih]
      · simp [List.lookup_cons, hj, ih]
  simp [State.record, State.span?, List.lookup_cons, hbeq _ h, hfilter]

/-- The groups of a template leave those before them as they are. -/
theorem span?_finish {i : Nat} {pieces : List Piece} : ∀ {index : Nat} {values : List (List Char)}
    {s : State}, i < index → (finish index pieces values s).span? i = s.span? i := by
  induction pieces with
  | nil => intro index values s _; rfl
  | cons piece rest ih =>
    intro index values s h
    cases piece with
    | literal t => exact ih h
    | placeholder n =>
      cases values with
      | nil => rfl
      | cons v values => exact (ih (Nat.lt_succ_of_lt h)).trans (span?_record_of_ne (Nat.ne_of_lt h))

theorem onward_skip {s : State} {n : Nat} (h : n ≤ s.after.length) : s.Onward (s.skip n) := by
  refine ⟨s.after.take n, (List.take_append_drop n s.after).symm, rfl, ?_⟩
  rw [List.length_take, Nat.min_eq_left h]
  rfl

theorem slice_of_onward {text v rest : List Char} {s : State} (h : (State.start text).Onward s)
    (hv : s.after = v ++ rest) : slice text ⟨s.offset, s.offset + v.length⟩ = v := by
  obtain ⟨w, hw, -, ho⟩ := h
  have hw : text = w ++ (v ++ rest) := by rw [← hv]; exact hw
  have ho : s.offset = w.length := by rw [ho]; exact Nat.zero_add _
  rw [slice, ho, hw, List.drop_left, Nat.add_sub_cancel_left, List.take_left]

theorem groupNames_sequence (es : List Expr) :
    (Expr.sequence es).groupNames = es.flatMap Expr.groupNames := by
  induction es with
  | nil => rfl
  | cons e es ih =>
    cases es with
    | nil => simp [Expr.sequence]
    | cons e' es =>
      rw [Expr.sequence_cons _ (List.cons_ne_nil e' es), Expr.groupNames, ih]
      rfl

theorem groupNames_text (t : List Char) : (Expr.text t).flatMap Expr.groupNames = [] := by
  induction t with
  | nil => rfl
  | cons c t ih => exact ih

theorem groupNames_anchored (es : List Expr) :
    (Expr.cat (.look .textStart) (.sequence (es ++ [.look .textEnd]))).groupNames =
      es.flatMap Expr.groupNames := by
  rw [Expr.groupNames, groupNames_sequence, List.flatMap_append]
  exact List.append_nil _

/-- Each placeholder captures its value. -/
theorem named_finish (catchAll : Bool) {text : List Char} {pieces : List Piece} :
    ∀ {index : Nat} {values : List (List Char)} {s : State}, (State.start text).Onward s →
      Assigns catchAll pieces values s.after →
      ((exprs catchAll index pieces).flatMap Expr.groupNames).filterMap (fun g =>
          ((finish index pieces values s).span? g.1).map fun span =>
            (g.2, String.ofList (slice text span))) =
        ((names pieces).map String.ofList).zip (values.map String.ofList) := by
  induction pieces with
  | nil => intro index values s _ _; rfl
  | cons piece rest ih =>
    intro index values s hs h
    cases piece with
    | literal t =>
      obtain ⟨path', hpath, hrest⟩ := assigns_literal.1 h
      have hskip : (s.skip t.length).after = path' := by
        rw [State.skip_after, hpath, List.drop_left]
      rw [exprs_literal, List.flatMap_append, groupNames_text, List.nil_append]
      refine ih (hs.trans (onward_skip ?_)) (hskip ▸ hrest)
      rw [hpath, List.length_append]
      omega
    | placeholder n =>
      cases values with
      | nil => exact absurd h not_assigns_placeholder_nil
      | cons v values =>
        obtain ⟨-, path', hpath, hrest⟩ := assigns_placeholder.1 h
        have hskip : (s.skip v.length).after = path' := by
          rw [State.skip_after, hpath, List.drop_left]
        have hle : v.length ≤ s.after.length := by
          rw [hpath, List.length_append]
          omega
        have hs' : (State.start text).Onward
            ((s.skip v.length).record index ⟨s.offset, s.offset + v.length⟩) :=
          (hs.trans (onward_skip hle)).record _ _
        have hspan : (finish index (.placeholder n :: rest) (v :: values) s).span? index =
            some ⟨s.offset, s.offset + v.length⟩ := by
          rw [finish, span?_finish (Nat.lt_succ_self index), span?_record_self]
        have hgroup : ∀ e : Expr, e.groupNames = [] →
            (Expr.group index (some (String.ofList n)) e).groupNames = [(index, String.ofList n)] :=
          fun e he => by rw [Expr.groupNames, he]
        rw [exprs_placeholder, List.flatMap_cons, hgroup _ rfl, List.singleton_append,
          List.filterMap_cons]
        simp only [hspan, Option.map_some, slice_of_onward hs hpath]
        rw [finish, ih hs' (hskip ▸ hrest)]
        rfl

end Piece

/-! ## Patterns of templates -/

open Piece

/-- What an accepted template is: its pieces, with placeholders of different names, and their
expression. -/
theorem ofTemplate_eq_ok {kind : PatternKind} {t : String} {p : Pattern}
    (h : Pattern.ofTemplate kind t = .ok p) : ∃ pieces, read (withSlash t.toList) = .ok pieces ∧
      p.paramNames = (names pieces).map String.ofList ∧ p.paramNames.Nodup ∧
      p.regex.expr = .cat (.look .textStart)
        (.sequence (exprs (kind == .catchAll) 1 pieces ++ [.look .textEnd])) := by
  unfold Pattern.ofTemplate at h
  simp only at h
  split at h
  · simp at h
  · simp at h
  · rename_i pieces hread
    split at h
    · simp at h
    · split at h
      · simp at h
      · rename_i regex hcompile
        obtain rfl := Except.ok.inj h
        obtain ⟨part, hpart, hexpr⟩ := compile_eq_ok hcompile
        rw [String.toList_ofList, readPattern_templateExpression kind (isIdentifier_of_read hread)]
          at hpart
        split at hpart
        · rename_i hfresh
          obtain rfl := Except.ok.inj hpart
          exact ⟨pieces, hread, rfl, hfresh.1, hexpr.trans (closeSequence_anchored _)⟩
        · simp at hpart

/-- A template captures the values that are found from its first placeholder on. -/
theorem captures?_eq_assign? {kind : PatternKind} {p : Pattern} {pieces : List Piece}
    (hexpr : p.regex.expr = .cat (.look .textStart)
      (.sequence (exprs (kind == .catchAll) 1 pieces ++ [.look .textEnd]))) (path : String) :
    p.captures? path = (assign? (kind == .catchAll) pieces path.toList).map fun values =>
      ((names pieces).map String.ofList).zip (values.map String.ofList) := by
  rw [Pattern.captures?, Regex.captures?, Regex.find?, hexpr, groupNames_anchored,
    Expr.find?_textStart, head?_run_exprs]
  cases h : assign? (kind == .catchAll) pieces path.toList with
  | none => rw [show (State.start path.toList).after = path.toList from rfl, h]; rfl
  | some values =>
    rw [show (State.start path.toList).after = path.toList from rfl, h]
    exact congrArg some (named_finish _ (.refl _) (assigns_of_assign? h))

/-- A template matches exactly the paths that it becomes when each placeholder gets a value that is
allowed there. It then captures such values, for each placeholder once and in their order, and at
the first placeholder where others differ from them these are the longer ones. -/
theorem captures?_ofTemplate {kind : PatternKind} {t : String} {p : Pattern}
    (h : Pattern.ofTemplate kind t = .ok p) (path : String) :
    ∃ pieces, read (withSlash t.toList) = .ok pieces ∧ source pieces = withSlash t.toList ∧
      p.paramNames = (names pieces).map String.ofList ∧ p.paramNames.Nodup ∧
      ((p.captures? path).isSome = true ↔
        ∃ values, Assigns (kind == .catchAll) pieces values path.toList) ∧
      ∀ captured, p.captures? path = some captured →
        ∃ values, captured = p.paramNames.zip (values.map String.ofList) ∧
          captured.map Prod.fst = p.paramNames ∧
          Assigns (kind == .catchAll) pieces values path.toList ∧
          ∀ others, Assigns (kind == .catchAll) pieces others path.toList →
            LongerFirst values others := by
  obtain ⟨pieces, hread, hnames, hnodup, hexpr⟩ := ofTemplate_eq_ok h
  have hcaptures := captures?_eq_assign? hexpr path
  refine ⟨pieces, hread, source_read hread, hnames, hnodup, ?_, fun captured hc => ?_⟩
  · rw [hcaptures, Option.isSome_map]
    constructor
    · intro hs
      obtain ⟨values, hvalues⟩ := Option.isSome_iff_exists.1 hs
      exact ⟨values, assigns_of_assign? hvalues⟩
    · rintro ⟨values, hvalues⟩
      obtain ⟨found, hfound, -⟩ := longerFirst_assign? hvalues
      rw [hfound]
      rfl
  · rw [hcaptures] at hc
    obtain ⟨values, hvalues, rfl⟩ := Option.map_eq_some_iff.1 hc
    have hassigns := assigns_of_assign? hvalues
    refine ⟨values, by rw [hnames], ?_, hassigns, fun others ho => ?_⟩
    · rw [hnames]
      refine List.map_fst_zip (Nat.le_of_eq ?_)
      rw [List.length_map, List.length_map, hassigns.length]
    · obtain ⟨found, hfound, hlonger⟩ := longerFirst_assign? ho
      obtain rfl := Option.some.inj (hfound.symm.trans hvalues)
      exact hlonger

theorem captures?_ofTemplate_adjacent : ∃ p pieces values,
    Pattern.ofTemplate .catchAll "/{a}{b}" = .ok p ∧
    p.captures? "/xy/z" = some [("a", "xy"), ("b", "/z")] ∧
    Assigns true pieces values "/xy/z".toList ∧
    ∀ others, Assigns true pieces others "/xy/z".toList → LongerFirst values others := by
  have hc : (Pattern.ofTemplate .catchAll "/{a}{b}").toOption.bind (·.captures? "/xy/z") =
      some [("a", "xy"), ("b", "/z")] := by decide +kernel
  cases hp : Pattern.ofTemplate .catchAll "/{a}{b}" with
  | error e => simp [hp, Except.toOption] at hc
  | ok p =>
    rw [hp] at hc
    obtain ⟨pieces, -, -, -, -, -, hall⟩ := captures?_ofTemplate hp "/xy/z"
    obtain ⟨values, -, -, hvalues, hlongest⟩ := hall _ hc
    exact ⟨p, pieces, values, rfl, hc, hvalues, hlongest⟩

end RequestDispatch.Route
