import Mathlib.Data.List.Forall2
import RequestDispatch.Proofs.Route.Anchoring
import RequestDispatch.Proofs.Route.Arguments
import RequestDispatch.Proofs.Route.Limits

/-!
# The expression of a template as a raw expression

The expression of a template, without its anchors, is a raw expression that does what the template
does. It has no anchors of its own (`isAnchored_expression`: where it ends with `$`, it ends with
`\$`), it is read in the group that is put around it as it is between the anchors
(`readPattern_rawExpression_expression`), and a group without a number changes nothing
(`Expr.head?_run_cat_assoc`).

* `exists_raw`: so it compiles, to a pattern that is `Alike`.
* `Table.run_alike`, `Table.matchFrom_alike`: routes of patterns that are alike are entered alike
  and answer alike.
* `ofTemplate_copied`: a copied expression answers wherever the template does, as it does.
-/

set_option autoImplicit false

namespace RequestDispatch.Regex

/-! ## Sequences in a group -/

/-- Onward from a place, equal offsets are equal places. -/
theorem State.Onward.after_eq {s t u : State} (ht : s.Onward t) (hu : s.Onward u)
    (h : t.offset = u.offset) : t.before = u.before ∧ t.after = u.after := by
  obtain ⟨v, hav, hbv, hov⟩ := ht
  obtain ⟨w, haw, hbw, how⟩ := hu
  obtain ⟨rfl, hafter⟩ := List.append_inj (hav.symm.trans haw) (by omega)
  exact ⟨hbv.trans hbw.symm, hafter⟩

theorem Look.holds_congr (l : Look) {t u : State} (hb : t.before = u.before)
    (ha : t.after = u.after) : l.holds t = l.holds u := by
  simp only [Look.holds, hb, ha]

/-- Of the states of one place the first decides, if none of them gives more than another. -/
theorem findSome?_firsts {β : Type} {g : State → Option β} {l : List State} :
    ∀ {seen : OffsetSet},
      (∀ t ∈ l, ∀ u ∈ l, t.offset = u.offset → g t = none → g u = none) →
      (∀ t ∈ l, seen.contains t.offset = true → g t = none) →
      (firsts seen l).findSome? g = l.findSome? g := by
  induction l with
  | nil => intro seen _ _; rfl
  | cons s l ih =>
    intro seen hsame hseen
    have htail : ∀ t ∈ l, ∀ u ∈ l, t.offset = u.offset → g t = none → g u = none :=
      fun t ht u hu => hsame t (.tail _ ht) u (.tail _ hu)
    rw [firsts, List.findSome?_cons]
    split
    · -- the state that is left out gives nothing
      rename_i hs
      rw [hseen s (.head _) hs]
      exact ih htail fun t ht => hseen t (.tail _ ht)
    · rw [List.findSome?_cons]
      cases hg : g s with
      | some b => rfl
      | none =>
        refine ih htail fun t ht hcontains => ?_
        rw [OffsetSet.contains_insert, Bool.or_eq_true, decide_eq_true_eq] at hcontains
        rcases hcontains with hcontains | hoffset
        · exact hseen t (.tail _ ht) hcontains
        · exact hsame s (.head _) t (.tail _ ht) hoffset hg

namespace Expr

/-- In front of a condition it does not matter how a sequence is put together. -/
theorem head?_run_cat_assoc (a b : Expr) (l : Look) (s : State) :
    ((cat (cat a b) (look l)).run s).head? = ((cat a (cat b (look l))).run s).head? := by
  let g : State → Option State := fun t => ((look l).run t).head?
  have hsame : ∀ t ∈ (a.run s).flatMap b.run, ∀ u ∈ (a.run s).flatMap b.run,
      t.offset = u.offset → g t = none → g u = none := by
    have honward : ∀ t ∈ (a.run s).flatMap b.run, s.Onward t := by
      intro t ht
      obtain ⟨u, hu, ht⟩ := List.mem_flatMap.1 ht
      exact (run_onward a s u hu).trans (run_onward b u t ht)
    intro t ht u hu hoffset
    obtain ⟨hbefore, hafter⟩ := (honward t ht).after_eq (honward u hu) hoffset
    simp only [g, run, l.holds_congr hbefore hafter]
    cases l.holds u <;> simp
  have hfirsts : (firsts .empty ((a.run s).flatMap b.run)).findSome? g = _ :=
    findSome?_firsts hsame fun t _ h => by simp at h
  calc ((cat (cat a b) (look l)).run s).head?
      = (firsts .empty ((a.run s).flatMap b.run)).findSome? g := head?_run_cat _ _ s
    _ = ((a.run s).flatMap b.run).findSome? g := hfirsts
    _ = (((a.run s).flatMap b.run).flatMap (look l).run).head? := List.head?_flatMap.symm
    _ = (a.run s).findSome? fun t => ((b.run t).flatMap (look l).run).head? := by
        rw [List.flatMap_assoc, List.head?_flatMap]
    _ = (a.run s).findSome? fun t => ((cat b (look l)).run t).head? := by
        simp only [run, head?_firsts]
    _ = ((cat a (cat b (look l))).run s).head? := (head?_run_cat _ _ s).symm

/-- A group around a sequence that stands before a condition changes nothing. -/
theorem head?_run_sequence_append (es : List Expr) (l : Look) (s : State) :
    ((cat (sequence es) (look l)).run s).head? = ((sequence (es ++ [look l])).run s).head? := by
  induction es generalizing s with
  | nil => rw [head?_run_cat]; simp [sequence, run]
  | cons e es ih =>
    cases es with
    | nil => rfl
    | cons e' es =>
      rw [sequence_cons e (List.cons_ne_nil e' es), head?_run_cat_assoc, List.cons_append,
        sequence_cons e (by simp), head?_run_cat, head?_run_cat]
      simp only [ih]

end Expr

end RequestDispatch.Regex

namespace RequestDispatch.Route

open Regex Piece

/-! ## Expressions without anchors -/

theorem isAnchored_concat (cs : List Char) (c : Char) : Pattern.isAnchored (cs ++ [c]) =
    ((cs ++ [c]).head? == some '^' || (c == '$' && cs.getLast? != some '\\')) := by
  rw [Pattern.isAnchored, List.getLast?_concat, List.dropLast_concat]
  rfl

/-- Texts without anchors are one without anchors: the last of them that is not empty ends it. -/
theorem isAnchored_append {a b : List Char} (ha : Pattern.isAnchored a = false)
    (hb : Pattern.isAnchored b = false) : Pattern.isAnchored (a ++ b) = false := by
  rcases List.eq_nil_or_concat b with rfl | ⟨b, c, rfl⟩
  · rwa [List.append_nil]
  · rw [List.concat_eq_append] at hb ⊢
    cases a with
    | nil => exact hb
    | cons d a =>
      rw [isAnchored_concat, Bool.or_eq_false_iff] at hb
      rw [Pattern.isAnchored, Bool.or_eq_false_iff] at ha
      rw [← List.append_assoc, isAnchored_concat, Bool.or_eq_false_iff]
      refine ⟨ha.1, ?_⟩
      cases b with
      | nil =>
        have hc : (c == '$') = false := by simpa using hb.2
        rw [hc, Bool.false_and]
      | cons e b => simpa [List.getLast?_append, List.getLast?_cons] using hb.2

theorem isAnchored_escape (t : List Char) : Pattern.isAnchored (Regex.escape t) = false := by
  induction t with
  | nil => rfl
  | cons c t ih =>
    rw [Regex.escape, List.flatMap_cons]
    refine isAnchored_append ?_ ih
    cases hc : isMeta c with
    | true => exact (isAnchored_concat ['\\'] c).trans (Bool.and_false _)
    | false =>
      have hstart : c ≠ '^' := by rintro rfl; exact absurd hc (by decide)
      have hend : c ≠ '$' := by rintro rfl; exact absurd hc (by decide)
      simp [Pattern.isAnchored, hstart, hend]

theorem isAnchored_groupText (takesRest : Bool) (name : List Char) :
    Pattern.isAnchored (groupText takesRest name) = false :=
  isAnchored_concat _ ')'

/-- The expression of a template has no anchors: where it ends with `$`, it ends with `\$`. -/
theorem isAnchored_expression (catchAll : Bool) (pieces : List Piece) :
    Pattern.isAnchored (expression catchAll pieces) = false := by
  induction pieces with
  | nil => rfl
  | cons piece rest ih =>
    cases piece with
    | literal t => exact isAnchored_append (isAnchored_escape t) ih
    | placeholder n => exact isAnchored_append (isAnchored_groupText _ n) ih

/-! ## What is read in the group -/

/-- The part of a sequence that stands in a group between the anchors. -/
def grouped (ps : List Part) : Part :=
  closeSequence [⟨.look .textEnd, 0, true⟩,
    ⟨(closeSequence ps).expr, (closeSequence ps).height + 1, true⟩, ⟨.look .textStart, 0, true⟩]

theorem readPattern_rawExpression_expression (catchAll : Bool) {pieces : List Piece}
    (hnames : ∀ n ∈ names pieces, isIdentifier n = true) (hfresh : Fresh [] (names pieces)) :
    readPattern (Pattern.rawExpression (expression catchAll pieces)) =
      .ok (grouped (parts catchAll 1 pieces).reverse) := by
  obtain ⟨m, hm, h⟩ := readBody_expression catchAll closing [] hnames
    ((expression catchAll pieces).length + 5) {} [] rfl (by omega)
  obtain ⟨m, rfl⟩ : ∃ k, m = k + 1 := ⟨m - 1, by omega⟩
  have hclose : ∀ sc ps, sc.flags = {} → readBody (m + 1) sc closing [] ps =
      .ok (closeChoice [closeSequence ps], sc, closing) := by
    rintro ⟨flags, groups, ns⟩ ps rfl
    rfl
  rw [if_pos hfresh, hclose _ _ rfl, List.append_nil] at h
  rw [readPattern_rawExpression_eq, h]
  rfl

theorem height_closeSequence_le {ps : List Part} {h : Nat} (hps : ∀ p ∈ ps, p.height ≤ h) :
    (closeSequence ps).height ≤ h + 1 := by
  have hfold : ∀ (ps : List Part) (a : Nat), a ≤ h → (∀ p ∈ ps, p.height ≤ h) →
      ps.foldl (fun h p => max h p.height) a ≤ h := by
    intro ps
    induction ps with
    | nil => exact fun a ha _ => ha
    | cons p ps ih =>
      exact fun a ha hps => ih _ (Nat.max_le.2 ⟨ha, hps p (.head _)⟩) fun q hq => hps q (.tail _ hq)
  match ps with
  | [] => exact Nat.zero_le _
  | [p] => exact Nat.le_succ_of_le (hps p (.head _))
  | p :: q :: rest => exact Nat.succ_le_succ (hfold _ 0 (Nat.zero_le _) hps)

theorem height_le_of_mem_parts {catchAll : Bool} {pieces : List Piece} : ∀ {index : Nat},
    ∀ p ∈ parts catchAll index pieces, p.height ≤ 3 := by
  induction pieces with
  | nil => exact fun p hp => absurd hp List.not_mem_nil
  | cons piece rest ih =>
    intro index p hp
    cases piece with
    | literal t =>
      rcases List.mem_append.1 hp with hp | hp
      · obtain ⟨c, -, rfl⟩ := List.mem_map.1 hp
        exact Nat.zero_le 3
      · exact ih p hp
    | placeholder n =>
      rcases List.mem_cons.1 hp with rfl | hp
      · show (if catchAll && (names rest).isEmpty then 2 else 3) ≤ 3
        split <;> omega
      · exact ih p hp

theorem expr_grouped (ps : List Part) : (grouped ps.reverse).expr =
    .cat (.look .textStart) (.cat (.sequence (ps.map Part.expr)) (.look .textEnd)) := by
  rw [← expr_closeSequence_reverse]
  rfl

theorem height_grouped_le (catchAll : Bool) (pieces : List Piece) :
    (grouped (parts catchAll 1 pieces).reverse).height ≤ maxHeight := by
  have hinner : (closeSequence (parts catchAll 1 pieces).reverse).height ≤ 4 :=
    height_closeSequence_le fun p hp => height_le_of_mem_parts p (List.mem_reverse.1 hp)
  have houter : (grouped (parts catchAll 1 pieces).reverse).height ≤ 5 + 1 := by
    refine height_closeSequence_le fun p hp => ?_
    simp only [List.mem_cons, List.not_mem_nil, or_false] at hp
    rcases hp with rfl | rfl | rfl
    · exact Nat.zero_le 5
    · exact Nat.succ_le_succ hinner
    · exact Nat.zero_le 5
  exact Nat.le_trans houter (by decide)

/-- The group takes no memory. -/
theorem memory_grouped_le {catchAll : Bool} {pieces : List Piece}
    (h : (whole catchAll pieces).expr.memory ≤ memoryLimit) :
    (grouped (parts catchAll 1 pieces).reverse).expr.memory ≤ memoryLimit := by
  rw [memory_whole] at h
  rw [expr_grouped, Expr.memory, Expr.memory]
  show stateCost + (_ + stateCost) ≤ _
  by_cases hnil : parts catchAll 1 pieces = []
  · rw [hnil]
    decide
  · rw [Expr.memory_sequence (mt List.map_eq_nil_iff.1 hnil), List.map_map]
    exact Nat.le_trans (by unfold Function.comp; omega) h

/-! ## Patterns that are alike -/

/-- Patterns that declare the same names and capture the same of every path. -/
structure Pattern.Alike (p q : Pattern) : Prop where
  names : p.paramNames = q.paramNames
  captures : ∀ path, p.captures? path = q.captures? path

theorem ofTemplate_regex {kind : PatternKind} {t : String} {p : Pattern} {pieces : List Piece}
    (h : Pattern.ofTemplate kind t = .ok p) (hread : read (withSlash t.toList) = .ok pieces) :
    p.regex.source = "^" ++ String.ofList (expression (kind == .catchAll) pieces) ++ "$" := by
  simp only [Pattern.ofTemplate, hread] at h
  split at h
  · cases h
  · split at h
    · cases h
    · rename_i regex hcompile
      obtain rfl := Except.ok.inj h
      obtain ⟨part, -, -, -, rfl⟩ := compile_eq_ok_iff.1 hcompile
      show String.ofList (Pattern.templateExpression kind pieces) = _
      rw [Pattern.templateExpression, String.ofList_append, String.ofList_append]

/-- An expression with its parts in a group between the anchors finds what it finds without the
group. -/
theorem find?_grouped (es : List Expr) (text : List Char) :
    (Expr.cat (.look .textStart) (.cat (.sequence es) (.look .textEnd))).find? text =
      (Expr.cat (.look .textStart) (.sequence (es ++ [.look .textEnd]))).find? text := by
  rw [Expr.find?_textStart, Expr.find?_textStart, Expr.head?_run_sequence_append]

theorem groupNames_grouped (es : List Expr) :
    (Expr.cat (.look .textStart) (.cat (.sequence es) (.look .textEnd))).groupNames =
      (Expr.cat (.look .textStart) (.sequence (es ++ [.look .textEnd]))).groupNames := by
  rw [groupNames_anchored, ← groupNames_sequence]
  exact List.append_nil _

/-- The expression of a template without its anchors is a raw expression, of a pattern that is
alike. -/
theorem exists_raw {kind : PatternKind} {t : String} {p : Pattern}
    (h : Pattern.ofTemplate kind t = .ok p) :
    ∃ r q, p.regex.source = "^" ++ r ++ "$" ∧ Pattern.raw r = .ok q ∧ q.Alike p := by
  obtain ⟨pieces, hread, -, hfresh, -, hmemory⟩ := exists_ofTemplate_iff.1 ⟨p, h⟩
  obtain ⟨pieces', hread', hnames, -, hexpr⟩ := ofTemplate_eq_ok h
  obtain rfl : pieces = pieces' := Except.ok.inj (hread.symm.trans hread')
  let r := expression (kind == .catchAll) pieces
  have hpattern : readPattern (Pattern.rawExpression r) = .ok _ :=
    readPattern_rawExpression_expression _ (isIdentifier_of_read hread) hfresh
  let regex : Regex := ⟨String.ofList (Pattern.rawExpression r),
    (grouped (parts (kind == .catchAll) 1 pieces).reverse).expr⟩
  have hregex : compile (String.ofList (Pattern.rawExpression r)) = .ok regex :=
    compile_eq_ok_iff.2 ⟨_, by rw [String.toList_ofList]; exact hpattern, height_grouped_le _ _,
      memory_grouped_le hmemory, rfl⟩
  have hraw : Pattern.raw (String.ofList r) =
      .ok ⟨String.ofList r, .raw, regex, regex.names⟩ := by
    rw [Pattern.raw, String.toList_ofList, isAnchored_expression, if_neg Bool.false_ne_true, hregex]
  have hgrouped : regex.expr = .cat (.look .textStart) (.cat
      (.sequence (exprs (kind == .catchAll) 1 pieces)) (.look .textEnd)) := expr_grouped _
  refine ⟨_, _, ofTemplate_regex h hread, hraw, ?_, fun path => ?_⟩
  · show regex.names = _
    rw [Regex.names, hgrouped, groupNames_grouped, groupNames_anchored, hnames]
    exact groupNames_exprs _ pieces 1
  · show regex.captures? path = p.regex.captures? path
    rw [captures?, captures?, Regex.find?, Regex.find?, hgrouped, hexpr, groupNames_grouped,
      find?_grouped]

/-! ## Routes that answer alike -/

section
variable {η : Type}

/-- Routes that differ in their names and in the texts of their patterns only. -/
structure Entry.Alike (r s : Entry η) : Prop where
  methods : r.methods = s.methods
  target : r.target = s.target
  plan : r.plan = s.plan
  captures : ∀ path, r.pattern.captures? path = s.pattern.captures? path

theorem Entry.Alike.refl (r : Entry η) : r.Alike r := ⟨rfl, rfl, rfl, fun _ => rfl⟩

theorem Entry.Alike.accepts {r s : Entry η} (h : r.Alike s) (method : Http.Method) :
    r.accepts method = s.accepts method := by
  rw [Entry.accepts, Entry.accepts, h.methods]

/-- How a request is answered: at which place of the table, for which methods, by which target, with
which arguments and captures. -/
def RouteMatch.answer (m : RouteMatch η) :
    Nat × List Http.Method × Target η × Binding.Plan × List (String × String) :=
  (m.index, m.route.methods, m.route.target, m.route.plan, m.params)

/-- Attempts to enter routes that are alike. -/
structure Attempt.Alike (a b : Attempt η) : Prop where
  pattern : a.pattern.Alike b.pattern
  options : a.options = b.options
  target : a.target = b.target

theorem Attempt.Alike.refl (a : Attempt η) : a.Alike a := ⟨⟨rfl, fun _ => rfl⟩, rfl, rfl⟩

/-- Of two patterns that are alike both give a route, or neither does. -/
theorem make_alike {p q : Pattern} (h : p.Alike q) (options : Options) (target : Target η) :
    List.Forall₂ Entry.Alike (Entry.make p options target).toOption.toList
      (Entry.make q options target).toOption.toList := by
  rw [Entry.make, Entry.make, methodsOf, methodsOf]
  by_cases hnone : options.methods = []
  · rw [if_pos hnone, if_pos hnone]
    exact .nil
  · rw [if_neg hnone, if_neg hnone]
    cases methodSet [] options.methods with
    | error e => exact .nil
    | ok methods =>
      have hplan : Binding.Plan.ofParams options.params p.paramNames =
          .ofParams options.params q.paramNames := by rw [h.names]
      exact .cons ⟨rfl, rfl, hplan, h.captures⟩ .nil

theorem Attempt.routes_run (a : Attempt η) (t : Table η) : (a.run t).2.routes =
    t.routes ++ (Entry.make a.pattern a.options a.target).toOption.toList := by
  cases hmake : Entry.make a.pattern a.options a.target with
  | error e => simp only [run, Table.enter, hmake]; exact (List.append_nil _).symm
  | ok r => simp only [run, Table.enter, hmake]; rfl

namespace Table

theorem run_alike {a b : Attempt η} (h : a.Alike b) {t t' : Table η}
    (ht : List.Forall₂ Entry.Alike t.routes t'.routes) :
    List.Forall₂ Entry.Alike (a.run t).2.routes (b.run t').2.routes := by
  rw [a.routes_run, b.routes_run, h.options, h.target]
  exact List.rel_append ht (make_alike h.pattern _ _)

/-- Attempts that are alike leave tables whose routes are alike, place by place. -/
theorem afterAll_alike {attempts attempts' : List (Attempt η)}
    (h : List.Forall₂ Attempt.Alike attempts attempts') :
    List.Forall₂ Entry.Alike (afterAll attempts).routes (afterAll attempts').routes := by
  have hfold : ∀ t t' : Table η, List.Forall₂ Entry.Alike t.routes t'.routes →
      List.Forall₂ Entry.Alike (attempts.foldl (fun t a => (a.run t).2) t).routes
        (attempts'.foldl (fun t a => (a.run t).2) t').routes := by
    induction h with
    | nil => exact fun t t' ht => ht
    | cons ha _ ih => exact fun t t' ht => ih _ _ (run_alike ha ht)
  exact hfold {} {} .nil

theorem matchFrom_alike {routes routes' : List (Entry η)}
    (h : List.Forall₂ Entry.Alike routes routes') (method : Http.Method) (path : String) :
    ∀ index, (matchFrom method path index routes).map RouteMatch.answer =
      (matchFrom method path index routes').map RouteMatch.answer := by
  induction h with
  | nil => exact fun index => rfl
  | @cons r s routes routes' hr _ ih =>
    intro index
    rw [matchFrom, matchFrom, hr.accepts, hr.captures]
    split
    · split
      · simp only [Option.map_some, RouteMatch.answer, hr.methods, hr.target, hr.plan]
      · exact ih _
    · exact ih _

end Table

end

/-- The expression of an accepted template, taken from between its anchors, is accepted as a raw
expression. The pattern that comes of it declares the names of the template in their order and
captures the same of every path, so in any table and with any options it answers each request as the
template does in its place. -/
theorem ofTemplate_copied {kind : PatternKind} {t : String} {p : Pattern}
    (h : Pattern.ofTemplate kind t = .ok p) :
    ∃ r q, p.regex.source = "^" ++ r ++ "$" ∧ Pattern.raw r = .ok q ∧
      q.paramNames = p.paramNames ∧ (∀ path, q.captures? path = p.captures? path) ∧
      ∀ {η : Type} (before later : List (Attempt η)) (options : Options) (target : Target η)
        (method : Http.Method) (path : String),
        ((Table.afterAll (before ++ ⟨q, options, target⟩ :: later)).match? method path).map
            RouteMatch.answer =
          ((Table.afterAll (before ++ ⟨p, options, target⟩ :: later)).match? method path).map
            RouteMatch.answer := by
  obtain ⟨r, q, hsource, hraw, halike⟩ := exists_raw h
  refine ⟨r, q, hsource, hraw, halike.names, halike.captures,
    fun before later options target method path => ?_⟩
  have hattempts : List.Forall₂ Attempt.Alike (before ++ ⟨q, options, target⟩ :: later)
      (before ++ ⟨p, options, target⟩ :: later) :=
    List.rel_append (List.forall₂_same.2 fun a _ => .refl a)
      (.cons ⟨halike, rfl, rfl⟩ (List.forall₂_same.2 fun a _ => .refl a))
  exact Table.matchFrom_alike (Table.afterAll_alike hattempts) method path 0

/-- A template that ends with a dollar sign: its expression is escaped there, not anchored. -/
theorem ofTemplate_copied_dollar : ∃ p q,
    Pattern.ofTemplate .catchAll "a.b/\x7bx\x7d\x7brest\x7d$" = .ok p ∧
    p.regex.source = "^/a\\.b/(?P<x>[^/]+)(?P<rest>.+)\\$$" ∧
    Pattern.raw "/a\\.b/(?P<x>[^/]+)(?P<rest>.+)\\$" = .ok q ∧
    q.paramNames = ["x", "rest"] ∧
    q.captures? "/a.b/uv/w$" = some [("x", "uv"), ("rest", "/w")] := by
  have hc : (Pattern.ofTemplate .catchAll "a.b/\x7bx\x7d\x7brest\x7d$").toOption.map
      (fun p => (p.regex.source, p.paramNames, p.captures? "/a.b/uv/w$")) =
      some ("^/a\\.b/(?P<x>[^/]+)(?P<rest>.+)\\$$", ["x", "rest"],
        some [("x", "uv"), ("rest", "/w")]) := by decide +kernel
  cases hp : Pattern.ofTemplate .catchAll "a.b/\x7bx\x7d\x7brest\x7d$" with
  | error e => rw [hp] at hc; cases hc
  | ok p =>
    rw [hp] at hc
    obtain ⟨hsource, hrest⟩ := Prod.mk.inj (Option.some.inj hc)
    obtain ⟨hnames, hcaptures⟩ := Prod.mk.inj hrest
    obtain ⟨r, q, hr, hraw, hnames', hcaptures', -⟩ := ofTemplate_copied hp
    have hbetween : r.toList = (p.regex.source.toList.drop 1).dropLast := by rw [hr]; simp
    rw [hsource] at hbetween
    obtain rfl : r = "/a\\.b/(?P<x>[^/]+)(?P<rest>.+)\\$" :=
      String.toList_inj.1 (hbetween.trans (by decide))
    exact ⟨p, q, rfl, hsource, hraw, hnames'.trans hnames, (hcaptures' _).trans hcaptures⟩

end RequestDispatch.Route
