import RequestDispatch.Proofs.Route.Limits

/-!
# Templates whose last placeholder takes the rest of the path

A template can also be compiled so that its last placeholder takes the rest of the path. Every
placeholder but the last then admits what it admitted before, and the last one admits slashes but
no line feeds.

* `Assigns.widen`, `Assigns.narrow`: values without line feeds in the last one stay values, and so do
  values for a path with no more slashes than the literal text has.
* `suffix_of_longest`: the values that are longer where they first differ leave the least for the
  last placeholder, since a value that ends later never has to be given up for one that ends sooner
  (`exists_assigns_of_suffix`).
* `assign?_widen`, `assign?_narrow`: so both find the same values, unless the last one has a line
  feed.
* `captures?_catchAll`: so both capture the same, but for that, if the first one matches or the
  path has no more slashes than the literal text. Line feeds do make a difference
  (`captures?_catchAll_lineFeed`).
-/

set_option autoImplicit false

namespace RequestDispatch.Route

open Regex

namespace Piece

/-! ## What the last placeholder admits -/

theorem admits_eq (takesRest : Bool) (c : Char) :
    admits takesRest c = (c != if takesRest then '\n' else '/') := by
  cases takesRest <;> rfl

theorem allowed_iff {takesRest : Bool} {value : List Char} :
    Allowed takesRest value ↔ value ≠ [] ∧ (if takesRest then '\n' else '/') ∉ value := by
  rw [Allowed, List.all_eq_true]
  simp only [admits_eq, bne_iff_ne]
  rw [List.forall_mem_ne']

/-- Values add their characters to those of the literal text. -/
theorem count_fill (c : Char) {pieces : List Piece} : ∀ {values : List (List Char)},
    values.length = (names pieces).length →
      (fill pieces values).count c = (fill pieces []).count c + values.flatten.count c := by
  induction pieces with
  | nil =>
    intro values h
    obtain rfl := List.length_eq_zero_iff.1 h
    rfl
  | cons piece rest ih =>
    intro values h
    cases piece with
    | literal t => rw [fill, fill, List.count_append, List.count_append, ih h, Nat.add_assoc]
    | placeholder n =>
      cases values with
      | nil => cases h
      | cons v values =>
        rw [fill, fill, List.count_append, ih (Nat.succ.inj h), List.flatten_cons,
          List.count_append]
        omega

section
variable {pieces : List Piece} {values : List (List Char)} {path : List Char}

/-- Values of single segments bring no slashes. -/
theorem Assigns.count_slashes (h : Assigns false pieces values path) :
    path.count '/' = (Piece.fill pieces []).count '/' := by
  have hnone : values.flatten.count '/' = 0 := by
    rw [List.count_eq_zero, List.mem_flatten]
    rintro ⟨v, hv, hmem⟩
    obtain ⟨i, hi, rfl⟩ := List.mem_iff_getElem.1 hv
    exact (allowed_iff.1 (h.allowed i hi)).2 hmem
  rw [← h.fill, count_fill '/' h.length, hnone, Nat.add_zero]

theorem Assigns.narrow (h : Assigns true pieces values path)
    (hcount : path.count '/' = (Piece.fill pieces []).count '/') : Assigns false pieces values path := by
  have hnone : '/' ∉ values.flatten := by
    rw [← h.fill, count_fill '/' h.length] at hcount
    rw [← List.count_eq_zero]
    omega
  refine ⟨h.length, fun i hi => allowed_iff.2 ⟨(h.allowed i hi).1, fun hmem => ?_⟩, h.fill⟩
  exact hnone (List.mem_flatten.2 ⟨_, List.getElem_mem hi, hmem⟩)

theorem Assigns.widen (h : Assigns false pieces values path)
    (hlast : '\n' ∉ values.getLastD []) : Assigns true pieces values path := by
  refine ⟨h.length, fun i hi => ?_, h.fill⟩
  by_cases hi' : i + 1 = values.length
  · have hget : values[i] = values.getLastD [] := by
      rw [List.getLastD_eq_getLast?, List.getLast?_eq_getElem?, ← hi', Nat.add_sub_cancel,
        List.getElem?_eq_getElem hi, Option.getD_some]
    rw [beq_iff_eq.2 hi', Bool.and_true]
    exact allowed_iff.2 ⟨(h.allowed i hi).1, hget ▸ hlast⟩
  · rw [beq_eq_false_iff_ne.2 hi', Bool.and_false]
    exact h.allowed i hi

/-- The last value has no line feed if it may take the rest of the path. -/
theorem Assigns.not_mem_last (h : Assigns true pieces values path) :
    '\n' ∉ values.getLastD [] := by
  rw [List.getLastD_eq_getLast?, List.getLast?_eq_getElem?]
  by_cases hi : values.length - 1 < values.length
  · rw [List.getElem?_eq_getElem hi, Option.getD_some]
    have hallowed := h.allowed _ hi
    rw [beq_iff_eq.2 (by omega)] at hallowed
    exact (allowed_iff.1 hallowed).2
  · rw [List.getElem?_eq_none (by omega)]
    exact List.not_mem_nil

end

/-! ## The least for the last placeholder -/

section
variable {catchAll : Bool}

theorem Assigns.ne_nil {pieces : List Piece} {values : List (List Char)} {path : List Char}
    (h : Assigns catchAll pieces values path) (hnames : names pieces ≠ []) : values ≠ [] := by
  rintro rfl
  exact hnames (List.length_eq_zero_iff.1 h.length.symm)

theorem getLastD_cons_of_ne_nil {v : List Char} {values : List (List Char)} (h : values ≠ []) :
    (v :: values).getLastD [] = values.getLastD [] := by
  rw [List.getLastD_cons, List.getLastD_eq_getLast?, List.getLastD_eq_getLast?,
    List.getLast?_eq_some_getLast h]
  rfl

theorem suffix_of_append_suffix {a b s t : List Char} (h : a ++ s <:+ b ++ t)
    (hle : s.length ≤ t.length) : s <:+ t :=
  List.suffix_of_suffix_length_le ((List.suffix_append a s).trans h) (List.suffix_append b t) hle

/-- What is longer than `t` at the end of `a ++ t` begins with an end of `a`. -/
theorem exists_suffix_append {a s t : List Char} (h : s <:+ a ++ t) (hlt : t.length < s.length) :
    ∃ x, x ≠ [] ∧ x <:+ a ∧ s = x ++ t := by
  obtain ⟨x, rfl⟩ := List.suffix_of_suffix_length_le (List.suffix_append a t) h (Nat.le_of_lt hlt)
  refine ⟨x, ?_, List.suffix_append_self_iff.1 h, rfl⟩
  rintro rfl
  exact Nat.lt_irrefl _ hlt

/-- If the end of a path can be matched, then with no more for the last placeholder than when the
path is matched from further ahead: values from there are kept once they lie behind the start. -/
theorem exists_assigns_of_suffix {pieces : List Piece} :
    ∀ {early late : List Char} {values others : List (List Char)}, late <:+ early →
      Assigns catchAll pieces values early → Assigns catchAll pieces others late →
      ∃ found, Assigns catchAll pieces found late ∧ found.getLastD [] <:+ values.getLastD [] := by
  induction pieces with
  | nil =>
    intro early late values others _ hv hw
    obtain ⟨rfl, -⟩ := assigns_nil.1 hv
    obtain ⟨rfl, -⟩ := assigns_nil.1 hw
    exact ⟨[], hw, List.suffix_refl _⟩
  | cons piece rest ih =>
    intro early late values others hsuffix hv hw
    cases piece with
    | literal t =>
      obtain ⟨early', rfl, hvrest⟩ := assigns_literal.1 hv
      obtain ⟨late', rfl, hwrest⟩ := assigns_literal.1 hw
      have hsuffix' : late' <:+ early' := by
        have hle := hsuffix.length_le
        rw [List.length_append, List.length_append] at hle
        exact suffix_of_append_suffix hsuffix (by omega)
      obtain ⟨found, hfound, hlast⟩ := ih hsuffix' hvrest hwrest
      exact ⟨found, assigns_literal.2 ⟨late', rfl, hfound⟩, hlast⟩
    | placeholder n =>
      obtain ⟨v, values, early', rfl, rfl, ⟨-, hvall⟩, hvrest⟩ := exists_of_assigns_placeholder hv
      obtain ⟨w, others, late', rfl, rfl, hwallowed, hwrest⟩ := exists_of_assigns_placeholder hw
      by_cases hnames : names rest = []
      · obtain ⟨rfl, rfl⟩ := hvrest.of_names_eq_nil hnames
        obtain ⟨rfl, rfl⟩ := hwrest.of_names_eq_nil hnames
        exact ⟨[w], hw, List.suffix_append_self_iff.1 hsuffix⟩
      rw [getLastD_cons_of_ne_nil (hvrest.ne_nil hnames)]
      rcases Nat.lt_or_ge early'.length (w ++ late').length with hlt | hge
      · -- the value from further ahead reaches beyond the start of the other path
        obtain ⟨x, hxne, hxv, hx⟩ := exists_suffix_append hsuffix hlt
        have hxall := List.all_eq_true.2 fun c hc => List.all_eq_true.1 hvall c (hxv.subset hc)
        refine ⟨x :: values, assigns_placeholder.2 ⟨⟨hxne, hxall⟩, early', hx, hvrest⟩, ?_⟩
        exact getLastD_cons_of_ne_nil (hvrest.ne_nil hnames) ▸ List.suffix_refl _
      · have hsuffix' : late' <:+ early' := by
          rw [List.length_append] at hge
          exact suffix_of_append_suffix hsuffix (by omega)
        obtain ⟨found, hfound, hlast⟩ := ih hsuffix' hvrest hwrest
        refine ⟨w :: found, assigns_placeholder.2 ⟨hwallowed, late', rfl, hfound⟩, ?_⟩
        rw [getLastD_cons_of_ne_nil (hfound.ne_nil hnames)]
        exact hlast

/-- Values that are longer where they first differ from any others leave the least for the last
placeholder. -/
theorem suffix_of_longest {pieces : List Piece} :
    ∀ {path : List Char} {values others : List (List Char)}, Assigns catchAll pieces values path →
      (∀ others, Assigns catchAll pieces others path → LongerFirst values others) →
      Assigns catchAll pieces others path → values.getLastD [] <:+ others.getLastD [] := by
  induction pieces with
  | nil =>
    intro path values others hv _ _
    rw [(assigns_nil.1 hv).1]
    exact List.nil_suffix
  | cons piece rest ih =>
    intro path values others hv hlongest hw
    cases piece with
    | literal t =>
      obtain ⟨path', rfl, hvrest⟩ := assigns_literal.1 hv
      obtain ⟨path'', hpath, hwrest⟩ := assigns_literal.1 hw
      obtain rfl := List.append_cancel_left hpath
      exact ih hvrest (fun o ho => hlongest o (assigns_literal.2 ⟨_, rfl, ho⟩)) hwrest
    | placeholder n =>
      obtain ⟨v, values, path', rfl, rfl, hvallowed, hvrest⟩ := exists_of_assigns_placeholder hv
      obtain ⟨w, others, path'', rfl, hpath, -, hwrest⟩ := exists_of_assigns_placeholder hw
      by_cases hnames : names rest = []
      · obtain ⟨rfl, rfl⟩ := hvrest.of_names_eq_nil hnames
        obtain ⟨rfl, rfl⟩ := hwrest.of_names_eq_nil hnames
        exact List.append_cancel_right hpath ▸ List.suffix_refl _
      have hlen : w.length ≤ v.length := by
        rcases hlongest _ hw with hlt | ⟨rfl, -⟩ <;> omega
      have hsuffix : path' <:+ path'' := by
        have hsum := congrArg List.length hpath
        rw [List.length_append, List.length_append] at hsum
        have hsame : v ++ path' <:+ w ++ path'' := hpath ▸ List.suffix_refl _
        exact suffix_of_append_suffix hsame (by omega)
      obtain ⟨found, hfound, hle⟩ := exists_assigns_of_suffix hsuffix hwrest hvrest
      have hlongest' : ∀ o, Assigns catchAll rest o path' → LongerFirst values o := by
        intro o ho
        rcases hlongest _ (assigns_placeholder.2 ⟨hvallowed, path', rfl, ho⟩) with hlt | ⟨-, h⟩
        · exact absurd hlt (Nat.lt_irrefl _)
        · exact h
      rw [getLastD_cons_of_ne_nil (hvrest.ne_nil hnames),
        getLastD_cons_of_ne_nil (hwrest.ne_nil hnames)]
      exact (ih hvrest hlongest' hfound).trans hle

end

/-! ## What is found in either way -/

theorem LongerFirst.antisymm : ∀ {values others : List (List Char)}, LongerFirst values others →
    LongerFirst others values → values = others
  | [], [], _, _ => rfl
  | v :: values, w :: others, h, h' => by
    rcases h with hlt | ⟨rfl, h⟩
    · rcases h' with hlt' | ⟨rfl, -⟩ <;> omega
    · rcases h' with hlt' | ⟨-, h'⟩
      · exact absurd hlt' (Nat.lt_irrefl _)
      · rw [h.antisymm h']

section
variable {catchAll : Bool} {pieces : List Piece} {values : List (List Char)} {path : List Char}

/-- What is found is longer than any others where they first differ. -/
theorem longest_of_assign? (h : assign? catchAll pieces path = some values) :
    ∀ others, Assigns catchAll pieces others path → LongerFirst values others := by
  intro others hothers
  obtain ⟨found, hfound, hlonger⟩ := longerFirst_assign? hothers
  exact Option.some.inj (hfound.symm.trans h) ▸ hlonger

/-- Values of single segments are also found where the last one may take the rest of the path,
unless there is a line feed in the last one: then none are found. -/
theorem assign?_widen (h : assign? false pieces path = some values) :
    assign? true pieces path = if '\n' ∈ values.getLastD [] then none else some values := by
  have hvalues := assigns_of_assign? h
  have hcount := hvalues.count_slashes
  split
  · rename_i hmem
    cases hfound : assign? true pieces path with
    | none => rfl
    | some found =>
      -- whatever is found takes at least as much for the last placeholder
      have hwide := assigns_of_assign? hfound
      have hsuffix := suffix_of_longest hvalues (longest_of_assign? h) (hwide.narrow hcount)
      exact absurd (hsuffix.subset hmem) hwide.not_mem_last
  · rename_i hmem
    have hwide := hvalues.widen hmem
    obtain ⟨found, hfound, hlonger⟩ := longerFirst_assign? hwide
    have hnarrow := (assigns_of_assign? hfound).narrow hcount
    rw [hfound, hlonger.antisymm (longest_of_assign? h found hnarrow)]

/-- Where the slashes of a path are those of the literal text, the last value takes no more than a
segment. -/
theorem assign?_narrow (h : assign? true pieces path = some values)
    (hcount : path.count '/' = (fill pieces []).count '/') :
    assign? false pieces path = some values := by
  have hwide := assigns_of_assign? h
  obtain ⟨found, hfound, hlonger⟩ := longerFirst_assign? (hwide.narrow hcount)
  have hsuffix := suffix_of_longest (assigns_of_assign? hfound) (longest_of_assign? hfound)
    (hwide.narrow hcount)
  have hfound' := (assigns_of_assign? hfound).widen fun hmem =>
    hwide.not_mem_last (hsuffix.subset hmem)
  rw [hfound, hlonger.antisymm (longest_of_assign? h found hfound')]

end

end Piece

/-! ## Patterns in either way -/

open Piece

theorem getLast?_zip_ofList {ns vs : List (List Char)} (hlen : vs.length = ns.length)
    (hne : vs ≠ []) : ∃ name,
      ((ns.map String.ofList).zip (vs.map String.ofList)).getLast? =
        some (name, String.ofList (vs.getLastD [])) := by
  obtain ⟨vs, v, rfl⟩ := (List.eq_nil_or_concat vs).resolve_left hne
  obtain ⟨ns, n, rfl⟩ := (List.eq_nil_or_concat ns).resolve_left fun h => by simp [h] at hlen
  simp only [List.concat_eq_append, List.length_append, List.length_singleton,
    Nat.add_right_cancel_iff] at hlen ⊢
  refine ⟨String.ofList n, ?_⟩
  rw [List.map_append, List.map_append, List.zip_append (by simp [hlen]), List.getLastD_concat]
  exact List.getLast?_concat

/-- A template with placeholders also compiles if its last placeholder is to take the rest of the
path, and this then takes any text but the empty one and those with a line feed. A path that was
matched before is still matched, with the same captures, unless the last capture has a line feed:
such a path is not matched any more. A path that has no more slashes than the literal text is
matched in no other way than before. -/
theorem captures?_catchAll {t : String} {p : Pattern} (h : Pattern.template t = .ok p)
    (hnames : p.paramNames ≠ []) :
    ∃ q pieces, Pattern.catchAll t = .ok q ∧ q.paramNames = p.paramNames ∧
      read (withSlash t.toList) = .ok pieces ∧ source pieces = withSlash t.toList ∧
      (∀ path, (q.captures? path).isSome = true ↔
        ∃ values, Assigns true pieces values path.toList) ∧
      (∀ path captured, p.captures? path = some captured →
        ∃ name value, captured.getLast? = some (name, value) ∧
          q.captures? path = if '\n' ∈ value.toList then none else some captured) ∧
      ∀ path captured, path.toList.count '/' = (fill pieces []).count '/' →
        q.captures? path = some captured → p.captures? path = some captured := by
  obtain ⟨q, hq⟩ := exists_catchAll h hnames
  obtain ⟨pieces, hread, hpnames, -, hpexpr⟩ := ofTemplate_eq_ok h
  obtain ⟨pieces', hread', hqnames, -, hqexpr⟩ := ofTemplate_eq_ok hq
  obtain rfl : pieces = pieces' := Except.ok.inj (hread.symm.trans hread')
  have hpCaptures : ∀ path, p.captures? path = (assign? false pieces path.toList).map fun values =>
      ((names pieces).map String.ofList).zip (values.map String.ofList) :=
    captures?_eq_assign? hpexpr
  have hqCaptures : ∀ path, q.captures? path = (assign? true pieces path.toList).map fun values =>
      ((names pieces).map String.ofList).zip (values.map String.ofList) :=
    captures?_eq_assign? hqexpr
  refine ⟨q, pieces, hq, hqnames.trans hpnames.symm, hread, source_read hread, fun path => ?_,
    fun path captured hc => ?_, fun path captured hcount hc => ?_⟩
  · rw [hqCaptures, Option.isSome_map]
    constructor
    · intro hs
      obtain ⟨values, hvalues⟩ := Option.isSome_iff_exists.1 hs
      exact ⟨values, assigns_of_assign? hvalues⟩
    · rintro ⟨values, hvalues⟩
      obtain ⟨found, hfound, -⟩ := longerFirst_assign? hvalues
      exact Option.isSome_iff_exists.2 ⟨found, hfound⟩
  · rw [hpCaptures] at hc
    obtain ⟨values, hvalues, rfl⟩ := Option.map_eq_some_iff.1 hc
    have hassigns := assigns_of_assign? hvalues
    have hne : values ≠ [] := hassigns.ne_nil fun hnil => hnames (by rw [hpnames, hnil]; rfl)
    obtain ⟨name, hlast⟩ := getLast?_zip_ofList hassigns.length hne
    refine ⟨name, _, hlast, ?_⟩
    rw [hqCaptures, String.toList_ofList, assign?_widen hvalues]
    split <;> rfl
  · rw [hqCaptures] at hc
    obtain ⟨values, hvalues, rfl⟩ := Option.map_eq_some_iff.1 hc
    rw [hpCaptures, assign?_narrow hvalues hcount]
    rfl

theorem captures?_catchAll_hyphens : ∃ p q, Pattern.template "/{from}-{to}" = .ok p ∧
    p.paramNames ≠ [] ∧ Pattern.catchAll "/{from}-{to}" = .ok q ∧
    p.captures? "/a-b-c" = some [("from", "a-b"), ("to", "c")] ∧
    q.captures? "/a-b-c" = some [("from", "a-b"), ("to", "c")] := by
  have hc : (Pattern.template "/{from}-{to}").toOption.map
      (fun p => (p.paramNames, p.captures? "/a-b-c")) =
      some (["from", "to"], some [("from", "a-b"), ("to", "c")]) := by decide +kernel
  cases hp : Pattern.template "/{from}-{to}" with
  | error e => rw [hp] at hc; cases hc
  | ok p =>
    rw [hp] at hc
    obtain ⟨hparams, hc⟩ := Prod.mk.inj (Option.some.inj hc)
    have hne : p.paramNames ≠ [] := by simp [hparams]
    obtain ⟨q, -, hq, -, -, -, -, hwiden, -⟩ := captures?_catchAll hp hne
    obtain ⟨name, value, hlast, hqc⟩ := hwiden _ _ hc
    obtain ⟨rfl, rfl⟩ := Prod.mk.inj (Option.some.inj hlast)
    exact ⟨p, q, rfl, hne, hq, hc, hqc⟩

/-- A line feed in the last value is admitted where the value is a segment, and not where it is the
rest of the path. -/
theorem captures?_catchAll_lineFeed : ∃ p q, Pattern.template "/{rest}" = .ok p ∧
    Pattern.catchAll "/{rest}" = .ok q ∧
    p.captures? "/a\nb" = some [("rest", "a\nb")] ∧ q.captures? "/a\nb" = none := by
  have hp : (Pattern.template "/{rest}").toOption.map (·.captures? "/a\nb") =
      some (some [("rest", "a\nb")]) := by decide +kernel
  have hq : (Pattern.catchAll "/{rest}").toOption.map (·.captures? "/a\nb") = some none := by
    decide +kernel
  cases hp' : Pattern.template "/{rest}" with
  | error e => rw [hp'] at hp; cases hp
  | ok p =>
    cases hq' : Pattern.catchAll "/{rest}" with
    | error e => rw [hq'] at hq; cases hq
    | ok q =>
      rw [hp'] at hp
      rw [hq'] at hq
      exact ⟨p, q, rfl, rfl, Option.some.inj hp, Option.some.inj hq⟩

end RequestDispatch.Route
