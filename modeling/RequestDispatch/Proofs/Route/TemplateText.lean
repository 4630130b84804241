import RequestDispatch.Proofs.Outcome
import RequestDispatch.Proofs.Regex.Greedy
import RequestDispatch.Route.Pattern

/-!
# The expression that a template spells

The text that is made of a template is an expression again, and this module says which.

* `readBody_escape`, `readBody_groupText`: escaped text is read as its characters, and the group
  of a placeholder as that group, unless the name is taken.
* `readPattern_templateExpression`: so an accepted template is a row of characters and groups
  between the two anchors.
* `source_read`, `isIdentifier_of_read`: the pieces of a template spell the template, and the names
  in it are names.
-/

set_option autoImplicit false

namespace RequestDispatch.Regex

/-! ## Characters that stand for themselves -/

/-- The part of a character that stands for itself. -/
def Part.ofChar (c : Char) : Part := ⟨.set (.ofChar c), 0, true⟩

section
variable {n : Nat} {sc : Scope} {rest : List Char} {branches parts : List Part}

theorem readBody_literal (hf : sc.flags = {}) {c : Char} (hc : isMeta c = false) :
    readBody (n + 1) sc (c :: rest) branches parts =
      readBody n sc rest branches (.ofChar c :: parts) := by
  simp only [isMeta, Bool.or_eq_false_iff, beq_eq_false_iff_ne, ne_eq] at hc
  have hpart : readPart {} c parts rest = .ok (.ofChar c :: parts, rest) := by
    simp [readPart, hc, readSingle, Flags.literal, Part.ofChar, bind, Except.bind, pure, Except.pure]
  simp [readBody, Flags.skip, hf, hc, hpart]

theorem readBody_escaped (hf : sc.flags = {}) {c : Char} (hc : isMeta c = true) :
    readBody (n + 1) sc ('\\' :: c :: rest) branches parts =
      readBody n sc rest branches (.ofChar c :: parts) := by
  obtain ⟨flags, groups, names⟩ := sc
  subst hf
  simp only [isMeta, Bool.or_eq_true, beq_iff_eq, or_assoc] at hc
  rcases hc with rfl | rfl | rfl | rfl | rfl | rfl | rfl | rfl | rfl | rfl | rfl | rfl | rfl | rfl |
    rfl | rfl | rfl | rfl <;> rfl

/-- A text that is escaped is read as its characters. -/
theorem readBody_escape (hf : sc.flags = {}) (t : List Char) : ∀ {parts : List Part},
    readBody (n + t.length) sc (escape t ++ rest) branches parts =
      readBody n sc rest branches ((t.map .ofChar).reverse ++ parts) := by
  induction t with
  | nil => intro parts; rfl
  | cons c t ih =>
    intro parts
    have hstep : readBody (n + t.length + 1) sc
        ((if isMeta c then ['\\', c] else [c]) ++ (escape t ++ rest)) branches parts =
        readBody (n + t.length) sc (escape t ++ rest) branches (.ofChar c :: parts) := by
      cases hc : isMeta c with
      | false => exact readBody_literal hf hc
      | true => exact readBody_escaped hf hc
    rw [List.length_cons, ← Nat.add_assoc, escape, List.flatMap_cons, List.append_assoc]
    refine hstep.trans (ih.trans ?_)
    rw [List.map_cons, List.reverse_cons, List.append_assoc, List.singleton_append]

end

end RequestDispatch.Regex

namespace RequestDispatch.Route

open Regex

/-! ## Names -/

theorem lt_of_isAlphanum {c : Char} (h : c.isAlphanum = true) : c.toNat < 0x80 := by
  have hle {b : Char} (hb : b.toNat < 0x80) (hc : c.val ≤ b.val) : c.toNat < 0x80 :=
    Nat.lt_of_le_of_lt (UInt32.le_iff_toNat_le.1 hc) hb
  rcases Bool.or_eq_true_iff.1 h with h | h
  · rcases Bool.or_eq_true_iff.1 h with h | h
    · exact hle (b := 'Z') (by decide) (of_decide_eq_true h).2
    · exact hle (b := 'z') (by decide) (of_decide_eq_true (Bool.and_eq_true_iff.1 h).2)
  · exact hle (b := '9') (by decide) (of_decide_eq_true (Bool.and_eq_true_iff.1 h).2)

theorem isNameChar_first {c : Char} (h : (c.isAlpha || c == '_') = true) :
    isNameChar true c = true ∧ c ≠ '>' := by
  rw [Bool.or_eq_true, beq_iff_eq] at h
  rcases h with h | rfl
  · have hlt : c.toNat < 0x80 := lt_of_isAlphanum (by rw [Char.isAlphanum, h, Bool.true_or])
    refine ⟨by simp [isNameChar, Text.isAlphabetic, hlt, h], ?_⟩
    rintro rfl
    simp at h
  · decide

theorem isNameChar_rest {c : Char} (h : (c.isAlphanum || c == '_') = true) :
    isNameChar false c = true ∧ c ≠ '>' := by
  rw [Bool.or_eq_true, beq_iff_eq] at h
  rcases h with h | rfl
  · refine ⟨by simp [isNameChar, Text.isAlphanumeric, lt_of_isAlphanum h, h], ?_⟩
    rintro rfl
    simp at h
  · decide

/-- The name of a placeholder can be the name of a group. -/
theorem readName_identifier {name rest : List Char} (h : isIdentifier name = true) :
    readName (name ++ '>' :: rest) = .ok (String.ofList name, rest) := by
  cases name with
  | nil => simp [isIdentifier] at h
  | cons c name =>
    simp only [isIdentifier, Bool.and_eq_true, List.all_eq_true] at h
    have hrest : ∀ d ∈ name, isNameChar false d = true ∧ d ≠ '>' := fun d hd =>
      isNameChar_rest (h.2 d hd)
    have hall : ∀ d ∈ c :: name, (d != '>') = true := by
      intro d hd
      rw [bne_iff_ne]
      rcases List.mem_cons.1 hd with rfl | hd
      · exact (isNameChar_first h.1).2
      · exact (hrest d hd).2
    have hname : name.all (isNameChar false) = true :=
      List.all_eq_true.2 fun d hd => (hrest d hd).1
    have hgroup : groupName (c :: name) = .ok (String.ofList (c :: name)) := by
      simp [groupName, (isNameChar_first h.1).1, hname]
    unfold readName
    rw [List.dropWhile_append_of_pos hall, List.takeWhile_append_of_pos hall]
    simp [hgroup, bind, Except.bind, pure, Except.pure]

/-! ## Named groups -/

section

variable {n : Nat} {sc inner after : Scope} {cs rest tail : List Char} {e : Fault}
  {i : Nat} {group : String} {body : Part} {branches parts : List Part}

theorem readOpening_named (hf : sc.flags = {}) (h : readName cs = .ok (group, rest))
    (hnew : group ∉ sc.names) : readOpening sc ('?' :: 'P' :: '<' :: cs) =
      .ok (.group (some (sc.groups + 1, some group)) ⟨{}, sc.groups + 1, group :: sc.names⟩, rest) := by
  obtain ⟨flags, groups, names⟩ := sc
  subst hf
  show readNamed _ cs = _
  simp [readNamed, h, openNamed, hnew, bind, Except.bind, pure, Except.pure]

theorem readOpening_named_dup (hf : sc.flags = {}) (h : readName cs = .ok (group, rest))
    (hdup : group ∈ sc.names) :
    readOpening sc ('?' :: 'P' :: '<' :: cs) = .error .duplicateName := by
  obtain ⟨flags, groups, names⟩ := sc
  subst hf
  show readNamed _ cs = _
  simp [readNamed, h, openNamed, hdup, bind, Except.bind]

theorem readBody_group_error (hf : sc.flags = {}) (h : readOpening sc cs = .error e) :
    readBody (n + 1) sc ('(' :: cs) branches parts = .error e := by
  simp [readBody, Flags.skip, hf, h]

theorem readBody_group (hf : sc.flags = {})
    (hopen : readOpening sc cs = .ok (.group (some (i, some group)) inner, rest))
    (hbody : readBody n inner rest [] [] = .ok (body, after, ')' :: tail)) :
    readBody (n + 1) sc ('(' :: cs) branches parts =
      readBody n { after with flags := {} } tail branches
        (closeGroup (some (i, some group)) body :: parts) := by
  simp [readBody, Flags.skip, hf, hopen, hbody]

end

/-! ## Groups of placeholders -/

namespace Piece

/-- The set of characters that a placeholder admits. -/
def admitted (takesRest : Bool) : Text.CharSet :=
  if takesRest then ⟨[(0, 9), (11, 0x10FFFF)]⟩ else ⟨[(0, 46), (48, 0x10FFFF)]⟩

/-- The part of a placeholder. -/
def groupPart (takesRest : Bool) (index : Nat) (name : List Char) : Part :=
  ⟨.group index (some (String.ofList name)) (.loop 1 none true (.set (admitted takesRest))),
    if takesRest then 2 else 3, true⟩

theorem groupText_append (takesRest : Bool) (name rest : List Char) :
    groupText takesRest name ++ rest = '(' :: '?' :: 'P' :: '<' :: (name ++ '>' ::
      ((if takesRest then ".+".toList else "[^/]+".toList) ++ ')' :: rest)) := by
  show "(?P<".toList ++ name ++ ['>'] ++ _ ++ [')'] ++ rest = _
  rw [List.append_assoc, List.append_assoc, List.append_assoc, List.append_assoc]
  rfl

theorem readBody_repeated (takesRest : Bool) (n g : Nat) (ns : List String) (rest : List Char) :
    readBody (n + 3) ⟨{}, g, ns⟩
        ((if takesRest then ".+".toList else "[^/]+".toList) ++ ')' :: rest) [] [] =
      .ok (⟨.loop 1 none true (.set (admitted takesRest)), if takesRest then 1 else 2, true⟩,
        ⟨{}, g, ns⟩, ')' :: rest) := by
  cases takesRest <;> rfl

/-- The group of a placeholder is read as its part, unless there is one of its name. -/
theorem readBody_groupText {n : Nat} {sc : Scope} {name rest : List Char}
    {branches parts : List Part} (takesRest : Bool) (hf : sc.flags = {})
    (hname : isIdentifier name = true) :
    readBody (n + 4) sc (groupText takesRest name ++ rest) branches parts =
      if String.ofList name ∈ sc.names then .error .duplicateName
      else readBody (n + 3) ⟨{}, sc.groups + 1, String.ofList name :: sc.names⟩ rest branches
        (groupPart takesRest (sc.groups + 1) name :: parts) := by
  rw [groupText_append]
  by_cases hmem : String.ofList name ∈ sc.names
  · rw [if_pos hmem]
    exact readBody_group_error hf (readOpening_named_dup hf (readName_identifier hname) hmem)
  · rw [if_neg hmem]
    have hopen (text : List Char) : readOpening sc ('?' :: 'P' :: '<' :: (name ++ '>' :: text)) = _ :=
      readOpening_named hf (readName_identifier hname) hmem
    rw [readBody_group hf (hopen _) (readBody_repeated takesRest n _ _ rest)]
    cases takesRest <;> rfl

/-! ## Whole templates -/

/-- The parts of a template whose first group has a given number. -/
def parts (catchAll : Bool) : (index : Nat) → List Piece → List Part
  | _, [] => []
  | index, .literal t :: rest => t.map .ofChar ++ parts catchAll index rest
  | index, .placeholder n :: rest =>
    groupPart (catchAll && (names rest).isEmpty) index n :: parts catchAll (index + 1) rest

theorem length_le_escape (t : List Char) : t.length ≤ (Regex.escape t).length := by
  induction t with
  | nil => exact Nat.le_refl 0
  | cons c t ih =>
    have hpos : 1 ≤ (if isMeta c then ['\\', c] else [c]).length := by split <;> simp
    rw [Regex.escape, List.flatMap_cons, List.length_append, List.length_cons]
    rw [Regex.escape] at ih
    omega

theorem four_le_length_groupText (takesRest : Bool) (name : List Char) :
    4 ≤ (groupText takesRest name).length := by
  have h := congrArg List.length (groupText_append takesRest name [])
  simp only [List.append_nil, List.length_cons] at h
  omega

/-- Whether names are different from each other and from those of groups before. -/
def Fresh (before : List String) (names : List (List Char)) : Prop :=
  (names.map String.ofList).Nodup ∧ ∀ n ∈ names, String.ofList n ∉ before

theorem fresh_cons {before : List String} {n : List Char} {names : List (List Char)} :
    Fresh before (n :: names) ↔ String.ofList n ∉ before ∧ Fresh (String.ofList n :: before) names := by
  constructor
  · rintro ⟨hnodup, hnew⟩
    obtain ⟨hn, hnodup⟩ := List.nodup_cons.1 hnodup
    refine ⟨hnew n (.head _), hnodup, fun m hm hmem => ?_⟩
    rcases List.mem_cons.1 hmem with h | h
    · exact hn (h ▸ List.mem_map_of_mem hm)
    · exact hnew m (.tail _ hm) h
  · rintro ⟨hn, hnodup, hnew⟩
    refine ⟨List.nodup_cons.2 ⟨fun hmem => ?_, hnodup⟩, fun m hm => ?_⟩
    · obtain ⟨m, hm, h⟩ := List.mem_map.1 hmem
      exact hnew m hm (h ▸ .head _)
    · rcases List.mem_cons.1 hm with rfl | hm
      · exact hn
      · exact fun h => hnew m hm (.tail _ h)

instance (before : List String) (names : List (List Char)) : Decidable (Fresh before names) :=
  inferInstanceAs (Decidable (_ ∧ _))

/-- The expression of a template is read as the parts of the template, in front of any text, if the
names of its placeholders are different. -/
theorem readBody_expression (catchAll : Bool) {pieces : List Piece} (rest : List Char)
    (branches : List Part) (hnames : ∀ n ∈ names pieces, isIdentifier n = true) :
    ∀ (n : Nat) (sc : Scope) (before : List Part), sc.flags = {} →
      (expression catchAll pieces).length + 2 ≤ n →
      ∃ m, 2 ≤ m ∧ readBody n sc (expression catchAll pieces ++ rest) branches before =
        if Fresh sc.names (names pieces) then
          readBody m ⟨{}, sc.groups + (names pieces).length,
            ((names pieces).map String.ofList).reverse ++ sc.names⟩ rest branches
            ((parts catchAll (sc.groups + 1) pieces).reverse ++ before)
        else .error .duplicateName := by
  induction pieces with
  | nil =>
    intro n sc before hf hn
    obtain ⟨flags, groups, ns⟩ := sc
    subst hf
    exact ⟨n, hn, by rw [if_pos ⟨List.nodup_nil, fun n h => absurd h List.not_mem_nil⟩]; rfl⟩
  | cons piece pieces ih =>
    intro n sc before hf hn
    cases piece with
    | literal t =>
      rw [expression, List.length_append] at hn
      have ht := length_le_escape t
      obtain ⟨n, rfl⟩ : ∃ k, n = k + t.length := ⟨n - t.length, by omega⟩
      have hcons : names (.literal t :: pieces) = names pieces := rfl
      rw [hcons] at hnames
      obtain ⟨m, hm, h⟩ := ih hnames n sc ((t.map .ofChar).reverse ++ before) hf (by omega)
      refine ⟨m, hm, ?_⟩
      rw [expression, List.append_assoc, readBody_escape hf, h, hcons, parts, List.reverse_append,
        List.append_assoc]
    | placeholder name =>
      rw [expression, List.length_append] at hn
      have hg := four_le_length_groupText (catchAll && (names pieces).isEmpty) name
      obtain ⟨n, rfl⟩ : ∃ k, n = k + 4 := ⟨n - 4, by omega⟩
      have hcons : names (.placeholder name :: pieces) = name :: names pieces := rfl
      rw [hcons] at hnames
      obtain ⟨m, hm, h⟩ := ih (fun m hm => hnames m (.tail _ hm)) (n + 3)
        ⟨{}, sc.groups + 1, String.ofList name :: sc.names⟩
        (groupPart (catchAll && (names pieces).isEmpty) (sc.groups + 1) name :: before) rfl (by omega)
      refine ⟨m, hm, ?_⟩
      rw [expression, List.append_assoc, readBody_groupText _ hf (hnames name (.head _)), hcons]
      by_cases hmem : String.ofList name ∈ sc.names
      · rw [if_pos hmem, if_neg fun h => (fresh_cons.1 h).1 hmem]
      · have hfresh : Fresh (String.ofList name :: sc.names) (names pieces) ↔
            Fresh sc.names (name :: names pieces) := by rw [fresh_cons, and_iff_right hmem]
        rw [if_neg hmem, h]
        simp only [hfresh, parts, List.reverse_cons, List.append_assoc, List.singleton_append,
          List.length_cons, List.map_cons, Nat.add_assoc, Nat.add_comm 1]

/-- The expressions of a template, without its anchors. -/
def exprs (catchAll : Bool) (index : Nat) (pieces : List Piece) : List Expr :=
  (parts catchAll index pieces).map Part.expr

theorem exprs_literal (catchAll : Bool) (index : Nat) (t : List Char) (rest : List Piece) :
    exprs catchAll index (.literal t :: rest) = Expr.text t ++ exprs catchAll index rest := by
  rw [exprs, parts, List.map_append, List.map_map]
  rfl

theorem exprs_placeholder (catchAll : Bool) (index : Nat) (n : List Char) (rest : List Piece) :
    exprs catchAll index (.placeholder n :: rest) =
      .group index (some (String.ofList n))
        (.loop 1 none true (.set (admitted (catchAll && (names rest).isEmpty)))) ::
      exprs catchAll (index + 1) rest := rfl

theorem expr_closeSequence_reverse (ps : List Part) :
    (closeSequence ps.reverse).expr = .sequence (ps.map Part.expr) := by
  match h : ps.reverse with
  | [] => rw [List.reverse_eq_nil_iff.1 h]; rfl
  | [p] => rw [List.reverse_eq_cons_iff.1 h]; rfl
  | p :: q :: rest =>
    show Expr.sequence ((p :: q :: rest).reverse.map Part.expr) = _
    rw [← h, List.reverse_reverse]

theorem closeSequence_anchored (ps : List Part) :
    (closeSequence (⟨.look .textEnd, 0, true⟩ :: (ps.reverse ++ [⟨.look .textStart, 0, true⟩]))).expr =
      .cat (.look .textStart) (.sequence (ps.map Part.expr ++ [.look .textEnd])) := by
  have hreverse : (⟨.look .textEnd, 0, true⟩ : Part) :: (ps.reverse ++ [⟨.look .textStart, 0, true⟩]) =
      (⟨.look .textStart, 0, true⟩ :: (ps ++ [⟨.look .textEnd, 0, true⟩])).reverse := by simp
  rw [hreverse, expr_closeSequence_reverse, List.map_cons, List.map_append]
  exact Expr.sequence_cons _ (by simp)

/-- The expression of a template is read as the parts of the template between the anchors, if the
names of its placeholders are different. -/
theorem readPattern_templateExpression (kind : PatternKind) {pieces : List Piece}
    (hnames : ∀ n ∈ names pieces, isIdentifier n = true) :
    readPattern (Pattern.templateExpression kind pieces) =
      if Fresh [] (names pieces) then
        .ok (closeSequence (⟨.look .textEnd, 0, true⟩ ::
          ((parts (kind == .catchAll) 1 pieces).reverse ++ [⟨.look .textStart, 0, true⟩])))
      else .error .duplicateName := by
  have hlen : (Pattern.templateExpression kind pieces).length + 1 =
      (expression (kind == .catchAll) pieces).length + 2 + 1 := by
    simp [Pattern.templateExpression]
  have hbody : readBody ((expression (kind == .catchAll) pieces).length + 2 + 1) {}
      (Pattern.templateExpression kind pieces) [] [] =
      readBody ((expression (kind == .catchAll) pieces).length + 2) {}
        (expression (kind == .catchAll) pieces ++ ['$']) [] [⟨.look .textStart, 0, true⟩] := rfl
  obtain ⟨m, hm, h⟩ := readBody_expression (kind == .catchAll) ['$'] [] hnames _ {}
    [⟨.look .textStart, 0, true⟩] rfl (Nat.le_refl _)
  obtain ⟨m, rfl⟩ : ∃ k, m = k + 2 := ⟨m - 2, by omega⟩
  rw [readPattern, hlen, hbody, h]
  by_cases hfresh : Fresh [] (names pieces)
  · simp only [if_pos hfresh]
    rfl
  · simp only [if_neg hfresh]

/-! ## Reading templates -/

theorem source_flush (held : List Char) (pieces : List Piece) :
    source (flush held pieces) = held.reverse ++ source pieces := by
  cases held <;> rfl

theorem names_flush (held : List Char) (pieces : List Piece) :
    names (flush held pieces) = names pieces := by
  cases held <;> rfl

/-- What was read of a template, with the text that was held back. -/
theorem source_readFrom {cs : List Char} : ∀ {inside : Bool} {held : List Char} {pieces : List Piece},
    readFrom inside held cs = .ok pieces →
      source pieces = (if inside then ['\x7b'] else []) ++ held.reverse ++ cs ∧
        ∀ n ∈ names pieces, isIdentifier n = true := by
  induction cs with
  | nil =>
    intro inside held pieces h
    cases inside with
    | true => simp [readFrom] at h
    | false =>
      obtain rfl := Except.ok.inj h
      rw [source_flush, names_flush]
      exact ⟨by simp [source], fun n h => absurd h List.not_mem_nil⟩
  | cons c cs ih =>
    intro inside held pieces h
    cases inside with
    | false =>
      simp only [readFrom] at h
      split at h
      · rename_i hc
        obtain ⟨rest, hrest, rfl⟩ := map_eq_ok.1 h
        obtain ⟨hs, hn⟩ := ih hrest
        rw [source_flush, names_flush, hs, hc]
        exact ⟨by simp, hn⟩
      · obtain ⟨hs, hn⟩ := ih h
        exact ⟨by rw [hs]; simp, hn⟩
    | true =>
      simp only [readFrom] at h
      split at h
      · rename_i hc
        split at h
        · rename_i hid
          obtain ⟨rest, hrest, rfl⟩ := map_eq_ok.1 h
          obtain ⟨hs, hn⟩ := ih hrest
          refine ⟨by rw [source, hs, hc]; simp, fun n hmem => ?_⟩
          rcases List.mem_cons.1 hmem with rfl | hmem
          · exact hid
          · exact hn n hmem
        · simp at h
      · obtain ⟨hs, hn⟩ := ih h
        exact ⟨by rw [hs]; simp, hn⟩

theorem source_read {cs : List Char} {pieces : List Piece} (h : read cs = .ok pieces) :
    source pieces = cs := (source_readFrom h).1

theorem isIdentifier_of_read {cs : List Char} {pieces : List Piece} (h : read cs = .ok pieces) :
    ∀ n ∈ names pieces, isIdentifier n = true := (source_readFrom h).2

end Piece

end RequestDispatch.Route
