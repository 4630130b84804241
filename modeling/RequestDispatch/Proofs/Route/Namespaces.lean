import RequestDispatch.Proofs.Text.Blank
import RequestDispatch.Route.Pattern

/-!
# Namespaces in namespaces

A namespace and a template are joined by one slash, and slashes at the ends of either do not count.
What is left of a text without them is its `bare` form, and joined texts have the bare forms of their
parts, with a slash between those that are not empty (`bare_joinNamespace`). Putting a slash between
two bare texts, `glue`, is associative and the empty text is its unit.

* `joinNamespace_assoc`, `joinNamespace_of_bare_nil`: so is joining, on the paths that begin with one
  slash and do not end with one behind it (`Normal`), and it makes no others.
* `getLast?_joinNamespace`: they end with a slash only if they are nothing else, so a template that is
  joined stays as it is (`textOf_ofTemplate_joinNamespace`).
* `Nesting.join_eq`: templates may be nested in namespaces in any grouping.
* `joinNamespace_monoid`: all of this together.
-/

set_option autoImplicit false

namespace RequestDispatch.Route

open Text (trimBy)

/-- A text without the slashes at its ends. -/
def bare (path : List Char) : List Char := trimBy (· == '/') path

/-- A row of slashes. -/
def slashes (n : Nat) : String := String.ofList (List.replicate n '/')

/-- Two texts with a slash between them, unless one of them is empty. -/
def glue : List Char → List Char → List Char
  | [], rest => rest
  | space, [] => space
  | space, rest => space ++ '/' :: rest

/-- A slash before a text that neither begins nor ends with one. -/
def Normal (path : String) : Prop :=
  ∃ rest, path.toList = '/' :: rest ∧ rest.head? ≠ some '/' ∧ rest.getLast? ≠ some '/'

/-! ## Glueing -/

theorem glue_nil (space : List Char) : glue space [] = space := by
  cases space <;> rfl

theorem glue_ne_nil {space : List Char} (h : space ≠ []) (rest : List Char) :
    glue space rest ≠ [] := by
  cases space with
  | nil => exact absurd rfl h
  | cons c space => cases rest <;> exact List.cons_ne_nil _ _

theorem glue_of_ne {space rest : List Char} (hspace : space ≠ []) (hrest : rest ≠ []) :
    glue space rest = space ++ '/' :: rest := by
  unfold glue
  split
  · exact absurd rfl hspace
  · exact absurd rfl hrest
  · rfl

theorem glue_assoc (a b c : List Char) : glue a (glue b c) = glue (glue a b) c := by
  by_cases ha : a = []
  · rw [ha]; rfl
  by_cases hb : b = []
  · rw [hb, glue_nil]; rfl
  by_cases hc : c = []
  · rw [hc, glue_nil, glue_nil]
  rw [glue_of_ne ha (glue_ne_nil hb c), glue_of_ne hb hc, glue_of_ne (glue_ne_nil ha b) hc,
    glue_of_ne ha hb, List.append_assoc, List.cons_append]

/-- Two texts that neither begin nor end with a slash make one. -/
theorem bare_glue (a b : List Char) : bare (glue (bare a) (bare b)) = glue (bare a) (bare b) := by
  have hbare : ∀ path, bare (bare path) = bare path := Text.trimBy_trimBy _
  by_cases ha : bare a = []
  · rw [ha]; exact hbare b
  by_cases hb : bare b = []
  · rw [hb, glue_nil, hbare]
  rw [glue_of_ne ha hb]
  have hfirst : ∀ c ∈ (bare a ++ '/' :: bare b).head?, (c == '/') = false := by
    rw [List.head?_append, Option.or_of_isSome (List.isSome_head?.2 ha)]
    exact Text.head?_trimBy
  have hlast : ∀ c ∈ (bare a ++ '/' :: bare b).getLast?, (c == '/') = false := by
    rw [List.append_cons, List.getLast?_append, Option.or_of_isSome (List.getLast?_isSome.2 hb)]
    exact Text.getLast?_trimBy
  have h := Text.trimBy_append (List.forall_mem_nil _) (List.forall_mem_nil _) hfirst hlast
  rwa [List.nil_append, List.append_nil] at h

/-! ## Joining -/

theorem toList_joinNamespace (space template : String) :
    (joinNamespace space template).toList = '/' :: glue (bare space.toList) (bare template.toList) := by
  rw [joinNamespace, String.toList_ofList, namespaced]
  split
  · rename_i hspace
    rw [bare, bare, hspace]
    rfl
  · rename_i hrest _
    rw [bare, bare, hrest, glue_nil]
  · rename_i hspace hrest
    exact congrArg (List.cons '/') (glue_of_ne hspace hrest).symm

theorem bare_joinNamespace (space template : String) :
    bare (joinNamespace space template).toList = glue (bare space.toList) (bare template.toList) := by
  have hslash : ∀ c ∈ ['/'], (c == '/') = true := by simp
  have h := Text.trimBy_surround hslash (List.forall_mem_nil _)
    (glue (bare space.toList) (bare template.toList))
  rw [List.append_nil] at h
  rw [toList_joinNamespace]
  exact h.trans (bare_glue _ _)

theorem head?_bare (path : List Char) : (bare path).head? ≠ some '/' := fun h => by
  cases (Text.head?_trimBy (p := (· == '/')) '/' h).symm.trans (beq_self_eq_true '/')

theorem getLast?_bare (path : List Char) : (bare path).getLast? ≠ some '/' := fun h => by
  cases (Text.getLast?_trimBy (p := (· == '/')) '/' h).symm.trans (beq_self_eq_true '/')

/-- A path in normal form is a slash before its bare form. -/
theorem normal_iff {path : String} : Normal path ↔ path.toList = '/' :: bare path.toList := by
  refine ⟨?_, fun h => ⟨_, h, head?_bare _, getLast?_bare _⟩⟩
  rintro ⟨rest, hpath, hfirst, hlast⟩
  have hslash : ∀ c ∈ ['/'], (c == '/') = true := by simp
  have hends : ∀ {end? : Option Char}, end? ≠ some '/' → ∀ c ∈ end?, (c == '/') = false :=
    fun hend c hc => beq_eq_false_iff_ne.2 (by rintro rfl; exact hend hc)
  have h := Text.trimBy_append hslash (List.forall_mem_nil _) (hends hfirst) (hends hlast)
  rw [List.append_nil] at h
  rw [hpath]
  exact congrArg (List.cons '/') h.symm

theorem bare_slashes (i j : Nat) (s : String) :
    bare (slashes i ++ s ++ slashes j).toList = bare s.toList := by
  have hslash : ∀ n, ∀ c ∈ (slashes n).toList, (c == '/') = true := by
    intro n c hc
    rw [slashes, String.toList_ofList] at hc
    exact beq_iff_eq.2 (List.eq_of_mem_replicate hc)
  rw [String.toList_append, String.toList_append]
  exact Text.trimBy_surround (hslash i) (hslash j) s.toList

theorem joinNamespace_eq_of_bare {a b c d : String} (ha : bare a.toList = bare c.toList)
    (hb : bare b.toList = bare d.toList) : joinNamespace a b = joinNamespace c d :=
  String.toList_injective (by rw [toList_joinNamespace, toList_joinNamespace, ha, hb])

theorem joinNamespace_assoc (a b c : String) :
    joinNamespace a (joinNamespace b c) = joinNamespace (joinNamespace a b) c := by
  apply String.toList_injective
  rw [toList_joinNamespace a, bare_joinNamespace, toList_joinNamespace (joinNamespace a b),
    bare_joinNamespace, glue_assoc]

theorem normal_joinNamespace (a b : String) : Normal (joinNamespace a b) := by
  rw [normal_iff, bare_joinNamespace, toList_joinNamespace]

/-- A text of nothing but slashes is a unit on paths in normal form. -/
theorem joinNamespace_of_bare_nil {path unit : String} (h : Normal path)
    (hunit : bare unit.toList = []) :
    joinNamespace path unit = path ∧ joinNamespace unit path = path := by
  constructor <;> apply String.toList_injective
  · rw [toList_joinNamespace, hunit, glue_nil]
    exact (normal_iff.1 h).symm
  · rw [toList_joinNamespace, hunit]
    exact (normal_iff.1 h).symm

theorem bare_empty : bare "".toList = [] := by decide

theorem bare_slash : bare "/".toList = [] := by decide

theorem joinNamespace_comm_empty (path : String) :
    joinNamespace path "" = joinNamespace "" path := by
  apply String.toList_injective
  rw [toList_joinNamespace, toList_joinNamespace, bare_empty, glue_nil]
  rfl

theorem head?_joinNamespace (a b : String) : (joinNamespace a b).toList.head? = some '/' := by
  rw [toList_joinNamespace, List.head?_cons]

theorem getLast?_joinNamespace (a b : String) :
    (joinNamespace a b).toList.getLast? = some '/' ↔ joinNamespace a b = "/" := by
  refine ⟨fun h => ?_, fun h => by rw [h]; rfl⟩
  obtain ⟨rest, hpath, -, hlast⟩ := normal_joinNamespace a b
  rw [hpath, List.getLast?_cons] at h
  cases hrest : rest.getLast? with
  | none =>
    apply String.toList_injective
    rw [hpath, List.getLast?_eq_none_iff.1 hrest]
    rfl
  | some c =>
    rw [hrest] at h hlast
    exact absurd h hlast

/-! ## Joined templates -/

theorem withSlash_joinNamespace (a b : String) :
    withSlash (joinNamespace a b).toList = (joinNamespace a b).toList := by
  rw [withSlash, if_pos (head?_joinNamespace a b)]

/-- The template, the pattern or the method that a refusal is about. -/
def RegistrationError.text : RegistrationError → String
  | .invalidMethod method => method
  | .noMethods pattern => pattern
  | .unterminatedPlaceholder template => template
  | .invalidPlaceholder template _ => template
  | .catchAllWithoutPlaceholder template => template
  | .preAnchored pattern => pattern
  | .expression pattern => pattern

/-- The text that is registered, or that a refusal is about. -/
def textOf : Except RegistrationError Pattern → String
  | .ok p => p.source
  | .error e => e.text

/-- Whether it is accepted or refused, a template is known by its text with a slash before it. -/
theorem textOf_ofTemplate (kind : PatternKind) (t : String) :
    textOf (Pattern.ofTemplate kind t) = String.ofList (withSlash t.toList) := by
  unfold Pattern.ofTemplate
  simp only
  split
  · rfl
  · rfl
  · split
    · rfl
    · split <;> rfl

theorem textOf_ofTemplate_joinNamespace (kind : PatternKind) (a b : String) :
    textOf (Pattern.ofTemplate kind (joinNamespace a b)) = joinNamespace a b := by
  rw [textOf_ofTemplate, withSlash_joinNamespace, String.ofList_toList]

/-! ## Namespaces in any grouping -/

/-- Texts in a grouping: one text, or a grouping under another one as its namespace. -/
inductive Nesting where
  | text (path : String)
  | under (outer inner : Nesting)
  deriving Repr, DecidableEq

namespace Nesting

/-- The texts in the order in which they stand. -/
def texts : Nesting → List String
  | text path => [path]
  | under outer inner => outer.texts ++ inner.texts

/-- The path that comes of joining them as they are grouped. -/
def join : Nesting → String
  | text path => path
  | under outer inner => joinNamespace outer.join inner.join

end Nesting

/-- The path of texts that stand one under the other, joined from the last one on. -/
def joinAll : List String → String
  | [] => ""
  | [path] => path
  | space :: rest => joinNamespace space (joinAll rest)

theorem joinAll_cons (space : String) {rest : List String} (h : rest ≠ []) :
    joinAll (space :: rest) = joinNamespace space (joinAll rest) := by
  cases rest with
  | nil => exact absurd rfl h
  | cons path rest => rfl

theorem joinAll_append {front back : List String} (hfront : front ≠ []) (hback : back ≠ []) :
    joinAll (front ++ back) = joinNamespace (joinAll front) (joinAll back) := by
  induction front with
  | nil => exact absurd rfl hfront
  | cons space front ih =>
    cases front with
    | nil => exact joinAll_cons space hback
    | cons path front =>
      have hne : path :: front ≠ [] := List.cons_ne_nil _ _
      rw [List.cons_append, joinAll_cons space (List.append_ne_nil_of_left_ne_nil hne back), ih hne,
        joinNamespace_assoc, ← joinAll_cons space hne]

theorem Nesting.texts_ne_nil (n : Nesting) : n.texts ≠ [] := by
  induction n with
  | text path => exact List.cons_ne_nil _ _
  | under outer inner houter _ => exact List.append_ne_nil_of_left_ne_nil houter _

theorem Nesting.join_eq (n : Nesting) : n.join = joinAll n.texts := by
  induction n with
  | text path => rfl
  | under outer inner houter hinner =>
    rw [join, texts, joinAll_append outer.texts_ne_nil inner.texts_ne_nil, houter, hinner]

/-- Joining is associative and makes paths in normal form: the bare forms of both parts behind a
slash, with a slash between them unless one is empty. The empty text and a slash are its units on the
paths in normal form. Slashes at the ends of the parts do not count, compiling a joined template
leaves it as it is, and a grouping of texts is joined to what its texts alone say. -/
theorem joinNamespace_monoid (a b c : String) :
    joinNamespace a (joinNamespace b c) = joinNamespace (joinNamespace a b) c ∧
      joinNamespace a "" = joinNamespace "" a ∧
      (∀ path, Normal path → joinNamespace path "" = path ∧ joinNamespace "" path = path ∧
        joinNamespace path "/" = path ∧ joinNamespace "/" path = path) ∧
      Normal (joinNamespace a b) ∧
      joinNamespace (joinNamespace a b) "" = joinNamespace a b ∧
      (joinNamespace a b).toList = '/' :: glue (bare a.toList) (bare b.toList) ∧
      (joinNamespace a b).toList.head? = some '/' ∧
      ((joinNamespace a b).toList.getLast? = some '/' ↔ joinNamespace a b = "/") ∧
      (∀ i j k l, joinNamespace (slashes i ++ a ++ slashes j) (slashes k ++ b ++ slashes l) =
        joinNamespace a b) ∧
      (∀ kind, textOf (Pattern.ofTemplate kind (joinNamespace a b)) = joinNamespace a b) ∧
      ∀ n : Nesting, n.join = joinAll n.texts := by
  refine ⟨joinNamespace_assoc a b c, joinNamespace_comm_empty a, fun path hpath => ?_,
    normal_joinNamespace a b,
    (joinNamespace_of_bare_nil (normal_joinNamespace a b) bare_empty).1,
    toList_joinNamespace a b, head?_joinNamespace a b, getLast?_joinNamespace a b,
    fun i j k l => joinNamespace_eq_of_bare (bare_slashes i j a) (bare_slashes k l b),
    fun kind => textOf_ofTemplate_joinNamespace kind a b, Nesting.join_eq⟩
  obtain ⟨hempty, hempty'⟩ := joinNamespace_of_bare_nil hpath bare_empty
  obtain ⟨hslash, hslash'⟩ := joinNamespace_of_bare_nil hpath bare_slash
  exact ⟨hempty, hempty', hslash, hslash'⟩

/-- Two slashes within a path and more at the ends of its parts, nested in both ways, and a path that
is nothing but slashes. -/
theorem joinNamespace_monoid_nested :
    joinNamespace "api//" (joinNamespace "//v1//x" "/{key}/") = "/api/v1//x/{key}" ∧
      joinNamespace (joinNamespace "api//" "//v1//x") "/{key}/" = "/api/v1//x/{key}" ∧
      Normal "/v1//x" ∧ joinNamespace "/v1//x" "" = "/v1//x" ∧ joinNamespace "//" "" = "/" ∧
      joinNamespace "/" "/v1//x" = "/v1//x" ∧ ¬ Normal "//" := by
  obtain ⟨hassoc, -, hunit, -⟩ := joinNamespace_monoid "api//" "//v1//x" "/{key}/"
  have hnested : joinNamespace "api//" (joinNamespace "//v1//x" "/{key}/") = "/api/v1//x/{key}" := by
    decide
  have hnormal : Normal "/v1//x" := normal_iff.2 (by decide)
  obtain ⟨hright, -, -, hleft⟩ := hunit "/v1//x" hnormal
  exact ⟨hnested, hassoc ▸ hnested, hnormal, hright, by decide, hleft,
    fun h => absurd (normal_iff.1 h) (by decide)⟩

end RequestDispatch.Route
