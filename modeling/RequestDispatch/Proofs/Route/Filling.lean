import RequestDispatch.Proofs.Route.Capture

/-!
# Paths built from a template

A path is built from a template by putting values in place of the placeholders. Where the literal
text between two placeholders always has a slash in it (`Separated`), the path tells the values:
one without slashes ends in front of a slash that is at a known place in the literal text behind it
(`takeWhile_fill`), and the last one ends where the literal text at the end of the path begins.

* `Assigns.unique`: so there is one way only to fill such a template to become a given path.
* `captures?_fill`: a path that was built from values is matched, and gives the values back.
-/

set_option autoImplicit false

namespace RequestDispatch.Route

namespace Piece

/-- The literal text in front of the next placeholder. -/
def lead : List Piece → List Char
  | .literal t :: rest => t ++ lead rest
  | _ => []

/-- Between two placeholders that follow one another the literal text has a slash. -/
def Separated : List Piece → Prop
  | [] => True
  | .literal _ :: rest => Separated rest
  | .placeholder _ :: rest => (names rest ≠ [] → '/' ∈ lead rest) ∧ Separated rest

instance : (pieces : List Piece) → Decidable (Separated pieces)
  | [] => isTrue trivial
  | .literal _ :: rest => instDecidableSeparated rest
  | .placeholder _ :: rest =>
    have := instDecidableSeparated rest
    inferInstanceAs (Decidable (_ ∧ _))

/-! ## Where a value ends -/

theorem lead_prefix_fill (pieces : List Piece) (values : List (List Char)) :
    lead pieces <+: fill pieces values := by
  induction pieces with
  | nil => exact List.nil_prefix
  | cons piece rest ih =>
    cases piece with
    | literal t =>
      obtain ⟨tail, htail⟩ := ih
      exact ⟨tail, by rw [lead, fill, List.append_assoc, htail]⟩
    | placeholder n => exact List.nil_prefix

/-- A value without slashes ends at a fixed place in front of the first slash, if there is one in
the literal text behind it. -/
theorem takeWhile_fill {v : List Char} {rest : List Piece} (hv : v.all (admits false) = true)
    (hlead : '/' ∈ lead rest) (values : List (List Char)) :
    (v ++ fill rest values).takeWhile (admits false) =
      v ++ (lead rest).takeWhile (admits false) := by
  obtain ⟨tail, htail⟩ := lead_prefix_fill rest values
  have hstop : ¬ ((lead rest).takeWhile (admits false)).length = (lead rest).length := by
    intro hlen
    have hself := (List.takeWhile_prefix (admits false)).eq_of_length hlen
    have hall := List.all_eq_true.1 (List.all_takeWhile (p := admits false) (l := lead rest))
    rw [hself] at hall
    simpa [admits] using hall '/' hlead
  rw [List.takeWhile_append_of_pos (List.all_eq_true.1 hv), ← htail, List.takeWhile_append,
    if_neg hstop]

/-- A separated template becomes a path in one way only. -/
theorem Assigns.unique {catchAll : Bool} {pieces : List Piece} :
    ∀ {path : List Char} {values others : List (List Char)}, Separated pieces →
      Assigns catchAll pieces values path → Assigns catchAll pieces others path →
        values = others := by
  induction pieces with
  | nil =>
    intro path values others _ hv hw
    rw [(assigns_nil.1 hv).1, (assigns_nil.1 hw).1]
  | cons piece rest ih =>
    intro path values others hsep hv hw
    cases piece with
    | literal t =>
      obtain ⟨path', rfl, hvrest⟩ := assigns_literal.1 hv
      obtain ⟨path'', hpath, hwrest⟩ := assigns_literal.1 hw
      obtain rfl := List.append_cancel_left hpath
      exact ih hsep hvrest hwrest
    | placeholder n =>
      obtain ⟨v, values, path', rfl, rfl, ⟨-, hvall⟩, hvrest⟩ := exists_of_assigns_placeholder hv
      obtain ⟨w, others, path'', rfl, hpath, ⟨-, hwall⟩, hwrest⟩ := exists_of_assigns_placeholder hw
      by_cases hlast : names rest = []
      · obtain ⟨rfl, rfl⟩ := hvrest.of_names_eq_nil hlast
        obtain ⟨rfl, rfl⟩ := hwrest.of_names_eq_nil hlast
        rw [List.append_cancel_right hpath]
      · have hvw : v = w := by
          have hend := congrArg (List.takeWhile (admits false)) hpath
          rw [List.isEmpty_eq_false_iff.2 hlast, Bool.and_false] at hvall hwall
          rw [← hvrest.fill, ← hwrest.fill, takeWhile_fill hvall (hsep.1 hlast),
            takeWhile_fill hwall (hsep.1 hlast)] at hend
          exact List.append_cancel_right hend
        subst hvw
        obtain rfl := List.append_cancel_left hpath
        rw [ih hsep.2 hvrest hwrest]

end Piece

open Piece

/-- A path that was built from a separated template gives back the values that it was built from,
each under the name of its placeholder. -/
theorem captures?_fill {kind : PatternKind} {t : String} {p : Pattern}
    (h : Pattern.ofTemplate kind t = .ok p) :
    ∃ pieces, read (withSlash t.toList) = .ok pieces ∧ source pieces = withSlash t.toList ∧
      p.paramNames = (names pieces).map String.ofList ∧
      (Separated pieces → ∀ values path, Assigns (kind == .catchAll) pieces values path →
        values.length = p.paramNames.length ∧
        p.captures? (String.ofList path) = some (p.paramNames.zip (values.map String.ofList))) := by
  obtain ⟨pieces, hread, hnames, -, hexpr⟩ := ofTemplate_eq_ok h
  refine ⟨pieces, hread, source_read hread, hnames, fun hsep values path hvalues => ⟨?_, ?_⟩⟩
  · rw [hnames, List.length_map, hvalues.length]
  · obtain ⟨found, hfound, -⟩ := longerFirst_assign? hvalues
    have hunique : found = values := (assigns_of_assign? hfound).unique hsep hvalues
    rw [captures?_eq_assign? hexpr, String.toList_ofList, hfound, hunique, hnames]
    rfl

/-- Literals on both sides of the placeholders, and a last value that holds a slash and the literal
that ends the path. -/
theorem captures?_fill_glued : ∃ p pieces values,
    Pattern.ofTemplate .catchAll "/v{major}.x/f{path}.txt" = .ok p ∧ Separated pieces ∧
    Assigns true pieces values "/v1.2.x/fa/b.txt/c.txt".toList ∧
    p.captures? (String.ofList "/v1.2.x/fa/b.txt/c.txt".toList) =
      some (p.paramNames.zip (values.map String.ofList)) := by
  let values := ["1.2".toList, "a/b.txt/c".toList]
  have hok : (Pattern.ofTemplate .catchAll "/v{major}.x/f{path}.txt").isOk = true := by
    decide +kernel
  cases hp : Pattern.ofTemplate .catchAll "/v{major}.x/f{path}.txt" with
  | error e => rw [hp] at hok; cases hok
  | ok p =>
    obtain ⟨pieces, hread, -, -, hfill⟩ := captures?_fill hp
    have hpieces : read (withSlash "/v{major}.x/f{path}.txt".toList) = .ok [.literal "/v".toList,
        .placeholder "major".toList, .literal ".x/f".toList, .placeholder "path".toList,
        .literal ".txt".toList] := rfl
    obtain rfl := Except.ok.inj (hread.symm.trans hpieces)
    have hsep : Separated [.literal "/v".toList, .placeholder "major".toList,
        .literal ".x/f".toList, .placeholder "path".toList, .literal ".txt".toList] := by decide
    have hvalues : Assigns true [.literal "/v".toList, .placeholder "major".toList,
        .literal ".x/f".toList, .placeholder "path".toList, .literal ".txt".toList] values
        "/v1.2.x/fa/b.txt/c.txt".toList := ⟨rfl, by unfold Allowed; decide, rfl⟩
    exact ⟨p, _, values, rfl, hsep, hvalues, (hfill hsep values _ hvalues).2⟩

end RequestDispatch.Route
