import RequestDispatch.Proofs.Binding
import RequestDispatch.Proofs.Regex.GroupNames
import RequestDispatch.Proofs.Route.Capture
import RequestDispatch.Proofs.Route.Registering

/-!
# The arguments of routes

A route resolves its parameters once against the names that its pattern declares. A pattern
captures no other names, and none of them twice (`captures?_names`), so for what it captures this
plan binds as the parameters do that the route was registered with (`Table.register_binds`).
-/

set_option autoImplicit false

namespace RequestDispatch.Route

open Binding (Args Reserved)
open Piece

/-! ## Names of patterns -/

/-- The named groups of a template are its placeholders. -/
theorem groupNames_exprs (catchAll : Bool) (pieces : List Piece) (index : Nat) :
    ((exprs catchAll index pieces).flatMap Regex.Expr.groupNames).map Prod.snd =
      (names pieces).map String.ofList := by
  induction pieces generalizing index with
  | nil => rfl
  | cons piece rest ih =>
    cases piece with
    | literal t =>
      rw [exprs_literal, List.flatMap_append, groupNames_text, List.nil_append]
      exact ih index
    | placeholder n =>
      rw [exprs_placeholder, List.flatMap_cons, List.map_append, ih]
      rfl

/-- A pattern declares the names of its groups, and they are different. -/
theorem paramNames_eq {kind : PatternKind} {source : String} {p : Pattern}
    (h : Pattern.ofKind kind source = .ok p) : p.paramNames = p.regex.names ∧ p.paramNames.Nodup := by
  have htemplate : ∀ kind, Pattern.ofTemplate kind source = .ok p →
      p.paramNames = p.regex.names ∧ p.paramNames.Nodup := by
    intro kind h
    obtain ⟨pieces, -, hnames, hnodup, hexpr⟩ := ofTemplate_eq_ok h
    refine ⟨?_, hnodup⟩
    rw [Regex.names, hexpr, groupNames_anchored, groupNames_exprs, hnames]
  cases kind with
  | template => exact htemplate .template h
  | catchAll => exact htemplate .catchAll h
  | raw =>
    rw [Pattern.ofKind, Pattern.raw] at h
    split at h
    · cases h
    · split at h
      · cases h
      · rename_i hcompile
        obtain rfl := Except.ok.inj h
        exact ⟨rfl, Regex.names_nodup hcompile⟩

/-- A pattern captures only names that it declares, and none twice. -/
theorem captures?_names {kind : PatternKind} {source : String} {p : Pattern}
    (h : Pattern.ofKind kind source = .ok p) {path : String} {captured : List (String × String)}
    (hc : p.captures? path = some captured) :
    captured.map Prod.fst ⊆ p.paramNames ∧ (captured.map Prod.fst).Nodup := by
  obtain ⟨hnames, hnodup⟩ := paramNames_eq h
  have hsub := Regex.captures?_sublist hc
  rw [← hnames] at hsub
  exact ⟨hsub.subset, hsub.nodup hnodup⟩

/-! ## Registered routes -/

namespace Table

variable {η α : Type} {t t' : Table η} {pattern : Pattern} {options : Options} {target : Target η}
  {r : Entry η}

theorem register_eq (t : Table η) : t.register pattern options target =
    (Entry.make pattern options target).map fun r => (⟨t.routes ++ [r]⟩, r) := by
  cases hmake : Entry.make pattern options target with
  | error e => simp only [register, enter, hmake]; rfl
  | ok r => simp only [register, enter, hmake]; rfl

/-- A registered route has the pattern that it was registered with and a plan of its parameters. -/
theorem register_eq_ok (h : t.register pattern options target = .ok (t', r)) :
    r.pattern = pattern ∧ r.plan = .ofParams options.params pattern.paramNames := by
  rw [register_eq, map_eq_ok] at h
  obtain ⟨r', hmake, heq⟩ := h
  obtain ⟨-, rfl⟩ := Prod.mk.inj heq
  unfold Entry.make at hmake
  split at hmake
  · cases hmake
  · obtain rfl := Except.ok.inj hmake
    exact ⟨rfl, rfl⟩

/-- For what its pattern captures, the plan of a registered route binds as its parameters do without
a plan: each takes the value captured under its name, which no other capture has, else the object
that the name is reserved for, else its default, else nothing. Of other captures the plan ignores
those under names that the pattern does not declare. -/
theorem register_binds {kind : PatternKind} {source : String}
    (hpattern : Pattern.ofKind kind source = .ok pattern)
    (hroute : t.register pattern options target = .ok (t', r)) (objects : Reserved → α) :
    (∀ path captured, r.pattern.captures? path = some captured →
      (captured.map Prod.fst).Nodup ∧
      r.plan.bind captured objects = Binding.bind options.params captured objects ∧
      (r.plan.bind captured objects).Lists options.params captured objects) ∧
    ∀ captures, r.plan.bind captures objects = Binding.bind options.params
      (captures.filter fun c => r.pattern.paramNames.contains c.1) objects := by
  obtain ⟨rfl, hplan⟩ := register_eq_ok hroute
  refine ⟨fun path captured hc => ?_, fun captures => ?_⟩
  · obtain ⟨hsub, hnodup⟩ := captures?_names hpattern hc
    have hbind : r.plan.bind captured objects = Binding.bind options.params captured objects := by
      rw [hplan, Binding.bind_ofParams_of_subset hsub]
    exact ⟨hnodup, hbind, hbind ▸ Binding.lists_bind hnodup⟩
  · rw [hplan, Binding.bind_ofParams]

/-- A group that took no part leaves its parameter to the next source. -/
theorem register_binds_optional : ∃ pattern t r,
    Pattern.ofKind .raw "/(?P<id>[0-9]+)(?:\\.(?P<format>[a-z]+))?" = .ok pattern ∧
    ({} : Table Unit).register pattern { params := [⟨"id", none⟩, ⟨"format", some (.text "json")⟩,
      ⟨"app", some .null⟩, ⟨"id", some .null⟩, ⟨"page", none⟩] } (.inline ()) = .ok (t, r) ∧
    r.pattern.captures? "/42" = some [("id", "42")] ∧
    (r.plan.bind [("id", "42")] id).entries = [("id", .captured "42"),
      ("format", .default (.text "json")), ("app", .object .app .app), ("id", .captured "42"),
      ("page", .absent)] := by
  have hc : (Pattern.ofKind .raw "/(?P<id>[0-9]+)(?:\\.(?P<format>[a-z]+))?").toOption.map
      (·.captures? "/42") = some (some [("id", "42")]) := by decide +kernel
  cases hp : Pattern.ofKind .raw "/(?P<id>[0-9]+)(?:\\.(?P<format>[a-z]+))?" with
  | error e => rw [hp] at hc; cases hc
  | ok pattern =>
    rw [hp] at hc
    obtain ⟨⟨t, r⟩, hroute⟩ : ∃ x, ({} : Table Unit).register pattern { params := [⟨"id", none⟩,
        ⟨"format", some (.text "json")⟩, ⟨"app", some .null⟩, ⟨"id", some .null⟩,
        ⟨"page", none⟩] } (.inline ()) = .ok x := by
      rw [register_eq]
      exact ⟨_, rfl⟩
    have hcaptures : r.pattern.captures? "/42" = some [("id", "42")] := by
      rw [(register_eq_ok hroute).1]
      exact Option.some.inj hc
    obtain ⟨-, hbind, -⟩ := (register_binds hp hroute id).1 _ _ hcaptures
    refine ⟨pattern, t, r, rfl, hroute, hcaptures, ?_⟩
    rw [hbind]
    rfl

end Table

end RequestDispatch.Route
