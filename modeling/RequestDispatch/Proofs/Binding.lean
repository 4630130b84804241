import RequestDispatch.Binding
import RequestDispatch.Proofs.Lookup

/-!
# Bound parameters

`Takes captures objects p a`: of what was captured, the objects and its own default, `a` is what
the parameter `p` takes. `Args.Lists` says of arguments that they are what declared parameters
take, each in its place.

* `lists_bind`: binding gives those arguments, whatever the declarations and the captures, as long as no
  name was captured twice.
* `bind_ofParams`: a plan binds as the declarations do, after the captures of names that it was
  not resolved against are dropped.
-/

set_option autoImplicit false

namespace RequestDispatch.Binding

variable {α : Type}

/-! ## What was captured -/

section
variable {captures : List (String × String)} {name s : String}

theorem lookup_eq_some_iff (hnodup : (captures.map Prod.fst).Nodup) :
    lookup captures name = some s ↔ (name, s) ∈ captures :=
  ⟨fun h => List.mem_reverse.1 (mem_of_lookup h), lookup_reverse_of_mem hnodup⟩

theorem lookup_eq_none_iff : lookup captures name = none ↔ name ∉ captures.map Prod.fst := by
  constructor
  · rintro h hmem
    obtain ⟨c, hc, rfl⟩ := List.mem_map.1 hmem
    have := List.lookup_eq_none_iff.1 h c (List.mem_reverse.2 hc)
    simp at this
  · intro h
    refine lookup_eq_none_of_not_mem fun hmem => h ?_
    rwa [List.map_reverse, List.mem_reverse] at hmem

theorem lookup_filter (q : String → Bool) :
    lookup (captures.filter fun c => q c.1) name = if q name then lookup captures name else none := by
  rw [lookup, ← List.filter_reverse, lookup_filter_fst]
  rfl

end

/-! ## What a parameter takes -/

/-- What a parameter takes: what was captured under its name, else the object that its name is
reserved for, else its default, else nothing. -/
inductive Takes (captures : List (String × String)) (objects : Reserved → α) (p : Param) :
    Arg α → Prop
  | captured {s : String} : (p.name, s) ∈ captures → Takes captures objects p (.captured s)
  | object {k : Reserved} : p.name ∉ captures.map Prod.fst → Reserved.ofName? p.name = some k →
      Takes captures objects p (.object k (objects k))
  | default {v : Json} : p.name ∉ captures.map Prod.fst → Reserved.ofName? p.name = none →
      p.default = some v → Takes captures objects p (.default v)
  | absent : p.name ∉ captures.map Prod.fst → Reserved.ofName? p.name = none →
      p.default = none → Takes captures objects p .absent

section
variable {captures : List (String × String)} {objects : Reserved → α} {p : Param} {a : Arg α}

/-- The argument that a parameter is bound to. -/
def argument (captures : List (String × String)) (objects : Reserved → α) (p : Param) : Arg α :=
  resolve objects (lookup captures p.name) (Reserved.ofName? p.name) p.default

theorem takes_iff (hnodup : (captures.map Prod.fst).Nodup) :
    Takes captures objects p a ↔ argument captures objects p = a := by
  constructor
  · intro h
    unfold argument
    cases h with
    | captured hmem => rw [(lookup_eq_some_iff hnodup).2 hmem]; rfl
    | object hnone hk => rw [lookup_eq_none_iff.2 hnone, hk]; rfl
    | default hnone hk hv => rw [lookup_eq_none_iff.2 hnone, hk, hv]; rfl
    | absent hnone hk hv => rw [lookup_eq_none_iff.2 hnone, hk, hv]; rfl
  · rintro rfl
    unfold argument
    cases hl : lookup captures p.name with
    | some s => exact .captured ((lookup_eq_some_iff hnodup).1 hl)
    | none =>
      have hnone := lookup_eq_none_iff.1 hl
      cases hk : Reserved.ofName? p.name with
      | some k => exact .object hnone hk
      | none =>
        cases hv : p.default with
        | some v => exact .default hnone hk hv
        | none => exact .absent hnone hk hv

end

/-! ## Arguments -/

/-- Arguments are what declared parameters take: one for each, in their order, and under a name
the one of the first parameter that is called so. -/
structure Args.Lists (params : List Param) (captures : List (String × String))
    (objects : Reserved → α) (args : Args α) : Prop where
  size : args.size = params.length
  names : args.entries.map Prod.fst = params.map Param.name
  get? : ∀ i p, params[i]? = some p → ∀ a, args.get? i = some a ↔ Takes captures objects p a
  named? : ∀ name a, args.named? name = some a ↔
    ∃ i p, params[i]? = some p ∧ p.name = name ∧ args.get? i = some a ∧
      ∀ j q, j < i → params[j]? = some q → q.name ≠ name

section
variable {params : List Param} {captures : List (String × String)} {objects : Reserved → α}

theorem get?_bind (i : Nat) : (bind params captures objects).get? i =
    params[i]?.map (argument captures objects) := by
  rw [bind, Args.get?, List.getElem?_map, Option.map_map]
  rfl

theorem named?_bind (name : String) : (bind params captures objects).named? name =
    (params.find? fun p => name == p.name).map (argument captures objects) := by
  rw [bind, Args.named?]
  induction params with
  | nil => rfl
  | cons p params ih =>
    rw [List.map_cons, List.lookup_cons, List.find?_cons, ih]
    cases name == p.name <;> rfl

/-- Under a name stands the argument of the first parameter that is called so. -/
theorem named?_bind_eq_some_iff {name : String} {a : Arg α} :
    (bind params captures objects).named? name = some a ↔
      ∃ i p, params[i]? = some p ∧ p.name = name ∧
        (bind params captures objects).get? i = some a ∧
        ∀ j q, j < i → params[j]? = some q → q.name ≠ name := by
  rw [named?_bind, Option.map_eq_some_iff]
  constructor
  · rintro ⟨p, hp, rfl⟩
    obtain ⟨hname, i, hi, rfl, hfirst⟩ := List.find?_eq_some_iff_getElem.1 hp
    have hget : params[i]? = some params[i] := List.getElem?_eq_getElem hi
    refine ⟨i, params[i], hget, (eq_of_beq hname).symm, by rw [get?_bind, hget]; rfl, ?_⟩
    rintro j q hj hq rfl
    obtain ⟨_, rfl⟩ := List.getElem?_eq_some_iff.1 hq
    simpa using hfirst j hj
  · rintro ⟨i, p, hp, rfl, ha, hfirst⟩
    rw [get?_bind, hp, Option.map_some, Option.some.injEq] at ha
    obtain ⟨hi, rfl⟩ := List.getElem?_eq_some_iff.1 hp
    refine ⟨params[i], List.find?_eq_some_iff_getElem.2 ⟨beq_self_eq_true _, i, hi, rfl, ?_⟩, ha⟩
    intro j hj
    have hne := hfirst j _ hj (List.getElem?_eq_getElem (Nat.lt_trans hj hi))
    simpa using hne.symm

/-- Binding gives every parameter what it takes. -/
theorem lists_bind (hnodup : (captures.map Prod.fst).Nodup) :
    (bind params captures objects).Lists params captures objects where
  size := List.length_map _
  names := by rw [bind, List.map_map]; rfl
  get? i p hp a := by rw [get?_bind, hp, Option.map_some, Option.some.injEq, takes_iff hnodup]
  named? _ _ := named?_bind_eq_some_iff

/-- A plan ignores what was captured under a name that it was not resolved against. -/
theorem bind_ofParams (placeholders : List String) :
    (Plan.ofParams params placeholders).bind captures objects =
      bind params (captures.filter fun c => placeholders.contains c.1) objects := by
  rw [Plan.bind, Plan.ofParams, bind, List.map_map]
  congr 1
  refine List.map_congr_left fun p _ => ?_
  rw [lookup_filter]
  rfl

/-- A plan that was resolved against every name that was captured binds as the declarations do. -/
theorem bind_ofParams_of_subset {placeholders : List String}
    (h : captures.map Prod.fst ⊆ placeholders) :
    (Plan.ofParams params placeholders).bind captures objects = bind params captures objects := by
  have hall : (captures.filter fun c => placeholders.contains c.1) = captures :=
    List.filter_eq_self.2 fun c hc => List.contains_iff_mem.2 (h (List.mem_map_of_mem hc))
  rw [bind_ofParams, hall]

end

end RequestDispatch.Binding
