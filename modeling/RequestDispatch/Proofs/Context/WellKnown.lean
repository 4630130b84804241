import RequestDispatch.Context.WellKnown
import RequestDispatch.Proofs.Context.Lookup
import RequestDispatch.Proofs.Request

/-!
# The well-known keys of a unit

* `Written`: values that were set at a unit one after the other. Where the unit is live nothing goes
  wrong (`exists_written`), and no other unit has changed.
* `decode_form`, `decode_server`, `decode_session`: the objects among the values of the well-known
  keys are read back as they are.
* `Store.Shows`: a unit was given a request. It shows the request under the well-known keys, and
  what the root has under all others (`Shows.read`, `Shows.get_of_not_mem`).
* `Units.exists_populated`: this is how a new unit below the root stands when it is populated.
-/

set_option autoImplicit false

namespace RequestDispatch.Context

/-! ## Values set one after the other -/

namespace Store

variable {s s' : Store} {u w : UnitId} {key : String}

/-- The pairs were set at a unit one after the other, and that is all. -/
structure Written (u : UnitId) (pairs : List (String × Json)) (s s' : Store) : Prop where
  run : pairs.foldlM (fun s p => s.set u p.1 p.2) s = .ok s'
  node? : ∀ w, s'.node? w = (s.node? w).map fun node => if w = u then
    { node with values := pairs.foldl (fun d p => Dictionary.put p.1 p.2 d) node.values } else node
  reachable : s.Reachable → s'.Reachable

theorem exists_written (hu : s.contains u = true) (pairs : List (String × Json)) :
    ∃ s', Written u pairs s s' := by
  induction pairs generalizing s with
  | nil =>
    refine ⟨s, rfl, fun w => ?_, id⟩
    cases s.node? w <;> simp
  | cons p pairs ih =>
    obtain ⟨s₁, hset⟩ := set_eq_ok hu p.1 p.2
    obtain ⟨s', hrun, hnode, hreachable⟩ := ih ((contains_set hset u).trans hu)
    refine ⟨s', ?_, fun w => ?_, fun hs => hreachable (.set hs hset)⟩
    · rw [List.foldlM_cons, hset]
      exact hrun
    · rw [hnode, node?_set hset, Option.map_map]
      cases s.node? w with
      | none => rfl
      | some node =>
        by_cases hw : w = u <;> simp [hw]

theorem Written.node?_self {pairs : List (String × Json)} (h : Written u pairs s s')
    {parent : Option UnitId} (hu : s.node? u = some ⟨parent, []⟩) :
    s'.node? u = some ⟨parent, Dictionary.ofPairs pairs⟩ := by
  rw [h.node?, hu, Option.map_some, if_pos rfl]
  rfl

theorem Written.node?_of_ne {pairs : List (String × Json)} (h : Written u pairs s s')
    (hw : w ≠ u) : s'.node? w = s.node? w := by
  rw [h.node?]
  simp [hw]

/-- A look-up from a unit that stands right below the root. -/
theorem get_below_root {values top : List (String × Json)}
    (hu : s.node? u = some ⟨some .root, values⟩) (hroot : s.node? .root = some ⟨none, top⟩)
    (key : String) :
    s.get u key = found key ((Dictionary.find? key values).or (Dictionary.find? key top)) := by
  have hclimbs : s.Climbs u [u, .root] := .up hu rfl (.top hroot rfl)
  have hlive : s.contains u = true := contains_of_node? hu
  rw [hclimbs.get_eq, hlive, if_pos rfl, List.findSome?_cons, List.findSome?_singleton, own?, own?,
    hu, hroot, Option.bind_some, Option.bind_some]
  cases Dictionary.find? key values <;> rfl

end Store

/-- Where each write succeeds, no write through a handle is lost. -/
theorem Units.foldl_set {us : Units} {u : UnitId} {pairs : List (String × Json)} {s : Store}
    (h : pairs.foldlM (fun s p => s.set u p.1 p.2) us.store = .ok s) :
    pairs.foldl (fun us p => us.set u p.1 p.2) us = { us with store := s } := by
  induction pairs generalizing us with
  | nil =>
    cases h
    rfl
  | cons p pairs ih =>
    rw [List.foldlM_cons, bind_eq_ok] at h
    obtain ⟨s₁, hset, hrest⟩ := h
    have hfirst : us.set u p.1 p.2 = { us with store := s₁ } := by simp only [Units.set, hset]
    rw [List.foldl_cons, hfirst, ih hrest]

/-! ## Views of what was written -/

/-- An object that is read back as it is gives its members. -/
theorem decode_members {ms : List (String × Json)} (h : Json.Stable (.object ms)) :
    (Json.object ms).decode objectReader = .ok ms := by
  rw [Json.Stable, Json.Draft.ofJson, Json.Draft.value?, if_pos rfl] at h
  obtain ⟨given, hgiven, heq⟩ := Option.map_eq_some_iff.1 h
  rw [Json.decode, Json.Draft.ofJson, objectReader, Json.Reader.map, Json.members_value hgiven]
  exact congrArg Except.ok (Json.object.inj heq)

theorem stable_form (r : Request) : Json.Stable (.object r.form) := by
  simp only [Request.form]
  split
  · exact Json.stable_texts _
  · split
    · split
      · rename_i hbody
        exact Json.Document.stable hbody
      · rfl
    · rfl

theorem decode_form (r : Request) : (Json.object r.form).decode objectReader = .ok r.form :=
  decode_members (stable_form r)

theorem decode_server (r : Request) :
    (Json.object r.serverVars).decode objectReader = .ok r.serverVars :=
  decode_members (Json.stable_texts _)

theorem decode_session (id : RequestId) (start : StartTime) :
    ∃ ms, (Json.ofMembers [("UNIQUE_REQUEST_ID", .text id.text),
        ("__start_time", .real start)]).decode objectReader = .ok ms ∧
      Dictionary.find? "UNIQUE_REQUEST_ID" ms = some (.text id.text) := by
  refine ⟨_, decode_members (Json.stable_ofMembers ?_), ?_⟩
  · simp only [List.forall_mem_cons]
    exact ⟨rfl, rfl, by simp⟩
  · refine Dictionary.find?_ofPairs_of_mem ?_ (.head _)
    simp only [List.map_cons, List.map_nil]
    decide

/-! ## A unit that was given a request -/

theorem nodup_wellKnown (r : Request) (start : StartTime) :
    ((wellKnown r start).map Prod.fst).Nodup := by
  simp only [wellKnown, List.map_cons, List.map_nil]
  decide

/-- A unit right below the root has the well-known keys of a request and nothing else. -/
structure Store.Shows (s : Store) (u : UnitId) (r : Request) (start : StartTime) : Prop where
  unit : s.node? u = some ⟨some .root, Dictionary.ofPairs (wellKnown r start)⟩
  root : ∃ top, s.node? .root = some ⟨none, top⟩

namespace Store.Shows

variable {s : Store} {u : UnitId} {r : Request} {start : StartTime}

theorem get_of_mem (h : s.Shows u r start) {key : String} {value : Json}
    (hmem : (key, value) ∈ wellKnown r start) : s.get u key = .ok value := by
  obtain ⟨top, hroot⟩ := h.root
  rw [get_below_root h.unit hroot,
    Dictionary.find?_ofPairs_of_mem (nodup_wellKnown r start) hmem]
  rfl

/-- Under any other key the unit shows what the root has. -/
theorem get_of_not_mem (h : s.Shows u r start) {key : String}
    (hkey : key ∉ (wellKnown r start).map Prod.fst) :
    s.get u key = found key (s.own? key .root) := by
  obtain ⟨top, hroot⟩ := h.root
  rw [get_below_root h.unit hroot, Dictionary.find?_ofPairs_eq_none hkey, Option.none_or, own?,
    hroot, Option.bind_some]

theorem read {α : Type} {x : α} {value : Json} (h : s.Shows u r start) (v : View α)
    (hmem : (v.key, value) ∈ wellKnown r start) (hdecode : value.decode v.reader = .ok x) :
    v.read (s.get u v.key) = .ok x := by
  rw [h.get_of_mem hmem, View.read, decodeAs, hdecode]

end Store.Shows

/-- A new unit below the root takes the well-known keys of a request: each is written, the unit has
them and nothing else, and the root has what it had. -/
theorem Units.exists_populated {us : Units} (hus : us.store.Reachable) (r : Request)
    (start : StartTime) :
    ∃ s, Store.Written (us.child .root).1 (wellKnown r start) (us.child .root).2.store s ∧
      (us.child .root).2.populate (us.child .root).1 r start =
        { (us.child .root).2 with store := s } ∧
      s.Shows (us.child .root).1 r start ∧ s.node? .root = us.store.node? .root := by
  have hnode := Store.node?_newUnit hus.numbered (some .root)
  have hunit : (us.child .root).2.store.node? (us.child .root).1 = some ⟨some .root, []⟩ :=
    (hnode _).trans (if_pos rfl)
  obtain ⟨top, hroot⟩ := hus.root
  have hne : UnitId.root ≠ (us.child .root).1 :=
    Store.root_ne_fresh (by rw [hroot]; rfl) hus.numbered
  have hlive := Store.contains_of_node? hunit
  obtain ⟨s, hwritten⟩ := Store.exists_written hlive (wellKnown r start)
  have hsame : s.node? .root = us.store.node? .root :=
    (hwritten.node?_of_ne hne).trans ((hnode _).trans (if_neg hne))
  exact ⟨s, hwritten, Units.foldl_set hwritten.run,
    ⟨hwritten.node?_self hunit, top, hsame.trans hroot⟩, hsame⟩

end RequestDispatch.Context
