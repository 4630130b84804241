import RequestDispatch.Json.Typed
import RequestDispatch.Proofs.Dictionary
import RequestDispatch.Proofs.Json.Reading
import RequestDispatch.Proofs.Lookup
import RequestDispatch.Proofs.Outcome

/-!
# Data is read back from values

* `decode_list`, `decode_texts`: a list of data is read from the array of its values, a dictionary
  from its object.
* `Stable`: a value that is read back as it is, as are all values that documents have
  (`stable_of_value?`).
* `Record.read_object`: a structure is read from an object whose members are `Accepted`: no name
  twice, and each value passes the check of its field. Every member is then given and no other.
* `decode_ofBytes_compact`: what is read from a plain value is read from its bytes.
-/

set_option autoImplicit false

namespace RequestDispatch.Json

variable {α : Type}

theorem ofItems_eq_map (vs : List Json) : Draft.ofItems vs = vs.map Draft.ofJson := by
  induction vs with
  | nil => rfl
  | cons v vs ih => rw [Draft.ofItems, ih, List.map_cons]

theorem ofMembers_eq_map (ms : List (String × Json)) :
    Draft.ofMembers ms = ms.map fun m => (m.1, Draft.ofJson m.2) := by
  induction ms with
  | nil => rfl
  | cons m ms ih => rw [Draft.ofMembers, ih, List.map_cons]

/-! ## Readers -/

theorem decode_text (s : String) : (Json.text s).decode Reader.text = .ok s := rfl

theorem decode_bool (b : Bool) : (Json.bool b).decode Reader.bool = .ok b := rfl

theorem decode_natural {n bound : Nat} (h : n < bound) (hbound : bound ≤ UInt64.size)
    (name : String) : (Json.ofNat n).decode (Reader.natural bound name) = .ok n := by
  have hrange : 0 ≤ (n : Int) ∧ (n : Int) ≤ ((bound - 1 : Nat) : Int) := by omega
  rw [ofNat_eq (Nat.lt_of_lt_of_le h hbound)]
  simp only [Json.decode, Draft.ofJson, Reader.natural, Reader.integer, if_pos hrange]
  rfl

theorem elements_map {r : Reader α} {f : α → Json} {xs : List α}
    (h : ∀ x ∈ xs, (f x).decode r = .ok x) (acc : List α) :
    Reader.elements r true acc (xs.map fun x => Draft.ofJson (f x)) = .ok (acc.reverse ++ xs) := by
  induction xs generalizing acc with
  | nil => simp [Reader.elements]
  | cons x xs ih =>
    have hx : r (Draft.ofJson (f x)) = .ok x := h x (.head _)
    simp only [List.map_cons, Reader.elements, hx, ih fun y hy => h y (.tail _ hy)]
    simp

/-- A list is read from the array of what its elements are read from. -/
theorem decode_list {r : Reader α} {f : α → Json} {xs : List α}
    (h : ∀ x ∈ xs, (f x).decode r = .ok x) :
    (Json.array (xs.map f)).decode (Reader.list r) = .ok xs := by
  have helements := elements_map h []
  rw [Json.decode, Draft.ofJson, ofItems_eq_map, List.map_map]
  exact helements

theorem decode_pair {β : Type} {a : Reader α} {b : Reader β} {v w : Json} {x : α} {y : β}
    (hv : v.decode a = .ok x) (hw : w.decode b = .ok y) :
    (Json.array [v, w]).decode (Reader.pair a b) = .ok (x, y) := by
  rw [Json.decode] at hv hw
  simp [Json.decode, Draft.ofJson, Draft.ofItems, Reader.pair, hv, hw]

theorem members_map {r : Reader α} {f : α → Json} {ps : List (String × α)}
    (h : ∀ p ∈ ps, (f p.2).decode r = .ok p.2) (acc : List (String × α)) :
    Reader.members r true acc (ps.map fun p => (p.1, Draft.ofJson (f p.2))) =
      .ok (acc.reverse ++ ps) := by
  induction ps generalizing acc with
  | nil => simp [Reader.members]
  | cons p ps ih =>
    have hp : r (Draft.ofJson (f p.2)) = .ok p.2 := h p (.head _)
    simp only [List.map_cons, Reader.members, hp, ih fun q hq => h q (.tail _ hq)]
    simp

/-- Pairs are read from the object of what their second parts are read from. -/
theorem decode_map {r : Reader α} {f : α → Json} {ps : List (String × α)}
    (h : ∀ p ∈ ps, (f p.2).decode r = .ok p.2) :
    (Json.object (ps.map fun p => (p.1, f p.2))).decode (Reader.map r) = .ok ps := by
  have hmembers := members_map h []
  rw [Json.decode, Draft.ofJson, ofMembers_eq_map, List.map_map]
  exact hmembers

theorem decode_texts (m : TextMap) : (Json.ofTexts m).decode Reader.textMap = .ok m := by
  have hentries : ∀ p ∈ m.entries, (Json.text p.2).decode Reader.text = .ok p.2 := fun _ _ => rfl
  have hmap : Reader.map Reader.text (Draft.ofJson (Json.ofTexts m)) = .ok m.entries :=
    decode_map hentries
  rw [Json.decode, Reader.textMap, hmap]
  exact congrArg Except.ok (TextMap.ofPairs_entries m)

/-! ## Values as they are -/

/-- A value that is read back as it is. Objects in it are dictionaries. -/
def Stable (v : Json) : Prop := (Draft.ofJson v).value? = some v

theorem values?_ofItems {vs : List Json} (h : ∀ v ∈ vs, Stable v) :
    Draft.values? (Draft.ofItems vs) = some vs := by
  induction vs with
  | nil => rfl
  | cons v vs ih =>
    have hv : (Draft.ofJson v).value? = some v := h v (.head _)
    rw [Draft.ofItems, Draft.values?, hv, ih fun w hw => h w (.tail _ hw)]

theorem members?_ofMembers {ms : List (String × Json)} (h : ∀ m ∈ ms, Stable m.2) :
    Draft.members? (Draft.ofMembers ms) = some ms := by
  induction ms with
  | nil => rfl
  | cons m ms ih =>
    have hm : (Draft.ofJson m.2).value? = some m.2 := h m (.head _)
    rw [Draft.ofMembers, Draft.members?, hm, ih fun n hn => h n (.tail _ hn)]

theorem stable_array {vs : List Json} (h : ∀ v ∈ vs, Stable v) : Stable (.array vs) := by
  rw [Stable, Draft.ofJson, Draft.value?, if_pos rfl, values?_ofItems h, Option.map_some]

theorem stable_object {ms : List (String × Json)} (hordered : Dictionary.Ordered ms)
    (h : ∀ m ∈ ms, Stable m.2) : Stable (.object ms) := by
  rw [Stable, Draft.ofJson, Draft.value?, if_pos rfl, members?_ofMembers h, Option.map_some,
    Dictionary.ofPairs_of_ordered hordered]

theorem stable_ofMembers {ps : List (String × Json)} (h : ∀ p ∈ ps, Stable p.2) :
    Stable (.ofMembers ps) :=
  stable_object (Dictionary.ordered_ofPairs ps) fun p hp =>
    h p (Dictionary.mem_of_mem_ofPairs hp)

theorem stable_texts (ps : List (String × String)) :
    Stable (.ofMembers (ps.map fun p => (p.1, .text p.2))) := by
  refine stable_ofMembers fun p hp => ?_
  obtain ⟨q, -, rfl⟩ := List.mem_map.1 hp
  rfl

theorem members_value {ds : List (String × Draft)} {ms : List (String × Json)}
    (h : Draft.members? ds = some ms) (acc : List (String × Json)) :
    Reader.members Reader.value true acc ds = .ok (acc.reverse ++ ms) := by
  induction ds generalizing ms acc with
  | nil =>
    cases h
    simp [Reader.members]
  | cons p ds ih =>
    rw [Draft.members?] at h
    split at h
    · rename_i v ms hv hms
      cases h
      simp only [Reader.members, Reader.value, hv]
      rw [ih hms, List.reverse_cons, List.append_assoc]
      rfl
    · cases h

mutual

/-- What a document has for a value is read back as it is. -/
theorem stable_of_value? : ∀ {d : Draft} {v : Json}, d.value? = some v → Stable v
  | .null, _, h | .bool _, _, h | .integer _, _, h | .real _, _, h | .text _, _, h => by
    rw [Draft.value?] at h
    obtain rfl := Option.some.inj h
    rfl
  | .fault, _, h => by cases h
  | .items ds true, v, h => by
    rw [Draft.value?, if_pos rfl] at h
    obtain ⟨vs, hvs, rfl⟩ := Option.map_eq_some_iff.1 h
    exact stable_array (stable_of_values? hvs)
  | .entries ps true, v, h => by
    rw [Draft.value?, if_pos rfl] at h
    obtain ⟨ms, hms, rfl⟩ := Option.map_eq_some_iff.1 h
    exact stable_object (Dictionary.ordered_ofPairs ms) fun m hm =>
      stable_of_members? hms m (Dictionary.mem_of_mem_ofPairs hm)
  | .items ds false, v, h | .entries ps false, v, h => by
    rw [Draft.value?, if_neg Bool.false_ne_true] at h
    cases h

theorem stable_of_values? : ∀ {ds : List Draft} {vs : List Json},
    Draft.values? ds = some vs → ∀ v ∈ vs, Stable v
  | [], _, h => by
    rw [Draft.values?] at h
    obtain rfl := Option.some.inj h
    exact fun v hv => by cases hv
  | d :: ds, _, h => by
    rw [Draft.values?] at h
    split at h
    · rename_i v vs hv hvs
      obtain rfl := Option.some.inj h
      exact List.forall_mem_cons.2 ⟨stable_of_value? hv, stable_of_values? hvs⟩
    · cases h

theorem stable_of_members? : ∀ {ps : List (String × Draft)} {ms : List (String × Json)},
    Draft.members? ps = some ms → ∀ m ∈ ms, Stable m.2
  | [], _, h => by
    rw [Draft.members?] at h
    obtain rfl := Option.some.inj h
    exact fun m hm => by cases hm
  | (k, d) :: ps, _, h => by
    rw [Draft.members?] at h
    split at h
    · rename_i v ms hv hms
      obtain rfl := Option.some.inj h
      exact List.forall_mem_cons.2 ⟨stable_of_value? hv, stable_of_members? hms⟩
    · cases h

end

/-! ## Structures -/

/-- Members that a structure is read from: no name twice, and for each a field that accepts its
value. -/
structure Accepted (fields : List Field) (members : List (String × Json)) : Prop where
  nodup : (members.map Prod.fst).Nodup
  check : ∀ m ∈ members, ∃ f, fields.find? (fun f => f.name == m.1) = some f ∧
    f.check (Draft.ofJson m.2) = .ok ()

theorem Field.check_of {r : Reader α} {v : Json} {x : α} (h : v.decode r = .ok x) (name : String)
    (defaulted : Bool) : (Field.of name r defaulted).check (Draft.ofJson v) = .ok () := by
  rw [Json.decode] at h
  simp only [Field.of, h]
  rfl

theorem ofEntries_accepted {fields : List Field} {members : List (String × Json)}
    (h : Accepted fields members) (given : List (String × Draft))
    (hgiven : ∀ m ∈ members, ∀ g ∈ given, g.1 ≠ m.1) :
    Record.ofEntries fields true given (members.map fun m => (m.1, Draft.ofJson m.2)) =
      .ok ((members.map fun m => (m.1, Draft.ofJson m.2)).reverse ++ given) := by
  induction members generalizing given with
  | nil => rfl
  | cons m members ih =>
    obtain ⟨hnodup, hcheck⟩ := h
    rw [List.map_cons, List.nodup_cons] at hnodup
    obtain ⟨f, hfind, hf⟩ := hcheck m (.head _)
    have hnew : (given.any fun g => g.1 == m.1) = false := by
      simpa using hgiven m (.head _)
    have hrest := ih ⟨hnodup.2, fun n hn => hcheck n (.tail _ hn)⟩
      ((m.1, Draft.ofJson m.2) :: given) (by
        intro n hn g hg
        obtain rfl | hg := List.mem_cons.1 hg
        · exact fun heq => hnodup.1 (heq ▸ List.mem_map_of_mem hn)
        · exact hgiven n (.tail _ hn) g hg)
    rw [List.map_cons, Record.ofEntries, hfind]
    simp only [hnew, hf, hrest, Bool.false_eq_true, if_false]
    simp

namespace Record

def ofMembers (members : List (String × Json)) : Record :=
  ⟨(members.map fun m => (m.1, Draft.ofJson m.2)).reverse, fun _ name => .missingField name⟩

/-- A structure is read from an object whose members are accepted. -/
theorem read_object {fields : List Field} {members : List (String × Json)}
    (h : Accepted fields members) (name : String) :
    (Json.object members).decode (read name fields) = .ok (ofMembers members) := by
  have hentries := ofEntries_accepted h [] (by simp)
  rw [Json.decode, Draft.ofJson, ofMembers_eq_map, read, hentries, List.append_nil]
  rfl

section

variable {members : List (String × Json)} (hnodup : (members.map Prod.fst).Nodup) {k : String}
  {v : Json} (h : (k, v) ∈ members)
include hnodup h

theorem lookup_ofMembers :
    (ofMembers members).given.lookup k = some (Draft.ofJson v) := by
  have hmem : (k, Draft.ofJson v) ∈ members.map fun m => (m.1, Draft.ofJson m.2) :=
    List.mem_map_of_mem (f := fun m => (m.1, Draft.ofJson m.2)) h
  refine lookup_reverse_of_mem ?_ hmem
  rw [List.map_map]
  exact hnodup

theorem required_ofMembers {reader : Reader α} {x : α} (hx : v.decode reader = .ok x)
    (place : Nat) : (ofMembers members).required place k reader = .ok x := by
  rw [required, lookup_ofMembers hnodup h]
  exact hx

theorem defaulted_ofMembers {reader : Reader α} {x : α} (hx : v.decode reader = .ok x)
    (default : α) : (ofMembers members).defaulted k default reader = .ok x := by
  rw [defaulted, lookup_ofMembers hnodup h]
  exact hx

end

/-- A member that is not there has its default. -/
theorem defaulted_of_not_mem {members : List (String × Json)} {k : String}
    (h : k ∉ members.map Prod.fst) (default : α) (reader : Reader α) :
    (ofMembers members).defaulted k default reader = .ok default := by
  have hlookup : (ofMembers members).given.lookup k = none := by
    refine lookup_eq_none_of_not_mem fun hmem => h ?_
    rw [ofMembers, List.map_reverse, List.map_map] at hmem
    exact List.mem_reverse.1 hmem
  rw [defaulted, hlookup]

end Record

/-! ## Documents -/

/-- The value of a document is read back as it is. -/
theorem Document.stable {doc : Document} {v : Json} (h : doc.decode Reader.value = .ok v) :
    Stable v := by
  simp only [Document.decode, Reader.value] at h
  cases hvalue : doc.draft.value? with
  | none =>
    rw [hvalue] at h
    cases h
  | some w =>
    simp only [hvalue] at h
    split at h
    · obtain rfl := Except.ok.inj h
      exact stable_of_value? hvalue
    · cases h

/-- What is no whole document is no data of any kind. -/
theorem Document.decode_incomplete {doc : Document} (h : doc.complete = false) (r : Reader α) :
    ∃ problem, doc.decode r = .error problem := by
  rw [Document.decode]
  split
  · exact ⟨_, rfl⟩
  · exact ⟨_, rfl⟩
  · rw [h]
    exact ⟨_, rfl⟩

theorem decode_ofBytes_compact {v : Json} (hplain : Plain maxDepth v) {r : Reader α} {x : α}
    (h : v.decode r = .ok x) :
    (Document.ofBytes (Text.encodeUtf8 v.compact)).decode r = .ok x := by
  rw [Json.decode] at h
  simp only [ofBytes_compact hplain, Document.decode, h, if_true]

end RequestDispatch.Json
