import RequestDispatch.Proofs.Http.HeaderLines

/-!
# Headers that are set one after the other

* `Distinct.set`: a list into which headers are set has no two of one name.
* `setAll_of_distinct`: setting the headers of such a list one after the other gives that list
  again, in the same order and spelling.
* `find?_setAll`: a name has the last value that is set for it, or else the one that it had.
* `others_setAll`: headers of names that are not set stay as they are, and in their order.
* `map_fst_setAll`: names that are new follow the names that were there, in the order and the spelling
  of their first mention.
* `Distinct.ext`: a list with no two headers of one name is its names and what they are found with, so
  headers that are first collected in a list of their own (`setAll_setAll`) or set once more
  (`setAll_twice`) are the same as set once.
-/

set_option autoImplicit false

namespace RequestDispatch.Http.Header

def setAll (start headers : List (String × String)) : List (String × String) :=
  headers.foldl (fun hs h => set h.1 h.2 hs) start

/-- No two headers of one name. -/
def Distinct (headers : List (String × String)) : Prop :=
  headers.Pairwise fun a b => sameName a.1 b.1 = false

theorem Distinct.set {headers : List (String × String)} (h : Distinct headers)
    (name value : String) : Distinct (set name value headers) := by
  induction headers with
  | nil => exact List.pairwise_singleton _ _
  | cons first rest ih =>
    obtain ⟨hfirst, hrest⟩ := List.pairwise_cons.1 h
    unfold Header.set
    split
    · exact List.pairwise_cons.2 ⟨hfirst, hrest⟩
    · rename_i hother
      refine List.pairwise_cons.2 ⟨fun g hg => ?_, ih hrest⟩
      obtain hg | ⟨hname, -⟩ := mem_set hg
      · exact hfirst g hg
      · rw [sameName, hname]
        exact Bool.eq_false_iff.2 hother

/-- A header of a new name goes to the end. -/
theorem set_of_new {name : String} {headers : List (String × String)}
    (h : ∀ g ∈ headers, sameName g.1 name = false) (value : String) :
    set name value headers = headers ++ [(name, value)] := by
  induction headers with
  | nil => rfl
  | cons first rest ih =>
    rw [set, h first (.head _), if_neg Bool.false_ne_true, ih fun g hg => h g (.tail _ hg)]
    rfl

/-- Headers of different names are all kept as they are set. -/
theorem setAll_of_distinct (start : List (String × String)) {headers : List (String × String)}
    (h : Distinct (start ++ headers)) : setAll start headers = start ++ headers := by
  induction headers generalizing start with
  | nil => exact (List.append_nil start).symm
  | cons first rest ih =>
    have hnew : ∀ g ∈ start, sameName g.1 first.1 = false := fun g hg =>
      (List.pairwise_append.1 h).2.2 g hg first (.head _)
    have hstart : Header.set first.1 first.2 start = start ++ [first] := set_of_new hnew first.2
    have hrest : Distinct ((start ++ [first]) ++ rest) := by
      rw [List.append_assoc]
      exact h
    rw [setAll, List.foldl_cons, hstart, ← setAll, ih _ hrest, List.append_assoc]
    rfl

theorem Distinct.setAll {start : List (String × String)} (h : Distinct start)
    (headers : List (String × String)) : Distinct (setAll start headers) := by
  induction headers generalizing start with
  | nil => exact h
  | cons first rest ih => exact ih (h.set first.1 first.2)

/-! ## What is found afterwards -/

/-- The value of the last header of a name. -/
def last? (name : String) (headers : List (String × String)) : Option String :=
  find? name headers.reverse

theorem find?_set (name name' value : String) (headers : List (String × String)) :
    find? name' (set name value headers) =
      if sameName name name' then some value else find? name' headers := by
  induction headers with
  | nil => simp only [set, find?, List.find?_cons, List.find?_nil]; split <;> simp_all
  | cons first rest ih =>
    rw [set]
    by_cases hfirst : sameName first.1 name
    · -- the header keeps its spelling, and the two spellings are found by the same names
      have hspelling : sameName first.1 name' = sameName name name' := by
        rw [sameName, eq_of_beq hfirst, ← sameName]
      rw [if_pos hfirst, find?, List.find?_cons, hspelling]
      cases hname : sameName name name' with
      | true => rfl
      | false => simp [find?, hspelling, hname]
    · rw [if_neg hfirst, find?, List.find?_cons]
      cases hname : sameName first.1 name' with
      | true =>
        have hother : sameName name name' = false := by
          rw [← Bool.not_eq_true]
          intro hsame
          rw [sameName, eq_of_beq hname, ← eq_of_beq hsame] at hfirst
          exact hfirst (beq_self_eq_true _)
        simp [find?, hname, hother]
      | false => simpa [find?, hname] using ih

theorem find?_append (name : String) (headers more : List (String × String)) :
    find? name (headers ++ more) = (find? name headers).or (find? name more) := by
  simp only [find?, List.find?_append]
  cases headers.find? fun h => sameName h.1 name <;> rfl

theorem last?_cons (name : String) (h : String × String) (headers : List (String × String)) :
    last? name (h :: headers) =
      (last? name headers).or (if sameName h.1 name then some h.2 else none) := by
  rw [last?, List.reverse_cons, find?_append, ← last?]
  congr 1
  simp only [find?, List.find?_cons, List.find?_nil]
  split <;> simp_all

theorem find?_setAll (name : String) (start headers : List (String × String)) :
    find? name (setAll start headers) = (last? name headers).or (find? name start) := by
  induction headers generalizing start with
  | nil => rfl
  | cons h headers ih =>
    have hrest : find? name (setAll start (h :: headers)) =
        (last? name headers).or (find? name (set h.1 h.2 start)) := ih _
    rw [hrest, last?_cons, find?_set, Option.or_assoc]
    split <;> rfl

/-- The headers of which the names are not among the given ones. -/
def others (given headers : List (String × String)) : List (String × String) :=
  headers.filter fun h => (last? h.1 given).isNone

theorem others_set {given : List (String × String)} {name : String}
    (h : (last? name given).isSome = true) (value : String) (headers : List (String × String)) :
    others given (set name value headers) = others given headers := by
  induction headers with
  | nil => simp [others, set, Option.isSome_iff_ne_none.1 h]
  | cons first rest ih =>
    rw [set]
    by_cases hfirst : sameName first.1 name
    · have hspelling : last? first.1 given = last? name given := by
        simp only [last?, find?, sameName, eq_of_beq hfirst]
      simp [others, hfirst, hspelling, Option.isSome_iff_ne_none.1 h]
    · rw [if_neg hfirst]
      simp only [others, List.filter_cons] at ih ⊢
      rw [ih]

theorem others_setAll_of_given {given headers : List (String × String)}
    (h : ∀ g ∈ headers, (last? g.1 given).isSome = true) (start : List (String × String)) :
    others given (setAll start headers) = others given start := by
  induction headers generalizing start with
  | nil => rfl
  | cons first rest ih =>
    have hrest := ih (fun g hg => h g (.tail _ hg)) (set first.1 first.2 start)
    exact hrest.trans (others_set (h first (.head _)) first.2 start)

theorem isSome_last?_of_mem {g : String × String} {headers : List (String × String)}
    (h : g ∈ headers) : (last? g.1 headers).isSome = true := by
  rw [last?, find?, Option.isSome_map, List.find?_isSome]
  exact ⟨g, List.mem_reverse.2 h, beq_self_eq_true _⟩

theorem others_setAll (start headers : List (String × String)) :
    others headers (setAll start headers) = others headers start :=
  others_setAll_of_given (fun _ hg => isSome_last?_of_mem hg) start

/-! ## Names and what they are found with -/

/-- Names in the order in which they are first mentioned, each in the spelling of that mention. -/
def firstMentions : List String → List String
  | [] => []
  | name :: rest => name :: (firstMentions rest).filter fun other => !sameName name other

theorem firstMentions_sublist (names : List String) : (firstMentions names).Sublist names := by
  induction names with
  | nil => exact List.Sublist.slnil
  | cons name rest ih => exact (List.filter_sublist.trans ih).cons_cons name

theorem firstMentions_of_distinct {headers : List (String × String)} (h : Distinct headers) :
    firstMentions (headers.map Prod.fst) = headers.map Prod.fst := by
  induction headers with
  | nil => rfl
  | cons first rest ih =>
    obtain ⟨hfirst, hrest⟩ := List.pairwise_cons.1 h
    rw [List.map_cons, firstMentions, ih hrest, List.filter_eq_self.2]
    intro name hname
    obtain ⟨g, hg, rfl⟩ := List.mem_map.1 hname
    simp [hfirst g hg]

theorem map_fst_set (name value : String) (headers : List (String × String)) :
    (set name value headers).map Prod.fst =
      if (find? name headers).isSome then headers.map Prod.fst
      else headers.map Prod.fst ++ [name] := by
  induction headers with
  | nil => rfl
  | cons first rest ih =>
    rw [set]
    cases hfirst : sameName first.1 name with
    | true => simp [find?, hfirst]
    | false =>
      have hfind : find? name (first :: rest) = find? name rest := by simp [find?, hfirst]
      rw [if_neg Bool.false_ne_true, List.map_cons, ih, hfind]
      split <;> rfl

theorem map_fst_setAll (start headers : List (String × String)) :
    (setAll start headers).map Prod.fst = start.map Prod.fst ++
      (firstMentions (headers.map Prod.fst)).filter fun name => (find? name start).isNone := by
  induction headers generalizing start with
  | nil => simp [setAll, firstMentions]
  | cons first rest ih =>
    have hnew : ∀ name, (find? name (set first.1 first.2 start)).isNone =
        (!sameName first.1 name && (find? name start).isNone) := by
      intro name
      rw [find?_set]
      cases sameName first.1 name <;> rfl
    have hrest : (setAll start (first :: rest)).map Prod.fst =
        (setAll (set first.1 first.2 start) rest).map Prod.fst := rfl
    rw [hrest, ih, map_fst_set, List.map_cons, firstMentions, List.filter_cons, List.filter_filter]
    simp only [hnew, Bool.and_comm]
    cases hfirst : find? first.1 start with
    | none => simp
    | some value => simp

theorem Distinct.find?_of_mem {headers : List (String × String)} (h : Distinct headers)
    {g : String × String} (hg : g ∈ headers) : find? g.1 headers = some g.2 := by
  induction headers with
  | nil => cases hg
  | cons first rest ih =>
    obtain ⟨hfirst, hrest⟩ := List.pairwise_cons.1 h
    rcases List.mem_cons.1 hg with rfl | hg
    · simp [find?, sameName]
    · have hfind := ih hrest hg
      rw [find?, List.find?_cons, hfirst g hg]
      exact hfind

/-- The names and what they are found with make up the list. -/
theorem Distinct.eq_map_find? {headers : List (String × String)} (h : Distinct headers) :
    headers = (headers.map Prod.fst).map fun name => (name, (find? name headers).getD "") := by
  rw [List.map_map]
  refine (List.map_id headers).symm.trans (List.map_congr_left fun g hg => ?_)
  simp [h.find?_of_mem hg]

theorem Distinct.ext {headers more : List (String × String)} (h : Distinct headers)
    (h' : Distinct more) (hnames : headers.map Prod.fst = more.map Prod.fst)
    (hfind : ∀ name, find? name headers = find? name more) : headers = more := by
  rw [h.eq_map_find?, h'.eq_map_find?, hnames]
  simp only [hfind]

theorem Distinct.last?_eq {headers : List (String × String)} (h : Distinct headers)
    (name : String) : last? name headers = find? name headers := by
  have hset := find?_setAll name [] headers
  rw [setAll_of_distinct [] h, List.nil_append] at hset
  rw [hset]
  exact (Option.or_none).symm

/-! ## Setting headers that were collected first -/

/-- The headers of a list that begins empty: the names in the order and the spelling of their first
mention, each with the value that it was given last. -/
theorem collected (headers : List (String × String)) :
    (setAll [] headers).map Prod.fst = firstMentions (headers.map Prod.fst) ∧
      ∀ g ∈ setAll [] headers, last? g.1 headers = some g.2 := by
  have hdistinct : Distinct (setAll [] headers) := Distinct.setAll List.Pairwise.nil headers
  refine ⟨?_, fun g hg => ?_⟩
  · exact (map_fst_setAll [] headers).trans (List.filter_eq_self.2 fun _ _ => rfl)
  · have hfind := hdistinct.find?_of_mem hg
    rw [find?_setAll] at hfind
    simpa [find?] using hfind

theorem setAll_setAll {start : List (String × String)} (h : Distinct start)
    (headers : List (String × String)) : setAll start (setAll [] headers) = setAll start headers := by
  have hdistinct : Distinct (setAll [] headers) := Distinct.setAll List.Pairwise.nil headers
  refine (h.setAll _).ext (h.setAll _) ?_ fun name => ?_
  · rw [map_fst_setAll start, firstMentions_of_distinct hdistinct, (collected headers).1,
      map_fst_setAll]
  · rw [find?_setAll, find?_setAll, hdistinct.last?_eq, find?_setAll]
    simp [find?]

theorem setAll_twice {start : List (String × String)} (h : Distinct start)
    (headers : List (String × String)) :
    setAll (setAll start headers) headers = setAll start headers := by
  refine ((h.setAll _).setAll _).ext (h.setAll _) ?_ fun name => ?_
  · rw [map_fst_setAll, List.filter_eq_nil_iff.2, List.append_nil]
    intro name hname
    obtain ⟨g, hg, rfl⟩ := List.mem_map.1 ((firstMentions_sublist _).subset hname)
    rw [find?_setAll, Option.isNone_eq_false_iff.2]
    · exact Bool.false_ne_true
    · rw [Option.isSome_or, isSome_last?_of_mem hg]
      rfl
  · rw [find?_setAll, find?_setAll, ← Option.or_assoc, Option.or_self]

end RequestDispatch.Http.Header
