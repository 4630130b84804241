/-!
# Dictionaries

Pairs in the order of their keys, each key once. `put` sets a key and keeps the order
(`Ordered.put`), and `ofPairs` folds it over a list, so of a repeated key the last value stays.
`TextMap` is a dictionary of texts that carries its order.
-/

set_option autoImplicit false

namespace RequestDispatch.Dictionary

variable {α : Type}

/-- Sets the value of a key in pairs that stand in the order of their keys. -/
def put (key : String) (value : α) : List (String × α) → List (String × α)
  | [] => [(key, value)]
  | (k, v) :: rest =>
    if key < k then (key, value) :: (k, v) :: rest
    else if key = k then (key, value) :: rest
    else (k, v) :: put key value rest

/-- The dictionary of a list of pairs; of a repeated key the last value stays. -/
def ofPairs (pairs : List (String × α)) : List (String × α) :=
  pairs.foldl (fun d p => put p.1 p.2 d) []

/-- The value of a key. -/
def find? (key : String) (d : List (String × α)) : Option α := d.lookup key

/-- The keys stand in strictly ascending order. -/
def Ordered (d : List (String × α)) : Prop := d.Pairwise fun a b => a.1 < b.1

/-! ## Facts -/

theorem find?_put_self (key : String) (value : α) (d : List (String × α)) :
    find? key (put key value d) = some value := by
  induction d with
  | nil => simp [put, find?]
  | cons m rest ih =>
    obtain ⟨k, v⟩ := m
    unfold put
    split
    · simp [find?]
    · split
      · simp [find?]
      · rename_i hne
        have hb : (key == k) = false := by simpa using hne
        simp only [find?, List.lookup_cons, hb]
        exact ih

theorem find?_put_of_ne {key other : String} (h : other ≠ key) (value : α)
    (d : List (String × α)) : find? other (put key value d) = find? other d := by
  have hb : (other == key) = false := by simpa using h
  induction d with
  | nil => simp [put, find?, List.lookup_cons, hb]
  | cons m rest ih =>
    obtain ⟨k, v⟩ := m
    unfold put
    split
    · simp [find?, List.lookup_cons, hb]
    · split
      · rename_i _ heq
        subst heq
        simp [find?, List.lookup_cons, hb]
      · simp only [find?, List.lookup_cons]
        split
        · rfl
        · exact ih

theorem mem_put {key : String} {value : α} {d : List (String × α)} {p : String × α}
    (h : p ∈ put key value d) : p = (key, value) ∨ p ∈ d := by
  induction d with
  | nil => simpa [put] using h
  | cons m rest ih =>
    obtain ⟨k, v⟩ := m
    unfold put at h
    split at h
    · simpa using h
    · split at h
      · rcases List.mem_cons.1 h with h | h
        · exact .inl h
        · exact .inr (List.mem_cons_of_mem _ h)
      · rcases List.mem_cons.1 h with h | h
        · exact .inr (h ▸ List.mem_cons_self ..)
        · rcases ih h with h | h
          · exact .inl h
          · exact .inr (List.mem_cons_of_mem _ h)

theorem Ordered.put {d : List (String × α)} (h : Ordered d) (key : String) (value : α) :
    Ordered (put key value d) := by
  induction d with
  | nil => simp [Ordered, Dictionary.put]
  | cons m rest ih =>
    obtain ⟨k, v⟩ := m
    obtain ⟨hk, hr⟩ := List.pairwise_cons.1 h
    unfold Dictionary.put
    split
    · rename_i hlt
      refine List.pairwise_cons.2 ⟨?_, h⟩
      intro p hp
      rcases List.mem_cons.1 hp with hp | hp
      · exact hp ▸ hlt
      · exact String.lt_trans hlt (hk p hp)
    · split
      · rename_i _ heq
        subst heq
        exact List.pairwise_cons.2 ⟨hk, hr⟩
      · rename_i hge hne
        refine List.pairwise_cons.2 ⟨?_, ih hr⟩
        intro p hp
        rcases mem_put hp with hp | hp
        · subst hp
          have hle : k ≤ key := String.not_lt.1 hge
          exact Std.lt_of_le_of_ne hle (Ne.symm hne)
        · exact hk p hp

theorem ordered_ofPairs (pairs : List (String × α)) : Ordered (ofPairs pairs) := by
  suffices h : ∀ d : List (String × α), Ordered d →
      Ordered (pairs.foldl (fun d p => Dictionary.put p.1 p.2 d) d) from h [] List.Pairwise.nil
  induction pairs with
  | nil => exact fun d hd => hd
  | cons p rest ih => exact fun d hd => ih _ (hd.put p.1 p.2)

/-- A key behind all others goes to the end. -/
theorem put_of_lt {key : String} {d : List (String × α)} (h : ∀ p ∈ d, p.1 < key) (value : α) :
    put key value d = d ++ [(key, value)] := by
  induction d with
  | nil => rfl
  | cons p rest ih =>
    obtain ⟨k, v⟩ := p
    have hk : k < key := h (k, v) (.head _)
    have hne : key ≠ k := fun heq => String.lt_irrefl k (heq ▸ hk)
    rw [put, if_neg (String.lt_asymm hk), if_neg hne, ih fun p hp => h p (.tail _ hp)]
    rfl

theorem ofPairs_of_ordered {d : List (String × α)} (h : Ordered d) : ofPairs d = d := by
  suffices hfold : ∀ (rest front : List (String × α)), Ordered (front ++ rest) →
      rest.foldl (fun d p => put p.1 p.2 d) front = front ++ rest from hfold d [] h
  intro rest
  induction rest with
  | nil => exact fun front _ => (List.append_nil front).symm
  | cons p rest ih =>
    intro front hfront
    have hlt : ∀ q ∈ front, q.1 < p.1 := fun q hq =>
      (List.pairwise_append.1 hfront).2.2 q hq p (.head _)
    rw [List.foldl_cons, put_of_lt hlt, ih _ (by simpa using hfront), List.append_assoc]
    rfl

end RequestDispatch.Dictionary

namespace RequestDispatch

/-- A dictionary of texts. -/
structure TextMap where
  entries : List (String × String)
  ordered : Dictionary.Ordered entries

namespace TextMap

instance : DecidableEq TextMap := fun a b =>
  if h : a.entries = b.entries then
    .isTrue (by cases a; cases b; cases h; rfl)
  else .isFalse fun e => h (congrArg entries e)

instance : Repr TextMap := ⟨fun m n => reprPrec m.entries n⟩

/-- The dictionary of a list of pairs; of a repeated key the last value stays. -/
def ofPairs (pairs : List (String × String)) : TextMap :=
  ⟨Dictionary.ofPairs pairs, Dictionary.ordered_ofPairs pairs⟩

theorem ofPairs_entries (m : TextMap) : ofPairs m.entries = m := by
  obtain ⟨entries, ordered⟩ := m
  simp only [ofPairs, Dictionary.ofPairs_of_ordered ordered]

def empty : TextMap := ofPairs []

instance : Inhabited TextMap := ⟨empty⟩

/-- Sets the value of a key. -/
def put (m : TextMap) (key value : String) : TextMap :=
  ⟨Dictionary.put key value m.entries, m.ordered.put key value⟩

/-- The value of a key. -/
def find? (m : TextMap) (key : String) : Option String := Dictionary.find? key m.entries

end TextMap

end RequestDispatch
