import RequestDispatch.Proofs.Regex.Greedy
import RequestDispatch.Route.Template

/-!
# Values for placeholders

A path is matched by giving each placeholder a value that is allowed there, so that the template
filled with the values is the path (`Assigns`). `assign?` looks for such values from the first
placeholder on, each as long as possible.

* `assigns_of_assign?`: what it finds are such values.
* `longerFirst_assign?`: where there are any, it finds some, and no others are longer at the first
  place where they differ.
-/

set_option autoImplicit false

namespace RequestDispatch.Route.Piece

open Regex (downTo mem_downTo)

/-- Whether a character may stand in the value of a placeholder: one that takes the rest of a path
takes anything but line feeds. -/
def admits (takesRest : Bool) (c : Char) : Bool := if takesRest then c != '\n' else c != '/'

/-- A value of a placeholder has a character at least, and only characters that are admitted. -/
def Allowed (takesRest : Bool) (value : List Char) : Prop :=
  value ≠ [] ∧ value.all (admits takesRest) = true

/-- Values for the placeholders of a template that make it a path. With `catchAll` the last of
them may take the rest of the path. -/
structure Assigns (catchAll : Bool) (pieces : List Piece) (values : List (List Char))
    (path : List Char) : Prop where
  length : values.length = (names pieces).length
  allowed : ∀ (i : Nat) (h : i < values.length),
    Allowed (catchAll && i + 1 == values.length) values[i]
  fill : fill pieces values = path

/-- Where two lists of values first differ, the value of the first list is longer. -/
def LongerFirst : List (List Char) → List (List Char) → Prop
  | [], [] => True
  | v :: values, w :: others => w.length < v.length ∨ v = w ∧ LongerFirst values others
  | _, _ => False

/-- The values that are found from the first placeholder on, each as long as possible. -/
def assign? (catchAll : Bool) : List Piece → List Char → Option (List (List Char))
  | [], path => if path = [] then some [] else none
  | .literal t :: rest, path =>
    if t <+: path then assign? catchAll rest (path.drop t.length) else none
  | .placeholder _ :: rest, path =>
    let admitted := path.takeWhile (admits (catchAll && (names rest).isEmpty))
    (downTo admitted.length).findSome? fun k =>
      (assign? catchAll rest (path.drop k)).map (path.take k :: ·)

/-! ## Values from the first placeholder on -/

section
variable {catchAll : Bool} {rest : List Piece} {path : List Char}

theorem assigns_nil {values : List (List Char)} :
    Assigns catchAll [] values path ↔ values = [] ∧ path = [] := by
  constructor
  · rintro ⟨hlen, -, hfill⟩
    exact ⟨List.length_eq_zero_iff.1 hlen, hfill.symm⟩
  · rintro ⟨rfl, rfl⟩
    exact ⟨rfl, fun i h => absurd h (Nat.not_lt_zero i), rfl⟩

theorem assigns_literal {t : List Char} {values : List (List Char)} :
    Assigns catchAll (.literal t :: rest) values path ↔
      ∃ path', path = t ++ path' ∧ Assigns catchAll rest values path' := by
  constructor
  · rintro ⟨hlen, hall, rfl⟩
    exact ⟨_, rfl, hlen, hall, rfl⟩
  · rintro ⟨_, rfl, hlen, hall, rfl⟩
    exact ⟨hlen, hall, rfl⟩

theorem assigns_placeholder {n value : List Char} {values : List (List Char)} :
    Assigns catchAll (.placeholder n :: rest) (value :: values) path ↔
      Allowed (catchAll && (names rest).isEmpty) value ∧
        ∃ path', path = value ++ path' ∧ Assigns catchAll rest values path' := by
  -- the first placeholder is the last one where no other is left
  have hlast : values.length = (names rest).length →
      (0 + 1 == (value :: values).length) = (names rest).isEmpty := fun h => by
    rw [List.length_cons, h]
    cases names rest <;> simp
  have hnext : ∀ i : Nat, (i + 1 + 1 == (value :: values).length) = (i + 1 == values.length) :=
    fun i => by simp
  constructor
  · rintro ⟨hlen, hall, rfl⟩
    have hlen : values.length = (names rest).length := Nat.succ.inj hlen
    refine ⟨hlast hlen ▸ hall 0 (Nat.zero_lt_succ _), _, rfl, hlen, fun i h => ?_, rfl⟩
    exact hnext i ▸ hall (i + 1) (Nat.succ_lt_succ h)
  · rintro ⟨hvalue, _, rfl, hlen, hall, rfl⟩
    refine ⟨congrArg (· + 1) hlen, fun i h => ?_, rfl⟩
    cases i with
    | zero => exact (hlast hlen).symm ▸ hvalue
    | succ i => exact (hnext i).symm ▸ hall i (Nat.lt_of_succ_lt_succ h)

theorem not_assigns_placeholder_nil {n : List Char} :
    ¬ Assigns catchAll (.placeholder n :: rest) [] path := fun h => nomatch h.length

theorem exists_of_assigns_placeholder {n : List Char} {values : List (List Char)}
    (h : Assigns catchAll (.placeholder n :: rest) values path) :
    ∃ value values' path', values = value :: values' ∧ path = value ++ path' ∧
      Allowed (catchAll && (names rest).isEmpty) value ∧ Assigns catchAll rest values' path' := by
  cases values with
  | nil => exact absurd h not_assigns_placeholder_nil
  | cons value values =>
    obtain ⟨hallowed, path', rfl, hrest⟩ := assigns_placeholder.1 h
    exact ⟨value, values, path', rfl, rfl, hallowed, hrest⟩

/-- Without placeholders there is nothing to fill. -/
theorem Assigns.of_names_eq_nil {values : List (List Char)} (hnames : names rest = [])
    (h : Assigns catchAll rest values path) : values = [] ∧ path = Piece.fill rest [] := by
  have hnil : values = [] := List.length_eq_zero_iff.1 (by rw [h.length, hnames, List.length_nil])
  subst hnil
  exact ⟨rfl, h.fill.symm⟩

end

/-! ## The longest values -/

/-- Going down, a number that gives something is not passed. -/
theorem findSome?_downTo {β : Type} {f : Nat → Option β} {n k : Nat} {y : β} (h₁ : 1 ≤ k) (hk : k ≤ n)
    (h : f k = some y) : ∃ j z, k ≤ j ∧ j ≤ n ∧ f j = some z ∧ (downTo n).findSome? f = some z := by
  induction n with
  | zero => omega
  | succ n ih =>
    cases hf : f (n + 1) with
    | some z => exact ⟨n + 1, z, hk, Nat.le_refl _, hf, by rw [downTo, List.findSome?_cons, hf]⟩
    | none =>
      have hkn : k ≤ n := by
        rcases Nat.lt_or_eq_of_le hk with hlt | rfl
        · omega
        · rw [hf] at h; simp at h
      obtain ⟨j, z, hkj, hjn, hj, hz⟩ := ih hkn
      exact ⟨j, z, hkj, by omega, hj, by rw [downTo, List.findSome?_cons, hf, hz]⟩

theorem takeWhile_length_le_of_all {p : Char → Bool} {v cs : List Char} (h : v.all p = true) :
    v.length ≤ ((v ++ cs).takeWhile p).length := by
  rw [List.takeWhile_append_of_pos (List.all_eq_true.1 h), List.length_append]
  omega

theorem all_take_of_le_takeWhile {p : Char → Bool} {cs : List Char} {k : Nat}
    (h : k ≤ (cs.takeWhile p).length) : (cs.take k).all p = true := by
  have htake : cs.take k <+: cs.takeWhile p :=
    List.prefix_of_prefix_length_le (List.take_prefix k cs) (List.takeWhile_prefix p)
      (Nat.le_trans (List.length_take_le k cs) h)
  rw [List.all_eq_true]
  exact fun c hc => List.all_eq_true.1 List.all_takeWhile c (htake.subset hc)

theorem assigns_of_assign? {catchAll : Bool} {pieces : List Piece} :
    ∀ {path : List Char} {values : List (List Char)}, assign? catchAll pieces path = some values →
      Assigns catchAll pieces values path := by
  induction pieces with
  | nil =>
    intro path values h
    simp only [assign?, Option.ite_none_right_eq_some, Option.some.injEq] at h
    exact assigns_nil.2 ⟨h.2.symm, h.1⟩
  | cons piece rest ih =>
    intro path values h
    cases piece with
    | literal t =>
      simp only [assign?, Option.ite_none_right_eq_some] at h
      obtain ⟨⟨path', rfl⟩, hrest⟩ := h
      rw [List.drop_left] at hrest
      exact assigns_literal.2 ⟨path', rfl, ih hrest⟩
    | placeholder n =>
      obtain ⟨k, hk, h⟩ := List.exists_of_findSome?_eq_some h
      obtain ⟨hpos, hk⟩ := mem_downTo.1 hk
      obtain ⟨values, hrest, rfl⟩ := Option.map_eq_some_iff.1 h
      refine assigns_placeholder.2 ⟨⟨?_, all_take_of_le_takeWhile hk⟩, path.drop k,
        (List.take_append_drop k path).symm, ih hrest⟩
      have hle := (List.takeWhile_prefix (l := path) (admits (catchAll && (names rest).isEmpty))).length_le
      rw [← List.length_pos_iff, List.length_take]
      omega

/-- Where there are values, some are found, and those are longer where they first differ. -/
theorem longerFirst_assign? {catchAll : Bool} {pieces : List Piece} :
    ∀ {path : List Char} {values : List (List Char)}, Assigns catchAll pieces values path →
      ∃ found, assign? catchAll pieces path = some found ∧ LongerFirst found values := by
  induction pieces with
  | nil =>
    intro path values h
    obtain ⟨rfl, rfl⟩ := assigns_nil.1 h
    exact ⟨[], rfl, trivial⟩
  | cons piece rest ih =>
    intro path values h
    cases piece with
    | literal t =>
      obtain ⟨path', rfl, hrest⟩ := assigns_literal.1 h
      obtain ⟨found, hf, hlonger⟩ := ih hrest
      refine ⟨found, ?_, hlonger⟩
      rw [assign?, if_pos (List.prefix_append t path'), List.drop_left, hf]
    | placeholder n =>
      cases values with
      | nil => exact absurd h not_assigns_placeholder_nil
      | cons value values =>
        obtain ⟨⟨hne, hall⟩, path', rfl, hrest⟩ := assigns_placeholder.1 h
        obtain ⟨found, hf, hlonger⟩ := ih hrest
        -- the length of this value gives something, so none that is shorter is tried
        obtain ⟨k, longest, hk, hkle, hlongest, hfind⟩ := findSome?_downTo
          (f := fun k => (assign? catchAll rest ((value ++ path').drop k)).map
            ((value ++ path').take k :: ·))
          (List.length_pos_iff.2 hne) (takeWhile_length_le_of_all hall)
          (by rw [List.drop_left, List.take_left, hf]; rfl)
        refine ⟨longest, hfind, ?_⟩
        obtain ⟨found', hf', rfl⟩ := Option.map_eq_some_iff.1 hlongest
        rcases Nat.lt_or_eq_of_le hk with hlt | rfl
        · have hle := (List.takeWhile_prefix (l := value ++ path')
            (admits (catchAll && (names rest).isEmpty))).length_le
          refine .inl ?_
          rw [List.length_take]
          omega
        · rw [List.drop_left, hf] at hf'
          rw [List.take_left]
          exact .inr ⟨rfl, Option.some.inj hf' ▸ hlonger⟩

end RequestDispatch.Route.Piece
