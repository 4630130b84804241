import RequestDispatch.Proofs.Regex.ReadingSets

/-!
# Reading patterns in front of a closing bracket

A pattern is read with fuel, and each group in it by the same function. `readBody_suffix` says
that what is left is the end of the text, and `readBody_stops` that it is empty or begins with a
`)`. `readBody_trim` puts the readers of single parts together: where the reading of a text with
`closing` behind it stops before `closing`, the text alone is read in the same way, whatever fuel
either was read with.
-/

set_option autoImplicit false

namespace RequestDispatch.Regex

/-! ## Groups and flags -/

theorem readName_trims : Trims readName :=
  .upTo (p := (· != '>')) (by decide) groupName

theorem readFlags_suffix {cs : List Char} : ∀ {seen rest : List Char} {f f' : Flags} {b : Bool},
    readFlags cs seen f = .ok (f', b, rest) → rest <:+ cs := by
  induction cs with
  | nil => intro seen rest f f' b h; simp [readFlags] at h
  | cons c cs ih =>
    intro seen rest f f' b h
    unfold readFlags at h
    split at h
    · split at h
      · simp at h
      · split at h
        · simp at h
        · simp only [Except.ok.injEq, Prod.mk.injEq] at h
          obtain ⟨-, -, rfl⟩ := h
          exact List.suffix_cons c cs
    · split at h
      · simp at h
      · split at h
        · exact (ih h).trans (List.suffix_cons c cs)
        · split at h
          · exact (ih h).trans (List.suffix_cons c cs)
          · simp at h

theorem readFlags_trim {cs : List Char} : ∀ {seen rest : List Char} {f f' : Flags} {b : Bool},
    readFlags (cs ++ closing) seen f = .ok (f', b, rest ++ closing) →
      readFlags cs seen f = .ok (f', b, rest) := by
  induction cs with
  | nil =>
    intro seen rest f f' b h
    -- the first character of `closing` ends the flags
    have hsuf : rest ++ closing <:+ ['$'] := by
      simp only [List.nil_append, closing, readFlags] at h
      split at h
      · split at h
        · simp at h
        · split at h
          · simp at h
          · simp only [Except.ok.injEq, Prod.mk.injEq] at h
            exact h.2.2 ▸ List.suffix_refl _
      · rename_i hc; simp at hc
    exact absurd hsuf (not_append_closing_suffix (by decide))
  | cons c cs ih =>
    intro seen rest f f' b h
    unfold readFlags at h ⊢
    simp only [List.cons_append] at h
    split at h
    · rename_i h₁
      rw [if_pos h₁]
      split at h
      · simp at h
      · rename_i h₂
        rw [if_neg h₂]
        split at h
        · simp at h
        · rename_i h₃
          rw [if_neg h₃]
          simp only [Except.ok.injEq, Prod.mk.injEq] at h
          obtain ⟨rfl, rfl, h⟩ := h
          rw [List.append_cancel_right h]
    · rename_i h₁
      rw [if_neg h₁]
      split at h
      · simp at h
      · rename_i h₂
        rw [if_neg h₂]
        split at h
        · rename_i h₃
          rw [if_pos h₃]
          exact ih h
        · rename_i h₃
          rw [if_neg h₃]
          split at h
          · rename_i h₄
            rw [if_pos h₄]
            exact ih h
          · simp at h

theorem readNamed_trims (sc : Scope) : Trims (readNamed sc) :=
  .bind (S := fun name rest => openNamed sc name >>= fun o => pure (o, rest)) readName_trims
    fun name => .compute (openNamed sc name) .pure

theorem readFlagged_trims (sc : Scope) : Trims (readFlagged sc) := by
  constructor
  · intro cs rest x h
    obtain ⟨⟨f, b, l⟩, hl, h⟩ := bind_eq_ok.1 h
    have hs := readFlags_suffix hl
    cases b <;>
    · obtain ⟨rfl, rfl⟩ := Prod.mk.inj (pure_eq_ok.1 h)
      exact hs
  · intro cs rest x h
    obtain ⟨⟨f, b, l⟩, hl, h⟩ := bind_eq_ok.1 h
    cases b <;>
    · obtain ⟨rfl, rfl⟩ := Prod.mk.inj (pure_eq_ok.1 h)
      exact bind_eq_ok.2 ⟨_, readFlags_trim hl, rfl⟩

/-- No flag is called `P`, so that letter begins a name or nothing. -/
theorem readFlagged_P (sc : Scope) (cs : List Char) :
    readFlagged sc ('P' :: cs) = .error .badFlags := by
  simp [readFlagged, readFlags, flagLetters, bind, Except.bind]

theorem readOpening_trims (sc : Scope) : Trims (readOpening sc) := by
  have herror : Trims fun _ => (.error .lookAround : Except Fault (Opening × List Char)) := .error _
  have hbad : Trims fun _ => (.error .badFlags : Except Fault (Opening × List Char)) := .error _
  have hnamed := readNamed_trims sc
  refine .of_eq (.skip sc.flags (.peek (d := '?') (by decide)
    (.peek (d := '=') (by decide) herror (.peek (d := '!') (by decide) herror
      (.peek (d := '<') (by decide)
        (.peek (d := '=') (by decide) herror (.peek (d := '!') (by decide) herror hnamed))
        (.peek (d := 'P') (by decide) (.peek (d := '<') (by decide) hnamed hbad)
          (readFlagged_trims sc)))))
    (.ok (.group (some (sc.groups + 1, none)) { sc with groups := sc.groups + 1 })))) fun cs => ?_
  unfold readOpening
  match sc.flags.skip cs with
  | [] => rfl
  | c :: l =>
    by_cases hc : c = '?'
    · subst hc
      match l with
      | [] => rfl
      | d :: l =>
        by_cases h₁ : d = '='
        · subst h₁; rfl
        by_cases h₂ : d = '!'
        · subst h₂; rfl
        by_cases h₃ : d = '<'
        · subst h₃
          match l with
          | [] => rfl
          | e :: l =>
            by_cases h₄ : e = '='
            · subst h₄; rfl
            by_cases h₅ : e = '!'
            · subst h₅; rfl
            simp [h₄, h₅]
        by_cases h₄ : d = 'P'
        · subst h₄
          match l with
          | [] => rfl
          | e :: l =>
            by_cases h₅ : e = '<'
            · subst h₅; rfl
            simp [h₅, readFlagged_P]
        simp [h₁, h₂, h₃, h₄]
    · simp [hc]

/-! ## Repetitions -/

/-- A run of characters without the first of `closing` is the same before it. -/
theorem takeWhile_append_closing {p : Char → Bool} (hp : p ')' = false) (cs : List Char) :
    (cs ++ closing).takeWhile p = cs.takeWhile p ∧
      (cs ++ closing).dropWhile p = cs.dropWhile p ++ closing := by
  induction cs with
  | nil => simp [closing, hp]
  | cons c cs ih =>
    cases hc : p c with
    | true => simp [hc, ih]
    | false => simp [hc]

theorem readCount_trims (f : Flags) : Trims (readCount f) := by
  have hblank : Text.isBlank ')' = false := by decide
  constructor
  · intro cs rest x h
    unfold readCount at h
    simp only at h
    split at h
    · simp at h
    · obtain ⟨rfl, rfl⟩ := Prod.mk.inj (Except.ok.inj h)
      exact (f.skip_suffix _).trans (((List.dropWhile_suffix _).trans (List.dropWhile_suffix _)).trans
        (List.dropWhile_suffix _))
  · intro cs rest x h
    unfold readCount at h ⊢
    simp only [(takeWhile_append_closing hblank _).2,
      (takeWhile_append_closing (p := Char.isDigit) rfl _).1,
      (takeWhile_append_closing (p := Char.isDigit) rfl _).2] at h ⊢
    split at h
    · simp at h
    · rename_i hif
      obtain ⟨rfl, hr⟩ := Prod.mk.inj (Except.ok.inj h)
      rw [if_neg hif, f.skip_trim hr]

theorem readUpper_trims (f : Flags) (low : Nat) : Trims (readUpper f low) := by
  have hcount := (readCount_trims f).map fun n => some n
  have hrest := Trims.skip f (Trims.test (d := '\x7d') (by decide) (.ok none) hcount)
  refine .of_eq (.peek (d := ',') (by decide) hrest (.ok (some low))) fun cs => ?_
  unfold readUpper
  cases cs with
  | nil => rfl
  | cons c cs =>
    by_cases hc : c = ','
    · subst hc
      cases hs : f.skip cs with
      | nil => simp [hs]
      | cons d l =>
        by_cases hd : d = '\x7d'
        · subst hd; simp [hs]
        · simp [hs, hd]
    · simp [hc]

theorem takeGreed_trims : Trims fun cs => .ok (takeGreed cs) := by
  refine .of_eq (.peek (d := '?') (by decide) (.ok false) (.ok true)) fun cs => ?_
  cases cs with
  | nil => rfl
  | cons c cs =>
    by_cases hc : c = '?'
    · subst hc; rfl
    · simp [takeGreed, hc]

theorem closeCounts_trims (f : Flags) (low : Nat) (high : Option Nat) :
    Trims (closeCounts f low high) := by
  refine .of_eq (.peek (d := '\x7d') (by decide)
    (.ite (decide (high.getD low < low)) (.error .badCount) (.skip f takeGreed_trims))
    (.error .badCount)) fun cs => ?_
  unfold closeCounts
  cases cs with
  | nil => rfl
  | cons c cs =>
    by_cases hc : c = '\x7d'
    · subst hc; simp
    · simp [hc]

theorem readCounts_trims (f : Flags) : Trims (readCounts f) :=
  .bind (S := fun low rest => readUpper f low rest >>= fun upper =>
      closeCounts f low upper.1 upper.2 >>= fun close => pure ((low, upper.1, close.1), close.2))
    (.skip f (readCount_trims f)) fun low =>
    .bind (S := fun high rest =>
        closeCounts f low high rest >>= fun close => pure ((low, high, close.1), close.2))
      (readUpper_trims f low) fun high => (closeCounts_trims f low high).map fun greedy =>
        (low, high, greedy)

/-! ## Patterns -/

theorem readSingle_trims (f : Flags) (c : Char) : Trims (readSingle f c) := by
  unfold readSingle
  refine .ite _ ?_ (.ite _ ?_ (.ite _ (.ok _) (.ite _ (.ok _) (.ok _))))
  · exact (readEscape_trims f).map f.atom
  · exact .compute f.dot fun s => .pure (Expr.set s)

theorem readSet_trims (f : Flags) (parts : List Part) : Trims fun cs =>
    readSet f (2 * cs.length + 2) cs >>= fun set =>
      pure (⟨.set set.1, set.2.1, true⟩ :: parts, set.2.2) := by
  constructor
  · intro cs rest x h
    obtain ⟨⟨s, height, l⟩, hset, h⟩ := bind_eq_ok.1 h
    obtain ⟨-, rfl⟩ := Prod.mk.inj (pure_eq_ok.1 h)
    exact ((readSet_shortens f _).1 hset).1
  · intro cs rest x h
    obtain ⟨⟨s, height, l⟩, hset, h⟩ := bind_eq_ok.1 h
    obtain ⟨rfl, rfl⟩ := Prod.mk.inj (pure_eq_ok.1 h)
    exact bind_eq_ok.2 ⟨_, (readSet_trim f _).1 (Nat.le_refl _) (Nat.le_refl _) hset, rfl⟩

theorem readPart_trims (f : Flags) (c : Char) (parts : List Part) : Trims (readPart f c parts) := by
  unfold readPart
  refine .ite _ (readSet_trims f parts) (.ite _ ?_ (.ite _ ?_ ?_))
  · exact takeGreed_trims.bind fun greedy => .compute (repeatLast f _ _ greedy parts) .pure
  · exact (readCounts_trims f).bind fun counts =>
      .compute (repeatLast f counts.1 counts.2.1 counts.2.2 parts) .pure
  · exact (readSingle_trims f c).map fun expr => ⟨expr, 0, true⟩ :: parts

/-- Behind a character that does not end it, a pattern goes on. -/
theorem readBody_tail {n : Nat} (ih : ∀ {sc sc' : Scope} {cs rest : List Char}
      {branches parts : List Part} {part : Part},
      readBody n sc cs branches parts = .ok (part, sc', rest) → rest <:+ cs)
    {sc sc' : Scope} {c : Char} {cs l rest : List Char} {branches parts : List Part} {part : Part}
    (hc : sc.flags.skip cs = c :: l) (hne : c ≠ ')')
    (h : readBody (n + 1) sc cs branches parts = .ok (part, sc', rest)) : rest <:+ l := by
  unfold readBody at h
  simp only [hc, beq_iff_eq, hne, ↓reduceIte] at h
  split at h
  · exact ih h
  · split at h
    · split at h
      · simp at h
      · rename_i ho
        exact (ih h).trans ((readOpening_trims sc).suffix ho)
      · rename_i ho
        have ho := (readOpening_trims sc).suffix ho
        split at h
        · simp at h
        · simp at h
        · rename_i hb
          exact (ih h).trans ((List.suffix_cons _ _).trans ((ih hb).trans ho))
    · split at h
      · simp at h
      · rename_i hpart
        exact (ih h).trans ((readPart_trims sc.flags c parts).suffix hpart)

theorem readBody_suffix (n : Nat) : ∀ {sc sc' : Scope} {cs rest : List Char}
    {branches parts : List Part} {part : Part},
    readBody n sc cs branches parts = .ok (part, sc', rest) → rest <:+ cs := by
  induction n with
  | zero => intro sc sc' cs rest branches parts part h; simp [readBody] at h
  | succ n ih =>
    intro sc sc' cs rest branches parts part h
    cases hc : sc.flags.skip cs with
    | nil =>
      simp only [readBody, hc, Except.ok.injEq, Prod.mk.injEq] at h
      exact h.2.2 ▸ List.nil_suffix
    | cons c l =>
      have hs : c :: l <:+ cs := hc ▸ sc.flags.skip_suffix cs
      by_cases hne : c = ')'
      · subst hne
        simp only [readBody, hc, beq_self_eq_true, ↓reduceIte, Except.ok.injEq, Prod.mk.injEq] at h
        exact h.2.2 ▸ hs
      · exact (readBody_tail ih hc hne h).trans ((List.suffix_cons c l).trans hs)

/-- A pattern stops at the end of the text or at a bracket. -/
theorem readBody_stops (n : Nat) : ∀ {sc sc' : Scope} {c : Char} {cs rest : List Char}
    {branches parts : List Part} {part : Part},
    readBody n sc cs branches parts = .ok (part, sc', c :: rest) → c = ')' := by
  induction n with
  | zero => intro sc sc' c cs rest branches parts part h; simp [readBody] at h
  | succ n ih =>
    intro sc sc' c cs rest branches parts part h
    unfold readBody at h
    split at h
    · simp at h
    · split at h
      · rename_i hc
        simp only [Except.ok.injEq, Prod.mk.injEq, List.cons.injEq] at h
        exact h.2.2.1 ▸ beq_iff_eq.1 hc
      · split at h
        · exact ih h
        · split at h
          · split at h
            · simp at h
            · exact ih h
            · split at h
              · simp at h
              · simp at h
              · exact ih h
          · split at h
            · simp at h
            · exact ih h

/-- A pattern that stops at a bracket in front of `closing`, or at `closing`, is read from the
text alone too, with fuel that is enough for that text. -/
theorem readBody_trim (n : Nat) : ∀ {m : Nat} {sc sc' : Scope} {cs rest : List Char}
    {branches parts : List Part} {part : Part}, cs.length < m →
    readBody n sc (cs ++ closing) branches parts = .ok (part, sc', rest ++ closing) →
    readBody m sc cs branches parts = .ok (part, sc', rest) := by
  induction n with
  | zero => intro m sc sc' cs rest branches parts part hm h; simp [readBody] at h
  | succ n ih =>
    intro m sc sc' cs rest branches parts part hm h
    obtain ⟨m, rfl⟩ : ∃ k, m = k + 1 := ⟨m - 1, by omega⟩
    have hs := sc.flags.skip_suffix (cs ++ closing)
    cases hc : sc.flags.skip (cs ++ closing) with
    | nil =>
      simp only [readBody, hc, Except.ok.injEq, Prod.mk.injEq] at h
      simp [closing] at h
    | cons c l =>
      rw [hc] at hs
      by_cases hne : c = ')'
      · subst hne
        simp only [readBody, hc, beq_self_eq_true, ↓reduceIte, Except.ok.injEq, Prod.mk.injEq] at h
        obtain ⟨rfl, rfl, hr⟩ := h
        have hc := sc.flags.skip_trim (hc.trans hr)
        cases rest with
        | nil => simp only [readBody, hc]
        | cons d rest =>
          obtain ⟨rfl, -⟩ := List.cons.inj hr
          simp only [readBody, hc, beq_self_eq_true, ↓reduceIte]
      · have htail := readBody_tail (readBody_suffix n) hc hne h
        obtain ⟨l, rfl, hl⟩ := exists_cons_append_closing (htail.trans (List.suffix_cons c l))
          (Nat.lt_succ_of_le htail.length_le) hs
        have hc' : sc.flags.skip cs = c :: l := sc.flags.skip_trim hc
        -- whatever is read next ends before `closing`, and it is shorter than the text
        have hm' : ∀ {l' : List Char}, l' <:+ l → l'.length < m := fun h' => by
          have := h'.length_le
          have := hl.length_le
          simp only [List.length_cons] at this
          omega
        unfold readBody at h ⊢
        simp only [hc, hc', beq_iff_eq, hne, ↓reduceIte] at h ⊢
        by_cases h₁ : c = '|'
        · simp only [h₁, ↓reduceIte] at h ⊢
          exact ih (hm' (List.suffix_refl l)) h
        simp only [h₁, ↓reduceIte] at h ⊢
        by_cases h₂ : c = '('
        · simp only [h₂, ↓reduceIte] at h ⊢
          split at h
          · simp at h
          · rename_i ho
            obtain ⟨l', rfl, ho, hl'⟩ := (readOpening_trims sc).cut ho (readBody_suffix n h)
            rw [ho]
            exact ih (hm' hl') h
          · rename_i ho
            split at h
            · simp at h
            · simp at h
            · -- the group is closed before `closing`, for its bracket is not the first of it
              rename_i hb
              have hr := readBody_suffix n h
              obtain ⟨l', rfl, ho, hl'⟩ := (readOpening_trims sc).cut ho
                (hr.trans ((List.suffix_cons _ _).trans (readBody_suffix n hb)))
              obtain ⟨l'', rfl, hl''⟩ := exists_cons_append_closing (hr.trans (List.suffix_cons _ _))
                (Nat.lt_succ_of_le hr.length_le) (readBody_suffix n hb)
              have hb := ih (hm' hl') (List.cons_append ▸ hb)
              simp only [ho, hb]
              exact ih (hm' (((List.suffix_cons _ _).trans hl'').trans hl')) h
        simp only [h₂, ↓reduceIte] at h ⊢
        split at h
        · simp at h
        · rename_i hpart
          obtain ⟨l', rfl, hpart, hl'⟩ := (readPart_trims sc.flags c parts).cut hpart
            (readBody_suffix n h)
          rw [hpart]
          exact ih (hm' hl') h

end RequestDispatch.Regex
