import RequestDispatch.Proofs.Regex.Reading

/-!
# Reading bracketed sets in front of a closing bracket

A set is read by two functions that call each other, each with fuel. `readSet_shortens` says that
both use up text, so that fuel bounded by the length is enough; `readSet_trim` says that a set
that ends before `closing` is the set of the text alone, whatever fuel either was read with.
-/

set_option autoImplicit false

namespace RequestDispatch.Regex

open Text (CharSet)

/-! ## Items and ranges -/

theorem readSetItem_trims (f : Flags) : Trims (readSetItem f) := by
  refine .of_eq (.head (e := .unclosedClass)
    (K := fun c rest => if c == '\\' then readEscape f rest else .ok (.char c, rest))
    fun c => .ite _ (readEscape_trims f) (.ok _)) fun cs => ?_
  cases cs with
  | nil => rfl
  | cons c cs =>
    by_cases hc : c = '\\'
    · subst hc; rfl
    · simp [readSetItem, hc]

theorem Flags.endsRange_append_closing (f : Flags) (cs : List Char) :
    f.endsRange (cs ++ closing) = f.endsRange cs := by
  unfold Flags.endsRange
  rcases f.skip_append_closing cs with h | ⟨h, h'⟩
  · rw [h]
    cases f.skip cs with
    | nil => decide
    | cons c l => rfl
  · rw [h, h']

theorem readSetRange_suffix {f : Flags} {cs rest : List Char} {s : CharSet}
    (h : readSetRange f cs = .ok (s, rest)) : rest <:+ cs := by
  unfold readSetRange at h
  obtain ⟨⟨a, l⟩, ha, h⟩ := bind_eq_ok.1 h
  have hl := (f.skip_suffix l).trans ((readSetItem_trims f).suffix ha)
  simp only at h
  split at h
  · simp at h
  · rename_i c after hs
    rw [hs] at hl
    split at h
    · obtain ⟨⟨b, l'⟩, hb, h⟩ := bind_eq_ok.1 h
      obtain ⟨s', -, h⟩ := bind_eq_ok.1 h
      obtain ⟨rfl, rfl⟩ := Prod.mk.inj (pure_eq_ok.1 h)
      exact (((readSetItem_trims f).suffix hb).trans (f.skip_suffix after)).trans
        ((List.suffix_cons c after).trans hl)
    · obtain ⟨s', -, h⟩ := bind_eq_ok.1 h
      obtain ⟨rfl, rfl⟩ := Prod.mk.inj (pure_eq_ok.1 h)
      exact hl

/-- An item takes something away. -/
theorem readSetItem_length {f : Flags} {cs rest : List Char} {a : Atom}
    (h : readSetItem f cs = .ok (a, rest)) : rest.length < cs.length := by
  cases cs with
  | nil => simp [readSetItem] at h
  | cons c cs =>
    have : rest <:+ cs := by
      by_cases hc : c = '\\'
      · subst hc; exact (readEscape_trims f).suffix h
      · simp only [readSetItem, Except.ok.injEq, Prod.mk.injEq] at h
        exact h.2 ▸ List.suffix_refl _
    exact Nat.lt_succ_of_le this.length_le

/-- An item of a set cannot be the last thing before `closing`: the set has to be closed first. -/
theorem readSetRange_trim {f : Flags} {cs rest : List Char} {s : CharSet} (hne : rest ≠ [])
    (h : readSetRange f (cs ++ closing) = .ok (s, rest ++ closing)) :
    readSetRange f cs = .ok (s, rest) := by
  have hi := readSetItem_trims f
  unfold readSetRange at h ⊢
  obtain ⟨⟨a, l⟩, ha, h⟩ := bind_eq_ok.1 h
  have hl := hi.suffix ha
  simp only at h
  split at h
  · simp at h
  · rename_i c after hs
    have hcl : c :: after <:+ l := hs ▸ f.skip_suffix l
    split at h
    · rename_i hif
      obtain ⟨⟨b, l'⟩, hb, h⟩ := bind_eq_ok.1 h
      obtain ⟨s', hs', h⟩ := bind_eq_ok.1 h
      obtain ⟨rfl, rfl⟩ := Prod.mk.inj (pure_eq_ok.1 h)
      have hsa := (hi.suffix hb).trans (f.skip_suffix after)
      -- `after` is long enough to hold `closing`, and so is all before it
      obtain ⟨after, rfl, -, -⟩ := exists_append_closing hsa
        ((List.suffix_cons c after).trans (hcl.trans hl))
      obtain ⟨l, rfl, -, -⟩ := exists_append_closing (r := c :: after) hcl hl
      obtain ⟨n, hn, -, -⟩ := exists_append_closing (hi.suffix hb) (f.skip_suffix _)
      rw [hn] at hb
      rw [Flags.endsRange_append_closing] at hif
      refine bind_eq_ok.2 ⟨(a, l), hi.trim ha, ?_⟩
      have hl' : f.skip l = c :: after := f.skip_trim hs
      simp only [hl', if_pos hif, f.skip_trim hn]
      exact bind_eq_ok.2 ⟨_, hi.trim hb, bind_eq_ok.2 ⟨s', hs', rfl⟩⟩
    · rename_i hif
      obtain ⟨s', hs', h⟩ := bind_eq_ok.1 h
      obtain ⟨rfl, hr⟩ := Prod.mk.inj (pure_eq_ok.1 h)
      cases rest with
      | nil => exact absurd rfl hne
      | cons d after' =>
        rw [List.cons_append] at hr
        obtain ⟨rfl, rfl⟩ := List.cons.inj hr
        obtain ⟨l, rfl, -, -⟩ := exists_append_closing (r := c :: after') hcl hl
        rw [Flags.endsRange_append_closing] at hif
        refine bind_eq_ok.2 ⟨(a, l), hi.trim ha, ?_⟩
        have hl' : f.skip l = c :: after' := f.skip_trim hs
        simp only [hl', if_neg hif]
        exact bind_eq_ok.2 ⟨s', hs', rfl⟩

theorem readSetRange_length {f : Flags} {cs rest : List Char} {s : CharSet}
    (h : readSetRange f cs = .ok (s, rest)) : rest.length < cs.length := by
  unfold readSetRange at h
  obtain ⟨⟨a, l⟩, ha, h⟩ := bind_eq_ok.1 h
  have hl := readSetItem_length ha
  have hs := (f.skip_suffix l).length_le
  simp only at h
  split at h
  · simp at h
  · rename_i c after hc
    rw [hc] at hs
    split at h
    · obtain ⟨⟨b, l'⟩, hb, h⟩ := bind_eq_ok.1 h
      obtain ⟨s', -, h⟩ := bind_eq_ok.1 h
      obtain ⟨rfl, rfl⟩ := Prod.mk.inj (pure_eq_ok.1 h)
      have hb := readSetItem_length hb
      have ha := (f.skip_suffix after).length_le
      simp only [List.length_cons] at hs hb ⊢
      omega
    · obtain ⟨s', -, h⟩ := bind_eq_ok.1 h
      obtain ⟨rfl, rfl⟩ := Prod.mk.inj (pure_eq_ok.1 h)
      omega

/-! ## Named sets -/

theorem readAsciiName?_suffix {cs rest : List Char} {r : List (Nat × Nat)}
    (h : readAsciiName? cs = some (r, rest)) : rest <:+ cs := by
  unfold readAsciiName? at h
  split at h
  · rename_i after hd
    obtain ⟨_, -, h⟩ := Option.map_eq_some_iff.1 h
    obtain ⟨rfl, rfl⟩ := Prod.mk.inj h
    exact ((List.suffix_cons _ _).trans (List.suffix_cons _ _)).trans (hd ▸ List.dropWhile_suffix _)
  · simp at h

theorem readNamedAscii?_suffix {c : Char} {cs rest : List Char} {r : List (Nat × Nat)} {n : Bool}
    (h : readNamedAscii? (c :: cs) = some (r, n, rest)) : rest <:+ cs := by
  unfold readNamedAscii? at h
  split at h
  · rename_i l heq
    obtain ⟨rfl, rfl⟩ := List.cons.inj heq
    obtain ⟨⟨_, l'⟩, hl, h⟩ := Option.map_eq_some_iff.1 h
    obtain ⟨rfl, rfl, rfl⟩ := by simpa using h
    exact (readAsciiName?_suffix hl).trans ((List.suffix_cons _ _).trans (List.suffix_cons _ _))
  · rename_i l _ heq
    obtain ⟨rfl, rfl⟩ := List.cons.inj heq
    obtain ⟨⟨_, l'⟩, hl, h⟩ := Option.map_eq_some_iff.1 h
    obtain ⟨rfl, rfl, rfl⟩ := by simpa using h
    exact (readAsciiName?_suffix hl).trans (List.suffix_cons _ _)
  · simp at h

theorem readAsciiName?_append_closing (cs : List Char) : readAsciiName? (cs ++ closing) =
    (readAsciiName? cs).map (Prod.map id (· ++ closing)) := by
  unfold readAsciiName?
  cases hd : (cs ++ closing).dropWhile (· != ':') with
  | nil =>
    have : cs.dropWhile (· != ':') = [] := by
      rw [List.dropWhile_append] at hd
      split at hd
      · rename_i he; exact List.isEmpty_iff.1 he
      · simp [closing] at hd
    simp [this]
  | cons c l =>
    obtain ⟨ht, l, rfl, hd'⟩ := dropWhile_append_closing
      (by rw [show closing.dropWhile (· != ':') = [] by decide]; simp) hd
    rw [ht, hd']
    by_cases hc : c = ':'
    · subst hc
      cases l with
      | nil => simp [closing]
      | cons d l =>
        by_cases hd : d = ']'
        · subst hd; simp [Function.comp_def]
        · simp [hd]
    · simp [hc]

theorem readNamedAscii?_append_closing (cs : List Char) : readNamedAscii? (cs ++ closing) =
    (readNamedAscii? cs).map (Prod.map id (Prod.map id (· ++ closing))) := by
  match cs with
  | [] => rfl
  | [c] => by_cases hc : c = '[' <;> simp [readNamedAscii?, closing, hc]
  | [c, d] =>
    by_cases hc : c = '['
    · by_cases hd : d = ':'
      · subst hc hd
        decide
      · simp [readNamedAscii?, hd]
    · simp [readNamedAscii?, hc]
  | c :: d :: e :: cs =>
    by_cases hc : c = '['
    · by_cases hd : d = ':'
      · subst hc hd
        by_cases he : e = '^'
        · subst he
          simp [readNamedAscii?, readAsciiName?_append_closing, Function.comp_def]
        · have := readAsciiName?_append_closing (e :: cs)
          simp only [List.cons_append] at this
          simp [readNamedAscii?, he, this, Function.comp_def]
      · simp [readNamedAscii?, hd]
    · simp [readNamedAscii?, hc]

/-! ## The start of a set -/

theorem takeNegation_of_head {f : Flags} {cs : List Char} (h : cs.head? ≠ some '^') :
    takeNegation f cs = (false, cs) := by
  unfold takeNegation
  split
  · simp at h
  · rfl

theorem takeNegation_suffix (f : Flags) (cs : List Char) : (takeNegation f cs).2 <:+ cs := by
  unfold takeNegation
  split
  · exact (f.skip_suffix _).trans (List.suffix_cons _ _)
  · exact List.suffix_refl cs

theorem takeNegation_trim {f : Flags} {cs rest : List Char} {n : Bool}
    (h : takeNegation f (cs ++ closing) = (n, rest ++ closing)) : takeNegation f cs = (n, rest) := by
  by_cases hc : cs.head? = some '^'
  · obtain ⟨cs, rfl⟩ : ∃ l, cs = '^' :: l := List.head?_eq_some_iff.1 hc
    obtain ⟨rfl, hr⟩ := Prod.mk.inj h
    exact congrArg (Prod.mk true) (f.skip_trim hr)
  · rw [takeNegation_of_head (mt (head?_append_closing (by decide)).1 hc)] at h
    obtain ⟨rfl, hr⟩ := Prod.mk.inj h
    rw [takeNegation_of_head hc, List.append_cancel_right hr]

theorem takeHyphens_of_head {f : Flags} {n : Nat} {cs : List Char} {d : SetDraft}
    (h : cs.head? ≠ some '-') : takeHyphens f n cs d = (cs, d) := by
  cases n with
  | zero => rfl
  | succ n =>
    unfold takeHyphens
    split
    · simp at h
    · rfl

theorem takeHyphens_suffix (f : Flags) (n : Nat) :
    ∀ (cs : List Char) (d : SetDraft), (takeHyphens f n cs d).1 <:+ cs := by
  induction n with
  | zero => intro cs d; exact List.suffix_refl cs
  | succ n ih =>
    intro cs d
    unfold takeHyphens
    split
    · exact (ih _ _).trans ((f.skip_suffix _).trans (List.suffix_cons _ _))
    · exact List.suffix_refl cs

/-- With fuel enough for either text, the hyphens before `closing` are those of the text alone. -/
theorem takeHyphens_trim {f : Flags} {n : Nat} : ∀ {m : Nat} {cs rest : List Char} {d d' : SetDraft},
    (cs ++ closing).length ≤ n → cs.length ≤ m →
      takeHyphens f n (cs ++ closing) d = (rest ++ closing, d') →
      takeHyphens f m cs d = (rest, d') := by
  induction n with
  | zero => intro m cs rest d d' hn; simp [closing] at hn
  | succ n ih =>
    intro m cs rest d d' hn hm h
    by_cases hc : cs.head? = some '-'
    · obtain ⟨cs, rfl⟩ : ∃ l, cs = '-' :: l := List.head?_eq_some_iff.1 hc
      obtain ⟨m, rfl⟩ : ∃ k, m = k + 1 := ⟨m - 1, by simp only [List.length_cons] at hm; omega⟩
      have h : takeHyphens f n (f.skip (cs ++ closing)) (d.add (.ofChar '-') 0) =
        (rest ++ closing, d') := h
      have hsuf := takeHyphens_suffix f n (f.skip (cs ++ closing)) (d.add (.ofChar '-') 0)
      rw [h] at hsuf
      obtain ⟨l, hl, -, hlc⟩ := exists_append_closing hsuf (f.skip_suffix _)
      rw [hl] at h
      have hlen := hlc.length_le
      simp only [List.length_append, List.length_cons] at hn hm
      show takeHyphens f m (f.skip cs) (d.add (.ofChar '-') 0) = _
      rw [f.skip_trim hl]
      exact ih (by simp only [List.length_append]; omega) (by omega) h
    · rw [takeHyphens_of_head (mt (head?_append_closing (by decide)).1 hc)] at h
      obtain ⟨hr, rfl⟩ := Prod.mk.inj h
      rw [takeHyphens_of_head hc, List.append_cancel_right hr]

theorem takeBracket_of_head {f : Flags} {cs : List Char} {d : SetDraft} (h : cs.head? ≠ some ']') :
    takeBracket f cs d = (cs, d) := by
  unfold takeBracket
  split
  · simp at h
  · rfl

theorem takeBracket_suffix (f : Flags) (cs : List Char) (d : SetDraft) :
    (takeBracket f cs d).1 <:+ cs := by
  unfold takeBracket
  split
  · split
    · exact (f.skip_suffix _).trans (List.suffix_cons _ _)
    · exact List.suffix_refl _
  · exact List.suffix_refl cs

theorem takeBracket_trim {f : Flags} {cs rest : List Char} {d d' : SetDraft}
    (h : takeBracket f (cs ++ closing) d = (rest ++ closing, d')) :
    takeBracket f cs d = (rest, d') := by
  by_cases hc : cs.head? = some ']'
  · obtain ⟨cs, rfl⟩ : ∃ l, cs = ']' :: l := List.head?_eq_some_iff.1 hc
    simp only [takeBracket, List.cons_append] at h ⊢
    split at h
    · rename_i hif
      obtain ⟨hr, rfl⟩ := Prod.mk.inj h
      rw [if_pos hif, f.skip_trim hr]
    · rename_i hif
      obtain ⟨hr, rfl⟩ := Prod.mk.inj h
      rw [← List.cons_append] at hr
      rw [if_neg hif, List.append_cancel_right hr]
  · rw [takeBracket_of_head (mt (head?_append_closing (by decide)).1 hc)] at h
    obtain ⟨hr, rfl⟩ := Prod.mk.inj h
    rw [takeBracket_of_head hc, List.append_cancel_right hr]

theorem takeOpening_suffix (f : Flags) (n : Nat) (cs : List Char) : (takeOpening f n cs).2.1 <:+ cs :=
  (((takeBracket_suffix f _ _).trans (takeHyphens_suffix f n _ _)).trans
    (takeNegation_suffix f _)).trans (f.skip_suffix cs)

theorem takeOpening_trim {f : Flags} {n m : Nat} {cs rest : List Char} {b : Bool} {d : SetDraft}
    (hn : (cs ++ closing).length ≤ n) (hm : cs.length ≤ m)
    (h : takeOpening f n (cs ++ closing) = (b, rest ++ closing, d)) :
    takeOpening f m cs = (b, rest, d) := by
  have hs := f.skip_suffix (cs ++ closing)
  have hneg := takeNegation_suffix f (f.skip (cs ++ closing))
  cases hN : takeNegation f (f.skip (cs ++ closing)) with
  | mk b' l₂ =>
    cases hH : takeHyphens f n l₂ {} with
    | mk l₃ d₃ =>
      have hhyp := takeHyphens_suffix f n l₂ {}
      have hbr := takeBracket_suffix f l₃ d₃
      simp only [takeOpening, hN, hH, Prod.mk.injEq] at h
      obtain ⟨rfl, h⟩ := h
      rw [hN] at hneg
      rw [hH] at hhyp
      rw [h] at hbr
      -- each step leaves a part that still holds `closing`
      obtain ⟨l₃, rfl, -, -⟩ := exists_append_closing hbr ((hhyp.trans hneg).trans hs)
      obtain ⟨l₂, rfl, -, hl₂⟩ := exists_append_closing hhyp (hneg.trans hs)
      obtain ⟨l₁, h₁, -, -⟩ := exists_append_closing hneg hs
      rw [h₁] at hN
      have hlen := hl₂.length_le
      rw [List.length_append] at hn
      have hH : takeHyphens f m l₂ {} = (l₃, d₃) :=
        takeHyphens_trim (by rw [List.length_append]; omega) (by omega) hH
      simp only [takeOpening, f.skip_trim h₁, takeNegation_trim hN, hH, takeBracket_trim h]

/-! ## Sets in sets -/

/-- What a reader of sets gives back is the end of its text, and not all of it. -/
def Shortens {α β : Type} (R : List Char → Except Fault (α × β × List Char)) : Prop :=
  ∀ {l rest x y}, R l = .ok (x, y, rest) → rest <:+ l ∧ rest.length < l.length

theorem readSetPart_shortens {f : Flags} {nested : List Char → Except Fault (CharSet × Nat × List Char)}
    (hn : Shortens nested) {c : Char} {cs rest : List Char} {d d' : SetDraft}
    (h : readSetPart f nested (c :: cs) d = .ok (d', rest)) :
    rest <:+ c :: cs ∧ rest.length < (c :: cs).length := by
  have htail : ∀ {l l' : List Char}, l <:+ l' → l' <:+ cs → l <:+ c :: cs ∧ l.length < (c :: cs).length :=
    fun h₁ h₂ => ⟨(h₁.trans h₂).trans (List.suffix_cons c cs), Nat.lt_succ_of_le (h₁.trans h₂).length_le⟩
  unfold readSetPart at h
  split at h
  · rename_i r n after ha
    obtain ⟨s, -, h⟩ := bind_eq_ok.1 h
    obtain ⟨rfl, rfl⟩ := Prod.mk.inj (pure_eq_ok.1 h)
    exact htail (List.suffix_refl _) (readNamedAscii?_suffix ha)
  · split at h
    · rename_i l heq
      obtain ⟨rfl, rfl⟩ := List.cons.inj heq
      obtain ⟨⟨s, k, l'⟩, hl, h⟩ := bind_eq_ok.1 h
      obtain ⟨rfl, rfl⟩ := Prod.mk.inj (pure_eq_ok.1 h)
      exact htail (hn hl).1 (List.suffix_refl _)
    · rename_i l heq
      obtain ⟨rfl, rfl⟩ := List.cons.inj heq
      obtain ⟨rfl, rfl⟩ := Prod.mk.inj (Except.ok.inj h)
      exact htail (List.suffix_refl _) (List.suffix_cons _ _)
    · rename_i l heq
      obtain ⟨rfl, rfl⟩ := List.cons.inj heq
      obtain ⟨rfl, rfl⟩ := Prod.mk.inj (Except.ok.inj h)
      exact htail (List.suffix_refl _) (List.suffix_cons _ _)
    · rename_i l heq
      obtain ⟨rfl, rfl⟩ := List.cons.inj heq
      obtain ⟨rfl, rfl⟩ := Prod.mk.inj (Except.ok.inj h)
      exact htail (List.suffix_refl _) (List.suffix_cons _ _)
    · obtain ⟨⟨s, l⟩, hl, h⟩ := bind_eq_ok.1 h
      obtain ⟨rfl, rfl⟩ := Prod.mk.inj (pure_eq_ok.1 h)
      exact ⟨readSetRange_suffix hl, readSetRange_length hl⟩

theorem readSet_shortens (f : Flags) (n : Nat) :
    Shortens (readSet f n) ∧ ∀ d, Shortens fun cs => readSetItems f n cs d := by
  induction n with
  | zero => exact ⟨fun h => by simp [readSet] at h, fun d _ _ _ _ h => by simp [readSetItems] at h⟩
  | succ n ih =>
    refine ⟨fun {cs rest s k} h => ?_, fun d cs rest s k h => ?_⟩
    · simp only [readSet] at h
      split at h
      · simp at h
      · rename_i s' k' rest' hi
        obtain ⟨_, -, h⟩ := map_eq_ok.1 h
        obtain ⟨-, rfl⟩ := Prod.mk.inj (Prod.mk.inj h).2
        obtain ⟨hsuf, hlen⟩ := ih.2 _ hi
        have hin := takeOpening_suffix f n cs
        exact ⟨hsuf.trans hin, Nat.lt_of_lt_of_le hlen hin.length_le⟩
    · simp only [readSetItems] at h
      have hs := f.skip_suffix cs
      split at h
      · simp at h
      · rename_i c l hc
        rw [hc] at hs
        have hle := hs.length_le
        split at h
        · obtain ⟨-, rfl⟩ := Prod.mk.inj (Prod.mk.inj (Except.ok.inj h)).2
          exact ⟨(List.suffix_cons c _).trans hs, hle⟩
        · split at h
          · simp at h
          · rename_i d' l' hp
            obtain ⟨hsuf, hlen⟩ := readSetPart_shortens ih.1 hp
            obtain ⟨hsuf', hlen'⟩ := ih.2 d' h
            exact ⟨(hsuf'.trans hsuf).trans hs, by omega⟩

theorem readSetPart_trim {f : Flags} {R S : List Char → Except Fault (CharSet × Nat × List Char)}
    {c : Char} {cs rest : List Char} {d d' : SetDraft}
    (hn : ∀ {l s k}, R (cs ++ closing) = .ok (s, k, l ++ closing) → S cs = .ok (s, k, l))
    (hne : rest ≠ [])
    (h : readSetPart f R (c :: cs ++ closing) d = .ok (d', rest ++ closing)) :
    readSetPart f S (c :: cs) d = .ok (d', rest) := by
  unfold readSetPart at h ⊢
  rw [readNamedAscii?_append_closing] at h
  cases hname : readNamedAscii? (c :: cs) with
  | some x =>
    obtain ⟨r, b, after⟩ := x
    simp only [hname, Option.map_some] at h ⊢
    obtain ⟨s, hs, h⟩ := bind_eq_ok.1 h
    obtain ⟨rfl, hr⟩ := Prod.mk.inj (pure_eq_ok.1 h)
    obtain rfl := List.append_cancel_right hr
    exact bind_eq_ok.2 ⟨s, hs, rfl⟩
  | none =>
    simp only [hname, Option.map_none] at h ⊢
    -- an operation is written before `closing` as a whole
    have hop : ∀ {e : Char} {l : List Char} {op : SetOp}, e ≠ ')' →
        e :: e :: l = c :: cs ++ closing →
        (.ok (d.operate f op, l) : Except Fault _) = .ok (d', rest ++ closing) →
        c :: cs = e :: e :: rest ∧ d.operate f op = d' := by
      intro e l op he heq h
      obtain ⟨rfl, rfl⟩ := Prod.mk.inj (Except.ok.inj h)
      cases cs with
      | nil => simp [closing, he] at heq
      | cons a cs =>
        simp only [List.cons_append, List.cons.injEq] at heq
        obtain ⟨rfl, rfl, hr⟩ := heq
        exact ⟨by rw [List.append_cancel_right hr], rfl⟩
    split at h
    · rename_i l heq
      obtain ⟨rfl, rfl⟩ := List.cons.inj heq
      obtain ⟨⟨s, k, l'⟩, hl, h⟩ := bind_eq_ok.1 h
      obtain ⟨rfl, rfl⟩ := Prod.mk.inj (pure_eq_ok.1 h)
      exact bind_eq_ok.2 ⟨_, hn hl, rfl⟩
    · rename_i l heq
      obtain ⟨hcs, rfl⟩ := hop (by decide) heq.symm h
      rw [hcs]
      rfl
    · rename_i l heq
      obtain ⟨hcs, rfl⟩ := hop (by decide) heq.symm h
      rw [hcs]
      rfl
    · rename_i l heq
      obtain ⟨hcs, rfl⟩ := hop (by decide) heq.symm h
      rw [hcs]
      rfl
    · rename_i h₁ h₂ h₃ h₄
      obtain ⟨⟨s, l⟩, hl, h⟩ := bind_eq_ok.1 h
      obtain ⟨rfl, rfl⟩ := Prod.mk.inj (pure_eq_ok.1 h)
      have hl := readSetRange_trim hne hl
      split
      · rename_i heq
        exact absurd (congrArg (· ++ closing) heq) (h₁ _)
      · rename_i heq
        exact absurd (congrArg (· ++ closing) heq) (h₂ _)
      · rename_i heq
        exact absurd (congrArg (· ++ closing) heq) (h₃ _)
      · rename_i heq
        exact absurd (congrArg (· ++ closing) heq) (h₄ _)
      · exact bind_eq_ok.2 ⟨_, hl, rfl⟩

/-- With fuel enough for either text, a set before `closing` is that of the text alone. -/
theorem readSet_trim (f : Flags) (n : Nat) :
    (∀ {m : Nat} {cs rest : List Char} {s : CharSet} {k : Nat},
      2 * (cs ++ closing).length + 2 ≤ n → 2 * cs.length + 2 ≤ m →
      readSet f n (cs ++ closing) = .ok (s, k, rest ++ closing) →
      readSet f m cs = .ok (s, k, rest)) ∧
    ∀ {m : Nat} {cs rest : List Char} {s : CharSet} {k : Nat} {d : SetDraft},
      2 * (cs ++ closing).length + 1 ≤ n → 2 * cs.length + 1 ≤ m →
      readSetItems f n (cs ++ closing) d = .ok (s, k, rest ++ closing) →
      readSetItems f m cs d = .ok (s, k, rest) := by
  induction n with
  | zero => exact ⟨fun hn => by omega, fun hn => by omega⟩
  | succ n ih =>
    refine ⟨fun {m cs rest s k} hn hm h => ?_, fun {m cs rest s k d} hn hm h => ?_⟩
    · obtain ⟨m, rfl⟩ : ∃ k, m = k + 1 := ⟨m - 1, by omega⟩
      have hin := takeOpening_suffix f n (cs ++ closing)
      cases hO : takeOpening f n (cs ++ closing) with
      | mk b x =>
        obtain ⟨l, d⟩ := x
        rw [hO] at hin
        simp only [readSet, hO] at h ⊢
        split at h
        · simp at h
        · rename_i s' k' l' hi
          obtain ⟨t, ht, h⟩ := map_eq_ok.1 h
          simp only [Prod.mk.injEq] at h
          obtain ⟨rfl, rfl, rfl⟩ := h
          obtain ⟨l, rfl, -, hl⟩ := exists_append_closing (((readSet_shortens f n).2 d) hi).1 hin
          have hlen := hl.length_le
          simp only [List.length_append] at hn
          have hO := takeOpening_trim (m := m) (by rw [List.length_append]; omega) (by omega) hO
          have hi := ih.2 (m := m) (by rw [List.length_append]; omega) (by omega) hi
          simp only [hO, hi, ht, Except.map]
    · obtain ⟨m, rfl⟩ : ∃ k, m = k + 1 := ⟨m - 1, by omega⟩
      simp only [readSetItems] at h ⊢
      have hs := f.skip_suffix (cs ++ closing)
      split at h
      · simp at h
      · rename_i c l hc
        rw [hc] at hs
        split at h
        · rename_i hif
          simp only [Except.ok.injEq, Prod.mk.injEq] at h
          obtain ⟨rfl, rfl, rfl⟩ := h
          have hc : f.skip cs = c :: rest := f.skip_trim hc
          rw [hc]
          simp only [if_pos hif]
        · rename_i hif
          split at h
          · simp at h
          · rename_i d' l' hp
            obtain ⟨hsuf, hlen⟩ := readSetPart_shortens (readSet_shortens f n).1 hp
            obtain ⟨hsuf', hlen'⟩ := (readSet_shortens f n).2 d' h
            obtain ⟨l', rfl, hrl, -⟩ := exists_append_closing hsuf' (hsuf.trans hs)
            obtain ⟨l, rfl, hl⟩ := exists_cons_append_closing hsuf hlen hs
            have hne : l' ≠ [] := by
              rintro rfl
              simp only [List.length_append, List.length_nil] at hlen'
              omega
            have hle := hl.length_le
            simp only [List.length_append, List.length_cons] at hn hle hlen
            have hp := readSetPart_trim (S := readSet f m)
              (ih.1 (by rw [List.length_append]; omega) (by omega)) hne hp
            have h := ih.2 (m := m) (by rw [List.length_append]; omega) (by omega) h
            have hc : f.skip cs = c :: l := f.skip_trim hc
            rw [hc]
            simp only [if_neg hif, hp, h]

end RequestDispatch.Regex
