import RequestDispatch.Proofs.Outcome
import RequestDispatch.Regex.Reader

/-!
# Reading in front of a closing bracket

A raw expression is pasted between `^(?:` and `)$`, so what is read is not its text but its text
with `closing` behind it. `Trims R`: where the reader `R` stops before `closing`, it would have
read the text alone, with the same result. This module has the ways in which readers are put
together, and the readers of gaps and escapes:

* `Trims.bind`, `Trims.ite`, `Trims.head`, `Trims.peek`: a reader made of readers that trim trims;
* `Trims.upTo`, `Trims.fixed`: and so do those that take a run or a row of characters;
* `readEscape_trims`: an escape is never cut in two by `closing`.
-/

set_option autoImplicit false

namespace RequestDispatch.Regex

open Text (CharSet)

/-- What stands behind a raw expression between its anchors. -/
def closing : List Char := [')', '$']

/-- A reader that leaves a part of its text, and that reads a text with `closing` behind it as it
reads the text alone, as long as it stops before `closing`. -/
structure Trims {α : Type} (R : List Char → Except Fault (α × List Char)) : Prop where
  suffix : ∀ {l rest x}, R l = .ok (x, rest) → rest <:+ l
  trim : ∀ {l rest x}, R (l ++ closing) = .ok (x, rest ++ closing) → R l = .ok (x, rest)

/-! ## Lists -/

/-- A list between one that ends with `closing` and another. -/
theorem exists_append_closing {l r cs : List Char} (hr : r ++ closing <:+ l)
    (hl : l <:+ cs ++ closing) : ∃ l', l = l' ++ closing ∧ r <:+ l' ∧ l' <:+ cs := by
  obtain ⟨v, rfl⟩ := hr
  refine ⟨v ++ r, by rw [List.append_assoc], List.suffix_append v r, ?_⟩
  obtain ⟨w, hw⟩ := hl
  rw [← List.append_assoc, ← List.append_assoc] at hw
  exact ⟨w, by rw [← List.append_cancel_right hw, List.append_assoc]⟩

/-- A part of a text behind its first character, if both end with `closing`. -/
theorem exists_cons_append_closing {c : Char} {r l cs : List Char} (hr : r ++ closing <:+ c :: l)
    (hlen : (r ++ closing).length < (c :: l).length) (hl : c :: l <:+ cs ++ closing) :
    ∃ l', l = l' ++ closing ∧ c :: l' <:+ cs := by
  have hr' : r ++ closing <:+ l := by
    rcases List.suffix_cons_iff.1 hr with h | h
    · rw [h] at hlen; omega
    · exact h
  obtain ⟨l', rfl, -, -⟩ := exists_append_closing hr' ((List.suffix_cons c l).trans hl)
  obtain ⟨l'', h, -, hc⟩ := exists_append_closing (r := c :: l') (List.suffix_refl _) hl
  exact ⟨l', rfl, List.append_cancel_right h ▸ hc⟩

theorem not_append_closing_suffix {l cs : List Char} (hl : l.length < closing.length) :
    ¬ cs ++ closing <:+ l := by
  intro h
  have := h.length_le
  rw [List.length_append] at this
  omega

/-- What follows a run of characters, if it is not `closing` that ends the run. -/
theorem dropWhile_append_closing {p : Char → Bool} {c : Char}
    (hp : (closing.dropWhile p).head? ≠ some c) {cs l : List Char}
    (h : (cs ++ closing).dropWhile p = c :: l) :
    (cs ++ closing).takeWhile p = cs.takeWhile p ∧
      ∃ l', l = l' ++ closing ∧ cs.dropWhile p = c :: l' := by
  induction cs with
  | nil =>
    rw [List.nil_append] at h
    simp [h] at hp
  | cons d cs ih =>
    by_cases hd : p d = true
    · simp only [List.cons_append, List.dropWhile_cons_of_pos hd] at h
      simpa [hd] using ih h
    · simp only [List.cons_append, List.dropWhile_cons_of_neg hd, List.cons.injEq] at h
      obtain ⟨rfl, rfl⟩ := h
      simp [hd]

/-- `closing` begins with none of the characters that mean something at a place. -/
theorem head?_append_closing {c : Char} (hc : c ≠ ')') {cs : List Char} :
    (cs ++ closing).head? = some c ↔ cs.head? = some c := by
  cases cs with
  | nil => simpa [closing] using hc.symm
  | cons d cs => simp

/-! ## Ways to put readers together -/

namespace Trims

variable {α β : Type}

/-- Where something goes on to a place before `closing`, the reader stopped before `closing`. -/
theorem cut {R : List Char → Except Fault (α × List Char)} (hR : Trims R) {l l' r : List Char}
    {x : α} (h : R (l ++ closing) = .ok (x, l')) (hr : r ++ closing <:+ l') :
    ∃ l'', l' = l'' ++ closing ∧ R l = .ok (x, l'') ∧ l'' <:+ l := by
  obtain ⟨l'', rfl, -, hl⟩ := exists_append_closing hr (hR.suffix h)
  exact ⟨l'', rfl, hR.trim h, hl⟩

theorem of_eq {R S : List Char → Except Fault (α × List Char)} (hR : Trims R)
    (h : ∀ cs, S cs = R cs) : Trims S := (funext h : S = R) ▸ hR

protected theorem ok (x : α) : Trims fun cs => .ok (x, cs) := by
  constructor
  · intro cs rest y h
    simp only [Except.ok.injEq, Prod.mk.injEq] at h
    exact h.2 ▸ List.suffix_refl cs
  · intro cs rest y h
    simpa [List.append_cancel_right_eq] using h

protected theorem pure (x : α) : Trims fun cs => (Pure.pure (x, cs) : Except Fault (α × List Char)) := .ok x

protected theorem error (e : Fault) : Trims fun _ => (.error e : Except Fault (α × List Char)) :=
  ⟨nofun, nofun⟩

theorem ite (c : Bool) {R S : List Char → Except Fault (α × List Char)} (hR : Trims R)
    (hS : Trims S) : Trims fun cs => if c = true then R cs else S cs := by
  cases c
  · simpa using hS
  · simpa using hR

protected theorem bind {R : List Char → Except Fault (α × List Char)}
    {S : α → List Char → Except Fault (β × List Char)} (hR : Trims R) (hS : ∀ x, Trims (S x)) :
    Trims fun cs => R cs >>= fun (x, rest) => S x rest := by
  constructor
  · intro cs rest y h
    obtain ⟨⟨x, l⟩, hx, hy⟩ := bind_eq_ok.1 h
    exact ((hS x).suffix hy).trans (hR.suffix hx)
  · intro cs rest y h
    obtain ⟨⟨x, l⟩, hx, hy⟩ := bind_eq_ok.1 h
    obtain ⟨l', rfl, -, -⟩ := exists_append_closing ((hS x).suffix hy) (hR.suffix hx)
    exact bind_eq_ok.2 ⟨(x, l'), hR.trim hx, (hS x).trim hy⟩

theorem map {R : List Char → Except Fault (α × List Char)} (hR : Trims R) (g : α → β) :
    Trims fun cs => R cs >>= fun (x, rest) => Pure.pure (g x, rest) :=
  hR.bind fun x => .pure (g x)

/-- A computation that reads nothing, in front of a reader. -/
theorem compute {γ : Type} (x : Except Fault γ) {S : γ → List Char → Except Fault (β × List Char)}
    (hS : ∀ c, Trims (S c)) : Trims fun cs => x >>= fun c => S c cs := by
  cases x with
  | error e => exact .error e
  | ok c => exact hS c

/-- Behind its first character a reader goes on as that character says. -/
theorem head {e : Fault} {K : Char → List Char → Except Fault (α × List Char)}
    (hK : ∀ c, Trims (K c)) :
    Trims fun cs => match cs with
      | [] => .error e
      | c :: rest => K c rest := by
  constructor
  · intro cs rest x h
    cases cs with
    | nil => simp at h
    | cons c cs => exact ((hK c).suffix h).trans (List.suffix_cons c cs)
  · intro cs rest x h
    cases cs with
    | nil => exact absurd ((hK ')').suffix h) (not_append_closing_suffix (by decide))
    | cons c cs => exact (hK c).trim h

/-- A reader that goes on in one way behind a character other than `)`, and in another way where
the character does not stand. -/
theorem peek {d : Char} (hd : d ≠ ')') {R S : List Char → Except Fault (α × List Char)}
    (hR : Trims R) (hS : Trims S) :
    Trims fun cs => if cs.head? = some d then R cs.tail else S cs := by
  constructor
  · intro cs rest x h
    split at h
    · exact (hR.suffix h).trans (List.tail_suffix cs)
    · exact hS.suffix h
  · intro cs rest x h
    cases cs with
    | nil =>
      rw [if_neg (by simpa [closing] using hd.symm)] at h
      exact hS.trim h
    | cons c cs =>
      by_cases hc : c = d
      · rw [if_pos (by simp [hc])] at h ⊢
        exact hR.trim h
      · rw [if_neg (by simp [hc])] at h ⊢
        exact hS.trim h

/-- A reader that goes on in one of two ways, as a character other than `)` stands there or not. -/
theorem test {d : Char} (hd : d ≠ ')') {R S : List Char → Except Fault (α × List Char)}
    (hR : Trims R) (hS : Trims S) :
    Trims fun cs => if cs.head? = some d then R cs else S cs := by
  constructor
  · intro cs rest x h
    split at h
    · exact hR.suffix h
    · exact hS.suffix h
  · intro cs rest x h
    simp only [head?_append_closing hd] at h
    split at h
    · rename_i hif
      simp only [if_pos hif]
      exact hR.trim h
    · rename_i hif
      simp only [if_neg hif]
      exact hS.trim h

/-- What stands before the end of a run of characters that `closing` cannot end, and the rest
behind that end. -/
theorem upTo {e : Fault} {p : Char → Bool} (hp : closing.dropWhile p = [])
    (g : List Char → Except Fault α) :
    Trims fun cs => match cs.dropWhile p with
      | [] => .error e
      | _ :: after => g (cs.takeWhile p) >>= fun x => pure (x, after) := by
  constructor
  · intro cs rest x h
    split at h
    · simp at h
    · rename_i c after hd
      obtain ⟨y, -, h⟩ := bind_eq_ok.1 h
      obtain ⟨rfl, rfl⟩ := Prod.mk.inj (pure_eq_ok.1 h)
      exact (List.suffix_cons c _).trans (hd ▸ List.dropWhile_suffix p)
  · intro cs rest x h
    split at h
    · simp at h
    · rename_i c after hd
      obtain ⟨y, hy, h⟩ := bind_eq_ok.1 h
      obtain ⟨rfl, rfl⟩ := Prod.mk.inj (pure_eq_ok.1 h)
      obtain ⟨ht, l', hl, hd'⟩ := dropWhile_append_closing (by simp [hp]) hd
      obtain rfl := List.append_cancel_right hl
      rw [hd']
      exact bind_eq_ok.2 ⟨y, ht ▸ hy, rfl⟩

/-- A fixed number of characters, read as a whole. -/
theorem fixed {e : Fault} {n : Nat} (g : List Char → Except Fault α) :
    Trims fun cs => if cs.length < n then .error e
      else g (cs.take n) >>= fun x => pure (x, cs.drop n) := by
  constructor
  · intro cs rest x h
    split at h
    · simp at h
    · obtain ⟨y, -, h⟩ := bind_eq_ok.1 h
      obtain ⟨rfl, rfl⟩ := Prod.mk.inj (pure_eq_ok.1 h)
      exact List.drop_suffix n cs
  · intro cs rest x h
    split at h
    · simp at h
    · rename_i hlen
      obtain ⟨y, hy, h⟩ := bind_eq_ok.1 h
      obtain ⟨rfl, hd⟩ := Prod.mk.inj (pure_eq_ok.1 h)
      -- what is left holds all of `closing`, so the characters were taken before it
      have hle : n ≤ cs.length := by
        have := congrArg List.length hd
        simp only [List.length_drop, List.length_append] at this hlen
        omega
      rw [List.take_append_of_le_length hle] at hy
      rw [List.drop_append_of_le_length hle] at hd
      obtain rfl := List.append_cancel_right hd
      rw [if_neg (by omega)]
      exact bind_eq_ok.2 ⟨y, hy, rfl⟩

end Trims

/-! ## Gaps -/

theorem dropSpace_suffix (cs : List Char) : ∀ (inComment : Bool), dropSpace inComment cs <:+ cs := by
  induction cs with
  | nil => intro b; simp [dropSpace]
  | cons c cs ih =>
    intro b
    unfold dropSpace
    split
    · exact (ih _).trans (List.suffix_cons c cs)
    · split
      · exact (ih _).trans (List.suffix_cons c cs)
      · split
        · exact (ih _).trans (List.suffix_cons c cs)
        · exact List.suffix_refl _

/-- A comment that is not ended swallows all that follows; else what follows does not matter. -/
theorem dropSpace_append_closing (cs : List Char) : ∀ (inComment : Bool),
    dropSpace inComment (cs ++ closing) = dropSpace inComment cs ++ closing ∨
      dropSpace inComment (cs ++ closing) = [] ∧ dropSpace inComment cs = [] := by
  induction cs with
  | nil => intro b; cases b <;> decide
  | cons c cs ih =>
    intro b
    simp only [List.cons_append]
    unfold dropSpace
    split
    · exact ih _
    · split
      · exact ih _
      · split
        · exact ih _
        · exact .inl rfl

theorem Flags.skip_suffix (f : Flags) (cs : List Char) : f.skip cs <:+ cs := by
  unfold Flags.skip
  split
  · exact dropSpace_suffix cs false
  · exact List.suffix_refl cs

theorem Flags.skip_append_closing (f : Flags) (cs : List Char) :
    f.skip (cs ++ closing) = f.skip cs ++ closing ∨
      f.skip (cs ++ closing) = [] ∧ f.skip cs = [] := by
  unfold Flags.skip
  split
  · exact dropSpace_append_closing cs false
  · exact .inl rfl

theorem Flags.skip_trim (f : Flags) {cs rest : List Char}
    (h : f.skip (cs ++ closing) = rest ++ closing) : f.skip cs = rest := by
  rcases f.skip_append_closing cs with hs | ⟨hs, _⟩
  · exact List.append_cancel_right (hs.symm.trans h)
  · exact absurd (hs ▸ h) (by simp [closing])

theorem Trims.skip {α : Type} (f : Flags) {R : List Char → Except Fault (α × List Char)}
    (hR : Trims R) : Trims fun cs => R (f.skip cs) := by
  constructor
  · intro cs rest x h
    exact (hR.suffix h).trans (f.skip_suffix cs)
  · intro cs rest x h
    obtain ⟨l', hl, -, -⟩ := exists_append_closing (hR.suffix h) (f.skip_suffix _)
    rw [hl] at h
    simp only [f.skip_trim hl]
    exact hR.trim h

/-! ## Escapes -/

theorem readHex_trims (count : Nat) : Trims (readHex count) := by
  refine .of_eq (.peek (d := '\x7b') (by decide)
    (.upTo (e := .badEscape) (p := (· != '\x7d')) (by decide) hexChar)
    (.fixed (e := .badEscape) (n := count) hexChar)) fun cs => ?_
  unfold readHex
  cases cs with
  | nil => rfl
  | cons c cs =>
    by_cases hc : c = '\x7b'
    · subst hc; rfl
    · simp [hc]

theorem readProperty_trims (f : Flags) : Trims (readProperty f) := by
  refine .skip f (.head fun c => ?_)
  unfold readPropertyName
  refine .ite _ (.upTo (by decide) (propertySet f)) (.ite _ (.error _) (.ite _ (.error _) ?_))
  cases categorySet? (looseName [c]) with
  | none => exact .error _
  | some s => exact .ok _

/-- The name of a condition, once it is known that there is one. -/
theorem readBoundary_name_trims (f : Flags) : Trims fun (rest : List Char) =>
    match rest.dropWhile isBoundaryChar with
    | '\x7d' :: after =>
      f.boundary (String.ofList (rest.takeWhile isBoundaryChar)) >>= fun l => pure (l, after)
    | _ => .error .badEscape := by
  constructor
  · intro cs rest x h
    split at h
    · rename_i after hd
      obtain ⟨l, -, h⟩ := bind_eq_ok.1 h
      obtain ⟨rfl, rfl⟩ := Prod.mk.inj (pure_eq_ok.1 h)
      exact (List.suffix_cons _ _).trans (hd ▸ List.dropWhile_suffix _)
    · simp at h
  · intro cs rest x h
    split at h
    · rename_i after hd
      obtain ⟨l, hl, h⟩ := bind_eq_ok.1 h
      obtain ⟨rfl, rfl⟩ := Prod.mk.inj (pure_eq_ok.1 h)
      obtain ⟨ht, after, ha, hd'⟩ := dropWhile_append_closing (by decide) hd
      obtain rfl := List.append_cancel_right ha
      rw [hd']
      exact bind_eq_ok.2 ⟨l, ht ▸ hl, rfl⟩
    · simp at h

theorem readBoundary_trims (f : Flags) : Trims (readBoundary f) := by
  have hn := readBoundary_name_trims f
  have hplain := Trims.ok (Look.wordBoundary f.words)
  constructor
  · intro cs rest x h
    unfold readBoundary at h
    split at h
    · split at h
      · exact (hn.suffix h).trans (List.suffix_cons _ _)
      · exact hplain.suffix h
    · exact hplain.suffix h
  · intro cs rest x h
    cases cs with
    | nil => exact hplain.trim h
    | cons c cs =>
      by_cases hc : c = '\x7b'
      · subst hc
        unfold readBoundary at h ⊢
        simp only [List.cons_append] at h ⊢
        -- behind the brace the first character of `closing` and no character are alike
        have hp : ((cs ++ closing).head?.map isBoundaryChar).getD false =
            (cs.head?.map isBoundaryChar).getD false := by
          cases cs with
          | nil => decide
          | cons d cs => rfl
        rw [hp] at h
        split at h
        · rename_i hif
          rw [if_pos hif]
          exact hn.trim h
        · rename_i hif
          rw [if_neg hif]
          exact hplain.trim (l := '\x7b' :: cs) h
      · have hr : ∀ l, readBoundary f (c :: l) = .ok (.wordBoundary f.words, c :: l) := fun l => by
          simp [readBoundary, hc]
        rw [List.cons_append, hr] at h
        rw [hr]
        exact hplain.trim (l := c :: cs) h

/-- The code of a character, in digits that may not stand for a byte. -/
theorem readEscape_hex_trims (f : Flags) (c : Char) {n : Nat} (hn : 0 < n) :
    Trims fun (rest : List Char) => readHex n (f.skip rest) >>= fun (code, rest') =>
      if c == 'x' && (f.skip rest).head? != some '\x7b' && !f.unicode && 0x80 ≤ code.toNat then
        throw .notText
      else pure (Atom.char code, rest') := by
  have hh := readHex_trims n
  constructor
  · intro cs rest x h
    obtain ⟨⟨code, l⟩, hl, h⟩ := bind_eq_ok.1 h
    simp only at h
    split at h
    · simp at h
    · obtain ⟨rfl, rfl⟩ := Prod.mk.inj (pure_eq_ok.1 h)
      exact (hh.suffix hl).trans (f.skip_suffix cs)
  · intro cs rest x h
    obtain ⟨⟨code, l⟩, hl, h⟩ := bind_eq_ok.1 h
    simp only at h
    split at h
    · simp at h
    · rename_i hif
      obtain ⟨rfl, rfl⟩ := Prod.mk.inj (pure_eq_ok.1 h)
      obtain ⟨ds, hds, -, -⟩ := exists_append_closing (hh.suffix hl) (f.skip_suffix _)
      rw [hds] at hl hif
      have hl := hh.trim hl
      -- there are digits, and the first of them is the same with and without `closing`
      have hhead : (ds ++ closing).head? = ds.head? := by
        cases ds with
        | nil => simp [readHex, hn] at hl
        | cons d ds => rfl
      rw [hhead] at hif
      simp only [f.skip_trim hds]
      exact bind_eq_ok.2 ⟨_, hl, by simp only [if_neg hif]; rfl⟩

theorem readEscape_trims (f : Flags) : Trims (readEscape f) := by
  unfold readEscape
  apply Trims.head
  intro c
  refine .ite _ (.error _) (.ite _ ?_ (.ite _ ?_ (.ite _ ?_ (.ite _ (.ok _) ?_))))
  · refine readEscape_hex_trims f c ?_
    split
    · decide
    · split <;> decide
  · exact (readProperty_trims f).map fun s => Atom.set (if c == 'P' then s.complement else s)
  · exact .compute _ fun s => .pure _
  · have hb := (readBoundary_trims f).map Atom.look
    repeat' first
      | exact .ok _
      | exact .error _
      | exact hb
      | refine .ite _ ?_ ?_

end RequestDispatch.Regex
