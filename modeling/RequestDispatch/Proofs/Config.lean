import RequestDispatch.Config
import RequestDispatch.Proofs.Text.Blank
import RequestDispatch.Proofs.Text.Digits

/-!
# How sizes are written

`Spelling` is the form of a size and `Spells` the same with blanks around it. A text is read as a
size exactly if it spells one below `2 ^ 64` (`parseSize_spells`): a larger number is no size, and it
is not cut to fit.

The limit is looked at after the number is read (`parseSize_eq`), so the form is dealt with first and
for numbers of any size (`sizeOf?_eq_some_iff`). No character of a spelling is blank, which is why
trimming leaves just the spelling (`sizeOf?_trim_eq_some_iff`).
-/

set_option autoImplicit false

namespace RequestDispatch.Config

open Text (Digit Numeral isBlank trimBy)

/-- How a number is written: in decimal, or in hexadecimal after `0x` or `0X`. A `+` may stand before
the digits. -/
inductive Spelling : List Char → Nat → Prop where
  | decimal {plus digits : List Char} {n : Nat} (hplus : plus = [] ∨ plus = ['+'])
      (hdigits : Numeral 10 digits n) : Spelling (plus ++ digits) n
  | hexadecimal {mark plus digits : List Char} {n : Nat}
      (hmark : mark = ['0', 'x'] ∨ mark = ['0', 'X']) (hplus : plus = [] ∨ plus = ['+'])
      (hdigits : Numeral 16 digits n) : Spelling (mark ++ plus ++ digits) n

/-- The text is a spelling of the number between blanks. -/
def Spells (s : String) (n : Nat) : Prop :=
  ∃ before core after, s.toList = before ++ core ++ after ∧
    (∀ c ∈ before, isBlank c = true) ∧ (∀ c ∈ after, isBlank c = true) ∧ Spelling core n

/-- The shortest spellings of a number: in decimal, and in hexadecimal with either mark and with
small or capital letters. -/
def spellings (n : Nat) : List String :=
  let digits := Nat.toDigits 16 n
  let capitals := digits.map Char.toUpper
  [toString n, "0x" ++ String.ofList digits, "0X" ++ String.ofList digits,
    "0x" ++ String.ofList capitals, "0X" ++ String.ofList capitals]

/-! ## Numbers of any size -/

/-- The number that a text without blanks around it spells. -/
def sizeOf? : List Char → Option Nat
  | '0' :: 'x' :: rest => Text.signedNumber? 16 rest
  | '0' :: 'X' :: rest => Text.signedNumber? 16 rest
  | cs => Text.signedNumber? 10 cs

theorem parseSize_eq (s : String) :
    parseSize s = (sizeOf? (Text.trim s).toList).filter (· < UInt64.size) := by
  unfold parseSize
  generalize (Text.trim s).toList = cs
  rfl

/-- A decimal number is not taken for one with a mark: the letter of a mark is no decimal digit. -/
theorem sizeOf?_of_decimal {cs : List Char} {n : Nat} (h : Text.signedNumber? 10 cs = some n) :
    sizeOf? cs = some n := by
  have hmark : ∀ rest, Text.signedNumber? 10 ('0' :: 'x' :: rest) = none ∧
      Text.signedNumber? 10 ('0' :: 'X' :: rest) = none := fun rest =>
    ⟨Text.foldl_addDigit_none 10 rest, Text.foldl_addDigit_none 10 rest⟩
  unfold sizeOf?
  split
  · rw [(hmark _).1] at h
    cases h
  · rw [(hmark _).2] at h
    cases h
  · exact h

theorem sizeOf?_eq_some_iff {cs : List Char} {n : Nat} : sizeOf? cs = some n ↔ Spelling cs n := by
  constructor
  · intro h
    unfold sizeOf? at h
    split at h
    · obtain ⟨plus, digits, rfl, hplus, hdigits⟩ := Text.signedNumber?_eq_some_iff.1 h
      exact .hexadecimal (.inl rfl) hplus hdigits
    · obtain ⟨plus, digits, rfl, hplus, hdigits⟩ := Text.signedNumber?_eq_some_iff.1 h
      exact .hexadecimal (.inr rfl) hplus hdigits
    · obtain ⟨plus, digits, rfl, hplus, hdigits⟩ := Text.signedNumber?_eq_some_iff.1 h
      exact .decimal hplus hdigits
  · intro h
    cases h with
    | decimal hplus hdigits =>
      exact sizeOf?_of_decimal (Text.signedNumber?_eq_some_iff.2 ⟨_, _, rfl, hplus, hdigits⟩)
    | hexadecimal hmark hplus hdigits =>
      have hread := Text.signedNumber?_eq_some_iff.2 ⟨_, _, rfl, hplus, hdigits⟩
      obtain rfl | rfl := hmark
      · exact hread
      · exact hread

/-! ## Blanks -/

theorem Spelling.not_blank {cs : List Char} {n : Nat} (h : Spelling cs n) :
    ∀ c ∈ cs, isBlank c = false := by
  have hplus : ∀ plus : List Char, plus = [] ∨ plus = ['+'] → ∀ c ∈ plus, isBlank c = false := by
    rintro _ (rfl | rfl) <;> simp [isBlank]
  have hmark : ∀ mark : List Char, mark = ['0', 'x'] ∨ mark = ['0', 'X'] →
      ∀ c ∈ mark, isBlank c = false := by
    rintro _ (rfl | rfl) <;> simp [isBlank]
  intro c hc
  cases h with
  | decimal hp hdigits =>
    exact (List.mem_append.1 hc).elim (hplus _ hp c) (hdigits.not_blank c)
  | hexadecimal hm hp hdigits =>
    obtain hc | hc := List.mem_append.1 hc
    · exact (List.mem_append.1 hc).elim (hmark _ hm c) (hplus _ hp c)
    · exact hdigits.not_blank c hc

theorem sizeOf?_trim_eq_some_iff {s : String} {n : Nat} :
    sizeOf? (Text.trim s).toList = some n ↔ Spells s n := by
  rw [Text.trim, String.toList_ofList, sizeOf?_eq_some_iff]
  constructor
  · intro h
    obtain ⟨before, after, hs, hbefore, hafter⟩ := Text.exists_trimBy isBlank s.toList
    exact ⟨before, trimBy isBlank s.toList, after, hs, hbefore, hafter, h⟩
  · rintro ⟨before, core, after, hs, hbefore, hafter, h⟩
    rw [hs, Text.trimBy_append hbefore hafter]
    · exact h
    · exact fun c hc => h.not_blank c (List.mem_of_mem_head? hc)
    · exact fun c hc => h.not_blank c (List.mem_of_mem_getLast? hc)

theorem Spelling.spells {cs : List Char} {n : Nat} (h : Spelling cs n) :
    Spells (String.ofList cs) n :=
  ⟨[], cs, [], by simp, by simp, by simp, h⟩

theorem spells_of_mem_spellings {n : Nat} {t : String} (ht : t ∈ spellings n) : Spells t n := by
  have hdecimal : Spells (toString n) n := by
    rw [Nat.toString_eq_ofList_toDigits]
    exact (Spelling.decimal (.inl rfl) (Text.numeral_toDigits (by decide) (by decide) n)).spells
  have hhex : ∀ mark : List Char, mark = ['0', 'x'] ∨ mark = ['0', 'X'] →
      ∀ digits, Numeral 16 digits n → Spells (String.ofList mark ++ String.ofList digits) n := by
    intro mark hmark digits hdigits
    rw [← String.ofList_append]
    simpa using (Spelling.hexadecimal hmark (.inl rfl) hdigits).spells
  have hsmall : Numeral 16 (Nat.toDigits 16 n) n :=
    Text.numeral_toDigits (by decide) (by decide) n
  simp only [spellings, List.mem_cons, List.not_mem_nil, or_false] at ht
  obtain rfl | rfl | rfl | rfl | rfl := ht
  · exact hdecimal
  · exact hhex _ (.inl rfl) _ hsmall
  · exact hhex _ (.inr rfl) _ hsmall
  · exact hhex _ (.inl rfl) _ hsmall.upper
  · exact hhex _ (.inr rfl) _ hsmall.upper

/-! ## Sizes -/

theorem parseSize_eq_some_iff {s : String} {n : Nat} :
    parseSize s = some n ↔ Spells s n ∧ n < UInt64.size := by
  rw [parseSize_eq, Option.filter_eq_some_iff, sizeOf?_trim_eq_some_iff, decide_eq_true_iff]

/-- A text is read as a size exactly if it spells it and the size is below the limit; what spells a
larger number is refused; and every size below the limit is read from its shortest spellings. -/
theorem parseSize_spells (s : String) (n : Nat) :
    (parseSize s = some n ↔ Spells s n ∧ n < 2 ^ 64) ∧
      (Spells s n → 2 ^ 64 ≤ n → parseSize s = none) ∧
      (n < 2 ^ 64 → ∀ t ∈ spellings n, parseSize t = some n) := by
  refine ⟨parseSize_eq_some_iff, fun h hn => ?_, fun hn t ht => ?_⟩
  · rw [parseSize_eq, sizeOf?_trim_eq_some_iff.2 h, Option.filter_some, if_neg]
    simpa using hn
  · exact parseSize_eq_some_iff.2 ⟨spells_of_mem_spellings ht, hn⟩

/-- The greatest size, the number after it, and a small size in one of its longer spellings. -/
theorem parseSize_spells_limit :
    (Spells " 0X+fF\t" 255 ∧ parseSize " 0X+fF\t" = some 255) ∧
      (Spells "18446744073709551616" (2 ^ 64) ∧ parseSize "18446744073709551616" = none) ∧
      ∀ t ∈ spellings (2 ^ 64 - 1), parseSize t = some (2 ^ 64 - 1) := by
  have hdigits : Numeral 16 ['f', 'F'] 255 := Text.number?_eq_some_iff.1 (by decide +kernel)
  have hbetween : Spells " 0X+fF\t" 255 :=
    ⟨[' '], "0X+fF".toList, ['\t'], by decide, by simp [isBlank], by simp [isBlank],
      .hexadecimal (.inr rfl) (.inr rfl) hdigits⟩
  have hlarge : Spells "18446744073709551616" (2 ^ 64) :=
    spells_of_mem_spellings (by decide +kernel)
  exact ⟨⟨hbetween, (parseSize_spells " 0X+fF\t" 255).1.2 ⟨hbetween, by decide⟩⟩,
    ⟨hlarge, (parseSize_spells "18446744073709551616" (2 ^ 64)).2.1 hlarge le_rfl⟩,
    (parseSize_spells "" (2 ^ 64 - 1)).2.2 (by decide)⟩

end RequestDispatch.Config
