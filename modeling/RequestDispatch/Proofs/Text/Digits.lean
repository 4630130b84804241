import Mathlib.Data.List.Forall2
import Mathlib.Data.Nat.Digits.Defs
import RequestDispatch.Proofs.Text.Case
import RequestDispatch.Text.Blank
import RequestDispatch.Text.Digits

/-!
# Numerals

A numeral is a row of digits, and its number is the sum of their values at their places.

* `number?_eq_some_iff`: just the numerals are read, each as its number.
* `signedNumber?_eq_some_iff`: the same with a `+` that may stand before the digits.
* `numeral_toDigits`, `Numeral.upper`: every number has a numeral, in small letters and in capitals.
* `toString_inj`: a number is told by its text, which has digits only (`isDigit_of_mem_toString`).
-/

set_option autoImplicit false

namespace RequestDispatch.Text

/-- A character is the digit of a value below the base, which is its place in the row of digits; the
case of letters does not count. -/
def Digit (base : Nat) (c : Char) (v : Nat) : Prop :=
  "0123456789abcdef".toList.idxOf? c.toLower = some v ∧ v < base

/-- Digits spell a number; there is at least one. -/
structure Numeral (base : Nat) (digits : List Char) (n : Nat) : Prop where
  ne_nil : digits ≠ []
  value : ∃ values, List.Forall₂ (Digit base) digits values ∧ n = Nat.ofDigits base values.reverse

/-! ## Digits -/

theorem idxOf?_eq_none {c : Char} (h : 128 ≤ c.toNat) :
    "0123456789abcdef".toList.idxOf? c.toLower = none := by
  have hascii : ("0123456789abcdef".toList.all fun d => d.toNat < 128) = true := by decide +kernel
  rw [toLower_of_le h, List.idxOf?_eq_none_iff]
  intro hmem
  exact Nat.not_lt.2 h (of_decide_eq_true (List.all_eq_true.1 hascii c hmem))

theorem hexValue?_eq : ∀ c : Char,
    hexValue? c = "0123456789abcdef".toList.idxOf? c.toLower := by
  refine ascii_induction (by decide +kernel) fun c h => ?_
  have hle : ∀ d : Char, d.toNat < 128 → ¬ c ≤ d := by
    intro d hd hcd
    have hcd : c.toNat ≤ d.toNat := UInt32.le_iff_toNat_le.1 hcd
    omega
  rw [idxOf?_eq_none h, hexValue?]
  simp [hle '9' (by decide), hle 'f' (by decide), hle 'F' (by decide)]

theorem hexValue?_eq_some_iff {c : Char} {base v : Nat} :
    (hexValue? c = some v ∧ v < base) ↔ Digit base c v := by
  rw [Digit, hexValue?_eq]

theorem Digit.ne_plus {base v : Nat} : ¬ Digit base '+' v := by
  rintro ⟨h, -⟩
  have hnone : "0123456789abcdef".toList.idxOf? '+'.toLower = none := by decide +kernel
  rw [hnone] at h
  cases h

theorem Digit.not_blank {base v : Nat} {c : Char} (h : Digit base c v) : isBlank c = false := by
  have hblank : ∀ c : Char, isBlank c = true → "0123456789abcdef".toList.idxOf? c.toLower = none :=
    ascii_induction (by decide +kernel) fun c hc _ => idxOf?_eq_none hc
  rw [← Bool.not_eq_true]
  intro hc
  rw [Digit, hblank c hc] at h
  cases h.1

theorem Numeral.not_blank {base n : Nat} {digits : List Char} (h : Numeral base digits n) :
    ∀ c ∈ digits, isBlank c = false := by
  obtain ⟨values, hvalues, -⟩ := h.value
  have hboth : List.Forall₂ (fun c v => isBlank c = false ∧ Digit base c v) digits values :=
    hvalues.imp fun _ _ hv => ⟨hv.not_blank, hv⟩
  exact ((List.forall₂_and_left digits values).1 hboth).1

/-! ## Reading digits -/

/-- The number of digits that have one more behind them. -/
def addDigit (base : Nat) (n : Option Nat) (c : Char) : Option Nat := do
  let n ← n
  let d ← hexValue? c
  if d < base then some (n * base + d) else none

theorem number?_eq (base : Nat) (cs : List Char) :
    number? base cs = if cs.isEmpty then none else cs.foldl (addDigit base) (some 0) := rfl

theorem addDigit_eq_some_iff {base n k : Nat} {c : Char} :
    addDigit base (some n) c = some k ↔ ∃ v, Digit base c v ∧ k = n * base + v := by
  have hadd : addDigit base (some n) c =
      (hexValue? c).bind fun v => if v < base then some (n * base + v) else none := rfl
  simp only [hadd, Option.bind_eq_some_iff, ← hexValue?_eq_some_iff, and_assoc]
  refine exists_congr fun v => and_congr_right fun _ => ?_
  split <;> simp [*, eq_comm]

theorem foldl_addDigit_none (base : Nat) (cs : List Char) : cs.foldl (addDigit base) none = none := by
  induction cs with
  | nil => rfl
  | cons c cs ih => exact ih

theorem foldl_addDigit_eq_some_iff {base k n : Nat} {cs : List Char} :
    cs.foldl (addDigit base) (some k) = some n ↔
      ∃ values, List.Forall₂ (Digit base) cs values ∧
        n = k * base ^ values.length + Nat.ofDigits base values.reverse := by
  induction cs generalizing k with
  | nil => simp [eq_comm]
  | cons c cs ih =>
    have hplace : ∀ (v : Nat) (values : List Nat),
        k * base ^ (v :: values).length + Nat.ofDigits base (v :: values).reverse =
          (k * base + v) * base ^ values.length + Nat.ofDigits base values.reverse := by
      intro v values
      rw [List.reverse_cons, Nat.ofDigits_append, Nat.ofDigits_singleton, List.length_reverse,
        List.length_cons]
      ring
    rw [List.foldl_cons]
    constructor
    · intro h
      cases hc : addDigit base (some k) c with
      | none => rw [hc, foldl_addDigit_none] at h; cases h
      | some m =>
        obtain ⟨v, hv, rfl⟩ := addDigit_eq_some_iff.1 hc
        obtain ⟨values, hvalues, rfl⟩ := ih.1 (hc ▸ h)
        exact ⟨v :: values, .cons hv hvalues, (hplace v values).symm⟩
    · rintro ⟨_, hall, rfl⟩
      obtain ⟨v, values, hv, hvalues, rfl⟩ := List.forall₂_cons_left_iff.1 hall
      rw [addDigit_eq_some_iff.2 ⟨v, hv, rfl⟩, ih]
      exact ⟨values, hvalues, hplace v values⟩

theorem number?_eq_some_iff {base n : Nat} {cs : List Char} :
    number? base cs = some n ↔ Numeral base cs n := by
  rw [number?_eq]
  cases cs with
  | nil => exact iff_of_false (fun h => by cases h) fun h => h.ne_nil rfl
  | cons c cs =>
    rw [List.isEmpty_cons, if_neg Bool.false_ne_true, foldl_addDigit_eq_some_iff]
    simp only [Nat.zero_mul, Nat.zero_add]
    exact ⟨fun h => ⟨List.cons_ne_nil c cs, h⟩, fun h => h.value⟩

theorem signedNumber?_eq_some_iff {base n : Nat} {cs : List Char} :
    signedNumber? base cs = some n ↔
      ∃ plus digits, cs = plus ++ digits ∧ (plus = [] ∨ plus = ['+']) ∧ Numeral base digits n := by
  unfold signedNumber?
  split
  · rename_i digits
    rw [number?_eq_some_iff]
    constructor
    · exact fun h => ⟨['+'], digits, rfl, .inr rfl, h⟩
    · rintro ⟨plus, ds, hds, rfl | rfl, h⟩
      · obtain ⟨values, hvalues, -⟩ := h.value
        rw [List.nil_append] at hds
        rw [← hds] at hvalues
        obtain ⟨_, _, hv, -⟩ := List.forall₂_cons_left_iff.1 hvalues
        exact absurd hv Digit.ne_plus
      · cases hds
        exact h
  · rename_i hplus
    rw [number?_eq_some_iff]
    constructor
    · exact fun h => ⟨[], cs, rfl, .inl rfl, h⟩
    · rintro ⟨plus, ds, rfl, rfl | rfl, h⟩
      · exact h
      · exact absurd rfl (hplus ds)

/-! ## Writing digits -/

theorem digit_digitChar {base v : Nat} (hbase : base ≤ 16) (hv : v < base) :
    Digit base v.digitChar v := by
  have hrow : ∀ v < 16, "0123456789abcdef".toList.idxOf? v.digitChar.toLower = some v := by
    decide +kernel
  exact ⟨hrow v (hv.trans_le hbase), hv⟩

theorem Digit.toUpper {base v : Nat} {c : Char} (h : Digit base c v) : Digit base c.toUpper v := by
  rwa [Digit, toLower_toUpper]

theorem numeral_singleton {base v : Nat} {c : Char} (h : Digit base c v) : Numeral base [c] v :=
  ⟨List.cons_ne_nil c [], [v], .cons h .nil, by simp⟩

theorem Numeral.snoc {base n v : Nat} {digits : List Char} {c : Char} (hn : Numeral base digits n)
    (hv : Digit base c v) : Numeral base (digits ++ [c]) (base * n + v) := by
  obtain ⟨values, hvalues, rfl⟩ := hn.value
  refine ⟨by simp, values ++ [v], List.rel_append hvalues (.cons hv .nil), ?_⟩
  simp [Nat.ofDigits_cons, Nat.add_comm]

theorem numeral_toDigits {base : Nat} (hone : 1 < base) (hbase : base ≤ 16) (n : Nat) :
    Numeral base (Nat.toDigits base n) n := by
  induction n using Nat.strongRecOn with
  | ind n ih =>
    rw [Nat.toDigits_eq_if hone]
    split
    · rename_i hn
      exact numeral_singleton (digit_digitChar hbase hn)
    · rename_i hn
      have hlast := digit_digitChar hbase (Nat.mod_lt n (Nat.zero_lt_of_lt hone))
      have hfront := ih (n / base) (Nat.div_lt_self (by omega) hone)
      have h := hfront.snoc hlast
      rwa [Nat.div_add_mod] at h

theorem Numeral.upper {base n : Nat} {digits : List Char} (h : Numeral base digits n) :
    Numeral base (digits.map Char.toUpper) n := by
  obtain ⟨values, hvalues, hn⟩ := h.value
  refine ⟨by simpa using h.ne_nil, values, ?_, hn⟩
  rw [List.forall₂_map_left_iff]
  exact hvalues.imp fun _ _ => Digit.toUpper

/-! ## The text of a number -/

theorem toList_toString (n : Nat) : (toString n).toList = Nat.toDigits 10 n := by
  rw [Nat.toString_eq_ofList_toDigits, String.toList_ofList]

theorem isDigit_of_mem_toString {n : Nat} {c : Char} (h : c ∈ (toString n).toList) :
    c.isDigit = true :=
  Nat.isDigit_of_mem_toDigits (by decide) (by decide) (toList_toString n ▸ h)

theorem not_mem_toString {c : Char} (hc : c.isDigit = false) (n : Nat) : c ∉ (toString n).toList :=
  fun hmem => by rw [isDigit_of_mem_toString hmem] at hc; cases hc

theorem not_mem_padded {c : Char} (hc : c.isDigit = false) (width n : Nat) :
    c ∉ (padded width n).toList := by
  have hzero : c ≠ '0' := fun heq => by rw [heq] at hc; cases hc
  simp only [padded, String.toList_append, String.toList_ofList, List.mem_append, List.mem_replicate,
    not_or]
  exact ⟨fun h => hzero h.2, not_mem_toString hc n⟩

theorem toString_inj {m n : Nat} (h : (toString m).toList = (toString n).toList) : m = n := by
  rw [toList_toString, toList_toString] at h
  have hvalue := congrArg (fun digits => Nat.ofDigitChars 10 digits 0) h
  rwa [Nat.ofDigitChars_ten_toDigits, Nat.ofDigitChars_ten_toDigits] at hvalue

end RequestDispatch.Text
