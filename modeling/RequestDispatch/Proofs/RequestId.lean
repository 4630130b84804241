import Mathlib.Algebra.Group.Nat.Defs
import RequestDispatch.Proofs.Outcome
import RequestDispatch.Proofs.Text.Case
import RequestDispatch.Proofs.Text.Utf8
import RequestDispatch.RequestId

/-!
# Request ids are read back

* `readDigits_lowDigits`: reading digits, the lowest one last, adds their number below what was
  read before.
* `parse_text`: the text of an id is read as that id.
* `readDigits_ok`: digits that are read, in capitals, are the digits of a number, and the id is what
  128 bits hold of it.
* `text_of_parse`: so the id of a text is written as the text in capitals, but for the first digit,
  of which three bits are left.
-/

set_option autoImplicit false

namespace RequestDispatch.RequestId

theorem digitValue?_digit : ∀ n < 32, digitValue? (digit n) = some n := by decide

theorem digit_ascii : ∀ n < 32, (digit n).toNat < 128 := by decide

theorem mem_lowDigits {count n : Nat} {c : Char} (h : c ∈ lowDigits count n) :
    ∃ v < 32, c = digit v := by
  induction count generalizing n with
  | zero => simp [lowDigits] at h
  | succ count ih =>
    obtain rfl | h := List.mem_cons.1 h
    · exact ⟨n % 32, Nat.mod_lt n (by decide), rfl⟩
    · exact ih h

theorem length_lowDigits (count n : Nat) : (lowDigits count n).length = count := by
  induction count generalizing n with
  | zero => rfl
  | succ count ih => rw [lowDigits, List.length_cons, ih]

/-- One more digit below a number. -/
theorem ofNat_digit (x : Nat) {v : Nat} (h : v < 32) :
    BitVec.ofNat 128 x <<< 5 ||| BitVec.ofNat 128 v = BitVec.ofNat 128 (x * 32 + v) := by
  have hshift : BitVec.ofNat 128 x <<< 5 = BitVec.ofNat 128 (x <<< 5) := by
    apply BitVec.eq_of_toNat_eq
    simp only [BitVec.toNat_shiftLeft, BitVec.toNat_ofNat, Nat.shiftLeft_eq, Nat.mod_mul_mod]
  have hsum : x * 32 + v = x <<< 5 ||| v := by
    rw [← Nat.shiftLeft_add_eq_or_of_lt (i := 5) h, Nat.shiftLeft_eq]
  rw [hshift, hsum, BitVec.ofNat_or]

theorem readDigits_lowDigits (count : Nat) (acc n : Nat) (rest : List Char) :
    readDigits (BitVec.ofNat 128 acc) ((lowDigits count n).reverse ++ rest) =
      readDigits (BitVec.ofNat 128 (acc <<< (5 * count) + n % 1 <<< (5 * count))) rest := by
  induction count generalizing n rest with
  | zero => simp [lowDigits, Nat.mod_one]
  | succ count ih =>
    have hdigit : n % 32 < 32 := Nat.mod_lt n (by decide)
    have hshift : ∀ x, x <<< (5 * (count + 1)) = 32 * x <<< (5 * count) := by
      intro x
      rw [Nat.mul_succ, Nat.shiftLeft_add, Nat.shiftLeft_eq _ 5, Nat.mul_comm]
    have hvalue : (acc <<< (5 * count) + n / 32 % 1 <<< (5 * count)) * 32 + n % 32 =
        acc <<< (5 * (count + 1)) + n % 1 <<< (5 * (count + 1)) := by
      rw [hshift, hshift, Nat.mod_mul]
      omega
    rw [lowDigits, List.reverse_cons, List.append_assoc, ih, List.singleton_append, readDigits,
      digitValue?_digit _ hdigit]
    simp only [ofNat_digit _ hdigit, hvalue]

theorem parse_text (id : RequestId) : parse id.text = .ok id := by
  have hascii : ∀ c ∈ (lowDigits digitCount id.number.toNat).reverse, c.toNat < 128 := by
    intro c hc
    obtain ⟨v, hv, rfl⟩ := mem_lowDigits (List.mem_reverse.1 hc)
    exact digit_ascii v hv
  have hsize : id.text.utf8ByteSize = digitCount := by
    rw [← Text.length_encodeUtf8, text, Text.encodeUtf8_ascii hascii, List.length_map,
      List.length_reverse, length_lowDigits]
  have hread := readDigits_lowDigits digitCount 0 id.number.toNat []
  have hlt : id.number.toNat < 1 <<< (5 * digitCount) := Nat.lt_trans id.number.isLt (by decide)
  rw [List.append_nil, Nat.mod_eq_of_lt hlt, Nat.zero_shiftLeft, Nat.zero_add, BitVec.ofNat_toNat,
    BitVec.setWidth_eq] at hread
  rw [parse, if_neg (not_not_intro hsize), text, String.toList_ofList]
  exact congrArg (Except.map RequestId.mk) hread

/-! ## Texts that are read -/

theorem digit_of_digitValue? {c : Char} {v : Nat} (h : digitValue? c = some v) :
    v < 32 ∧ c.toUpper = digit v := by
  rw [digitValue?, List.idxOf?, List.findIdx?_eq_some_iff_getElem] at h
  obtain ⟨hlt, heq, -⟩ := h
  refine ⟨hlt, ?_⟩
  rw [digit, List.getD_eq_getElem?_getD, List.getElem?_eq_getElem hlt, Option.getD_some]
  exact (eq_of_beq heq).symm

theorem ascii_of_toUpper {c : Char} (h : c.toUpper.toNat < 128) : c.toNat < 128 := by
  refine Nat.lt_of_not_le fun hle => ?_
  rw [Text.toUpper_of_le hle] at h
  exact Nat.not_le.2 h hle

theorem lowDigits_succ (count n : Nat) :
    lowDigits (count + 1) n = lowDigits count n ++ [digit (n / 32 ^ count % 32)] := by
  induction count generalizing n with
  | zero => simp [lowDigits]
  | succ count ih =>
    rw [lowDigits, ih, lowDigits, Nat.div_div_eq_div_mul, Nat.pow_succ, Nat.mul_comm 32]
    rfl

/-- Digits say nothing of what lies above them. -/
theorem lowDigits_mul_add (count high n : Nat) :
    lowDigits count (high * 32 ^ count + n) = lowDigits count n := by
  induction count generalizing n with
  | zero => rfl
  | succ count ih =>
    have hpow : high * 32 ^ (count + 1) = 32 * (high * 32 ^ count) := by
      rw [Nat.pow_succ, Nat.mul_comm _ 32, Nat.mul_left_comm]
    rw [lowDigits, lowDigits, hpow, Nat.mul_add_mod, Nat.mul_add_div (by decide), ih]

/-- Digits that are read are those of a number, whose low bits go below what was read before. -/
theorem readDigits_ok {cs : List Char} {acc : Nat} {x : BitVec 128}
    (h : readDigits (BitVec.ofNat 128 acc) cs = .ok x) :
    ∃ m < 32 ^ cs.length, x = BitVec.ofNat 128 (acc * 32 ^ cs.length + m) ∧
      (lowDigits cs.length m).reverse = cs.map Char.toUpper := by
  induction cs generalizing acc with
  | nil => exact ⟨0, Nat.one_pos, by simpa [readDigits, eq_comm] using h, rfl⟩
  | cons c cs ih =>
    unfold readDigits at h
    split at h
    · cases h
    · rename_i v hv
      obtain ⟨hlt, hdigit⟩ := digit_of_digitValue? hv
      rw [ofNat_digit acc hlt] at h
      obtain ⟨m, hm, rfl, hdigits⟩ := ih h
      have hsum : v * 32 ^ cs.length + m < 32 ^ (cs.length + 1) := by
        have := Nat.mul_le_mul_right (32 ^ cs.length) (Nat.le_of_lt_succ hlt)
        rw [Nat.pow_succ]
        omega
      have htop : (v * 32 ^ cs.length + m) / 32 ^ cs.length = v := by
        rw [Nat.mul_comm, Nat.mul_add_div (Nat.pow_pos (by decide)), Nat.div_eq_of_lt hm,
          Nat.add_zero]
      refine ⟨v * 32 ^ cs.length + m, hsum, ?_, ?_⟩
      · rw [List.length_cons, Nat.pow_succ, Nat.add_mul, Nat.add_assoc]
        congr 2
        rw [Nat.mul_assoc, Nat.mul_comm 32]
      · rw [List.length_cons, lowDigits_succ, htop, lowDigits_mul_add, List.reverse_concat, hdigits,
          List.map_cons, hdigit, Nat.mod_eq_of_lt hlt]

/-- Digits are ASCII, and so is what is read as them. -/
theorem ascii_of_digitValue? {c : Char} {v : Nat} (h : digitValue? c = some v) : c.toNat < 128 := by
  obtain ⟨hlt, hdigit⟩ := digit_of_digitValue? h
  exact ascii_of_toUpper (hdigit ▸ digit_ascii v hlt)

theorem exists_digitValue?_of_readDigits {cs : List Char} {n x : BitVec 128}
    (h : readDigits n cs = .ok x) : ∀ c ∈ cs, ∃ v, digitValue? c = some v := by
  induction cs generalizing n with
  | nil => exact fun c hc => absurd hc List.not_mem_nil
  | cons d cs ih =>
    unfold readDigits at h
    split at h
    · cases h
    · rename_i v hv
      intro c hc
      rcases List.mem_cons.1 hc with rfl | hc
      · exact ⟨v, hv⟩
      · exact ih h c hc

/-- A text that is read has as many characters as an id has digits. -/
theorem length_of_parse {s : String} {id : RequestId} (h : parse s = .ok id) :
    s.toList.length = digitCount ∧ readDigits 0 s.toList = .ok id.number := by
  unfold parse at h
  split at h
  · cases h
  · rename_i hsize
    obtain ⟨n, hn, rfl⟩ := map_eq_ok.1 h
    have hascii : ∀ c ∈ s.toList, c.toNat < 128 := fun c hc =>
      have ⟨_, hv⟩ := exists_digitValue?_of_readDigits hn c hc
      ascii_of_digitValue? hv
    have hbytes := Text.encodeUtf8_ascii hascii
    rw [String.ofList_toList] at hbytes
    refine ⟨?_, hn⟩
    rw [← Classical.not_not.1 hsize, ← Text.length_encodeUtf8, hbytes, List.length_map]

/-- A text that is read as an id is printed in capitals, with the three low bits of its first digit
for the first one. -/
theorem text_of_parse {s : String} {id : RequestId} (h : parse s = .ok id) :
    ∃ c rest v, s.toList = c :: rest ∧ digitValue? c = some v ∧
      id.text = String.ofList (digit (v % 8) :: rest.map Char.toUpper) := by
  obtain ⟨hlen, hread⟩ := length_of_parse h
  obtain ⟨c, rest, hs⟩ := List.exists_cons_of_length_pos (l := s.toList) (by rw [hlen]; decide)
  obtain ⟨v, hv⟩ := exists_digitValue?_of_readDigits hread c (hs ▸ .head _)
  obtain ⟨hlt, hdigit⟩ := digit_of_digitValue? hv
  refine ⟨c, rest, v, hs, hv, ?_⟩
  have hzero : readDigits (BitVec.ofNat 128 0) s.toList = .ok id.number := hread
  obtain ⟨m, hm, hnumber, hdigits⟩ := readDigits_ok hzero
  rw [hlen] at hm hnumber hdigits
  rw [Nat.zero_mul, Nat.zero_add] at hnumber
  have htop : m / 32 ^ 25 < 32 := Nat.div_lt_of_lt_mul hm
  rw [digitCount, lowDigits_succ, List.reverse_concat, hs, List.map_cons, hdigit,
    Nat.mod_eq_of_lt htop] at hdigits
  obtain ⟨hfirst, hrest⟩ := List.cons.inj hdigits
  have hv' : m / 32 ^ 25 = v := by
    have hvalue := digitValue?_digit _ htop
    rw [hfirst, digitValue?_digit _ hlt] at hvalue
    exact (Option.some.inj hvalue).symm
  -- an id holds the lower twenty-five digits and three bits of the first
  have hmod : id.number.toNat = m % (32 ^ 25 * 8) :=
    (congrArg BitVec.toNat hnumber).trans (BitVec.toNat_ofNat m 128)
  have hlow : lowDigits 25 (m % (32 ^ 25 * 8)) = lowDigits 25 m := by
    have hsplit : 8 * (m / (32 ^ 25 * 8)) * 32 ^ 25 + m % (32 ^ 25 * 8) = m := by omega
    rw [← lowDigits_mul_add 25 (8 * (m / (32 ^ 25 * 8))), hsplit]
  have hhigh : m % (32 ^ 25 * 8) / 32 ^ 25 = v % 8 := by rw [Nat.mod_mul_right_div_self, hv']
  rw [text, hmod, digitCount, lowDigits_succ, List.reverse_concat, hlow, hhigh, hrest,
    Nat.mod_eq_of_lt (by omega)]

end RequestDispatch.RequestId
