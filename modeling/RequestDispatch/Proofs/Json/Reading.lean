import RequestDispatch.Json.Draft
import RequestDispatch.Json.Printer
import RequestDispatch.Proofs.Text.Utf8

/-!
# What is written is read back

`Json.compact` writes a value and `Document.ofBytes` reads a document.

* `readText_quote`: a text between quotes is read back, whatever characters it has.
* `readNumeral_whole`: so is a whole number, if what follows does not continue it (`EndsNumber`).
* `readValue_compactChars`: so is a `Plain` value, one without doubles whose brackets are not nested
  too deep, whatever follows it. As much fuel as the value has characters is enough.
* `ofBytes_compact`: the bytes of a plain value are a complete document without fault.
-/

set_option autoImplicit false

namespace RequestDispatch.Json

/-! ## Texts -/

theorem hexValue?_hexDigit : ∀ n < 16, Text.hexValue? (Text.hexDigit n) = some n := by decide

theorem readUnicode_control {c : Char} (h : c.toNat < 0x20) (rest : List Char) :
    readUnicode ('0' :: '0' :: Text.hexDigit (c.toNat / 16) ::
      Text.hexDigit (c.toNat % 16) :: rest) = some (c, rest) := by
  have hzero : Text.hexValue? '0' = some 0 := by decide
  have hhex : readHex4 ('0' :: '0' :: Text.hexDigit (c.toNat / 16) ::
      Text.hexDigit (c.toNat % 16) :: rest) = some (c.toNat, rest) := by
    simp only [readHex4, hzero, hexValue?_hexDigit _ (show c.toNat / 16 < 16 by omega),
      hexValue?_hexDigit _ (show c.toNat % 16 < 16 by omega), Option.bind_eq_bind, Option.bind_some]
    have hnumber : ((0 * 16 + 0) * 16 + c.toNat / 16) * 16 + c.toNat % 16 = c.toNat := by omega
    rw [hnumber]
    rfl
  have hlow : (decide (0xDC00 ≤ c.toNat) && decide (c.toNat ≤ 0xDFFF)) = false := by simp; omega
  have hhigh : (decide (0xD800 ≤ c.toNat) && decide (c.toNat ≤ 0xDBFF)) = false := by simp; omega
  simp only [readUnicode, hhex, Option.bind_eq_bind, Option.bind_some, hlow, hhigh,
    Bool.false_eq_true, if_false, Option.pure_def, Char.ofNat_toNat]

/-- A character as it is written is read as one character. -/
theorem readText_escapeChar (fuel : Nat) (c : Char) (rest acc : List Char) :
    readText (fuel + 1) (escapeChar c ++ rest) acc = readText fuel rest (c :: acc) := by
  -- an escape of two characters
  have htwo : ∀ e, e ≠ 'u' → escapeOf? e = some c →
      readText (fuel + 1) ('\\' :: e :: rest) acc = readText fuel rest (c :: acc) := by
    intro e hu he
    simp [readText, he]
  unfold escapeChar
  iterate 7
    split
    · rename_i h
      exact htwo _ (by decide) (by rw [eq_of_beq h]; rfl)
  split
  · rename_i hlt
    have hread := readUnicode_control hlt rest
    simp [readText, hread]
  · rename_i hquote hslash _ _ _ _ _ hge
    simp [readText, hquote, hslash, hge]

theorem length_escapeChar_pos (c : Char) : 0 < (escapeChar c).length := by
  unfold escapeChar
  repeat' split
  all_goals simp

theorem length_le_flatMap_escapeChar (s : List Char) :
    s.length ≤ (s.flatMap escapeChar).length := by
  induction s with
  | nil => exact Nat.le_refl _
  | cons c s ih =>
    have hc := length_escapeChar_pos c
    simp only [List.flatMap_cons, List.length_append, List.length_cons]
    omega

/-- A text is read up to the quote that ends it. -/
theorem readText_quote {fuel : Nat} (s : List Char) (h : s.length < fuel) (rest acc : List Char) :
    readText fuel (s.flatMap escapeChar ++ '"' :: rest) acc =
      some (String.ofList (acc.reverse ++ s), rest) := by
  induction s generalizing fuel acc with
  | nil =>
    obtain ⟨fuel, rfl⟩ : ∃ n, fuel = n + 1 := ⟨fuel - 1, by simp at h; omega⟩
    simp [readText]
  | cons c s ih =>
    obtain ⟨fuel, rfl⟩ : ∃ n, fuel = n + 1 := ⟨fuel - 1, by simp at h; omega⟩
    rw [List.flatMap_cons, List.append_assoc, readText_escapeChar, ih (by simpa using h)]
    simp

/-! ## Whole numbers -/

/-- No character that could continue a number. -/
def EndsNumber (rest : List Char) : Prop :=
  ∀ c ∈ rest.head?, isDigit c = false ∧ c ≠ '.' ∧ c ≠ 'e' ∧ c ≠ 'E'

theorem isDigit_of_mem_toDigits {n : Nat} {c : Char} (h : c ∈ Nat.toDigits 10 n) :
    isDigit c = true :=
  Nat.isDigit_of_mem_toDigits (by decide) (by decide) h

theorem digitsValue_toDigits (n : Nat) : digitsValue (Nat.toDigits 10 n) = n := by
  have h : digitsValue (Nat.toDigits 10 n) = Nat.ofDigitChars 10 (Nat.toDigits 10 n) 0 := by
    simp only [digitsValue, Nat.ofDigitChars_eq_foldl, Nat.mul_comm]
    rfl
  rw [h, Nat.ofDigitChars_ten_toDigits]

/-- No number of more than one digit begins with zero. -/
theorem head?_toDigits {n : Nat} (h : 10 ≤ n) : (Nat.toDigits 10 n).head? ≠ some '0' := by
  induction n using Nat.strongRecOn with
  | ind n ih =>
    rw [Nat.toDigits_of_base_le (by decide) h, List.head?_append,
      List.head?_eq_some_head Nat.toDigits_ne_nil, Option.some_or, ← List.head?_eq_some_head]
    by_cases hlt : n / 10 < 10
    · rw [Nat.toDigits_of_lt_base hlt]
      simp
      omega
    · exact ih (n / 10) (by omega) (by omega)

theorem takeWhile_digits {ds rest : List Char} (hds : ∀ c ∈ ds, isDigit c = true)
    (hrest : EndsNumber rest) :
    (ds ++ rest).takeWhile isDigit = ds ∧ (ds ++ rest).dropWhile isDigit = rest := by
  rw [List.takeWhile_append_of_pos hds, List.dropWhile_append_of_pos hds]
  cases rest with
  | nil => simp
  | cons c rest => simp [(hrest c rfl).1]

def wholeChars (negative : Bool) (n : Nat) : List Char :=
  (if negative then ['-'] else []) ++ Nat.toDigits 10 n

theorem readNumeral_whole (negative : Bool) (n : Nat) {rest : List Char} (hrest : EndsNumber rest) :
    readNumeral (wholeChars negative n ++ rest) =
      some (⟨negative, Nat.toDigits 10 n, none, none⟩, rest) := by
  obtain ⟨htake, hdrop⟩ := takeWhile_digits (fun _ => isDigit_of_mem_toDigits (n := n)) hrest
  have hempty : (Nat.toDigits 10 n).isEmpty = false :=
    List.isEmpty_eq_false_iff.2 Nat.toDigits_ne_nil
  have hzero : ((Nat.toDigits 10 n).length != 1 && (Nat.toDigits 10 n).head? == some '0') =
      false := by
    rw [Bool.and_eq_false_imp]
    intro hlen
    refine beq_eq_false_iff_ne.2 (head?_toDigits (Nat.le_of_not_lt fun hlt => ?_))
    rw [Nat.toDigits_of_lt_base hlt, List.length_singleton] at hlen
    exact absurd hlen (by decide)
  have hdash : ∀ t, Nat.toDigits 10 n ++ rest = '-' :: t → False := by
    intro t h
    obtain ⟨d, ds, hds⟩ := List.exists_cons_of_ne_nil (Nat.toDigits_ne_nil (n := n) (b := 10))
    have hd : isDigit d = true := isDigit_of_mem_toDigits (hds ▸ List.mem_cons_self)
    rw [hds] at h
    rw [(List.cons.inj h).1] at hd
    exact absurd hd (by decide)
  -- nothing that a number could go on with follows the digits
  have hpoint : ∀ t, rest = '.' :: t → False := by
    rintro t rfl
    exact (hrest '.' rfl).2.1 rfl
  have hexponent : ∀ c t, rest = c :: t → (c == 'e' || c == 'E') = false := by
    rintro c t rfl
    simp [(hrest c rfl).2.2]
  cases negative <;>
    simp only [readNumeral, wholeChars, List.cons_append, List.nil_append, htake, hdrop, hzero,
      hempty, Bool.or_self, Bool.false_eq_true, if_false, if_true] <;>
    cases rest with
    | nil => rfl
    | cons c t => simp only [hexponent c t rfl, Bool.false_eq_true, if_false]

theorem draft_whole {n : Int} (hlow : Number.minInteger ≤ n) (hhigh : n ≤ Number.maxInteger) :
    Numeral.draft ⟨decide (n < 0), Nat.toDigits 10 n.natAbs, none, none⟩ = .integer n := by
  have hsize : UInt64.size = 18446744073709551616 := rfl
  simp only [Number.minInteger, Number.maxInteger] at hlow hhigh
  unfold Numeral.draft
  simp only [digitsValue_toDigits, hsize]
  by_cases hneg : n < 0
  · have hzero : (n.natAbs == 0) = false := by simp; omega
    have hbound : ¬ 1 <<< 63 < n.natAbs := by omega
    have hvalue : -(n.natAbs : Int) = n := by omega
    simp only [hneg, hzero, hbound, hvalue, Option.isNone_none, Bool.and_self, decide_true,
      decide_false, Bool.or_self, Bool.false_eq_true, if_true, if_false]
  · have hbound : n.natAbs < 18446744073709551616 := by omega
    have hvalue : (n.natAbs : Int) = n := by omega
    simp only [hneg, hbound, hvalue, Option.isNone_none, Bool.and_self, decide_false,
      Bool.false_eq_true, if_true, if_false]

theorem toList_toString (n : Int) : (toString n).toList = wholeChars (decide (n < 0)) n.natAbs := by
  cases n with
  | ofNat n => simp [wholeChars, toString, Int.repr]
  | negSucc n => simp [wholeChars, toString, Int.repr]

theorem wholeChars_head (negative : Bool) (n : Nat) :
    ∃ c tail, wholeChars negative n = c :: tail ∧ (c = '-' ∨ isDigit c = true) := by
  obtain ⟨d, ds, hds⟩ := List.exists_cons_of_ne_nil (Nat.toDigits_ne_nil (n := n) (b := 10))
  cases negative with
  | true => exact ⟨'-', _, rfl, .inl rfl⟩
  | false =>
    have hd : isDigit d = true := isDigit_of_mem_toDigits (hds ▸ List.mem_cons_self)
    exact ⟨d, ds, by simp [wholeChars, hds], .inr hd⟩

/-! ## Values -/

mutual

/-- A value without doubles that is read as it is written: its whole numbers are in the exact range
and its brackets are at most `depth` deep. -/
def Plain : (depth : Nat) → Json → Prop
  | _, .integer n => Number.minInteger ≤ n ∧ n ≤ Number.maxInteger
  | _, .real _ => False
  | 0, .array _ => False
  | depth + 1, .array items => PlainItems depth items
  | 0, .object _ => False
  | depth + 1, .object members => PlainMembers depth members
  | _, _ => True

def PlainItems : (depth : Nat) → List Json → Prop
  | _, [] => True
  | depth, v :: rest => Plain depth v ∧ PlainItems depth rest

def PlainMembers : (depth : Nat) → List (String × Json) → Prop
  | _, [] => True
  | depth, (_, v) :: rest => Plain depth v ∧ PlainMembers depth rest

end

theorem plainItems_iff {depth : Nat} {vs : List Json} :
    PlainItems depth vs ↔ ∀ v ∈ vs, Plain depth v := by
  induction vs with
  | nil => simp [PlainItems]
  | cons v vs ih => rw [PlainItems, ih, List.forall_mem_cons]

theorem plainMembers_iff {depth : Nat} {ms : List (String × Json)} :
    PlainMembers depth ms ↔ ∀ m ∈ ms, Plain depth m.2 := by
  induction ms with
  | nil => simp [PlainMembers]
  | cons m ms ih => rw [PlainMembers, ih, List.forall_mem_cons]

theorem plain_ofTexts (depth : Nat) (m : TextMap) : Plain (depth + 1) (Json.ofTexts m) := by
  rw [Json.ofTexts, Plain, plainMembers_iff]
  intro p hp
  obtain ⟨q, -, rfl⟩ := List.mem_map.1 hp
  trivial

theorem plain_ofTextPairs (depth : Nat) (ps : List (String × String)) :
    Plain (depth + 2) (Json.ofTextPairs ps) := by
  rw [Json.ofTextPairs, Plain, plainItems_iff]
  intro v hv
  obtain ⟨p, -, rfl⟩ := List.mem_map.1 hv
  simp [Plain, PlainItems]

theorem exact_of_lt {n : Nat} (h : n < UInt64.size) :
    Number.minInteger ≤ (n : Int) ∧ (n : Int) ≤ Number.maxInteger := by
  have hsize : UInt64.size = 18446744073709551616 := rfl
  constructor
  · simp only [Number.minInteger]
    omega
  · simp only [Number.maxInteger]
    omega

theorem ofNat_eq {n : Nat} (h : n < UInt64.size) : Json.ofNat n = .integer n := by
  obtain ⟨hlow, hhigh⟩ := exact_of_lt h
  simp only [Json.ofNat, Json.ofInt, hlow, hhigh, decide_true, Bool.and_self, if_true]

theorem plain_ofNat (depth : Nat) {n : Nat} (h : n < UInt64.size) : Plain depth (Json.ofNat n) := by
  rw [ofNat_eq h]
  cases depth <;> exact exact_of_lt h

theorem skipGap_cons {c : Char} (h : isGap c = false) (cs : List Char) :
    skipGap (c :: cs) = c :: cs := by
  simp [skipGap, h]

theorem endsNumber_cons {c : Char} (h : c = ',' ∨ c = ']' ∨ c = '\x7d') (cs : List Char) :
    EndsNumber (c :: cs) := by
  rintro _ ⟨⟩
  obtain rfl | rfl | rfl := h <;> decide

/-- A number begins with none of the characters that something else begins with. -/
theorem beq_of_number {c : Char} (hc : c = '-' ∨ isDigit c = true) (d : Char)
    (hd : isDigit d = false ∧ d ≠ '-') : (c == d) = false := by
  rw [beq_eq_false_iff_ne]
  rintro rfl
  simp [hd.1, hd.2] at hc

theorem isGap_of_number {c : Char} (hc : c = '-' ∨ isDigit c = true) : isGap c = false := by
  have hother := beq_of_number hc
  simp only [isGap, hother ' ' (by decide), hother '\n' (by decide), hother '\t' (by decide),
    hother '\r' (by decide), Bool.or_false]

/-- Where a number begins, the value is that number. -/
theorem readValue_number {fuel depth : Nat} {c : Char} {tail rest : List Char} {n : Numeral}
    {i : Int} (hc : c = '-' ∨ isDigit c = true)
    (hread : readNumeral (c :: tail) = some (n, rest)) (hdraft : n.draft = .integer i) :
    readValue (fuel + 1) depth (c :: tail) = (.integer i, some rest) := by
  have hother := beq_of_number hc
  have hnumber : (c == '-' || isDigit c) = true := by simpa using hc
  simp only [readValue, skipGap_cons (isGap_of_number hc), hother 'n' (by decide),
    hother 't' (by decide), hother 'f' (by decide), hother '"' (by decide), hnumber, hread, hdraft,
    Bool.false_eq_true, if_false, if_true]

theorem compactChars_integer (n : Int) :
    compactChars (.integer n) = wholeChars (decide (n < 0)) n.natAbs := by
  rw [compactChars, toList_toString]

/-- A value does not begin with a gap, nor with a bracket that ends an array. -/
theorem compactChars_head {depth : Nat} {v : Json} (h : Plain depth v) :
    ∃ c tail, compactChars v = c :: tail ∧ isGap c = false ∧ c ≠ ']' := by
  cases v with
  | null => exact ⟨'n', _, rfl, by decide⟩
  | bool b => cases b <;> exact ⟨_, _, rfl, by decide⟩
  | integer n =>
    obtain ⟨c, tail, htail, hc⟩ := wholeChars_head (decide (n < 0)) n.natAbs
    refine ⟨c, tail, by rw [compactChars_integer, htail], isGap_of_number hc, ?_⟩
    rintro rfl
    revert hc
    decide
  | real x => simp [Plain] at h
  | text s => exact ⟨'"', _, rfl, by decide⟩
  | array items => exact ⟨'[', _, rfl, by decide⟩
  | object members => exact ⟨'\x7b', _, rfl, by decide⟩

theorem readText_closed (s : String) (rest : List Char) :
    readText ((s.toList.flatMap escapeChar ++ '"' :: rest).length + 1)
      (s.toList.flatMap escapeChar ++ '"' :: rest) [] = some (s, rest) := by
  have hlen := length_le_flatMap_escapeChar s.toList
  rw [readText_quote s.toList (by simp only [List.length_append, List.length_cons]; omega)]
  simp

theorem readValue_quote (fuel depth : Nat) (s : String) (rest : List Char) :
    readValue (fuel + 1) depth (quote s ++ rest) = (.text s, some rest) := by
  have hread := readText_closed s rest
  have hgap : isGap '"' = false := by decide
  simp only [quote, List.cons_append, List.append_assoc, List.nil_append, readValue,
    skipGap_cons hgap, hread]
  rfl

/-- Between brackets stand items, if it is not the closing bracket that comes first. -/
theorem readValue_array (fuel depth : Nat) {c : Char} (hgap : isGap c = false) (hc : c ≠ ']')
    (tail : List Char) :
    readValue (fuel + 1) (depth + 1) ('[' :: c :: tail) = readItems fuel depth (c :: tail) [] := by
  have hopen : isDigit '[' = false := by decide
  simp [readValue, skipGap_cons, hgap, hc, hopen, show isGap '[' = false from by decide]

theorem readValue_object (fuel depth : Nat) (tail : List Char) :
    readValue (fuel + 1) (depth + 1) ('\x7b' :: '"' :: tail) =
      readEntries fuel depth ('"' :: tail) [] := by
  have hopen : isDigit '\x7b' = false := by decide
  simp [readValue, skipGap_cons, hopen, show isGap '\x7b' = false from by decide,
    show isGap '"' = false from by decide]

mutual

theorem readValue_compactChars : ∀ {v : Json} {depth fuel : Nat} {rest : List Char},
    Plain depth v → (compactChars v).length ≤ fuel → EndsNumber rest →
    readValue (fuel + 1) depth (compactChars v ++ rest) = (Draft.ofJson v, some rest)
  | .null, _, _, _, _, _, _ => rfl
  | .bool true, _, _, _, _, _, _ => rfl
  | .bool false, _, _, _, _, _, _ => rfl
  | .integer n, depth, fuel, rest, h, hfuel, hrest => by
    obtain ⟨c, tail, htail, hc⟩ := wholeChars_head (decide (n < 0)) n.natAbs
    have hread := readNumeral_whole (decide (n < 0)) n.natAbs hrest
    rw [compactChars_integer, Draft.ofJson]
    rw [htail] at hread ⊢
    exact readValue_number hc hread (draft_whole h.1 h.2)
  | .real x, _, _, _, h, _, _ => by simp [Plain] at h
  | .text s, depth, fuel, rest, _, hfuel, _ => by
    rw [compactChars, readValue_quote]
    rfl
  | .array [], depth + 1, fuel, rest, _, _, _ => rfl
  | .array (v :: vs), depth + 1, fuel, rest, h, hfuel, _ => by
    have hlen : (compactChars (.array (v :: vs))).length =
        (joinWith [','] (compactItems (v :: vs))).length + 2 := by simp [compactChars]
    obtain ⟨fuel, rfl⟩ : ∃ n, fuel = n + 2 := ⟨fuel - 2, by omega⟩
    obtain ⟨c, tail, htail, hgap, hc⟩ := compactChars_head h.1
    have hread := readItems_compactItems (List.cons_ne_nil v vs) h
      (show _ ≤ fuel by omega) rest []
    obtain ⟨more, hmore⟩ : ∃ more, joinWith [','] (compactItems (v :: vs)) = c :: more := by
      cases vs <;> simp [compactItems, joinWith, htail]
    rw [hmore] at hread
    simp only [compactChars, hmore, List.cons_append, List.append_assoc, List.nil_append] at hread ⊢
    rw [readValue_array _ _ hgap hc, hread]
    rfl
  | .object [], depth + 1, fuel, rest, h, hfuel, _ => rfl
  | .object ((k, v) :: ms), depth + 1, fuel, rest, h, hfuel, _ => by
    have hlen : (compactChars (.object ((k, v) :: ms))).length =
        (joinWith [','] (compactMembers ((k, v) :: ms))).length + 2 := by simp [compactChars]
    obtain ⟨fuel, rfl⟩ : ∃ n, fuel = n + 2 := ⟨fuel - 2, by omega⟩
    have hread := readEntries_compactMembers (List.cons_ne_nil (k, v) ms) h
      (show _ ≤ fuel by omega) rest []
    obtain ⟨more, hmore⟩ :
        ∃ more, joinWith [','] (compactMembers ((k, v) :: ms)) = '"' :: more := by
      cases ms <;> simp [compactMembers, joinWith, quote]
    rw [hmore] at hread
    simp only [compactChars, hmore, List.cons_append, List.append_assoc, List.nil_append] at hread ⊢
    rw [readValue_object, hread]
    rfl

/-- Items, up to the bracket behind the last one. -/
theorem readItems_compactItems : ∀ {vs : List Json} {depth fuel : Nat}, vs ≠ [] →
    PlainItems depth vs → (joinWith [','] (compactItems vs)).length ≤ fuel →
    (rest : List Char) → (acc : List Draft) →
    readItems (fuel + 2) depth (joinWith [','] (compactItems vs) ++ ']' :: rest) acc =
      (.items (acc.reverse ++ Draft.ofItems vs) true, some rest)
  | [v], depth, fuel, _, h, hfuel, rest, acc => by
    have hread := readValue_compactChars h.1 hfuel (endsNumber_cons (.inr (.inl rfl)) rest)
    simp only [compactItems, joinWith, readItems, hread, skipGap_cons (c := ']') rfl]
    simp [Draft.ofItems]
  | v :: w :: vs, depth, fuel, _, h, hfuel, rest, acc => by
    have hlen : (joinWith [','] (compactItems (v :: w :: vs))).length =
        (compactChars v).length + 1 + (joinWith [','] (compactItems (w :: vs))).length := by
      simp [compactItems, joinWith]
      omega
    obtain ⟨fuel, rfl⟩ : ∃ n, fuel = n + 1 := ⟨fuel - 1, by omega⟩
    have hread := readValue_compactChars h.1 (show _ ≤ fuel + 1 by omega)
      (endsNumber_cons (.inl rfl) (joinWith [','] (compactItems (w :: vs)) ++ ']' :: rest))
    have hrest := readItems_compactItems (List.cons_ne_nil w vs) h.2
      (show _ ≤ fuel by omega) rest (Draft.ofJson v :: acc)
    simp only [compactItems, joinWith, List.append_assoc, List.cons_append, List.nil_append]
      at hread hrest ⊢
    rw [readItems, hread]
    simp only [skipGap_cons (c := ',') rfl, hrest]
    simp [Draft.ofItems]

/-- Members, up to the bracket behind the last one. -/
theorem readEntries_compactMembers : ∀ {ms : List (String × Json)} {depth fuel : Nat}, ms ≠ [] →
    PlainMembers depth ms → (joinWith [','] (compactMembers ms)).length ≤ fuel →
    (rest : List Char) → (acc : List (String × Draft)) →
    readEntries (fuel + 2) depth (joinWith [','] (compactMembers ms) ++ '\x7d' :: rest) acc =
      (.entries (acc.reverse ++ Draft.ofMembers ms) true, some rest)
  | [(k, v)], depth, fuel, _, h, hfuel, rest, acc => by
    have hkey := readText_closed k (':' :: (compactChars v ++ '\x7d' :: rest))
    have hlen : (joinWith [','] (compactMembers [(k, v)])).length =
        (quote k).length + 1 + (compactChars v).length := by
      simp [compactMembers, joinWith]
      omega
    have hread := readValue_compactChars h.1 (show _ ≤ fuel by omega)
      (endsNumber_cons (.inr (.inr rfl)) rest)
    simp only [compactMembers, joinWith, quote, List.append_assoc, List.cons_append,
      List.nil_append, readEntries, skipGap_cons (c := '"') rfl, hkey, skipGap_cons (c := ':') rfl,
      hread, skipGap_cons (c := '\x7d') rfl]
    simp [Draft.ofMembers]
  | (k, v) :: m :: ms, depth, fuel, _, h, hfuel, rest, acc => by
    have hlen : (joinWith [','] (compactMembers ((k, v) :: m :: ms))).length =
        (quote k).length + 1 + (compactChars v).length + 1 +
          (joinWith [','] (compactMembers (m :: ms))).length := by
      simp [compactMembers, joinWith]
      omega
    obtain ⟨fuel, rfl⟩ : ∃ n, fuel = n + 1 := ⟨fuel - 1, by omega⟩
    have hkey := readText_closed k (':' :: (compactChars v ++
      ',' :: (joinWith [','] (compactMembers (m :: ms)) ++ '\x7d' :: rest)))
    have hread := readValue_compactChars h.1 (show _ ≤ fuel + 1 by omega)
      (endsNumber_cons (.inl rfl) (joinWith [','] (compactMembers (m :: ms)) ++ '\x7d' :: rest))
    have hrest := readEntries_compactMembers (List.cons_ne_nil m ms) h.2
      (show _ ≤ fuel by omega) rest ((k, Draft.ofJson v) :: acc)
    simp only [compactMembers, joinWith, quote, List.append_assoc, List.cons_append,
      List.nil_append] at hkey hread hrest ⊢
    rw [readEntries]
    simp only [skipGap_cons (c := '"') rfl, hkey, skipGap_cons (c := ':') rfl, hread,
      skipGap_cons (c := ',') rfl, hrest]
    simp [Draft.ofMembers]

end

/-! ## Documents -/

/-- What a plain value is written as is a complete document of that value. -/
theorem ofBytes_compact {v : Json} (h : Plain maxDepth v) :
    Document.ofBytes (Text.encodeUtf8 v.compact) = ⟨Draft.ofJson v, true⟩ := by
  have hend : EndsNumber [] := by simp [EndsNumber]
  have hread := readValue_compactChars h
    (show _ ≤ 2 * (compactChars v).length + 1 by omega) hend
  rw [List.append_nil] at hread
  simp only [Document.ofBytes, Text.decodeUtf8_encodeUtf8, Document.ofText, compact,
    String.toList_ofList, Document.read, hread]
  rfl

end RequestDispatch.Json
