import RequestDispatch.Proofs.Text.Utf8
import RequestDispatch.Text.Base64

/-!
# Base 64 is read back

* `decodeLast_sextets`: a row of four, the last of which may be padding, gives the bytes it was
  written for.
* `decode_rows`: so do all rows, of which only the last one may be padded.
* `decodeBytes_encode`: the text of any bytes is read as those bytes.
-/

set_option autoImplicit false

namespace RequestDispatch.Text.Base64

/-- The four numbers of six bits in a number of twenty-four. -/
def sextets (n : Nat) : List Nat := [n >>> 18, (n >>> 12) % 64, (n >>> 6) % 64, n % 64]

/-- The byte of the symbol of six bits. -/
def symbolByte (n : Nat) : UInt8 := (symbol n).toNat.toUInt8

theorem value?_symbolByte : ∀ n < 64, value? (symbolByte n) = some n := by decide

theorem symbolByte_ne_pad : ∀ n < 64, (symbolByte n == pad) = false := by decide

theorem symbol_ascii : ∀ n < 64, (symbol n).toNat < 128 := by decide

theorem sextets_lt {n : Nat} (h : n < 1 <<< 24) : ∀ v ∈ sextets n, v < 64 := by
  simp only [sextets, List.mem_cons, List.not_mem_nil, or_false]
  rintro v (rfl | rfl | rfl | rfl) <;> omega

theorem number_sextets (n : Nat) : number (sextets n) = n := by
  simp only [number, sextets, List.foldl_cons, List.foldl_nil]
  omega

/-- The number of twenty-four bits of three bytes. -/
def word (a b c : UInt8) : Nat := a.toNat <<< 16 + b.toNat <<< 8 + c.toNat

theorem triple_word (a b c : UInt8) : triple (word a b c) = [a, b, c] := by
  have ha := a.toNat_lt
  have hb := b.toNat_lt
  have hc := c.toNat_lt
  simp only [triple, word, Nat.toUInt8, List.cons.injEq, ← UInt8.toNat_inj, UInt8.toNat_ofNat',
    and_true]
  refine ⟨?_, ?_, ?_⟩ <;> omega

theorem word_lt (a b c : UInt8) : word a b c < 1 <<< 24 := by
  have ha := a.toNat_lt
  have hb := b.toNat_lt
  have hc := c.toNat_lt
  simp only [word]
  omega

/-! ## Rows -/

theorem values_symbolByte (offset : Nat) {vs : List Nat} (h : ∀ v ∈ vs, v < 64) :
    values offset (vs.map symbolByte) = .ok vs := by
  induction vs generalizing offset with
  | nil => rfl
  | cons v vs ih =>
    simp only [List.map_cons, values, value?_symbolByte v (h v (.head _)),
      ih (offset + 1) fun w hw => h w (.tail _ hw)]
    rfl

theorem decodeQuads_sextets {n : Nat} (h : n < 1 <<< 24) (offset : Nat) (rest acc : List UInt8) :
    decodeQuads offset ((sextets n).map symbolByte ++ rest) acc =
      decodeQuads (offset + 4) rest ((triple n).reverse ++ acc) := by
  have hvalues : values offset [symbolByte (n >>> 18), symbolByte ((n >>> 12) % 64),
      symbolByte ((n >>> 6) % 64), symbolByte (n % 64)] = .ok (sextets n) :=
    values_symbolByte offset (sextets_lt h)
  have hrow : (sextets n).map symbolByte ++ rest = symbolByte (n >>> 18) ::
      symbolByte ((n >>> 12) % 64) :: symbolByte ((n >>> 6) % 64) :: symbolByte (n % 64) :: rest :=
    rfl
  simp only [hrow, decodeQuads, hvalues, number_sextets]

theorem lastRow_pads (offset : Nat) {index : Nat} (hindex : 2 ≤ index) (padding p : Nat) :
    lastRow offset index padding (List.replicate p pad) = .ok ([], padding + p) := by
  induction p generalizing index padding with
  | zero => rfl
  | succ p ih =>
    simp only [List.replicate_succ, lastRow, beq_self_eq_true, if_true, Nat.not_lt.2 hindex,
      if_false, ih (Nat.le_succ_of_le hindex)]
    rw [Nat.add_right_comm, Nat.add_assoc]

/-- The symbols of the last row and the number of its pads. -/
theorem lastRow_symbolByte (offset index : Nat) {vs : List Nat} (h : ∀ v ∈ vs, v < 64)
    (hindex : 2 ≤ index + vs.length) (p : Nat) :
    lastRow offset index 0 (vs.map symbolByte ++ List.replicate p pad) = .ok (vs, p) := by
  induction vs generalizing index with
  | nil => simpa using lastRow_pads offset hindex 0 p
  | cons v vs ih =>
    have hv := h v (.head _)
    have hrest := ih (index + 1) (fun w hw => h w (.tail _ hw))
      (by rw [List.length_cons] at hindex; omega)
    simp only [List.map_cons, List.cons_append, lastRow, symbolByte_ne_pad v hv,
      value?_symbolByte v hv, hrest, Nat.lt_irrefl, Bool.false_eq_true, if_false]
    rfl

/-- The last row with `p` pads, if the bits that the pads stand for are not set. -/
theorem decodeLast_sextets {vs : List Nat} {n p : Nat} (hvs : vs ++ List.replicate p 0 = sextets n)
    (hn : n < 1 <<< 24) (hp : p ≤ 2) (hbits : n % (1 <<< (8 * p)) = 0) (offset : Nat)
    (acc : List UInt8) :
    decodeLast offset (vs.map symbolByte ++ List.replicate p pad) acc =
      .ok (acc.reverse ++ (triple n).take (3 - p)) := by
  have hlen : vs.length + p = 4 := by simpa [sextets] using congrArg List.length hvs
  have hlt : ∀ v ∈ vs, v < 64 := fun v hv =>
    sextets_lt hn v (hvs ▸ List.mem_append_left _ hv)
  have hrow := lastRow_symbolByte offset 0 hlt (by omega) p
  have hpad : 4 - vs.length = p := by omega
  have hbytes : vs.length * 6 / 8 = 3 - p := by omega
  have hshift : 24 - 8 * (3 - p) = 8 * p := by omega
  have htwo : ¬ vs.length < 2 := by omega
  have hfour : ((p + vs.length) % 4 != 0) = false := by simp; omega
  simp only [decodeLast, hrow, hpad, hvs, number_sextets, hbytes, hshift, hbits, htwo, hfour,
    bne_self_eq_false, Bool.false_eq_true, if_false]

/-- The last row as it is written for one, two or three bytes, with zeros for those that are
missing. -/
theorem decodeLast_row (a b c : UInt8) {p : Nat} (hp : p ≤ 2) (hb : p = 2 → b = 0)
    (hc : 1 ≤ p → c = 0) (offset : Nat) (acc : List UInt8) :
    decodeLast offset (((sextets (word a b c)).take (4 - p)).map symbolByte ++ List.replicate p pad)
      acc = .ok (acc.reverse ++ [a, b, c].take (3 - p)) := by
  have hcases : p = 0 ∨ p = 1 ∨ p = 2 := by omega
  rw [← triple_word a b c]
  refine decodeLast_sextets ?_ (word_lt a b c) hp ?_ offset acc
  · obtain rfl | rfl | rfl := hcases
    · rfl
    · obtain rfl := hc (by decide)
      simp [sextets, word]
      omega
    · obtain rfl := hb rfl
      obtain rfl := hc (by decide)
      simp [sextets, word]
      omega
  · obtain rfl | rfl | rfl := hcases
    · exact Nat.mod_one _
    · obtain rfl := hc (by decide)
      simp [word]
      omega
    · obtain rfl := hb rfl
      obtain rfl := hc (by decide)
      simp [word]
      omega

/-! ## Whole texts -/

theorem encodeFrom_acc : ∀ (bs : List UInt8) (acc : List Char),
    encodeFrom bs acc = acc.reverse ++ encodeFrom bs []
  | [], acc => by simp [encodeFrom]
  | [a], acc => by simp [encodeFrom]
  | [a, b], acc => by simp [encodeFrom]
  | a :: b :: c :: rest, acc => by
    rw [encodeFrom, encodeFrom_acc rest, encodeFrom, encodeFrom_acc rest (_ ++ [])]
    simp

/-- The bytes of the text of some bytes. -/
def symbolBytes (bs : List UInt8) : List UInt8 := (encodeFrom bs []).map fun c => c.toNat.toUInt8

theorem symbolBytes_triple (a b c : UInt8) (rest : List UInt8) :
    symbolBytes (a :: b :: c :: rest) =
      (sextets (word a b c)).map symbolByte ++ symbolBytes rest := by
  rw [symbolBytes, encodeFrom, encodeFrom_acc]
  simp [symbolBytes, quad, sextets, symbolByte, word]

theorem symbolBytes_one (a : UInt8) : symbolBytes [a] =
    ((sextets (word a 0 0)).take 2).map symbolByte ++ List.replicate 2 pad := by
  simp [symbolBytes, encodeFrom, quad, sextets, symbolByte, List.replicate, pad, word]

theorem symbolBytes_two (a b : UInt8) : symbolBytes [a, b] =
    ((sextets (word a b 0)).take 3).map symbolByte ++ List.replicate 1 pad := by
  simp [symbolBytes, encodeFrom, quad, sextets, symbolByte, List.replicate, pad, word]

/-- The rows before the last one and the last one, and what each of them is read as. -/
theorem decode_rows {bs : List UInt8} (h : bs ≠ []) (offset : Nat) (acc : List UInt8) :
    ∃ front row seen, symbolBytes bs = front ++ row ∧ row.length = 4 ∧ front.length % 4 = 0 ∧
      decodeQuads offset front acc = .ok seen ∧
      ∀ place, decodeLast place row seen = .ok (acc.reverse ++ bs) := by
  match bs, h with
  | [a], _ =>
    refine ⟨[], symbolBytes [a], acc, rfl, rfl, rfl, rfl, fun place => ?_⟩
    rw [symbolBytes_one]
    exact decodeLast_row a 0 0 (Nat.le_refl 2) (fun _ => rfl) (fun _ => rfl) place acc
  | [a, b], _ =>
    refine ⟨[], symbolBytes [a, b], acc, rfl, rfl, rfl, rfl, fun place => ?_⟩
    rw [symbolBytes_two]
    exact decodeLast_row a b 0 (Nat.le_succ 1) (fun h => by omega) (fun _ => rfl) place acc
  | [a, b, c], _ =>
    refine ⟨[], symbolBytes [a, b, c], acc, rfl, rfl, rfl, rfl, fun place => ?_⟩
    rw [symbolBytes_triple]
    exact decodeLast_row a b c (Nat.zero_le 2) (fun h => by omega) (fun h => by omega) place acc
  | a :: b :: c :: d :: rest, _ =>
    obtain ⟨front, row, seen, hbytes, hrow, hfront, hseen, hlast⟩ :=
      decode_rows (List.cons_ne_nil d rest) (offset + 4) ([c, b, a] ++ acc)
    have hn := word_lt a b c
    refine ⟨(sextets (word a b c)).map symbolByte ++ front, row, seen,
      ?_, hrow, ?_, ?_, fun place => ?_⟩
    · rw [symbolBytes_triple, hbytes, List.append_assoc]
    · simp [sextets]
      omega
    · rw [decodeQuads_sextets hn, triple_word]
      exact hseen
    · rw [hlast place]
      simp

theorem quad_ascii {n : Nat} (h : n < 1 <<< 24) : ∀ c ∈ quad n, c.toNat < 128 := by
  intro c hc
  obtain ⟨v, hv, rfl⟩ := List.mem_map.1 (show c ∈ (sextets n).map symbol from hc)
  exact symbol_ascii v (sextets_lt h v hv)

theorem encodeFrom_ascii : ∀ (bs : List UInt8), ∀ c ∈ encodeFrom bs [], c.toNat < 128
  | [], c, hc => by simp [encodeFrom] at hc
  | [a], c, hc => by
    have hc : c ∈ (quad (word a 0 0)).take 2 ∨ c = '=' := by simpa [encodeFrom, word] using hc
    obtain hc | rfl := hc
    · exact quad_ascii (word_lt a 0 0) c (List.mem_of_mem_take hc)
    · decide
  | [a, b], c, hc => by
    have hc : c ∈ (quad (word a b 0)).take 3 ∨ c = '=' := by simpa [encodeFrom, word] using hc
    obtain hc | rfl := hc
    · exact quad_ascii (word_lt a b 0) c (List.mem_of_mem_take hc)
    · decide
  | a :: b :: d :: rest, c, hc => by
    rw [encodeFrom, encodeFrom_acc, List.append_nil, List.reverse_reverse] at hc
    obtain hc | hc := List.mem_append.1 hc
    · exact quad_ascii (word_lt a b d) c hc
    · exact encodeFrom_ascii rest c hc

theorem decodeBytes_encode (bs : List UInt8) : decodeBytes (encodeUtf8 (encode bs)) = .ok bs := by
  rw [encode, encodeUtf8_ascii (encodeFrom_ascii bs), ← symbolBytes]
  by_cases h : bs = []
  · rw [h]
    rfl
  · obtain ⟨front, row, seen, hbytes, hrow, hfront, hseen, hlast⟩ := decode_rows h 0 []
    have hlen : (front ++ row).length = front.length + 4 := by rw [List.length_append, hrow]
    have hzero : (front.length + 4 == 0) = false := rfl
    have hone : ((front.length + 4) % 4 == 1) = false := by simp; omega
    have hfour : ((front.length + 4) % 4 == 0) = true := by simp; omega
    rw [hbytes]
    simp only [decodeBytes, hlen, hzero, hone, hfour, Bool.false_and, Bool.false_eq_true, if_false,
      if_true, Nat.add_sub_cancel, List.take_left, List.drop_left, hseen, hlast]
    rfl

end RequestDispatch.Text.Base64
