import RequestDispatch.Text.Utf8

/-!
# Text as bytes

* `decodeUtf8_encodeUtf8`: the bytes of a text are read as that text.
* `encodeUtf8_append`, `encodeUtf8_ascii`: the bytes of a text are those of its characters, one for
  each character below 128.
-/

set_option autoImplicit false

namespace RequestDispatch.Text

theorem toArray_encodeUtf8 (s : String) : ByteArray.mk (encodeUtf8 s).toArray = s.toByteArray := by
  simp [encodeUtf8]

theorem decodeUtf8_encodeUtf8 (s : String) : decodeUtf8 (encodeUtf8 s) = some s := by
  rw [decodeUtf8, toArray_encodeUtf8, String.fromUTF8?, dif_pos s.isValidUTF8]
  rfl

theorem encodeUtf8_append (s t : String) : encodeUtf8 (s ++ t) = encodeUtf8 s ++ encodeUtf8 t := by
  simp [encodeUtf8]

theorem encodeUtf8_ofList (cs : List Char) :
    encodeUtf8 (String.ofList cs) = cs.flatMap String.utf8EncodeChar := by
  simp [encodeUtf8, List.utf8Encode]

theorem length_encodeUtf8 (s : String) : (encodeUtf8 s).length = s.utf8ByteSize := by
  simp [encodeUtf8]

theorem utf8EncodeChar_ascii {c : Char} (h : c.toNat < 128) :
    String.utf8EncodeChar c = [c.toNat.toUInt8] := by
  have hle : c.val.toNat ≤ 0x7f := Nat.le_of_lt_succ h
  rw [String.utf8EncodeChar, if_pos hle]
  rfl

theorem encodeUtf8_ascii {cs : List Char} (h : ∀ c ∈ cs, c.toNat < 128) :
    encodeUtf8 (String.ofList cs) = cs.map fun c => c.toNat.toUInt8 := by
  rw [encodeUtf8_ofList]
  induction cs with
  | nil => rfl
  | cons c cs ih =>
    rw [List.flatMap_cons, utf8EncodeChar_ascii (h c (.head _)), ih fun d hd => h d (.tail _ hd)]
    rfl

end RequestDispatch.Text
