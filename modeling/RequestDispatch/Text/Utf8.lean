/-!
# UTF-8

`decodeUtf8` reads a byte string that is valid UTF-8 in full; `decodeUtf8Lossy` reads any byte string
and puts U+FFFD for every maximal part that cannot begin a character. Both are built on
`Utf8Step.read`, which reads one character or passes over a part that begins none.
-/

set_option autoImplicit false

namespace RequestDispatch.Text

/-- The UTF-8 bytes of a text. -/
def encodeUtf8 (s : String) : List UInt8 :=
  s.toUTF8.data.toList

/-- What stands at the front of a byte string. -/
inductive Utf8Step where
  /-- A character and the bytes after it. -/
  | char (c : Char) (rest : List UInt8)
  /-- A part that begins no character, with the bytes after it. -/
  | invalid (rest : List UInt8)

/-- Whether a byte continues a character. -/
def isContinuation (b : UInt8) : Bool := 0x80 ≤ b && b ≤ 0xBF

private def payload (b : UInt8) : Nat := (b &&& 0x3F).toNat

/-- The allowed second bytes after a first byte of three or four bytes: overlong forms,
surrogates and values past U+10FFFF are excluded here. -/
def secondByteRange (b : UInt8) : UInt8 × UInt8 :=
  if b == 0xE0 then (0xA0, 0xBF)
  else if b == 0xED then (0x80, 0x9F)
  else if b == 0xF0 then (0x90, 0xBF)
  else if b == 0xF4 then (0x80, 0x8F)
  else (0x80, 0xBF)

/-- Reads one character from a first byte and the bytes after it. -/
def Utf8Step.read (b : UInt8) (rest : List UInt8) : Utf8Step :=
  if b < 0x80 then .char (Char.ofNat b.toNat) rest
  else if b < 0xC2 || 0xF4 < b then .invalid rest
  else
    let (low, high) := secondByteRange b
    match rest with
    | [] => .invalid []
    | b₁ :: rest₁ =>
      if b₁ < low || high < b₁ then .invalid rest
      else if b < 0xE0 then
        .char (Char.ofNat ((b &&& 0x1F).toNat * 64 + payload b₁)) rest₁
      else
        match rest₁ with
        | [] => .invalid []
        | b₂ :: rest₂ =>
          if !isContinuation b₂ then .invalid rest₁
          else if b < 0xF0 then
            .char (Char.ofNat (((b &&& 0x0F).toNat * 64 + payload b₁) * 64 + payload b₂)) rest₂
          else
            match rest₂ with
            | [] => .invalid []
            | b₃ :: rest₃ =>
              if !isContinuation b₃ then .invalid rest₂
              else
                .char (Char.ofNat ((((b &&& 0x07).toNat * 64 + payload b₁) * 64 + payload b₂) * 64
                  + payload b₃)) rest₃

/-- Reads characters until the bytes end or one is not valid, with `fuel` bytes at most;
`keep` tells whether reading goes on, with U+FFFD, after an invalid part. -/
def decodeWith (keep : Bool) : Nat → List UInt8 → List Char → List Char × Bool
  | 0, _, acc => (acc.reverse, true)
  | _ + 1, [], acc => (acc.reverse, true)
  | fuel + 1, b :: rest, acc =>
    match Utf8Step.read b rest with
    | .char c rest => decodeWith keep fuel rest (c :: acc)
    | .invalid rest =>
      if keep then decodeWith keep fuel rest ('\uFFFD' :: acc) else (acc.reverse, false)

/-- The longest valid beginning of a byte string, and whether it is all of it. -/
def decodeValidPrefix (bytes : List UInt8) : List Char × Bool :=
  decodeWith false (bytes.length + 1) bytes []

/-- The text that a byte string encodes, if it is valid. -/
def decodeUtf8 (bytes : List UInt8) : Option String :=
  String.fromUTF8? (ByteArray.mk bytes.toArray)

/-- The text of a byte string, with U+FFFD in place of each invalid part. -/
def decodeUtf8Lossy (bytes : List UInt8) : String :=
  String.ofList (decodeWith true (bytes.length + 1) bytes []).1

end RequestDispatch.Text
