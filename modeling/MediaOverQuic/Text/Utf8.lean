import MediaOverQuic.Bytes

/-!
# Text as UTF-8

`encode` writes a text as UTF-8. `decodeLossy` reads any bytes: a byte either starts a character,
carries on with the one begun before it, or shows that what was begun is no character, and then one
replacement character stands for the bytes begun and the byte is looked at again.
-/
namespace MediaOverQuic.Utf8

/-- The bytes of a text. -/
def encode (text : String) : Bytes :=
  text.toList.flatMap String.utf8EncodeChar

/-- What is written for bytes that are no character. -/
def replacement : Char := Char.ofNat 0xFFFD

/-- A character of which some bytes are still to come: how many, between which bounds the next one
has to lie, and the number that the bytes so far spell. -/
structure Begun where
  owed : Nat
  low : Nat
  high : Nat
  spelt : Nat
  deriving DecidableEq, Repr

/-- What a byte means where a character may start. The bounds of the second byte keep out spellings
that are longer than need be, surrogates, and numbers above the last character. -/
def start (b : Nat) : Char ⊕ Begun :=
  if b < 0x80 then .inl (Char.ofNat b)
  else if b < 0xC2 then .inl replacement
  else if b < 0xE0 then .inr ⟨1, 0x80, 0xBF, b - 0xC0⟩
  else if b = 0xE0 then .inr ⟨2, 0xA0, 0xBF, 0⟩
  else if b = 0xED then .inr ⟨2, 0x80, 0x9F, 0xD⟩
  else if b < 0xF0 then .inr ⟨2, 0x80, 0xBF, b - 0xE0⟩
  else if b = 0xF0 then .inr ⟨3, 0x90, 0xBF, 0⟩
  else if b < 0xF4 then .inr ⟨3, 0x80, 0xBF, b - 0xF0⟩
  else if b = 0xF4 then .inr ⟨3, 0x80, 0x8F, 4⟩
  else .inl replacement

/-- The state between two bytes: the characters read, the last one first, and the one begun. -/
structure Reading where
  read : List Char
  begun : Option Begun
  deriving Repr

namespace Reading

/-- Takes a byte where a character may start. -/
def begin (read : List Char) (b : Nat) : Reading :=
  match start b with
  | .inl c => ⟨c :: read, none⟩
  | .inr g => ⟨read, some g⟩

/-- Takes the next byte. -/
def take (r : Reading) (byte : UInt8) : Reading :=
  let b := byte.toNat
  match r.begun with
  | none => begin r.read b
  | some g =>
    if g.low ≤ b ∧ b ≤ g.high then
      let spelt := g.spelt * 64 + (b - 0x80)
      if g.owed = 1 then ⟨Char.ofNat spelt :: r.read, none⟩
      else ⟨r.read, some ⟨g.owed - 1, 0x80, 0xBF, spelt⟩⟩
    else begin (replacement :: r.read) b

/-- The characters read, in order; a character that is still owed bytes is none. -/
def finish (r : Reading) : List Char :=
  match r.begun with
  | none => r.read.reverse
  | some _ => (replacement :: r.read).reverse

end Reading

/-- The text that the bytes spell, with a replacement character for each run of bytes that spells
none. -/
def decodeLossy (bytes : Bytes) : String :=
  String.ofList (bytes.foldl Reading.take ⟨[], none⟩).finish

end MediaOverQuic.Utf8
