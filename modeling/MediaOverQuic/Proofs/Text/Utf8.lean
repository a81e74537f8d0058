import Mathlib.Tactic
import MediaOverQuic.Text.Utf8

/-!
# Text read back

Any bytes can be read as text. Those that were written as text are read back as that text: of each
character the first byte tells how many are owed and between which bounds the next one lies, and
every later byte adds six bits to what is spelt, until that is the character.
-/
namespace MediaOverQuic.Utf8

theorem encode_ofList (cs : List Char) :
    encode (String.ofList cs) = cs.flatMap String.utf8EncodeChar := by
  rw [encode, String.toList_ofList]

theorem length_encode (text : String) : (encode text).length = text.utf8ByteSize := by
  rw [← String.ofList_toList (s := text), encode_ofList, String.utf8ByteSize,
    String.toByteArray_ofList, List.utf8Encode, List.size_toByteArray]

/-! ## One byte -/

variable {read : List Char} {b v low high : Nat}

theorem take_start {g : Begun} (hb : b < 256) (hstart : start b = .inr g) :
    Reading.take ⟨read, none⟩ (UInt8.ofNat b) = ⟨read, some g⟩ := by
  simp only [Reading.take, UInt8.toNat_ofNat_of_lt' hb, Reading.begin, hstart]

/-- A byte after which more are owed. -/
theorem take_more (owed spelt : Nat) (hb : b < 64) (hlow : low ≤ b + 128) (hhigh : b + 128 ≤ high) :
    Reading.take ⟨read, some ⟨owed + 2, low, high, spelt⟩⟩ (UInt8.ofNat (b + 128)) =
      ⟨read, some ⟨owed + 1, 0x80, 0xBF, spelt * 64 + b⟩⟩ := by
  have hword : (UInt8.ofNat (b + 128)).toNat = b + 128 :=
    UInt8.toNat_ofNat_of_lt' (show b + 128 < 256 by omega)
  simp only [Reading.take, hword]
  rw [if_pos ⟨hlow, hhigh⟩, if_neg (by omega), Nat.add_sub_cancel]
  rfl

/-- The byte after which no more are owed. -/
theorem take_last (spelt : Nat) (hb : b < 64) (hlow : low ≤ b + 128) (hhigh : b + 128 ≤ high) :
    Reading.take ⟨read, some ⟨1, low, high, spelt⟩⟩ (UInt8.ofNat (b + 128)) =
      ⟨Char.ofNat (spelt * 64 + b) :: read, none⟩ := by
  have hword : (UInt8.ofNat (b + 128)).toNat = b + 128 :=
    UInt8.toNat_ofNat_of_lt' (show b + 128 < 256 by omega)
  simp only [Reading.take, hword]
  rw [if_pos ⟨hlow, hhigh⟩, if_pos trivial, Nat.add_sub_cancel]

theorem start_one (h : v ≤ 0x7F) : start v = .inl (Char.ofNat v) := by
  rw [start, if_pos (by omega)]

theorem start_two (hlow : 0x7F < v) (hhigh : v ≤ 0x7FF) :
    start (v / 64 % 32 + 192) = .inr ⟨1, 0x80, 0xBF, v / 64⟩ := by
  have hspelt : v / 64 % 32 + 192 - 0xC0 = v / 64 := by omega
  rw [start, if_neg (by omega), if_neg (by omega), if_pos (by omega), hspelt]

/-- The bounds keep out what two bytes could spell, and surrogates. -/
theorem exists_start_three (hlow : 0x7FF < v) (hhigh : v ≤ 0xFFFF)
    (hscalar : v < 0xD800 ∨ 0xDFFF < v) :
    ∃ low high, start (v / 4096 % 16 + 224) = .inr ⟨2, low, high, v / 4096⟩ ∧
      low ≤ v / 64 % 64 + 128 ∧ v / 64 % 64 + 128 ≤ high := by
  rw [start, if_neg (by omega), if_neg (by omega), if_neg (by omega)]
  by_cases hfirst : v / 4096 = 0
  · rw [if_pos (by omega), hfirst]
    exact ⟨0xA0, 0xBF, rfl, by omega, by omega⟩
  · rw [if_neg (by omega)]
    by_cases hsurrogate : v / 4096 = 0xD
    · rw [if_pos (by omega), hsurrogate]
      exact ⟨0x80, 0x9F, rfl, by omega, by omega⟩
    · have hspelt : v / 4096 % 16 + 224 - 0xE0 = v / 4096 := by omega
      rw [if_neg (by omega), if_pos (by omega), hspelt]
      exact ⟨0x80, 0xBF, rfl, by omega, by omega⟩

/-- The bounds keep out what three bytes could spell, and numbers above the last character. -/
theorem exists_start_four (hlow : 0xFFFF < v) (hhigh : v < 0x110000) :
    ∃ low high, start (v / 262144 % 8 + 240) = .inr ⟨3, low, high, v / 262144⟩ ∧
      low ≤ v / 4096 % 64 + 128 ∧ v / 4096 % 64 + 128 ≤ high := by
  rw [start, if_neg (by omega), if_neg (by omega), if_neg (by omega), if_neg (by omega),
    if_neg (by omega), if_neg (by omega)]
  by_cases hfirst : v / 262144 = 0
  · rw [if_pos (by omega), hfirst]
    exact ⟨0x90, 0xBF, rfl, by omega, by omega⟩
  · rw [if_neg (by omega)]
    by_cases hlast : v / 262144 = 4
    · rw [if_neg (by omega), if_pos (by omega), hlast]
      exact ⟨0x80, 0x8F, rfl, by omega, by omega⟩
    · have hspelt : v / 262144 % 8 + 240 - 0xF0 = v / 262144 := by omega
      rw [if_pos (by omega), hspelt]
      exact ⟨0x80, 0xBF, rfl, by omega, by omega⟩

/-! ## One character -/

/-- A character is read back from its bytes. -/
theorem foldl_take_char (c : Char) (read : List Char) :
    (String.utf8EncodeChar c).foldl Reading.take ⟨read, none⟩ = ⟨c :: read, none⟩ := by
  have hvalid : c.toNat < 0xD800 ∨ 0xDFFF < c.toNat ∧ c.toNat < 0x110000 := c.valid
  have hback : Char.ofNat c.toNat = c := c.ofNat_toNat
  have hsix (n : Nat) : n % 64 < 64 := Nat.mod_lt n (by decide)
  simp only [String.utf8EncodeChar, show c.val.toNat = c.toNat from rfl]
  generalize c.toNat = v at hvalid hback
  split_ifs with h₁ h₂ h₃
  · have hword : (UInt8.ofNat v).toNat = v := UInt8.toNat_ofNat_of_lt' (show v < 256 by omega)
    simp only [List.foldl_cons, List.foldl_nil, Reading.take, hword, Reading.begin, start_one h₁,
      hback]
  · have hspelt : v / 64 * 64 + v % 64 = v := by omega
    simp only [List.foldl_cons, List.foldl_nil]
    rw [take_start (by omega) (start_two (by omega) h₂),
      take_last _ (hsix v) (by omega) (by omega), hspelt, hback]
  · obtain ⟨low, high, hstart, hlow, hhigh⟩ :=
      exists_start_three (show 0x7FF < v by omega) h₃ (by omega)
    have hspelt : (v / 4096 * 64 + v / 64 % 64) * 64 + v % 64 = v := by omega
    simp only [List.foldl_cons, List.foldl_nil]
    rw [take_start (by omega) hstart, take_more 0 _ (hsix _) hlow hhigh,
      take_last _ (hsix v) (by omega) (by omega), hspelt, hback]
  · obtain ⟨low, high, hstart, hlow, hhigh⟩ :=
      exists_start_four (show 0xFFFF < v by omega) (by omega)
    have hspelt :
        ((v / 262144 * 64 + v / 4096 % 64) * 64 + v / 64 % 64) * 64 + v % 64 = v := by omega
    simp only [List.foldl_cons, List.foldl_nil]
    rw [take_start (by omega) hstart, take_more 1 _ (hsix _) hlow hhigh,
      take_more 0 _ (hsix _) (by omega) (by omega), take_last _ (hsix v) (by omega) (by omega),
      hspelt, hback]

/-! ## Text -/

theorem foldl_take_chars (cs read : List Char) :
    (cs.flatMap String.utf8EncodeChar).foldl Reading.take ⟨read, none⟩ =
      ⟨cs.reverse ++ read, none⟩ := by
  induction cs generalizing read with
  | nil => rfl
  | cons c cs ih =>
    rw [List.flatMap_cons, List.foldl_append, foldl_take_char, ih, List.reverse_cons,
      List.append_assoc, List.singleton_append]

/-- What was written as text is read back. -/
theorem decodeLossy_encode (text : String) : decodeLossy (encode text) = text := by
  rw [decodeLossy, encode, foldl_take_chars, Reading.finish, List.append_nil, List.reverse_reverse,
    String.ofList_toList]

end MediaOverQuic.Utf8
