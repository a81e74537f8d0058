import Mathlib
import MediaOverQuic.Proofs.Wire.Scan

/-!
# Grammars of decoders

The byte strings that a value may be written in are a language. A decoder reads these languages when
it takes a value from exactly the byte strings that start with one of the value's words, and leaves
what stands behind that word. A number has one word for each width that it fits into, and the one
that is written is the shortest of them.
-/
namespace MediaOverQuic

/-- Whether `bytes` are a word of the language and then `rest`. -/
def Starts (L : Language UInt8) (bytes rest : Bytes) : Prop := ∃ word ∈ L, word ++ rest = bytes

namespace Starts

variable {L M : Language UInt8} {bytes rest word : Bytes}

theorem of_mem (h : word ∈ L) (rest : Bytes) : Starts L (word ++ rest) rest := ⟨word, h, rfl⟩

@[simp] theorem nil_right : Starts L bytes [] ↔ bytes ∈ L := by
  simp [Starts]

theorem mul_iff :
    Starts (L * M) bytes rest ↔ ∃ middle, Starts L bytes middle ∧ Starts M middle rest := by
  constructor
  · rintro ⟨_, h, rfl⟩
    obtain ⟨front, hfront, back, hback, rfl⟩ := Language.mem_mul.mp h
    exact ⟨back ++ rest, ⟨front, hfront, (List.append_assoc _ _ _).symm⟩, .of_mem hback rest⟩
  · rintro ⟨_, ⟨front, hfront, rfl⟩, back, hback, rfl⟩
    exact ⟨front ++ back, Language.append_mem_mul hfront hback, List.append_assoc _ _ _⟩

@[simp] theorem one_iff : Starts 1 bytes rest ↔ bytes = rest := by
  simp [Starts, Language.mem_one, eq_comm]

@[simp] theorem singleton_iff : Starts {word} bytes rest ↔ bytes = word ++ rest := by
  constructor
  · rintro ⟨_, rfl, rfl⟩
    rfl
  · rintro rfl
    exact ⟨word, rfl, rfl⟩

@[simp] theorem iSup_iff {ι : Sort*} {L : ι → Language UInt8} :
    Starts (⨆ i, L i) bytes rest ↔ ∃ i, Starts (L i) bytes rest := by
  simp only [Starts, Language.mem_iSup]
  exact ⟨fun ⟨w, ⟨i, hi⟩, he⟩ => ⟨i, w, hi, he⟩, fun ⟨i, w, hi, he⟩ => ⟨w, ⟨i, hi⟩, he⟩⟩

theorem suffix (h : Starts L bytes rest) : rest <:+ bytes := by
  obtain ⟨word, -, rfl⟩ := h
  exact List.suffix_append word rest

theorem append (h : Starts L bytes rest) (later : Bytes) :
    Starts L (bytes ++ later) (rest ++ later) := by
  obtain ⟨word, hword, rfl⟩ := h
  exact ⟨word, hword, (List.append_assoc _ _ _).symm⟩

/-- What is left is shorter by at least the shortest word. -/
theorem length_le {n : Nat} (h : Starts L bytes rest) (hL : ∀ word ∈ L, n ≤ word.length) :
    n + rest.length ≤ bytes.length := by
  obtain ⟨word, hword, rfl⟩ := h
  have hn := hL word hword
  rw [List.length_append]
  omega

end Starts

namespace Decoder

theorem bind_eq_ok {d : Decoder α} {next : α → Decoder β} {bytes rest : Bytes} {b : β} :
    (d >>= next) bytes = (.ok b, rest) ↔
      ∃ a middle, d bytes = (.ok a, middle) ∧ next a middle = (.ok b, rest) := by
  rcases hd : d bytes with ⟨result, middle⟩
  cases result with
  | ok a => simp [bind_of_ok hd]
  | error e => simp [bind_of_error hd]

theorem bind_eq_error {d : Decoder α} {next : α → Decoder β} {bytes rest : Bytes} {e : Error} :
    (d >>= next) bytes = (.error e, rest) ↔ d bytes = (.error e, rest) ∨
      ∃ a middle, d bytes = (.ok a, middle) ∧ next a middle = (.error e, rest) := by
  rcases hd : d bytes with ⟨result, middle⟩
  cases result with
  | ok a => simp [bind_of_ok hd]
  | error e => simp [bind_of_error hd]

/-- Whether all that the decoder fails with is that there are too few bytes. -/
def OnlyCutShort (d : Decoder α) : Prop :=
  ∀ {bytes e rest}, d bytes = (.error e, rest) →
    ∃ needed remaining, e = .unexpectedEnd needed remaining

theorem onlyCutShort_take (n : Nat) : OnlyCutShort (take n) := by
  intro bytes e rest h
  rcases Nat.lt_or_ge bytes.length n with hlt | hle
  · rw [take_of_lt hlt] at h
    obtain ⟨rfl, -⟩ := by simpa using h
    exact ⟨_, _, rfl⟩
  · rw [take_of_le hle] at h
    cases h

theorem take_eq_ok {n : Nat} {bytes front rest : Bytes} :
    take n bytes = (.ok front, rest) ↔ front.length = n ∧ bytes = front ++ rest := by
  constructor
  · intro h
    rcases Nat.lt_or_ge bytes.length n with hlt | hle
    · rw [take_of_lt hlt] at h
      cases h
    · rw [take_of_le hle] at h
      obtain ⟨rfl, rfl⟩ := by simpa using h
      exact ⟨List.length_take_of_le hle, (List.take_append_drop n bytes).symm⟩
  · rintro ⟨rfl, rfl⟩
    exact take_append front rest

/-- Whether the decoder takes each value from exactly the byte strings that start with one of its
words. -/
def Reads (d : Decoder α) (words : α → Language UInt8) : Prop :=
  ∀ {bytes a rest}, d bytes = (.ok a, rest) ↔ Starts (words a) bytes rest

theorem Reads.unique {d : Decoder α} {words : α → Language UInt8} (hd : Reads d words)
    {bytes rest rest' : Bytes} {a b : α} (ha : Starts (words a) bytes rest)
    (hb : Starts (words b) bytes rest') : a = b ∧ rest = rest' := by
  have h := (hd.mpr ha).symm.trans (hd.mpr hb)
  simpa using h

end Decoder

namespace Varint

/-- The byte strings that a number may be written in: the first byte declares how many there are. -/
def words (v : Nat) : Language UInt8 :=
  {w | ∃ first back, w = first :: back ∧ declaredWidth first = w.length ∧ value w = v}

theorem cons_mem_words {v : Nat} {first : UInt8} {back : Bytes} :
    first :: back ∈ words v ↔
      declaredWidth first = back.length + 1 ∧ value (first :: back) = v := by
  constructor
  · rintro ⟨_, _, ⟨⟩, hw, hv⟩
    exact ⟨hw, hv⟩
  · rintro ⟨hw, hv⟩
    exact ⟨first, back, rfl, hw, hv⟩

theorem encode_mem_words {v : Nat} (h : v ≤ max) : encode v ∈ words v := by
  obtain ⟨first, back, he, hw, hv⟩ := exists_encode_eq_cons v h
  rw [he]
  exact cons_mem_words.mpr ⟨hw, hv⟩

theorem declaredWidth_cases (first : UInt8) : declaredWidth first = 1 ∨ declaredWidth first = 2 ∨
    declaredWidth first = 4 ∨ declaredWidth first = 8 := by
  have hlt := first.toNat_lt
  have h : first.toNat / 64 = 0 ∨ first.toNat / 64 = 1 ∨ first.toNat / 64 = 2 ∨
      first.toNat / 64 = 3 := by omega
  unfold declaredWidth
  rcases h with h | h | h | h <;> simp [h]

/-- Nothing stands where a number should, or its first byte says how far it goes. -/
theorem starts_words_cons {v : Nat} {first : UInt8} {more rest : Bytes} :
    Starts (words v) (first :: more) rest ↔
      ∃ front, front.length = declaredWidth first ∧ first :: more = front ++ rest ∧
        value front = v := by
  constructor
  · rintro ⟨_, ⟨first', back, rfl, hw, hv⟩, he⟩
    obtain ⟨rfl, -⟩ := List.cons.inj he
    exact ⟨_, hw.symm, he.symm, hv⟩
  · rintro ⟨front, hl, he, hv⟩
    cases front with
    | nil =>
      have hpos := declaredWidth_cases first
      rw [List.length_nil] at hl
      omega
    | cons first' back =>
      obtain ⟨rfl, -⟩ := List.cons.inj he
      exact ⟨_, cons_mem_words.mpr ⟨hl.symm, hv⟩, he.symm⟩

theorem not_starts_words_nil (v : Nat) (rest : Bytes) : ¬ Starts (words v) [] rest := by
  rintro ⟨_, ⟨first, back, rfl, -⟩, he⟩
  cases he

theorem reads_decode : Decoder.Reads decode words := by
  intro bytes v rest
  cases bytes with
  | nil => simp [decode, not_starts_words_nil]
  | cons first more =>
    rw [starts_words_cons]
    rcases ht : Decoder.take (declaredWidth first) (first :: more) with ⟨result, left⟩
    simp only [decode, ht]
    constructor
    · intro h
      cases result with
      | error e => cases h
      | ok front =>
        obtain ⟨hl, he⟩ := Decoder.take_eq_ok.mp ht
        obtain ⟨rfl, rfl⟩ := by simpa using h
        exact ⟨front, hl, he, rfl⟩
    · rintro ⟨front, hl, he, rfl⟩
      rw [Decoder.take_eq_ok.mpr ⟨hl, he⟩] at ht
      obtain ⟨rfl, rfl⟩ := by simpa using ht
      rfl

theorem onlyCutShort_decode : Decoder.OnlyCutShort decode := by
  intro bytes e rest h
  cases bytes with
  | nil =>
    obtain ⟨rfl, -⟩ := by simpa [decode] using h
    exact ⟨_, _, rfl⟩
  | cons first more =>
    simp only [decode] at h
    split at h
    · cases h
    · next e' left ht =>
      obtain ⟨rfl, -⟩ := by simpa using h
      exact Decoder.onlyCutShort_take _ ht

/-! ## The shortest word -/

theorem ofBigEndian_lt (high : Nat) (bytes : Bytes) :
    ofBigEndian high bytes < (high + 1) * 256 ^ bytes.length := by
  induction bytes generalizing high with
  | nil => simp
  | cons b bytes ih =>
    have hb := b.toNat_lt
    calc ofBigEndian high (b :: bytes)
        < (high * 256 + b.toNat + 1) * 256 ^ bytes.length := ih _
      _ ≤ (high + 1) * 256 * 256 ^ bytes.length := Nat.mul_le_mul_right _ (by omega)
      _ = (high + 1) * 256 ^ (b :: bytes).length := by
        rw [List.length_cons, Nat.pow_succ, Nat.mul_assoc, Nat.mul_comm 256]

theorem value_lt (first : UInt8) (back : Bytes) :
    value (first :: back) < 64 * 256 ^ back.length := by
  have hlt := ofBigEndian_lt (first.toNat % 64) back
  have hhigh : first.toNat % 64 + 1 ≤ 64 := by omega
  exact hlt.trans_le (Nat.mul_le_mul_right _ hhigh)

/-- What is read can be written, in as few bytes. -/
theorem le_of_mem_words {v : Nat} {word : Bytes} (h : word ∈ words v) :
    v ≤ max ∧ width v ≤ word.length := by
  obtain ⟨first, back, rfl, hw, rfl⟩ := h
  have hlt := value_lt first back
  rw [List.length_cons] at hw ⊢
  unfold max width
  rcases declaredWidth_cases first with h | h | h | h <;>
    obtain hb : back.length = _ := Nat.succ.inj (hw.symm.trans h) <;>
    rw [hb] at hlt ⊢ <;> norm_num at hlt <;> split_ifs <;> omega

end Varint

namespace Scan

theorem exactly_eq_ready_iff {n : Nat} {bytes front rest : Bytes} :
    exactly n bytes = .ready (front, rest) ↔ front.length = n ∧ bytes = front ++ rest := by
  constructor
  · exact exactly_eq_ready
  · rintro ⟨rfl, rfl⟩
    exact exactly_append front rest

/-- A number is ready to be read from a stream when it stands in front of what has arrived. -/
theorem varint_eq_ready_iff {v : Nat} {bytes rest : Bytes} :
    varint bytes = .ready (v, rest) ↔ Starts (Varint.words v) bytes rest := by
  cases bytes with
  | nil => simp [varint, Varint.not_starts_words_nil]
  | cons first more =>
    rw [varint_cons, Varint.starts_words_cons]
    constructor
    · intro h
      obtain ⟨front, middle, hf, hv⟩ := bind_eq_ready h
      obtain ⟨rfl, rfl⟩ := by simpa using hv
      obtain ⟨hl, he⟩ := exactly_eq_ready hf
      exact ⟨front, hl, he, rfl⟩
    · rintro ⟨front, hl, he, rfl⟩
      rw [bind_of_ready (exactly_eq_ready_iff.mpr ⟨hl, he⟩)]
      rfl

end Scan

end MediaOverQuic
