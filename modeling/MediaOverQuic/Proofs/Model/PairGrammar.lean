import Mathlib.Tactic
import MediaOverQuic.Proofs.Model.KeyValuePair
import MediaOverQuic.Proofs.Wire.Grammar

/-!
# The grammar of key-value pairs

A pair is read from a type and a value that suits it, each number in any width. Whatever is read is
a pair that can be made and written again, in no more bytes, although reading does not go through
the checks of making one.
-/
namespace MediaOverQuic.KeyValuePair

/-- The byte strings that a pair may be written in. -/
def words (p : KeyValuePair) : Language UInt8 :=
  match p.value with
  | .int v => ⨆ _ : p.typeId % 2 = 0, Varint.words p.typeId * Varint.words v
  | .bytes b => ⨆ _ : p.typeId % 2 = 1 ∧ b.length ≤ maxLength,
      Varint.words p.typeId * (Varint.words b.length * {b})

/-- The byte strings that a list of pairs may be written in: their number and then the pairs. -/
def listWords (pairs : List KeyValuePair) : Language UInt8 :=
  Varint.words pairs.length * (pairs.map words).prod

theorem mem_int_words_iff {t v : Nat} {word : Bytes} : word ∈ words ⟨t, .int v⟩ ↔
    t % 2 = 0 ∧ word ∈ Varint.words t * Varint.words v := by
  simp only [words, Language.mem_iSup, exists_prop]

theorem mem_bytes_words_iff {t : Nat} {b word : Bytes} : word ∈ words ⟨t, .bytes b⟩ ↔
    (t % 2 = 1 ∧ b.length ≤ maxLength) ∧
      word ∈ Varint.words t * (Varint.words b.length * {b}) := by
  simp only [words, Language.mem_iSup, exists_prop]

theorem starts_int_iff {t v : Nat} {bytes rest : Bytes} :
    Starts (words ⟨t, .int v⟩) bytes rest ↔
      t % 2 = 0 ∧ ∃ middle, Starts (Varint.words t) bytes middle ∧
        Starts (Varint.words v) middle rest := by
  simp only [words, Starts.iSup_iff, Starts.mul_iff, exists_prop]

theorem starts_bytes_iff {t : Nat} {b bytes rest : Bytes} :
    Starts (words ⟨t, .bytes b⟩) bytes rest ↔
      (t % 2 = 1 ∧ b.length ≤ maxLength) ∧ ∃ middle, Starts (Varint.words t) bytes middle ∧
        Starts (Varint.words b.length) middle (b ++ rest) := by
  simp only [words, Starts.iSup_iff, Starts.mul_iff, Starts.singleton_iff, exists_prop,
    exists_eq_right]

theorem reads_decode : Decoder.Reads decode words := by
  intro bytes p rest
  obtain ⟨t, v | b⟩ := p
  · rw [starts_int_iff, decode, Decoder.bind_eq_ok]
    constructor
    · rintro ⟨t', middle, ht, h⟩
      split_ifs at h with he
      · obtain ⟨v', rest', hv, hp⟩ := Decoder.bind_eq_ok.mp h
        obtain ⟨⟨rfl, rfl⟩, rfl⟩ := by simpa using hp
        exact ⟨he, middle, Varint.reads_decode.mp ht, Varint.reads_decode.mp hv⟩
      · obtain ⟨length, rest', hl, hp⟩ := Decoder.bind_eq_ok.mp h
        split_ifs at hp
        · cases hp
        · obtain ⟨b, rest'', -, hp⟩ := Decoder.bind_eq_ok.mp hp
          cases hp
    · rintro ⟨he, middle, ht, hv⟩
      refine ⟨t, middle, Varint.reads_decode.mpr ht, ?_⟩
      rw [if_pos he]
      exact Decoder.bind_eq_ok.mpr ⟨v, rest, Varint.reads_decode.mpr hv, rfl⟩
  · rw [starts_bytes_iff, decode, Decoder.bind_eq_ok]
    constructor
    · rintro ⟨t', middle, ht, h⟩
      split_ifs at h with he
      · obtain ⟨v', rest', -, hp⟩ := Decoder.bind_eq_ok.mp h
        cases hp
      · obtain ⟨length, rest', hl, hp⟩ := Decoder.bind_eq_ok.mp h
        split_ifs at hp with hmax
        · cases hp
        · obtain ⟨b', rest'', hb, hp⟩ := Decoder.bind_eq_ok.mp hp
          obtain ⟨⟨rfl, rfl⟩, rfl⟩ := by simpa using hp
          obtain ⟨rfl, rfl⟩ := Decoder.take_eq_ok.mp hb
          exact ⟨⟨by omega, by omega⟩, middle, Varint.reads_decode.mp ht,
            Varint.reads_decode.mp hl⟩
    · rintro ⟨⟨ho, hb⟩, middle, ht, hl⟩
      refine ⟨t, middle, Varint.reads_decode.mpr ht, ?_⟩
      rw [if_neg (by omega)]
      refine Decoder.bind_eq_ok.mpr ⟨b.length, b ++ rest, Varint.reads_decode.mpr hl, ?_⟩
      rw [if_neg (by omega)]
      exact Decoder.bind_eq_ok.mpr ⟨b, rest, Decoder.take_eq_ok.mpr ⟨rfl, rfl⟩, rfl⟩

/-- What is read is a pair that can be made, and its own word is the shortest. -/
theorem valid_of_mem_words {p : KeyValuePair} {word : Bytes} (h : word ∈ words p) :
    p.Valid ∧ p.wire.length ≤ word.length := by
  obtain ⟨t, v | b⟩ := p
  · obtain ⟨he, h⟩ := mem_int_words_iff.mp h
    obtain ⟨front, ht, back, hv, rfl⟩ := Language.mem_mul.mp h
    obtain ⟨htmax, htlen⟩ := Varint.le_of_mem_words ht
    obtain ⟨hvmax, hvlen⟩ := Varint.le_of_mem_words hv
    refine ⟨(valid_int_iff t v).mpr ⟨htmax, he, hvmax⟩, ?_⟩
    simp only [wire, List.length_append, Varint.length_encode]
    omega
  · obtain ⟨⟨ho, hb⟩, h⟩ := mem_bytes_words_iff.mp h
    obtain ⟨front, ht, tail, htail, rfl⟩ := Language.mem_mul.mp h
    obtain ⟨middle, hl, back, rfl, rfl⟩ := Language.mem_mul.mp htail
    obtain ⟨htmax, htlen⟩ := Varint.le_of_mem_words ht
    obtain ⟨-, hllen⟩ := Varint.le_of_mem_words hl
    refine ⟨(valid_bytes_iff t back).mpr ⟨htmax, ho, hb⟩, ?_⟩
    simp only [wire, List.length_append, Varint.length_encode]
    omega

theorem wire_mem_words {p : KeyValuePair} (h : p.Valid) : p.wire ∈ words p := by
  rw [← Starts.nil_right, ← reads_decode]
  simpa using decode_wire_append h []

/-! ## Lists -/

/-- Pairs are read one behind the other. -/
theorem result_decodeMany_eq_ok {count : Nat} {c : Course} {all : List KeyValuePair} {rest : Bytes}
    (hc : c.error? = none) : (decodeMany count c).result = (.ok all, rest) ↔
      ∃ pairs, pairs.length = count ∧ all = c.read.toList ++ pairs ∧
        Starts (pairs.map words).prod c.rest rest := by
  induction count generalizing c with
  | zero =>
    have hresult : (decodeMany 0 c).result = (.ok c.read.toList, c.rest) := by
      rw [decodeMany, Course.result, hc]
    rw [hresult]
    constructor
    · intro h
      obtain ⟨rfl, rfl⟩ := by simpa using h
      exact ⟨[], rfl, (List.append_nil _).symm, Starts.one_iff.mpr rfl⟩
    · rintro ⟨pairs, hl, rfl, h⟩
      obtain rfl := List.length_eq_zero_iff.mp hl
      obtain rfl := Starts.one_iff.mp h
      rw [List.append_nil]
  | succ count ih =>
    rcases hd : decode c.rest with ⟨e | p, middle⟩
    · rw [decodeMany_succ_of_error hd, Course.next_of_error hd]
      constructor
      · intro h
        cases h
      · rintro ⟨_ | ⟨p, pairs⟩, hl, -, h⟩
        · cases hl
        · rw [List.map_cons, List.prod_cons] at h
          obtain ⟨middle', hp, -⟩ := Starts.mul_iff.mp h
          cases hd.symm.trans (reads_decode.mpr hp)
    · rw [decodeMany_succ_of_ok hc hd, ih (by rw [Course.next_of_ok hd, hc]), Course.next_of_ok hd]
      constructor
      · rintro ⟨pairs, hl, rfl, hs⟩
        refine ⟨p :: pairs, by rw [List.length_cons, hl], by simp, ?_⟩
        rw [List.map_cons, List.prod_cons]
        exact Starts.mul_iff.mpr ⟨middle, reads_decode.mp hd, hs⟩
      · rintro ⟨_ | ⟨p', pairs⟩, hl, rfl, h⟩
        · cases hl
        · rw [List.map_cons, List.prod_cons] at h
          obtain ⟨middle', hp, hs⟩ := Starts.mul_iff.mp h
          cases hd.symm.trans (reads_decode.mpr hp)
          exact ⟨pairs, Nat.succ.inj hl, by simp, hs⟩

theorem reads_decodeList : Decoder.Reads decodeList listWords := by
  intro bytes pairs rest
  rw [listWords, Starts.mul_iff]
  rcases hcount : Varint.decode bytes with ⟨e | count, middle⟩
  · rw [decodeList_of_error hcount]
    constructor
    · intro h
      cases h
    · rintro ⟨middle', hc, -⟩
      cases hcount.symm.trans (Varint.reads_decode.mpr hc)
  · rw [decodeList_of_count hcount, decodeCounted, result_decodeMany_eq_ok rfl]
    constructor
    · rintro ⟨pairs', rfl, rfl, hs⟩
      exact ⟨middle, Varint.reads_decode.mp hcount, by simpa [Course.start] using hs⟩
    · rintro ⟨middle', hc, hs⟩
      cases hcount.symm.trans (Varint.reads_decode.mpr hc)
      exact ⟨pairs, rfl, by simp [Course.start], hs⟩

theorem valid_of_mem_prod {pairs : List KeyValuePair} {word : Bytes}
    (h : word ∈ (pairs.map words).prod) :
    (∀ p ∈ pairs, p.Valid) ∧ (wireAll pairs).length ≤ word.length := by
  induction pairs generalizing word with
  | nil => simp [wireAll]
  | cons p pairs ih =>
    rw [List.map_cons, List.prod_cons] at h
    obtain ⟨front, hp, back, hps, rfl⟩ := Language.mem_mul.mp h
    obtain ⟨hvalid, hlen⟩ := valid_of_mem_words hp
    obtain ⟨hvalids, hlens⟩ := ih hps
    refine ⟨List.forall_mem_cons.mpr ⟨hvalid, hvalids⟩, ?_⟩
    simp only [wireAll, List.flatMap_cons, List.length_append] at hlens ⊢
    omega

/-- Whether a list of pairs can be written. -/
def Writable (pairs : List KeyValuePair) : Prop :=
  (∀ p ∈ pairs, p.Valid) ∧ pairs.length ≤ Varint.max

/-- A list that is read can be written, in no more bytes. -/
theorem valid_of_mem_listWords {pairs : List KeyValuePair} {word : Bytes}
    (h : word ∈ listWords pairs) :
    Writable pairs ∧
      (Varint.encode pairs.length ++ wireAll pairs).length ≤ word.length := by
  obtain ⟨front, hc, back, hps, rfl⟩ := Language.mem_mul.mp h
  obtain ⟨hmax, hlen⟩ := Varint.le_of_mem_words hc
  obtain ⟨hvalid, hlens⟩ := valid_of_mem_prod hps
  refine ⟨⟨hvalid, hmax⟩, ?_⟩
  simp only [List.length_append, Varint.length_encode]
  omega

theorem wire_mem_listWords {pairs : List KeyValuePair} (h : Writable pairs) :
    Varint.encode pairs.length ++ wireAll pairs ∈ listWords pairs := by
  rw [← Starts.nil_right, ← reads_decodeList]
  simpa using decodeList_append h.1 h.2 []

/-! ## Values that are too long -/

/-- Whether a list of pairs stands in front until one of them declares too long a value. -/
def Oversized (bytes : Bytes) : Prop :=
  ∃ count pairs t length rest, List.length pairs < count ∧ t % 2 = 1 ∧ maxLength < length ∧
    Starts (Varint.words count * ((pairs.map words).prod * (Varint.words t * Varint.words length)))
      bytes rest

/-- Apart from a value that is too long, only the end of the bytes keeps a pair from being read. -/
theorem decode_eq_error {bytes rest : Bytes} {e : Error} (h : decode bytes = (.error e, rest)) :
    (∃ needed remaining, e = .unexpectedEnd needed remaining) ∨
      ∃ t length, e = .keyValue (.declaredTooLong t length) ∧ t % 2 = 1 ∧ maxLength < length ∧
        Starts (Varint.words t * Varint.words length) bytes rest := by
  rw [decode, Decoder.bind_eq_error] at h
  rcases h with h | ⟨t, middle, ht, h⟩
  · exact .inl (Varint.onlyCutShort_decode h)
  · split_ifs at h with he
    · rcases Decoder.bind_eq_error.mp h with h | ⟨v, left, -, h⟩
      · exact .inl (Varint.onlyCutShort_decode h)
      · cases h
    · rcases Decoder.bind_eq_error.mp h with h | ⟨length, left, hl, h⟩
      · exact .inl (Varint.onlyCutShort_decode h)
      · split_ifs at h with hmax
        · obtain ⟨rfl, rfl⟩ := by simpa using h
          refine .inr ⟨t, length, rfl, by omega, hmax, Starts.mul_iff.mpr ⟨middle, ?_, ?_⟩⟩
          · exact Varint.reads_decode.mp ht
          · exact Varint.reads_decode.mp hl
        · rcases Decoder.bind_eq_error.mp h with h | ⟨b, left', -, h⟩
          · exact .inl (Decoder.onlyCutShort_take _ h)
          · cases h

theorem decode_of_tooLong {bytes rest : Bytes} {t length : Nat} (ho : t % 2 = 1)
    (hmax : maxLength < length) (h : Starts (Varint.words t * Varint.words length) bytes rest) :
    decode bytes = (.error (.keyValue (.declaredTooLong t length)), rest) := by
  obtain ⟨middle, ht, hl⟩ := Starts.mul_iff.mp h
  rw [decode, Decoder.bind_of_ok (Varint.reads_decode.mpr ht), if_neg (by omega),
    Decoder.bind_of_ok (Varint.reads_decode.mpr hl), if_pos hmax]
  rfl

/-- A list of pairs fails with one of its pairs, behind those that could be read. -/
theorem result_decodeMany_eq_error {count : Nat} {c : Course} {rest : Bytes} {e : Error}
    (hc : c.error? = none) : (decodeMany count c).result = (.error e, rest) ↔
      ∃ pairs middle, List.length pairs < count ∧ Starts (pairs.map words).prod c.rest middle ∧
        decode middle = (.error e, rest) := by
  induction count generalizing c with
  | zero => simp [decodeMany, Course.result, hc]
  | succ count ih =>
    rcases hd : decode c.rest with ⟨e' | p, left⟩
    · rw [decodeMany_succ_of_error hd, Course.next_of_error hd]
      constructor
      · intro h
        obtain ⟨rfl, rfl⟩ : e' = e ∧ left = rest := by simpa [Course.result] using h
        exact ⟨[], c.rest, Nat.succ_pos count, Starts.one_iff.mpr rfl, hd⟩
      · rintro ⟨_ | ⟨p, pairs⟩, back, hl, hs, he⟩
        · obtain rfl := Starts.one_iff.mp hs
          cases hd.symm.trans he
          rfl
        · rw [List.map_cons, List.prod_cons] at hs
          obtain ⟨middle, hp, -⟩ := Starts.mul_iff.mp hs
          cases hd.symm.trans (reads_decode.mpr hp)
    · rw [decodeMany_succ_of_ok hc hd, ih (by rw [Course.next_of_ok hd, hc]), Course.next_of_ok hd]
      constructor
      · rintro ⟨pairs, back, hl, hs, he⟩
        refine ⟨p :: pairs, back, Nat.succ_lt_succ hl, ?_, he⟩
        rw [List.map_cons, List.prod_cons]
        exact Starts.mul_iff.mpr ⟨left, reads_decode.mp hd, hs⟩
      · rintro ⟨_ | ⟨p', pairs⟩, back, hl, hs, he⟩
        · obtain rfl := Starts.one_iff.mp hs
          cases hd.symm.trans he
        · rw [List.map_cons, List.prod_cons] at hs
          obtain ⟨middle, hp, hs⟩ := Starts.mul_iff.mp hs
          cases hd.symm.trans (reads_decode.mpr hp)
          exact ⟨pairs, back, Nat.lt_of_succ_lt_succ hl, hs, he⟩

theorem oversized_iff {bytes : Bytes} : Oversized bytes ↔
    ∃ t length rest, decodeList bytes = (.error (.keyValue (.declaredTooLong t length)), rest) := by
  constructor
  · rintro ⟨count, pairs, t, length, rest, hl, ho, hmax, h⟩
    obtain ⟨back, hc, hps⟩ := Starts.mul_iff.mp h
    obtain ⟨middle, hps, hp⟩ := Starts.mul_iff.mp hps
    refine ⟨t, length, rest, ?_⟩
    rw [decodeList_of_count (Varint.reads_decode.mpr hc), decodeCounted]
    exact (result_decodeMany_eq_error rfl).mpr
      ⟨pairs, middle, hl, hps, decode_of_tooLong ho hmax hp⟩
  · rintro ⟨t, length, rest, h⟩
    rcases decodeList_fails_iff.mp h with h | ⟨count, back, hc, h⟩
    · obtain ⟨needed, remaining, he⟩ := Varint.onlyCutShort_decode h
      cases he
    · obtain ⟨pairs, middle, hl, hps, hp⟩ := (result_decodeMany_eq_error rfl).mp h
      rcases decode_eq_error hp with ⟨needed, remaining, he⟩ | ⟨t', length', he, ho, hmax, hs⟩
      · cases he
      · exact ⟨count, pairs, t', length', rest, hl, ho, hmax, Starts.mul_iff.mpr ⟨back,
          Varint.reads_decode.mp hc, Starts.mul_iff.mpr ⟨middle, hps, hs⟩⟩⟩

/-- A list of pairs fails for want of bytes, or with a value that declares too much. -/
theorem decodeList_eq_error {bytes rest : Bytes} {e : Error}
    (h : decodeList bytes = (.error e, rest)) :
    (∃ needed remaining, e = .unexpectedEnd needed remaining) ∨
      ∃ t length, e = .keyValue (.declaredTooLong t length) := by
  rcases decodeList_fails_iff.mp h with h | ⟨count, back, -, h⟩
  · exact .inl (Varint.onlyCutShort_decode h)
  · obtain ⟨pairs, middle, -, -, hp⟩ := (result_decodeMany_eq_error rfl).mp h
    refine (decode_eq_error hp).imp_right ?_
    rintro ⟨t, length, he, -⟩
    exact ⟨t, length, he⟩

/-- The code that a list of pairs fails with tells whether one of them declared too much. -/
theorem code_of_decodeList {bytes rest : Bytes} {e : Error}
    (h : decodeList bytes = (.error e, rest)) :
    (Oversized bytes ∧ e.code = .keyValueFormattingError) ∨
      (¬ Oversized bytes ∧ e.code = .protocolViolation) := by
  rcases decodeList_eq_error h with ⟨needed, remaining, rfl⟩ | ⟨t, length, rfl⟩
  · refine .inr ⟨?_, rfl⟩
    intro ho
    obtain ⟨t, length, rest', h'⟩ := oversized_iff.mp ho
    cases h.symm.trans h'
  · exact .inl ⟨oversized_iff.mpr ⟨t, length, rest, h⟩, rfl⟩

theorem not_oversized_of_starts {pairs : List KeyValuePair} {bytes rest : Bytes}
    (h : Starts (listWords pairs) bytes rest) : ¬ Oversized bytes := by
  intro ho
  obtain ⟨t, length, rest', h'⟩ := oversized_iff.mp ho
  cases (reads_decodeList.mpr h).symm.trans h'

end MediaOverQuic.KeyValuePair
