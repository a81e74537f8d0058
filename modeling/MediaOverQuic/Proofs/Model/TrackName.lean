import Mathlib.Tactic
import MediaOverQuic.Model.TrackName
import MediaOverQuic.Proofs.Text.Utf8

/-!
# Track names read and written

The text of a track name is the fields of its namespace, each with a slash behind it, and the name.
A text is taken apart at its slashes, so it is read as a track name exactly if what stands between
them keeps to the limits, and it is written again as it was. What can not be told from a text is a
slash inside of a part, and bytes that are no text.
-/
namespace MediaOverQuic.TrackName

/-! ## Between the slashes -/

/-- The fields with a slash behind each of them, and the name. -/
def joined (fields : List (List Char)) (name : List Char) : List Char :=
  fields.flatMap (· ++ ['/']) ++ name

variable {fields : List (List Char)} {name : List Char}

theorem intercalate_concat (fields : List (List Char)) (name : List Char) :
    ['/'].intercalate (fields ++ [name]) = joined fields name := by
  induction fields with
  | nil => simp [joined]
  | cons field fields ih =>
    have hnext : joined (field :: fields) name = field ++ ['/'] ++ joined fields name := by
      simp [joined]
    rw [hnext, ← ih]
    cases fields <;> exact List.intercalate_cons_cons

theorem notMem_of_mem_splitOn {cs part : List Char} (h : part ∈ cs.splitOn '/') : '/' ∉ part := by
  induction cs generalizing part with
  | nil =>
    obtain rfl : part = [] := by simpa using h
    exact List.not_mem_nil
  | cons c cs ih =>
    rw [List.splitOn_cons_eq_if_modifyHead] at h
    split_ifs at h with hc
    · rcases List.mem_cons.mp h with rfl | h
      · exact List.not_mem_nil
      · exact ih h
    · cases hparts : cs.splitOn '/' with
      | nil => exact absurd hparts (List.splitOn_ne_nil _ _)
      | cons first others =>
        rw [hparts, List.modifyHead_cons] at h
        rcases List.mem_cons.mp h with rfl | h
        · have hfirst : '/' ∉ first := ih (hparts ▸ List.mem_cons_self)
          have hne : c ≠ '/' := by simpa using hc
          simp [hfirst, hne.symm]
        · exact ih (hparts ▸ List.mem_cons_of_mem first h)

/-- Every text has fields and a name, which have no slashes. -/
theorem exists_joined (text : String) :
    ∃ fields name, parts text = fields ++ [name] ∧ text.toList = joined fields name ∧
      ∀ part ∈ fields ++ [name], '/' ∉ part := by
  obtain ⟨fields, name, hparts⟩ :=
    (List.eq_nil_or_concat' (parts text)).resolve_left (List.splitOn_ne_nil _ _)
  refine ⟨fields, name, hparts, ?_, fun part hpart => ?_⟩
  · rw [← intercalate_concat, ← hparts, parts, List.intercalate_splitOn]
  · rw [← hparts] at hpart
    exact notMem_of_mem_splitOn hpart

theorem parts_joined (h : ∀ part ∈ fields ++ [name], '/' ∉ part) :
    parts (String.ofList (joined fields name)) = fields ++ [name] := by
  rw [parts, String.toList_ofList, ← intercalate_concat]
  exact List.splitOn_intercalate '/' h (by simp)

theorem count_joined (h : ∀ part ∈ fields ++ [name], '/' ∉ part) :
    (joined fields name).count '/' = fields.length := by
  induction fields with
  | nil => simpa [joined, List.count_eq_zero] using h
  | cons field fields ih =>
    have hfield : field.count '/' = 0 := List.count_eq_zero.mpr (h field (by simp))
    have hcount := ih fun part hpart => h part (List.mem_cons_of_mem field hpart)
    simp only [joined, List.count_append, List.flatMap_cons, List.count_singleton_self,
      List.length_cons, hfield] at hcount ⊢
    omega

theorem filter_joined (h : ∀ part ∈ fields ++ [name], '/' ∉ part) :
    (joined fields name).filter (· ≠ '/') = fields.flatten ++ name := by
  have hkeep {part : List Char} (hpart : part ∈ fields ++ [name]) :
      part.filter (· ≠ '/') = part := by
    refine List.filter_eq_self.mpr fun c hc => ?_
    have hne : c ≠ '/' := fun he => h part hpart (he ▸ hc)
    simpa using hne
  have hfield : ∀ field ∈ fields, (field ++ ['/']).filter (· ≠ '/') = field := by
    intro field hmem
    rw [List.filter_append, hkeep (List.mem_append_left _ hmem)]
    simp
  have hname : name.filter (· ≠ '/') = name := hkeep (List.mem_concat_self)
  rw [joined, List.filter_append, hname, List.filter_flatMap, List.flatMap_congr hfield,
    List.flatMap_id']

/-- A text ends with a slash exactly if it has fields and its name is empty. -/
theorem getLast?_joined (h : '/' ∉ name) :
    (joined fields name).getLast? = some '/' ↔ fields ≠ [] ∧ name = [] := by
  by_cases hname : name = []
  · subst hname
    rcases List.eq_nil_or_concat' fields with rfl | ⟨front, field, rfl⟩
    · simp [joined]
    · simp [joined]
  · rw [joined, List.getLast?_append_of_ne_nil _ hname]
    refine iff_of_false (fun hlast => h (List.mem_of_getLast? hlast)) fun hnone => hname hnone.2

/-! ## Bytes of the parts -/

/-- The characters that bytes are read as. -/
def characters (part : Bytes) : List Char := (Utf8.decodeLossy part).toList

/-- The bytes of a part of a text. -/
def bytesOf (part : List Char) : Bytes := Utf8.encode (String.ofList part)

theorem characters_bytesOf (part : List Char) : characters (bytesOf part) = part := by
  rw [characters, bytesOf, Utf8.decodeLossy_encode, String.toList_ofList]

theorem bytesOf_eq_nil_iff {part : List Char} : bytesOf part = [] ↔ part = [] := by
  constructor
  · intro h
    rw [← characters_bytesOf part, h]
    rfl
  · rintro rfl
    rfl

/-- How many slashes a text has. -/
def slashes (text : String) : Nat := text.toList.count '/'

/-- A text without its slashes. -/
def withoutSlashes (text : String) : String := String.ofList (text.toList.filter (· ≠ '/'))

/-- A slash is one byte. -/
theorem utf8ByteSize_withoutSlashes (text : String) :
    (withoutSlashes text).utf8ByteSize + slashes text = text.utf8ByteSize := by
  rw [← Utf8.length_encode, ← Utf8.length_encode, withoutSlashes, Utf8.encode_ofList, slashes,
    Utf8.encode]
  induction text.toList with
  | nil => rfl
  | cons c cs ih =>
    by_cases hc : c = '/'
    · subst hc
      have hslash : String.utf8EncodeChar '/' = [0x2F] := rfl
      simp [hslash] at ih ⊢
      omega
    · simp [hc] at ih ⊢
      omega

/-- What is counted are the bytes of the text without its slashes. -/
theorem totalLength_bytesOf (fields : List (List Char)) (name : List Char) :
    (TrackName.mk (fields.map bytesOf) (bytesOf name)).totalLength =
      (Utf8.encode (String.ofList (fields.flatten ++ name))).length := by
  have hfields : (fields.map bytesOf).flatten = bytesOf fields.flatten := by
    induction fields with
    | nil => rfl
    | cons field fields ih =>
      rw [List.map_cons, List.flatten_cons, ih]
      simp only [bytesOf, Utf8.encode_ofList, List.flatten_cons, List.flatMap_append]
  rw [totalLength, hfields, bytesOf, bytesOf, Utf8.encode_ofList, Utf8.encode_ofList,
    Utf8.encode_ofList, List.flatMap_append, List.length_append, Nat.add_comm]

/-! ## Reading and writing -/

theorem toList_text (t : TrackName) :
    t.text.toList = joined (t.namespaceFields.map characters) (characters t.name) := by
  have hslash : "/".toList = ['/'] := rfl
  rw [text, String.toList_intercalate, hslash, List.map_append, List.map_singleton,
    List.map_append, List.map_singleton, List.map_map, intercalate_concat]
  rfl

theorem parse_joined (h : ∀ part ∈ fields ++ [name], '/' ∉ part) :
    parse (String.ofList (joined fields name)) = make (fields.map bytesOf) (bytesOf name) := by
  have hmap : (fun part => Utf8.encode (String.ofList part)) = bytesOf := rfl
  rw [parse, parts_joined h, hmap, List.map_append, List.map_singleton]
  simp

theorem make_eq_ok_iff {namespaceFields : List Bytes} {last : Bytes} {t : TrackName} :
    make namespaceFields last = .ok t ↔
      t = ⟨namespaceFields, last⟩ ∧ 1 ≤ namespaceFields.length ∧ namespaceFields.length ≤ 32 ∧
        last ≠ [] ∧ t.totalLength ≤ 4096 := by
  have hfields : maxFields = 32 := rfl
  have hlength : maxLength = 4096 := rfl
  simp only [make]
  split_ifs with hcount hempty hlong
  · refine iff_of_false (by simp) ?_
    rintro ⟨-, hmin, hmax, -⟩
    omega
  · exact iff_of_false (by simp) fun hok => hok.2.2.2.1 hempty
  · refine iff_of_false (by simp) ?_
    rintro ⟨rfl, -, -, -, hle⟩
    omega
  · rw [Except.ok.injEq]
    constructor
    · rintro rfl
      exact ⟨rfl, by omega, by omega, hempty, by omega⟩
    · exact fun hok => hok.1.symm

theorem violation_of_make_eq_error {namespaceFields : List Bytes} {last : Bytes} {e : Error}
    (h : make namespaceFields last = .error e) :
    ∃ v : Violation, e = .violation v ∧ v.code = .protocolViolation := by
  simp only [make] at h
  split_ifs at h <;> obtain rfl := Except.error.inj h <;> exact ⟨_, rfl, rfl⟩

/-- The texts that name a track. -/
structure Readable (text : String) : Prop where
  /-- There is a namespace, and not too many fields are in it. -/
  fields : 1 ≤ slashes text ∧ slashes text ≤ 32
  /-- There is something behind the last slash. -/
  named : text.toList.getLast? ≠ some '/'
  short : (withoutSlashes text).utf8ByteSize ≤ 4096

theorem utf8ByteSize_withoutSlashes_joined (h : ∀ part ∈ fields ++ [name], '/' ∉ part) :
    (withoutSlashes (String.ofList (joined fields name))).utf8ByteSize =
      (TrackName.mk (fields.map bytesOf) (bytesOf name)).totalLength := by
  rw [totalLength_bytesOf, Utf8.length_encode, withoutSlashes, String.toList_ofList,
    filter_joined h]

theorem slashes_joined (h : ∀ part ∈ fields ++ [name], '/' ∉ part) :
    slashes (String.ofList (joined fields name)) = fields.length := by
  rw [slashes, String.toList_ofList, count_joined h]

theorem readable_joined_iff (h : ∀ part ∈ fields ++ [name], '/' ∉ part) :
    Readable (String.ofList (joined fields name)) ↔
      ∃ t, make (fields.map bytesOf) (bytesOf name) = .ok t := by
  have hlast : (joined fields name).getLast? = some '/' ↔ fields ≠ [] ∧ name = [] :=
    getLast?_joined (h name List.mem_concat_self)
  have hcount := slashes_joined h
  have hsize := utf8ByteSize_withoutSlashes_joined h
  constructor
  · rintro ⟨⟨hmin, hmax⟩, hnamed, hshort⟩
    rw [hcount] at hmin hmax
    rw [String.toList_ofList, ne_eq, hlast] at hnamed
    rw [hsize] at hshort
    have hfields : fields ≠ [] := List.ne_nil_of_length_pos hmin
    refine ⟨_, make_eq_ok_iff.mpr ⟨rfl, ?_, ?_, fun hempty => ?_, hshort⟩⟩
    · rwa [List.length_map]
    · rwa [List.length_map]
    · exact hnamed ⟨hfields, bytesOf_eq_nil_iff.mp hempty⟩
  · rintro ⟨t, ht⟩
    obtain ⟨rfl, hmin, hmax, hname, hshort⟩ := make_eq_ok_iff.mp ht
    rw [List.length_map] at hmin hmax
    refine ⟨by rw [hcount]; exact ⟨hmin, hmax⟩, ?_, by rwa [hsize]⟩
    rw [String.toList_ofList, ne_eq, hlast]
    exact fun hempty => hname (bytesOf_eq_nil_iff.mpr hempty.2)

/-- Bytes that are a text without slashes. -/
def IsPlain (part : Bytes) : Prop :=
  (∃ text, Utf8.encode text = part) ∧ 0x2F ∉ part

theorem characters_encode (text : String) : characters (Utf8.encode text) = text.toList := by
  rw [characters, Utf8.decodeLossy_encode]

theorem IsPlain.bytesOf_characters {part : Bytes} (h : IsPlain part) :
    bytesOf (characters part) = part := by
  obtain ⟨⟨text, rfl⟩, -⟩ := h
  rw [characters_encode, bytesOf, String.ofList_toList]

/-- Only a slash is encoded with the byte of the slash. -/
theorem IsPlain.notMem_characters {part : Bytes} (h : IsPlain part) : '/' ∉ characters part := by
  obtain ⟨⟨text, rfl⟩, hslash⟩ := h
  rw [characters_encode]
  exact fun hmem => hslash (List.mem_flatMap.mpr ⟨'/', hmem, List.mem_cons_self⟩)

/-- The parts of a name that is text throughout are between the slashes of its text. -/
theorem parse_text {t : TrackName} (h : ∀ part ∈ t.namespaceFields ++ [t.name], IsPlain part) :
    parse t.text = make t.namespaceFields t.name := by
  have hfields : ∀ part ∈ t.namespaceFields, (bytesOf ∘ characters) part = id part := by
    intro part hpart
    rw [Function.comp_apply, (h part (List.mem_append_left _ hpart)).bytesOf_characters, id]
  have hname : bytesOf (characters t.name) = t.name :=
    (h t.name List.mem_concat_self).bytesOf_characters
  have hplain : ∀ part ∈ t.namespaceFields.map characters ++ [characters t.name], '/' ∉ part := by
    intro part hpart
    rw [← List.map_singleton, ← List.map_append] at hpart
    obtain ⟨raw, hraw, rfl⟩ := List.mem_map.mp hpart
    exact (h raw hraw).notMem_characters
  rw [← String.ofList_toList (s := t.text), toList_text, parse_joined hplain, List.map_map, hname,
    List.map_congr_left hfields, List.map_id]

/-- Exactly the readable texts are read as track names, every other one is a protocol violation.
What is read is written as the text it was read from, and counts its bytes less the slashes. A name
made of parts that are texts without slashes is read again from its own text. -/
theorem text_codec_exact :
    (∀ text, Readable text → ∃ t, parse text = .ok t ∧ t.text = text ∧
      t.totalLength + slashes text = text.utf8ByteSize) ∧
    (∀ text, ¬ Readable text →
      ∃ v : Violation, parse text = .error (.violation v) ∧ v.code = .protocolViolation) ∧
    ∀ namespaceFields last t, make namespaceFields last = .ok t →
      (∀ part ∈ namespaceFields ++ [last], IsPlain part) → parse t.text = .ok t := by
  refine ⟨fun text hread => ?_, fun text hread => ?_, fun namespaceFields last t hmake hplain => ?_⟩
  · obtain ⟨fields, name, -, htext, hparts⟩ := exists_joined text
    obtain rfl : String.ofList (joined fields name) = text := by rw [← htext, String.ofList_toList]
    obtain ⟨t, ht⟩ := (readable_joined_iff hparts).mp hread
    obtain ⟨rfl, -⟩ := make_eq_ok_iff.mp ht
    refine ⟨_, (parse_joined hparts).trans ht, ?_, ?_⟩
    · rw [← String.toList_inj, toList_text, String.toList_ofList, List.map_map,
        characters_bytesOf]
      congr 1
      exact List.map_id'' characters_bytesOf _
    · rw [← utf8ByteSize_withoutSlashes_joined hparts, utf8ByteSize_withoutSlashes]
  · obtain ⟨fields, name, -, htext, hparts⟩ := exists_joined text
    obtain rfl : String.ofList (joined fields name) = text := by rw [← htext, String.ofList_toList]
    rw [parse_joined hparts]
    rw [readable_joined_iff hparts] at hread
    cases hmake : make (fields.map bytesOf) (bytesOf name) with
    | ok t => exact absurd ⟨t, hmake⟩ hread
    | error e =>
      obtain ⟨v, rfl, hv⟩ := violation_of_make_eq_error hmake
      exact ⟨v, rfl, hv⟩
  · obtain ⟨rfl, -⟩ := make_eq_ok_iff.mp hmake
    rw [parse_text hplain, hmake]

theorem text_codec_exact_doubled_slash :
    (∃ t, parse "a//é" = .ok t ∧ t.text = "a//é" ∧ t.totalLength + 2 = 5) ∧
      (∃ v : Violation, parse "live/" = .error (.violation v) ∧ v.code = .protocolViolation) ∧
      parse (TrackName.mk [[0x61], []] [0xC3, 0xA9]).text = .ok ⟨[[0x61], []], [0xC3, 0xA9]⟩ := by
  obtain ⟨hread, hreject, hback⟩ := text_codec_exact
  have hplain : ∀ part ∈ [[0x61], [], [0xC3, 0xA9]], IsPlain part := by
    simp only [List.forall_mem_cons, List.not_mem_nil, false_implies, implies_true, and_true]
    exact ⟨⟨⟨"a", rfl⟩, by decide⟩, ⟨⟨"", rfl⟩, by decide⟩, ⟨⟨"é", rfl⟩, by decide⟩⟩
  refine ⟨hread _ ⟨by decide +kernel, by decide +kernel, by decide +kernel⟩, hreject _ ?_,
    hback [[0x61], []] [0xC3, 0xA9] _ rfl hplain⟩
  exact fun h => h.named (by decide +kernel)

end MediaOverQuic.TrackName
