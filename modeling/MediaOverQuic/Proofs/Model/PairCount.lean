import Mathlib.Tactic
import MediaOverQuic.Proofs.Model.PairGrammar

/-!
# Lists that declare too many pairs

A list of pairs may declare any number of them, whatever stands behind. A pair takes at least two
bytes, so no more pairs are begun than there are bytes for and one more, at which reading fails.
Reading itself notes how much room it makes and where it begins a pair.
-/
namespace MediaOverQuic

theorem Varint.width_pos (v : Nat) : 0 < width v := by
  unfold width
  split_ifs <;> decide

namespace KeyValuePair

/-! ## The bytes of a pair -/

theorem two_le_length_wire (p : KeyValuePair) : 2 ≤ p.wire.length := by
  obtain ⟨t, v | b⟩ := p
  · have ht := Varint.width_pos t
    have hv := Varint.width_pos v
    simp only [wire, List.length_append, Varint.length_encode]
    omega
  · have ht := Varint.width_pos t
    have hl := Varint.width_pos b.length
    simp only [wire, List.length_append, Varint.length_encode]
    omega

/-- A pair that is read takes at least two bytes. -/
theorem length_add_two_le_of_decode {bytes rest : Bytes} {p : KeyValuePair}
    (h : decode bytes = (.ok p, rest)) : rest.length + 2 ≤ bytes.length := by
  have hle : 2 + rest.length ≤ bytes.length := (reads_decode.mp h).length_le fun _ hword =>
    (two_le_length_wire p).trans (valid_of_mem_words hword).2
  omega

theorem two_mul_length_le_of_starts {pairs : List KeyValuePair} {bytes rest : Bytes}
    (h : Starts (pairs.map words).prod bytes rest) :
    2 * pairs.length + rest.length ≤ bytes.length := by
  induction pairs generalizing bytes with
  | nil =>
    obtain rfl := Starts.one_iff.mp h
    simp
  | cons p pairs ih =>
    rw [List.map_cons, List.prod_cons] at h
    obtain ⟨middle, hp, hs⟩ := Starts.mul_iff.mp h
    have hfirst := length_add_two_le_of_decode (reads_decode.mpr hp)
    have hlater := ih hs
    rw [List.length_cons]
    omega

/-! ## What reading notes -/

variable {count : Nat} {c d : Course} {bytes rest : Bytes}

/-- All that reading `count` more pairs can come to. -/
inductive Continues (count : Nat) (c d : Course) : Prop
  | whole {pairs : List KeyValuePair} (hl : pairs.length = count) (herror : d.error? = none)
      (hread : d.read.toList = c.read.toList ++ pairs)
      (hs : Starts (pairs.map words).prod c.rest d.rest)
      (hbegun : d.begun.length = c.begun.length + pairs.length)
  | broken {pairs : List KeyValuePair} {e : Error} {middle : Bytes} {earlier : List Bytes}
      (hl : pairs.length < count) (herror : d.error? = some e)
      (hread : d.read.toList = c.read.toList ++ pairs)
      (hs : Starts (pairs.map words).prod c.rest middle) (he : decode middle = (.error e, d.rest))
      (hbegun : d.begun = middle :: earlier)
      (hearlier : earlier.length = c.begun.length + pairs.length)

/-- Behind a pair that could be read, reading goes on as it would from there. -/
theorem Continues.of_next {p : KeyValuePair} (hp : decode c.rest = (.ok p, rest))
    (h : Continues count c.next d) : Continues (count + 1) c d := by
  have hfirst : Starts (words p) c.rest c.next.rest := by
    rw [Course.next_of_ok hp]
    exact reads_decode.mp hp
  have hread : c.next.read.toList = c.read.toList ++ [p] := by
    rw [Course.next_of_ok hp, Array.toList_push]
  have hnoted : c.next.begun.length = c.begun.length + 1 := by
    rw [Course.next_of_ok hp, List.length_cons]
  have hstarts {pairs : List KeyValuePair} {left : Bytes}
      (hs : Starts (pairs.map words).prod c.next.rest left) :
      Starts ((p :: pairs).map words).prod c.rest left := by
    rw [List.map_cons, List.prod_cons]
    exact Starts.mul_iff.mpr ⟨_, hfirst, hs⟩
  cases h with
  | @whole pairs hl herror hmore hs hbegun =>
    refine @Continues.whole _ _ _ (p :: pairs) (congrArg (· + 1) hl) herror ?_ (hstarts hs) ?_
    · rw [hmore, hread, List.append_assoc, List.singleton_append]
    · rw [hbegun, hnoted, List.length_cons]
      omega
  | @broken pairs e middle earlier hl herror hmore hs he hbegun hearlier =>
    refine @Continues.broken _ _ _ (p :: pairs) e middle earlier (Nat.succ_lt_succ hl) herror ?_
      (hstarts hs) he hbegun ?_
    · rw [hmore, hread, List.append_assoc, List.singleton_append]
    · rw [hearlier, hnoted, List.length_cons]
      omega

theorem continues_decodeMany (hc : c.error? = none) (count : Nat) :
    Continues count c (decodeMany count c) := by
  induction count generalizing c with
  | zero =>
    exact @Continues.whole _ _ _ [] rfl hc (List.append_nil _).symm (Starts.one_iff.mpr rfl) rfl
  | succ count ih =>
    rcases hd : decode c.rest with ⟨e | p, rest⟩
    · rw [decodeMany_succ_of_error hd, Course.next_of_error hd]
      exact @Continues.broken _ _ _ [] e c.rest c.begun (Nat.succ_pos count) rfl
        (List.append_nil _).symm (Starts.one_iff.mpr rfl) hd rfl rfl
    · rw [decodeMany_succ_of_ok hc hd]
      exact .of_next hd (ih (by rw [Course.next_of_ok hd, hc]))

/-- Room is made once, before the first pair. -/
@[simp] theorem room_decodeMany (count : Nat) (c : Course) :
    (decodeMany count c).room = c.room := by
  have hnext (c : Course) : c.next.room = c.room := by
    rw [Course.next]
    split <;> rfl
  induction count generalizing c with
  | zero => rfl
  | succ count ih =>
    rw [decodeMany]
    split
    · exact hnext c
    · rw [ih, hnext]

theorem courseOf_of_count (h : Varint.decode bytes = (.ok count, rest)) :
    courseOf bytes = decodeCounted count rest := by
  rw [courseOf, h]

/-! ## Counts and bytes -/

/-- Whatever number of pairs a list declares, reading it makes room for at most one pair for every
two bytes that follow, and begins at most one pair more than that. If more pairs are declared than
there can be, reading fails. Wherever it fails, it has read the pairs before, and the error is that
of the pair it was at, which was the last one begun: there are too few bytes, or a value declares
too many. -/
theorem count_bounded {count : Nat} {bytes rest : Bytes}
    (h : Varint.decode bytes = (.ok count, rest)) :
    let c := courseOf bytes
    decodeList bytes = c.result ∧ c.begun.length ≤ rest.length / 2 + 1 ∧
      c.room ≤ rest.length / 2 ∧
      (rest.length / 2 < count → ∃ e, c.error? = some e) ∧
      ∀ e, c.error? = some e →
        ∃ middle earlier, c.begun = middle :: earlier ∧ earlier.length = c.read.size ∧
          Starts (c.read.toList.map words).prod rest middle ∧ decode middle = (.error e, c.rest) ∧
          ((∃ needed remaining, e = .unexpectedEnd needed remaining) ∨
            ∃ t length, maxLength < length ∧ e = .keyValue (.declaredTooLong t length)) := by
  intro c
  have hc : c = decodeMany count (.start (roomFor count rest) rest) := courseOf_of_count h
  have hroom : c.room ≤ rest.length / 2 := by
    rw [hc, room_decodeMany]
    exact Nat.min_le_right _ _
  have hcontinues : Continues count (.start (roomFor count rest) rest) c :=
    hc ▸ continues_decodeMany rfl count
  refine ⟨rfl, ?_, hroom, ?_, ?_⟩
  · cases hcontinues with
    | whole hl herror hread hs hbegun =>
      have hle := two_mul_length_le_of_starts hs
      simp only [Course.start, List.length_nil] at hle hbegun
      omega
    | broken hl herror hread hs he hbegun hearlier =>
      have hle := two_mul_length_le_of_starts hs
      simp only [Course.start, List.length_nil] at hle hearlier
      rw [hbegun, List.length_cons]
      omega
  · intro hcount
    cases hcontinues with
    | whole hl herror hread hs hbegun =>
      have hle := two_mul_length_le_of_starts hs
      simp only [Course.start] at hle
      omega
    | @broken _ e _ _ hl herror hread hs he hbegun hearlier => exact ⟨e, herror⟩
  · intro e hfails
    cases hcontinues with
    | whole hl herror hread hs hbegun => cases hfails.symm.trans herror
    | @broken pairs e' middle earlier hl herror hread hs he hbegun hearlier =>
      obtain rfl := Option.some.inj (herror.symm.trans hfails)
      have hpairs : c.read.toList = pairs := hread
      refine ⟨middle, earlier, hbegun, ?_, hpairs ▸ hs, he, ?_⟩
      · rw [hearlier, ← Array.length_toList, hpairs]
        exact Nat.zero_add _
      · refine (decode_eq_error he).imp_right ?_
        rintro ⟨t, length, rfl, -, hmax, -⟩
        exact ⟨t, length, hmax, rfl⟩

/-- As many pairs as can be declared, and bytes for one and a half. -/
theorem count_bounded_huge :
    let bytes : Bytes := [0xFF, 0xFF, 0xFF, 0xFF, 0xFF, 0xFF, 0xFF, 0xFF, 0x02, 0x01, 0x02]
    let c := courseOf bytes
    Varint.decode bytes = (.ok Varint.max, [0x02, 0x01, 0x02]) ∧ c.begun.length ≤ 2 ∧
      c.room ≤ 1 ∧ c.read = #[⟨2, .int 1⟩] ∧ c.begun = [[0x02], [0x02, 0x01, 0x02]] ∧
      ∃ e, c.error? = some e := by
  intro bytes c
  have hcount : Varint.decode bytes = (.ok Varint.max, [0x02, 0x01, 0x02]) := by decide
  obtain ⟨-, hbegun, hroom, hfails, -⟩ := count_bounded hcount
  exact ⟨hcount, hbegun, hroom, by decide, by decide, hfails (by decide)⟩

end KeyValuePair

end MediaOverQuic
