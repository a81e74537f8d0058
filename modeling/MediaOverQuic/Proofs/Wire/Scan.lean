import Mathlib.Tactic
import MediaOverQuic.Proofs.Wire.Varint

/-!
# What a scan may rely on

Bytes that arrive later do not change what a scan has made of the earlier ones, and a scan that asks
for bytes needs all of them. So it makes no difference in which pieces a stream arrives, and a
reader that takes what is asked for never takes a byte that belongs to what comes next.
-/
namespace MediaOverQuic.Scan

structure Lawful (s : Scan α) : Prop where
  /-- What is ready stays as it is when more bytes arrive. -/
  steady : ∀ {bytes a rest}, s bytes = .ready (a, rest) →
    ∀ later, s (bytes ++ later) = .ready (a, rest ++ later)
  /-- What is asked for is used up. -/
  frugal : ∀ {bytes count atEnd chunk a rest}, s bytes = .more count atEnd →
    chunk.length ≤ count → s (bytes ++ chunk) = .ready (a, rest) → rest = []
  /-- At least one byte is asked for. -/
  count_pos : ∀ {bytes count atEnd}, s bytes = .more count atEnd → 0 < count
  /-- What is left over was there. -/
  suffix : ∀ {bytes a rest}, s bytes = .ready (a, rest) → rest <:+ bytes

/-! ## Single steps -/

theorem bind_of_ready {s : Scan α} {next : α → Scan β} {bytes rest : Bytes} {a : α}
    (h : s bytes = .ready (a, rest)) : (s >>= next) bytes = next a rest := by
  show bind s next bytes = _
  simp only [bind, h]

theorem bind_of_more {s : Scan α} {next : α → Scan β} {bytes : Bytes} {count : Nat}
    {atEnd : StreamError} (h : s bytes = .more count atEnd) :
    (s >>= next) bytes = .more count atEnd := by
  show bind s next bytes = _
  simp only [bind, h]

@[simp] theorem pure_apply (a : α) (bytes : Bytes) :
    (Pure.pure a : Scan α) bytes = .ready (a, bytes) := rfl

/-- A scan in two parts is ready when both are. -/
theorem bind_eq_ready {s : Scan α} {next : α → Scan β} {bytes rest : Bytes} {b : β}
    (h : (s >>= next) bytes = .ready (b, rest)) :
    ∃ a middle, s bytes = .ready (a, middle) ∧ next a middle = .ready (b, rest) := by
  cases hs : s bytes with
  | ready found =>
    obtain ⟨a, middle⟩ := found
    exact ⟨a, middle, rfl, by rwa [bind_of_ready hs] at h⟩
  | more count atEnd =>
    rw [bind_of_more hs] at h
    cases h

/-- A scan in two parts asks for bytes when one of them does. -/
theorem bind_eq_more {s : Scan α} {next : α → Scan β} {bytes : Bytes} {count : Nat}
    {atEnd : StreamError} (h : (s >>= next) bytes = .more count atEnd) :
    s bytes = .more count atEnd ∨
      ∃ a middle, s bytes = .ready (a, middle) ∧ next a middle = .more count atEnd := by
  cases hs : s bytes with
  | ready found =>
    obtain ⟨a, middle⟩ := found
    exact .inr ⟨a, middle, rfl, by rwa [bind_of_ready hs] at h⟩
  | more c e =>
    rw [bind_of_more hs] at h
    obtain ⟨rfl, rfl⟩ := by simpa using h
    exact .inl rfl

/-! ## The scans of this library -/

theorem lawful_pure (a : α) : Lawful (Pure.pure a : Scan α) where
  steady := by
    rintro bytes b rest h later
    obtain ⟨rfl, rfl⟩ := by simpa using h
    rfl
  frugal := by simp
  count_pos := by simp
  suffix := by
    rintro bytes b rest h
    obtain ⟨rfl, rfl⟩ := by simpa using h
    exact List.suffix_rfl

theorem Lawful.bind {s : Scan α} {next : α → Scan β} (hs : Lawful s)
    (hn : ∀ a, Lawful (next a)) : Lawful (s >>= next) where
  steady := by
    intro bytes b rest h later
    obtain ⟨a, middle, ha, hb⟩ := bind_eq_ready h
    rw [bind_of_ready (hs.steady ha later)]
    exact (hn a).steady hb later
  frugal := by
    intro bytes count atEnd chunk b rest h hc hr
    obtain ⟨a, middle, ha, hb⟩ := bind_eq_ready hr
    rcases bind_eq_more h with hmore | ⟨a', middle', ha', hmore⟩
    · -- the first part asked, so it leaves nothing to the second one
      have hm := hs.frugal hmore hc ha
      subst hm
      exact List.suffix_nil.mp ((hn a).suffix hb)
    · have hsame := hs.steady ha' chunk
      obtain ⟨rfl, rfl⟩ := by simpa using hsame.symm.trans ha
      exact (hn a').frugal hmore hc hb
  count_pos := by
    intro bytes count atEnd h
    rcases bind_eq_more h with hmore | ⟨a, middle, -, hmore⟩
    · exact hs.count_pos hmore
    · exact (hn a).count_pos hmore
  suffix := by
    intro bytes b rest h
    obtain ⟨a, middle, ha, hb⟩ := bind_eq_ready h
    exact ((hn a).suffix hb).trans (hs.suffix ha)

theorem exactly_eq_ready {n : Nat} {bytes front rest : Bytes}
    (h : exactly n bytes = .ready (front, rest)) : front.length = n ∧ bytes = front ++ rest := by
  rcases Nat.lt_or_ge bytes.length n with hlt | hle
  · rw [exactly_of_lt hlt] at h
    cases h
  · rw [exactly_of_le hle] at h
    obtain ⟨rfl, rfl⟩ := by simpa using h
    exact ⟨List.length_take_of_le hle, (List.take_append_drop n bytes).symm⟩

theorem exactly_eq_more {n count : Nat} {bytes : Bytes} {atEnd : StreamError}
    (h : exactly n bytes = .more count atEnd) : bytes.length < n ∧ count = n - bytes.length := by
  rcases Nat.lt_or_ge bytes.length n with hlt | hle
  · rw [exactly_of_lt hlt] at h
    exact ⟨hlt, by simpa using (congrArg (fun d => match d with | .more c _ => c | _ => 0) h).symm⟩
  · rw [exactly_of_le hle] at h
    cases h

theorem lawful_exactly (n : Nat) : Lawful (exactly n) where
  steady := by
    intro bytes front rest h later
    obtain ⟨rfl, rfl⟩ := exactly_eq_ready h
    rw [List.append_assoc, exactly_append]
  frugal := by
    intro bytes count atEnd chunk front rest h hc hr
    obtain ⟨hlt, rfl⟩ := exactly_eq_more h
    obtain ⟨hn, he⟩ := exactly_eq_ready hr
    have hl := congrArg List.length he
    simp only [List.length_append] at hl
    exact List.length_eq_zero_iff.mp (by omega)
  count_pos := by
    intro bytes count atEnd h
    obtain ⟨hlt, rfl⟩ := exactly_eq_more h
    omega
  suffix := by
    intro bytes front rest h
    obtain ⟨-, rfl⟩ := exactly_eq_ready h
    exact List.suffix_append front rest

/-- A number is scanned as the bytes that its first one declares. -/
theorem varint_cons (first : UInt8) (back : Bytes) :
    varint (first :: back) =
      (exactly (Varint.declaredWidth first) >>= fun front => Pure.pure (Varint.value front))
        (first :: back) := by
  cases h : exactly (Varint.declaredWidth first) (first :: back) with
  | ready found => rw [bind_of_ready h]; simp only [varint, h]; rfl
  | more count atEnd => rw [bind_of_more h]; simp only [varint, h]

theorem lawful_varint : Lawful varint := by
  have hbehind (first : UInt8) := (lawful_exactly (Varint.declaredWidth first)).bind
    fun front => lawful_pure (Varint.value front)
  constructor
  · rintro (_ | ⟨first, back⟩) v rest h later
    · cases h
    · rw [varint_cons] at h
      rw [List.cons_append, varint_cons, ← List.cons_append]
      exact (hbehind first).steady h later
  · rintro (_ | ⟨first, back⟩) count atEnd chunk v rest h hc hr
    · obtain ⟨rfl, -⟩ : 1 = count ∧ _ := by simpa [varint] using h
      cases chunk with
      | nil => cases hr
      | cons first more =>
        -- the one byte that was asked for is all there is
        obtain rfl : more = [] := List.length_eq_zero_iff.mp (by simpa using hc)
        rw [List.nil_append, varint_cons] at hr
        obtain ⟨front, middle, hf, hv⟩ := bind_eq_ready hr
        obtain ⟨-, rfl⟩ := by simpa using hv
        obtain ⟨hl, he⟩ := exactly_eq_ready hf
        have hpos : 0 < Varint.declaredWidth first := by
          rw [Varint.declaredWidth, Nat.one_shiftLeft]
          exact Nat.two_pow_pos _
        have hlen := congrArg List.length he
        simp only [List.length_append, List.length_singleton] at hlen
        exact List.length_eq_zero_iff.mp (by omega)
    · rw [varint_cons] at h
      rw [List.cons_append, varint_cons, ← List.cons_append] at hr
      exact (hbehind first).frugal h hc hr
  · rintro (_ | ⟨first, back⟩) count atEnd h
    · obtain ⟨rfl, -⟩ : 1 = count ∧ _ := by simpa [varint] using h
      decide
    · rw [varint_cons] at h
      exact (hbehind first).count_pos h
  · rintro (_ | ⟨first, back⟩) v rest h
    · cases h
    · rw [varint_cons] at h
      exact (hbehind first).suffix h

/-! ## Reading on -/

/-- What a reader has got that did not take more than it was asked for. -/
def Tight (s : Scan α) (got : Bytes) : Prop := ∀ a rest, s got = .ready (a, rest) → rest = []

theorem Lawful.tight_nil {s : Scan α} (hs : Lawful s) : Tight s [] :=
  fun _ _ h => List.suffix_nil.mp (hs.suffix h)

theorem Lawful.tight_append {s : Scan α} (hs : Lawful s) {got chunk : Bytes} {count : Nat}
    {atEnd : StreamError} (h : s got = .more count atEnd) (hc : chunk.length ≤ count) :
    Tight s (got ++ chunk) :=
  fun _ _ hr => hs.frugal h hc hr

end MediaOverQuic.Scan
