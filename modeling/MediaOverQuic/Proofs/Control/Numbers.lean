import Mathlib.Tactic
import MediaOverQuic.Proofs.Control.Scanning
import MediaOverQuic.Proofs.Wire.Widths

/-!
# Numbers from a stream and from a buffer

The header of a frame is read from the stream while it arrives, the payload from a buffer that is
complete. Both read the same numbers and use up the same bytes. They differ only in what they do
when a number is cut short: with a buffer that is an error and nothing is used up, with a stream the
call waits, and fails when the stream ends. It makes no difference either that a stream is read into
scratch space, first the byte that announces how many there are, and then the others.
-/
namespace MediaOverQuic

namespace Varint

variable {bytes : Bytes}

/-- Whether a buffer with these bytes is too short for the number in front. -/
def Short (bytes : Bytes) : Prop :=
  ∃ needed remaining, decode bytes = (.error (.unexpectedEnd needed remaining), bytes)

theorem short_iff : Short bytes ↔ bytes.length < announced bytes := by
  constructor
  · rintro ⟨needed, remaining, h⟩
    by_contra hle
    obtain ⟨v, hv⟩ := decode_of_le (Nat.not_lt.mp hle)
    cases h.symm.trans hv
  · intro h
    exact ⟨_, _, decode_of_lt h⟩

theorem decode_eq_ok_or_short (bytes : Bytes) :
    (∃ v rest, decode bytes = (.ok v, rest)) ∨ Short bytes := by
  rcases Nat.lt_or_ge bytes.length (announced bytes) with hlt | hle
  · exact .inr (short_iff.mpr hlt)
  · obtain ⟨v, hv⟩ := decode_of_le hle
    exact .inl ⟨v, _, hv⟩

/-- What stands behind the bytes that the first one announces does not matter. -/
theorem decode_append {first : UInt8} {back : Bytes} (h : declaredWidth first = back.length + 1)
    (rest : Bytes) : decode (first :: back ++ rest) = (.ok (value (first :: back)), rest) :=
  reads_decode.mpr (.of_mem (cons_mem_words.mpr ⟨h, rfl⟩) rest)

end Varint

namespace Scan

variable {bytes rest : Bytes} {v : Nat}

/-- A number is ready to be read from a stream when it could be read from a buffer. -/
theorem varint_eq_ready_iff_decode :
    varint bytes = .ready (v, rest) ↔ Varint.decode bytes = (.ok v, rest) :=
  varint_eq_ready_iff.trans Varint.reads_decode.symm

/-- How the end of a stream within a number, or in front of one, is reported. -/
def endedAt : Bytes → StreamError
  | [] => .unexpectedEnd
  | _ :: _ => .earlyEnd

/-- Where a buffer is too short, the stream is asked for as many bytes as are missing. -/
theorem varint_of_short (h : Varint.Short bytes) :
    varint bytes = .more (Varint.announced bytes - bytes.length) (endedAt bytes) := by
  rw [Varint.short_iff] at h
  cases bytes with
  | nil => rfl
  | cons first back =>
    have hmore : exactly (Varint.declaredWidth first) (first :: back) = _ := exactly_of_lt h
    rw [varint_cons, bind_of_more hmore]
    rfl

/-! ## Through scratch space -/

/-- Takes the first byte of a number. -/
def leading : Scan UInt8 := fun bytes =>
  match bytes with
  | [] => .more 1 .unexpectedEnd
  | first :: rest => .ready (first, rest)

/-- Takes the first byte of a number and then those that it announces, all into eight bytes of
scratch space, the filled part of which is then read as a buffer. -/
def throughScratch : Scan (Except Error Nat) := do
  let first ← leading
  let back ← exactly (Varint.declaredWidth first - 1)
  let scratch := first :: back ++ List.replicate (7 - back.length) 0
  return (Varint.decode (scratch.take (Varint.declaredWidth first))).1

/-- Reading through scratch space makes no difference, and never fails to decode. -/
theorem throughScratch_eq : throughScratch = do return .ok (← varint) := by
  funext bytes
  cases bytes with
  | nil => rfl
  | cons first more =>
    obtain ⟨k, hk⟩ : ∃ k, Varint.declaredWidth first = k + 1 := by
      rcases Varint.declaredWidth_cases first with h | h | h | h <;> exact ⟨_, h⟩
    show (exactly (Varint.declaredWidth first - 1) >>= fun back => Pure.pure (Varint.decode
      ((first :: back ++ List.replicate (7 - back.length) 0).take (Varint.declaredWidth first))).1)
        more = _
    rw [hk, Nat.add_sub_cancel]
    rcases Nat.lt_or_ge more.length k with hlt | hle
    · have hshort : Varint.Short (first :: more) :=
        Varint.short_iff.mpr (by simpa [Varint.announced, hk] using hlt)
      rw [bind_of_more (exactly_of_lt hlt), bind_of_more (varint_of_short hshort)]
      simp [Varint.announced, hk, endedAt]
    · -- what fills the scratch space behind the number is cut off again
      have hwidth : Varint.declaredWidth first = (more.take k).length + 1 := by
        rw [List.length_take_of_le hle, hk]
      have hread := Varint.decode_append hwidth (more.drop k)
      have hfilled := Varint.decode_append hwidth []
      rw [List.cons_append, List.take_append_drop] at hread
      rw [List.append_nil] at hfilled
      have hcut (padding : Bytes) : (first :: more.take k ++ padding).take (k + 1) =
          first :: more.take k := List.take_left' (hwidth.symm.trans hk)
      rw [bind_of_ready (exactly_of_le hle), bind_of_ready (varint_eq_ready_iff_decode.mpr hread),
        hcut, hfilled]

end Scan

/-! ## One after another -/

/-- How readers of the same bytes stand when both have read as often, one from a stream and one from
a buffer: they have come to the same, or there was a shortage, and from then on both only fail. -/
inductive Abreast : List (Except Error Nat) × Bytes → List (Except Error Nat) × Bytes → Prop
  | level {results : List (Except Error Nat)} {rest : Bytes} (h : ∀ e, .error e ∉ results) :
      Abreast (results, rest) (results, rest)
  | short {streamed buffered : List (Except Error Nat)} {rest : Bytes}
      (hvalues : streamed.map Except.toOption = buffered.map Except.toOption)
      (hfailed : ∃ e, .error e ∈ streamed) (hshort : Varint.Short rest) :
      Abreast (streamed, []) (buffered, rest)

namespace Abreast

variable {x y : List (Except Error Nat) × Bytes}

theorem next (h : Abreast x y) :
    Abreast (x.1 ++ [(Scan.varint.toDecoder x.2).1], (Scan.varint.toDecoder x.2).2)
      (y.1 ++ [(Varint.decode y.2).1], (Varint.decode y.2).2) := by
  cases h with
  | @level results rest h =>
    rcases Varint.decode_eq_ok_or_short rest with ⟨v, left, hv⟩ | hshort
    · rw [Scan.toDecoder_eq_ok_iff.mpr (Scan.varint_eq_ready_iff_decode.mpr hv), hv]
      exact .level (by simpa using h)
    · obtain ⟨needed, remaining, herror⟩ := id hshort
      rw [Scan.toDecoder_of_more (Scan.varint_of_short hshort), herror]
      refine .short (by simp [Except.toOption]) ⟨.transport (Scan.endedAt rest), ?_⟩ hshort
      exact List.mem_append_right _ List.mem_cons_self
  | short hvalues hfailed hshort =>
    obtain ⟨needed, remaining, herror⟩ := id hshort
    obtain ⟨e, he⟩ := hfailed
    have hnothing : Scan.varint.toDecoder [] = (.error (.transport .unexpectedEnd), []) := rfl
    rw [hnothing, herror]
    exact .short (by simp [hvalues, Except.toOption]) ⟨e, List.mem_append_left _ he⟩ hshort

theorem inTurn (stream : Bytes) (n : Nat) :
    Abreast (Scan.varint.toDecoder.inTurn stream n) (Varint.decode.inTurn stream n) := by
  induction n with
  | zero => exact .level nofun
  | succ n ih => exact ih.next

theorem values (h : Abreast x y) : x.1.map Except.toOption = y.1.map Except.toOption := by
  cases h with
  | level => rfl
  | short hvalues => exact hvalues

/-- The buffer is short when the stream was. -/
theorem exists_error (h : Abreast x y) {e : Error} (he : .error e ∈ x.1) :
    ∃ e', .error e' ∈ y.1 := by
  have hnone : (none : Option Nat) ∈ x.1.map Except.toOption := List.mem_map.mpr ⟨_, he, rfl⟩
  rw [h.values] at hnone
  obtain ⟨result, hmem, hresult⟩ := List.mem_map.mp hnone
  cases result with
  | ok v => cases hresult
  | error e' => exact ⟨e', hmem⟩

theorem left_eq (h : Abreast x y) (hall : ∀ e, .error e ∉ x.1) : x.2 = y.2 := by
  cases h with
  | level => rfl
  | short _ hfailed =>
    obtain ⟨e, he⟩ := hfailed
    exact absurd he (hall e)

end Abreast

namespace Scanning

variable {stream got : Bytes} {ends : Bool} {a : Scanning Nat} {rest : Bytes}

/-- What a call that reads a number comes to. -/
structure Prospects (ends : Bool) (a : Scanning Nat) (got : Bytes) : Prop where
  /-- It returns a number and leaves the rest exactly when these are what a buffer with the same
  bytes comes to. -/
  value : ∀ v rest, Eventually (Step Scan.varint ends) (a.Returned (.ok v) rest) a ↔
    Varint.decode a.left = (.ok v, rest)
  /-- While what has arrived is too short for a number and may still grow, it does not return, and
  when it has read it all, it waits. -/
  waits : Varint.Short (got ++ a.arrived) → a.ended = false →
    (∀ a', Step Scan.varint ends a a' → a'.results = a.results ∧ a'.got ≠ none) ∧
      (a.arrived = [] → a.Waits Scan.varint)
  /-- If the stream ends within the number, the call fails and uses up what there is. -/
  fails : Varint.Short a.left → ends = true → Eventually (Step Scan.varint ends)
    (a.Returned (.error (.transport (Scan.endedAt a.left))) []) a
  /-- If the stream neither ends nor has the rest of the number, the call never returns. -/
  stalls : Varint.Short a.left → ends = false →
    (∀ a', Relation.ReflTransGen (Step Scan.varint ends) a a' → a'.results = a.results) ∧
      Eventually (Step Scan.varint ends)
        (fun a' => a'.Waits Scan.varint ∧ ∀ a'', ¬ Step Scan.varint ends a' a'') a

/-- What was returned next is what was to be read. -/
theorem Sound.toDecoder_eq {s : Scan α} {a a' : Scanning α} {result : Except Error α}
    (h : Sound s ends stream a) (h' : Sound s ends stream a') (hnext : a.Returned result rest a') :
    s.toDecoder a.left = (result, rest) := by
  have hreads := h'.reads
  rw [hnext.results_eq, hnext.left_eq, List.length_append, List.length_singleton,
    Decoder.inTurn_succ, h.reads] at hreads
  obtain ⟨hresult, hrest⟩ := by simpa using hreads
  exact Prod.ext hresult hrest

theorem Sound.prospects (h : Sound Scan.varint ends stream a) (hgot : a.got = some got) :
    Prospects ends a got where
  value := by
    intro v rest
    rw [← Scan.varint_eq_ready_iff_decode]
    constructor
    · intro hreturns
      obtain ⟨a', hrun, hreturned⟩ := hreturns.exists_run
      have hread := h.toDecoder_eq (h.run Scan.lawful_varint hrun) hreturned
      exact Scan.toDecoder_eq_ok_iff.mp hread
    · intro hready
      have hreturns := h.returns Scan.lawful_varint fun hmore => by cases hready.symm.trans hmore
      rw [Scan.toDecoder_eq_ok_iff.mpr hready] at hreturns
      exact hreturns.mono fun a' => And.right
  waits := by
    intro hshort hopen
    have hmore := Scan.varint_of_short hshort
    refine ⟨fun a' => h.stays Scan.lawful_varint hgot hmore hopen, fun hnil => ?_⟩
    rw [hnil, List.append_nil] at hmore
    exact waits_of_more hgot hmore hnil hopen
  fails := by
    rintro hshort hends
    have hreturns := h.returns Scan.lawful_varint fun _ => hends
    rw [Scan.toDecoder_of_more (Scan.varint_of_short hshort)] at hreturns
    exact hreturns.mono fun a' => And.right
  stalls := by
    rintro hshort rfl
    have hmore := Scan.varint_of_short hshort
    exact ⟨fun a' hrun => (h.never_returns Scan.lawful_varint hmore hrun).1,
      h.stalls Scan.lawful_varint hmore⟩

/-- However a stream arrives, calls that read numbers from it return what is read from a buffer with
all of its bytes, in the same places, and use up the same bytes as long as there is no shortage.
Where the buffer is too short, a call waits for more bytes, and it fails, with an error of the
stream, only when the stream has ended and is used up. Calls keep returning up to the first
shortage, and beyond it if the stream ends. -/
theorem numbers_agree_with_buffer
    (h : Relation.ReflTransGen (Step Scan.varint ends) (fresh stream) a) :
    a.results = Scan.varint.repeatOnEnded a.results.length stream ∧
    a.results.map Except.toOption =
      (Varint.decode.inTurn stream a.results.length).1.map Except.toOption ∧
    ((∀ e, .error e ∉ a.results) → a.left = (Varint.decode.inTurn stream a.results.length).2) ∧
    (∀ e, .error e ∈ a.results → a.ended = true ∧ a.left = [] ∧ ∃ cause, e = .transport cause) ∧
    (∀ got, a.got = some got → Prospects ends a got) ∧
    ∀ n, a.results.length ≤ n →
      (∀ e, .error e ∈ (Varint.decode.inTurn stream n).1 → ends = true) →
        Eventually (Step Scan.varint ends) (fun a' => a'.results.length = n) a := by
  have hsound := sound_fresh.run Scan.lawful_varint h
  have habreast := Abreast.inTurn stream a.results.length
  rw [hsound.reads] at habreast
  refine ⟨?_, habreast.values, habreast.left_eq, hsound.failed, fun got => hsound.prospects, ?_⟩
  · rw [Scan.repeatOnEnded_eq, hsound.reads]
  · intro n hn hends
    refine (hsound.completes Scan.lawful_varint hn fun e he => ?_).mono fun a' => And.right
    obtain ⟨e', he'⟩ := (Abreast.inTurn stream n).exists_error he
    exact hends e' he'

/-- A number has been read, the next one is cut in two by how it arrives, and the last one by the
end of the stream. -/
theorem numbers_agree_with_buffer_waiting :
    let stream : Bytes := [0x01, 0x9D, 0x7F, 0x3E, 0x7D, 0x40]
    let a : Scanning Nat := ⟨some [0x9D], [], [0x7F, 0x3E, 0x7D, 0x40], false, [.ok 1]⟩
    Relation.ReflTransGen (Step Scan.varint true) (fresh stream) a ∧
    [.ok 1] = Scan.varint.repeatOnEnded 1 stream ∧
    a.left = (Varint.decode.inTurn stream 1).2 ∧
    a.Waits Scan.varint ∧
    Eventually (Step Scan.varint true) (a.Returned (.ok 494878333) [0x40]) a ∧
    Eventually (Step Scan.varint true) (fun a' => a'.results.length = 3) a := by
  intro stream a
  have hrun : Relation.ReflTransGen (Step Scan.varint true) (fresh stream) a :=
    .head (.begins rfl) <| .head (.arrives [0x01, 0x9D] [0x7F, 0x3E, 0x7D, 0x40] rfl nofun) <|
    .head (.goesOn 0 rfl rfl) <| .head (.returns 0 rfl rfl) <| .head (.begins rfl) <|
    .single (.goesOn 0 rfl rfl)
  obtain ⟨hresults, -, hleft, -, hprospects, hmore⟩ := numbers_agree_with_buffer hrun
  have hcall := hprospects [0x9D] rfl
  have hshort : Varint.Short [0x9D] := ⟨4, 1, rfl⟩
  exact ⟨hrun, hresults, hleft (by simp [a]), (hcall.waits hshort rfl).2 rfl,
    (hcall.value 494878333 [0x40]).mpr (by decide), hmore 3 (by decide) fun _ _ => rfl⟩

end Scanning

end MediaOverQuic
