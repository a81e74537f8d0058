import Mathlib.Tactic
import MediaOverQuic.Proofs.Control.FirstFrame
import MediaOverQuic.Proofs.Control.Solo
import MediaOverQuic.Proofs.Eventually

/-!
# Boundaries of frames

Calls that receive messages one after another take a stream apart into frames. What each call comes
to, and where it leaves the stream, is a matter of the bytes of the stream alone: a frame is used up
as a whole, whether its content is accepted or refused, and of a frame that is too long only the
header is. The pieces in which the bytes arrive, and how long each of them takes, do not matter.
-/
namespace MediaOverQuic

namespace Frame

variable {limit count : Nat} {ends : Bool} {bytes got rest rest' : Bytes} {cause cause' : StreamError}
  {result result' : Except Error Message}

/-! ## What the front of a stream comes to -/

/-- How the end of a stream is reported: as unexpected in front of a number, as early within a
number or within a payload. -/
inductive CutAt : Bytes → StreamError → Prop
  | beforeType : CutAt [] .unexpectedEnd
  | beforeLength {bytes : Bytes} {typeId : Nat} (h : bytes ∈ Varint.words typeId) :
    CutAt bytes .unexpectedEnd
  | within {bytes : Bytes} (hne : bytes ≠ []) (h : ∀ typeId, bytes ∉ Varint.words typeId) :
    CutAt bytes .earlyEnd

theorem CutAt.unique (h : CutAt bytes cause) (h' : CutAt bytes cause') : cause = cause' := by
  cases h with
  | beforeType =>
    cases h' with
    | beforeType | beforeLength => rfl
    | within hne => exact absurd rfl hne
  | beforeLength hw =>
    cases h' with
    | beforeType | beforeLength => rfl
    | within _ hnone => exact absurd hw (hnone _)
  | within hne hnone =>
    cases h' with
    | beforeType => exact absurd rfl hne
    | beforeLength hw => exact absurd hw (hnone _)
    | within => rfl

/-- What a call that reads from the front of `bytes` comes to, and what it leaves. The stream goes on
for ever behind `bytes`, or `ends`. -/
structure Comes (limit : Nat) (ends : Bool) (bytes : Bytes) (result : Except Error Message)
    (rest : Bytes) : Prop where
  /-- A message is what the content of the frame in front is decoded to. -/
  ok_iff : ∀ m, result = .ok m ↔ ∃ typeId payload rest',
    Opens limit bytes typeId payload rest' ∧ Message.decode typeId payload = .ok m
  /-- A frame is used up as a whole, whatever its content is. -/
  frame : ∀ {typeId payload rest'}, Opens limit bytes typeId payload rest' →
    result = Message.decode typeId payload ∧ rest = rest'
  /-- Of a frame that is too long the header is used up. -/
  overlong : ∀ {typeId length rest'}, limit < length → Starts (header typeId length) bytes rest' →
    ∃ rule : Violation, result = .error (.violation rule) ∧ rule = .frameTooLong length limit ∧
      rule.code = .protocolViolation ∧ rest = rest'
  /-- What is not complete when the stream ends is used up. -/
  cut : Incomplete limit bytes → ends = true ∧ rest = [] ∧
    ∃ cause, CutAt bytes cause ∧ result = .error (.transport cause)

theorem Comes.unique (h : Comes limit ends bytes result rest)
    (h' : Comes limit ends bytes result' rest') : result = result' ∧ rest = rest' := by
  by_cases hover : Overlong limit bytes
  · obtain ⟨typeId, length, left, hlt, hstarts⟩ := hover
    obtain ⟨rule, rfl, rfl, -, rfl⟩ := h.overlong hlt hstarts
    obtain ⟨rule', rfl, rfl, -, rfl⟩ := h'.overlong hlt hstarts
    exact ⟨rfl, rfl⟩
  · by_cases hopens : ∃ typeId payload left, Opens limit bytes typeId payload left
    · obtain ⟨typeId, payload, left, hopens⟩ := hopens
      obtain ⟨rfl, rfl⟩ := h.frame hopens
      obtain ⟨rfl, rfl⟩ := h'.frame hopens
      exact ⟨rfl, rfl⟩
    · have hcut : Incomplete limit bytes :=
        ⟨hover, fun typeId payload left ho => hopens ⟨typeId, payload, left, ho⟩⟩
      obtain ⟨-, rfl, cause, hat, rfl⟩ := h.cut hcut
      obtain ⟨-, rfl, cause', hat', rfl⟩ := h'.cut hcut
      obtain rfl := hat.unique hat'
      exact ⟨rfl, rfl⟩

theorem comes_of_ready (h : scan limit bytes = .ready (result, rest)) :
    Comes limit ends bytes result rest where
  ok_iff := by
    intro m
    constructor
    · rintro rfl
      rcases scan_eq_ready h with ⟨typeId, length, -, -, he⟩ | ⟨typeId, payload, hopens, hm⟩
      · cases he
      · exact ⟨typeId, payload, rest, hopens, hm.symm⟩
    · rintro ⟨typeId, payload, left, hopens, hm⟩
      have hsame := h.symm.trans (scan_of_opens hopens)
      obtain ⟨rfl, -⟩ := by simpa using hsame
      exact hm
  frame := by
    intro typeId payload left hopens
    have hsame := h.symm.trans (scan_of_opens hopens)
    simpa using hsame
  overlong := by
    intro typeId length left hlt hstarts
    have hsame := h.symm.trans (scan_of_overlong hlt hstarts)
    obtain ⟨rfl, rfl⟩ := by simpa using hsame
    exact ⟨_, rfl, rfl, rfl, rfl⟩
  cut := by
    intro hcut
    obtain ⟨count, cause, hmore⟩ := incomplete_iff.mp hcut
    cases h.symm.trans hmore

/-! ## What is asked for -/

/-- A scan asks for bytes of the type, of the length, or of a payload whose length is accepted. -/
theorem scan_eq_more (h : scan limit bytes = .more count cause) :
    Scan.varint bytes = .more count cause ∨
    (∃ typeId middle, Starts (Varint.words typeId) bytes middle ∧
      Scan.varint middle = .more count cause) ∨
    ∃ typeId length part, Starts (header typeId length) bytes part ∧ length ≤ limit ∧
      part.length + count = length ∧ cause = .earlyEnd := by
  rcases Scan.bind_eq_more h with h | ⟨typeId, middle, htype, h⟩
  · exact .inl h
  have htype := Scan.varint_eq_ready_iff.mp htype
  rcases Scan.bind_eq_more h with h | ⟨length, part, hlength, h⟩
  · exact .inr (.inl ⟨typeId, middle, htype, h⟩)
  have hheader : Starts (header typeId length) bytes part :=
    Starts.mul_iff.mpr ⟨middle, htype, Scan.varint_eq_ready_iff.mp hlength⟩
  split_ifs at h with hlt
  · cases h
  rcases Scan.bind_eq_more h with h | ⟨payload, left, -, h⟩
  · obtain ⟨hshort, rfl⟩ := Scan.exactly_eq_more h
    rw [Scan.exactly_of_lt hshort] at h
    obtain rfl := (Demand.more.inj h).2
    exact .inr (.inr ⟨typeId, length, part, hheader, Nat.not_lt.mp hlt,
      Nat.add_sub_cancel' hshort.le, rfl⟩)
  · cases h

/-- A number that is not complete lacks its first byte, or is cut short within. -/
theorem cause_of_varint (h : Scan.varint bytes = .more count cause) :
    (bytes = [] ∧ cause = .unexpectedEnd) ∨ (bytes ≠ [] ∧ cause = .earlyEnd) := by
  cases bytes with
  | nil =>
    obtain ⟨-, rfl⟩ := Demand.more.inj h
    exact .inl ⟨rfl, rfl⟩
  | cons first more =>
    rw [Scan.varint_cons] at h
    rcases Scan.bind_eq_more h with h | ⟨front, left, -, h⟩
    · obtain ⟨hshort, -⟩ := Scan.exactly_eq_more h
      rw [Scan.exactly_of_lt hshort] at h
      obtain rfl := (Demand.more.inj h).2
      exact .inr ⟨List.cons_ne_nil _ _, rfl⟩
    · cases h

theorem not_mem_words_of_starts {typeId : Nat} (h : Starts (Varint.words typeId) bytes rest)
    (hne : rest ≠ []) (v : Nat) : bytes ∉ Varint.words v := by
  intro hmem
  obtain ⟨-, rfl⟩ := Varint.reads_decode.unique h (Starts.nil_right.mpr hmem)
  exact hne rfl

theorem cutAt_of_more (h : scan limit bytes = .more count cause) : CutAt bytes cause := by
  rcases scan_eq_more h with h | ⟨typeId, middle, htype, h⟩ |
    ⟨typeId, length, part, hheader, -, -, rfl⟩
  · rcases cause_of_varint h with ⟨rfl, rfl⟩ | ⟨hne, rfl⟩
    · exact .beforeType
    · refine .within hne fun v hmem => ?_
      cases h.symm.trans (Scan.varint_eq_ready_iff.mpr (Starts.nil_right.mpr hmem))
  · rcases cause_of_varint h with ⟨rfl, rfl⟩ | ⟨hne, rfl⟩
    · exact .beforeLength (Starts.nil_right.mp htype)
    · refine .within ?_ (not_mem_words_of_starts htype hne)
      rintro rfl
      exact Varint.not_starts_words_nil typeId _ htype
  · obtain ⟨middle, htype, hlength⟩ := Starts.mul_iff.mp hheader
    refine .within ?_ (not_mem_words_of_starts htype ?_)
    · rintro rfl
      exact Varint.not_starts_words_nil typeId _ htype
    · rintro rfl
      exact Varint.not_starts_words_nil length _ hlength

theorem comes_of_more (h : scan limit bytes = .more count cause) :
    Comes limit true bytes (.error (.transport cause)) [] := by
  obtain ⟨hover, hopens⟩ := incomplete_iff.mpr ⟨count, cause, h⟩
  constructor
  · intro m
    constructor
    · intro hm
      cases hm
    · rintro ⟨typeId, payload, left, ho, -⟩
      exact absurd ho (hopens typeId payload left)
  · intro typeId payload left ho
    exact absurd ho (hopens typeId payload left)
  · intro typeId length left hlt hstarts
    exact absurd ⟨typeId, length, left, hlt, hstarts⟩ hover
  · intro _
    exact ⟨rfl, rfl, cause, cutAt_of_more h, rfl⟩

/-- Whether a call that has got `got` may ask for `count` bytes more: no byte behind the header is
among them, or they are what its payload lacks, which is not too long. -/
inductive Asks (limit : Nat) (got : Bytes) (count : Nat) : Prop
  | header (h : ∀ {chunk typeId length rest}, chunk.length ≤ count →
      Starts (header typeId length) (got ++ chunk) rest → rest = [])
  | payload {typeId length : Nat} {part : Bytes} (h : Starts (header typeId length) got part)
      (hle : length ≤ limit) (hcount : part.length + count = length)

theorem asks_of_more (h : scan limit got = .more count cause) : Asks limit got count := by
  have hlaw := Scan.lawful_varint
  rcases scan_eq_more h with h | ⟨typeId, middle, htype, h⟩ |
    ⟨typeId, length, part, hheader, hle, hcount, -⟩
  · refine .header fun {chunk typeId length rest} hchunk hheader => ?_
    obtain ⟨middle, htype, hlength⟩ := Starts.mul_iff.mp hheader
    obtain rfl := hlaw.frugal h hchunk (Scan.varint_eq_ready_iff.mpr htype)
    exact absurd hlength (Varint.not_starts_words_nil length rest)
  · refine .header fun {chunk typeId' length rest} hchunk hheader => ?_
    obtain ⟨middle', htype', hlength⟩ := Starts.mul_iff.mp hheader
    obtain ⟨-, rfl⟩ := Varint.reads_decode.unique htype' (htype.append chunk)
    exact hlaw.frugal h hchunk (Scan.varint_eq_ready_iff.mpr hlength)
  · exact .payload hheader hle hcount

/-! ## One call after another -/

/-- What calls that read one after another come to, and what they leave of the stream. -/
inductive Reads (limit : Nat) (ends : Bool) (stream : Bytes) :
    List (Except Error Message) → Bytes → Prop
  | start : Reads limit ends stream [] stream
  | next {results : List (Except Error Message)} {bytes rest : Bytes}
      {result : Except Error Message} (h : Reads limit ends stream results bytes)
      (hcomes : Comes limit ends bytes result rest) :
      Reads limit ends stream (results ++ [result]) rest

/-- What as many calls come to is the same. -/
theorem Reads.unique {stream : Bytes} {results results' : List (Except Error Message)}
    (h : Reads limit ends stream results bytes) (h' : Reads limit ends stream results' rest)
    (hlength : results.length = results'.length) : results = results' ∧ bytes = rest := by
  induction h generalizing results' rest with
  | start =>
    cases h' with
    | start => exact ⟨rfl, rfl⟩
    | next => simp at hlength
  | next _ hcomes ih =>
    cases h' with
    | start => simp at hlength
    | next h' hcomes' =>
      obtain ⟨rfl, rfl⟩ := ih h' (by simpa using hlength)
      obtain ⟨rfl, rfl⟩ := hcomes.unique hcomes'
      exact ⟨rfl, rfl⟩

end Frame

/-- Whether the bytes that an inlet stands for arrive in some pieces or other, and the stream ends
behind them only if it `ends`. -/
structure Inlet.Splits (i : Inlet Bytes) (ends : Bool) : Prop where
  ahead : ∀ bytes, i.ahead bytes = bytes
  stays : ends = false → ∀ bytes count left, i.read bytes count ≠ .ends left

/-- A stream that hands out at most `most + 1` bytes at a time. -/
def Inlet.inPieces (ends : Bool) (most : Nat) : Inlet Bytes where
  read bytes count :=
    if bytes = [] then if ends then .ends bytes else .waits
    else .goesOn (bytes.take (min count (most + 1)), bytes.drop (min count (most + 1)))
  ahead bytes := bytes
  ahead_goesOn := by
    intro bytes count chunk left h
    split_ifs at h with hnil
    obtain ⟨rfl, rfl⟩ := by simpa using h
    refine ⟨(List.length_take_le _ _).trans (Nat.min_le_left _ _), ?_,
      (List.take_append_drop _ _).symm⟩
    intro hpos he
    have hmin := (List.take_eq_nil_iff.mp he).resolve_right hnil
    omega
  ahead_ended := by
    intro bytes count left h
    split_ifs at h with hnil
    exact ⟨hnil, by simpa using h.symm⟩

theorem Inlet.splits_inPieces (ends : Bool) (most : Nat) : (inPieces ends most).Splits ends where
  ahead _ := rfl
  stays := by
    rintro rfl bytes count left h
    simp [inPieces] at h
    split_ifs at h

namespace Receiving

variable {call : Receiving} {c c' : ControlStream} {got : Bytes} {source source' : σ}
  {read : Nat → Attempt (Bytes × σ) σ}

/-- Whether the call asks the stream for no other numbers of bytes than those in `P`, so that it does
not matter what else the stream would do. -/
def AsksOnly (call : Receiving) (c : ControlStream) (P : Nat → Prop) : Prop :=
  ∀ (σ : Type) (source : σ) (read read' : Nat → Attempt (Bytes × σ) σ),
    (∀ count, P count → read count = read' count) →
      call.stepWith c source read = call.stepWith c source read'

theorem asksOnly (call : Receiving) (c : ControlStream) :
    call.AsksOnly c (Frame.Asks c.limit call.got) := by
  intro σ source read read' h
  cases call with
  | waiting t => rfl
  | reading t got =>
    simp only [stepWith, Scan.pull]
    cases hscan : Frame.scan c.limit got with
    | ready found => rfl
    | more count cause =>
      have hsame : read count = read' count := h count (Frame.asks_of_more hscan)
      simp only [hsame]

/-- A call that returns before its frame is complete has found the stream at its end. -/
theorem read_eq_ends {t count : Nat} {cause : StreamError} {result : Except Error Message}
    (hmore : Frame.scan c.limit got = .more count cause)
    (run : (reading t got).stepWith c source read = .ends (result, c', source')) :
    ∃ left, read count = .ends left := by
  simp only [stepWith, Scan.pull, hmore] at run
  cases hread : read count with
  | waits => simp [hread] at run
  | goesOn piece => simp [hread] at run
  | ends left => exact ⟨left, rfl⟩

end Receiving

/-- Calls that receive messages, one after another: the call that runs, the bytes to come, and what
the calls before it have returned. -/
structure Reading where
  control : ControlStream
  call : Option Receiving
  ahead : Bytes
  results : List (Except Error Message)

namespace Reading

/-- The calls on a fresh control stream. -/
def fresh (index limit : Nat) (stream : Bytes) : Reading :=
  ⟨.fresh index limit, none, stream, []⟩

/-- What no call before the present one has used up. -/
def left (e : Reading) : Bytes := (e.call.map Receiving.got).getD [] ++ e.ahead

/-- What is next when the bytes to come are those of `i`: a call begins, goes on, or returns. -/
def next (i : Inlet Bytes) (e : Reading) : Option Reading :=
  match e.call with
  | none => some { e with call := some e.control.receive.1, control := e.control.receive.2 }
  | some call =>
    match call.stepWith e.control e.ahead (i.read e.ahead) with
    | .waits => none
    | .goesOn (call', control, ahead) => some ⟨control, some call', ahead, e.results⟩
    | .ends (result, control, ahead) => some ⟨control, none, ahead, e.results ++ [result]⟩

/-- The bytes to come arrive as they like, and otherwise at each step. -/
def Step (ends : Bool) (e e' : Reading) : Prop := ∃ i, i.Splits ends ∧ e.next i = some e'

variable {limit index : Nat} {ends : Bool} {stream : Bytes} {e e' : Reading} {call : Receiving}

/-- How the calls so far hang together with the stream. -/
structure Sound (limit : Nat) (ends : Bool) (stream : Bytes) (e : Reading) : Prop where
  limit_eq : e.control.limit = limit
  line : e.control.readers.line = e.call.toList.map Receiving.ticket
  tight : ∀ call, e.call = some call → (Frame.scan limit).Tight call.got
  reads : Frame.Reads limit ends stream e.results e.left

theorem sound_fresh : Sound limit ends stream (fresh index limit stream) where
  limit_eq := rfl
  line := rfl
  tight := nofun
  reads := .start

/-- While a call runs, a step is one of the call. -/
theorem stepWith_of_step (hcall : e.call = some call) (hstep : Step ends e e') :
    ∃ i : Inlet Bytes, i.Splits ends ∧
      ((∃ call' control ahead, e' = ⟨control, some call', ahead, e.results⟩ ∧
        call.stepWith e.control e.ahead (i.read e.ahead) = .goesOn (call', control, ahead)) ∨
      ∃ result control ahead, e' = ⟨control, none, ahead, e.results ++ [result]⟩ ∧
        call.stepWith e.control e.ahead (i.read e.ahead) = .ends (result, control, ahead)) := by
  obtain ⟨i, hi, hnext⟩ := hstep
  refine ⟨i, hi, ?_⟩
  simp only [next, hcall] at hnext
  split at hnext
  · cases hnext
  · next call' control ahead run =>
    exact .inl ⟨call', control, ahead, (Option.some.inj hnext).symm, run⟩
  · next result control ahead run =>
    exact .inr ⟨result, control, ahead, (Option.some.inj hnext).symm, run⟩

/-- A running call has less to do after a step, and takes no byte from the next one, or it returns
what the bytes in front of the stream come to. -/
theorem Sound.step_of_call (h : Sound limit ends stream e) (hcall : e.call = some call)
    (hstep : Step ends e e') :
    (∃ call', e'.call = some call' ∧ e'.results = e.results ∧ e'.left = e.left ∧
      Sound limit ends stream e' ∧
      e'.ahead.length + call'.toStart < e.ahead.length + call.toStart) ∨
    ∃ result, e'.call = none ∧ e'.results = e.results ++ [result] ∧
      Frame.Comes limit ends e.left result e'.left ∧ Sound limit ends stream e' := by
  have hlaw := Frame.lawful_scan limit
  have hlimit := h.limit_eq
  have htight := h.tight call hcall
  have hsolo : call.Solo e.control := by
    have hline := h.line
    rwa [hcall] at hline
  have hleft : e.left = call.got ++ e.ahead := by simp [left, hcall]
  obtain ⟨i, hi, ⟨call', control, ahead, rfl, run⟩ | ⟨result, control, ahead, rfl, run⟩⟩ :=
    stepWith_of_step hcall hstep
  · left
    obtain ⟨rfl, hticket, hcases⟩ := Receiving.stepWith_eq_goesOn run
    rw [hi.ahead, hi.ahead] at hcases
    have hsound (hgot : call'.got ++ ahead = e.left)
        (htight' : (Frame.scan limit).Tight call'.got) :
        Sound limit ends stream ⟨e.control, some call', ahead, e.results⟩ := by
      refine ⟨hlimit, ?_, ?_, ?_⟩
      · exact h.line.trans (by simp [hcall, hticket])
      · rintro _ ⟨rfl⟩
        exact htight'
      · show Frame.Reads limit ends stream e.results (call'.got ++ ahead)
        rw [hgot]
        exact h.reads
    rcases hcases with ⟨t, rfl, -, rfl, rfl⟩ | ⟨t, got, chunk, count, cause, rfl, rfl, hmore, hle,
      hne, hahead⟩
    · exact ⟨_, rfl, rfl, hleft.symm, hsound hleft.symm hlaw.tight_nil, Nat.lt_succ_self _⟩
    · rw [hlimit] at hmore
      have hgot : got ++ chunk ++ ahead = e.left := by
        rw [hleft, hahead, List.append_assoc]
        rfl
      have hpos := List.length_pos_iff.mpr hne
      refine ⟨_, rfl, rfl, hgot, hsound hgot (hlaw.tight_append hmore hle), ?_⟩
      show ahead.length + 0 < e.ahead.length + 0
      rw [hahead, List.length_append]
      omega
  · right
    obtain ⟨rfl, rfl, t, got, rfl, hcases⟩ := Receiving.stepWith_eq_ends run
    have hcomes : Frame.Comes limit ends e.left result e.ahead := by
      rw [hleft]
      rcases hcases with ⟨rest, hready⟩ | ⟨count, cause, hmore, hnil, rfl⟩
      · -- nothing was asked for that belongs to the next frame
        rw [hlimit] at hready
        obtain rfl := htight _ _ hready
        exact Frame.comes_of_ready (hlaw.steady hready e.ahead)
      · obtain ⟨_, hread⟩ := Receiving.read_eq_ends hmore run
        rw [hlimit] at hmore
        rw [hi.ahead] at hnil
        rw [hnil, List.append_nil]
        cases ends with
        | false => exact absurd hread (hi.stays rfl _ _ _)
        | true => exact Frame.comes_of_more hmore
    exact ⟨result, rfl, rfl, hcomes, hlimit, hsolo.leave, nofun, h.reads.next hcomes⟩

theorem Sound.step (h : Sound limit ends stream e) (hstep : Step ends e e') :
    Sound limit ends stream e' := by
  cases hcall : e.call with
  | some call =>
    rcases h.step_of_call hcall hstep with ⟨_, -, -, -, h', -⟩ | ⟨_, -, -, -, h'⟩
    · exact h'
    · exact h'
  | none =>
    obtain ⟨i, -, hnext⟩ := hstep
    simp only [next, hcall] at hnext
    obtain rfl := Option.some.inj hnext
    have hnobody : e.control.readers.line = [] := by rw [h.line, hcall]; rfl
    refine ⟨h.limit_eq, ControlStream.solo_receive hnobody, ?_, ?_⟩
    · rintro _ ⟨rfl⟩
      exact (Frame.lawful_scan limit).tight_nil
    · have hreads := h.reads
      simpa [left, hcall, ControlStream.receive, Receiving.got] using hreads

theorem Sound.run (h : Sound limit ends stream e) (hrun : Relation.ReflTransGen (Step ends) e e') :
    Sound limit ends stream e' := by
  induction hrun with
  | refl => exact h
  | tail _ hstep ih => exact ih.step hstep

/-- A running call goes on as long as its frame may still become complete. -/
theorem Sound.exists_step (h : Sound limit ends stream e) (hcall : e.call = some call)
    (hends : Frame.Incomplete limit e.left → ends = true) : ∃ e', Step ends e e' := by
  suffices hnext : (e.next (.inPieces ends 0)).isSome by
    obtain ⟨e', he'⟩ := Option.isSome_iff_exists.mp hnext
    exact ⟨e', _, Inlet.splits_inPieces ends 0, he'⟩
  have hline := h.line
  rw [hcall] at hline
  cases call with
  | waiting t =>
    have hfirst : e.control.readers.isFirst t = true := (Turns.isFirst_iff _ _).mpr ⟨[], hline⟩
    simp [next, hcall, Receiving.stepWith, hfirst]
  | reading t got =>
    cases hscan : Frame.scan e.control.limit got with
    | ready found => simp [next, hcall, Receiving.stepWith, Scan.pull, hscan]
    | more count cause =>
      by_cases hnil : e.ahead = []
      · have hleft : e.left = got := by simp [left, hcall, hnil, Receiving.got]
        rw [h.limit_eq] at hscan
        rw [hleft, Frame.incomplete_iff] at hends
        obtain rfl := hends ⟨count, cause, hscan⟩
        simp [next, hcall, Receiving.stepWith, Scan.pull, h.limit_eq, hscan, Inlet.inPieces, hnil]
      · simp [next, hcall, Receiving.stepWith, Scan.pull, hscan, Inlet.inPieces, hnil]

/-- A running call is bound to return what the bytes in front of the stream come to. -/
theorem Sound.returns (h : Sound limit ends stream e) (hcall : e.call = some call)
    (hends : Frame.Incomplete limit e.left → ends = true) :
    Eventually (Step ends) (fun e' => e'.call = none ∧ ∃ result,
      e'.results = e.results ++ [result] ∧ Frame.Comes limit ends e.left result e'.left) e := by
  refine Eventually.of_rank
    (I := fun x => Sound limit ends stream x ∧ x.call.isSome ∧ x.results = e.results ∧
      x.left = e.left)
    (fun x => x.ahead.length + (x.call.map Receiving.toStart).getD 0) ?_ ?_ ⟨h, by simp [hcall],
      rfl, rfl⟩
  · rintro x ⟨hx, hsome, -, hleft⟩
    obtain ⟨call, hcall⟩ := Option.isSome_iff_exists.mp hsome
    exact hx.exists_step hcall (hleft ▸ hends)
  · rintro x x' ⟨hx, hsome, hresults, hleft⟩ hstep
    obtain ⟨call, hcall⟩ := Option.isSome_iff_exists.mp hsome
    rcases hx.step_of_call hcall hstep with ⟨call', hcall', hsame, hleft', hx', hlt⟩ |
      ⟨result, hnone, hmore, hcomes, -⟩
    · refine .inr ⟨⟨hx', by simp [hcall'], hsame.trans hresults, hleft'.trans hleft⟩, ?_⟩
      simpa [hcall, hcall'] using hlt
    · rw [hresults] at hmore
      rw [hleft] at hcomes
      exact .inl ⟨hnone, result, hmore, hcomes⟩

/-- However a stream arrives, the calls that have returned have taken it apart into frames, each
from where the one before it ended. A running call asks for no byte behind its frame, and returns
what the front of the stream comes to, unless the stream goes on for ever within a frame. As many
calls on the same stream always return the same and leave the same. -/
theorem calls_keep_boundaries
    (h : Relation.ReflTransGen (Step ends) (fresh index limit stream) e) :
    Frame.Reads limit ends stream e.results e.left ∧
    (∀ call, e.call = some call →
      call.AsksOnly e.control (Frame.Asks limit call.got) ∧
      ((Frame.Incomplete limit e.left → ends = true) →
        Eventually (Step ends) (fun e' => e'.call = none ∧ ∃ result,
          e'.results = e.results ++ [result] ∧
          Frame.Comes limit ends e.left result e'.left) e)) ∧
    ∀ {index' : Nat} {e' : Reading},
      Relation.ReflTransGen (Step ends) (fresh index' limit stream) e' →
        e'.results.length = e.results.length → e'.results = e.results ∧ e'.left = e.left := by
  have hsound := sound_fresh.run h
  refine ⟨hsound.reads, ?_, ?_⟩
  · intro call hcall
    refine ⟨?_, hsound.returns hcall⟩
    have hasks := call.asksOnly e.control
    rwa [hsound.limit_eq] at hasks
  · intro index' e' h' hlength
    exact (sound_fresh.run h').reads.unique hsound.reads hlength

/-- A limit for request ids that arrives byte by byte, and of a frame that is too long the type. -/
theorem calls_keep_boundaries_bytewise :
    let stream : Bytes := [0x15, 1, 5, 0x20, 9, 0xFF]
    let e : Reading := ⟨⟨0, 4, false, .nobody, ⟨[1], 2⟩⟩, some (.reading 1 [0x20]), [9, 0xFF],
      [.ok (.maxRequestId 5)]⟩
    Relation.ReflTransGen (Step false) (fresh 0 4 stream) e ∧
    Frame.Reads 4 false stream [.ok (.maxRequestId 5)] [0x20, 9, 0xFF] ∧
    Receiving.AsksOnly (.reading 1 [0x20]) e.control (Frame.Asks 4 [0x20]) ∧
    Eventually (Step false) (fun e' => e'.call = none ∧ ∃ result,
      e'.results = [.ok (.maxRequestId 5), result] ∧
      Frame.Comes 4 false [0x20, 9, 0xFF] result e'.left) e ∧
    ∀ {index' : Nat} {e' : Reading},
      Relation.ReflTransGen (Step false) (fresh index' 4 stream) e' →
        e'.results.length = 1 → e'.results = [.ok (.maxRequestId 5)] ∧
          e'.left = [0x20, 9, 0xFF] := by
  intro stream e
  have hpieces := Inlet.splits_inPieces false 0
  have hrun : Relation.ReflTransGen (Step false) (fresh 0 4 stream) e :=
    .head ⟨_, hpieces, rfl⟩ <| .head ⟨_, hpieces, rfl⟩ <| .head ⟨_, hpieces, rfl⟩ <|
    .head ⟨_, hpieces, rfl⟩ <| .head ⟨_, hpieces, rfl⟩ <| .head ⟨_, hpieces, rfl⟩ <|
    .head ⟨_, hpieces, rfl⟩ <| .head ⟨_, hpieces, rfl⟩ <| .single ⟨_, hpieces, rfl⟩
  obtain ⟨hreads, hcall, hsame⟩ := calls_keep_boundaries hrun
  have hlong : Frame.Overlong 4 [0x20, 9, 0xFF] :=
    ⟨0x20, 9, [0xFF], by decide, Starts.mul_iff.mpr
      ⟨[9, 0xFF], Varint.reads_decode.mp rfl, Varint.reads_decode.mp rfl⟩⟩
  exact ⟨hrun, hreads, (hcall _ rfl).1, (hcall _ rfl).2 fun hcut => absurd hlong hcut.1, hsame⟩

end Reading

end MediaOverQuic
