import Mathlib.Tactic
import MediaOverQuic.Proofs.Control.Writers

/-!
# One direction of a control stream

Calls at one end send messages, and a reader at the other end takes them out of the pipe. What the
reader has got of a frame and what is in the pipe is always the first part of the frames to come.
These are in the order in which their writers had their turns.
-/
namespace MediaOverQuic

/-- How the calls `live` that send by the control stream `c`, what the reader at the other end has
got, what is in the pipe, and the messages `coming` that were begun and not read hang together. -/
structure Flow (c : ControlStream) (live : Multiset Sending) (limit : Nat) (got buffer : Bytes)
    (coming : List Message) : Prop where
  orderly : ∃ (done : List Message) (begun : Option Message) (read : List Message),
    done ++ begun.toList = read ++ coming ∧
    Orderly c live (done.map Frame.wire) (begun.map Frame.wire)
      (read.flatMap Frame.wire ++ got ++ buffer)
  tight : (Frame.scan limit).Tight got
  readable : ∀ m ∈ coming, m.Valid ∧ Frame.Fits limit m

namespace Flow

variable {c : ControlStream} {live : Multiset Sending} {limit : Nat} {got buffer : Bytes}
  {coming : List Message}

theorem start (hl : c.writers.line = []) (hc : c.incomplete = false) (limit : Nat) :
    Flow c 0 limit [] [] [] where
  orderly := ⟨[], none, [], rfl, .start hl hc⟩
  tight := (Frame.lawful_scan limit).tight_nil
  readable := by simp

/-- The readers do not matter to the writers. -/
theorem readers (h : Flow c live limit got buffer coming) (readers : Turns) :
    Flow { c with readers := readers } live limit got buffer coming where
  orderly := by
    obtain ⟨done, begun, read, hlog, ho⟩ := h.orderly
    exact ⟨done, begun, read, hlog, ho.readers readers⟩
  tight := h.tight
  readable := h.readable

/-! ## Sending -/

theorem join (h : Flow c live limit got buffer coming) (frame : Bytes) :
    Flow { c with writers := c.writers.join.2 } (.waiting c.writers.join.1 frame ::ₘ live) limit
      got buffer coming where
  orderly := by
    obtain ⟨done, begun, read, hlog, ho⟩ := h.orderly
    exact ⟨done, begun, read, hlog, ho.join frame⟩
  tight := h.tight
  readable := h.readable

theorem leave {s : Sending} (h : Flow c (s ::ₘ live) limit got buffer coming) :
    Flow (s.leave c) live limit got buffer coming where
  orderly := by
    obtain ⟨done, begun, read, hlog, ho⟩ := h.orderly
    exact ⟨done, begun, read, hlog, ho.leave⟩
  tight := h.tight
  readable := h.readable

/-- A call that goes on begins with its message, or goes on with what was begun. -/
theorem sending_goesOn {p p' : Pipe} {s s' : Sending} {c' : ControlStream}
    (h : Flow c (s ::ₘ live) limit got p.buffer coming)
    (run : s.step c p = .goesOn (s', c', p')) :
    c'.limit = c.limit ∧ c'.stream = c.stream ∧ c'.readers = c.readers ∧ s'.hasTurn = true ∧
      ((s.hasTurn = false ∧ ∀ m : Message, s.unsent = Frame.wire m → m.Valid →
          Frame.Fits limit m → Flow c' (s' ::ₘ live) limit got p'.buffer (coming ++ [m])) ∨
        (s.hasTurn = true ∧ Flow c' (s' ::ₘ live) limit got p'.buffer coming)) := by
  obtain ⟨done, begun, read, hlog, ho⟩ := h.orderly
  rcases Sending.stepWith_eq_goesOn (o := .pipe (read.flatMap Frame.wire ++ got)) run with
    ⟨t, frame, rfl, hfirst, hinc, rfl, rfl, rfl⟩ | ⟨t, chunk, rest, rfl, rfl, rfl, htaken⟩
  · obtain ⟨hnone, ho'⟩ := ho.begin hfirst hinc
    obtain rfl := Option.map_eq_none_iff.mp hnone
    refine ⟨rfl, rfl, rfl, rfl, .inl ⟨rfl, ?_⟩⟩
    rintro m rfl hv hf
    refine ⟨⟨done, some m, read, ?_, ho'⟩, h.tight, ?_⟩
    · rw [Option.toList_none, List.append_nil] at hlog
      rw [hlog, List.append_assoc, Option.toList_some]
    · intro m' hm'
      rw [List.mem_append, List.mem_singleton] at hm'
      rcases hm' with hm' | rfl
      · exact h.readable m' hm'
      · exact ⟨hv, hf⟩
  · refine ⟨rfl, rfl, rfl, rfl, .inr ⟨rfl, ⟨done, begun, read, hlog, ?_⟩, h.tight, h.readable⟩⟩
    have htaken : read.flatMap Frame.wire ++ got ++ p'.buffer =
      read.flatMap Frame.wire ++ got ++ p.buffer ++ chunk := htaken
    rw [htaken]
    exact ho.chunk

/-- However a call ends, what is to come stays. -/
theorem sending_ends {p p' : Pipe} {s : Sending} {c' : ControlStream} {result : Except Error Unit}
    (h : Flow c (s ::ₘ live) limit got p.buffer coming)
    (run : s.step c p = .ends (result, c', p')) :
    c'.limit = c.limit ∧ c'.stream = c.stream ∧ c'.readers = c.readers ∧
      Flow c' live limit got p'.buffer coming := by
  obtain ⟨done, begun, read, hlog, ho⟩ := h.orderly
  rcases Sending.stepWith_eq_ends (o := .pipe (read.flatMap Frame.wire ++ got)) run with
    ⟨t, frame, rfl, -, -, -, rfl, rfl⟩ | ⟨t, rfl, -, rfl, htaken⟩ |
      ⟨t, rest, chunk, e, rfl, hp, -, rfl, htaken⟩
  · exact ⟨rfl, rfl, rfl, h.leave⟩
  · have htaken : read.flatMap Frame.wire ++ got ++ p'.buffer =
      read.flatMap Frame.wire ++ got ++ p.buffer := htaken
    obtain ⟨frame, hbegun, ho'⟩ := ho.finish
    obtain ⟨m, rfl, rfl⟩ := Option.map_eq_some_iff.mp hbegun
    refine ⟨rfl, rfl, rfl, ⟨done ++ [m], none, read, ?_, ?_⟩, h.tight, h.readable⟩
    · rw [← hlog, Option.toList_none, List.append_nil, Option.toList_some]
    · rw [htaken, List.map_append]
      exact ho'
  · have htaken : read.flatMap Frame.wire ++ got ++ p'.buffer =
      read.flatMap Frame.wire ++ got ++ p.buffer ++ chunk := htaken
    refine ⟨rfl, rfl, rfl, ⟨done, begun, read, hlog, ?_⟩, h.tight, h.readable⟩
    rw [htaken]
    exact ho.fail hp

/-! ## Receiving -/

/-- What the reader has got and what is in the pipe is the first part of the frames to come. -/
theorem prefix_coming (h : Flow c live limit got buffer coming) :
    got ++ buffer <+: coming.flatMap Frame.wire := by
  obtain ⟨done, begun, read, hlog, ho⟩ := h.orderly
  obtain ⟨part, htaken, hpart⟩ := ho.split
  have hbegun : part <+: begun.toList.flatMap Frame.wire := by
    cases begun with
    | none => exact hpart
    | some m => simpa using hpart
  have hall := congrArg (List.flatMap Frame.wire) hlog
  rw [List.flatMap_append, List.flatMap_append] at hall
  rw [← List.prefix_append_right_inj (read.flatMap Frame.wire), ← hall, ← List.append_assoc, htaken,
    ← List.flatMap_def, List.prefix_append_right_inj]
  exact hbegun

/-- What is read is in front of the messages to come, and nothing else was taken from the pipe. -/
theorem scan_eq_ready (h : Flow c live limit got buffer coming) {result : Except Error Message}
    {rest : Bytes} (hs : Frame.scan limit got = .ready (result, rest)) :
    ∃ m later, coming = m :: later ∧ result = .ok m ∧ got = Frame.wire m := by
  have hlaw := Frame.lawful_scan limit
  obtain rfl := h.tight _ _ hs
  obtain ⟨more, hmore⟩ := h.prefix_coming
  rw [List.append_assoc] at hmore
  have hall := hlaw.steady hs (buffer ++ more)
  rw [hmore] at hall
  cases coming with
  | nil => cases hall
  | cons m later =>
    obtain ⟨hv, hf⟩ := h.readable m List.mem_cons_self
    rw [List.flatMap_cons, Frame.scan_wire_of_fits hv hf] at hall
    obtain ⟨rfl, hrest⟩ := by simpa using hall
    rw [List.flatMap_cons, ← List.nil_append (buffer ++ more), hrest] at hmore
    exact ⟨m, later, rfl, rfl, List.append_cancel_right hmore⟩

/-- A reader that goes on has taken bytes from the pipe. -/
theorem receiving_goesOn {cr c' : ControlStream} {p p' : Pipe} {s s' : Receiving}
    (h : Flow c live cr.limit s.got p.buffer coming)
    (run : s.step cr p = .goesOn (s', c', p')) :
    c' = cr ∧ Flow c live cr.limit s'.got p'.buffer coming := by
  obtain ⟨done, begun, read, hlog, ho⟩ := h.orderly
  obtain ⟨rfl, -, ⟨t, rfl, -, rfl, rfl⟩ |
      ⟨t, got, chunk, count, atEnd, rfl, rfl, hs, hle, -, hahead⟩⟩ :=
    Receiving.stepWith_eq_goesOn (i := .pipe) run
  · exact ⟨rfl, h⟩
  · have hahead : p.buffer = chunk ++ p'.buffer := hahead
    refine ⟨rfl, ⟨done, begun, read, hlog, ?_⟩, (Frame.lawful_scan _).tight_append hs hle,
      h.readable⟩
    rw [hahead] at ho
    simpa [Receiving.got] using ho

/-- A reader that ends has received the next message, or nothing more came. -/
theorem receiving_ends {cr c' : ControlStream} {p p' : Pipe} {s : Receiving}
    {result : Except Error Message} (h : Flow c live cr.limit s.got p.buffer coming)
    (run : s.step cr p = .ends (result, c', p')) :
    c' = s.leave cr ∧ p' = p ∧
      ((∃ m later, coming = m :: later ∧ result = .ok m ∧
          Flow c live cr.limit [] p.buffer later) ∨
        ∃ e, result = .error (.transport e)) := by
  obtain ⟨rfl, rfl, t, got, rfl, ⟨rest, hs⟩ | ⟨count, atEnd, -, -, rfl⟩⟩ :=
    Receiving.stepWith_eq_ends (i := .pipe) run
  · obtain ⟨m, later, rfl, rfl, hgot⟩ := h.scan_eq_ready hs
    have hgot : got = Frame.wire m := hgot
    obtain ⟨done, begun, read, hlog, ho⟩ := h.orderly
    refine ⟨rfl, rfl, .inl ⟨m, later, rfl, rfl, ⟨done, begun, read ++ [m], ?_, ?_⟩,
      (Frame.lawful_scan _).tight_nil, fun m' hm' => h.readable m' (List.mem_cons_of_mem _ hm')⟩⟩
    · rw [hlog, List.append_assoc, List.singleton_append]
    · simpa [Receiving.got, hgot] using ho
  · exact ⟨rfl, rfl, .inr ⟨_, rfl⟩⟩

end Flow

end MediaOverQuic
