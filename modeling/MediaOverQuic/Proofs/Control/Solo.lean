import Mathlib.Tactic
import MediaOverQuic.Proofs.Control.Delivery

/-!
# Calls that have the stream for themselves

While a handshake runs, nobody else sends or receives on the control stream. All that a call can
come to in a step then depends on the pipe alone: for a call that sends, on whether there is room,
for one that receives, on what has arrived.
-/
namespace MediaOverQuic

namespace Sending

/-- Whether nobody else stands in the line of the writers. -/
structure Solo (call : Sending) (c : ControlStream) : Prop where
  turn : c.incomplete = call.hasTurn
  line : c.writers.line = [call.ticket]

variable {call : Sending} {c : ControlStream}

theorem Solo.leave (h : call.Solo c) : (call.leave c).writers.line = [] := by
  simp [Sending.leave, Turns.leave, h.line]

/-- How much a call has to do: to get its turn, and to write each byte. -/
def work (call : Sending) : Nat := call.unsent.length + if call.hasTurn then 0 else 1

@[simp] theorem work_waiting (ticket : Nat) (frame : Bytes) :
    (waiting ticket frame).work = frame.length + 1 := rfl

/-- A call goes on, or is done, or finds the pipe closed, or waits for room. -/
theorem Solo.step_cases (h : call.Solo c) (p : Pipe) :
    (∃ call' c' q chunk, call.step c p = .goesOn (call', c', q) ∧ call'.Solo c' ∧
      call'.work < call.work ∧ c'.stream = c.stream ∧ c'.limit = c.limit ∧ c'.readers = c.readers ∧
      call.unsent = chunk ++ call'.unsent ∧ q.buffer = p.buffer ++ chunk ∧ q.closed = p.closed) ∨
    (call.unsent = [] ∧
      call.step c p = .ends (.ok (), call.leave { c with incomplete := false }, p)) ∨
    (call.unsent ≠ [] ∧ p.closed = true ∧
      call.step c p = .ends (.error (.transport .brokenPipe), call.leave c, p)) ∨
    (call.unsent ≠ [] ∧ p.closed = false ∧ p.room = 0 ∧ call.step c p = .waits) := by
  obtain ⟨hturn, hline⟩ := h
  cases call with
  | waiting t frame =>
    have hfirst : c.writers.isFirst t = true := (Turns.isFirst_iff _ _).mpr ⟨[], hline⟩
    have hinc : c.incomplete = false := hturn
    refine .inl ⟨.writing t frame, { c with incomplete := true }, p, [], ?_, ⟨rfl, hline⟩, ?_, rfl,
      rfl, rfl, rfl, (List.append_nil _).symm, rfl⟩
    · simp [step, stepWith, hfirst, hinc]
    · exact Nat.lt_succ_self _
  | writing t rest =>
    by_cases hrest : rest = []
    · refine .inr (.inl ⟨hrest, ?_⟩)
      simp [step, stepWith, Pipe.write, hrest]
    · cases hclosed : p.closed with
      | true =>
        refine .inr (.inr (.inl ⟨hrest, rfl, ?_⟩))
        simp [step, stepWith, Pipe.write, hrest, hclosed]
      | false =>
        by_cases hroom : p.room = 0
        · refine .inr (.inr (.inr ⟨hrest, rfl, hroom, ?_⟩))
          simp [step, stepWith, Pipe.write, hrest, hclosed, hroom]
        · have hlt : (rest.drop p.room).length < rest.length := by
            have hpos := List.length_pos_iff.mpr hrest
            rw [List.length_drop]
            omega
          refine .inl ⟨.writing t (rest.drop p.room), c, p.fill rest, rest.take p.room, ?_,
            ⟨hturn, hline⟩, hlt, rfl, rfl, rfl, (List.take_append_drop _ _).symm, rfl, hclosed⟩
          simp [step, stepWith, Pipe.write, hrest, hclosed, hroom]

end Sending

namespace Receiving

variable {call : Receiving} {c : ControlStream}

/-- Whether nobody else stands in the line of the readers. -/
def Solo (call : Receiving) (c : ControlStream) : Prop := c.readers.line = [call.ticket]

theorem Solo.leave (h : call.Solo c) : (call.leave c).readers.line = [] := by
  have hline : c.readers.line = [call.ticket] := h
  simp [Receiving.leave, Turns.leave, hline]

/-- Whether the call still has to get its turn. -/
def toStart : Receiving → Nat
  | waiting _ => 1
  | reading .. => 0

/-- A call goes on with no more than it is sure to need, or has read its frame, or finds the stream
at its end, or waits for more. -/
theorem Solo.step_cases (h : call.Solo c) (p : Pipe) :
    (∃ call' q chunk, call.step c p = .goesOn (call', c, q) ∧ call'.Solo c ∧
      q.buffer.length + call'.toStart < p.buffer.length + call.toStart ∧
      call'.got = call.got ++ chunk ∧ p.buffer = chunk ++ q.buffer ∧ q.closed = p.closed ∧
      ((Frame.scan c.limit).Tight call.got → (Frame.scan c.limit).Tight call'.got)) ∨
    (∃ result rest, Frame.scan c.limit call.got = .ready (result, rest) ∧
      call.step c p = .ends (result, call.leave c, p)) ∨
    (∃ count atEnd, Frame.scan c.limit call.got = .more count atEnd ∧ p.buffer = [] ∧
      p.closed = true ∧ call.step c p = .ends (.error (.transport atEnd), call.leave c, p)) ∨
    (∃ count atEnd, Frame.scan c.limit call.got = .more count atEnd ∧ p.buffer = [] ∧
      p.closed = false ∧ call.step c p = .waits) := by
  have hline : c.readers.line = [call.ticket] := h
  cases call with
  | waiting t =>
    have hfirst : c.readers.isFirst t = true := (Turns.isFirst_iff _ _).mpr ⟨[], hline⟩
    refine .inl ⟨.reading t [], p, [], ?_, hline, Nat.lt_succ_self _, rfl, rfl, rfl, id⟩
    simp [step, stepWith, hfirst]
  | reading t got =>
    cases hscan : Frame.scan c.limit got with
    | ready found =>
      obtain ⟨result, rest⟩ := found
      refine .inr (.inl ⟨result, rest, hscan, ?_⟩)
      simp [step, stepWith, Scan.pull, hscan]
    | more count atEnd =>
      have hlaw := Frame.lawful_scan c.limit
      by_cases hbuffer : p.buffer = []
      · cases hclosed : p.closed with
        | true =>
          refine .inr (.inr (.inl ⟨count, atEnd, hscan, hbuffer, rfl, ?_⟩))
          simp [step, stepWith, Scan.pull, hscan, Pipe.read, hbuffer, hclosed]
        | false =>
          refine .inr (.inr (.inr ⟨count, atEnd, hscan, hbuffer, rfl, ?_⟩))
          simp [step, stepWith, Scan.pull, hscan, Pipe.read, hbuffer, hclosed]
      · have hread : p.read count = .goesOn (p.buffer.take count, p.skip count) := by
          obtain ⟨b, more, hb⟩ := List.exists_cons_of_ne_nil hbuffer
          simp [Pipe.read, hb]
        have hlt : (p.skip count).buffer.length < p.buffer.length := by
          have hpos := List.length_pos_iff.mpr hbuffer
          have hcount := hlaw.count_pos hscan
          rw [Pipe.skip, List.length_drop]
          omega
        refine .inl ⟨.reading t (got ++ p.buffer.take count), p.skip count, p.buffer.take count, ?_,
          hline, hlt, rfl, (p.take_append_buffer_skip count).symm, rfl, ?_⟩
        · simp [step, stepWith, Scan.pull, hscan, hread]
        · intro _
          exact hlaw.tight_append hscan (List.length_take_le _ _)

end Receiving

/-- A call that begins when nobody reads has the stream for itself. -/
theorem ControlStream.solo_receive {c : ControlStream} (h : c.readers.line = []) :
    c.receive.1.Solo c.receive.2 := by
  simp [Receiving.Solo, receive, Turns.join, h, Receiving.ticket]

end MediaOverQuic
