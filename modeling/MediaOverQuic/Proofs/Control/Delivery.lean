import Mathlib.Tactic
import MediaOverQuic.Proofs.Control.Calls

/-!
# Delivery of control messages

Messages that are sent one after the other come out at the other end of the stream one after the
other, each of them once. A message that can not be framed leaves nothing on the stream, and what
stands behind the last frame is left for whoever reads next.
-/
namespace MediaOverQuic

namespace Turns

theorem isFirst_join {t : Turns} (h : t.line = []) : t.join.2.isFirst t.join.1 = true := by
  rw [isFirst_iff]
  exact ⟨[], by rw [line_join, h]; rfl⟩

theorem leave_join {t : Turns} (h : t.line = []) : (t.join.2.leave t.join.1).line = [] := by
  simp [leave, join, h]

end Turns

namespace ControlStream

/-- Whether nobody stands in line and no frame is incomplete. -/
structure Idle (c : ControlStream) : Prop where
  writers : c.writers.line = []
  readers : c.readers.line = []
  complete : c.incomplete = false

theorem fresh_idle (stream limit : Nat) : (fresh stream limit).Idle := ⟨rfl, rfl, rfl⟩

/-! ## One message -/

/-- A message that can be framed is written as its frame. -/
theorem Idle.yields_send {c : ControlStream} (hc : c.Idle) {o : Outlet σ} (ho : o.Willing)
    {m : Message} (hm : m.Valid) (hf : Frame.Fits c.limit m) (out : σ) :
    ∃ call joined done out', c.send m = .ok (call, joined) ∧
      Attempt.Yields (Sending.stepOut o) (call, joined, out) (.ok (), done, out') ∧
      done.Idle ∧ done.limit = c.limit ∧ o.taken out' = o.taken out ++ Frame.wire m := by
  let joined : ControlStream := { c with writers := c.writers.join.2 }
  obtain ⟨out', hy, ht⟩ := Sending.yields_of_writing ho c.writers.join.1 (Frame.wire m)
    { joined with incomplete := true } out
  refine ⟨.waiting c.writers.join.1 (Frame.wire m), joined, _, out', ?_, .goesOn ?_ hy, ?_, rfl, ht⟩
  · simp only [send, Frame.encode_of_fits hm hf]
    rfl
  · have hfirst : joined.writers.isFirst c.writers.join.1 = true := Turns.isFirst_join hc.writers
    have hinc : joined.incomplete = false := hc.complete
    simp only [Sending.stepOut, Sending.stepWith, hfirst, hinc]
    rfl
  · exact ⟨Turns.leave_join hc.writers, hc.readers, rfl⟩

/-- A message that can not be framed is refused. -/
theorem send_of_not_fits {c : ControlStream} {m : Message} (hm : m.Valid)
    (hf : ¬ Frame.Fits c.limit m) : ∃ e, c.send m = .error e := by
  simp only [send, Frame.encode_of_not_fits hm hf]
  exact ⟨_, rfl⟩

/-- What is in front of the stream is read as a frame, and no byte behind it. -/
theorem Idle.yields_receive {c : ControlStream} (hc : c.Idle) {i : Inlet σ} (hi : i.Prompt)
    {source : σ} {result : Except Error Message} {rest : Bytes}
    (hs : Frame.scan c.limit (i.ahead source) = .ready (result, rest)) :
    ∃ done source', Attempt.Yields (Receiving.stepIn i) (c.receive.1, c.receive.2, source)
        (result, done, source') ∧
      done.Idle ∧ done.limit = c.limit ∧ i.ahead source' = rest := by
  let joined : ControlStream := { c with readers := c.readers.join.2 }
  obtain ⟨source', hy, ha⟩ := Receiving.yields_of_reading hi c.readers.join.1 [] joined source
    (Frame.lawful_scan c.limit).tight_nil hs
  refine ⟨_, source', .goesOn ?_ hy, ⟨hc.writers, Turns.leave_join hc.readers, hc.complete⟩,
    rfl, ha⟩
  have hfirst : joined.readers.isFirst c.readers.join.1 = true := Turns.isFirst_join hc.readers
  show (Receiving.waiting c.readers.join.1).stepWith joined source (i.read source) = _
  simp only [Receiving.stepWith, hfirst, if_true]

/-! ## Many messages -/

/-- Messages are sent one after the other, each when the one before is done with. -/
inductive SendsAll (o : Outlet σ) : List Message → ControlStream → σ →
    List (Except Error Unit) → ControlStream → σ → Prop
  | nil (c : ControlStream) (out : σ) : SendsAll o [] c out [] c out
  | refused {m : Message} {ms : List Message} {c c' : ControlStream} {out out' : σ} {e : Error}
      {results : List (Except Error Unit)} (h : c.send m = .error e)
      (later : SendsAll o ms c out results c' out') :
      SendsAll o (m :: ms) c out (.error e :: results) c' out'
  | sent {m : Message} {ms : List Message} {c joined done c' : ControlStream} {out next out' : σ}
      {call : Sending} {result : Except Error Unit} {results : List (Except Error Unit)}
      (h : c.send m = .ok (call, joined))
      (run : Attempt.Yields (Sending.stepOut o) (call, joined, out) (result, done, next))
      (later : SendsAll o ms done next results c' out') :
      SendsAll o (m :: ms) c out (result :: results) c' out'

/-- So many messages are received one after the other. -/
inductive ReceivesAll (i : Inlet σ) : ControlStream → σ →
    List (Except Error Message) → ControlStream → σ → Prop
  | nil (c : ControlStream) (source : σ) : ReceivesAll i c source [] c source
  | cons {c done c' : ControlStream} {source next source' : σ} {result : Except Error Message}
      {results : List (Except Error Message)}
      (run : Attempt.Yields (Receiving.stepIn i) (c.receive.1, c.receive.2, source)
        (result, done, next))
      (later : ReceivesAll i done next results c' source') :
      ReceivesAll i c source (result :: results) c' source'

/-- What the calls come to is settled by the stream that they are sent on. -/
theorem SendsAll.unique {o : Outlet σ} {ms : List Message} {c c₁ c₂ : ControlStream}
    {out out₁ out₂ : σ} {results₁ results₂ : List (Except Error Unit)}
    (h₁ : SendsAll o ms c out results₁ c₁ out₁) (h₂ : SendsAll o ms c out results₂ c₂ out₂) :
    results₁ = results₂ ∧ c₁ = c₂ ∧ out₁ = out₂ := by
  induction h₁ generalizing results₂ with
  | nil =>
    cases h₂
    exact ⟨rfl, rfl, rfl⟩
  | refused h _ ih =>
    cases h₂ with
    | refused h' later =>
      obtain rfl := Except.error.inj (h.symm.trans h')
      exact (ih later).imp_left (congrArg _)
    | sent h' => cases h.symm.trans h'
  | sent h run _ ih =>
    cases h₂ with
    | refused h' => cases h.symm.trans h'
    | sent h' run' later =>
      obtain ⟨rfl, rfl⟩ := Prod.mk.inj (Except.ok.inj (h.symm.trans h'))
      obtain ⟨rfl, rfl, rfl⟩ := by simpa using run.unique run'
      exact (ih later).imp_left (congrArg _)

/-- The messages whose sending succeeded. -/
def succeeded : List Message → List (Except Error Unit) → List Message
  | m :: ms, .ok () :: results => m :: succeeded ms results
  | _ :: ms, .error _ :: results => succeeded ms results
  | _, _ => []

/-- All that can be framed is written, in order. -/
theorem Idle.sendsAll {c : ControlStream} (hc : c.Idle) {o : Outlet σ} (ho : o.Willing)
    {messages : List Message} (hm : ∀ m ∈ messages, m.Valid) (out : σ) :
    ∃ results c' out', SendsAll o messages c out results c' out' ∧
      List.Forall₂ (fun m r => (∃ e, r = .error e) ↔ ¬ Frame.Fits c.limit m) messages results ∧
      succeeded messages results = messages.filter (fun m => Frame.Fits c.limit m) ∧
      o.taken out' =
        o.taken out ++ (messages.filter (fun m => Frame.Fits c.limit m)).flatMap Frame.wire := by
  induction messages generalizing c out with
  | nil => exact ⟨[], c, out, .nil c out, .nil, rfl, (List.append_nil _).symm⟩
  | cons m messages ih =>
    obtain ⟨hm, hms⟩ := List.forall_mem_cons.mp hm
    by_cases hf : Frame.Fits c.limit m
    · obtain ⟨call, joined, done, next, hsend, hrun, hdone, hlim, ht⟩ := hc.yields_send ho hm hf out
      obtain ⟨results, c', out', hall, hfail, hkept, ht'⟩ := ih hdone hms next
      rw [hlim] at hfail hkept ht'
      refine ⟨.ok () :: results, c', out', .sent hsend hrun hall,
        .cons (by simp [hf]) hfail, ?_, ?_⟩
      · rw [succeeded, hkept, List.filter_cons_of_pos (by simpa using hf)]
      · rw [ht', ht, List.filter_cons_of_pos (by simpa using hf), List.flatMap_cons,
          List.append_assoc]
    · obtain ⟨e, hsend⟩ := send_of_not_fits hm hf
      obtain ⟨results, c', out', hall, hfail, hkept, ht'⟩ := ih hc hms out
      refine ⟨.error e :: results, c', out', .refused hsend hall,
        .cons (by simp [hf]) hfail, ?_, ?_⟩
      · rw [succeeded, hkept, List.filter_cons_of_neg (by simpa using hf)]
      · rw [ht', List.filter_cons_of_neg (by simpa using hf)]

/-- Frames are read back in order, and nothing behind them. -/
theorem Idle.receivesAll {c : ControlStream} (hc : c.Idle) {i : Inlet σ} (hi : i.Prompt)
    {messages : List Message} (hm : ∀ m ∈ messages, m.Valid ∧ Frame.Fits c.limit m)
    {further : Bytes} {source : σ}
    (ha : i.ahead source = messages.flatMap Frame.wire ++ further) :
    ∃ c' source', ReceivesAll i c source (messages.map .ok) c' source' ∧
      i.ahead source' = further := by
  induction messages generalizing c source with
  | nil => exact ⟨c, source, .nil c source, by simpa using ha⟩
  | cons m messages ih =>
    obtain ⟨⟨hv, hf⟩, hms⟩ := List.forall_mem_cons.mp hm
    rw [List.flatMap_cons, List.append_assoc] at ha
    have hs := Frame.scan_wire_of_fits hv hf (messages.flatMap Frame.wire ++ further)
    rw [← ha] at hs
    obtain ⟨done, next, hrun, hdone, hlim, hrest⟩ := hc.yields_receive hi hs
    obtain ⟨c', source', hall, hfurther⟩ := ih hdone (by rwa [hlim]) hrest
    exact ⟨c', source', .cons hrun hall, hfurther⟩

/-- Messages that are sent one after the other on a stream that takes everything are refused exactly
when their payload is longer than the writer's limit or hold a limit for request ids that no varint
can hold. Whoever then reads at the other end, with a limit that is not lower and whatever follows,
is given the messages that were not refused, in order, and is left with what follows. A payload of
`2^62` bytes is beyond every limit, as its length can not be written. -/
theorem messages_round_trip {o : Outlet σ} (ho : o.Willing) {i : Inlet τ} (hi : i.Prompt)
    {Mw Mr : Nat} (hM : Mw ≤ Mr) {messages : List Message}
    (hm : ∀ m ∈ messages, m.Valid ∧ m.params.length ≤ Varint.max) (w r : Nat) (out : σ) :
    ∃ results c' out' written,
      SendsAll o messages (fresh w Mw) out results c' out' ∧
      List.Forall₂ (fun m result => (∃ e, result = .error e) ↔
        (∃ limit, m.limit? = some limit ∧ Varint.max < limit) ∨
          min Mw Varint.max < m.payload.length) messages results ∧
      o.taken out' = o.taken out ++ written ∧
      ∀ further source, i.ahead source = written ++ further →
        ∃ c'' source', ReceivesAll i (fresh r Mr) source ((succeeded messages results).map .ok)
          c'' source' ∧ i.ahead source' = further := by
  obtain ⟨results, c', out', hall, hfail, hkept, ht⟩ :=
    (fresh_idle w Mw).sendsAll ho (fun m h => (hm m h).1) out
  refine ⟨results, c', out', _, hall, ?_, ht, ?_⟩
  · have hboth := List.forall₂_and_left messages results |>.mpr ⟨fun m h => (hm m h).2, hfail⟩
    refine hboth.imp ?_
    rintro m result ⟨hp, hiff⟩
    exact hiff.trans (Frame.not_fits_iff hp)
  · intro further source ha
    rw [hkept]
    refine (fresh_idle r Mr).receivesAll hi (fun m h => ?_) ha
    obtain ⟨hmem, hf⟩ := List.mem_filter.mp h
    exact ⟨(hm m hmem).1, Frame.Fits.mono hM (of_decide_eq_true hf)⟩

/-- Of two messages the first is too long for the writer, and the second comes out. -/
theorem messages_round_trip_second :
    Outlet.sink.Willing ∧ Inlet.source.Prompt ∧ 1 ≤ 8 ∧
    (∀ m ∈ [Message.requestsBlocked 64, .maxRequestId 9], m.Valid ∧
      m.params.length ≤ Varint.max) ∧
    ∃ results c' out' written,
      SendsAll Outlet.sink [.requestsBlocked 64, .maxRequestId 9] (fresh 0 1) [] results c' out' ∧
      List.Forall₂ (fun m result => (∃ e, result = .error e) ↔
        (∃ limit, m.limit? = some limit ∧ Varint.max < limit) ∨
          min 1 Varint.max < m.payload.length)
        [Message.requestsBlocked 64, .maxRequestId 9] results ∧
      Outlet.sink.taken out' = Outlet.sink.taken [] ++ written ∧
      ∀ further source, Inlet.source.ahead source = written ++ further →
        ∃ c'' source', ReceivesAll Inlet.source (fresh 0 8) source
          ((succeeded [.requestsBlocked 64, .maxRequestId 9] results).map .ok) c'' source' ∧
          Inlet.source.ahead source' = further := by
  have hm : ∀ m ∈ [Message.requestsBlocked 64, .maxRequestId 9], m.Valid ∧
      m.params.length ≤ Varint.max := by decide
  exact ⟨Outlet.sink_willing, Inlet.source_prompt, by decide, hm,
    messages_round_trip Outlet.sink_willing Inlet.source_prompt (by decide) hm 0 0 []⟩

end ControlStream

end MediaOverQuic
