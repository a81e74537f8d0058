import Mathlib.Tactic
import MediaOverQuic.Proofs.Control.FirstFrame
import MediaOverQuic.Proofs.Session.Course

/-!
# What a side applies of its peer's messages

After the handshake a side reads one frame after the other. It applies a message that raises the
limit for its requests, or that says that the peer waits for a higher one, and it stops at anything
else. Which messages it applies, where it stops, and with which code, is settled by the bytes and by
the limit in force in front of them.
-/
namespace MediaOverQuic

namespace Message

/-- Whether a side applies a message, when the limit for its requests is `reached`. -/
def Acceptable (reached : Nat) : Message → Prop
  | maxRequestId limit => reached < limit
  | requestsBlocked _ => True
  | clientSetup _ | serverSetup _ => False

instance (reached : Nat) : DecidablePred (Acceptable reached)
  | maxRequestId limit => inferInstanceAs (Decidable (reached < limit))
  | requestsBlocked _ => inferInstanceAs (Decidable True)
  | clientSetup _ | serverSetup _ => inferInstanceAs (Decidable False)

end Message

namespace SessionState

variable {s s' : SessionState} {m : Message}

/-- Nothing but the limit for this side's requests is changed by a message. -/
theorem handle_eq_ok_iff : s.handle m = .ok s' ↔
    m.Acceptable s.maxOutgoing ∧ s' = { s with maxOutgoing := m.raised?.getD s.maxOutgoing } := by
  cases m with
  | clientSetup params | serverSetup params => simp [handle, Message.Acceptable]
  | requestsBlocked limit =>
    rw [handle, Except.ok.injEq, eq_comm]
    exact (and_iff_right trivial).symm
  | maxRequestId limit =>
    simp only [handle, raiseOutgoing, Message.Acceptable, Message.raised?, Option.getD_some]
    split_ifs with hle
    · simp [hle]
    · simp [Nat.lt_of_not_le hle, eq_comm]

theorem code_of_handle {e : Error} (h : s.handle m = .error e) :
    ¬ m.Acceptable s.maxOutgoing ∧ e.code = .protocolViolation := by
  cases m with
  | clientSetup params | serverSetup params =>
    obtain rfl := Except.error.inj h
    exact ⟨id, rfl⟩
  | requestsBlocked limit => cases h
  | maxRequestId limit =>
    simp only [handle, raiseOutgoing] at h
    split_ifs at h with hle
    obtain rfl := Except.error.inj h
    exact ⟨Nat.not_lt.mpr hle, rfl⟩

end SessionState

namespace Processing

variable {limit reached : Nat} {bytes rest : Bytes} {m : Message} {messages : List Message}
  {code : TerminationCode}

/-- The limit for a side's requests behind `messages`, when it is `reached` in front of them. -/
def limitAfter (reached : Nat) (messages : List Message) : Nat :=
  (messages.filterMap Message.raised?).getLast?.getD reached

@[simp] theorem limitAfter_nil (reached : Nat) : limitAfter reached [] = reached := rfl

theorem limitAfter_cons (reached : Nat) (m : Message) (messages : List Message) :
    limitAfter reached (m :: messages) = limitAfter (m.raised?.getD reached) messages := by
  cases hm : m.raised? with
  | none => simp [limitAfter, hm]
  | some limit => simp [limitAfter, hm, List.getLast?_cons]

theorem limitAfter_append (reached : Nat) (messages later : List Message) :
    limitAfter reached (messages ++ later) = limitAfter (limitAfter reached messages) later := by
  induction messages generalizing reached with
  | nil => rfl
  | cons m messages ih => rw [List.cons_append, limitAfter_cons, limitAfter_cons, ih]

/-- Whether a side applies `messages`, which stand in front of `bytes`, one after the other, and
then has `rest` in front of it. The limit for its requests is `reached` in front of them. -/
inductive Applied (limit : Nat) : Nat → Bytes → List Message → Bytes → Prop
  | nil {reached : Nat} {bytes : Bytes} : Applied limit reached bytes [] bytes
  | cons {reached : Nat} {bytes middle rest : Bytes} {m : Message} {messages : List Message}
      (hm : Frame.Holds limit bytes m middle) (hok : m.Acceptable reached)
      (hnext : Applied limit (m.raised?.getD reached) middle messages rest) :
    Applied limit reached bytes (m :: messages) rest

/-- The code that a side ends the session with, for each way in which what is in front of a stream
that ends behind `bytes` is not a message that it applies. -/
inductive Fault (limit reached : Nat) (bytes : Bytes) : TerminationCode → Prop
  | ended (h : Frame.Incomplete limit bytes) : Fault limit reached bytes .internalError
  | overlong (h : Frame.Overlong limit bytes) : Fault limit reached bytes .protocolViolation
  | misformatted {typeId : Nat} {payload rest : Bytes}
      (h : Frame.Opens limit bytes typeId payload rest)
      (hm : Message.Misformatted typeId payload) :
    Fault limit reached bytes .keyValueFormattingError
  | undecodable {typeId : Nat} {payload rest : Bytes}
      (h : Frame.Opens limit bytes typeId payload rest)
      (hm : ¬ Message.Misformatted typeId payload)
      (hwords : ∀ m : Message, typeId = m.type.value → payload ∉ m.words) :
    Fault limit reached bytes .protocolViolation
  | setup {r : Role} {params : List KeyValuePair} {rest : Bytes}
      (h : Frame.Holds limit bytes (.setup r params) rest) :
    Fault limit reached bytes .protocolViolation
  | notRaised {limit' : Nat} {rest : Bytes}
      (h : Frame.Holds limit bytes (.maxRequestId limit') rest) (hle : limit' ≤ reached) :
    Fault limit reached bytes .protocolViolation

/-- What a side makes of what is in front of a stream that ends behind `bytes`: the message that it
applies, and what stands behind it, or the code that it ends the session with. -/
def judge (limit reached : Nat) (bytes : Bytes) : Except TerminationCode (Message × Bytes) :=
  match Frame.scan limit bytes with
  | .more .. => .error .internalError
  | .ready (.error e, _) => .error e.code
  | .ready (.ok m, rest) =>
    if m.Acceptable reached then .ok (m, rest) else .error .protocolViolation

theorem judge_eq_ok_iff : judge limit reached bytes = .ok (m, rest) ↔
    Frame.Holds limit bytes m rest ∧ m.Acceptable reached := by
  rw [← Frame.scan_eq_ok_iff]
  constructor
  · intro h
    unfold judge at h
    split at h
    · cases h
    · cases h
    · next m' rest' hscan =>
      split_ifs at h with hok
      obtain ⟨rfl, rfl⟩ := by simpa using h
      exact ⟨hscan, hok⟩
  · rintro ⟨hscan, hok⟩
    simp only [judge, hscan, if_pos hok]

theorem judge_of_not_acceptable (h : Frame.Holds limit bytes m rest)
    (hno : ¬ m.Acceptable reached) : judge limit reached bytes = .error .protocolViolation := by
  simp only [judge, Frame.scan_eq_ok_iff.mpr h, if_neg hno]

theorem judge_of_error {e : Error} (h : Frame.scan limit bytes = .ready (.error e, rest)) :
    judge limit reached bytes = .error e.code := by
  simp only [judge, h]

theorem judge_of_refused {typeId : Nat} {payload : Bytes}
    (h : Frame.Opens limit bytes typeId payload rest) {e : Error}
    (he : Message.decode typeId payload = .error e) :
    judge limit reached bytes = .error e.code :=
  judge_of_error (by rw [Frame.scan_of_opens h, he])

/-- A message that a side does not apply is a setup message, or one that raises nothing. -/
theorem fault_of_not_acceptable (h : Frame.Holds limit bytes m rest)
    (hno : ¬ m.Acceptable reached) : Fault limit reached bytes .protocolViolation := by
  cases m with
  | clientSetup params => exact .setup (r := .client) h
  | serverSetup params => exact .setup (r := .server) h
  | maxRequestId limit' => exact .notRaised h (Nat.not_lt.mp hno)
  | requestsBlocked limit' => exact absurd trivial hno

/-- A side that does not apply what is in front of it has a reason for that, which is settled by the
bytes. -/
theorem judge_eq_error_iff :
    judge limit reached bytes = .error code ↔ Fault limit reached bytes code := by
  constructor
  · intro h
    unfold judge at h
    split at h
    · next count atEnd hscan =>
      obtain rfl := Except.error.inj h
      exact .ended (Frame.incomplete_iff.mpr ⟨count, atEnd, hscan⟩)
    · next e rest hscan =>
      obtain rfl := Except.error.inj h
      rcases Frame.scan_eq_ready hscan with ⟨typeId, length, hl, hstarts, he⟩ |
        ⟨typeId, payload, hopens, hdecode⟩
      · obtain rfl := Except.error.inj he
        exact .overlong ⟨typeId, length, rest, hl, hstarts⟩
      · rcases Message.code_of_decode hdecode.symm with ⟨hm, hcode⟩ | ⟨hm, hcode⟩
        · rw [hcode]
          exact .misformatted hopens hm
        · rw [hcode]
          refine .undecodable hopens hm fun m htype hwords => ?_
          cases hdecode.trans (Message.decode_eq_ok_iff_mem_words.mpr ⟨htype, hwords⟩)
    · next m rest hscan =>
      split_ifs at h with hok
      obtain rfl := Except.error.inj h
      exact fault_of_not_acceptable (Frame.scan_eq_ok_iff.mp hscan) hok
  · intro h
    cases h with
    | ended h =>
      obtain ⟨count, atEnd, hscan⟩ := Frame.incomplete_iff.mp h
      simp only [judge, hscan]
    | overlong h =>
      obtain ⟨typeId, length, rest, hl, hstarts⟩ := h
      exact judge_of_error (Frame.scan_of_overlong hl hstarts)
    | @misformatted typeId payload rest h hm =>
      cases hdecode : Message.decode typeId payload with
      | ok m => exact absurd hm (Message.not_misformatted_of_decode hdecode)
      | error e =>
        obtain ⟨-, hcode⟩ := (Message.code_of_decode hdecode).resolve_right fun hno => hno.1 hm
        rw [judge_of_refused h hdecode, hcode]
    | @undecodable typeId payload rest h hm hwords =>
      cases hdecode : Message.decode typeId payload with
      | ok m =>
        obtain ⟨htype, hmem⟩ := Message.decode_eq_ok_iff_mem_words.mp hdecode
        exact absurd hmem (hwords m htype)
      | error e =>
        obtain ⟨-, hcode⟩ := (Message.code_of_decode hdecode).resolve_left fun hno => hm hno.1
        rw [judge_of_refused h hdecode, hcode]
    | @setup r params rest h => exact judge_of_not_acceptable h (by cases r <;> exact id)
    | notRaised h hle => exact judge_of_not_acceptable h (Nat.not_lt.mpr hle)

/-! ## All that is applied -/

theorem Applied.append {middle : Bytes} {later : List Message}
    (h : Applied limit reached bytes messages middle)
    (hlater : Applied limit (limitAfter reached messages) middle later rest) :
    Applied limit reached bytes (messages ++ later) rest := by
  induction h with
  | nil => exact hlater
  | cons hm hok _ ih =>
    rw [limitAfter_cons] at hlater
    exact .cons hm hok (ih hlater)

/-- There is a first thing that is not applied: every frame takes some of the bytes. -/
theorem exists_applied (limit reached : Nat) (bytes : Bytes) :
    ∃ messages rest code, Applied limit reached bytes messages rest ∧
      Fault limit (limitAfter reached messages) rest code := by
  induction hn : bytes.length using Nat.strong_induction_on generalizing reached bytes with
  | h n ih =>
    cases hjudge : judge limit reached bytes with
    | error code => exact ⟨[], bytes, code, .nil, judge_eq_error_iff.mp hjudge⟩
    | ok found =>
      obtain ⟨m, middle⟩ := found
      obtain ⟨hm, hok⟩ := judge_eq_ok_iff.mp hjudge
      obtain ⟨messages, rest, code, happlied, hfault⟩ :=
        ih middle.length (hn ▸ hm.length_lt) (m.raised?.getD reached) middle rfl
      refine ⟨m :: messages, rest, code, .cons hm hok happlied, ?_⟩
      rwa [limitAfter_cons]

/-- Where a side stops, and why, is settled by the bytes. -/
theorem Applied.unique {messages' : List Message} {rest' : Bytes} {code' : TerminationCode}
    (h : Applied limit reached bytes messages rest)
    (hfault : Fault limit (limitAfter reached messages) rest code)
    (h' : Applied limit reached bytes messages' rest')
    (hfault' : Fault limit (limitAfter reached messages') rest' code') :
    messages' = messages ∧ rest' = rest ∧ code' = code := by
  -- both ways to go on are what the side makes of the same bytes
  induction h generalizing messages' with
  | nil =>
    have hjudge := judge_eq_error_iff.mpr hfault
    cases h' with
    | nil =>
      obtain rfl := Except.error.inj (hjudge.symm.trans (judge_eq_error_iff.mpr hfault'))
      exact ⟨rfl, rfl, rfl⟩
    | cons hm' hok' _ => cases hjudge.symm.trans (judge_eq_ok_iff.mpr ⟨hm', hok'⟩)
  | cons hm hok _ ih =>
    have hjudge := judge_eq_ok_iff.mpr ⟨hm, hok⟩
    cases h' with
    | nil => cases hjudge.symm.trans (judge_eq_error_iff.mpr hfault')
    | cons hm' hok' hnext' =>
      obtain ⟨rfl, rfl⟩ := by simpa using hjudge.symm.trans (judge_eq_ok_iff.mpr ⟨hm', hok'⟩)
      rw [limitAfter_cons] at hfault hfault'
      obtain ⟨rfl, rfl, rfl⟩ := ih hfault hnext' hfault'
      exact ⟨rfl, rfl, rfl⟩

/-- What is applied is the first part of what is applied until something is wrong. -/
theorem Applied.isPrefix {messages' : List Message} {rest' : Bytes}
    (h : Applied limit reached bytes messages rest)
    (h' : Applied limit reached bytes messages' rest')
    (hfault : Fault limit (limitAfter reached messages') rest' code) : messages <+: messages' := by
  obtain ⟨later, rest'', code'', hlater, hfault''⟩ :=
    exists_applied limit (limitAfter reached messages) rest
  rw [← limitAfter_append] at hfault''
  obtain ⟨rfl, -, -⟩ := (h.append hlater).unique hfault'' h' hfault
  exact List.prefix_append messages later

end Processing

end MediaOverQuic
