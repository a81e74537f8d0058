import Mathlib.Tactic
import MediaOverQuic.Proofs.Transport.Ends
import MediaOverQuic.Proofs.Control.Frame

/-!
# Steps of calls on a control stream

All that a call that sends or receives a message can do in one step, whatever stream is below it,
and what it comes to when it is left alone on a stream that does not keep it waiting.
-/
namespace MediaOverQuic

namespace Scan

variable {s : Scan α} {i : Inlet σ} {got got' : Bytes} {source source' : σ}

/-- A scan that goes on has read something, and no more than it asked for. -/
theorem pull_eq_goesOn (hs : s.Lawful)
    (h : s.pull got source (i.read source) = .goesOn (got', source')) :
    ∃ count atEnd chunk, s got = .more count atEnd ∧ chunk.length ≤ count ∧ chunk ≠ [] ∧
      got' = got ++ chunk ∧ i.ahead source = chunk ++ i.ahead source' := by
  cases hgot : s got with
  | ready found => simp [pull, hgot] at h
  | more count atEnd =>
    simp only [pull, hgot] at h
    split at h
    · cases h
    · next chunk behind hread =>
      obtain ⟨rfl, rfl⟩ := by simpa using h
      obtain ⟨hle, hne, hahead⟩ := i.ahead_goesOn hread
      exact ⟨count, atEnd, chunk, rfl, hle, hne (hs.count_pos hgot), rfl, hahead⟩
    · cases h

/-- A scan that is over has got all it needs, or finds the stream at its end. -/
theorem pull_eq_ends {result : Except StreamError α}
    (h : s.pull got source (i.read source) = .ends (result, source')) :
    source' = source ∧ ((∃ a rest, s got = .ready (a, rest) ∧ result = .ok a) ∨
      ∃ count atEnd, s got = .more count atEnd ∧ i.read source count = .ends source ∧
        result = .error atEnd) := by
  cases hgot : s got with
  | ready found =>
    obtain ⟨rfl, rfl⟩ := by simpa [pull, hgot] using h
    exact ⟨rfl, .inl ⟨_, _, rfl, rfl⟩⟩
  | more count atEnd =>
    simp only [pull, hgot] at h
    split at h
    · cases h
    · cases h
    · next behind hread =>
      obtain ⟨rfl, rfl⟩ := by simpa using h
      obtain ⟨-, rfl⟩ := i.ahead_ended hread
      exact ⟨rfl, .inr ⟨count, atEnd, rfl, hread, rfl⟩⟩

end Scan

namespace Sending

/-- Whether the call had its turn. -/
def hasTurn : Sending → Bool
  | waiting .. => false
  | writing .. => true

/-- What is left to write of the frame. -/
def unsent : Sending → Bytes
  | waiting _ frame => frame
  | writing _ rest => rest

/-- The call runs on a stream that is written to. -/
def stepOut (o : Outlet σ) : Sending × ControlStream × σ →
    Attempt (Sending × ControlStream × σ) (Except Error Unit × ControlStream × σ) :=
  fun (s, c, out) => s.stepWith c out (o.write out)

variable {o : Outlet σ} {s s' : Sending} {c c' : ControlStream} {out out' : σ}

/-- A call that goes on has got its turn, or has written a part of its frame. -/
theorem stepWith_eq_goesOn (h : s.stepWith c out (o.write out) = .goesOn (s', c', out')) :
    (∃ t frame, s = .waiting t frame ∧ c.writers.isFirst t = true ∧ c.incomplete = false ∧
      s' = .writing t frame ∧ c' = { c with incomplete := true } ∧ out' = out) ∨
    (∃ t chunk rest, s = .writing t (chunk ++ rest) ∧ s' = .writing t rest ∧ c' = c ∧
      o.taken out' = o.taken out ++ chunk) := by
  cases s with
  | waiting t frame =>
    simp only [stepWith] at h
    split_ifs at h with hfirst hinc
    obtain ⟨rfl, rfl, rfl⟩ := by simpa using h
    exact .inl ⟨t, frame, rfl, by simpa using hfirst, by simpa using hinc, rfl, rfl, rfl⟩
  | writing t data =>
    simp only [stepWith] at h
    split at h
    · cases h
    · next rest out'' hw =>
      obtain ⟨rfl, rfl, rfl⟩ := by simpa using h
      obtain ⟨chunk, rfl, htaken⟩ := o.taken_goesOn hw
      exact .inr ⟨t, chunk, rest, rfl, rfl, rfl, htaken⟩
    · cases h
    · cases h

/-- A call that ends was turned away, or has written all of its frame, or failed in between. -/
theorem stepWith_eq_ends {result : Except Error Unit}
    (h : s.stepWith c out (o.write out) = .ends (result, c', out')) :
    (∃ t frame, s = .waiting t frame ∧ c.writers.isFirst t = true ∧ c.incomplete = true ∧
      result = .error (.transport .incompleteFrame) ∧ c' = s.leave c ∧ out' = out) ∨
    (∃ t, s = .writing t [] ∧ result = .ok () ∧
      c' = s.leave { c with incomplete := false } ∧ o.taken out' = o.taken out) ∨
    (∃ t rest chunk e, s = .writing t rest ∧ chunk <+: rest ∧ result = .error (.transport e) ∧
      c' = s.leave c ∧ o.taken out' = o.taken out ++ chunk) := by
  cases s with
  | waiting t frame =>
    simp only [stepWith] at h
    split_ifs at h with hfirst hinc
    obtain ⟨rfl, rfl, rfl⟩ := by simpa using h
    exact .inl ⟨t, frame, rfl, by simpa using hfirst, hinc, rfl, rfl, rfl⟩
  | writing t data =>
    simp only [stepWith] at h
    split at h
    · cases h
    · cases h
    · next out'' hw =>
      obtain ⟨rfl, rfl, rfl⟩ := by simpa using h
      obtain ⟨rfl, htaken⟩ := o.taken_done hw
      exact .inr (.inl ⟨t, rfl, rfl, rfl, htaken⟩)
    · next e out'' hw =>
      obtain ⟨rfl, rfl, rfl⟩ := by simpa using h
      obtain ⟨chunk, hp, htaken⟩ := o.taken_failed hw
      exact .inr (.inr ⟨t, data, chunk, e, rfl, hp, rfl, rfl, htaken⟩)

/-- Nothing of a control stream is changed by sending but who writes, and whether a frame is
complete. -/
theorem keeps_of_goesOn (h : s.stepWith c out (o.write out) = .goesOn (s', c', out')) :
    c'.stream = c.stream ∧ c'.limit = c.limit ∧ c'.readers = c.readers := by
  rcases stepWith_eq_goesOn h with ⟨t, frame, -, -, -, -, rfl, -⟩ | ⟨t, chunk, rest, -, -, rfl, -⟩
  · exact ⟨rfl, rfl, rfl⟩
  · exact ⟨rfl, rfl, rfl⟩

theorem keeps_of_ends {result : Except Error Unit}
    (h : s.stepWith c out (o.write out) = .ends (result, c', out')) :
    c'.stream = c.stream ∧ c'.limit = c.limit ∧ c'.readers = c.readers := by
  rcases stepWith_eq_ends h with ⟨t, frame, -, -, -, -, rfl, -⟩ | ⟨t, -, -, rfl, -⟩ |
    ⟨t, rest, chunk, e, -, -, -, rfl, -⟩
  · exact ⟨rfl, rfl, rfl⟩
  · exact ⟨rfl, rfl, rfl⟩
  · exact ⟨rfl, rfl, rfl⟩

/-- All that goes wrong with sending, once a message is framed, is due to the stream. -/
theorem error_of_ends {e : Error}
    (h : s.stepWith c out (o.write out) = .ends (.error e, c', out')) : ∃ t, e = .transport t := by
  rcases stepWith_eq_ends h with ⟨t, frame, -, -, -, he, -⟩ | ⟨t, -, he, -⟩ |
    ⟨t, rest, chunk, cause, -, -, he, -⟩
  · exact ⟨_, Except.error.inj he⟩
  · cases he
  · exact ⟨_, Except.error.inj he⟩

/-- Left alone on a willing stream, a call that has its turn writes the rest of its frame. -/
theorem yields_of_writing (hw : o.Willing) (t : Nat) (rest : Bytes) (c : ControlStream) (out : σ) :
    ∃ out', Attempt.Yields (stepOut o) (.writing t rest, c, out)
        (.ok (), leave (.writing t rest) { c with incomplete := false }, out') ∧
      o.taken out' = o.taken out ++ rest := by
  induction hn : rest.length using Nat.strong_induction_on generalizing rest out with
  | h n ih =>
    by_cases hrest : rest = []
    · subst hrest
      obtain ⟨out', hdone⟩ := hw.flushes out
      refine ⟨out', .ends ?_, by rw [(o.taken_done hdone).2, List.append_nil]⟩
      simp only [stepOut, stepWith, hdone]
    · obtain ⟨rest', next, hgo, hlt⟩ := hw.takes out hrest
      obtain ⟨chunk, rfl, htaken⟩ := o.taken_goesOn hgo
      obtain ⟨out', hy, ht⟩ := ih rest'.length (hn ▸ hlt) rest' next rfl
      refine ⟨out', .goesOn ?_ hy, by rw [ht, htaken, List.append_assoc]⟩
      simp only [stepOut, stepWith, hgo]

end Sending

namespace Receiving

/-- What was read of the frame. -/
def got : Receiving → Bytes
  | waiting _ => []
  | reading _ got => got

/-- The call runs on a stream that is read from. -/
def stepIn (i : Inlet σ) : Receiving × ControlStream × σ →
    Attempt (Receiving × ControlStream × σ) (Except Error Message × ControlStream × σ) :=
  fun (s, c, source) => s.stepWith c source (i.read source)

variable {i : Inlet σ} {s s' : Receiving} {c c' : ControlStream} {source source' : σ}

/-- A call that goes on has got its turn, or has read no more than its frame is sure to have. -/
theorem stepWith_eq_goesOn (h : s.stepWith c source (i.read source) = .goesOn (s', c', source')) :
    c' = c ∧ s'.ticket = s.ticket ∧
      ((∃ t, s = .waiting t ∧ c.readers.isFirst t = true ∧ s' = .reading t [] ∧
        source' = source) ∨
      ∃ t got chunk count atEnd, s = .reading t got ∧ s' = .reading t (got ++ chunk) ∧
        Frame.scan c.limit got = .more count atEnd ∧ chunk.length ≤ count ∧ chunk ≠ [] ∧
        i.ahead source = chunk ++ i.ahead source') := by
  cases s with
  | waiting t =>
    simp only [stepWith] at h
    split_ifs at h with hfirst
    obtain ⟨rfl, rfl, rfl⟩ := by simpa using h
    exact ⟨rfl, rfl, .inl ⟨t, rfl, hfirst, rfl, rfl⟩⟩
  | reading t got =>
    simp only [stepWith] at h
    split at h
    · cases h
    · next got' source'' hp =>
      obtain ⟨rfl, rfl, rfl⟩ := by simpa using h
      obtain ⟨count, atEnd, chunk, hs, hle, hne, rfl, hahead⟩ :=
        Scan.pull_eq_goesOn (Frame.lawful_scan c.limit) hp
      exact ⟨rfl, rfl, .inr ⟨t, got, chunk, count, atEnd, rfl, rfl, hs, hle, hne, hahead⟩⟩
    · cases h
    · cases h

/-- A call that ends has read its frame, or found the stream at its end. -/
theorem stepWith_eq_ends {result : Except Error Message}
    (h : s.stepWith c source (i.read source) = .ends (result, c', source')) :
    c' = s.leave c ∧ source' = source ∧ ∃ t got, s = .reading t got ∧
      ((∃ rest, Frame.scan c.limit got = .ready (result, rest)) ∨
      ∃ count atEnd, Frame.scan c.limit got = .more count atEnd ∧ i.ahead source = [] ∧
        result = .error (.transport atEnd)) := by
  cases s with
  | waiting t =>
    simp only [stepWith] at h
    split_ifs at h
  | reading t got =>
    simp only [stepWith] at h
    split at h
    · cases h
    · cases h
    · next m source'' hp =>
      obtain ⟨rfl, rfl, rfl⟩ := by simpa using h
      obtain ⟨rfl, ⟨m, rest, hs, hm⟩ | ⟨_, _, _, _, he⟩⟩ := Scan.pull_eq_ends hp
      · obtain rfl := Except.ok.inj hm
        exact ⟨rfl, rfl, t, got, rfl, .inl ⟨rest, hs⟩⟩
      · cases he
    · next e source'' hp =>
      obtain ⟨rfl, rfl, rfl⟩ := by simpa using h
      obtain ⟨rfl, ⟨_, _, _, hm⟩ | ⟨count, atEnd, hs, hread, he⟩⟩ := Scan.pull_eq_ends hp
      · cases hm
      · obtain rfl := Except.error.inj he
        exact ⟨rfl, rfl, t, got, rfl, .inr ⟨count, e, hs, (i.ahead_ended hread).1, rfl⟩⟩

/-- Left alone on a stream that keeps nobody waiting, a call that has its turn reads what the frame
in front of the stream holds, and no byte behind it. -/
theorem yields_of_reading (hi : i.Prompt) {result : Except Error Message} {rest : Bytes} (t : Nat)
    (got : Bytes) (c : ControlStream) (source : σ) (ht : (Frame.scan c.limit).Tight got)
    (hs : Frame.scan c.limit (got ++ i.ahead source) = .ready (result, rest)) :
    ∃ source', Attempt.Yields (stepIn i) (.reading t got, c, source)
        (result, leave (.reading t got) c, source') ∧ i.ahead source' = rest := by
  have hlaw := Frame.lawful_scan c.limit
  induction hn : (i.ahead source).length using Nat.strong_induction_on generalizing got source with
  | h n ih =>
    cases hgot : Frame.scan c.limit got with
    | ready found =>
      obtain ⟨a, left⟩ := found
      have hsame := (hlaw.steady hgot (i.ahead source)).symm.trans hs
      obtain ⟨rfl, rfl⟩ := by simpa using hsame
      obtain rfl := ht a left hgot
      refine ⟨source, .ends ?_, rfl⟩
      simp only [stepIn, stepWith, Scan.pull, hgot]
    | more count atEnd =>
      have hne : i.ahead source ≠ [] := by
        intro he
        rw [he, List.append_nil, hgot] at hs
        cases hs
      obtain ⟨chunk, next, hr⟩ := hi source count hne
      obtain ⟨hle, hpos, hahead⟩ := i.ahead_goesOn hr
      have hlt : (i.ahead next).length < n := by
        have := List.length_pos_iff.mpr (hpos (hlaw.count_pos hgot))
        rw [← hn, hahead, List.length_append]
        omega
      obtain ⟨source', hy, hrest⟩ := ih _ hlt (got ++ chunk) next (hlaw.tight_append hgot hle)
        (by rwa [List.append_assoc, ← hahead]) rfl
      refine ⟨source', .goesOn ?_ hy, hrest⟩
      simp only [stepIn, stepWith, Scan.pull, hgot, hr]

end Receiving

end MediaOverQuic
