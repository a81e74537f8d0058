import Mathlib.Tactic
import MediaOverQuic.Control.Stream

/-!
# Ends of streams

What calls rely on of the streams below them. The end that is written to takes bytes from the front
of what it is given, the end that is read from hands out the bytes to come, both in order. Apart
from that a stream may do as it likes: take or hand out any number of bytes at a time, wait, fail.
-/
namespace MediaOverQuic

namespace Attempt

/-- Whether a call that is run on its own ends with `a`. -/
inductive Yields (step : σ → Attempt σ α) : σ → α → Prop
  | ends {s : σ} {a : α} (h : step s = .ends a) : Yields step s a
  | goesOn {s t : σ} {a : α} (h : step s = .goesOn t) (later : Yields step t a) : Yields step s a

theorem Yields.unique {step : σ → Attempt σ α} {s : σ} {a b : α} (ha : Yields step s a)
    (hb : Yields step s b) : a = b := by
  induction ha with
  | ends h =>
    cases hb with
    | ends h' => exact Attempt.ends.inj (h.symm.trans h')
    | goesOn h' => cases h.symm.trans h'
  | goesOn h _ ih =>
    cases hb with
    | ends h' => cases h.symm.trans h'
    | goesOn h' later =>
      obtain rfl := Attempt.goesOn.inj (h.symm.trans h')
      exact ih later

theorem map_eq_goesOn {f : σ → τ} {g : α → β} {x : Attempt σ α} {t : τ} :
    x.map f g = .goesOn t ↔ ∃ s, x = .goesOn s ∧ f s = t := by
  cases x <;> simp [map]

theorem map_eq_ends {f : σ → τ} {g : α → β} {x : Attempt σ α} {b : β} :
    x.map f g = .ends b ↔ ∃ a, x = .ends a ∧ g a = b := by
  cases x <;> simp [map]

theorem map_eq_waits {f : σ → τ} {g : α → β} {x : Attempt σ α} :
    x.map f g = .waits ↔ x = .waits := by
  cases x <;> simp [map]

end Attempt

/-- The end of a stream that is written to, and the bytes that it has taken so far. -/
structure Outlet (σ : Type) where
  write : σ → Bytes → Attempt (Bytes × σ) (Except StreamError Unit × σ)
  taken : σ → Bytes
  taken_goesOn : ∀ {s data rest t}, write s data = .goesOn (rest, t) →
    ∃ chunk, data = chunk ++ rest ∧ taken t = taken s ++ chunk
  taken_done : ∀ {s data t}, write s data = .ends (.ok (), t) → data = [] ∧ taken t = taken s
  /-- A part may be taken by a write that fails. -/
  taken_failed : ∀ {s data e t}, write s data = .ends (.error e, t) →
    ∃ chunk, chunk <+: data ∧ taken t = taken s ++ chunk

namespace Outlet

/-- Whether the stream takes all it is given, in whatever pieces. -/
structure Willing (o : Outlet σ) : Prop where
  takes : ∀ s {data}, data ≠ [] →
    ∃ rest t, o.write s data = .goesOn (rest, t) ∧ rest.length < data.length
  flushes : ∀ s, ∃ t, o.write s [] = .ends (.ok (), t)

/-- A stream that takes everything at once. -/
def sink : Outlet Bytes where
  write s data := if data = [] then .ends (.ok (), s) else .goesOn ([], s ++ data)
  taken s := s
  taken_goesOn := by
    intro s data rest t h
    split_ifs at h
    obtain ⟨rfl, rfl⟩ := by simpa using h
    exact ⟨data, by simp, rfl⟩
  taken_done := by
    intro s data t h
    split_ifs at h with hd
    exact ⟨hd, by simpa using h.symm⟩
  taken_failed := by
    intro s data e t h
    split_ifs at h
    simp at h

theorem sink_willing : sink.Willing where
  takes s data hd := ⟨[], s ++ data, if_neg hd, List.length_pos_iff.mpr hd⟩
  flushes s := ⟨s, by simp [sink]⟩

/-- A pipe from which `past` was read already. -/
def pipe (past : Bytes) : Outlet Pipe where
  write := Pipe.write
  taken p := past ++ p.buffer
  taken_goesOn := by
    intro p data rest q h
    unfold Pipe.write at h
    split_ifs at h
    obtain ⟨rfl, rfl⟩ := by simpa using h
    exact ⟨data.take p.room, (List.take_append_drop _ _).symm, by simp [Pipe.fill]⟩
  taken_done := by
    intro p data q h
    unfold Pipe.write at h
    split_ifs at h with hd
    · obtain rfl : p = q := by simpa using h
      exact ⟨hd, rfl⟩
    · simp at h
  taken_failed := by
    intro p data e q h
    unfold Pipe.write at h
    split_ifs at h
    · simp at h
    · obtain ⟨-, rfl⟩ := by simpa using h
      exact ⟨[], List.nil_prefix, (List.append_nil _).symm⟩

end Outlet

/-- The end of a stream that is read from, and the bytes that are still to come. -/
structure Inlet (σ : Type) where
  read : σ → Nat → Attempt (Bytes × σ) σ
  ahead : σ → Bytes
  ahead_goesOn : ∀ {s count chunk t}, read s count = .goesOn (chunk, t) →
    chunk.length ≤ count ∧ (0 < count → chunk ≠ []) ∧ ahead s = chunk ++ ahead t
  ahead_ended : ∀ {s count t}, read s count = .ends t → ahead s = [] ∧ t = s

namespace Inlet

/-- Whether the stream never keeps a reader waiting for bytes that are to come. -/
def Prompt (i : Inlet σ) : Prop :=
  ∀ s count, i.ahead s ≠ [] → ∃ chunk t, i.read s count = .goesOn (chunk, t)

/-- A stream all of whose bytes have arrived. -/
def source : Inlet Bytes where
  read s count := if s = [] then .ends s else .goesOn (s.take count, s.drop count)
  ahead s := s
  ahead_goesOn := by
    intro s count chunk t h
    split_ifs at h with hs
    obtain ⟨rfl, rfl⟩ := by simpa using h
    refine ⟨List.length_take_le count s, ?_, (List.take_append_drop count s).symm⟩
    intro hc he
    exact hs ((List.take_eq_nil_iff.mp he).resolve_left hc.ne')
  ahead_ended := by
    intro s count t h
    split_ifs at h with hs
    exact ⟨hs, by simpa using h.symm⟩

theorem source_prompt : source.Prompt := fun s count hs =>
  ⟨s.take count, s.drop count, if_neg hs⟩

/-- What has arrived in a pipe. -/
def pipe : Inlet Pipe where
  read := Pipe.read
  ahead p := p.buffer
  ahead_goesOn := by
    intro p count chunk q h
    unfold Pipe.read at h
    split at h
    · split_ifs at h
    · next bytes hb =>
      obtain ⟨rfl, rfl⟩ := by simpa using h
      refine ⟨List.length_take_le count _, ?_, (p.take_append_buffer_skip count).symm⟩
      intro hc he
      exact hb ((List.take_eq_nil_iff.mp he).resolve_left hc.ne')
  ahead_ended := by
    intro p count q h
    unfold Pipe.read at h
    split at h
    · next hb =>
      split_ifs at h
      exact ⟨hb, by simpa using h.symm⟩
    · simp at h

end Inlet

namespace Pipe

variable {p q : Pipe} {chunk : Bytes} {count : Nat}

/-- What is written at once has room on the pipe, which is open. -/
theorem write_all (h : p.write chunk = .goesOn ([], q)) :
    p.closed = false ∧ q.buffer = p.buffer ++ chunk ∧ q.closed = false := by
  unfold Pipe.write at h
  split_ifs at h with hnil hclosed hroom
  obtain ⟨hdrop, rfl⟩ := by simpa using h
  have hall : chunk.take p.room = chunk := List.take_of_length_le hdrop
  have hclosed : p.closed = false := by simpa using hclosed
  exact ⟨hclosed, congrArg (p.buffer ++ ·) hall, hclosed⟩

theorem read_some (hpos : 0 < count) (h : p.read count = .goesOn (chunk, q)) :
    chunk ≠ [] ∧ chunk.length ≤ count ∧ p.buffer = chunk ++ q.buffer ∧ q.closed = p.closed := by
  obtain ⟨hle, hne, hahead⟩ := Inlet.pipe.ahead_goesOn h
  refine ⟨hne hpos, hle, hahead, ?_⟩
  unfold Pipe.read at h
  split at h
  · split_ifs at h
  · obtain ⟨rfl, rfl⟩ := by simpa using h
    rfl

end Pipe

end MediaOverQuic
