import Mathlib.Tactic
import MediaOverQuic.Error
import MediaOverQuic.Proofs.Text.Truncation

/-!
# How failures end a session

A failure is a chain of layers: contexts, the outermost in front, and then what went wrong, with
what that came from. The first layer that is an error of the protocol decides the code, and without
one the error is an internal one. So contexts add to what the other side is told and never change
the code.
-/
namespace MediaOverQuic

namespace Failure

/-- Which code layers call for: that of the outermost error of the protocol, if there is one. -/
inductive CallsFor (layers : List Layer) : TerminationCode → Prop
  | outermost {above below : List Layer} {e : Error}
      (hlayers : layers = above ++ .protocol e :: below) (habove : ∀ l ∈ above, l.error? = none) :
    CallsFor layers e.code
  | internal (hnone : ∀ l ∈ layers, l.error? = none) : CallsFor layers .internalError

/-- The way down passes all layers that are no error of the protocol. -/
theorem firstError?_append {above : List Layer} (h : ∀ l ∈ above, l.error? = none)
    (below : List Layer) : firstError? (above ++ below) = firstError? below := by
  induction above with
  | nil => rfl
  | cons layer above ih =>
    obtain ⟨hlayer, habove⟩ := List.forall_mem_cons.mp h
    rw [List.cons_append, firstError?, hlayer]
    exact ih habove

theorem firstError?_eq_some {layers : List Layer} {e : Error} (h : firstError? layers = some e) :
    ∃ above below, layers = above ++ .protocol e :: below ∧ ∀ l ∈ above, l.error? = none := by
  induction layers with
  | nil => cases h
  | cons layer below ih =>
    cases layer with
    | protocol e' =>
      obtain rfl : e' = e := Option.some.inj h
      exact ⟨[], below, rfl, by simp⟩
    | told text =>
      obtain ⟨above, below, rfl, habove⟩ := ih h
      exact ⟨.told text :: above, below, rfl, List.forall_mem_cons.mpr ⟨rfl, habove⟩⟩

theorem firstError?_eq_none {layers : List Layer} (h : firstError? layers = none) :
    ∀ l ∈ layers, l.error? = none := by
  induction layers with
  | nil => simp
  | cons layer below ih =>
    cases layer with
    | protocol e => cases h
    | told text => exact List.forall_mem_cons.mpr ⟨rfl, ih h⟩

theorem callsFor_code (f : Failure) : CallsFor f.layers f.code := by
  rw [code, error?]
  cases h : firstError? f.layers with
  | some e =>
    obtain ⟨above, below, hlayers, habove⟩ := firstError?_eq_some h
    exact .outermost hlayers habove
  | none => exact .internal (firstError?_eq_none h)

/-! ## Contexts -/

/-- The failure with contexts attached to it, one after the other. -/
def withinAll (f : Failure) (contexts : List String) : Failure :=
  contexts.foldl (fun f what => f.within what) f

theorem layers_withinAll (f : Failure) (contexts : List String) :
    (f.withinAll contexts).layers = contexts.reverse.map .told ++ f.layers := by
  induction contexts generalizing f with
  | nil => rfl
  | cons what contexts ih =>
    rw [List.reverse_cons, List.map_append, List.append_assoc]
    exact ih (f.within what)

theorem error?_withinAll (f : Failure) (contexts : List String) :
    (f.withinAll contexts).error? = f.error? := by
  rw [error?, layers_withinAll, firstError?_append, error?]
  intro l hl
  obtain ⟨text, -, rfl⟩ := List.mem_map.mp hl
  rfl

theorem message_withinAll (f : Failure) (contexts : List String) :
    (f.withinAll contexts).message =
      String.intercalate ": " (contexts.reverse ++ f.layers.map Layer.text) := by
  rw [message, layers_withinAll, List.map_append, List.map_map]
  congr 2
  exact List.map_id _

/-- The phrase that a text is cut down to is its longest beginning of whole characters with at most
1024 bytes, and nothing is cut off that again. A failure that contexts are attached to ends a
session with the code of its outermost error of the protocol, or as an internal error if there is
none, whatever the contexts are. What is told is the phrase for all its texts, the outermost context
first. -/
theorem termination_exact :
    (∀ text, LongestCut 1024 text (ReasonPhrase.truncating text).text ∧
      ReasonPhrase.truncating (ReasonPhrase.truncating text).text =
        ReasonPhrase.truncating text) ∧
    ∀ (f : Failure) (contexts : List String),
      CallsFor f.layers f.termination.1 ∧
      (f.withinAll contexts).termination.1 = f.termination.1 ∧
      (f.withinAll contexts).termination.2 = ReasonPhrase.truncating
        (String.intercalate ": " (contexts.reverse ++ f.layers.map Layer.text)) := by
  refine ⟨fun text => ⟨ReasonPhrase.longestCut_truncating text, ReasonPhrase.truncating_text _⟩,
    fun f contexts => ⟨f.callsFor_code, ?_, ?_⟩⟩
  · show (f.withinAll contexts).code = f.code
    rw [code, error?_withinAll, code]
  · show ReasonPhrase.truncating (f.withinAll contexts).message = _
    rw [message_withinAll]

/-- A stream error with a source of its own, and behind it another error of the protocol: the
outermost one decides. -/
example :
    let lost : Error := .transport (.foreign "connection lost" ["timed out"])
    let f : Failure := ⟨.protocol lost, lost.sources.map .told ++ [.protocol (.timeout ⟨0⟩)]⟩
    (f.withinAll ["reading", "handshake"]).code = .internalError ∧
      (f.withinAll ["reading", "handshake"]).message = "handshake: reading: transport error: " ++
        "connection lost: connection lost: timed out: timed out after 0ns" := by
  decide

end Failure

end MediaOverQuic
