import Mathlib.Tactic
import MediaOverQuic.Proofs.Control.Boundaries

/-!
# Calls that are given up

A call that receives a message can be given up wherever it waits. The bytes that it has got by then
are lost, so the next call begins in the middle of the frame and takes what is left of it for a frame
of its own. Up to there the messages are those that were sent, in order, however many calls were
given up before they had got a byte.
-/
namespace MediaOverQuic

/-- How a call that receives a message ends. -/
inductive Fate
  | returned (result : Except Error Message)
  /-- The call was given up when it had got these bytes. -/
  | abandoned (got : Bytes)
  deriving DecidableEq

namespace Fate

/-- The message that was received. -/
def message? : Fate → Option Message
  | returned (.ok m) => some m
  | returned (.error _) | abandoned _ => none

/-- Nothing was lost. -/
def IsHarmless : Fate → Prop
  | returned _ => True
  | abandoned got => got = []

end Fate

namespace Frame

variable {limit : Nat} {ends : Bool} {bytes middle rest got : Bytes} {m : Message}
  {ms : List Message} {fates fates' : List Fate}

/-- Whether `bytes` are the frames of some messages, of lengths that are accepted. -/
inductive Carries (limit : Nat) : Bytes → List Message → Prop
  | nil : Carries limit [] []
  | cons {bytes rest : Bytes} {m : Message} {ms : List Message} (h : Holds limit bytes m rest)
      (hrest : Carries limit rest ms) : Carries limit bytes (m :: ms)

/-- What calls do to a stream one after another: each takes what the front of the stream comes to, or
takes some bytes that are not a whole frame and loses them. -/
inductive Dissects (limit : Nat) (ends : Bool) : Bytes → List Fate → Bytes → Prop
  | nil {bytes : Bytes} : Dissects limit ends bytes [] bytes
  | returned {bytes middle rest : Bytes} {result : Except Error Message} {fates : List Fate}
      (h : Comes limit ends bytes result middle) (hrest : Dissects limit ends middle fates rest) :
      Dissects limit ends bytes (.returned result :: fates) rest
  | abandoned {got middle rest : Bytes} {fates : List Fate} (h : Incomplete limit got)
      (hrest : Dissects limit ends middle fates rest) :
      Dissects limit ends (got ++ middle) (.abandoned got :: fates) rest

theorem Dissects.append (h : Dissects limit ends bytes fates middle)
    (h' : Dissects limit ends middle fates' rest) :
    Dissects limit ends bytes (fates ++ fates') rest := by
  induction h with
  | nil => exact h'
  | returned hcomes _ ih => exact .returned hcomes (ih h')
  | abandoned hcut _ ih => exact .abandoned hcut (ih h')

theorem dissects_append_iff : Dissects limit ends bytes (fates ++ fates') rest ↔
    ∃ middle, Dissects limit ends bytes fates middle ∧
      Dissects limit ends middle fates' rest := by
  constructor
  · intro h
    induction fates generalizing bytes with
    | nil => exact ⟨bytes, .nil, h⟩
    | cons fate fates ih =>
      cases h with
      | returned hcomes hrest =>
        obtain ⟨middle, hfirst, hthen⟩ := ih hrest
        exact ⟨middle, .returned hcomes hfirst, hthen⟩
      | abandoned hcut hrest =>
        obtain ⟨middle, hfirst, hthen⟩ := ih hrest
        exact ⟨middle, .abandoned hcut hfirst, hthen⟩
  · rintro ⟨middle, h, h'⟩
    exact h.append h'

/-- What holds a message comes to that message. -/
theorem Comes.of_holds {result : Except Error Message} (hm : Holds limit bytes m rest)
    (h : Comes limit ends bytes result middle) : result = .ok m ∧ middle = rest := by
  obtain ⟨payload, hwords, hopens⟩ := hm
  obtain ⟨rfl, rfl⟩ := h.frame hopens
  exact ⟨Message.decode_eq_ok_iff_mem_words.mpr ⟨rfl, hwords⟩, rfl⟩

/-- An empty stream comes to nothing but its end. -/
theorem Comes.of_nil {result : Except Error Message} (h : Comes limit ends [] result middle) :
    middle = [] ∧ ∀ m, result ≠ .ok m := by
  have hcut : Incomplete limit [] := incomplete_iff.mpr ⟨_, _, rfl⟩
  obtain ⟨-, rfl, cause, -, rfl⟩ := h.cut hcut
  exact ⟨rfl, fun m hm => by cases hm⟩

/-- As long as nothing is lost, the messages received are the first of those sent, and the stream is
left where the frame of the next one begins. Only the end of the stream is an error. -/
theorem Dissects.of_harmless (h : Dissects limit ends bytes fates rest)
    (hc : Carries limit bytes ms) (hharmless : ∀ fate ∈ fates, fate.IsHarmless) :
    ∃ count, fates.filterMap Fate.message? = ms.take count ∧ Carries limit rest (ms.drop count) ∧
      ∀ e, Fate.returned (.error e) ∈ fates → ms.length ≤ count := by
  induction h generalizing ms with
  | nil => exact ⟨0, by simp, by simpa using hc, by simp⟩
  | @returned bytes middle rest result fates hcomes _ ih =>
    have hfates : ∀ fate ∈ fates, fate.IsHarmless := fun fate hf => hharmless fate (by simp [hf])
    cases hc with
    | nil =>
      obtain ⟨rfl, herror⟩ := hcomes.of_nil
      obtain ⟨count, hmessages, hcarries, -⟩ := ih .nil hfates
      cases result with
      | ok m => exact absurd rfl (herror m)
      | error e => exact ⟨count, by simpa [Fate.message?] using hmessages, hcarries, by simp⟩
    | @cons _ _ m ms hm hrest =>
      obtain ⟨rfl, rfl⟩ := hcomes.of_holds hm
      obtain ⟨count, hmessages, hcarries, herrors⟩ := ih hrest hfates
      refine ⟨count + 1, by simp [Fate.message?, hmessages], by simpa using hcarries, ?_⟩
      intro e he
      have hmem : Fate.returned (.error e) ∈ fates := by simpa using he
      simpa using herrors e hmem
  | @abandoned got middle rest fates hcut _ ih =>
    have hfates : ∀ fate ∈ fates, fate.IsHarmless := fun fate hf => hharmless fate (by simp [hf])
    obtain rfl : got = [] := hharmless (.abandoned got) (by simp)
    obtain ⟨count, hmessages, hcarries, herrors⟩ := ih hc hfates
    refine ⟨count, ?_, hcarries, by simpa using herrors⟩
    rwa [List.filterMap_cons_none rfl]

/-- Bytes that are not a whole frame are a part of the frame in front. -/
theorem Holds.within (hm : Holds limit (got ++ middle) m rest) (hcut : Incomplete limit got) :
    ∃ tail, tail ≠ [] ∧ middle = tail ++ rest ∧ Holds limit (got ++ tail) m [] := by
  obtain ⟨payload, hwords, hle, word, hword, hbytes⟩ := hm
  have hwhole : Holds limit word m [] := ⟨payload, hwords, hle, Starts.nil_right.mpr hword⟩
  obtain ⟨count, cause, hmore⟩ := incomplete_iff.mp hcut
  obtain ⟨later, rfl, -⟩ | ⟨tail, rfl, rfl⟩ := List.append_eq_append_iff.mp hbytes
  · cases hmore.symm.trans ((lawful_scan limit).steady (scan_eq_ok_iff.mpr hwhole) later)
  · refine ⟨tail, ?_, rfl, hwhole⟩
    rintro rfl
    rw [List.append_nil] at hwhole
    cases hmore.symm.trans (scan_eq_ok_iff.mpr hwhole)

end Frame

/-- Calls that receive messages, one after another, some of which are given up: the call that runs,
the bytes to come, and how the calls before it have ended. -/
structure Attending where
  control : ControlStream
  call : Option Receiving
  ahead : Bytes
  fates : List Fate

namespace Attending

variable {limit index : Nat} {ends : Bool} {stream : Bytes} {a a' : Attending} {call : Receiving}
  {ms : List Message} {before after : List Fate}

/-- The calls on a fresh control stream. -/
def fresh (index limit : Nat) (stream : Bytes) : Attending :=
  ⟨.fresh index limit, none, stream, []⟩

/-- The present call, apart from those before it. -/
def reading (a : Attending) : Reading := ⟨a.control, a.call, a.ahead, []⟩

/-- What no call before the present one has used up. -/
def left (a : Attending) : Bytes := a.reading.left

/-- A call begins, goes on or returns, or it is given up while it waits, for its turn or for bytes
that its frame lacks. -/
inductive Step (ends : Bool) : Attending → Attending → Prop
  | goesOn {a : Attending} {control : ControlStream} {call : Option Receiving} {ahead : Bytes}
      {results : List (Except Error Message)}
      (h : Reading.Step ends a.reading ⟨control, call, ahead, results⟩) :
      Step ends a ⟨control, call, ahead, a.fates ++ results.map .returned⟩
  | abandons {a : Attending} {call : Receiving} (hcall : a.call = some call)
      (hcut : Frame.Incomplete a.control.limit call.got) :
      Step ends a ⟨call.abandon a.control, none, a.ahead, a.fates ++ [.abandoned call.got]⟩

/-- How the calls so far hang together with the stream. -/
structure Sound (limit : Nat) (ends : Bool) (stream : Bytes) (a : Attending) : Prop where
  present : a.reading.Sound limit ends a.left
  dissects : Frame.Dissects limit ends stream a.fates a.left

theorem sound_fresh : Sound limit ends stream (fresh index limit stream) :=
  ⟨Reading.sound_fresh, .nil⟩

theorem Sound.step (h : Sound limit ends stream a) (hstep : Step ends a a') :
    Sound limit ends stream a' := by
  cases hstep with
  | @goesOn control call ahead results hread =>
    have he : Reading.Sound limit ends a.left ⟨control, call, ahead, results⟩ :=
      h.present.step hread
    refine ⟨⟨he.limit_eq, he.line, he.tight, .start⟩, h.dissects.append ?_⟩
    cases hcall : a.call with
    | none =>
      obtain ⟨i, -, hnext⟩ := hread
      simp only [Reading.next, reading, hcall] at hnext
      obtain ⟨rfl, rfl, rfl, rfl⟩ := by simpa using hnext
      have hleft : a.left = a.ahead := by simp [left, Reading.left, reading, hcall]
      rw [hleft]
      exact .nil
    | some call =>
      rcases h.present.step_of_call hcall hread with ⟨call', hcall', hsame, hleft, -, -⟩ |
        ⟨result, hcall', hmore, hcomes, -⟩
      · obtain rfl : results = [] := hsame
        rw [left, ← hleft]
        exact .nil
      · obtain rfl : results = [result] := hmore
        exact .returned hcomes .nil
  | @abandons call hcall hcut =>
    have hlimit : a.control.limit = limit := h.present.limit_eq
    have hline : a.control.readers.line = a.call.toList.map Receiving.ticket := h.present.line
    have hleft : a.left = call.got ++ a.ahead := by simp [left, Reading.left, reading, hcall]
    rw [hcall] at hline
    rw [hlimit] at hcut
    refine ⟨⟨hlimit, Receiving.Solo.leave hline, fun _ he => (by cases he), .start⟩, h.dissects.append ?_⟩
    rw [hleft]
    exact .abandoned hcut .nil

theorem Sound.run (h : Sound limit ends stream a)
    (hrun : Relation.ReflTransGen (Step ends) a a') : Sound limit ends stream a' := by
  induction hrun with
  | refl => exact h
  | tail _ hstep ih => exact ih.step hstep

/-- On a stream of frames, calls return the messages that were sent, in order, up to the first call
that is given up when it has got a byte. What that call has got is a part of the frame of the next
message, and the calls after it take the stream apart from the middle of that frame on. -/
theorem messages_until_bytes_are_lost (hc : Frame.Carries limit stream ms)
    (h : Relation.ReflTransGen (Step ends) (fresh index limit stream) a)
    (hfates : a.fates = before ++ after) (hharmless : ∀ fate ∈ before, fate.IsHarmless) :
    ∃ count middle, before.filterMap Fate.message? = ms.take count ∧
      (∀ e, .returned (.error e) ∈ before → ms.length ≤ count) ∧
      Frame.Carries limit middle (ms.drop count) ∧
      Frame.Dissects limit ends middle after a.left ∧
      ∀ {got later}, after = .abandoned got :: later → got ≠ [] →
        ∃ m rest tail, ms[count]? = some m ∧ middle = got ++ tail ++ rest ∧ tail ≠ [] ∧
          Frame.Holds limit (got ++ tail) m [] ∧ Frame.Carries limit rest (ms.drop (count + 1)) ∧
          Frame.Dissects limit ends (tail ++ rest) later a.left := by
  have hsound := sound_fresh.run h
  have hdissects := hsound.dissects
  rw [hfates, Frame.dissects_append_iff] at hdissects
  obtain ⟨middle, hbefore, hafter⟩ := hdissects
  obtain ⟨count, hmessages, hcarries, herrors⟩ := hbefore.of_harmless hc hharmless
  refine ⟨count, middle, hmessages, herrors, hcarries, hafter, ?_⟩
  rintro got later rfl hne
  cases hafter with
  | @abandoned _ behind _ _ hcut hlater =>
    generalize hto : ms.drop count = unread at hcarries
    generalize hfrom : got ++ behind = bytes at hcarries
    cases hcarries with
    | nil => exact absurd (List.append_eq_nil_iff.mp hfrom).1 hne
    | @cons _ rest m unread hm hrest =>
      obtain rfl := hfrom
      obtain ⟨tail, htail, rfl, hwhole⟩ := hm.within hcut
      have hm : ms[count]? = some m := by
        rw [← Nat.add_zero count, ← List.getElem?_drop, hto]
        rfl
      have hunread : ms.drop (count + 1) = unread := by
        rw [← List.tail_drop, hto]
        rfl
      exact ⟨m, rest, tail, hm, (List.append_assoc _ _ _).symm, htail, hwhole, hunread ▸ hrest,
        hlater⟩

/-! ## A message that was never sent -/

/-- The frame of a client's setup message whose path looks like a frame itself. -/
def deceptive : Bytes := [0x20, 6, 1, 1, 3, 0x15, 1, 5]

theorem carries_deceptive :
    Frame.Carries 65535 deceptive [.clientSetup [⟨1, .bytes [0x15, 1, 5]⟩]] :=
  .cons (Frame.scan_eq_ok_iff.mp (by decide)) .nil

/-- A call that is given up within that path, and the next one. -/
theorem reaches_deceptive : Relation.ReflTransGen (Step false) (fresh 0 65535 deceptive)
    ⟨⟨0, 65535, false, .nobody, ⟨[], 2⟩⟩, none, [],
      [.abandoned [0x20, 6, 1, 1, 3], .returned (.ok (.maxRequestId 5))]⟩ := by
  have hpieces := Inlet.splits_inPieces false 2
  have hcut : Frame.Incomplete 65535 [0x20, 6, 1, 1, 3] :=
    Frame.incomplete_iff.mpr ⟨3, .earlyEnd, rfl⟩
  have habandoned : Relation.ReflTransGen (Step false) (fresh 0 65535 deceptive)
      ⟨⟨0, 65535, false, .nobody, ⟨[], 1⟩⟩, none, [0x15, 1, 5],
        [.abandoned [0x20, 6, 1, 1, 3]]⟩ :=
    .head (.goesOn ⟨_, hpieces, rfl⟩) <| .head (.goesOn ⟨_, hpieces, rfl⟩) <|
    .head (.goesOn ⟨_, hpieces, rfl⟩) <| .head (.goesOn ⟨_, hpieces, rfl⟩) <|
    .head (.goesOn ⟨_, hpieces, rfl⟩) <|
    .single (@Step.abandons false _ (.reading 0 [0x20, 6, 1, 1, 3]) rfl hcut)
  refine habandoned.trans ?_
  exact .head (.goesOn ⟨_, hpieces, rfl⟩) <| .head (.goesOn ⟨_, hpieces, rfl⟩) <|
    .head (.goesOn ⟨_, hpieces, rfl⟩) <| .head (.goesOn ⟨_, hpieces, rfl⟩) <|
    .head (.goesOn ⟨_, hpieces, rfl⟩) <|
    .single (@Step.goesOn false _ _ _ _ [.ok (.maxRequestId 5)] ⟨_, hpieces, rfl⟩)

/-- A call that is given up before anything has arrived, a limit for request ids, and a call that is
given up within that path. -/
theorem messages_until_bytes_are_lost_deceptive :
    let stream : Bytes := [0x15, 1, 5] ++ deceptive
    let ms : List Message := [.maxRequestId 5, .clientSetup [⟨1, .bytes [0x15, 1, 5]⟩]]
    let before : List Fate := [.abandoned [], .returned (.ok (.maxRequestId 5))]
    let a : Attending := ⟨⟨0, 65535, false, .nobody, ⟨[], 3⟩⟩, none, [0x15, 1, 5],
      before ++ [.abandoned [0x20, 6, 1, 1, 3]]⟩
    Frame.Carries 65535 stream ms ∧
    Relation.ReflTransGen (Step false) (fresh 0 65535 stream) a ∧
    (∀ fate ∈ before, fate.IsHarmless) ∧
    ∃ count middle, [.maxRequestId 5] = ms.take count ∧ Frame.Carries 65535 middle (ms.drop count) ∧
      ∃ m rest tail, ms[count]? = some m ∧ middle = [0x20, 6, 1, 1, 3] ++ tail ++ rest ∧
        tail ≠ [] ∧ Frame.Holds 65535 ([0x20, 6, 1, 1, 3] ++ tail) m [] ∧
        Frame.Dissects 65535 false (tail ++ rest) [] [0x15, 1, 5] := by
  intro stream ms before a
  have hcarries : Frame.Carries 65535 stream ms :=
    .cons (Frame.scan_eq_ok_iff.mp (by decide)) carries_deceptive
  have hpieces := Inlet.splits_inPieces false 2
  have hcut : Frame.Incomplete 65535 [0x20, 6, 1, 1, 3] :=
    Frame.incomplete_iff.mpr ⟨3, .earlyEnd, rfl⟩
  have hnothing : Frame.Incomplete 65535 [] := Frame.incomplete_iff.mpr ⟨1, .unexpectedEnd, rfl⟩
  have hreturned : Relation.ReflTransGen (Step false) (fresh 0 65535 stream)
      ⟨⟨0, 65535, false, .nobody, ⟨[], 2⟩⟩, none, deceptive, before⟩ :=
    .head (.goesOn ⟨_, hpieces, rfl⟩) <|
    .head (@Step.abandons false _ (.waiting 0) rfl hnothing) <|
    .head (.goesOn ⟨_, hpieces, rfl⟩) <| .head (.goesOn ⟨_, hpieces, rfl⟩) <|
    .head (.goesOn ⟨_, hpieces, rfl⟩) <| .head (.goesOn ⟨_, hpieces, rfl⟩) <|
    .head (.goesOn ⟨_, hpieces, rfl⟩) <|
    .single (@Step.goesOn false _ _ _ _ [.ok (.maxRequestId 5)] ⟨_, hpieces, rfl⟩)
  have hrun : Relation.ReflTransGen (Step false) (fresh 0 65535 stream) a := by
    refine hreturned.trans ?_
    exact .head (.goesOn ⟨_, hpieces, rfl⟩) <| .head (.goesOn ⟨_, hpieces, rfl⟩) <|
      .head (.goesOn ⟨_, hpieces, rfl⟩) <| .head (.goesOn ⟨_, hpieces, rfl⟩) <|
      .head (.goesOn ⟨_, hpieces, rfl⟩) <|
      .single (@Step.abandons false _ (.reading 2 [0x20, 6, 1, 1, 3]) rfl hcut)
  have hharmless : ∀ fate ∈ before, fate.IsHarmless := by simp [before, Fate.IsHarmless]
  obtain ⟨count, middle, hmessages, -, hunread, -, hlost⟩ :=
    messages_until_bytes_are_lost hcarries hrun rfl hharmless
  obtain ⟨m, rest, tail, hm, hmiddle, htail, hwhole, -, hthen⟩ := hlost rfl (by decide)
  exact ⟨hcarries, hrun, hharmless, count, middle, hmessages, hunread, m, rest, tail, hm, hmiddle,
    htail, hwhole, hthen⟩

/-- Calls on a stream of frames may return messages that nobody sent. -/
theorem received_not_always_sent :
    ¬ ∀ {limit index : Nat} {ends : Bool} {stream : Bytes} {ms : List Message} {a : Attending},
      Frame.Carries limit stream ms →
        Relation.ReflTransGen (Step ends) (fresh index limit stream) a →
          (a.fates.filterMap Fate.message?).Sublist ms := by
  intro h
  have hsent := h carries_deceptive reaches_deceptive
  revert hsent
  decide

end Attending

end MediaOverQuic
