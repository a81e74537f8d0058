import Mathlib.Tactic
import MediaOverQuic.Proofs.Eventually
import MediaOverQuic.Transport.Link

/-!
# Slots for streams

Each side of a connection may open a number of bidirectional streams. A call takes its slot before
it hands the stream over, and what it has taken is never given back: not when the other side turns
out to be gone, and not when the call is given up while it waits. So a side may open as many streams
as there are slots, less those that it has opened, those that wait, and those that were lost.
-/
namespace MediaOverQuic

/-! ## What becomes of the slots -/

namespace Link

/-- The slots are the same, and as many are taken. -/
structure SameSlots (l l' : Link) : Prop where
  opened : l'.opened = l.opened
  maxStreams : l'.maxStreams = l.maxStreams

variable {l : Link}

theorem SameSlots.refl (l : Link) : SameSlots l l := ⟨rfl, rfl⟩

theorem SameSlots.trans {l' l'' : Link} (h : SameSlots l l') (h' : SameSlots l' l'') :
    SameSlots l l'' := ⟨h'.opened.trans h.opened, h'.maxStreams.trans h.maxStreams⟩

theorem sameSlots_setArrivals (kind : StreamKind) (r : Role) (c : Channel Nat) :
    SameSlots l (l.setArrivals kind r c) := by
  cases kind <;> exact ⟨rfl, rfl⟩

theorem sameSlots_release (id : Nat) (r : Role) : SameSlots l (l.release id r) := ⟨rfl, rfl⟩

theorem sameSlots_discard (id : Nat) : SameSlots l (l.discard id) := ⟨rfl, rfl⟩

/-- A new stream is on its way. -/
theorem sameSlots_addStream (s : Stream) (kind : StreamKind) (r : Role) (c : Channel Nat) :
    SameSlots l ({ l with streams := l.streams ++ [s] }.setArrivals kind r c) := by
  cases kind <;> exact ⟨rfl, rfl⟩

theorem sameSlots_dropArrivals (kind : StreamKind) (r : Role) :
    SameSlots l (l.dropArrivals kind r) := by
  refine (sameSlots_setArrivals kind r (l.arrivals kind r).clear).trans ?_
  rw [dropArrivals]
  generalize l.setArrivals kind r (l.arrivals kind r).clear = l'
  induction (l.arrivals kind r).queue generalizing l' with
  | nil => exact .refl _
  | cons id ids ih => exact (sameSlots_release id r).trans (ih _)

theorem sameSlots_detach (r : Role) : SameSlots l (l.detach r) := by
  have hdropped : SameSlots l ((l.dropArrivals .bidirectional r).dropArrivals .unidirectional r) :=
    (sameSlots_dropArrivals _ _).trans (sameSlots_dropArrivals _ _)
  exact hdropped.trans ⟨rfl, rfl⟩

theorem isFull_eq_true_iff {kind : StreamKind} {r : Role} :
    l.isFull kind r = true ↔ kind = .bidirectional ∧ l.maxStreams ≤ l.opened.get r := by
  simp [isFull]

/-- Only the side's own count goes up, and only for a bidirectional stream. -/
theorem opened_takeSlot (kind : StreamKind) (r r' : Role) :
    (l.takeSlot kind r).opened.get r' =
      l.opened.get r' + if r = r' ∧ kind = .bidirectional then 1 else 0 := by
  cases kind
  · cases r <;> cases r' <;> rfl
  · simp [takeSlot]

theorem maxStreams_takeSlot (kind : StreamKind) (r : Role) :
    (l.takeSlot kind r).maxStreams = l.maxStreams := by
  cases kind <;> rfl

end Link

namespace Opening

/-- Which kind of stream a call opens. -/
def kind : Opening → StreamKind
  | start kind => kind
  | handing kind _ => kind

/-- Why a stream can not be opened when there is no slot for it. -/
def tooMany (n : Nat) : Failure := .ofError (.violation (.tooManyStreams n))

variable {r : Role} {call call' : Opening} {l l' : Link} {result : Except Failure Nat}

/-- A call that goes on has taken a slot, and has a stream to hand over. -/
theorem takes_of_goesOn (h : call.step r l = .goesOn (call', l')) :
    ∃ kind id, call = .start kind ∧ call' = .handing kind id ∧ l.isFull kind r = false ∧
      Link.SameSlots (l.takeSlot kind r) l' := by
  cases call with
  | start kind =>
    simp only [step, offer] at h
    split_ifs at h with hclosed hfull hgone hroom
    obtain ⟨rfl, rfl⟩ := by simpa using h
    exact ⟨kind, _, rfl, rfl, by simpa using hfull, Link.sameSlots_addStream _ _ _ _⟩
  | handing kind id =>
    simp only [step] at h
    split_ifs at h
    split at h <;> cases h

/-- How a call ends: nothing was taken if the connection is closed or there is no slot, and what was
taken is kept otherwise, whether the stream was handed over or the other side is gone. -/
inductive Ends (r : Role) (l : Link) : Opening → Except Failure Nat → Link → Prop
  | closed {kind : StreamKind} :
    Ends r l (.start kind)
      (.error (.plain ("connection to " ++ Link.remoteHost r ++ " is closed"))) l
  | full {kind : StreamKind} (h : l.isFull kind r = true) :
    Ends r l (.start kind) (.error (tooMany l.maxStreams)) l
  | started {kind : StreamKind} {result : Except Failure Nat} {l' : Link}
      (h : l.isFull kind r = false) (hslots : Link.SameSlots (l.takeSlot kind r) l')
      (hresult : result = .error (peerGone r) ∨ ∃ id, result = .ok id) :
    Ends r l (.start kind) result l'
  | handed {kind : StreamKind} {id : Nat} {result : Except Failure Nat} {l' : Link}
      (hslots : Link.SameSlots l l')
      (hresult : result = .error (peerGone r) ∨ ∃ id, result = .ok id) :
    Ends r l (.handing kind id) result l'

theorem tooMany_ne_plain (n : Nat) (text : String) : tooMany n ≠ .plain text := by
  simp [tooMany, Failure.ofError, Failure.plain]

/-- Only a call that finds no slot is told that there are too many streams. -/
theorem Ends.full_of_tooMany {n : Nat} (h : Ends r l call result l')
    (hresult : result = .error (tooMany n)) :
    l' = l ∧ n = l.maxStreams ∧ l.maxStreams ≤ l.opened.get r := by
  cases h with
  | closed => exact absurd (Except.error.inj hresult).symm (tooMany_ne_plain _ _)
  | full hfull =>
    have hn : l.maxStreams = n := by simpa [tooMany, Failure.ofError, Error.sources] using hresult
    exact ⟨rfl, hn.symm, (Link.isFull_eq_true_iff.mp hfull).2⟩
  | started _ _ hor | handed _ hor =>
    rcases hor with rfl | ⟨id, rfl⟩
    · exact absurd (Except.error.inj hresult).symm (tooMany_ne_plain _ _)
    · cases hresult

theorem ends_of_step (h : call.step r l = .ends (result, l')) : Ends r l call result l' := by
  cases call with
  | start kind =>
    simp only [step, offer] at h
    split_ifs at h with hclosed hfull hgone hroom
    · obtain ⟨rfl, rfl⟩ := by simpa using h
      exact .closed
    · obtain ⟨rfl, rfl⟩ := by simpa using h
      exact .full hfull
    · obtain ⟨rfl, rfl⟩ := by simpa using h
      exact .started (by simpa using hfull) (.refl _) (.inl rfl)
    · obtain ⟨rfl, rfl⟩ := by simpa using h
      exact .started (by simpa using hfull) (Link.sameSlots_addStream _ _ _ _) (.inr ⟨_, rfl⟩)
  | handing kind id =>
    simp only [step] at h
    split_ifs at h with hgone
    · obtain ⟨rfl, rfl⟩ := by simpa using h
      refine .handed ?_ (.inl rfl)
      exact (Link.sameSlots_setArrivals _ _ _).trans (Link.sameSlots_discard id)
    · split at h
      · obtain ⟨rfl, rfl⟩ := by simpa using h
        exact .handed (Link.sameSlots_setArrivals _ _ _) (.inr ⟨_, rfl⟩)
      · cases h

theorem sameSlots_abandon (call : Opening) : Link.SameSlots l (call.abandon r l) := by
  cases call with
  | start kind => exact .refl _
  | handing kind id => exact (Link.sameSlots_setArrivals _ _ _).trans (Link.sameSlots_discard id)

end Opening

namespace Accepting

variable {r : Role} {pick : Pick} {call call' : Accepting} {l l' : Link}
  {result : Except Failure Nat}

/-- A call goes on once, from looking whether the connection is closed to waiting. -/
theorem eq_of_goesOn (h : call.step r pick l = .goesOn (call', l')) : l' = l := by
  cases call with
  | start kind =>
    simp only [step] at h
    split_ifs at h
    obtain ⟨-, rfl⟩ := by simpa using h
    rfl
  | waiting kind =>
    simp only [step] at h
    split at h
    · cases h
    · split at h
      · cases h
      · split_ifs at h

/-- A call takes the stream that has waited longest, or fails and leaves the connection alone. -/
theorem cases_of_ends (h : call.step r pick l = .ends (result, l')) :
    (l' = l ∧ ∃ f, result = .error f) ∨
    ∃ kind id rest, call = .waiting kind ∧ (l.arrivals kind r).take? = some (id, rest) ∧
      result = .ok id ∧ l' = l.setArrivals kind r rest := by
  cases call with
  | start kind =>
    simp only [step] at h
    split_ifs at h
    obtain ⟨rfl, rfl⟩ := by simpa using h
    exact .inl ⟨rfl, _, rfl⟩
  | waiting kind =>
    simp only [step] at h
    split at h
    · obtain ⟨rfl, rfl⟩ := by simpa using h
      exact .inl ⟨rfl, _, rfl⟩
    · split at h
      · next id rest htake =>
        obtain ⟨rfl, rfl⟩ := by simpa using h
        exact .inr ⟨kind, id, rest, rfl, htake, rfl, rfl⟩
      · split_ifs at h <;> obtain ⟨rfl, rfl⟩ := by simpa using h
        · exact .inl ⟨rfl, _, rfl⟩
        · exact .inl ⟨rfl, _, rfl⟩

theorem sameSlots_of_goesOn (h : call.step r pick l = .goesOn (call', l')) :
    Link.SameSlots l l' := eq_of_goesOn h ▸ .refl _

theorem sameSlots_of_ends (h : call.step r pick l = .ends (result, l')) :
    Link.SameSlots l l' := by
  obtain ⟨rfl, -⟩ | ⟨kind, id, rest, -, -, -, rfl⟩ := cases_of_ends h
  · exact .refl _
  · exact Link.sameSlots_setArrivals _ _ _

end Accepting

namespace Openings

/-! ## Calls on both sides -/

/-- How far a call is that opens a stream. -/
inductive Progress
  | underWay (call : Opening)
  | returned (result : Except Failure Nat)
  /-- The call was given up where it was. -/
  | givenUp (call : Opening)
  deriving DecidableEq

/-- What becomes of a slot. -/
inductive Use
  /-- The stream was handed over. -/
  | succeeded
  /-- The stream waits to be handed over. -/
  | waiting
  /-- The call has ended without handing a stream over. -/
  | lost
  deriving DecidableEq

namespace Progress

/-- What the slot of a call on side `r` is used for, if it has taken one. -/
def use? (r : Role) : Progress → Option Use
  | underWay (.start _) | givenUp (.start _) => none
  | underWay (.handing ..) => some .waiting
  | returned (.ok _) => some .succeeded
  | returned (.error f) => if f = Opening.peerGone r then some .lost else none
  | givenUp (.handing ..) => some .lost

end Progress

/-- A call that opens a stream on side `role`. -/
structure Call where
  role : Role
  kind : StreamKind
  progress : Progress
  deriving DecidableEq

namespace Call

def underWay? (c : Call) : Option Opening :=
  match c.progress with
  | .underWay call => some call
  | .returned _ | .givenUp _ => none

theorem eq_underWay {r : Role} {kind : StreamKind} {p : Progress} {call : Opening}
    (h : underWay? ⟨r, kind, p⟩ = some call) : p = .underWay call := by
  cases p with
  | underWay call' => rw [Option.some.inj h]
  | returned result => cases h
  | givenUp call' => cases h

/-- What the call uses a slot of side `r` for, if it has taken one. -/
def use? (r : Role) (c : Call) : Option Use :=
  if c.role = r ∧ c.kind = .bidirectional then c.progress.use? r else none

end Call

inductive Action
  | «open» (r : Role) (kind : StreamKind)
  | goOn (i : Nat)
  | giveUp (i : Nat)
  /-- A step of a call that accepts a stream. -/
  | accept (r : Role) (pick : Pick) (call : Accepting)
  | leave (r : Role)
  | close (code : TerminationCode) (reason : ReasonPhrase)

end Openings

/-- The two ends of a connection, and all calls that open streams on them. -/
structure Openings where
  link : Link
  calls : List Openings.Call

namespace Openings

def start (l : Link) : Openings := ⟨l, []⟩

def set (x : Openings) (i : Nat) (c : Call) (progress : Progress) (l : Link) : Openings :=
  ⟨l, x.calls.set i { c with progress := progress }⟩

/-- What becomes of the connection and the calls when something is done, if it can be done. -/
def act (x : Openings) : Action → Option Openings
  | .open r kind => some { x with calls := x.calls ++ [⟨r, kind, .underWay (.start kind)⟩] }
  | .goOn i => do
    let c ← x.calls[i]?
    match (← c.underWay?).step c.role x.link with
    | .waits => none
    | .goesOn (call, l) => some (x.set i c (.underWay call) l)
    | .ends (result, l) => some (x.set i c (.returned result) l)
  | .giveUp i => do
    let c ← x.calls[i]?
    let call ← c.underWay?
    return x.set i c (.givenUp call) (call.abandon c.role x.link)
  | .accept r pick call =>
    match call.step r pick x.link with
    | .waits => none
    | .goesOn (_, l) => some { x with link := l }
    | .ends (_, l) => some { x with link := l }
  | .leave r => some { x with link := x.link.detach r }
  | .close code reason => some { x with link := x.link.close code reason }

/-- All that can happen. Besides what is done with the connection, the streams may be used. -/
inductive Step : Openings → Openings → Prop
  | act {x x' : Openings} (a : Action) (h : x.act a = some x') : Step x x'
  | streams {x : Openings} {streams : List Stream}
      (h : streams.length = x.link.streams.length) :
    Step x { x with link := { x.link with streams := streams } }

/-- Does this in order. -/
def follow (x : Openings) (actions : List Action) : Option Openings := actions.foldlM act x

theorem reaches_follow {actions : List Action} {x x' : Openings}
    (h : x.follow actions = some x') : Relation.ReflTransGen Step x x' :=
  reaches_of_foldlM (fun h => .act _ h) h

/-- How many slots of a side are used like this. -/
def count (x : Openings) (r : Role) (use : Use) : Nat := x.calls.countP (·.use? r = some use)

/-! ## Counting calls -/

theorem countP_set_add {α : Type} {p : α → Bool} {as : List α} {i : Nat} {a b : α}
    (h : as[i]? = some a) :
    (as.set i b).countP p + (p a).toNat = as.countP p + (p b).toNat := by
  induction as generalizing i with
  | nil => cases h
  | cons first others ih =>
    cases i with
    | zero =>
      obtain rfl := Option.some.inj h
      rw [List.set_cons_zero, List.countP_cons, List.countP_cons]
      cases p first <;> cases p b <;> simp
    | succ i =>
      have hothers := ih h
      rw [List.set_cons_succ, List.countP_cons, List.countP_cons]
      omega

/-- Every slot that is taken is used for one thing. -/
theorem countP_isSome (calls : List Call) (r : Role) :
    calls.countP (fun c => (c.use? r).isSome) = calls.countP (·.use? r = some .succeeded) +
      calls.countP (·.use? r = some .waiting) + calls.countP (·.use? r = some .lost) := by
  induction calls with
  | nil => rfl
  | cons c calls ih =>
    simp only [List.countP_cons, ih]
    rcases c.use? r with _ | use
    · simp
    · cases use <;> simp <;> omega

/-! ## Steps of a call -/

/-- What a step that takes a call from `c` to `c'` does to the slots: one more is taken if the call
has taken one, none is given back, and none is taken that there is not. -/
structure Balanced (l : Link) (c : Call) (l' : Link) (c' : Call) : Prop where
  maxStreams : l'.maxStreams = l.maxStreams
  opened : ∀ r, l'.opened.get r + (c.use? r).isSome.toNat =
    l.opened.get r + (c'.use? r).isSome.toNat
  kept : ∀ r, (c.use? r).isSome = true → (c'.use? r).isSome = true
  within : ∀ r, l.opened.get r ≤ l.maxStreams → l'.opened.get r ≤ l'.maxStreams

section Call

variable {r : Role} {kind : StreamKind} {call : Opening} {l l' : Link} {p p' : Progress}

theorem use?_mk (r' : Role) : Call.use? r' ⟨r, kind, p⟩ =
    if r = r' ∧ kind = .bidirectional then p.use? r else none := by
  unfold Call.use?
  split_ifs with h
  · obtain rfl := h.1
    rfl
  · rfl

/-- A call that keeps its slot, or goes on having none. -/
theorem Balanced.of_sameSlots (h : Link.SameSlots l l')
    (hp : (p.use? r).isSome = (p'.use? r).isSome) :
    Balanced l ⟨r, kind, p⟩ l' ⟨r, kind, p'⟩ := by
  have huse : ∀ r', (Call.use? r' ⟨r, kind, p⟩).isSome = (Call.use? r' ⟨r, kind, p'⟩).isSome := by
    intro r'
    rw [use?_mk, use?_mk]
    split_ifs
    · exact hp
    · rfl
  refine ⟨h.maxStreams, fun r' => ?_, fun r' => ?_, fun r' => ?_⟩
  · rw [h.opened, huse]
  · rw [huse]
    exact id
  · rw [h.opened, h.maxStreams]
    exact id

/-- A call that takes a slot. -/
theorem Balanced.of_takeSlot (h : Link.SameSlots (l.takeSlot kind r) l')
    (hfull : l.isFull kind r = false) (hp : p.use? r = none) (hp' : (p'.use? r).isSome = true) :
    Balanced l ⟨r, kind, p⟩ l' ⟨r, kind, p'⟩ := by
  have hmax : l'.maxStreams = l.maxStreams := h.maxStreams.trans (Link.maxStreams_takeSlot kind r)
  refine ⟨hmax, fun r' => ?_, fun r' hused => ?_, fun r' hle => ?_⟩
  · rw [h.opened, Link.opened_takeSlot, use?_mk, use?_mk, hp, ite_self]
    split_ifs
    · simp [hp']
    · rfl
  · rw [use?_mk, hp, ite_self] at hused
    cases hused
  · rw [h.opened, Link.opened_takeSlot, hmax]
    split_ifs with hr
    · obtain ⟨rfl, rfl⟩ := hr
      have hlt : ¬ l.maxStreams ≤ l.opened.get r := fun hle => by
        rw [Link.isFull_eq_true_iff.mpr ⟨rfl, hle⟩] at hfull
        cases hfull
      omega
    · exact hle

theorem closed_ne_peerGone (r : Role) :
    Failure.plain ("connection to " ++ Link.remoteHost r ++ " is closed") ≠ Opening.peerGone r := by
  cases r <;> decide

/-- A call that has handed its stream over, or found the other side gone, has a slot. -/
theorem isSome_use?_returned {result : Except Failure Nat}
    (h : result = .error (Opening.peerGone r) ∨ ∃ id, result = .ok id) :
    ((Progress.returned result).use? r).isSome = true := by
  rcases h with rfl | ⟨id, rfl⟩ <;> simp [Progress.use?]

theorem balanced_goesOn {call' : Opening} (h : call.step r l = .goesOn (call', l'))
    (hkind : call.kind = kind) :
    Balanced l ⟨r, kind, .underWay call⟩ l' ⟨r, kind, .underWay call'⟩ ∧ call'.kind = kind := by
  obtain ⟨kind, id, rfl, rfl, hfull, hslots⟩ := Opening.takes_of_goesOn h
  obtain rfl : kind = _ := hkind
  exact ⟨.of_takeSlot hslots hfull rfl rfl, rfl⟩

theorem balanced_ends {result : Except Failure Nat} (h : call.step r l = .ends (result, l'))
    (hkind : call.kind = kind) :
    Balanced l ⟨r, kind, .underWay call⟩ l' ⟨r, kind, .returned result⟩ := by
  cases Opening.ends_of_step h with
  | closed =>
    refine .of_sameSlots (.refl _) ?_
    simp [Progress.use?, closed_ne_peerGone]
  | full hfull =>
    refine .of_sameSlots (.refl _) ?_
    simp [Progress.use?, Opening.peerGone, Opening.tooMany_ne_plain]
  | started hfull hslots hresult =>
    obtain rfl := hkind
    exact .of_takeSlot hslots hfull rfl (isSome_use?_returned hresult)
  | handed hslots hresult =>
    refine .of_sameSlots hslots ?_
    rw [isSome_use?_returned hresult]
    rfl

theorem balanced_givenUp (r : Role) (l : Link) (call : Opening) (kind : StreamKind) :
    Balanced l ⟨r, kind, .underWay call⟩ (call.abandon r l) ⟨r, kind, .givenUp call⟩ := by
  refine .of_sameSlots (Opening.sameSlots_abandon call) ?_
  cases call <;> rfl

end Call

/-! ## Runs -/

/-- What always holds of a connection with `n` slots on each side. -/
structure Sound (n : Nat) (x : Openings) : Prop where
  maxStreams : x.link.maxStreams = n
  opened : ∀ r, x.link.opened.get r = x.calls.countP fun c => (c.use? r).isSome
  within : ∀ r, x.link.opened.get r ≤ n
  kinds : ∀ c ∈ x.calls, ∀ call, c.progress = .underWay call → call.kind = c.kind
  refused : ∀ c ∈ x.calls, c.progress = .returned (.error (Opening.tooMany n)) →
    n ≤ x.link.opened.get c.role

variable {n : Nat} {x x' : Openings} {l : Link}

theorem Sound.change (h : Sound n x) (hl : Link.SameSlots x.link l) : Sound n ⟨l, x.calls⟩ where
  maxStreams := hl.maxStreams.trans h.maxStreams
  opened := by
    rw [hl.opened]
    exact h.opened
  within := by
    rw [hl.opened]
    exact h.within
  kinds := h.kinds
  refused := by
    rw [hl.opened]
    exact h.refused

theorem Balanced.opened_le {l l' : Link} {c c' : Call} (h : Balanced l c l' c') (r : Role) :
    l.opened.get r ≤ l'.opened.get r := by
  have hopened := h.opened r
  have hkept := h.kept r
  cases hc : (c.use? r).isSome with
  | false =>
    rw [hc, Bool.toNat_false] at hopened
    omega
  | true =>
    rw [hc, hkept hc] at hopened
    omega

/-- One call goes on, or ends. -/
theorem Sound.set (h : Sound n x) {i : Nat} {c : Call} (hi : x.calls[i]? = some c) {p : Progress}
    (hb : Balanced x.link c l { c with progress := p })
    (hkind : ∀ call, p = .underWay call → call.kind = c.kind)
    (hrefused : p = .returned (.error (Opening.tooMany n)) → n ≤ l.opened.get c.role) :
    Sound n (x.set i c p l) where
  maxStreams := hb.maxStreams.trans h.maxStreams
  opened := by
    intro r
    have hcount := countP_set_add (p := fun c => (c.use? r).isSome) (b := { c with progress := p })
      hi
    have hopened := hb.opened r
    have hbefore := h.opened r
    simp only [Openings.set]
    omega
  within := by
    intro r
    have hle := hb.within r (h.maxStreams ▸ h.within r)
    rwa [hb.maxStreams, h.maxStreams] at hle
  kinds := by
    intro c' hmem
    rcases List.mem_or_eq_of_mem_set hmem with hmem | rfl
    · exact h.kinds c' hmem
    · exact hkind
  refused := by
    intro c' hmem
    rcases List.mem_or_eq_of_mem_set hmem with hmem | rfl
    · exact fun hp => (h.refused c' hmem hp).trans (hb.opened_le _)
    · exact hrefused

theorem Sound.goOn (h : Sound n x) {i : Nat} {c : Call} {call : Opening}
    (hi : x.calls[i]? = some c) (hc : c.underWay? = some call) :
    (∀ call' l, call.step c.role x.link = .goesOn (call', l) →
      Sound n (x.set i c (.underWay call') l)) ∧
    ∀ result l, call.step c.role x.link = .ends (result, l) →
      Sound n (x.set i c (.returned result) l) := by
  obtain ⟨r, kind, p⟩ := c
  obtain rfl := Call.eq_underWay hc
  have hkind : call.kind = kind := h.kinds _ (List.mem_of_getElem? hi) call rfl
  constructor
  · intro call' l hstep
    obtain ⟨hb, hkind'⟩ := balanced_goesOn hstep hkind
    refine h.set hi hb (fun call'' he => ?_) nofun
    obtain rfl := Progress.underWay.inj he
    exact hkind'
  · intro result l hstep
    refine h.set hi (balanced_ends hstep hkind) nofun fun he => ?_
    obtain rfl := Progress.returned.inj he
    obtain ⟨rfl, rfl, hle⟩ := (Opening.ends_of_step hstep).full_of_tooMany rfl
    exact hle

theorem Sound.act (h : Sound n x) {a : Action} (ha : x.act a = some x') : Sound n x' := by
  cases a with
  | «open» r kind =>
    obtain rfl := Option.some.inj ha
    refine ⟨h.maxStreams, fun r' => ?_, h.within, fun c hc call hcall => ?_, fun c hc hp => ?_⟩
    · have hnone : Call.use? r' ⟨r, kind, .underWay (.start kind)⟩ = none := ite_self _
      rw [List.countP_append, ← h.opened, List.countP_singleton, hnone]
      rfl
    · rcases List.mem_append.mp hc with hc | hc
      · exact h.kinds c hc call hcall
      · obtain rfl := List.mem_singleton.mp hc
        obtain rfl := Progress.underWay.inj hcall
        rfl
    · rcases List.mem_append.mp hc with hc | hc
      · exact h.refused c hc hp
      · obtain rfl := List.mem_singleton.mp hc
        cases hp
  | goOn i =>
    obtain ⟨c, hi, ha⟩ := Option.bind_eq_some_iff.mp ha
    obtain ⟨call, hc, hx⟩ := Option.bind_eq_some_iff.mp ha
    obtain ⟨hgoes, hends⟩ := h.goOn hi hc
    split at hx
    · cases hx
    · next call' l hstep =>
      obtain rfl := Option.some.inj hx
      exact hgoes call' l hstep
    · next result l hstep =>
      obtain rfl := Option.some.inj hx
      exact hends result l hstep
  | giveUp i =>
    obtain ⟨c, hi, ha⟩ := Option.bind_eq_some_iff.mp ha
    obtain ⟨call, hc, hx⟩ := Option.bind_eq_some_iff.mp ha
    obtain rfl := Option.some.inj hx
    obtain ⟨r, kind, p⟩ := c
    obtain rfl := Call.eq_underWay hc
    exact h.set hi (balanced_givenUp r x.link call kind) nofun nofun
  | accept r pick call =>
    simp only [Openings.act] at ha
    split at ha
    · cases ha
    · next call' l hstep =>
      obtain rfl := Option.some.inj ha
      exact h.change (Accepting.sameSlots_of_goesOn hstep)
    · next result l hstep =>
      obtain rfl := Option.some.inj ha
      exact h.change (Accepting.sameSlots_of_ends hstep)
  | leave r =>
    obtain rfl := Option.some.inj ha
    exact h.change (Link.sameSlots_detach r)
  | close code reason =>
    obtain rfl := Option.some.inj ha
    exact h.change ⟨rfl, rfl⟩

theorem Sound.run (h : Sound n x) (hx : Relation.ReflTransGen Step x x') : Sound n x' := by
  induction hx with
  | refl => exact h
  | tail _ hstep ih =>
    cases hstep with
    | act a ha => exact ih.act ha
    | streams hlength => exact ih.change ⟨rfl, rfl⟩

theorem sound_start (overlay : Bool) (n : Nat) : Sound n (start (.fresh overlay n)) where
  maxStreams := rfl
  opened := fun r => PerRole.get_both 0 r
  within := fun r => (PerRole.get_both 0 r).trans_le (Nat.zero_le n)
  kinds := fun _ hc => absurd hc List.not_mem_nil
  refused := fun _ hc => absurd hc List.not_mem_nil

/-- A call is refused a slot exactly if the connection is open and they are all taken. -/
theorem refused_iff {l : Link} {r : Role} :
    (Opening.start .bidirectional).step r l = .ends (.error (Opening.tooMany l.maxStreams), l) ↔
      l.closing = none ∧ l.maxStreams ≤ l.opened.get r := by
  have hclosed : l.isClosed = false ↔ l.closing = none := by simp [Link.isClosed]
  constructor
  · intro h
    obtain ⟨-, -, hle⟩ := (Opening.ends_of_step h).full_of_tooMany rfl
    refine ⟨hclosed.mp ?_, hle⟩
    by_contra hne
    rw [Opening.step, if_pos (by simpa using hne)] at h
    have hplain := Except.error.inj (Prod.mk.inj (Attempt.ends.inj h)).1
    exact Opening.tooMany_ne_plain _ _ hplain.symm
  · rintro ⟨hopen, hle⟩
    rw [Opening.step, hclosed.mpr hopen, Link.isFull_eq_true_iff.mpr ⟨rfl, hle⟩]
    rfl

/-- However the two ends of a connection are used, closed and let go of: the slots that a side has
taken are those of the streams that it has handed over, of those that wait to be handed over, and of
the calls that found the other side gone or were given up while they waited. There are never more
of them than `n`, and a call is or was refused because of the limit only if they are all taken. -/
theorem slots_accounted {overlay : Bool} {n : Nat} {x : Openings}
    (h : Relation.ReflTransGen Step (start (.fresh overlay n)) x) (r : Role) :
    let taken := x.count r .succeeded + x.count r .waiting + x.count r .lost
    x.link.opened.get r = taken ∧ taken ≤ n ∧
    ((Opening.start .bidirectional).step r x.link = .ends (.error (Opening.tooMany n), x.link) ↔
      x.link.closing = none ∧ taken = n) ∧
    ∀ c ∈ x.calls, c.role = r → c.progress = .returned (.error (Opening.tooMany n)) →
      taken = n := by
  intro taken
  -- the counter of the connection and the calls tell the same number, so either will do below
  obtain ⟨hmax, hopened, hwithin, -, hrefused⟩ := (sound_start overlay n).run h
  have htaken : x.link.opened.get r = taken := (hopened r).trans (countP_isSome x.calls r)
  have hle : taken ≤ n := htaken ▸ hwithin r
  refine ⟨htaken, hle, ?_, fun c hc hr hp => ?_⟩
  · have hiff := refused_iff (l := x.link) (r := r)
    rw [hmax, htaken] at hiff
    rw [hiff]
    exact and_congr_right fun _ => ⟨hle.antisymm, Eq.ge⟩
  · subst hr
    exact hle.antisymm (htaken ▸ hrefused c hc hp)

/-- The server leaves, and the client takes its only slot for a stream that it can not hand over. -/
def leaving : List Action := [.leave .server, .open .client .bidirectional, .goOn 0]

theorem slots_accounted_leaving :
    ∃ x, Relation.ReflTransGen Step (start (.fresh false 1)) x ∧
      x.count .client .succeeded = 0 ∧ x.count .client .lost = 1 ∧
      (Opening.start .bidirectional).step .client x.link =
        .ends (.error (Opening.tooMany 1), x.link) := by
  have hrun : (start (.fresh false 1)).follow leaving =
      some ⟨((Link.fresh false 1).detach .server).takeSlot .bidirectional .client,
        [⟨.client, .bidirectional, .returned (.error (Opening.peerGone .client))⟩]⟩ := rfl
  have hreach := reaches_follow hrun
  obtain ⟨-, -, hrefused, -⟩ := slots_accounted hreach .client
  refine ⟨_, hreach, ?_, ?_, hrefused.mpr ⟨rfl, ?_⟩⟩ <;>
    simp [count, Call.use?, Progress.use?]

/-- The client opens `count` streams. -/
def opens (count : Nat) : List Action :=
  (List.range count).flatMap fun i => [.open .client .bidirectional, .goOn i]

/-- The client opens as many streams as can wait to be accepted, gives up the next one, and the
server accepts one of those that wait. -/
def crowding : List Action :=
  (opens 16).append [.open .client .bidirectional, .goOn 16, .giveUp 16,
    .accept .server .stream (.waiting .bidirectional)]

/-- With both sides there and nothing in the way, the client may not open the last of the streams
that it is allowed, as it has given up a call before. -/
theorem slot_lost_by_giving_up :
    ∃ x, Relation.ReflTransGen Step (start (.fresh false 17)) x ∧ x.link.closing = none ∧
      (∀ r, x.link.held.get r = true) ∧ x.count .client .succeeded = 16 ∧
      x.count .client .waiting = 0 ∧ (x.link.arrivals .bidirectional .server).hasRoom = true ∧
      (Opening.start .bidirectional).step .client x.link =
        .ends (.error (Opening.tooMany 17), x.link) := by
  have hrun : ((start (.fresh false 17)).follow crowding).any (fun x =>
      x.link.closing = none ∧ x.link.held = .both true ∧ x.count .client .succeeded = 16 ∧
        x.count .client .waiting = 0 ∧
        (x.link.arrivals .bidirectional .server).hasRoom = true ∧ x.link.maxStreams = 17 ∧
        x.link.opened.get .client = 17) = true := by
    decide +kernel
  obtain ⟨x, hx, hok⟩ := (Option.any_eq_true _ _).mp hrun
  obtain ⟨hopen, hheld, hcount, hwaiting, hroom, hmax, hopened⟩ := of_decide_eq_true hok
  refine ⟨x, reaches_follow hx, hopen, fun r => ?_, hcount, hwaiting, hroom, ?_⟩
  · rw [hheld, PerRole.get_both]
  · rw [← hmax]
    exact refused_iff.mpr ⟨hopen, (hmax.trans hopened.symm).le⟩

end Openings

end MediaOverQuic
