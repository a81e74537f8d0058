import Mathlib.Tactic
import MediaOverQuic.Server.Admission
import MediaOverQuic.Session.Config

/-!
# Handing connections on

Whatever a listener comes up with, whenever the consumer receives or goes away, and whenever the
loop is cancelled: the connections that were accepted come out of the queue in their order, none
twice, and none is missing but the last one, if the loop ended while it held that one.

A connection that was accepted is held before it is handed on, and given up if the loop is cancelled
in between or if nobody receives. That happens even if there is a place in the queue.
-/
namespace MediaOverQuic

namespace Channel

variable {α : Type} {c d : Channel α} {a : α}

/-- The only entry that waits enters the queue if there is a place. -/
theorem enter?_of_waiting [DecidableEq α] (h : c.waiting = [a]) :
    (c.queue.length = c.capacity ∧ c.enter? a = none) ∨
      ∃ d, c.enter? a = some d ∧ d.queue = c.queue ++ [a] ∧ d.waiting = [] ∧
        d.capacity = c.capacity := by
  by_cases hfree : 0 < c.free
  · have hmem : a ∈ c.waiting.take c.free := by
      rw [h, List.take_of_length_le hfree]
      exact List.mem_singleton_self a
    exact .inr ⟨(c.append a hfree).withdraw a, by simp [enter?, hmem], rfl,
      by simp [withdraw, append, h], rfl⟩
  · have hzero : c.free = 0 := by omega
    have hle := c.queue_le
    rw [free] at hzero
    exact .inl ⟨by omega, by simp [enter?, free, hzero]⟩

end Channel

namespace Admission

variable {a : Admission} {id : Nat}

/-- Holds a connection that was accepted. -/
def hold (a : Admission) (id : Nat) : Admission :=
  { a with loop := .handing id, queue := { a.queue with waiting := a.queue.waiting ++ [id] } }

/-- To accept a connection is to hold it, and to hand it on at once if nothing is in the way. -/
theorem accept_connection (hloop : a.loop = .accepting) (hwaiting : a.queue.waiting = []) :
    a.accept (.connection id) = (a.hold id).proceed?.getD (a.hold id) := by
  obtain ⟨loop, ⟨capacity, queue, waiting, hle⟩, received⟩ := a
  obtain rfl : loop = .accepting := hloop
  obtain rfl : waiting = [] := hwaiting
  cases received with
  | false => simp [accept, hand, hold, proceed?, Channel.withdraw]
  | true =>
    by_cases hroom : queue.length < capacity
    · have hfree : 0 < capacity - queue.length := by omega
      have hmem : id ∈ [id].take (capacity - queue.length) := by
        rw [List.take_of_length_le hfree]
        exact List.mem_singleton_self id
      simp [accept, hand, hold, proceed?, Channel.offer, Channel.enter?, Channel.hasRoom,
        Channel.free, Channel.append, Channel.withdraw, hfree, hmem]
    · have hfree : capacity - queue.length = 0 := by omega
      simp [accept, hand, hold, proceed?, Channel.offer, Channel.enter?, Channel.hasRoom,
        Channel.free, hfree]

/-- A connection that is held enters the queue, or is given up because nobody receives, or waits for
a place. -/
theorem proceed?_of_handing (hloop : a.loop = .handing id) (hwaiting : a.queue.waiting = [id]) :
    (a.received = true ∧ a.queue.queue.length = a.queue.capacity ∧ a.proceed? = none) ∨
    (a.received = true ∧ ∃ d, a.proceed? = some { a with loop := .accepting, queue := d } ∧
      d.queue = a.queue.queue ++ [id] ∧ d.waiting = [] ∧ d.capacity = a.queue.capacity) ∨
    (a.received = false ∧ a.proceed? =
      some { a with loop := .ended (.error handlerGone), queue := a.queue.withdraw id }) := by
  cases hr : a.received with
  | false => simp [proceed?, hloop, hr]
  | true =>
    rcases Channel.enter?_of_waiting hwaiting with ⟨hfull, hnone⟩ | ⟨d, hd, hqueue, hwait, hcapacity⟩
    · exact .inl ⟨rfl, hfull, by simp [proceed?, hloop, hr, hnone]⟩
    · exact .inr (.inl ⟨rfl, d, by simp [proceed?, hloop, hr, hd], hqueue, hwait, hcapacity⟩)

theorem exists_handing (h : a.proceed?.isSome) : ∃ id, a.loop = .handing id := by
  cases hloop : a.loop with
  | handing id => exact ⟨id, rfl⟩
  | accepting | ended => simp [proceed?, hloop] at h

end Admission

/-- Why an accept loop has ended. -/
inductive Ending
  | shutdown
  | cancelled
  | consumerGone
  deriving DecidableEq, Repr

/-- An accept loop with what has happened to the connections. -/
structure Intake where
  admission : Admission
  /-- Whether the loop is told to end. -/
  cancelled : Bool
  accepted : List Nat
  /-- The connections that the consumer has received. -/
  delivered : List Nat
  /-- The connections that were in the queue when the consumer went away. -/
  dropped : List Nat
  ending : Option Ending

namespace Intake

/-- The accept loop of a server. -/
def start (config : Config) : Intake :=
  ⟨.start config.connectionQueueSize, false, [], [], [], none⟩

/-- The connections that are in the queue, or were when the consumer went away. -/
def queued (s : Intake) : List Nat := s.dropped ++ s.admission.queue.queue

/-- What can happen next. A loop that is told to end may do something else first. -/
inductive Step : Intake → Intake → Prop
  | accepts {s : Intake} {id : Nat} (h : s.admission.loop = .accepting) :
      Step s { s with admission := s.admission.hold id, accepted := s.accepted ++ [id] }
  | fails {s : Intake} (h : s.admission.loop = .accepting) :
      Step s { s with admission := s.admission.accept .failure }
  | shutsDown {s : Intake} (h : s.admission.loop = .accepting) :
      Step s { s with admission := s.admission.accept .shutdown, ending := some .shutdown }
  | enters {s : Intake} {a : Admission} (h : s.admission.proceed? = some a)
      (hr : s.admission.received = true) : Step s { s with admission := a }
  | bounces {s : Intake} {a : Admission} (h : s.admission.proceed? = some a)
      (hr : s.admission.received = false) :
      Step s { s with admission := a, ending := some .consumerGone }
  | triggers {s : Intake} : Step s { s with cancelled := true }
  | stops {s : Intake} (h : s.cancelled = true) (hrun : s.admission.result? = none) :
      Step s { s with admission := s.admission.cancel, ending := some .cancelled }
  | receives {s : Intake} {id : Nat} {a : Admission} (h : s.admission.take? = some (id, a)) :
      Step s { s with admission := a, delivered := s.delivered ++ [id] }
  | leaves {s : Intake} (hr : s.admission.received = true) :
      Step s { s with admission := s.admission.stopReceiving, dropped := s.admission.queue.queue }

/-- The connections that were accepted but are not handed on, by where the loop is. -/
inductive Missing : AcceptLoop → Option Ending → List Nat → Prop
  | accepting : Missing .accepting none []
  | handing {id : Nat} : Missing (.handing id) none [id]
  | shutdown : Missing (.ended (.ok ())) (some .shutdown) []
  | cancelled {missing : List Nat} (h : missing.length ≤ 1) :
      Missing (.ended (.ok ())) (some .cancelled) missing
  | consumerGone {id : Nat} :
      Missing (.ended (.error Admission.handlerGone)) (some .consumerGone) [id]

theorem Missing.of_accepting {ending : Option Ending} {missing : List Nat}
    (h : Missing .accepting ending missing) : ending = none ∧ missing = [] := by
  cases h
  exact ⟨rfl, rfl⟩

theorem Missing.of_handing {ending : Option Ending} {missing : List Nat} {id : Nat}
    (h : Missing (.handing id) ending missing) : ending = none ∧ missing = [id] := by
  cases h
  exact ⟨rfl, rfl⟩

/-- The connection that was accepted and is not handed on yet. -/
def held (s : Intake) : List Nat :=
  match s.admission.loop with
  | .handing id => [id]
  | .accepting | .ended _ => []

/-- How the connections hang together, with a queue of `size` places. -/
structure Sound (size : Nat) (s : Intake) : Prop where
  capacity_eq : s.admission.queue.capacity = size
  waiting_eq : s.admission.queue.waiting = s.held
  undropped : s.admission.received = true → s.dropped = []
  cleared : s.admission.received = false → s.admission.queue.queue = []
  whole : ∃ missing, Missing s.admission.loop s.ending missing ∧
    s.delivered ++ s.queued ++ missing = s.accepted
  told : s.ending = some .cancelled → s.cancelled = true
  gone : s.ending = some .consumerGone → s.admission.received = false

variable {config : Config} {size : Nat} {s s' : Intake}

theorem sound_start : Sound config.connectionQueueSize (start config) where
  capacity_eq := rfl
  waiting_eq := rfl
  undropped _ := rfl
  cleared _ := rfl
  whole := ⟨[], .accepting, rfl⟩
  told h := by cases h
  gone h := by cases h

/-- While the loop waits for the listener nothing is missing. -/
theorem Sound.of_accepting (h : Sound size s) (hloop : s.admission.loop = .accepting) :
    s.ending = none ∧ s.admission.queue.waiting = [] ∧
      s.delivered ++ s.queued = s.accepted := by
  obtain ⟨missing, hmissing, hwhole⟩ := h.whole
  rw [hloop] at hmissing
  obtain ⟨hrunning, rfl⟩ := hmissing.of_accepting
  exact ⟨hrunning, by rw [h.waiting_eq, held, hloop], by simpa using hwhole⟩

/-- While a connection is held nothing else is missing. -/
theorem Sound.of_handing (h : Sound size s) {id : Nat} (hloop : s.admission.loop = .handing id) :
    s.ending = none ∧ s.admission.queue.waiting = [id] ∧
      s.delivered ++ s.queued ++ [id] = s.accepted := by
  obtain ⟨missing, hmissing, hwhole⟩ := h.whole
  rw [hloop] at hmissing
  obtain ⟨hrunning, rfl⟩ := hmissing.of_handing
  exact ⟨hrunning, by rw [h.waiting_eq, held, hloop], hwhole⟩

/-- A loop that is told to end gives up at most the connection that it holds. -/
theorem Sound.stops (h : Sound size s) (hc : s.cancelled = true)
    (hrun : s.admission.result? = none) :
    Sound size { s with admission := s.admission.cancel, ending := some .cancelled } := by
  cases hloop : s.admission.loop with
  | accepting =>
    obtain ⟨-, hwaiting, hwhole⟩ := h.of_accepting hloop
    have hended : s.admission.cancel = { s.admission with loop := .ended (.ok ()) } := by
      simp [Admission.cancel, hloop]
    rw [hended]
    exact ⟨h.capacity_eq, hwaiting, h.undropped, h.cleared,
      ⟨[], .cancelled (Nat.zero_le _), (List.append_nil _).trans hwhole⟩, fun _ => hc, by simp⟩
  | handing id =>
    obtain ⟨-, hwaiting, hwhole⟩ := h.of_handing hloop
    have hended : s.admission.cancel =
        ⟨.ended (.ok ()), s.admission.queue.withdraw id, s.admission.received⟩ := by
      simp [Admission.cancel, hloop]
    rw [hended]
    refine ⟨h.capacity_eq, ?_, h.undropped, h.cleared,
      ⟨[id], .cancelled (Nat.le_refl _), hwhole⟩, fun _ => hc, by simp⟩
    simp [Channel.withdraw, held, hwaiting]
  | ended result => simp [Admission.result?, hloop] at hrun

theorem Sound.step (h : Sound size s) (hstep : Step s s') : Sound size s' := by
  cases hstep with
  | @accepts id hloop =>
    obtain ⟨hrunning, hwaiting, hwhole⟩ := h.of_accepting hloop
    refine ⟨h.capacity_eq, ?_, h.undropped, h.cleared, ⟨[id], ?_, ?_⟩, h.told, h.gone⟩
    · simp [Admission.hold, held, hwaiting]
    · rw [hrunning]
      exact .handing
    · rw [← hwhole]
      rfl
  | fails hloop =>
    have hsame : s.admission.accept .failure = s.admission := by simp [Admission.accept, hloop]
    rwa [hsame]
  | shutsDown hloop =>
    obtain ⟨-, hwaiting, hwhole⟩ := h.of_accepting hloop
    have hended : s.admission.accept .shutdown = { s.admission with loop := .ended (.ok ()) } := by
      simp [Admission.accept, hloop]
    rw [hended]
    exact ⟨h.capacity_eq, hwaiting, h.undropped, h.cleared,
      ⟨[], .shutdown, (List.append_nil _).trans hwhole⟩, by simp, by simp⟩
  | @enters a hnext hr =>
    obtain ⟨id, hloop⟩ := Admission.exists_handing (a := s.admission) (by simp [hnext])
    obtain ⟨hrunning, hwaiting, hwhole⟩ := h.of_handing hloop
    rcases Admission.proceed?_of_handing hloop hwaiting with ⟨-, -, hnone⟩ |
      ⟨-, d, hsome, hqueue, hwait, hsame⟩ | ⟨hr', -⟩
    · cases hnext.symm.trans hnone
    · obtain rfl := Option.some.inj (hnext.symm.trans hsome)
      refine ⟨hsame.trans h.capacity_eq, hwait, h.undropped, ?_, ⟨[], ?_, ?_⟩, h.told, h.gone⟩
      · intro hr'
        cases hr.symm.trans hr'
      · rw [hrunning]
        exact .accepting
      · simp [queued, hqueue, ← hwhole]
    · cases hr.symm.trans hr'
  | @bounces a hnext hr =>
    obtain ⟨id, hloop⟩ := Admission.exists_handing (a := s.admission) (by simp [hnext])
    obtain ⟨-, hwaiting, hwhole⟩ := h.of_handing hloop
    rcases Admission.proceed?_of_handing hloop hwaiting with ⟨hr', -, -⟩ | ⟨hr', -⟩ | ⟨-, hsome⟩
    · cases hr.symm.trans hr'
    · cases hr.symm.trans hr'
    · obtain rfl := Option.some.inj (hnext.symm.trans hsome)
      refine ⟨h.capacity_eq, ?_, h.undropped, h.cleared, ⟨[id], .consumerGone, hwhole⟩, by simp,
        fun _ => hr⟩
      simp [Channel.withdraw, held, hwaiting]
  | triggers =>
    exact ⟨h.capacity_eq, h.waiting_eq, h.undropped, h.cleared, h.whole, fun _ => rfl, h.gone⟩
  | stops hc hrun => exact h.stops hc hrun
  | @receives id a htake =>
    obtain ⟨⟨_, rest⟩, hqueue, he⟩ := Option.map_eq_some_iff.mp htake
    obtain ⟨rfl, rfl⟩ := Prod.mk.inj he
    obtain ⟨hfront, hwait, hsame⟩ := Channel.take?_eq_some hqueue
    obtain ⟨missing, hmissing, hwhole⟩ := h.whole
    have hr : s.admission.received = true := by
      cases hr : s.admission.received with
      | true => rfl
      | false => cases hfront.symm.trans (h.cleared hr)
    refine ⟨hsame.trans h.capacity_eq, hwait.trans h.waiting_eq, h.undropped, ?_,
      ⟨missing, hmissing, ?_⟩, h.told, h.gone⟩
    · intro hr'
      cases hr.symm.trans hr'
    · simpa [queued, h.undropped hr, hfront] using hwhole
  | leaves hr =>
    obtain ⟨missing, hmissing, hwhole⟩ := h.whole
    refine ⟨h.capacity_eq, h.waiting_eq, by simp [Admission.stopReceiving], fun _ => rfl,
      ⟨missing, hmissing, ?_⟩, h.told, fun _ => rfl⟩
    simpa [queued, Admission.stopReceiving, Channel.clear, h.undropped hr] using hwhole

theorem Sound.run (h : Sound size s) (hrun : Relation.ReflTransGen Step s s') : Sound size s' := by
  induction hrun with
  | refl => exact h
  | tail _ hstep ih => exact ih.step hstep

/-- While a connection is held, no other one is accepted. -/
theorem accepted_of_handing {id : Nat} (hloop : s.admission.loop = .handing id)
    (hstep : Step s s') : s'.accepted = s.accepted := by
  cases hstep with
  | accepts h => cases hloop.symm.trans h
  | fails | shutsDown | enters | bounces | triggers | stops | receives | leaves => rfl

/-- A connection that is held goes on, unless there is no place for it. -/
theorem Sound.full (h : Sound size s) {id : Nat} (hloop : s.admission.loop = .handing id)
    (hwaits : s.admission.proceed? = none) :
    s.admission.received = true ∧ s.admission.queue.queue.length = size := by
  have hwaiting := h.waiting_eq
  rw [held, hloop] at hwaiting
  rcases Admission.proceed?_of_handing hloop hwaiting with ⟨hr, hfull, -⟩ | ⟨-, _, hsome, -⟩ |
    ⟨-, hsome⟩
  · exact ⟨hr, hfull.trans h.capacity_eq⟩
  · cases hwaits.symm.trans hsome
  · cases hwaits.symm.trans hsome

/-- What is true of an accept loop with a queue of `size` places at any time. -/
structure HandsOff (size : Nat) (s : Intake) : Prop where
  /-- The connections are delivered in order, all but one that is held or given up. -/
  inOrder : ∃ missing, Missing s.admission.loop s.ending missing ∧
    s.delivered ++ s.queued ++ missing = s.accepted
  bounded : s.admission.queue.queue.length ≤ size
  /-- A loop that has ended of itself was told to, or found nobody to receive. -/
  cancelled : s.ending = some .cancelled → s.cancelled = true
  consumerGone : s.ending = some .consumerGone → s.admission.received = false
  /-- After a shutdown nothing is missing. -/
  shutdown : s.ending = some .shutdown →
    s.admission.loop = .ended (.ok ()) ∧ s.delivered ++ s.queued = s.accepted
  /-- A failure to accept changes nothing. -/
  failure : s.admission.accept .failure = s.admission
  /-- While a connection is held no other one is accepted, and it is held for lack of room only. -/
  held : ∀ id, s.admission.loop = .handing id →
    (∀ s', Step s s' → s'.accepted = s.accepted) ∧
      (s.admission.proceed? = none →
        s.admission.received = true ∧ s.admission.queue.queue.length = size)
  /-- What a loop does when nobody interferes is to hold a connection and to hand it on. -/
  atOnce : ∀ id, s.admission.loop = .accepting →
    s.admission.accept (.connection id) =
      (s.admission.hold id).proceed?.getD (s.admission.hold id)

/-- An accept loop hands its connections on in order, and loses none but the one that it holds when
it is cancelled or finds nobody to receive. -/
theorem hands_off (h : Relation.ReflTransGen Step (start config) s) :
    HandsOff config.connectionQueueSize s := by
  have hsound := sound_start.run h
  obtain ⟨missing, hmissing, hwhole⟩ := hsound.whole
  refine ⟨hsound.whole, ?_, hsound.told, hsound.gone, ?_, ?_, ?_, ?_⟩
  · have hle := s.admission.queue.queue_le
    rwa [hsound.capacity_eq] at hle
  · intro hshutdown
    rw [hshutdown] at hmissing
    generalize s.admission.loop = loop at hmissing
    cases hmissing
    exact ⟨rfl, by simpa using hwhole⟩
  · cases hloop : s.admission.loop <;> simp [Admission.accept, hloop]
  · intro id hloop
    exact ⟨fun _ hstep => accepted_of_handing hloop hstep, hsound.full hloop⟩
  · intro id hloop
    refine Admission.accept_connection hloop ?_
    have hwaiting := hsound.waiting_eq
    rwa [Intake.held, hloop] at hwaiting

/-- A loop with one place that is cancelled while the second connection waits. -/
theorem hands_off_cancelled :
    let config : Config := { Config.standard with connectionQueueSize := 1 }
    let s : Intake := ⟨⟨.ended (.ok ()), .empty 1, true⟩, true, [1, 2], [1], [], some .cancelled⟩
    Relation.ReflTransGen Step (start config) s ∧ HandsOff 1 s := by
  intro config s
  let placed : Admission := ⟨.accepting, ⟨1, [1], [], Nat.le_refl _⟩, true⟩
  have hheld : Relation.ReflTransGen Step (start config)
      ⟨placed.hold 2, false, [1, 2], [], [], none⟩ :=
    .head (@Step.accepts _ 1 rfl) <| .head (@Step.enters _ placed rfl rfl) <|
    .single (@Step.accepts ⟨placed, false, [1], [], [], none⟩ 2 rfl)
  have hrun : Relation.ReflTransGen Step (start config) s :=
    hheld.trans <| .head .triggers <| .head (.stops rfl rfl) <| .single (.receives rfl)
  exact ⟨hrun, hands_off hrun⟩

/-- A step with a free place in the queue before and after it. -/
def StepWithRoom (s s' : Intake) : Prop :=
  Step s s' ∧ s.admission.queue.queue.length < s.admission.queue.capacity ∧
    s'.admission.queue.queue.length < s'.admission.queue.capacity

/-- A connection that never has to wait for a place is lost all the same, if nobody receives, and if
the loop is cancelled right after it was accepted. -/
theorem lost_with_room :
    (∃ s, Relation.ReflTransGen StepWithRoom (start .standard) s ∧
      s.ending = some .consumerGone ∧ s.accepted = [1] ∧ s.delivered ++ s.queued = []) ∧
    ∃ s, Relation.ReflTransGen StepWithRoom (start .standard) s ∧
      s.ending = some .cancelled ∧ s.accepted = [1] ∧ s.delivered ++ s.queued = [] := by
  have hroom : 0 < Config.standard.connectionQueueSize := by decide
  constructor
  · exact ⟨_, .head ⟨.leaves rfl, hroom, hroom⟩ <| .head ⟨@Step.accepts _ 1 rfl, hroom, hroom⟩ <|
      .single ⟨.bounces rfl rfl, hroom, hroom⟩, rfl, rfl, rfl⟩
  · exact ⟨_, .head ⟨@Step.accepts _ 1 rfl, hroom, hroom⟩ <| .head ⟨.triggers, hroom, hroom⟩ <|
      .single ⟨.stops rfl rfl, hroom, hroom⟩, rfl, rfl, rfl⟩

end Intake

end MediaOverQuic
