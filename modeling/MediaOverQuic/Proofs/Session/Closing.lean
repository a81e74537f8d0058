import Mathlib.Tactic
import MediaOverQuic.Server.Reception

/-!
# Who closes a connection

A handshake never closes its connection, however it goes on and however it ends. Whoever receives a
connection closes it once when the handshake has failed, and then with what the failure calls for.
-/
namespace MediaOverQuic

/-- What holds wherever an attempt leads to. -/
def Attempt.LeadsTo {σ α : Type} (P : σ → Prop) (Q : α → Prop) : Attempt σ α → Prop
  | .waits => True
  | .goesOn s => P s
  | .ends a => Q a

theorem Attempt.leadsTo_map {σ τ α β : Type} {P : τ → Prop} {Q : β → Prop} {a : Attempt σ α}
    {f : σ → τ} {g : α → β} :
    (a.map f g).LeadsTo P Q ↔ a.LeadsTo (fun s => P (f s)) fun x => Q (g x) := by
  cases a <;> exact Iff.rfl

namespace Link

variable {l : Link}

@[simp] theorem closes_updateStream (id : Nat) (f : Stream → Stream) :
    (l.updateStream id f).closes = l.closes := rfl

@[simp] theorem closes_setInbound (id : Nat) (r : Role) (p : Pipe) :
    (l.setInbound id r p).closes = l.closes := rfl

@[simp] theorem closes_setOutbound (id : Nat) (r : Role) (p : Pipe) :
    (l.setOutbound id r p).closes = l.closes := rfl

@[simp] theorem closes_release (id : Nat) (r : Role) : (l.release id r).closes = l.closes := rfl

@[simp] theorem closes_discard (id : Nat) : (l.discard id).closes = l.closes := rfl

@[simp] theorem closes_setArrivals (kind : StreamKind) (r : Role) (c : Channel Nat) :
    (l.setArrivals kind r c).closes = l.closes := by
  cases kind <;> rfl

@[simp] theorem closes_takeSlot (kind : StreamKind) (r : Role) :
    (l.takeSlot kind r).closes = l.closes := by
  cases kind <;> rfl

theorem closes_foldl_release (ids : List Nat) (r : Role) :
    (ids.foldl (fun l id => l.release id r) l).closes = l.closes := by
  induction ids generalizing l with
  | nil => rfl
  | cons id ids ih => exact ih

@[simp] theorem closes_dropArrivals (kind : StreamKind) (r : Role) :
    (l.dropArrivals kind r).closes = l.closes := by
  rw [dropArrivals, closes_foldl_release, closes_setArrivals]

@[simp] theorem closes_detach (r : Role) : (l.detach r).closes = l.closes := by
  simp [detach]

end Link

variable {l : Link}

theorem Opening.closes_step (r : Role) (call : Opening) :
    (call.step r l).LeadsTo (fun x => x.2.closes = l.closes) fun x => x.2.closes = l.closes := by
  cases call with
  | start kind =>
    simp only [step, offer]
    split_ifs <;> simp [Attempt.LeadsTo]
  | handing kind id =>
    simp only [step]
    split_ifs
    · simp [Attempt.LeadsTo]
    · split <;> simp [Attempt.LeadsTo]

theorem Accepting.closes_step (r : Role) (pick : Pick) (call : Accepting) :
    (call.step r pick l).LeadsTo (fun x => x.2.closes = l.closes)
      fun x => x.2.closes = l.closes := by
  cases call with
  | start kind =>
    simp only [step]
    split_ifs <;> simp [Attempt.LeadsTo]
  | waiting kind =>
    simp only [step]
    split_ifs
    · simp [Attempt.LeadsTo]
    all_goals split <;> simp [Attempt.LeadsTo]

theorem Accepting.step_of_open (r : Role) (pick : Pick) (call : Accepting)
    (h : l.isClosed = false) : call.step r pick l = call.step r .stream l := by
  cases call <;> simp [step, h]

theorem Session.closes_stepSending (call : Sending) (s : Session) :
    (stepSending call s l).LeadsTo (fun x => x.2.2.closes = l.closes)
      fun x => x.2.2.closes = l.closes := by
  rw [stepSending, Sending.stepOn, Attempt.leadsTo_map, Attempt.leadsTo_map]
  cases call.step s.control (l.outbound s.control.stream s.role) <;> simp [Attempt.LeadsTo]

theorem Session.closes_stepReading (call : Receiving) (s : Session) :
    (stepReading call s l).LeadsTo (fun x => x.2.2.closes = l.closes)
      fun x => x.2.2.closes = l.closes := by
  rw [stepReading, Receiving.stepOn, Attempt.leadsTo_map, Attempt.leadsTo_map]
  cases call.step s.control (l.inbound s.control.stream s.role) <;> simp [Attempt.LeadsTo]

namespace Handshake.Run

/-- Wherever a step of a run leads, the connection is closed as before. -/
def LeavesOpen (l : Link) (progress : Progress) : Prop :=
  progress.LeadsTo (fun x => x.2.closes = l.closes) fun x => x.2.closes = l.closes

theorem leavesOpen_beginSending (run : Run) (s : Session) :
    LeavesOpen l (run.beginSending s l) := by
  unfold beginSending
  split <;> simp [LeavesOpen, failOn, Attempt.LeadsTo]

theorem leavesOpen_withStream (run : Run) (stream : Nat) :
    LeavesOpen l (run.withStream stream l) := by
  unfold withStream
  split
  · exact leavesOpen_beginSending _ _
  · simp [LeavesOpen, beginReading, Attempt.LeadsTo]

theorem leavesOpen_afterSending (run : Run) (s : Session) :
    LeavesOpen l (run.afterSending s l) := by
  unfold afterSending
  split <;> simp [LeavesOpen, beginReading, Attempt.LeadsTo]

theorem leavesOpen_afterReading (run : Run) (m : Message) (s : Session) :
    LeavesOpen l (run.afterReading m s l) := by
  unfold afterReading
  split
  · simp [LeavesOpen, failOn, Attempt.LeadsTo]
  · split
    · simp [LeavesOpen, failOn, Attempt.LeadsTo]
    · split
      · simp [LeavesOpen, Attempt.LeadsTo]
      · exact leavesOpen_beginSending _ _

theorem LeavesOpen.of_eq {l' : Link} {progress : Progress} (h : LeavesOpen l' progress)
    (heq : l'.closes = l.closes) : LeavesOpen l progress := by
  unfold LeavesOpen at h ⊢
  rwa [heq] at h

theorem leavesOpen_step (run : Run) (pick : Pick) (l : Link) :
    LeavesOpen l (run.step pick l) := by
  unfold step
  cases hp : run.phase with
  | opening call =>
    have hcall := Opening.closes_step (l := l) run.role call
    simp only
    split
    · trivial
    · next hstep =>
      rw [hstep] at hcall
      exact hcall
    · next hstep =>
      rw [hstep] at hcall
      exact hcall
    · next hstep =>
      rw [hstep] at hcall
      exact (leavesOpen_withStream run _).of_eq hcall
  | accepting call =>
    have hcall := Accepting.closes_step (l := l) run.role pick call
    simp only
    split
    · trivial
    · next hstep =>
      rw [hstep] at hcall
      exact hcall
    · next hstep =>
      rw [hstep] at hcall
      exact hcall
    · next hstep =>
      rw [hstep] at hcall
      exact (leavesOpen_withStream run _).of_eq hcall
  | sending s call =>
    have hcall := Session.closes_stepSending (l := l) call s
    simp only
    split
    · trivial
    · next hstep =>
      rw [hstep] at hcall
      exact hcall
    · next hstep =>
      rw [hstep] at hcall
      exact hcall
    · next hstep =>
      rw [hstep] at hcall
      exact (leavesOpen_afterSending run _).of_eq hcall
  | reading s call =>
    have hcall := Session.closes_stepReading (l := l) call s
    simp only
    split
    · trivial
    · next hstep =>
      rw [hstep] at hcall
      exact hcall
    · next hstep =>
      rw [hstep] at hcall
      exact hcall
    · next hstep =>
      rw [hstep] at hcall
      exact (leavesOpen_afterReading run _ _).of_eq hcall

theorem closes_expire (run : Run) (l : Link) : (run.expire l).2.closes = l.closes := by
  unfold expire abandon
  cases run.phase with
  | opening call => cases call <;> simp [Opening.abandon]
  | accepting | sending | reading => rfl

/-- While the connection is open, a run does not depend on what it would note first. -/
theorem step_of_open (run : Run) (pick : Pick) (h : l.isClosed = false) :
    run.step pick l = run.step .stream l := by
  unfold step
  cases run.phase with
  | accepting call => simp only [Accepting.step_of_open run.role pick call h]
  | opening | sending | reading => rfl

end Handshake.Run

namespace Reception

/-- The failure that a connection was refused for. -/
def failure? : Reception → Option Failure
  | refused f => some f
  | shaking _ | established _ => none

/-- What the receiver of a connection closes it with: nothing unless its handshake has failed. -/
def closes (r : Reception) : List (TerminationCode × ReasonPhrase) :=
  (r.failure?.map Failure.termination).toList

theorem closes_conclude {ending : Except Failure Session × Link}
    (h : ending.2.closes = l.closes) :
    (conclude ending).2.closes = l.closes ++ (conclude ending).1.closes := by
  obtain ⟨result, l'⟩ := ending
  rw [← h]
  cases result with
  | error f => rfl
  | ok session => exact (List.append_nil _).symm

theorem closes_begin (config : Config) (params : List KeyValuePair) (l : Link) :
    (begin config params l).2.closes = l.closes ++ (begin config params l).1.closes := by
  unfold begin
  split
  · exact closes_conclude rfl
  · exact (List.append_nil _).symm

/-- A step of the handshake does not close the connection, but its end may be a failure. -/
theorem closes_step? {r r' : Reception} {pick : Pick} {l' : Link}
    (h : r.step? pick l = some (r', l')) : l'.closes = l.closes ++ r'.closes := by
  cases r with
  | shaking run =>
    have hopen := run.leavesOpen_step pick l
    simp only [step?] at h
    split at h
    · cases h
    · next hstep =>
      rw [hstep] at hopen
      obtain ⟨rfl, rfl⟩ := by simpa using h
      exact hopen.trans (List.append_nil _).symm
    · next hstep =>
      rw [hstep] at hopen
      have hconclude := closes_conclude hopen
      rwa [Option.some.inj h] at hconclude
  | established session => cases h
  | refused f => cases h

theorem closes_expire (run : Handshake.Run) (l : Link) :
    ((shaking run).expire l).2.closes = l.closes ++ ((shaking run).expire l).1.closes :=
  closes_conclude (run.closes_expire l)

end Reception

end MediaOverQuic
