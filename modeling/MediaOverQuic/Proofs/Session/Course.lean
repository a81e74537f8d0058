import Mathlib.Tactic
import MediaOverQuic.Proofs.Control.Flow
import MediaOverQuic.Proofs.Session.Exchange

/-!
# Limits on their way

A limit for request ids that a side sets is on its way to the peer until the peer handles it: it is
owed by the call that set it, then in a frame, then received. The limits on their way rise, and lie
between the one that the peer knows of and the one that was set last.
-/
namespace MediaOverQuic

/-- The limit that a message raises. -/
def Message.raised? : Message → Option Nat
  | maxRequestId limit => some limit
  | clientSetup _ | serverSetup _ | requestsBlocked _ => none

/-- Whether a message is about limits, when its sender's requests are limited by `reached`. -/
inductive Message.Tells (reached : Nat) : Message → Prop
  | raises (limit : Nat) : Tells reached (maxRequestId limit)
  | blocked {limit : Nat} (h : limit ≤ reached) : Tells reached (requestsBlocked limit)

/-- Whether a request reports no limit but one that was reached. -/
inductive NewRequest.Reports (reached : Nat) : NewRequest → Prop
  | allocating : Reports reached allocating
  | blocked : Reports reached blocked
  | waiting (t : Nat) {limit : Nat} (hmax : limit ≤ Varint.max) (h : limit ≤ reached) :
    Reports reached (reporting (.waiting t (Frame.wire (.requestsBlocked limit))))
  | writing (t : Nat) (rest : Bytes) : Reports reached (reporting (.writing t rest))

theorem Message.Tells.mono {reached reached' : Nat} {m : Message} (h : m.Tells reached)
    (hle : reached ≤ reached') : m.Tells reached' := by
  cases h with
  | raises => exact .raises _
  | blocked h => exact .blocked (h.trans hle)

theorem NewRequest.Reports.mono {reached reached' : Nat} {n : NewRequest} (h : n.Reports reached)
    (hle : reached ≤ reached') : n.Reports reached' := by
  cases h with
  | allocating => exact .allocating
  | blocked => exact .blocked
  | waiting t hmax h => exact .waiting t hmax (h.trans hle)
  | writing => exact .writing _ _

/-- The limit that was set and that no frame was begun for. -/
inductive Granting.Owes : Option Granting → List Nat → Prop
  | nothing : Owes none []
  | raising (limit : Nat) : Owes (some (raising limit)) []
  | raised (limit : Nat) : Owes (some (raised (.maxRequestId limit))) [limit]
  | waiting (t : Nat) {limit : Nat} (hmax : limit ≤ Varint.max) :
    Owes (some (telling (.waiting t (Frame.wire (.maxRequestId limit))))) [limit]
  | writing (t : Nat) (rest : Bytes) : Owes (some (telling (.writing t rest))) []

/-- Whatever the limit is, a message about it can be framed with a payload of eight bytes. -/
theorem Frame.fits_of_limit? {limit cap : Nat} {m : Message} (hm : m.limit? = some limit)
    (hmax : limit ≤ Varint.max) (hcap : 8 ≤ cap) : Frame.Fits cap m := by
  have hpayload : m.payload.length ≤ 8 := by
    cases m with
    | clientSetup | serverSetup => cases hm
    | maxRequestId n | requestsBlocked n =>
      rw [Message.payload, Varint.length_encode]
      exact Varint.width_le n
  refine ⟨by rwa [Message.number, hm], hpayload.trans (Nat.le_min.mpr ⟨hcap, by decide⟩)⟩

namespace Exchange

namespace Side

/-- Whether a side is where its role says, with room for every limit in a frame. -/
structure Placed (s : Side) (r : Role) : Prop where
  role : s.session.role = r
  stream : s.session.control.stream = 0
  limit : 8 ≤ s.session.control.limit

/-! ## Calls that send -/

/-- The calls that are sending, when one of the requests is set aside. -/
def others (s : Side) (i : Nat) : Multiset Sending :=
  { s with requests := s.requests.eraseIdx i }.live

theorem live_of_perm {s : Side} {i : Nat} {n : NewRequest} {requests : List NewRequest}
    (h : requests.Perm (n :: s.requests.eraseIdx i)) :
    { s with requests := requests }.live =
      n.sending?.elim (s.others i) (· ::ₘ s.others i) := by
  rw [live, others, live, Multiset.coe_eq_coe.mpr (h.filterMap NewRequest.sending?)]
  cases hn : n.sending? with
  | none => simp [hn]
  | some call =>
    rw [List.filterMap_cons_some hn, ← Multiset.cons_coe, Multiset.add_cons]
    rfl

theorem live_of_getElem? {s : Side} {i : Nat} {n : NewRequest} (h : s.requests[i]? = some n) :
    s.live = n.sending?.elim (s.others i) (· ::ₘ s.others i) := by
  obtain ⟨hi, rfl⟩ := List.getElem?_eq_some_iff.mp h
  exact live_of_perm (List.getElem_cons_eraseIdx_perm hi).symm

theorem live_set {s : Side} {i : Nat} {n : NewRequest} (h : s.requests[i]? = some n)
    (n' : NewRequest) : { s with requests := s.requests.set i n' }.live =
      n'.sending?.elim (s.others i) (· ::ₘ s.others i) := by
  obtain ⟨hi, -⟩ := List.getElem?_eq_some_iff.mp h
  exact live_of_perm (List.set_perm_cons_eraseIdx hi n')

theorem live_append_allocating (s : Side) :
    { s with requests := s.requests ++ [NewRequest.allocating] }.live = s.live := by
  have h : [NewRequest.allocating].filterMap NewRequest.sending? = [] := rfl
  simp [live, h]

/-- The calls that are sending, when the one that raises the limit is set aside. -/
def requesting (s : Side) : Multiset Sending := { s with grant := none }.live

theorem live_of_grant {s : Side} {g : Granting} (h : s.grant = some g) :
    s.live = g.sending?.elim s.requesting (· ::ₘ s.requesting) := by
  rw [requesting, live, live, h]
  cases hg : g.sending? <;> simp [hg]

theorem live_grant (s : Side) (g : Granting) :
    { s with grant := some g }.live = g.sending?.elim s.requesting (· ::ₘ s.requesting) := by
  rw [requesting, live, live]
  cases hg : g.sending? <;> simp [hg]

end Side

/-- How what the side `s` tells the side `t` about limits is on its way: in the frames `coming` of
what is in the pipe and is still to be written, and in what is `owed`. -/
structure Course (s t : Side) (buffer : Bytes) (coming : List Message) (owed : List Nat) :
    Prop where
  flow : Flow s.session.control s.live t.session.control.limit t.reader.got buffer coming
  requests : ∀ n ∈ s.requests, n.Reports s.session.state.maxOutgoing
  grant : Granting.Owes s.grant owed
  messages : ∀ m ∈ t.reader.inbox ++ coming, m.Tells s.session.state.maxOutgoing
  rising : (t.session.state.maxOutgoing ::
    ((t.reader.inbox ++ coming).filterMap Message.raised? ++ owed)).Pairwise (· < ·)
  le : ∀ limit ∈ t.session.state.maxOutgoing ::
    ((t.reader.inbox ++ coming).filterMap Message.raised? ++ owed),
      limit ≤ s.session.state.maxIncoming

/-- How the ids that the side `s` takes are on their way to the side `t`: one after the other, and
below the limit. -/
structure Numbered (s t : Side) : Prop where
  ids : s.ids = List.range' t.session.state.nextIncoming s.ids.length 2
  next : s.session.state.nextOutgoing = t.session.state.nextIncoming + 2 * s.ids.length
  below : ∀ id ∈ s.ids, id < s.session.state.maxOutgoing

theorem Numbered.start {a b : Session} (h : a.state.nextOutgoing = b.state.nextIncoming) :
    Numbered (.start a) (.start b) where
  ids := rfl
  next := h
  below := by simp [Side.start]

/-! ## Changes of one side -/

namespace Course

/-- Nothing is on its way between two sessions that have not told each other anything yet. -/
theorem start {a b : Session} (hline : a.control.writers.line = [])
    (hdone : a.control.incomplete = false) (hle : b.state.maxOutgoing ≤ a.state.maxIncoming) :
    Course (.start a) (.start b) [] [] [] where
  flow := .start hline hdone _
  requests := by simp [Side.start]
  grant := .nothing
  messages := by simp [Side.start, Reader.inbox]
  rising := by simp [Side.start, Reader.inbox]
  le := by simpa [Side.start, Reader.inbox] using hle

variable {s s' t t' : Side} {buffer buffer' : Bytes} {coming coming' : List Message}
  {owed owed' : List Nat}

/-- Of the side that is told only what it receives matters. -/
theorem of_receiver (h : Course s t buffer coming owed)
    (hlimit : t'.session.control.limit = t.session.control.limit) (hreader : t'.reader = t.reader)
    (hmax : t'.session.state.maxOutgoing = t.session.state.maxOutgoing) :
    Course s t' buffer coming owed where
  flow := by
    rw [hlimit, hreader]
    exact h.flow
  requests := h.requests
  grant := h.grant
  messages := by
    rw [hreader]
    exact h.messages
  rising := by
    rw [hmax, hreader]
    exact h.rising
  le := by
    rw [hmax, hreader]
    exact h.le

/-- Of the side that tells only what it sends matters. Its own limit may have been raised. -/
theorem of_sender (h : Course s t buffer coming owed) (readers : Turns)
    (hcontrol : s'.session.control = { s.session.control with readers := readers })
    (hrequests : s'.requests = s.requests) (hgrant : s'.grant = s.grant)
    (hout : s.session.state.maxOutgoing ≤ s'.session.state.maxOutgoing)
    (hin : s'.session.state.maxIncoming = s.session.state.maxIncoming) :
    Course s' t buffer coming owed where
  flow := by
    rw [hcontrol, Side.live, hrequests, hgrant]
    exact h.flow.readers readers
  requests := by
    rw [hrequests]
    intro n hn
    exact (h.requests n hn).mono hout
  grant := hgrant ▸ h.grant
  messages := fun m hm => (h.messages m hm).mono hout
  rising := h.rising
  le := by
    rw [hin]
    exact h.le

/-- The requests of the side that tells go on, and may begin to report that a limit was reached. -/
theorem of_requests (h : Course s t buffer coming owed) {c : ControlStream} {state : SessionState}
    {requests : List NewRequest} {ids : List Nat}
    (hflow : Flow c { s with requests := requests }.live t.session.control.limit t.reader.got
      buffer' coming')
    (hrequests : ∀ n ∈ requests, n.Reports s.session.state.maxOutgoing)
    (hcoming : coming' = coming ∨
      ∃ limit ≤ s.session.state.maxOutgoing, coming' = coming ++ [.requestsBlocked limit])
    (hout : state.maxOutgoing = s.session.state.maxOutgoing)
    (hin : state.maxIncoming = s.session.state.maxIncoming) :
    Course { s with
      session := { s.session with control := c, state := state }
      requests := requests
      ids := ids } t buffer' coming' owed := by
  have hmessages : ∀ m ∈ t.reader.inbox ++ coming', m.Tells s.session.state.maxOutgoing := by
    rcases hcoming with rfl | ⟨limit, hle, rfl⟩
    · exact h.messages
    · intro m hm
      rw [← List.append_assoc, List.mem_append, List.mem_singleton] at hm
      rcases hm with hm | rfl
      · exact h.messages m hm
      · exact .blocked hle
  have hraised : (t.reader.inbox ++ coming').filterMap Message.raised? =
      (t.reader.inbox ++ coming).filterMap Message.raised? := by
    rcases hcoming with rfl | ⟨limit, -, rfl⟩
    · rfl
    · rw [← List.append_assoc, List.filterMap_append]
      exact List.append_nil _
  refine ⟨hflow, hout ▸ hrequests, h.grant, hout ▸ hmessages, ?_, ?_⟩
  · rw [hraised]
    exact h.rising
  · rw [hraised, hin]
    exact h.le

/-- The call that raises the limit goes on, and begins to send what it owes or gives that up. -/
theorem of_grant (h : Course s t buffer coming owed) {c : ControlStream} {g : Option Granting}
    (hflow : Flow c { s with grant := g }.live t.session.control.limit t.reader.got buffer' coming')
    (hgrant : Granting.Owes g owed')
    (hcoming : (coming' = coming ∧ owed'.Sublist owed) ∨
      ∃ limit, coming' = coming ++ [.maxRequestId limit] ∧ owed = [limit] ∧ owed' = []) :
    Course { s with session := { s.session with control := c }, grant := g } t buffer' coming'
      owed' := by
  have hmessages : ∀ m ∈ t.reader.inbox ++ coming', m.Tells s.session.state.maxOutgoing := by
    rcases hcoming with ⟨rfl, -⟩ | ⟨limit, rfl, -⟩
    · exact h.messages
    · intro m hm
      rw [← List.append_assoc, List.mem_append, List.mem_singleton] at hm
      rcases hm with hm | rfl
      · exact h.messages m hm
      · exact .raises limit
  have hraised : ((t.reader.inbox ++ coming').filterMap Message.raised? ++ owed').Sublist
      ((t.reader.inbox ++ coming).filterMap Message.raised? ++ owed) := by
    rcases hcoming with ⟨rfl, hsub⟩ | ⟨limit, rfl, rfl, rfl⟩
    · exact hsub.append_left _
    · rw [← List.append_assoc, List.filterMap_append, List.append_nil]
      exact List.Sublist.refl _
  have hall := hraised.cons_cons t.session.state.maxOutgoing
  exact ⟨hflow, h.requests, hgrant, hmessages, h.rising.sublist hall,
    fun limit hl => h.le limit (hall.subset hl)⟩

/-- The limit is raised, and has to be told. -/
theorem raise (h : Course s t buffer coming []) {limit : Nat}
    (hlt : s.session.state.maxIncoming < limit) (hlive : { s with grant := none }.live = s.live) :
    Course { s with
      session := { s.session with state := { s.session.state with maxIncoming := limit } }
      grant := some (.raised (.maxRequestId limit)) } t buffer coming [limit] where
  flow := by
    have hflow := h.flow
    rw [← hlive] at hflow
    exact hflow
  requests := h.requests
  grant := .raised limit
  messages := h.messages
  rising := by
    have hrising := h.rising
    rw [List.append_nil] at hrising
    rw [← List.cons_append, List.pairwise_append]
    refine ⟨hrising, List.pairwise_singleton _ _, ?_⟩
    intro a ha b hb
    rw [List.mem_singleton] at hb
    rw [← List.append_nil (List.filterMap _ _)] at ha
    exact hb ▸ (h.le a ha).trans_lt hlt
  le := by
    intro a ha
    rw [← List.cons_append, List.mem_append, List.mem_singleton] at ha
    rcases ha with ha | rfl
    · rw [← List.append_nil (List.filterMap _ _)] at ha
      exact (h.le a ha).trans hlt.le
    · exact le_rfl

end Course

end Exchange

end MediaOverQuic
