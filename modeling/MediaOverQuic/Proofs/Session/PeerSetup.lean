import Mathlib.Tactic
import MediaOverQuic.Proofs.Control.FirstFrame
import MediaOverQuic.Session.Handshake

/-!
# What a side makes of its peer's bytes

A side goes by the first frame on the control stream. It accepts one that is the setup message of
its peer and names nothing that the peer must not name. Every other frame it refuses, and so it does
when there is none; which code that calls for is settled by the bytes.
-/
namespace MediaOverQuic

theorem SetupParameter.isPresent_iff {p : SetupParameter} {params : List KeyValuePair} :
    p.isPresent params = true ↔ ∃ q ∈ params, q.typeId = p.id := by
  simp [isPresent, find?]

theorem namesDestination_eq_false_iff {params : List KeyValuePair} :
    namesDestination params = false ↔ ∀ q ∈ params, q.typeId ≠ 0x01 ∧ q.typeId ≠ 0x05 := by
  have hpresent : namesDestination params = true ↔
      ∃ q ∈ params, q.typeId = 0x01 ∨ q.typeId = 0x05 := by
    rw [namesDestination, Bool.or_eq_true, SetupParameter.isPresent_iff,
      SetupParameter.isPresent_iff]
    constructor
    · rintro (⟨q, hq, ht⟩ | ⟨q, hq, ht⟩)
      · exact ⟨q, hq, .inl ht⟩
      · exact ⟨q, hq, .inr ht⟩
    · rintro ⟨q, hq, ht | ht⟩
      · exact .inl ⟨q, hq, ht⟩
      · exact .inr ⟨q, hq, ht⟩
  rw [← Bool.not_eq_true, hpresent]
  simp only [not_exists, not_and, not_or]

namespace Handshake

variable {role : Role} {overlay ends : Bool} {limit : Nat} {patience : Duration}
  {bytes rest : Bytes} {params : List KeyValuePair} {code : TerminationCode}

/-- The parameters of a message that is the peer's setup message and names only what it may. -/
def accept (role : Role) (overlay : Bool) (m : Message) : Except Error (List KeyValuePair) :=
  match peerSetup role m with
  | .error e => .error e
  | .ok params =>
    match checkPeerSetup role overlay params with
    | .error e => .error e
    | .ok () => .ok params

/-- What a side makes of the bytes on its control stream, and the bytes that it leaves. -/
def judge (role : Role) (overlay : Bool) (limit : Nat) (ends : Bool) (patience : Duration)
    (bytes : Bytes) : Except Error (List KeyValuePair) × Bytes :=
  match Frame.heard limit ends patience bytes with
  | (.error e, rest) => (.error e, rest)
  | (.ok m, rest) => (accept role overlay m, rest)

/-- Whether `bytes` begin with a complete frame of this type, of a length that is accepted, whose
payload is a list of parameters and nothing else. Path and authority may be `barred`. -/
def Admits (typeId : Nat) (barred : Bool) (limit : Nat) (bytes : Bytes)
    (params : List KeyValuePair) (rest : Bytes) : Prop :=
  ∃ payload, Frame.Opens limit bytes typeId payload rest ∧
    payload ∈ KeyValuePair.listWords params ∧
    (barred = true → ∀ p ∈ params, p.typeId ≠ 0x01 ∧ p.typeId ≠ 0x05)

theorem Admits.valid {typeId : Nat} {barred : Bool}
    (h : Admits typeId barred limit bytes params rest) : ∀ p ∈ params, p.Valid := by
  obtain ⟨payload, -, hparams, -⟩ := h
  exact (KeyValuePair.valid_of_mem_listWords hparams).1.1

/-- Whether a peer must not say where the client wants to go. -/
def bars (role : Role) (overlay : Bool) : Bool := role = .client || overlay

theorem peerSetup_eq_ok_iff {m : Message} :
    peerSetup role m = .ok params ↔ m = .setup role.peer params := by
  cases role <;> cases m <;> simp [peerSetup, Message.setup, Role.peer]

theorem checkPeerSetup_eq_ok_iff : checkPeerSetup role overlay params = .ok () ↔
    (bars role overlay = true → namesDestination params = false) := by
  cases role with
  | client =>
    cases hpath : SetupParameter.path.isPresent params <;>
      cases hauthority : SetupParameter.authority.isPresent params <;>
        simp [checkPeerSetup, bars, namesDestination, hpath, hauthority]
  | server => cases overlay <;> simp [checkPeerSetup, checkOverlay, bars]

theorem accept_eq_ok_iff {m : Message} : accept role overlay m = .ok params ↔
    m = .setup role.peer params ∧ (bars role overlay = true → namesDestination params = false) := by
  rw [← peerSetup_eq_ok_iff, ← checkPeerSetup_eq_ok_iff, accept]
  cases hsetup : peerSetup role m with
  | error e => simp
  | ok params' =>
    dsimp only
    rw [Except.ok.injEq]
    constructor
    · intro h
      split at h
      · cases h
      · next hcheck =>
        obtain rfl := Except.ok.inj h
        exact ⟨rfl, hcheck⟩
    · rintro ⟨rfl, hcheck⟩
      rw [hcheck]

/-- A side accepts exactly the setup messages of its peer that name only what they may. -/
theorem judge_eq_ok_iff : judge role overlay limit ends patience bytes = (.ok params, rest) ↔
    Admits (MessageType.setup role.peer).value (bars role overlay) limit bytes params rest := by
  constructor
  · intro h
    unfold judge Frame.heard at h
    cases hscan : Frame.scan limit bytes with
    | more count atEnd =>
      rw [hscan] at h
      cases h
    | ready found =>
      obtain ⟨result, rest'⟩ := found
      rw [hscan] at h
      cases result with
      | error e => cases h
      | ok m =>
        obtain ⟨haccept, rfl⟩ := by simpa using h
        obtain ⟨rfl, hdest⟩ := accept_eq_ok_iff.mp haccept
        rcases Frame.scan_eq_ready hscan with ⟨_, _, -, -, he⟩ | ⟨typeId, payload, hopens, hdecode⟩
        · cases he
        · obtain ⟨rfl, hparams⟩ := Message.decode_eq_setup_iff.mp hdecode.symm
          exact ⟨payload, hopens, hparams, fun hb => namesDestination_eq_false_iff.mp (hdest hb)⟩
  · rintro ⟨payload, hopens, hparams, hdest⟩
    have hdecode : Message.decode (MessageType.setup role.peer).value payload =
        .ok (.setup role.peer params) := Message.decode_eq_setup_iff.mpr ⟨rfl, hparams⟩
    have haccept : accept role overlay (.setup role.peer params) = .ok params :=
      accept_eq_ok_iff.mpr ⟨rfl, fun hb => namesDestination_eq_false_iff.mpr (hdest hb)⟩
    simp only [judge, Frame.heard, Frame.scan_of_opens hopens, hdecode, haccept]

/-! ## Why a client refuses -/

/-- The code that a client ends the session with, for each way in which the bytes of its peer are
not those of a setup message that it accepts. -/
inductive Refusal (limit : Nat) (ends : Bool) (bytes : Bytes) : TerminationCode → Prop
  | overlong (h : Frame.Overlong limit bytes) : Refusal limit ends bytes .protocolViolation
  | ended (h : Frame.Incomplete limit bytes) (he : ends = true) :
    Refusal limit ends bytes .internalError
  | silent (h : Frame.Incomplete limit bytes) (he : ends = false) :
    Refusal limit ends bytes .controlMessageTimeout
  | misformatted {typeId : Nat} {payload rest : Bytes}
      (h : Frame.Opens limit bytes typeId payload rest)
      (hm : Message.Misformatted typeId payload) :
    Refusal limit ends bytes .keyValueFormattingError
  | path {params : List KeyValuePair} {payload rest : Bytes}
      (h : Frame.Opens limit bytes 0x21 payload rest)
      (hp : payload ∈ KeyValuePair.listWords params) (hpath : ∃ p ∈ params, p.typeId = 0x01) :
    Refusal limit ends bytes .invalidPath
  | authority {params : List KeyValuePair} {payload rest : Bytes}
      (h : Frame.Opens limit bytes 0x21 payload rest)
      (hp : payload ∈ KeyValuePair.listWords params) (hpath : ∀ p ∈ params, p.typeId ≠ 0x01)
      (hauthority : ∃ p ∈ params, p.typeId = 0x05) :
    Refusal limit ends bytes .invalidAuthority
  | unexpected {typeId : Nat} {payload rest : Bytes}
      (h : Frame.Opens limit bytes typeId payload rest)
      (hm : ¬ Message.Misformatted typeId payload)
      (hs : typeId = 0x21 → ∀ params, payload ∉ KeyValuePair.listWords params) :
    Refusal limit ends bytes .protocolViolation

/-- What a client makes of a setup message of the server. -/
theorem accept_serverSetup (params : List KeyValuePair) :
    accept .client overlay (.serverSetup params) =
      if SetupParameter.path.isPresent params then .error (.violation .pathFromServer)
      else if SetupParameter.authority.isPresent params then
        .error (.violation .authorityFromServer)
      else .ok params := by
  simp only [accept, peerSetup, checkPeerSetup]
  split_ifs <;> rfl

theorem accept_other {m : Message} (h : ∀ params, m ≠ .serverSetup params) :
    accept .client overlay m = .error (.violation (.notTheSetup .server m.type)) := by
  cases m with
  | serverSetup params => exact absurd rfl (h params)
  | clientSetup params | maxRequestId limit | requestsBlocked limit => rfl

section

variable {typeId : Nat} {payload : Bytes} {m : Message} {e : Error}

theorem judge_of_refused (h : Frame.Opens limit bytes typeId payload rest)
    (hd : Message.decode typeId payload = .error e) :
    (judge role overlay limit ends patience bytes).1 = .error e := by
  simp only [judge, Frame.heard, Frame.scan_of_opens h, hd]

theorem judge_of_read (h : Frame.Opens limit bytes typeId payload rest)
    (hd : Message.decode typeId payload = .ok m) :
    (judge role overlay limit ends patience bytes).1 = accept role overlay m := by
  simp only [judge, Frame.heard, Frame.scan_of_opens h, hd]

theorem decode_serverSetup (hp : payload ∈ KeyValuePair.listWords params) :
    Message.decode 0x21 payload = .ok (.serverSetup params) :=
  (Message.decode_eq_setup_iff (r := .server)).mpr ⟨rfl, hp⟩

/-- A message other than the setup message of a server is not what the client waits for. -/
theorem ne_serverSetup (hd : Message.decode typeId payload = .ok m)
    (hs : typeId = 0x21 → ∀ params, payload ∉ KeyValuePair.listWords params) :
    ∀ params, m ≠ .serverSetup params := by
  rintro params rfl
  obtain ⟨rfl, hp⟩ := (Message.decode_eq_setup_iff (r := .server)).mp hd
  exact hs rfl params hp

/-- The code that a client ends the session with is settled by the bytes. -/
theorem Refusal.judge (h : Refusal limit ends bytes code) (overlay : Bool) (patience : Duration) :
    ∃ e, (judge .client overlay limit ends patience bytes).1 = .error e ∧ e.code = code := by
  cases h with
  | overlong h =>
    obtain ⟨typeId, length, rest, hl, hs⟩ := h
    refine ⟨.violation (.frameTooLong length limit), ?_, rfl⟩
    simp only [Handshake.judge, Frame.heard, Frame.scan_of_overlong hl hs]
  | ended h he =>
    obtain ⟨count, atEnd, hscan⟩ := Frame.incomplete_iff.mp h
    refine ⟨.transport atEnd, ?_, rfl⟩
    simp only [Handshake.judge, Frame.heard, hscan, he, if_true]
  | silent h he =>
    obtain ⟨count, atEnd, hscan⟩ := Frame.incomplete_iff.mp h
    refine ⟨.timeout patience, ?_, rfl⟩
    simp only [Handshake.judge, Frame.heard, hscan, he, Bool.false_eq_true, if_false]
  | @misformatted typeId payload rest h hm =>
    cases hd : Message.decode typeId payload with
    | ok m => exact absurd hm (Message.not_misformatted_of_decode hd)
    | error e =>
      obtain ⟨-, hcode⟩ := (Message.code_of_decode hd).resolve_right fun hno => hno.1 hm
      exact ⟨e, judge_of_refused h hd, hcode⟩
  | @path params payload rest h hp hpath =>
    have hpresent := SetupParameter.isPresent_iff (p := .path).mpr hpath
    refine ⟨.violation .pathFromServer, ?_, rfl⟩
    rw [judge_of_read h (decode_serverSetup hp), accept_serverSetup, if_pos hpresent]
  | @authority params payload rest h hp hpath hauthority =>
    have habsent : ¬ SetupParameter.path.isPresent params = true := by
      rw [SetupParameter.isPresent_iff]
      rintro ⟨q, hq, ht⟩
      exact hpath q hq ht
    have hpresent := SetupParameter.isPresent_iff (p := .authority).mpr hauthority
    refine ⟨.violation .authorityFromServer, ?_, rfl⟩
    rw [judge_of_read h (decode_serverSetup hp), accept_serverSetup, if_neg habsent,
      if_pos hpresent]
  | @unexpected typeId payload rest h hm hs =>
    cases hd : Message.decode typeId payload with
    | error e =>
      obtain ⟨-, hcode⟩ := (Message.code_of_decode hd).resolve_left fun hno => hm hno.1
      exact ⟨e, judge_of_refused h hd, hcode⟩
    | ok m =>
      refine ⟨.violation (.notTheSetup .server m.type), ?_, rfl⟩
      rw [judge_of_read h hd, accept_other (ne_serverSetup hd hs)]

/-- A frame whose content is wrong is refused for that. -/
theorem refusal_of_decode (h : Frame.Opens limit bytes typeId payload rest)
    (hd : Message.decode typeId payload = .error e) : Refusal limit ends bytes e.code := by
  rcases Message.code_of_decode hd with ⟨hm, hcode⟩ | ⟨hm, hcode⟩
  · rw [hcode]
    exact .misformatted h hm
  · rw [hcode]
    refine .unexpected h hm ?_
    rintro rfl params hp
    cases hd.symm.trans (decode_serverSetup hp)

/-- A message that is not accepted is refused for what it is, or for what it names. -/
theorem refusal_of_accept (h : Frame.Opens limit bytes typeId payload rest)
    (hd : Message.decode typeId payload = .ok m) (ha : accept .client overlay m = .error e) :
    Refusal limit ends bytes e.code := by
  by_cases hsetup : ∃ params, m = .serverSetup params
  · obtain ⟨params, rfl⟩ := hsetup
    obtain ⟨rfl, hp⟩ := (Message.decode_eq_setup_iff (r := .server)).mp hd
    rw [accept_serverSetup] at ha
    split_ifs at ha with hpath hauthority
    · obtain rfl := Except.error.inj ha
      exact .path h hp (SetupParameter.isPresent_iff.mp hpath)
    · obtain rfl := Except.error.inj ha
      refine .authority h hp ?_ (SetupParameter.isPresent_iff.mp hauthority)
      intro q hq ht
      exact hpath (SetupParameter.isPresent_iff.mpr ⟨q, hq, ht⟩)
  · rw [accept_other (not_exists.mp hsetup)] at ha
    obtain rfl := Except.error.inj ha
    refine .unexpected h (Message.not_misformatted_of_decode hd) ?_
    rintro rfl params hp
    exact hsetup ⟨params, Except.ok.inj (hd.symm.trans (decode_serverSetup hp))⟩

theorem refusal_of_judge (h : (judge .client overlay limit ends patience bytes).1 = .error e) :
    Refusal limit ends bytes e.code := by
  unfold judge Frame.heard at h
  cases hscan : Frame.scan limit bytes with
  | more count atEnd =>
    have hincomplete := Frame.incomplete_iff.mpr ⟨count, atEnd, hscan⟩
    rw [hscan] at h
    cases ends with
    | true =>
      obtain rfl := Except.error.inj h
      exact .ended hincomplete rfl
    | false =>
      obtain rfl := Except.error.inj h
      exact .silent hincomplete rfl
  | ready found =>
    obtain ⟨result, rest⟩ := found
    rw [hscan] at h
    rcases Frame.scan_eq_ready hscan with ⟨typeId, length, hl, hs, rfl⟩ |
      ⟨typeId, payload, hopens, rfl⟩
    · obtain rfl := Except.error.inj h
      exact .overlong ⟨typeId, length, rest, hl, hs⟩
    · cases hd : Message.decode typeId payload with
      | error e' =>
        rw [hd] at h
        obtain rfl := Except.error.inj h
        exact refusal_of_decode hopens hd
      | ok m =>
        rw [hd] at h
        exact refusal_of_accept hopens hd h

end

end Handshake

end MediaOverQuic
