import Mathlib.Tactic
import MediaOverQuic.Proofs.Datagram.Invariants

/-!
# What the parts of a datagram make

A datagram is put together from parts that are given one after the other. What comes of them goes by
which fields parts were given for and, for each field, by the part that was given last: a draft is
determined by these values, whatever the order in which they came. So is what is wrong with parts
that do not go together.
-/
namespace MediaOverQuic

/-! ## Fields -/

/-- A field of a datagram: the parts that are for it, and what these give. -/
structure DatagramField (α : Type) where
  part : α → DatagramPart
  value? : DatagramPart → Option α
  slot : Nat
  value?_eq_some_iff : ∀ {p a}, value? p = some a ↔ p = part a
  isSome_value? : ∀ p, (value? p).isSome = decide (p.slot = slot)

namespace DatagramField

def objectId : DatagramField Nat where
  part := .objectId
  value?
    | .objectId id => some id
    | _ => none
  slot := 0
  value?_eq_some_iff {p _} := by cases p <;> simp
  isSome_value? p := by cases p <;> rfl

def publisherPriority : DatagramField UInt8 where
  part := .publisherPriority
  value?
    | .publisherPriority priority => some priority
    | _ => none
  slot := 1
  value?_eq_some_iff {p _} := by cases p <;> simp
  isSome_value? p := by cases p <;> rfl

def extensions : DatagramField (List KeyValuePair) where
  part := .extensions
  value?
    | .extensions pairs => some pairs
    | _ => none
  slot := 2
  value?_eq_some_iff {p _} := by cases p <;> simp
  isSome_value? p := by cases p <;> rfl

def endOfGroup : DatagramField Unit where
  part _ := .endOfGroup
  value?
    | .endOfGroup => some ()
    | _ => none
  slot := 3
  value?_eq_some_iff {p _} := by cases p <;> simp
  isSome_value? p := by cases p <;> rfl

def status : DatagramField ObjectStatus where
  part := .status
  value?
    | .status s => some s
    | _ => none
  slot := 4
  value?_eq_some_iff {p _} := by cases p <;> simp
  isSome_value? p := by cases p <;> rfl

def payload : DatagramField Bytes where
  part := .payload
  value?
    | .payload bytes => some bytes
    | _ => none
  slot := 5
  value?_eq_some_iff {p _} := by cases p <;> simp
  isSome_value? p := by cases p <;> rfl

variable {α : Type} (f : DatagramField α) {parts parts' : List DatagramPart}

/-- What was given last for the field. -/
def last? (parts : List DatagramPart) : Option α := (parts.filterMap f.value?).getLast?

theorem last?_concat (parts : List DatagramPart) (p : DatagramPart) :
    f.last? (parts ++ [p]) = (f.value? p).or (f.last? parts) := by
  unfold last?
  rw [List.filterMap_append, List.getLast?_append]
  cases h : f.value? p <;> simp only [List.filterMap_cons, h, List.filterMap_nil] <;> rfl

theorem isSome_last?_iff : (f.last? parts).isSome ↔ ∃ a, f.part a ∈ parts := by
  rw [last?, List.getLast?_isSome]
  constructor
  · intro h
    obtain ⟨a, ha⟩ := List.exists_mem_of_ne_nil _ h
    obtain ⟨p, hp, hvalue⟩ := List.mem_filterMap.mp ha
    obtain rfl := f.value?_eq_some_iff.mp hvalue
    exact ⟨a, hp⟩
  · rintro ⟨a, ha⟩
    exact List.ne_nil_of_mem (List.mem_filterMap.mpr ⟨_, ha, f.value?_eq_some_iff.mpr rfl⟩)

theorem isSome_endOfGroup_iff : (endOfGroup.last? parts).isSome ↔ .endOfGroup ∈ parts := by
  rw [isSome_last?_iff]
  show (∃ _ : Unit, DatagramPart.endOfGroup ∈ parts) ↔ _
  exact exists_const Unit

/-- What is given for a field is given by the parts of its slot. -/
theorem filterMap_filter_slot (parts : List DatagramPart) :
    (parts.filter (·.slot = f.slot)).filterMap f.value? = parts.filterMap f.value? := by
  rw [List.filterMap_filter]
  refine List.filterMap_congr fun p _ => ?_
  have hp := f.isSome_value? p
  split_ifs with h
  · rfl
  · rw [Bool.not_eq_true] at h
    rw [h] at hp
    exact (Option.isSome_eq_false_iff.mp hp |> Option.isNone_iff_eq_none.mp).symm

end DatagramField

/-! ## Drafts -/

namespace DatagramPart

/-- Whether two lists have the same parts for each field, in the same order. -/
def SameOrder (parts parts' : List DatagramPart) : Prop :=
  ∀ slot, parts.filter (·.slot = slot) = parts'.filter (·.slot = slot)

/-- Whether parts make a datagram. -/
structure GoTogether (parts : List DatagramPart) : Prop where
  /-- There is a status or a payload, and not both. -/
  body : (∃ s, .status s ∈ parts) ↔ ¬ ∃ bytes, .payload bytes ∈ parts
  extensions : ¬ ((∃ pairs, .extensions pairs ∈ parts) ∧ .endOfGroup ∈ parts)
  status : ¬ ((∃ s, .status s ∈ parts) ∧ .endOfGroup ∈ parts)

end DatagramPart

theorem DatagramField.last?_of_sameOrder {α : Type} (f : DatagramField α)
    {parts parts' : List DatagramPart} (h : DatagramPart.SameOrder parts parts') :
    f.last? parts = f.last? parts' := by
  rw [last?, last?, ← f.filterMap_filter_slot, h, f.filterMap_filter_slot]

namespace DatagramDraft

variable {d : DatagramDraft}

/-- The draft with what was given last for each field, and the kind that says so. -/
def ofParts (trackAlias group : Nat) (parts : List DatagramPart) : DatagramDraft where
  kind :=
    { extensions := (DatagramField.extensions.last? parts).isSome
      endOfGroup := (DatagramField.endOfGroup.last? parts).isSome
      objectId := (DatagramField.objectId.last? parts).isSome
      priority := (DatagramField.publisherPriority.last? parts).isSome
      status := (DatagramField.status.last? parts).isSome }
  trackAlias := trackAlias
  location := ⟨group, (DatagramField.objectId.last? parts).getD 0⟩
  publisherPriority := DatagramField.publisherPriority.last? parts
  extensions := DatagramField.extensions.last? parts
  status := DatagramField.status.last? parts
  payload := DatagramField.payload.last? parts

/-- Of parts that are given one after the other, the last one for each field counts. -/
theorem foldl_add_eq (trackAlias group : Nat) (parts : List DatagramPart) :
    parts.foldl add (start trackAlias group) = ofParts trackAlias group parts := by
  induction parts using List.reverseRecOn with
  | nil => rfl
  | append_singleton parts p ih =>
    rw [List.foldl_concat, ih]
    simp only [ofParts, DatagramField.last?_concat]
    cases p <;> rfl

theorem ofParts_of_sameOrder {parts parts' : List DatagramPart}
    (h : DatagramPart.SameOrder parts parts') (trackAlias group : Nat) :
    ofParts trackAlias group parts = ofParts trackAlias group parts' := by
  simp only [ofParts, DatagramField.last?_of_sameOrder _ h]

theorem exists_finish_iff : (∃ done, d.finish = .ok done) ↔
    (d.status.isSome ↔ ¬ d.payload.isSome) ∧
      ¬ (d.kind.extensions = true ∧ d.kind.endOfGroup = true) ∧
        ¬ (d.kind.status = true ∧ d.kind.endOfGroup = true) := by
  have hbody : (∃ body, d.body = .ok body) ↔ (d.status.isSome ↔ ¬ d.payload.isSome) := by
    simp only [body_eq_ok_iff]
    cases d.status <;> cases d.payload <;> simp
  rw [← hbody]
  simp only [finish_eq_ok]
  constructor
  · rintro ⟨_, body, hbody, hextensions, hstatus, -⟩
    exact ⟨⟨body, hbody⟩, hextensions, hstatus⟩
  · rintro ⟨⟨body, hbody⟩, hextensions, hstatus⟩
    exact ⟨_, body, hbody, hextensions, hstatus, rfl⟩

/-- A draft that is not finished breaks a rule. -/
theorem code_of_finish {e : Error} (h : d.finish = .error e) :
    ∃ rule, e = .violation rule ∧ rule.code = .protocolViolation := by
  unfold finish at h
  split at h
  · next e' hbody =>
    obtain rfl := Except.error.inj h
    unfold DatagramDraft.body at hbody
    split at hbody
    all_goals cases hbody
    all_goals exact ⟨_, rfl, rfl⟩
  · split_ifs at h
    all_goals obtain rfl := Except.error.inj h
    all_goals exact ⟨_, rfl, rfl⟩

end DatagramDraft

/-! ## Datagrams -/

namespace Datagram

variable {trackAlias group : Nat} {parts parts' : List DatagramPart} {d : Datagram}

/-- Whether a datagram has in each field what was given for it last, and nothing where nothing was
given. -/
structure MadeOf (trackAlias group : Nat) (parts : List DatagramPart) (d : Datagram) : Prop where
  trackAlias : d.trackAlias = trackAlias
  location : d.location = ⟨group, (DatagramField.objectId.last? parts).getD 0⟩
  publisherPriority : d.publisherPriority = DatagramField.publisherPriority.last? parts
  extensions : d.extensions = DatagramField.extensions.last? parts
  status : d.status? = DatagramField.status.last? parts
  payload : d.payload? = DatagramField.payload.last? parts
  hasObjectId : d.kind.objectId = true ↔ ∃ id, .objectId id ∈ parts
  hasPriority : d.kind.priority = true ↔ ∃ priority, .publisherPriority priority ∈ parts
  hasExtensions : d.kind.extensions = true ↔ ∃ pairs, .extensions pairs ∈ parts
  hasStatus : d.kind.status = true ↔ ∃ s, .status s ∈ parts
  endsGroup : d.kind.endOfGroup = true ↔ .endOfGroup ∈ parts

theorem build_eq (trackAlias group : Nat) (parts : List DatagramPart) :
    build trackAlias group parts = (DatagramDraft.ofParts trackAlias group parts).finish := by
  rw [build, DatagramDraft.foldl_add_eq]

/-- Parts make a datagram when they go together. -/
theorem exists_build_iff :
    (∃ d, build trackAlias group parts = .ok d) ↔ DatagramPart.GoTogether parts := by
  rw [build_eq, DatagramDraft.exists_finish_iff]
  simp only [DatagramDraft.ofParts, DatagramField.isSome_endOfGroup_iff]
  simp only [DatagramField.isSome_last?_iff]
  constructor
  · rintro ⟨hbody, hextensions, hstatus⟩
    exact ⟨hbody, hextensions, hstatus⟩
  · rintro ⟨hbody, hextensions, hstatus⟩
    exact ⟨hbody, hextensions, hstatus⟩

theorem madeOf_of_build (h : build trackAlias group parts = .ok d) :
    d.MadeOf trackAlias group parts := by
  rw [build_eq] at h
  obtain ⟨body, hbody, -, -, rfl⟩ := DatagramDraft.finish_eq_ok.mp h
  have hone := DatagramDraft.body_eq_ok_iff.mp hbody
  exact {
    trackAlias := rfl
    location := rfl
    publisherPriority := rfl
    extensions := rfl
    status := by rcases hone with ⟨s, hs, -, rfl⟩ | ⟨bytes, hs, -, rfl⟩ <;> exact hs.symm
    payload := by rcases hone with ⟨s, -, hp, rfl⟩ | ⟨bytes, -, hp, rfl⟩ <;> exact hp.symm
    hasObjectId := DatagramField.objectId.isSome_last?_iff
    hasPriority := DatagramField.publisherPriority.isSome_last?_iff
    hasExtensions := DatagramField.extensions.isSome_last?_iff
    hasStatus := DatagramField.status.isSome_last?_iff
    endsGroup := DatagramField.isSome_endOfGroup_iff }

/-- The number of a datagram that was put together is the one number of its kind. -/
theorem ofId_eq_kind_iff (h : build trackAlias group parts = .ok d) (n : Nat) :
    DatagramKind.ofId n = .ok d.kind ↔ n = d.kind.id := by
  rw [DatagramKind.ofId_eq_ok_iff]
  constructor
  · rintro ⟨-, hn⟩
    exact hn
  · rintro rfl
    have hc := (Obtained.built h).consistent
    exact ⟨(DatagramKind.isNumber_id_iff d.kind).mpr hc.endOfGroup, rfl⟩

/-- Parts are put together exactly when there is one of a status and a payload, and the end of a
group with neither extensions nor a status; otherwise a rule of the protocol is broken. What is made
has what was given last for each field, a kind with exactly the fields that parts were given for,
and the one number of that kind. The order of parts for different fields makes no difference. -/
theorem build_determined (trackAlias group : Nat) (parts : List DatagramPart) :
    ((∃ d, build trackAlias group parts = .ok d) ↔ DatagramPart.GoTogether parts) ∧
    (¬ DatagramPart.GoTogether parts → ∃ rule,
      build trackAlias group parts = .error (.violation rule) ∧ rule.code = .protocolViolation) ∧
    (∀ d, build trackAlias group parts = .ok d →
      d.MadeOf trackAlias group parts ∧ ∀ n, DatagramKind.ofId n = .ok d.kind ↔ n = d.kind.id) ∧
    ∀ parts', DatagramPart.SameOrder parts parts' →
      build trackAlias group parts' = build trackAlias group parts := by
  refine ⟨exists_build_iff, ?_, fun d h => ⟨madeOf_of_build h, ofId_eq_kind_iff h⟩, ?_⟩
  · intro hnot
    cases h : build trackAlias group parts with
    | ok d => exact absurd (exists_build_iff.mp ⟨d, h⟩) hnot
    | error e =>
      rw [build_eq] at h
      obtain ⟨rule, rfl, hrule⟩ := DatagramDraft.code_of_finish h
      exact ⟨rule, rfl, hrule⟩
  · intro parts' hsame
    rw [build_eq, build_eq, DatagramDraft.ofParts_of_sameOrder hsame]

/-- A priority and a payload that are given again, in two orders, and a status that ends a group. -/
theorem build_determined_overridden :
    let parts : List DatagramPart := [.publisherPriority 9, .payload [1], .extensions [],
      .objectId 4, .publisherPriority 2, .payload []]
    let parts' : List DatagramPart := [.objectId 4, .payload [1], .payload [],
      .publisherPriority 9, .publisherPriority 2, .extensions []]
    (∃ d, build 7 300 parts = .ok d ∧ build 7 300 parts' = .ok d ∧ d.MadeOf 7 300 parts ∧
      d.publisherPriority = some 2 ∧ d.payload? = some [] ∧
      ∀ n, DatagramKind.ofId n = .ok d.kind ↔ n = 0x01) ∧
    ∃ rule, build 7 300 [.endOfGroup, .status .doesNotExist] = .error (.violation rule) ∧
      rule.code = .protocolViolation := by
  intro parts parts'
  obtain ⟨hgo, -, hmade, horder⟩ := build_determined 7 300 parts
  have hsame : DatagramPart.SameOrder parts parts' := by
    rintro (_ | _ | _ | _ | _ | _ | slot) <;> rfl
  have hnot : ¬ DatagramPart.GoTogether [.endOfGroup, .status .doesNotExist] := by
    intro h
    exact h.status ⟨⟨.doesNotExist, by decide⟩, by decide⟩
  obtain ⟨d, hd⟩ := hgo.mpr ⟨by simp [parts], by simp [parts], by simp [parts]⟩
  obtain ⟨hfields, hid⟩ := hmade d hd
  refine ⟨⟨d, hd, (horder parts' hsame).trans hd, hfields, hfields.publisherPriority,
    hfields.payload, ?_⟩, (build_determined 7 300 _).2.1 hnot⟩
  obtain rfl := Except.ok.inj hd
  exact hid

end Datagram

end MediaOverQuic
