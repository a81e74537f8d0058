/-!
# Object status

An object either carries a payload, and then its status is normal, or it reports that there is none.
-/
namespace MediaOverQuic

inductive ObjectStatus
  | normal
  | doesNotExist
  | endOfGroup
  | endOfTrack
  deriving DecidableEq, Repr, Inhabited

namespace ObjectStatus

/-- The number that goes over the wire. -/
def value : ObjectStatus → Nat
  | normal => 0x0
  | doesNotExist => 0x1
  | endOfGroup => 0x3
  | endOfTrack => 0x4

def name : ObjectStatus → String
  | normal => "Normal"
  | doesNotExist => "DoesNotExist"
  | endOfGroup => "EndOfGroup"
  | endOfTrack => "EndOfTrack"

def ofValue? : Nat → Option ObjectStatus
  | 0x0 => some normal
  | 0x1 => some doesNotExist
  | 0x3 => some endOfGroup
  | 0x4 => some endOfTrack
  | _ => none

@[simp] theorem ofValue?_value (s : ObjectStatus) : ofValue? s.value = some s := by
  cases s <;> rfl

theorem ofValue?_eq_some_iff {v : Nat} {s : ObjectStatus} : ofValue? v = some s ↔ v = s.value := by
  constructor
  · unfold ofValue?
    split <;> simp <;> rintro rfl <;> rfl
  · rintro rfl
    exact ofValue?_value s

end ObjectStatus

end MediaOverQuic
