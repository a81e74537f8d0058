import MediaOverQuic.Model.KeyValuePair

/-!
# Setup parameters

The key-value pairs of the setup messages. A receiver ignores those that it does not know.
-/
namespace MediaOverQuic

inductive SetupParameter
  | path
  | maxRequestId
  | authToken
  | maxAuthTokenCacheSize
  | authority
  | implementation
  deriving DecidableEq, Repr, Inhabited

namespace SetupParameter

/-- The type of the pair. -/
def id : SetupParameter → Nat
  | path => 0x01
  | maxRequestId => 0x02
  | authToken => 0x03
  | maxAuthTokenCacheSize => 0x04
  | authority => 0x05
  | implementation => 0x07

def name : SetupParameter → String
  | path => "Path"
  | maxRequestId => "MaxRequestId"
  | authToken => "AuthToken"
  | maxAuthTokenCacheSize => "MaxAuthTokenCacheSize"
  | authority => "Authority"
  | implementation => "Implementation"

/-- The known parameter with the given type. -/
def ofId? : Nat → Option SetupParameter
  | 0x01 => some path
  | 0x02 => some maxRequestId
  | 0x03 => some authToken
  | 0x04 => some maxAuthTokenCacheSize
  | 0x05 => some authority
  | 0x07 => some implementation
  | _ => none

def ofId (n : Nat) : Except UnknownValue SetupParameter :=
  match ofId? n with
  | some p => .ok p
  | none => .error ⟨"SetupParameter", n⟩

theorem ofId?_eq_some_iff {n : Nat} {p : SetupParameter} : ofId? n = some p ↔ n = p.id := by
  constructor
  · unfold ofId?
    split <;> simp <;> rintro rfl <;> rfl
  · rintro rfl
    cases p <;> rfl

/-- The parameter with a value. -/
def pair (p : SetupParameter) (value : KeyValue) : Except Error KeyValuePair :=
  KeyValuePair.make p.id value

/-- The first pair of this parameter. -/
def find? (p : SetupParameter) (params : List KeyValuePair) : Option KeyValuePair :=
  params.find? fun pair => pair.typeId = p.id

def isPresent (p : SetupParameter) (params : List KeyValuePair) : Bool :=
  (p.find? params).isSome

end SetupParameter

/-- Whether PATH or AUTHORITY is among the parameters. -/
def namesDestination (params : List KeyValuePair) : Bool :=
  SetupParameter.path.isPresent params || SetupParameter.authority.isPresent params

end MediaOverQuic
