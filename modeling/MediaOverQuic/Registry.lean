/-!
# Registered numbers

Codes, message types and parameters are numbers that the protocol assigns meanings to. Looking up a
number without one names the registry it was looked up in.
-/
namespace MediaOverQuic

/-- A number that a registry assigns no meaning to. -/
structure UnknownValue where
  registry : String
  value : Nat
  deriving DecidableEq, Repr

namespace UnknownValue

def message (u : UnknownValue) : String :=
  "No discriminant in enum `" ++ u.registry ++ "` matches the value `" ++ toString u.value ++ "`"

end UnknownValue

/-- The entry of a registry with the given number. -/
def lookUp (registry : String) (entries : List α) (number : α → Nat) (value : Nat) :
    Except UnknownValue α :=
  match entries.find? fun e => number e = value with
  | some e => .ok e
  | none => .error ⟨registry, value⟩

end MediaOverQuic
