/-!
# Calls that may have to wait

A call is run in steps. A step either can not be taken yet, or leads to what is left of the call, or
ends it.
-/
namespace MediaOverQuic

inductive Attempt (σ α : Type)
  | waits
  | goesOn (s : σ)
  | ends (a : α)
  deriving Repr

namespace Attempt

def map (f : σ → τ) (g : α → β) : Attempt σ α → Attempt τ β
  | waits => waits
  | goesOn s => goesOn (f s)
  | ends a => ends (g a)

end Attempt

end MediaOverQuic
