/-!
# Taking turns

Calls that must not run at the same time stand in line. The one in front has its turn until it
leaves the line; those that give up leave it from where they stand.
-/
namespace MediaOverQuic

structure Turns where
  line : List Nat
  /-- The ticket of the next one to come. -/
  next : Nat
  deriving DecidableEq, Repr

namespace Turns

def nobody : Turns := ⟨[], 0⟩

/-- Joins the line, and gives the ticket to stand there with. -/
def join (t : Turns) : Nat × Turns := (t.next, ⟨t.line ++ [t.next], t.next + 1⟩)

@[simp] theorem line_join (t : Turns) : t.join.2.line = t.line ++ [t.join.1] := rfl

/-- Whether it is the turn of a ticket. -/
def isFirst (t : Turns) (ticket : Nat) : Bool := t.line.head? = some ticket

theorem isFirst_iff (t : Turns) (ticket : Nat) :
    t.isFirst ticket = true ↔ ∃ others, t.line = ticket :: others := by
  simp [isFirst, List.head?_eq_some_iff]

def leave (t : Turns) (ticket : Nat) : Turns := { t with line := t.line.filter (· ≠ ticket) }

@[simp] theorem mem_line_leave (t : Turns) (a b : Nat) :
    b ∈ (t.leave a).line ↔ b ∈ t.line ∧ b ≠ a := by
  simp [leave]

end Turns

end MediaOverQuic
