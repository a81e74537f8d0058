import MediaOverQuic.Attempt

/-!
# Running several actors on one clock

A scenario is run in one thread and without waiting. Its actors go on one after the other, each as
far as it can, and when none of them can go on the clock jumps to the next moment that one of them
waits for.
-/
namespace MediaOverQuic.Scenario

/-- What an actor makes of the state in one step, or nothing if it has to wait. -/
abbrev Actor (σ : Type) := σ → Option σ

/-- More turns than any scenario takes, since what is sent has to fit into pipes. -/
def maxTurns : Nat := 0x100000

/-- Lets an actor go on until it has to wait, and tells whether it did anything. -/
def advance (actor : Actor σ) : Nat → Bool × σ → Bool × σ
  | 0, s => s
  | turns + 1, (moved, s) =>
    match actor s with
    | none => (moved, s)
    | some s => advance actor turns (true, s)

/-- Lets all actors go on in turn, and the clock when they all have to wait. -/
def settle (actors : σ → List (Actor σ)) (clock : Actor σ) : Nat → σ → σ
  | 0, s => s
  | turns + 1, s =>
    match (actors s).foldl (fun acc actor => advance actor maxTurns acc) (false, s) with
    | (true, s) => settle actors clock turns s
    | (false, s) =>
      match clock s with
      | some s => settle actors clock turns s
      | none => s

/-- Runs a scenario until nothing happens any more. -/
def run (actors : σ → List (Actor σ)) (clock : Actor σ) (s : σ) : σ :=
  settle actors clock maxTurns s

/-- Runs a call while nobody else does anything, to its end or to where it waits. -/
def alone (step : σ → Attempt σ α) : Nat → σ → σ ⊕ α
  | 0, s => .inl s
  | turns + 1, s =>
    match step s with
    | .waits => .inl s
    | .goesOn s => alone step turns s
    | .ends a => .inr a

/-- The earliest of the moments that are waited for, if it is still to come. -/
def nextMoment (now : Nat) (moments : List (Option Nat)) : Option Nat :=
  match (moments.filterMap id).min? with
  | some t => if now < t then some t else none
  | none => none

/-- How long a call without a limit of its own is waited for, in nanoseconds. -/
def moment : Nat := 1000000

end MediaOverQuic.Scenario
