import QuizHall.Hall.Lifetime

/-!
# The loop over the ticks

Time passes in ticks. The loop waits, moves the clock on by one tick, and deletes what falls due
at the new tick. A tick that fails ends the loop.

## Main definitions

* `Act.advance`: the clock, moved on by one tick.
* `Act.step`: one tick.
* `Act.steps`: a number of waits and ticks.
* `Act.untilStopped`: waits and ticks until a wait is broken off.
-/

namespace QuizHall.Act

variable {α : Type}

/-- Moves the clock on by one tick, and gives the new tick. -/
def advance : Act Int :=
  modifyGet fun hall => (hall.clock + 1, { hall with clock := hall.clock + 1 })

/-- Moves the clock on and deletes what falls due at the new tick, which it gives. -/
def step (rules : Rules) : Act Int := do
  let tick ← advance
  let ids ← onTick rules tick
  if ids ≠ [] then note (.swept tick ids.length)
  return tick

/-- Waits for the next tick. -/
def nap (seconds : Float) : Act Unit := do
  modify fun hall => { hall with naps := ⟨hall.clock, seconds⟩ :: hall.naps }
  pause .tick

/-- A number of ticks, with a wait before each. -/
def steps (rules : Rules) (seconds : Float) : Nat → Act Unit
  | 0 => pure ()
  | n + 1 => do
    nap seconds
    let _ ← step rules
    steps rules seconds n

/-- Notes the fault that ends a loop, and passes it on. -/
def noted (act : Act α) : Act α :=
  act.rescue fun fault => do
    note (.brokeOff fault)
    throw fault

/-- The loop over a number of ticks. -/
def loop (rules : Rules) (seconds : Float) (n : Nat) : Act Unit := noted (steps rules seconds n)

/-- The loop without an end of its own: after a number of ticks the next wait is broken off by a
fault. -/
def untilStopped (rules : Rules) (seconds : Float) (n : Nat) (stop : Fault) : Act Unit :=
  noted do
    steps rules seconds n
    throw stop

end QuizHall.Act
