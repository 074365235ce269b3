import QuizHall.Hall.Opening
import QuizHall.Hall.TickLoop
import QuizHall.Settings.Environment

/-!
# The program

The program takes its settings from the environment, sets up the log, opens a hall with an empty
ledger, and runs the loop over the ticks until a wait is broken off. In the end it closes the
connections of its stores, however the loop ended. Settings that are rejected end the program
before anything else has happened. So does a log that cannot be set up; and where a hall cannot be
opened, the program ends with what was opened of it still open.

## Main definitions

* `Program.rules`, `Program.hall`: what the program opens.
* `Program.opening`, `Program.course`: how it opens it, and all that it does after the log is set
  up.
* `Program.Report`: what a run of the program leaves behind.
* `Program.run`: a run of the program.
-/

namespace QuizHall.Program

/-- The rules that the program runs a hall by. -/
def rules (settings : Settings) : Rules :=
  Rules.ofSettings settings HashAlgorithm.standard.hash true

/-- The hall that the program opens, with the first line of its log. -/
def hall (settings : Settings) (world : World := .obliging) : Hall :=
  ((Act.note (.started settings.storageBackend settings.deletionDelay)).run
    (Hall.opened world settings)).2

/-- The log that the program sets up. -/
def setup (settings : Settings) : LoggingSetup := { logFile := settings.logFile }

/-- Opens the hall that settings ask for: first its stores, then its schedule, which has a delay to
accept. -/
def opening (world : World) (settings : Settings) : Act Unit := do
  Act.openStores world settings
  let _ ← Act.ofExcept (Schedule.ofDelay (rules settings).derive settings.deletionDelay)

/-- All that the program does once the log is set up, in a world in which a number of waits end well
and the next one is broken off. -/
def course (world : World) (settings : Settings) (n : Nat) (stop : Fault) : Act Unit := do
  opening world settings
  Act.note (.started settings.storageBackend settings.deletionDelay)
  (Act.untilStopped (rules settings) settings.tickSeconds n stop).andFinally
    (Act.closeStores world)

/-- What a run of the program leaves behind. -/
structure Report where
  /-- How the program ended. -/
  outcome : Except Fault Unit
  /-- How the log was set up, each time that it was. -/
  setups : List LoggingSetup := []
  /-- The hall in the end, as far as it was opened. -/
  hall? : Option Hall := none

namespace Report

/-- The records that were written to the log. -/
def log (r : Report) : List LogRecord := (r.hall?.map Hall.log).getD []

/-- The waits for the next tick, in their order. -/
def naps (r : Report) : List Nap := ((r.hall?.map Hall.naps).getD []).reverse

/-- For each connection handle that was made, whether it was closed. -/
def closed (r : Report) : List Bool :=
  (r.hall?.map fun hall => hall.stores.closedHandles).getD []

end Report

/-- A run of the program in which a number of waits end well and the next one is broken off. -/
def run (settings : Checked Settings) (n : Nat) (stop : Fault := .stopped)
    (world : World := .obliging) : Report :=
  match settings with
  | .rejected issues => { outcome := .error (.rejected issues) }
  | .accepted settings =>
    match world.openLog (setup settings) with
    | .error fault => { outcome := .error fault }
    | .ok _ =>
      let (outcome, last) := (course world settings n stop).run (Hall.unopened world settings)
      { outcome, setups := [setup settings], hall? := some last }

/-- A run of the program with the settings of an environment. -/
def runIn (env : Environment) (n : Nat) (stop : Fault := .stopped)
    (world : World := .obliging) : Report :=
  run (Settings.ofEnvironment env) n stop world

end QuizHall.Program
