import QuizHall.Logging.Line
import QuizHall.Program
import Std.Time.DateTime.Timestamp

/-!
# The command line

Runs the program with the settings of the environment: waits for real, and writes every line of
the log to the console and to the log file, if there is one. The program goes on until a tick
fails. Settings that are rejected are reported, and nothing else happens.
-/

namespace QuizHall.CommandLine

/-- The environment of the process, as far as settings are read from it. -/
def readEnvironment : IO Environment := do
  let names := Settings.flagVariable :: Settings.fieldVariables.map Prod.snd
  let values ← names.mapM fun name => do return (name, ← IO.getEnv name)
  return Environment.ofList (values.filterMap fun (name, value) => value.map ((name, ·)))

/-- The line of a record at a time, in the standard format. -/
def timedLine (now : Std.Time.Timestamp) (r : LogRecord) : Except LineFault String :=
  (LineParts.ofRecord now.toMillisecondsSinceUnixEpoch.val r).line

/-- Opens the log file, if there is one, and closes it again. Where that fails, so does the program,
before it has done anything else. -/
def openLog (setup : LoggingSetup) : IO Unit := do
  if let some name := setup.file? then
    let _ ← IO.FS.Handle.mk name .append

/-- Writes records to the console and to the log file. -/
def writeLog (setup : LoggingSetup) (records : List LogRecord) : IO Unit := do
  for record in records do
    match timedLine (← Std.Time.Timestamp.now) record with
    | .error fault => IO.eprintln fault.message
    | .ok line =>
      IO.eprintln line
      if let some name := setup.file? then
        let file ← IO.FS.Handle.mk name .append
        file.putStrLn line

/-- Waits and ticks, again and again, until a tick fails. What is in the log of the hall is
written out and forgotten before each wait. -/
partial def loop (settings : Settings) (hall : Hall) : IO Hall := do
  writeLog (Program.setup settings) hall.log
  IO.sleep (settings.tickSeconds * 1000).toUInt32
  let (outcome, hall') :=
    (Act.loop (Program.rules settings) settings.tickSeconds 1).run { hall with log := [] }
  match outcome with
  | .ok _ => loop settings { hall' with naps := [] }
  | .error _ =>
    writeLog (Program.setup settings) hall'.log
    return hall'.close

/-- One step of a path as text. -/
def stepText : PathStep → String
  | .field name => name
  | .index i => Integer.natText i

/-- Reports an issue. -/
def reportIssue (issue : Issue) : IO Unit :=
  IO.eprintln (String.intercalate "." (issue.path.map stepText) ++ ": " ++
    issue.complaint.message?.getD issue.complaint.code)

end QuizHall.CommandLine

open QuizHall in
/-- Runs the program. It ends by a failure only. -/
def main : IO UInt32 := do
  match Settings.ofEnvironment (← CommandLine.readEnvironment) with
  | .rejected issues => issues.forM CommandLine.reportIssue
  | .accepted settings =>
    CommandLine.openLog (Program.setup settings)
    let _ ← CommandLine.loop settings (Program.hall settings)
  return 1
