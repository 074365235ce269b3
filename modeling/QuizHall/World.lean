import QuizHall.Logging.Setup
import QuizHall.Store.Stores

/-!
# The world outside

Settings say what the program asks for. Whether it gets it is up to others: a log file may be in a
place where nothing can be written, a server may not be there or may not let go of a connection in
the end, and whoever was there before may have left something behind. A world gives the answers to
all of that. It is asked for each of them once, so one answer each is enough.

## Main definitions

* `World`: what comes of everything that the program asks for outside.
* `World.obliging`: the world in which all goes well and nothing was left behind.
* `World.openLog`: setting up the log.
* `World.stores`: the stores that settings ask for, with what was left behind in them.
-/

namespace QuizHall

/-- What comes of everything that the program asks for outside. -/
structure World where
  /-- Whether a file can be appended to. -/
  canAppend : String → Bool
  /-- What comes of making a connection handle for the server at an address. -/
  connect : Server → Json.Value → Except Fault Unit
  /-- What comes of making the relational table. -/
  makeTable : Except Fault Unit
  /-- What comes of closing the connection handle of a server. -/
  disconnect : Server → Except Fault Unit
  /-- What was left behind in the key space. -/
  keySpace : KeySpace
  /-- What was left behind in the relational table. -/
  rows : Table String Int
  /-- The calls that are never answered, with the kind of fault that each of them raises. -/
  outages : Table Call FaultKind

namespace World

/-- The world in which all goes well and nothing was left behind. -/
def obliging : World where
  canAppend _ := true
  connect _ _ := .ok ()
  makeTable := .ok ()
  disconnect _ := .ok ()
  keySpace := Table.empty
  rows := Table.empty
  outages := Table.empty

/-- Sets up the log: the file has to be one that can be appended to, if there is one. -/
def openLog (world : World) (setup : LoggingSetup) : Except Fault Unit :=
  match setup.file? with
  | none => .ok ()
  | some name => if world.canAppend name then .ok () else .error .logFile

/-- The stores that settings ask for, with what was left behind in those that live on a server. -/
def stores (world : World) (settings : Settings) : Stores :=
  let stores := Stores.ofSettings settings
  { stores with
    ratings := stores.ratings.withRows world.rows
    keySpace := if settings.needs .redis then world.keySpace else stores.keySpace }

/-- Where nothing was left behind, these are the empty stores. -/
theorem stores_of_empty {world : World} (hkeys : world.keySpace = Table.empty)
    (hrows : world.rows = Table.empty) (settings : Settings) :
    world.stores settings = Stores.ofSettings settings := by
  have hratings : (Stores.ofSettings settings).ratings.withRows Table.empty =
      (Stores.ofSettings settings).ratings := by
    rw [Stores.ofSettings]
    cases settings.effectiveRatingBackend <;> rfl
  simp only [stores, hkeys, hrows, hratings]
  rw [Stores.ofSettings, ite_self]

end World

end QuizHall
