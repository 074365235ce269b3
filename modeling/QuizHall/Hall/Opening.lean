import QuizHall.Hall.Act
import QuizHall.World

/-!
# Opening and closing a hall

A hall is opened over empty stores in the places that settings name, or over stores that another
hall left behind. Unless something else is said, its ledger is empty and its clock begins at
zero. Closing it closes the connections of its stores.

Where the stores live on servers, each of these is a step that the world outside can fail. The steps
come one after the other, and the first that fails is the last: what was opened before it stays
open.

## Main definitions

* `Hall.onStores`: a hall over given stores.
* `Hall.ofSettings`: a hall over the empty stores that settings ask for.
* `Hall.close`: the end.
* `Hall.unopened`, `Hall.opened`: a hall in a world, before its stores are opened and after that.
* `Act.openStores`, `Act.closeStores`: opening and closing them, step by step.
-/

namespace QuizHall

namespace Hall

/-- A hall over given stores. -/
def onStores (stores : Stores) (ledger : Ledger := {}) (clock : Int := 0) : Hall :=
  { stores, ledger, clock }

/-- The statements that are sent while stores are being opened. -/
def openingStatements (stores : Stores) : List Statement :=
  match stores.ratings with
  | .mysql _ => [.createTable]
  | .memory _ | .redis => []

/-- A hall over the empty stores that settings ask for. -/
def ofSettings (settings : Settings) (ledger : Ledger := {}) (clock : Int := 0) : Hall :=
  let stores := Stores.ofSettings settings
  { onStores stores ledger clock with statements := openingStatements stores }

/-- Closes the connections of the stores. -/
def close (hall : Hall) : Hall := { hall with stores := hall.stores.close }

/-- The hall with another pool of connections to a server. -/
def withPool (hall : Hall) (server : Server) (pool : Pool) : Hall :=
  { hall with stores := hall.stores.withPool server pool }

/-! ### In a world -/

/-- The hall that settings ask for, before any connection was made. -/
def unopened (world : World) (settings : Settings) : Hall :=
  { onStores (world.stores settings).unconnected with outages := world.outages }

/-- The hall that settings ask for, once all connections were made. -/
def opened (world : World) (settings : Settings) : Hall :=
  { ofSettings settings with stores := world.stores settings, outages := world.outages }

/-- Where all goes well and nothing was left behind, it is the hall over empty stores. -/
theorem opened_obliging (settings : Settings) :
    opened .obliging settings = ofSettings settings := by
  rw [opened, World.stores_of_empty rfl rfl]
  rfl

end Hall

namespace Act

/-! ### Opening -/

/-- Makes the pool of connections to a server, if something is kept there. -/
def openPool (world : World) (settings : Settings) (server : Server) : Act Unit :=
  if settings.needs server then do
    ofExcept (world.connect server (settings.address server))
    modify fun hall => hall.withPool server (hall.stores.pool server).create
  else pure ()

/-- Makes the relational table, if ratings are kept in it. -/
def makeTable (world : World) (settings : Settings) : Act Unit :=
  if settings.needs .mysql then do
    ofExcept ((← get).stores.mysqlPool.acquire .mysql)
    ofExcept world.makeTable
    modify fun hall => { hall with statements := hall.statements ++ [.createTable] }
  else pure ()

/-- Opens the stores that settings ask for. -/
def openStores (world : World) (settings : Settings) : Act Unit := do
  openPool world settings .redis
  openPool world settings .mysql
  makeTable world settings

/-! ### Closing -/

/-- Closes the pool of connections to a server, if it is open. -/
def closePool (world : World) (server : Server) : Act Unit := do
  if ((← get).stores.pool server).isOpen then
    ofExcept (world.disconnect server)
    modify fun hall => hall.withPool server (hall.stores.pool server).close

/-- Closes the stores. -/
def closeStores (world : World) : Act Unit := do
  closePool world .redis
  closePool world .mysql

end Act

end QuizHall
