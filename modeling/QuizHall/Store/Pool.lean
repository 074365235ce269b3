import QuizHall.Fault

/-!
# Connection pools

A pool is opened before its server is used and closed in the end. Opening it once more replaces
the handle in use and leaves the old one as it is; closing it twice does no harm.

## Main definitions

* `Pool`: the handles ever made, and whether the last one is in use.
* `Pool.create`, `Pool.close`, `Pool.acquire`.
-/

namespace QuizHall

/-- The handles of a server, oldest first, and whether the last one is in use. -/
structure Pool where
  /-- For each handle ever made, whether it was closed. -/
  closed : List Bool
  /-- Whether the last handle is in use. -/
  isOpen : Bool
  deriving DecidableEq

namespace Pool

/-- The pool that was never opened. -/
def fresh : Pool := ⟨[], false⟩

/-- Makes a handle and uses it from now on. -/
def create (p : Pool) : Pool := ⟨p.closed ++ [false], true⟩

/-- Closes the handle in use, if there is one. -/
def close (p : Pool) : Pool :=
  if p.isOpen then ⟨p.closed.dropLast ++ [true], false⟩ else p

/-- Takes a connection. -/
def acquire (p : Pool) (server : Server) : Except Fault Unit :=
  if p.isOpen then .ok () else .error (.poolClosed server)

end Pool

end QuizHall
