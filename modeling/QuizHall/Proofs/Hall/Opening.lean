import QuizHall.Hall.Opening
import QuizHall.Proofs.Hall.Along

/-!
# Opening and Closing in a World

Opening a hall is a row of steps, each of which makes one connection or the one table, and closing
it undoes the connections one after the other. What a world has to do for settings so that none of
these steps fails is said in `World.Connects`. Only what the settings ask for is asked of the world,
so a world without any server connects settings that keep everything in memory. If some step of the
opening fails after all, the steps before it are not undone.

For a hall to go on without a fault its servers have to answer, too. About what was left behind
there `World.Serves` says that it has the form in which halls keep things, not that there is
nothing.

## Main definitions

* `World.Connects`, `World.Serves`: worlds that do what settings ask of them.
* `Stores.SamePools`: stores with the same connections.
* `Hall.BeingOpened`: a hall to which nothing was done yet but making connections.

## Main results

* `Act.run_openStores`: opening a hall in a world that connects the settings.
* `Act.Ends.openStores`: opening a hall in any world.
* `Act.run_closeStores`: closing a hall.
-/

namespace QuizHall

/-- A world **connects** settings if it opens what they ask for and closes it again. -/
structure World.Connects (world : World) (settings : Settings) : Prop where
  /-- The log file can be appended to, if there is one. -/
  logFile : ∀ name, settings.logFile = some name → name ≠ "" → world.canAppend name = true
  /-- Each server that is needed can be reached where the settings say. -/
  connect : ∀ server, settings.needs server = true →
    world.connect server (settings.address server) = .ok ()
  /-- The table is there or can be made, if it is needed. -/
  makeTable : settings.needs .mysql = true → world.makeTable = .ok ()
  /-- Each server that is needed lets go of its connection. -/
  disconnect : ∀ server, settings.needs server = true → world.disconnect server = .ok ()

/-- A world **serves** settings if its servers answer besides, and hold what can be read. -/
structure World.Serves (world : World) (settings : Settings) : Prop
    extends world.Connects settings where
  /-- What was left behind has the form in which halls keep things. -/
  held : ∃ contents : Contents, contents.InRange ∧
    (world.stores settings).Holds settings.places contents
  /-- Every call is answered. -/
  inOrder : ∀ call, world.outages.find? call = none

/-! ### What an earlier hall has left behind -/

/-- What of the contents **outlives** a hall: all that was not kept in memory. -/
def Contents.outliving (c : Contents) (p : Places) : Contents where
  toMemoryStore := if p.storage = .redis then c.toMemoryStore else {}
  ratings := if p.ratings = .memory then Table.empty else c.ratings

/-- All that is kept in a key space outlives the hall. -/
theorem Places.kept_outliving (p : Places) (c : Contents) : p.kept (c.outliving p) = p.kept c := by
  funext slot
  rw [kept, kept]
  cases slot with
  | rating account =>
      by_cases hp : p.ratings = .redis
      · have hmemory : p.ratings ≠ .memory := by rw [hp]; decide
        simp only [Contents.entryOf?, Contents.outliving, if_neg hmemory]
      · have hkeeps : p.keeps (.rating account) = false := decide_eq_false hp
        simp only [hkeeps, Bool.false_eq_true, if_false]
  | _ =>
      by_cases hp : p.storage = .redis
      · simp only [Contents.entryOf?, Contents.outliving, if_pos hp]
      · simp only [keeps, hp, decide_false, Bool.false_eq_true, if_false]

/-- The rows of the place for ratings, if it is a relational table. -/
def RatingStore.rows : RatingStore → Table String Int
  | .mysql table => table.rows
  | .memory _ | .redis => Table.empty

/-- **What halls leave behind on the servers** has the form in which halls keep things: the next
hall that settings ask for can read it. -/
theorem World.exists_holds {world : World} {settings : Settings} {s : Stores} {c : Contents}
    (h : s.Holds settings.places c) (hrange : c.InRange) (hkeys : world.keySpace = s.keySpace)
    (hrows : world.rows = s.ratings.rows) :
    ∃ contents : Contents, contents.InRange ∧
      (world.stores settings).Holds settings.places contents := by
  have hempty := Stores.Holds.ofSettings settings
  refine ⟨c.outliving settings.places, ?_, ?_, ?_, ?_, hempty.redisPool, hempty.mysqlPool⟩
  · refine ⟨?_, ?_, fun account rating hrating => ?_⟩
    · simp only [Contents.outliving]
      split
      · exact hrange.counter_nonneg
      · exact Int.le_refl 0
    · simp only [Contents.outliving]
      split
      · exact hrange.counter_le
      · exact Int.natCast_nonneg _
    · simp only [Contents.outliving] at hrating
      split at hrating
      · cases hrating
      · exact hrange.rating account rating hrating
  · have hquizzes := hempty.quizzes
    cases hp : settings.places.storage with
    | memory =>
        rw [hp] at hquizzes
        simp only [Contents.outliving, hp, reduceCtorEq, if_false]
        exact hquizzes
    | redis =>
        rw [hp] at hquizzes
        exact hquizzes
  · have hratings := hempty.ratings
    have hbefore := h.ratings
    cases hp : settings.places.ratings with
    | memory =>
        rw [hp] at hratings
        simp only [Contents.outliving, hp, World.stores, hratings]
        rfl
    | redis =>
        rw [hp] at hratings
        simp only [World.stores, hratings]
        rfl
    | mysql =>
        rw [hp] at hratings hbefore
        obtain ⟨commits, hratings⟩ := hratings
        obtain ⟨commits', hbefore⟩ := hbefore
        refine ⟨commits, ?_⟩
        simp only [Contents.outliving, hp, World.stores, hratings, hrows, hbefore]
        rfl
  · rw [Places.kept_outliving]
    by_cases hneeds : settings.needs .redis = true
    · have hkeySpace : (world.stores settings).keySpace = s.keySpace :=
        (if_pos hneeds).trans hkeys
      rw [hkeySpace]
      exact h.keySpace
    · have hkeySpace : (world.stores settings).keySpace = (Stores.ofSettings settings).keySpace :=
        if_neg hneeds
      have hnothing (c : Contents) : settings.places.kept c = fun _ => none := by
        have hkeeps (slot : Slot) : settings.places.keeps slot = false := by
          have hboth := Bool.or_eq_false_iff.mp (Bool.not_eq_true _ ▸ hneeds)
          cases slot with
          | rating account => exact hboth.2
          | _ => exact hboth.1
        funext slot
        rw [Places.kept, hkeeps]
        rfl
      rw [hkeySpace, hnothing, ← hnothing {}]
      exact hempty.keySpace

/-! ### Pools -/

namespace Stores

variable (settings : Settings)

/-- A pool is made just for the servers that are needed. -/
theorem pool_ofSettings (server : Server) : (ofSettings settings).pool server =
    if settings.needs server then Pool.fresh.create else Pool.fresh := by
  cases server with
  | redis => rfl
  | mysql =>
      simp only [ofSettings, pool, Settings.needs, decide_eq_true_eq]

/-- Two stores have **the same pools** if their connections are the same. -/
def SamePools (s s' : Stores) : Prop := ∀ server, s'.pool server = s.pool server

instance : IsPreorder Stores SamePools where
  refl _ _ := rfl
  trans _ _ _ h h' server := (h' server).trans (h server)

/-- Removing something makes no connection and closes none. -/
theorem samePools_allowsRemovals : AllowsRemovals SamePools where
  deleteQuiz {s s' id} h server := by
    cases hs : s.quizzes with
    | memory m =>
        simp only [deleteQuiz, hs] at h
        obtain rfl := Except.ok.inj h
        cases server <;> rfl
    | redis =>
        simp only [deleteQuiz, hs] at h
        obtain ⟨-, ks, -, rfl⟩ := writeKeys_eq_ok h
        cases server <;> rfl
  drainBucket {s s' bucket ids?} h server := by
    cases hs : s.quizzes with
    | memory m =>
        simp only [drainBucket, hs] at h
        obtain ⟨-, rfl⟩ := Prod.mk.inj (Except.ok.inj h)
        cases server <;> rfl
    | redis =>
        simp only [drainBucket, hs] at h
        cases hread : s.readKeys fun ks => ks.items (Key.bucket bucket) with
        | error e =>
            rw [hread] at h
            cases h
        | ok items =>
            rw [hread, writeKeys_of_isOpen (isOpen_of_readKeys hread)] at h
            obtain ⟨-, rfl⟩ := Prod.mk.inj (Except.ok.inj h)
            cases server <;> rfl

end Stores

/-- The table is made just if it is needed. -/
theorem Hall.openingStatements_ofSettings (settings : Settings) :
    openingStatements (Stores.ofSettings settings) =
      if settings.needs .mysql then [.createTable] else [] := by
  simp only [openingStatements, Stores.ofSettings, Settings.needs, decide_eq_true_eq]
  cases settings.effectiveRatingBackend <;> rfl

/-- A pool that is replaced by itself stays as it is. -/
@[simp] theorem Hall.withPool_self (hall : Hall) (server : Server) :
    hall.withPool server (hall.stores.pool server) = hall := by
  cases server <;> rfl

/-! ### Opening -/

namespace Act

variable {world : World} {settings : Settings} {hall : Hall}

/-- A pool is made if it is needed, and the server can be reached. -/
theorem run_openPool {server : Server} (hconnect : settings.needs server = true →
      world.connect server (settings.address server) = .ok ()) (hall : Hall) :
    (openPool world settings server).run hall = (.ok (), hall.withPool server
      (if settings.needs server then (hall.stores.pool server).create
        else hall.stores.pool server)) := by
  rw [openPool]
  cases hneeds : settings.needs server with
  | false =>
      rw [if_neg Bool.false_ne_true, if_neg Bool.false_ne_true, hall.withPool_self]
      rfl
  | true =>
      rw [if_pos rfl, if_pos rfl, hconnect hneeds]
      rfl

/-- The table is made if it is needed, and its pool is open. -/
theorem run_makeTable (hmake : settings.needs .mysql = true → world.makeTable = .ok ())
    (hopen : settings.needs .mysql = true → hall.stores.mysqlPool.isOpen = true) :
    (makeTable world settings).run hall = (.ok (), { hall with
      statements := hall.statements ++ if settings.needs .mysql then [.createTable] else [] }) := by
  rw [makeTable]
  cases hneeds : settings.needs .mysql with
  | false =>
      rw [if_neg Bool.false_ne_true, if_neg Bool.false_ne_true, List.append_nil]
      rfl
  | true =>
      have hacquire : hall.stores.mysqlPool.acquire .mysql = .ok () := if_pos (hopen hneeds)
      rw [if_pos rfl, if_pos rfl, run_bind, run_get]
      simp only [hacquire, hmake hneeds]
      rfl

/-- **Opening the stores** makes all the pools that are needed, and the table, in a world that
connects the settings. -/
theorem run_openStores (h : world.Connects settings) :
    (openStores world settings).run (Hall.unopened world settings) =
      (.ok (), Hall.opened world settings) := by
  let stores := world.stores settings
  let reached := (Hall.unopened world settings).withPool .redis (stores.pool .redis)
  let connected : Hall := { Hall.opened world settings with statements := [] }
  have hpool (server : Server) :
      (if settings.needs server then Pool.fresh.create else .fresh) = stores.pool server :=
    (Stores.pool_ofSettings settings server).symm
  have hredis : (openPool world settings .redis).run (Hall.unopened world settings) =
      (.ok (), reached) := by
    rw [run_openPool (h.connect .redis)]
    exact congrArg (fun pool => (Except.ok (), (Hall.unopened world settings).withPool .redis pool))
      (hpool .redis)
  have hmysql : (openPool world settings .mysql).run reached = (.ok (), connected) := by
    rw [run_openPool (h.connect .mysql)]
    exact congrArg (fun pool => (Except.ok (), reached.withPool .mysql pool)) (hpool .mysql)
  have hopen (hneeds : settings.needs .mysql = true) :
      connected.stores.mysqlPool.isOpen = true := by
    change (stores.pool .mysql).isOpen = true
    rw [← hpool, if_pos hneeds]
    rfl
  have hmade : (makeTable world settings).run connected = (.ok (), Hall.opened world settings) := by
    rw [run_makeTable h.makeTable hopen, ← Hall.openingStatements_ofSettings]
    rfl
  simp only [openStores, run_bind, hredis, hmysql, hmade]

/-! ### Opening in any world -/

end Act

/-- A hall is **being opened** if nothing was done there so far but making connections. -/
structure Hall.BeingOpened (hall : Hall) : Prop where
  /-- Nothing was written to the log. -/
  log : hall.log = []
  /-- There was no wait. -/
  naps : hall.naps = []
  /-- Every connection that was made is still open. -/
  pools : ∀ server, ∀ closed ∈ (hall.stores.pool server).closed, closed = false

/-- So it is before the first connection is made. -/
theorem Hall.beingOpened_unopened (world : World) (settings : Settings) :
    (unopened world settings).BeingOpened := by
  refine ⟨rfl, rfl, fun server closed hmem => ?_⟩
  cases server <;> cases hmem

/-- So it is after one more connection. -/
theorem Hall.BeingOpened.withPool {hall : Hall} (h : hall.BeingOpened) (server : Server) :
    (hall.withPool server (hall.stores.pool server).create).BeingOpened := by
  refine ⟨h.log, h.naps, fun other closed hmem => ?_⟩
  by_cases hother : other = server
  · subst hother
    have hmem : closed ∈ (hall.stores.pool other).closed ++ [false] := by
      cases other <;> exact hmem
    exact (List.mem_append.mp hmem).elim (h.pools other closed) List.mem_singleton.mp
  · have hsame : ((hall.withPool server (hall.stores.pool server).create).stores.pool other) =
        hall.stores.pool other := by
      cases server <;> cases other <;> first | rfl | exact absurd rfl hother
    exact h.pools other closed (hsame ▸ hmem)

namespace Act

variable {world : World} {settings : Settings} {hall : Hall}

/-- **Opening the stores, in any world.** Whatever fails, what was opened before it stays open. -/
theorem Ends.openStores (world : World) (settings : Settings) :
    (Act.openStores world settings).Ends (Hall.unopened world settings)
      fun _ after => after.BeingOpened := by
  have hpool (server : Server) {hall : Hall} (h : hall.BeingOpened) :
      (openPool world settings server).Ends hall fun _ after => after.BeingOpened := by
    rw [openPool]
    split
    · refine .bind (.ofExcept (fun _ _ => h) fun _ _ => ?_)
      exact h.withPool server
    · exact h
  have htable {hall : Hall} (h : hall.BeingOpened) :
      (makeTable world settings).Ends hall fun _ after => after.BeingOpened := by
    rw [makeTable]
    split
    · refine .bind (.get (.bind (.ofExcept (fun _ _ => h) fun _ _ => ?_)))
      refine .bind (.ofExcept (fun _ _ => h) fun _ _ => ?_)
      exact ⟨h.log, h.naps, h.pools⟩
    · exact h
  refine .bind ((hpool .redis (Hall.beingOpened_unopened world settings)).imp
    fun outcome after h => ?_)
  cases outcome with
  | error e => exact h
  | ok _ =>
      refine Ends.bind ((hpool .mysql h).imp fun outcome after h => ?_)
      cases outcome with
      | error e => exact h
      | ok _ => exact htable h

/-! ### Closing -/

/-- A pool is closed if it is open, and the server lets go of the connection. -/
theorem run_closePool {server : Server} (hdisconnect : (hall.stores.pool server).isOpen = true →
      world.disconnect server = .ok ()) :
    (closePool world server).run hall =
      (.ok (), hall.withPool server (hall.stores.pool server).close) := by
  rw [closePool, run_bind, run_get]
  cases hopen : (hall.stores.pool server).isOpen with
  | false =>
      have hclose : (hall.stores.pool server).close = hall.stores.pool server := by
        rw [Pool.close, hopen]
        rfl
      simp only [hopen, Bool.false_eq_true, if_false, hclose, hall.withPool_self]
      rfl
  | true =>
      simp only [hopen, if_true, hdisconnect hopen]
      rfl

/-- **Closing the stores** closes all the pools that are open, if their servers let go. -/
theorem run_closeStores (hdisconnect : ∀ server, (hall.stores.pool server).isOpen = true →
      world.disconnect server = .ok ()) :
    (closeStores world).run hall = (.ok (), hall.close) := by
  rw [closeStores, run_bind, run_closePool (hdisconnect .redis)]
  exact run_closePool (hdisconnect .mysql)

end Act

end QuizHall
