import QuizHall.Proofs.Hall.Serving

/-!
# Backends Are Interchangeable

It cannot be told from outside where a hall keeps its stores. Two halls that are opened with
settings which differ in nothing but the backends answer every list of requests alike, with the
same answers and the same faults at the same places. They publish the same events, write the same
log, and have the same ledger and the same clock in the end. What they store is the same too: the
same contents are in the tables in memory, in the slots of the key space and in the rows of the
relational table, wherever each hall keeps them.

Every run is covered by this, and so is every state that a run goes through, since the beginning
of a run is a run.

## Main results

* `serve_movedTo`: halls with different backends cannot be told apart.
-/

namespace QuizHall

/-- The same settings with other backends. -/
def Settings.movedTo (settings : Settings) (storage : StorageBackend)
    (ratings : Option RatingBackend) : Settings :=
  { settings with storageBackend := storage, ratingBackend := ratings }

namespace Hall

/-- **Backends are interchangeable.** Whatever the settings, the ledger and the clock of a hall, and
whatever it is asked to do, the same hall with other backends gives the same outcomes, and all that
can be seen of it is the same in the end. There are contents that the stores of both halls hold, in
the places that their settings name. -/
theorem serve_movedTo (settings : Settings) (storage : StorageBackend)
    (ratings : Option RatingBackend) (hash : HashService) (keepsEvents : Bool) (ledger : Ledger)
    (clock : Int) (requests : List Request) :
    let moved := settings.movedTo storage ratings
    let here := serve (Rules.ofSettings settings hash keepsEvents)
      (ofSettings settings ledger clock) requests
    let there := serve (Rules.ofSettings moved hash keepsEvents)
      (ofSettings moved ledger clock) requests
    here.1 = there.1 ∧ here.2.events = there.2.events ∧ here.2.ledger = there.2.ledger ∧
      here.2.clock = there.2.clock ∧ here.2.log = there.2.log ∧
      ∃ contents : Contents, here.2.stores.Holds settings.places contents ∧
        there.2.stores.Holds moved.places contents := by
  intro moved here there
  obtain ⟨outcomes, v, hserve⟩ := serve_shows (Rules.ofSettings settings hash keepsEvents) requests
    { contents := {}, ledger, clock }
  obtain ⟨last, hhere, hshows⟩ := hserve settings.places _ (shows_ofSettings settings ledger clock)
  obtain ⟨last', hthere, hshows'⟩ := hserve moved.places _ (shows_ofSettings moved ledger clock)
  have hhere' : here = (outcomes, last) := hhere
  have hthere' : there = (outcomes, last') := hthere
  rw [hhere', hthere']
  exact ⟨rfl, hshows.events.trans hshows'.events.symm, hshows.ledger.trans hshows'.ledger.symm,
    hshows.clock.trans hshows'.clock.symm, hshows.log.trans hshows'.log.symm, v.contents,
    hshows.stores, hshows'.stores⟩

end Hall

end QuizHall
