import QuizHall.Store.KeySpace

/-!
# The Slots of a Key Space

Everything that a hall puts into a key space has a slot of its own: the quiz of an id, the key of
a quiz, a bucket, the rating of an account, and the counter. The name of a slot says what kind of
slot it is, so slots of different kinds never share a name, although ids of quizzes and of buckets
coincide and an account may be called anything.

## Main results

* `Slot.name_inj`: different slots have different names.
* `Slot.find?_insert`, `Slot.find?_erase`: what a slot holds after a change of any slot.
-/

namespace QuizHall

/-- What a hall can put into a key space. -/
inductive Slot where
  /-- The quiz of an id. -/
  | quiz (id : String)
  /-- The key of the quiz of an id. -/
  | solution (id : String)
  /-- A bucket. -/
  | bucket (id : String)
  /-- The rating of an account. -/
  | rating (account : String)
  /-- The counter. -/
  | counter
  deriving DecidableEq

namespace Slot

/-- The name under which a slot is found. -/
def name : Slot → String
  | quiz id => Key.quiz id
  | solution id => Key.solution id
  | bucket id => Key.bucket id
  | rating account => Key.rating account
  | counter => Key.counter

/-- **Different slots have different names.** The first five characters tell the kinds apart, and
within a kind the rest of the name is what the slot is of. -/
theorem name_inj {s t : Slot} : s.name = t.name ↔ s = t := by
  constructor
  · intro h
    have hkind := congrArg (fun n => n.toList.take 5) h
    cases s <;> cases t <;>
      simp [name, Key.quiz, Key.solution, Key.bucket, Key.rating, Key.counter] at h hkind ⊢ <;>
      exact h
  · exact congrArg name

/-- After storing into a slot it holds what was stored, and every other slot what it held. -/
theorem find?_insert (ks : KeySpace) (s t : Slot) (e : Entry) :
    (ks.insert s.name e).find? t.name = if t = s then some e else ks.find? t.name := by
  rw [Table.find?_insert]
  simp only [name_inj]

/-- After clearing a slot it holds nothing, and every other slot what it held. -/
theorem find?_erase (ks : KeySpace) (s t : Slot) :
    (ks.erase s.name).find? t.name = if t = s then none else ks.find? t.name := by
  rw [Table.find?_erase]
  simp only [name_inj]

end Slot

end QuizHall
