import QuizHall.Validation.Rule

/-!
# Events

What happened in the hall, for everybody to see: a quiz was created, an attempt was scored, a
scheduled quiz fell due. Numbers are kept as integers without bounds, since events are also read
from outside.

## Main definitions

* `Event`: the three kinds of events.
* `Event.toValue`, `Event.ofValue`: events as records, with the kind as their first field.
-/

namespace QuizHall

open Json (Value)

/-- What happened. -/
inductive Event where
  /-- An account created the quiz of a number, with a gate. -/
  | created (sequence : Int) (account : String) (gate : Int)
  /-- An account attempted the quiz of a number and got a score. -/
  | scored (sequence : Int) (account : String) (score : Int)
  /-- A quiz that was scheduled for a tick fell due. -/
  | deleted (tick : Int)
  deriving DecidableEq

/-- The kinds of events. -/
inductive EventKind where
  /-- A quiz was created. -/
  | created
  /-- An attempt was scored. -/
  | scored
  /-- A scheduled quiz fell due. -/
  | deleted
  deriving DecidableEq

namespace EventKind

/-- The word that stands in the `kind` field. -/
def tag : EventKind → String
  | created => "quiz_created"
  | scored => "quiz_scored"
  | deleted => "quiz_deleted"

/-- The name of the record. -/
def model : EventKind → String
  | created => "QuizCreated"
  | scored => "QuizScored"
  | deleted => "QuizDeleted"

end EventKind

namespace Event

/-- The kind of an event. -/
def kind : Event → EventKind
  | created .. => .created
  | scored .. => .scored
  | deleted _ => .deleted

/-- The account that the event is about. -/
def account? : Event → Option String
  | created _ account _ => some account
  | scored _ account _ => some account
  | deleted _ => none

/-- An event as a record. -/
def toValue (e : Event) : Value :=
  .object (("kind", .text e.kind.tag) ::
    match e with
    | created sequence account gate =>
      [("sequence", .int sequence), ("account", .text account), ("rating", .int gate)]
    | scored sequence account score =>
      [("sequence", .int sequence), ("account", .text account), ("score", .int score)]
    | deleted tick => [("tick", .int tick)])

/-- Reads an event of a kind. The kind itself may be left out. -/
def ofValue (source : Source) (kind : EventKind) : Rule Event := fun v =>
  (Form.ofValue source kind.model v).andThen fun form =>
    let tag := form.withDefault "kind" (Rule.oneOf [(kind.tag, ())]) ()
    match kind with
    | .created =>
      (fun (_ : Unit) => created) <$> tag <*> form.required "sequence" Rule.integer
        <*> form.required "account" Rule.text <*> form.required "rating" Rule.integer
    | .scored =>
      (fun (_ : Unit) => scored) <$> tag <*> form.required "sequence" Rule.integer
        <*> form.required "account" Rule.text <*> form.required "score" Rule.integer
    | .deleted =>
      (fun (_ : Unit) => deleted) <$> tag <*> form.required "tick" Rule.integer

end Event

end QuizHall
