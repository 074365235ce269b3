import QuizHall.Fault
import QuizHall.Validation.Rule

/-!
# Verdicts

How a check of a record ends an operation: with the record, or with the fault that lists its
issues. A record that was accepted can be changed field by field, without a new check.

## Main definitions

* `Checked.toExcept`: the verdict of a check.
* `Form.assign`: the change of one field.
-/

namespace QuizHall

/-- The verdict of a check. -/
def Checked.toExcept {α : Type} : Checked α → Except Fault α
  | accepted a => .ok a
  | rejected issues => .error (.rejected issues)

@[simp] theorem Checked.toExcept_accepted {α : Type} (a : α) :
    (accepted a).toExcept = .ok a := rfl

namespace Form

/-- The properties that every record works out from its fields: what it holds besides them, and
which of them were given. -/
def commonProperties : List String := ["model_extra", "model_fields_set"]

/-- Whether a name belongs to what is kept beside a record and is no part of it. -/
def isPrivate (name : String) : Bool := name.toList.head? = some '_'

/-- Changes one field of a record of `model`, which has some properties besides its fields. The
value is taken as it is. A frozen record has no field that can be changed; any other has those
that it was made with. What is kept beside a record can always be changed. -/
def assign (model : String) (frozen : Bool) (properties : List String) (form : Form)
    (name : String) (value : Json.Value) : Except Fault Form :=
  if isPrivate name then .ok form
  else if frozen then .error (.rejected [⟨[.field name], .frozen⟩])
  else if name ∈ commonProperties ++ properties then .error (.noSetter model name)
  else if (Json.field? name form).isSome then
    .ok (form.map fun field => if field.1 = name then (name, value) else field)
  else .error (.noField model name)

end Form

end QuizHall
