import QuizHall.Validation.Issue

/-!
# Checks that collect their issues

A check either accepts a value or rejects it with a list of issues. Two checks that stand beside
each other both run, and the issues of both are reported in their order; this is what tells
`Checked` from an error that ends the work at once.

## Main definitions

* `Checked`: an accepted value or the issues that speak against it.
* `Checked.under`: the issues of a check, moved below one step of a path.
-/

namespace QuizHall

/-- An accepted value or the issues that speak against it. -/
inductive Checked (α : Type) where
  /-- The value is accepted. -/
  | accepted (value : α)
  /-- The value is rejected. -/
  | rejected (issues : List Issue)

namespace Checked

variable {α β : Type}

/-- Rejects the value at hand for one reason. -/
def complain (c : Complaint) : Checked α := rejected [⟨[], c⟩]

/-- The accepted value changed by a function. -/
def map (f : α → β) : Checked α → Checked β
  | accepted a => accepted (f a)
  | rejected issues => rejected issues

/-- Two checks beside each other: the issues of both are reported. -/
def apply (f : Checked (α → β)) (x : Checked α) : Checked β :=
  match f, x with
  | accepted f, accepted a => accepted (f a)
  | accepted _, rejected issues => rejected issues
  | rejected issues, accepted _ => rejected issues
  | rejected issues, rejected more => rejected (issues ++ more)

instance : Applicative Checked where
  pure := accepted
  map := map
  seq f x := apply f (x ())

/-- A check of the value that another check accepted. -/
def andThen (x : Checked α) (f : α → Checked β) : Checked β :=
  match x with
  | accepted a => f a
  | rejected issues => rejected issues

/-- The issues of a check, moved below one step of a path. -/
def under (step : PathStep) : Checked α → Checked α
  | accepted a => accepted a
  | rejected issues => rejected (issues.map fun i => { i with path := step :: i.path })

/-- The checks of the items of a list, one beside the other, each under its index. -/
def each (check : α → Checked β) (i : Nat) : List α → Checked (List β)
  | [] => accepted []
  | a :: as => (List.cons <$> (check a).under (.index i)) <*> each check (i + 1) as

/-! ### Accepted values -/

@[simp] theorem map_accepted (f : α → β) (a : α) : f <$> accepted a = accepted (f a) := rfl

@[simp] theorem seq_accepted (f : α → β) (a : α) : accepted f <*> accepted a = accepted (f a) :=
  rfl

@[simp] theorem under_accepted (step : PathStep) (a : α) :
    (accepted a).under step = accepted a := rfl

@[simp] theorem andThen_accepted (a : α) (f : α → Checked β) : (accepted a).andThen f = f a := rfl

/-- If every item is accepted, the list of what they became is. -/
theorem each_map_accepted {γ : Type} (check : α → Checked β) (f : γ → α) (g : γ → β)
    (h : ∀ c, check (f c) = accepted (g c)) (i : Nat) (cs : List γ) :
    each check i (cs.map f) = accepted (cs.map g) := by
  induction cs generalizing i with
  | nil => rfl
  | cons c cs ih => simp [each, h, ih]

end Checked

end QuizHall
