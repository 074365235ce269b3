import QuizHall.Quiz.Basic
import QuizHall.Validation.Rule

/-!
# Quizzes and answers as records

How questions, quizzes, answers and call contexts are read from JSON values and written as JSON
values. The fields are checked and written in the order in which they are listed here.

## Main definitions

* `Question.ofValue`, `Quiz.ofValue`, `Answers.ofValue`, `CallContext.ofValue`.
* `Question.toValue`, `Quiz.toValue`, `Answers.toValue`, `CallContext.toValue`.
* `Quiz.withGate`: a quiz of known questions whose gate is still to be checked.
-/

namespace QuizHall

open Json (Value)

/-! ### Questions -/

/-- Reads a question. -/
def Question.ofValue (source : Source) : Rule Question := fun v =>
  (Form.ofValue source "Question" v).andThen fun form =>
    Question.mk <$> form.required "statement" Rule.text
      <*> form.required "option1" Rule.text
      <*> form.required "option2" Rule.text
      <*> form.required "option3" Rule.text
      <*> form.required "option4" Rule.text

/-- A question as a record. -/
def Question.toValue (q : Question) : Value :=
  .object [("statement", .text q.statement), ("option1", .text q.option1),
    ("option2", .text q.option2), ("option3", .text q.option3), ("option4", .text q.option4)]

/-! ### Quizzes -/

/-- The quiz of an owner, five questions and a gate. -/
def Quiz.ofParts (owner : String)
    (questions : { qs : List Question // qs.length = questionsPerQuiz }) (gate : Fin 256) : Quiz :=
  ⟨owner, questions.val, gate, questions.property⟩

/-- Reads a quiz. A quiz without a gate is open to everyone. -/
def Quiz.ofValue (source : Source) : Rule Quiz := fun v =>
  (Form.ofValue source "Quiz" v).andThen fun form =>
    Quiz.ofParts <$> form.required "owner" Rule.text
      <*> form.required "questions" (Rule.listOf questionsPerQuiz (Question.ofValue source))
      <*> form.withDefault "rating" Rule.byte 0

/-- The quiz of an owner and five questions, with a gate that still has to be checked. -/
def Quiz.withGate (owner : String) (questions : List Question)
    (five : questions.length = questionsPerQuiz) (gate : Value) : Checked Quiz :=
  Quiz.ofParts owner ⟨questions, five⟩ <$> (Rule.byte gate).under (.field "rating")

/-- A quiz as a record. -/
def Quiz.toValue (q : Quiz) : Value :=
  .object [("owner", .text q.owner), ("questions", .list (q.questions.map Question.toValue)),
    ("rating", .int q.gate.val)]

/-! ### Answers -/

/-- Reads the fields of answers. -/
def Answers.ofForm (form : Form) : Checked Answers :=
  Answers.mk <$> form.required "answer1" Rule.byte
    <*> form.required "answer2" Rule.byte
    <*> form.required "answer3" Rule.byte
    <*> form.required "answer4" Rule.byte
    <*> form.required "answer5" Rule.byte

/-- Reads answers. -/
def Answers.ofValue (source : Source) : Rule Answers := fun v =>
  (Form.ofValue source "Solution" v).andThen Answers.ofForm

/-- Answers as a record. -/
def Answers.toValue (a : Answers) : Value :=
  .object [("answer1", .int a.answer1.val), ("answer2", .int a.answer2.val),
    ("answer3", .int a.answer3.val), ("answer4", .int a.answer4.val),
    ("answer5", .int a.answer5.val)]

/-! ### Call contexts -/

/-- Reads a call context. A call without a signer is anonymous. -/
def CallContext.ofValue (source : Source) : Rule CallContext := fun v =>
  (Form.ofValue source "CallContext" v).andThen fun form =>
    CallContext.mk <$> form.withDefault "signer" (Rule.orNull Rule.text) none

/-- A call context as a record. -/
def CallContext.toValue (c : CallContext) : Value :=
  .object [("signer", Value.textOrNull c.signer)]

/-! ### Reading what was written -/

@[simp] theorem Question.ofValue_toValue (source : Source) (q : Question) :
    Question.ofValue source q.toValue = .accepted q := by
  simp [Question.ofValue, Question.toValue, Form.ofValue, Form.required, Json.field?, Rule.text]

@[simp] theorem Rule.byte_int (n : Fin 256) : Rule.byte (.int n.val) = .accepted n := by
  have h : ¬ (n.val : Int) < 0 := by omega
  have g : ¬ (n.val : Int) > 255 := by omega
  simp [Rule.byte, Rule.integer, h, g]

@[simp] theorem Quiz.ofValue_toValue (source : Source) (q : Quiz) :
    Quiz.ofValue source q.toValue = .accepted q := by
  have hq : Checked.each (Question.ofValue source) 0 (q.questions.map Question.toValue) =
      .accepted q.questions := by
    have := Checked.each_map_accepted (Question.ofValue source) Question.toValue id
      (fun c => Question.ofValue_toValue source c) 0 q.questions
    simpa using this
  simp [Quiz.ofValue, Quiz.toValue, Form.ofValue, Form.required, Form.withDefault, Json.field?,
    Rule.text, Rule.listOf, hq, q.size_questions, Quiz.ofParts]

@[simp] theorem Answers.ofValue_toValue (source : Source) (a : Answers) :
    Answers.ofValue source a.toValue = .accepted a := by
  simp [Answers.ofValue, Answers.ofForm, Answers.toValue, Form.ofValue, Form.required,
    Json.field?]

end QuizHall
