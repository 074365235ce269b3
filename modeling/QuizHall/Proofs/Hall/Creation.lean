import QuizHall.Hall.Lifetime
import QuizHall.Proofs.Hall.View
import QuizHall.Proofs.Identifier

/-!
# Creating a Quiz

What creating a quiz does to a view. Either nothing happens but perhaps a line in the log, or the
quiz is stored with its key under the id of the next number, its id stands at the end of the bucket
in which it falls due, the counter has moved on by one, and one event is published. There is
nothing in between: if the quiz cannot be scheduled, it is removed again and leaves no trace.

## Main results

* `Rules.newQuiz_eq_ok`, `Rules.newQuiz_eq_error`: what a call asks for.
* `Yields.create`: the creation.
* `Yields.create_refused`: why a creation fails.
-/

namespace QuizHall

/-! ### What a call asks for -/

/-- A call is made by its signer, who is not empty. -/
theorem CallContext.sender_eq_ok_iff {ctx : CallContext} {account : String} :
    ctx.sender = .ok account ↔ ctx.signer = some account ∧ account ≠ "" := by
  rw [sender]
  cases ctx.signer with
  | none => simp
  | some signer =>
      by_cases hempty : signer = ""
      · subst hempty
        simp only [if_true, reduceCtorEq, Option.some.injEq, false_iff, not_and, not_not]
        exact Eq.symm
      · simp only [hempty, if_false, Except.ok.injEq, Option.some.injEq]
        constructor
        · rintro rfl
          exact ⟨rfl, hempty⟩
        · exact fun h => h.1

/-- Who is not signed is told so. -/
theorem CallContext.sender_eq_error {ctx : CallContext} {e : Fault} (h : ctx.sender = .error e) :
    e = .unsigned := by
  rw [sender] at h
  cases hsigner : ctx.signer with
  | none =>
      rw [hsigner] at h
      exact (Except.error.inj h).symm
  | some account =>
      simp only [hsigner] at h
      split at h
      · exact (Except.error.inj h).symm
      · cases h

/-- **What passes the checks is the quiz that was asked for.** It belongs to the signer and has the
questions and the gate of the call, and its key names options. -/
theorem Rules.newQuiz_eq_ok {rules : Rules} {ctx : CallContext} {questions : List Question}
    {key : Answers} {gate : Json.Value} {quiz : Quiz}
    (h : rules.newQuiz ctx questions key gate = .ok quiz) :
    ctx.sender = .ok quiz.owner ∧ quiz.questions = questions ∧
      Rule.byte gate = .accepted quiz.gate ∧ key.areOptions rules.checksAllAnswers := by
  rw [newQuiz] at h
  cases hsender : ctx.sender with
  | error e =>
      rw [hsender] at h
      cases h
  | ok sender =>
      rw [hsender, Except.bind] at h
      split at h
      · split at h
        · next hkey =>
          rw [Quiz.withGate] at h
          cases hgate : Rule.byte gate with
          | rejected issues =>
              rw [hgate] at h
              cases h
          | accepted g =>
              rw [hgate, Checked.under_accepted, Checked.map_accepted] at h
              obtain rfl := Except.ok.inj h
              exact ⟨rfl, rfl, rfl, hkey⟩
        · cases h
      · cases h

/-- What does not pass the checks is refused for what is missing in the call itself. -/
theorem Rules.newQuiz_eq_error {rules : Rules} {ctx : CallContext} {questions : List Question}
    {key : Answers} {gate : Json.Value} {e : Fault}
    (h : rules.newQuiz ctx questions key gate = .error e) :
    e = .unsigned ∨ e = .questionCount questions.length ∨ e = .answerOutOfRange ∨
      ∃ issues, e = .rejected issues := by
  rw [newQuiz] at h
  cases hsender : ctx.sender with
  | error e' =>
      rw [hsender] at h
      obtain rfl := Except.error.inj h
      exact .inl (CallContext.sender_eq_error hsender)
  | ok sender =>
      rw [hsender, Except.bind] at h
      split at h
      · split at h
        · rw [Quiz.withGate] at h
          cases hgate : Rule.byte gate with
          | rejected issues =>
              rw [hgate] at h
              exact .inr (.inr (.inr ⟨_, (Except.error.inj h).symm⟩))
          | accepted g =>
              rw [hgate] at h
              cases h
        · exact .inr (.inr (.inl (Except.error.inj h).symm))
      · exact .inr (.inl (Except.error.inj h).symm)

/-! ### Entering and creating -/

/-- **What entering a quiz does** to a view. -/
inductive Entered (rules : Rules) (quiz : Quiz) (key : Answers) (v : View) :
    Except Fault Int → View → Prop
  /-- The quiz is refused, and the log may say why. -/
  | refused (e : Fault) (log : List LogRecord) : Entered rules quiz key v (.error e) { v with log }
  /-- The quiz is stored, scheduled, counted and announced. -/
  | done {id bucket : String} (hid : rules.derive (v.contents.counter + 1) = .ok id)
      (hquiz : v.contents.quizzes.find? id = none) (hkey : v.contents.keys.find? id = none)
      (hdue : rules.derive (v.clock + rules.delay) = .ok bucket) (log : List LogRecord) :
      Entered rules quiz key v (.ok (v.contents.counter + 1))
        { v with
          contents := ((v.contents.withQuiz id quiz key).scheduling bucket id).counting
            (v.contents.counter + 1)
          events := v.events ++
            rules.kept [.created (v.contents.counter + 1) quiz.owner quiz.gate.val]
          log }

/-- **Why a quiz is refused** that has passed the checks. -/
inductive EntryRefused (rules : Rules) (v : View) : Fault → Prop
  /-- The next number has no id. -/
  | noNumber {e : Fault} (hid : rules.derive (v.contents.counter + 1) = .error e) :
      EntryRefused rules v e
  /-- The id of the next number is taken. -/
  | taken {id : String} (hid : rules.derive (v.contents.counter + 1) = .ok id)
      (htaken : v.contents.quizzes.contains id ∨ v.contents.keys.contains id) :
      EntryRefused rules v (.idTaken id)
  /-- The tick at which the quiz would fall due has no bucket. -/
  | noBucket {e : Fault} (hdue : rules.derive (v.clock + rules.delay) = .error e) :
      EntryRefused rules v e

/-- **What creating a quiz does** to a view: the call is refused, or its quiz is entered. -/
inductive Created (rules : Rules) (ctx : CallContext) (questions : List Question) (key : Answers)
    (gate : Json.Value) (v : View) : Except Fault Int → View → Prop
  /-- The call asks for no proper quiz. -/
  | refused (e : Fault) : Created rules ctx questions key gate v (.error e) v
  /-- The call asks for a quiz. -/
  | entered {quiz : Quiz} (hquiz : rules.newQuiz ctx questions key gate = .ok quiz)
      {outcome : Except Fault Int} {v' : View} (h : Entered rules quiz key v outcome v') :
      Created rules ctx questions key gate v outcome v'

/-- The clock stands still while a quiz is created. -/
theorem Created.clock {rules : Rules} {ctx : CallContext} {questions : List Question}
    {key : Answers} {gate : Json.Value} {v v' : View} {outcome : Except Fault Int}
    (h : Created rules ctx questions key gate v outcome v') : v'.clock = v.clock := by
  cases h with
  | refused e => rfl
  | entered hquiz hentered => cases hentered <;> rfl

/-- No quiz is created that would fall due at a tick without a bucket. -/
theorem Created.error_of_not_isU64 {rules : Rules} {ctx : CallContext} {questions : List Question}
    {key : Answers} {gate : Json.Value} {v v' : View} {outcome : Except Fault Int}
    (h : Created rules ctx questions key gate v outcome v')
    (hdue : ¬ IsU64 (v.clock + rules.delay)) : ∃ e, outcome = .error e := by
  cases h with
  | refused e => exact ⟨e, rfl⟩
  | entered hquiz hentered =>
      cases hentered with
      | refused e log => exact ⟨e, rfl⟩
      | done _ _ _ hbucket log => exact absurd (Rules.derive_eq_ok_iff.mp hbucket).1 hdue

namespace Act.Yields

variable {v : View}

/-- A quiz is placed under a free id. -/
theorem place {id : String} (hquiz : v.contents.quizzes.find? id = none)
    (hkey : v.contents.keys.find? id = none) (sequence : Int) (quiz : Quiz) (key : Answers) :
    (Act.place sequence id quiz key).Yields v (.ok ())
      { v with contents := v.contents.withQuiz id quiz key } :=
  (createQuiz hquiz hkey quiz key).rescue

/-- A quiz is not placed under an id that is taken, and the log says so. -/
theorem place_taken {id : String}
    (taken : v.contents.quizzes.contains id ∨ v.contents.keys.contains id)
    (sequence : Int) (quiz : Quiz) (key : Answers) :
    ∃ log, (Act.place sequence id quiz key).Yields v (.error (.idTaken id)) { v with log } :=
  ⟨_, (createQuiz_taken taken quiz key).rescue_error
    ((note (.idTaken id sequence) quiz.owner v).bind (fail (.idTaken id) _))⟩

/-- An id is put into the bucket of its tick. -/
theorem add (s : Schedule) {now : Int} {bucket : String}
    (hdue : s.derive (now + s.delay) = .ok bucket) (id : String) (v : View) :
    ∃ log, (s.add now id).Yields v (.ok (now + s.delay))
      { v with contents := v.contents.scheduling bucket id, log } :=
  ⟨_, (ofExcept hdue v).bind ((appendBucket bucket id v).bind
    ((note (.scheduled id (now + s.delay)) _ _).bind (answer _ _)))⟩

/-- A tick without a bucket is noticed before anything is put anywhere. -/
theorem add_error (s : Schedule) {now : Int} {e : Fault}
    (hdue : s.derive (now + s.delay) = .error e) (id : String) (v : View) :
    (s.add now id).Yields v (.error e) v :=
  (ofExcept hdue v).bind_error

/-- A new quiz is scheduled and counted. -/
theorem book {rules : Rules} {bucket : String}
    (hdue : rules.derive (v.clock + rules.delay) = .ok bucket)
    (hle : v.contents.counter + 1 ≤ (u64Max : Int)) (id : String) :
    ∃ log, (Act.book rules (v.contents.counter + 1) id).Yields v (.ok (v.clock + rules.delay))
      { v with
        contents := (v.contents.scheduling bucket id).counting (v.contents.counter + 1)
        log } := by
  obtain ⟨log, hadd⟩ := add rules.schedule hdue id v
  have hput := putCounter (v := { v with contents := v.contents.scheduling bucket id, log })
    (n := v.contents.counter + 1) (Int.lt_succ v.contents.counter) hle
  refine ⟨log, clock (fun now => do
    let due ← rules.schedule.add now id
    Act.putCounter (v.contents.counter + 1)
    return due) ?_⟩
  exact hadd.bind (hput.bind (answer _ _))

/-- Without a bucket for its tick a new quiz is neither scheduled nor counted. -/
theorem book_error {rules : Rules} {e : Fault}
    (hdue : rules.derive (v.clock + rules.delay) = .error e) (sequence : Int) (id : String) :
    (Act.book rules sequence id).Yields v (.error e) v := by
  refine clock (fun now => do
    let due ← rules.schedule.add now id
    Act.putCounter sequence
    return due) ?_
  exact (add_error rules.schedule hdue id v).bind_error

/-- **Entering a quiz** either comes to its end or leaves no trace but in the log. The only work
that is ever undone is the storing of the quiz itself: scheduling it comes after that and can fail,
but counting it, which comes last, cannot. -/
theorem enter (rules : Rules) (quiz : Quiz) (key : Answers) (v : View) :
    ∃ outcome v', (Act.enter rules quiz key).Yields v outcome v' ∧
      Entered rules quiz key v outcome v' ∧ ∀ e, outcome = .error e → EntryRefused rules v e := by
  have hwhy {e : Fault} (h : EntryRefused rules v e) (e' : Fault)
      (he : (Except.error e : Except Fault Int) = .error e') : EntryRefused rules v e' :=
    Except.error.inj he ▸ h
  cases hid : rules.derive (v.contents.counter + 1) with
  | error e =>
      exact ⟨_, _, (counter v).bind (ofExcept hid v).bind_error, .refused e v.log,
        hwhy (.noNumber hid)⟩
  | ok id =>
      by_cases htaken : v.contents.quizzes.contains id ∨ v.contents.keys.contains id
      · obtain ⟨log, hplace⟩ := place_taken htaken (v.contents.counter + 1) quiz key
        exact ⟨_, _, (counter v).bind ((ofExcept hid v).bind hplace.bind_error),
          .refused (.idTaken id) log, hwhy (.taken hid htaken)⟩
      obtain ⟨hquiz, hkey⟩ : v.contents.quizzes.find? id = none ∧
          v.contents.keys.find? id = none := by
        simpa [Table.contains] using htaken
      have hplace := place hquiz hkey (v.contents.counter + 1) quiz key
      cases hdue : rules.derive (v.clock + rules.delay) with
      | error e =>
          have hbook := book_error (v := { v with contents := v.contents.withQuiz id quiz key })
            hdue (v.contents.counter + 1) id
          have hundo : ((Act.book rules (v.contents.counter + 1) id).rescue fun fault => do
              Act.deleteQuiz id
              throw fault).Yields _ (.error e) _ :=
            hbook.rescue_error ((deleteQuiz id _).bind (fail e _))
          rw [Contents.withoutQuiz_withQuiz hquiz hkey quiz key] at hundo
          exact ⟨_, _, (counter v).bind ((ofExcept hid v).bind (hplace.bind hundo.bind_error)),
            .refused e v.log, hwhy (.noBucket hdue)⟩
      | ok bucket =>
          obtain ⟨log, hbook⟩ := book (v := { v with contents := v.contents.withQuiz id quiz key })
            hdue (Rules.derive_eq_ok_iff.mp hid).1.2 id
          obtain ⟨log', hpublish⟩ := publish rules
            (.created (v.contents.counter + 1) quiz.owner quiz.gate.val) _
          exact ⟨_, _, (counter v).bind ((ofExcept hid v).bind (hplace.bind
            (hbook.rescue.bind ((note _ quiz.owner _).bind (hpublish.bind (answer _ _)))))),
            .done hid hquiz hkey hdue log', fun e he => by cases he⟩

/-- **Creating a quiz** refuses the call, or enters the quiz that it asks for. -/
theorem create (rules : Rules) (ctx : CallContext) (questions : List Question) (key : Answers)
    (gate : Json.Value) (v : View) :
    ∃ outcome v', (Act.create rules ctx questions key gate).Yields v outcome v' ∧
      Created rules ctx questions key gate v outcome v' := by
  cases hquiz : rules.newQuiz ctx questions key gate with
  | error e => exact ⟨_, _, (ofExcept hquiz v).bind_error, .refused e⟩
  | ok quiz =>
      obtain ⟨outcome, v', henter, hentered, -⟩ := enter rules quiz key v
      exact ⟨outcome, v', (ofExcept hquiz v).bind henter.locked, .entered hquiz hentered⟩

/-- **A creation that fails** does so because the call asks for no proper quiz, or because the quiz
is refused for one of the reasons that there are. -/
theorem create_refused {rules : Rules} {ctx : CallContext} {questions : List Question}
    {key : Answers} {gate : Json.Value} {hall : Hall} {p : Places} {e : Fault}
    (hshows : hall.Shows p v)
    (h : ((Act.create rules ctx questions key gate).run hall).1 = .error e) :
    rules.newQuiz ctx questions key gate = .error e ∨ EntryRefused rules v e := by
  cases hquiz : rules.newQuiz ctx questions key gate with
  | error e' =>
      have hact : (Act.create rules ctx questions key gate).Yields v (.error e') v :=
        (ofExcept hquiz v).bind_error
      have heq : e' = e := Except.error.inj ((hact.outcome_eq hshows).symm.trans h)
      exact .inl (congrArg Except.error heq)
  | ok quiz =>
      obtain ⟨outcome, v', henter, -, hwhy⟩ := enter rules quiz key v
      have hact : (Act.create rules ctx questions key gate).Yields v outcome v' :=
        (ofExcept hquiz v).bind henter.locked
      exact .inr (hwhy e ((hact.outcome_eq hshows).symm.trans h))

end Act.Yields

end QuizHall
