import QuizHall.Proofs.Hall.AttemptDecision

/-!
# What a Creation Comes To

A creation is decided by the call itself, by the counter and the clock, and by what is kept under
the id of the next number. `decideCreation` makes this decision as a plain function, one reason to
refuse after the other. The theorem of this module is that the operation comes to just that. It
asks nothing of the stores but that the counter can be read: what is kept there may be readable or
not, and the hash function may give the same id to any two numbers.

No request ever leads to a hall in which the last of the reasons applies. It is there because a key
space is open to others, who might put a text where a bucket belongs.

The order of the reasons is not the order in which it would be convenient to find them out. That no
quiz can fall due at a tick turns out when the quiz is already stored, so it has to be taken out
again. It does not show in the decision that there is something to be undone, and that is the
point: every refusal leaves the hall untouched, the late ones like the early ones.

## Main definitions

* `Registration`, `decideCreation`: the decision.
* `checkReachedPlace`: the part of it that is about the hall, where requests have led.
* `Hall.Registered`: the changes that are due to a creation that is not refused.

## Main results

* `Hall.Reached.hasTextFor`: the last reason does not apply where requests have led.
* `Hall.create_decided`: every creation comes to what is decided.
* `Hall.Reached.creation_decided`: where requests have led, it does without the last reason.
-/

namespace QuizHall

-- Powers are those of the core library, whatever else is imported.
attribute [local instance (2000)] instPowNat

/-! ### The decision -/

/-- What a creation that is not refused comes to. -/
structure Registration where
  /-- The account that created the quiz, and owns it. -/
  account : String
  /-- The number of the quiz. -/
  sequence : Int
  /-- The id under which the quiz and its key are stored. -/
  id : String
  /-- The bucket in which the quiz is scheduled. -/
  bucket : String
  deriving DecidableEq

/-- What speaks against a call that asks for a quiz, whatever the hall is like. Otherwise the quiz
belongs to the account that is given. -/
def checkCall (rules : Rules) (ctx : CallContext) (questions : List Question) (key : Answers)
    (gate : Int) : Except Refusal String :=
  match ctx.signer with
  | none => .error ⟨.unauthenticated, .unsigned⟩
  | some account =>
    if account = "" then .error ⟨.unauthenticated, .unsigned⟩
    else if questions.length ≠ 5 then
      .error ⟨.invalidQuestionCount, .questionCount questions.length⟩
    else if ¬ ∀ answer ∈ if rules.checksAllAnswers then key.toList else key.toList.take 4,
        1 ≤ answer.val ∧ answer.val ≤ 4 then
      .error ⟨.invalidSolution, .answerOutOfRange⟩
    else if gate < 0 then .error ⟨.rejectedRecord, .rejected [⟨[.field "rating"], .below 0⟩]⟩
    else if 255 < gate then
      .error ⟨.rejectedRecord, .rejected [⟨[.field "rating"], .above 255⟩]⟩
    else .ok account

/-- What speaks against a quiz of an account in a hall whose counter is at `latest`. -/
def checkPlace (rules : Rules) (hall : Hall) (latest : Int) (account : String) :
    Except Refusal Registration :=
  let sequence := latest + 1
  let due := hall.clock + rules.delay
  let id := rules.idOf sequence
  let bucket := rules.idOf due
  if ¬ (0 ≤ sequence ∧ sequence ≤ 2 ^ (64 : Nat) - 1) then .error ⟨.badValue, .beyondU64 sequence⟩
  else if hall.stores.keepsQuiz id ∨ hall.stores.keepsKey id then
    .error ⟨.alreadyExists, .idTaken id⟩
  else if ¬ (0 ≤ due ∧ due ≤ 2 ^ (64 : Nat) - 1) then .error ⟨.badValue, .beyondU64 due⟩
  else if hall.stores.hasTextFor bucket then .error ⟨.foreign "ResponseError", .wrongEntry⟩
  else .ok { account, sequence, id, bucket }

/-- **The decision on a creation** in a hall whose counter is at `latest`: first what speaks against
the call, then what speaks against the quiz. -/
def decideCreation (rules : Rules) (hall : Hall) (latest : Int) (ctx : CallContext)
    (questions : List Question) (key : Answers) (gate : Int) : Except Refusal Registration :=
  (checkCall rules ctx questions key gate).bind (checkPlace rules hall latest)

/-- A hall after a creation that was **registered**. -/
structure Hall.Registered (rules : Rules) (questions : List Question) (key : Answers) (gate : Int)
    (registration : Registration) (before after : Hall) : Prop where
  /-- The quiz of the call is stored under its id. -/
  quiz : ∃ quiz, after.stores.quiz? registration.id = .ok (some quiz) ∧
    quiz.owner = registration.account ∧ quiz.questions = questions ∧ (quiz.gate.val : Int) = gate
  /-- So is its key. -/
  key : after.stores.key? registration.id = .ok (some key)
  /-- The id stands behind whatever entries its bucket had before. -/
  entries : after.stores.entriesIn registration.bucket =
    before.stores.entriesIn registration.bucket ++ [registration.id.toUTF8]
  /-- A bucket that could be read has one id more. -/
  bucket : ∀ ids, before.stores.bucket registration.bucket = .ok ids →
    after.stores.bucket registration.bucket = .ok (ids ++ [registration.id])
  /-- The counter is at the number of the quiz. -/
  counter : after.stores.counter = .ok registration.sequence
  /-- All other quizzes and keys, all other buckets and all ratings are the same. -/
  stores : ∀ slot, slot ≠ .quiz registration.id → slot ≠ .solution registration.id →
    slot ≠ .bucket registration.bucket → slot ≠ .counter → before.stores.AgreeOn after.stores slot
  /-- All balances are the same. -/
  ledger : after.ledger = before.ledger
  /-- One event tells of the creation. -/
  events : after.events =
    before.events ++ rules.kept [.created registration.sequence registration.account gate]
  /-- The tick is the same. -/
  clock : after.clock = before.clock
  /-- The same calls are out of order. -/
  outages : after.outages = before.outages

/-! ### The call -/

/-- A gate is below the range of a byte, above it, or the gate of the quiz. -/
theorem Quiz.withGate_cases (owner : String) (questions : List Question)
    (five : questions.length = questionsPerQuiz) (gate : Int) :
    (gate < 0 ∧ (withGate owner questions five (.int gate)).toExcept =
      .error (.rejected [⟨[.field "rating"], .below 0⟩])) ∨
    (255 < gate ∧ (withGate owner questions five (.int gate)).toExcept =
      .error (.rejected [⟨[.field "rating"], .above 255⟩])) ∨
    (0 ≤ gate ∧ gate ≤ 255 ∧ ∃ quiz,
      (withGate owner questions five (.int gate)).toExcept = .ok quiz ∧
        quiz.owner = owner ∧ quiz.questions = questions ∧ (quiz.gate.val : Int) = gate) := by
  rw [withGate, Rule.byte, Rule.integer, Checked.andThen_accepted]
  by_cases hmin : gate < 0
  · rw [dif_pos hmin]
    exact .inl ⟨hmin, rfl⟩
  rw [dif_neg hmin]
  by_cases hmax : 255 < gate
  · rw [dif_pos hmax]
    exact .inr (.inl ⟨hmax, rfl⟩)
  rw [dif_neg hmax]
  refine .inr (.inr ⟨by omega, by omega, _, rfl, rfl, rfl, ?_⟩)
  change ((gate.toNat : Nat) : Int) = gate
  omega

/-- **What passes the checks is the quiz that was asked for**, and what does not pass is refused for
the first of them that fails. -/
theorem newQuiz_of_checkCall (rules : Rules) (ctx : CallContext) (questions : List Question)
    (key : Answers) (gate : Int) :
    match checkCall rules ctx questions key gate with
    | .error refusal =>
      rules.newQuiz ctx questions key (.int gate) = .error refusal.fault ∧
        refusal.fault.kind = refusal.kind
    | .ok account => ∃ quiz, rules.newQuiz ctx questions key (.int gate) = .ok quiz ∧
        quiz.owner = account ∧ quiz.questions = questions ∧ (quiz.gate.val : Int) = gate := by
  rw [checkCall]
  cases hsigner : ctx.signer with
  | none =>
      have hsender : ctx.sender = .error .unsigned := by rw [CallContext.sender, hsigner]
      rw [Rules.newQuiz, hsender]
      exact ⟨rfl, rfl⟩
  | some account =>
      by_cases hempty : account = ""
      · have hsender : ctx.sender = .error .unsigned := by
          simp only [CallContext.sender, hsigner, if_pos hempty]
        simp only [Rules.newQuiz, hsender, if_pos hempty]
        exact ⟨rfl, rfl⟩
      have hsender : ctx.sender = .ok account :=
        CallContext.sender_eq_ok_iff.mpr ⟨hsigner, hempty⟩
      simp only [Rules.newQuiz, hsender, if_neg hempty, Except.bind]
      by_cases hfive : questions.length = questionsPerQuiz
      case neg =>
        have hcount : questions.length ≠ 5 := hfive
        rw [dif_neg hfive, if_pos hcount]
        exact ⟨rfl, rfl⟩
      have hcount : questions.length = 5 := hfive
      rw [dif_pos hfive, if_neg (not_not.mpr hcount)]
      cases hkey : key.areOptions rules.checksAllAnswers with
      | false =>
          have hrange := mt Answers.areOptions_iff.mpr (ne_true_of_eq_false hkey)
          rw [if_neg Bool.false_ne_true, if_pos hrange]
          exact ⟨rfl, rfl⟩
      | true =>
          rw [if_pos rfl, if_neg (not_not.mpr (Answers.areOptions_iff.mp hkey))]
          obtain ⟨hlow, hgate⟩ | ⟨hhigh, hgate⟩ | ⟨hmin, hmax, quiz, hgate, hparts⟩ :=
            Quiz.withGate_cases account questions hfive gate
          · rw [if_pos hlow]
            exact ⟨hgate, rfl⟩
          · rw [if_neg (by omega), if_pos hhigh]
            exact ⟨hgate, rfl⟩
          · rw [if_neg (by omega), if_neg (by omega)]
            exact ⟨quiz, hgate, hparts⟩

/-! ### The operation comes to the decision -/

namespace Hall

variable {hall : Hall}

/-- The last reason to refuse a creation never applies in a hall to which requests have led: there
is no text in place of a bucket. -/
theorem Reached.hasTextFor {settings : Settings} {hash : HashService} {keepsEvents : Bool}
    {ledger : Ledger} {clock : Int}
    (h : Reached (Rules.ofSettings settings hash keepsEvents) (ofSettings settings ledger clock)
      hall) (bucket : String) : hall.stores.hasTextFor bucket = false := by
  obtain ⟨ids, hids⟩ := h.readable.bucket bucket
  exact Stores.hasTextFor_of_bucket hids

/-- What has to become of a creation, by the decision on it. -/
def CreationComesTo (rules : Rules) (questions : List Question) (key : Answers) (gate : Int)
    (before : Hall) (decision : Except Refusal Registration) (outcome : Except Fault Int)
    (after : Hall) : Prop :=
  match decision with
  | .error refusal => outcome = .error refusal.fault ∧ before.Untouched after
  | .ok registration => outcome = .ok registration.sequence ∧
      before.Registered rules questions key gate registration after

/-- A quiz that was placed, scheduled and counted is registered. -/
theorem registered_of_stored {rules : Rules} {quiz : Quiz} {key : Answers} {latest : Int}
    {bucket : String} {placed stores stores' : Stores} (log : List LogRecord)
    (hnumber : IsU64 (latest + 1))
    (hplaced : hall.stores.createQuiz (rules.idOf (latest + 1)) quiz key = .ok placed)
    (hlist : placed.hasTextFor bucket = false)
    (happend : placed.appendBucket bucket (rules.idOf (latest + 1)) = .ok stores)
    (hput : stores.putCounter (latest + 1) = .ok stores') :
    hall.Registered rules quiz.questions key quiz.gate.val
      { account := quiz.owner, sequence := latest + 1, id := rules.idOf (latest + 1), bucket }
      { hall with
        stores := stores'
        events := hall.events ++ rules.kept [.created (latest + 1) quiz.owner quiz.gate.val]
        log } := by
  have hframe {slot : Slot} (hbucket : slot ≠ .bucket bucket) (hcounter : slot ≠ .counter) :
      placed.AgreeOn stores' slot :=
    (Stores.agreeOn_appendBucket happend hbucket).trans (Stores.agreeOn_putCounter hput hcounter)
  have hcounter : stores'.counter = .ok (latest + 1) := by
    obtain ⟨hmin, hmax⟩ := hnumber
    rw [u64Max] at hmax
    exact Stores.counter_putCounter hput (Fault.lt_unwritable (by omega))
  have hentries : stores'.entriesIn bucket =
      hall.stores.entriesIn bucket ++ [(rules.idOf (latest + 1)).toUTF8] := by
    have hcounted : stores.AgreeOn stores' (.bucket bucket) :=
      Stores.agreeOn_putCounter hput (by simp)
    have hunplaced : hall.stores.AgreeOn placed (.bucket bucket) :=
      Stores.agreeOn_createQuiz hplaced (by simp) (by simp)
    calc stores'.entriesIn bucket = stores.entriesIn bucket := hcounted
      _ = placed.entriesIn bucket ++ [(rules.idOf (latest + 1)).toUTF8] :=
        Stores.entriesIn_appendBucket happend
      _ = _ := congrArg (· ++ _) hunplaced
  constructor
  case quiz =>
    have hquiz : placed.AgreeOn stores' (.quiz (rules.idOf (latest + 1))) :=
      hframe (by simp) (by simp)
    exact ⟨quiz, Eq.trans hquiz (Stores.quiz?_createQuiz hplaced).2, rfl, rfl, rfl⟩
  case key =>
    have hkey : placed.AgreeOn stores' (.solution (rules.idOf (latest + 1))) :=
      hframe (by simp) (by simp)
    exact Eq.trans hkey (Stores.key?_createQuiz hplaced)
  case entries => exact hentries
  case bucket =>
    intro ids hids
    have hreach := Stores.Reachable.of_bucket hids
    have htext := Stores.hasTextFor_of_bucket hids
    rw [Stores.bucket_eq_readTexts hreach htext] at hids
    have hlist' : stores'.hasTextFor bucket = false := by
      rw [Stores.hasTextFor_putCounter hput, Stores.hasTextFor_appendBucket happend, hlist]
    refine (Stores.bucket_eq_readTexts (.of_counter hcounter) hlist').trans ?_
    exact (congrArg _ hentries).trans (KeySpace.readTexts_append hids _)
  case counter => exact hcounter
  case stores =>
    exact fun slot hquiz hkey hbucket hcounter =>
      (Stores.agreeOn_createQuiz hplaced hquiz hkey).trans (hframe hbucket hcounter)
  case ledger => rfl
  case events => rfl
  case clock => rfl
  case outages => rfl

/-- **Entering a quiz under the lock comes to what is decided** about its place. A quiz that was
placed before it is refused is taken out again. -/
theorem ends_enter_decided (rules : Rules) {latest : Int} (quiz : Quiz) (key : Answers)
    (inOrder : ∀ call, hall.outages.find? call = none)
    (hlatest : hall.stores.counter = .ok latest) :
    (Act.enter rules quiz key).Ends hall
      (hall.CreationComesTo rules quiz.questions key quiz.gate.val
        (checkPlace rules hall latest quiz.owner)) := by
  have hsame := Untouched.refl hall
  rw [checkPlace]
  refine .bind (.reading_eq (inOrder .counterGet) hlatest ?_)
  refine .bind (.derive_eq (fun hnone => ?_) fun hnumber => ?_)
  · replace hnone : ¬ (0 ≤ latest + 1 ∧ latest + 1 ≤ 2 ^ (64 : Nat) - 1) := hnone
    rw [if_pos hnone]
    exact ⟨rfl, hsame⟩
  replace hnumber : 0 ≤ latest + 1 ∧ latest + 1 ≤ 2 ^ (64 : Nat) - 1 := hnumber
  rw [if_neg (not_not.mpr hnumber)]
  refine .bind (.place_eq (inOrder .quizCreate) (.of_counter hlatest) (fun hkept log => ?_)
    fun hfree placed hplaced => ?_)
  · rw [if_pos hkept]
    exact ⟨rfl, hsame.withTraces log hall.statements⟩
  rw [if_neg hfree]
  -- The quiz is placed. Whoever refuses it from now on has to take it out again.
  have hundo (e : Fault) : (Act.deleteQuiz (rules.idOf (latest + 1))).Ends
      { hall with stores := placed } (Act.Then (fun _ => (throw e : Act Int))
        fun outcome after => outcome = .error e ∧ hall.Untouched after) := by
    have hback := Stores.deleteQuiz_createQuiz hplaced
    refine .deleteQuiz (fun e' he => ?_) fun stores hstores => ?_
    · cases (he (inOrder .quizDelete)).symm.trans hback
    · exact .fail ⟨rfl, hsame.restored (Except.ok.inj (hstores.symm.trans hback))⟩
  have hcounter : hall.stores.AgreeOn placed .counter :=
    Stores.agreeOn_createQuiz hplaced (by simp) (by simp)
  let due := hall.clock + rules.delay
  have hlatest' : placed.counter = .ok latest := Eq.trans hcounter hlatest
  refine .bind (.rescue (.book_eq inOrder hlatest' (fun hnone => ?_) (fun hdue htext => ?_)
    fun hdue hlist stores stores' log happend hput => ?_))
  · replace hnone : ¬ (0 ≤ due ∧ due ≤ 2 ^ (64 : Nat) - 1) := hnone
    rw [if_pos hnone]
    exact .undo (hundo _)
  · replace hdue : 0 ≤ due ∧ due ≤ 2 ^ (64 : Nat) - 1 := hdue
    have htext' : hall.stores.hasTextFor (rules.idOf due) = true :=
      (Stores.hasTextFor_createQuiz hplaced _).symm.trans htext
    rw [if_neg (not_not.mpr hdue), if_pos htext']
    exact .undo (hundo _)
  · replace hdue : 0 ≤ due ∧ due ≤ 2 ^ (64 : Nat) - 1 := hdue
    have hlist' : hall.stores.hasTextFor (rules.idOf due) = false :=
      (Stores.hasTextFor_createQuiz hplaced _).symm.trans hlist
    rw [if_neg (not_not.mpr hdue), if_neg (ne_true_of_eq_false hlist')]
    refine .bind (.note fun _ => .bind (.publish_eq (inOrder .emit) fun log => .answer ⟨rfl, ?_⟩))
    exact registered_of_stored log hnumber hplaced hlist happend hput

/-- **Every refusal of a creation is of the kind that it is meant to be.** -/
theorem kind_of_decideCreation {rules : Rules} {latest : Int} {ctx : CallContext}
    {questions : List Question} {key : Answers} {gate : Int} {refusal : Refusal}
    (h : decideCreation rules hall latest ctx questions key gate = .error refusal) :
    refusal.fault.kind = refusal.kind := by
  have hcall := newQuiz_of_checkCall rules ctx questions key gate
  rw [decideCreation] at h
  cases hcheck : checkCall rules ctx questions key gate with
  | error refusal' =>
      rw [hcheck] at h hcall
      obtain rfl := Except.error.inj h
      exact hcall.2
  | ok account =>
      rw [hcheck, Except.bind, checkPlace] at h
      split at h
      · obtain rfl := Except.error.inj h
        exact ite_self _
      split at h
      · obtain rfl := Except.error.inj h
        rfl
      split at h
      · obtain rfl := Except.error.inj h
        exact ite_self _
      split at h
      · obtain rfl := Except.error.inj h
        rfl
      · cases h

/-- A creation that passes its checks enters its quiz under the lock, and any other one has not done
anything yet. -/
theorem ends_create_decided (rules : Rules) {latest : Int}
    (inOrder : ∀ call, hall.outages.find? call = none) (hlatest : hall.stores.counter = .ok latest)
    (ctx : CallContext) (questions : List Question) (key : Answers) (gate : Int) :
    (Act.create rules ctx questions key (.int gate)).Ends hall
      (hall.CreationComesTo rules questions key gate
        (decideCreation rules hall latest ctx questions key gate)) := by
  have hcall := newQuiz_of_checkCall rules ctx questions key gate
  cases hcheck : checkCall rules ctx questions key gate with
  | error refusal =>
      rw [hcheck] at hcall
      have hdecision : decideCreation rules hall latest ctx questions key gate = .error refusal :=
        congrArg (Except.bind · _) hcheck
      refine .bind (.ofExcept (fun e he => ?_) fun quiz hquiz => ?_)
      · obtain rfl := Except.error.inj (he.symm.trans hcall.1)
        rw [hdecision]
        exact ⟨rfl, .refl hall⟩
      · cases hquiz.symm.trans hcall.1
  | ok account =>
      rw [hcheck] at hcall
      obtain ⟨quiz, hquiz, rfl, rfl, rfl⟩ := hcall
      have hdecision : decideCreation rules hall latest ctx quiz.questions key quiz.gate.val =
          checkPlace rules hall latest quiz.owner :=
        congrArg (Except.bind · _) hcheck
      refine .bind (.ofExcept (fun e he => ?_) fun quiz' hquiz' => ?_)
      · cases he.symm.trans hquiz
      · obtain rfl := Except.ok.inj (hquiz'.symm.trans hquiz)
        rw [hdecision]
        exact .locked (ends_enter_decided rules _ key inOrder hlatest)

/-- **Every creation comes to what is decided.** In a hall whose counter can be read, a creation
that is refused fails with the fault of the refusal, and leaves the hall untouched. A creation that
is not refused gives the next number: quiz and key are stored under its id, the id stands last in
the bucket of the tick at which the quiz falls due, the counter has moved on to the number, one
event tells of that, and nothing else has changed. -/
theorem create_decided (rules : Rules) {latest : Int}
    (inOrder : ∀ call, hall.outages.find? call = none) (hlatest : hall.stores.counter = .ok latest)
    (ctx : CallContext) (questions : List Question) (key : Answers) (gate : Int) :
    let decision := decideCreation rules hall latest ctx questions key gate
    let result := (Act.create rules ctx questions key (.int gate)).run hall
    hall.CreationComesTo rules questions key gate decision result.1 result.2 ∧
      ∀ refusal, decision = .error refusal → refusal.fault.kind = refusal.kind := by
  intro decision result
  have hends := ends_create_decided rules inOrder hlatest ctx questions key gate
  exact ⟨hends, fun refusal hrefused => kind_of_decideCreation hrefused⟩

/-- In a new hall a quiz is created. At the last tick a quiz is stored and then taken out again,
because there is no tick at which it could fall due. -/
theorem create_decided_new_and_last_tick :
    let rules := Rules.ofSettings default asCharacters true
    let new := ofSettings default
    let call := Act.create rules ⟨some "owner"⟩ (List.replicate 5 default) firstOptions (.int 0)
    ((∀ call, new.outages.find? call = none) ∧ new.stores.counter = .ok 0) ∧
    ((call.run new).1 = .ok 1 ∧
      new.Registered rules (List.replicate 5 default) firstOptions 0
        ⟨"owner", 1, rules.idOf 1, rules.idOf 10⟩ (call.run new).2) ∧
    ((∀ call, atLastTick.outages.find? call = none) ∧ atLastTick.stores.counter = .ok 0) ∧
    (call.run atLastTick).1 = .error (.beyondU64 (2 ^ (64 : Nat) + 9)) ∧
    atLastTick.Untouched (call.run atLastTick).2 := by
  intro rules new call
  have inOrder : ∀ call, new.outages.find? call = none := fun _ => rfl
  have inOrder' : ∀ call, atLastTick.outages.find? call = none := fun _ => rfl
  have hcounter : new.stores.counter = .ok 0 := rfl
  have hcounter' : atLastTick.stores.counter = .ok 0 := rfl
  have hdecision : decideCreation rules new 0 ⟨some "owner"⟩ (List.replicate 5 default) firstOptions
      0 = .ok ⟨"owner", 1, rules.idOf 1, rules.idOf 10⟩ := by decide +kernel
  have hdecision' : decideCreation rules atLastTick 0 ⟨some "owner"⟩ (List.replicate 5 default)
      firstOptions 0 = .error ⟨.badValue, .beyondU64 (2 ^ (64 : Nat) + 9)⟩ := by decide +kernel
  have hnew := create_decided rules inOrder hcounter ⟨some "owner"⟩ (List.replicate 5 default)
    firstOptions 0
  have hlast := create_decided rules inOrder' hcounter' ⟨some "owner"⟩ (List.replicate 5 default)
    firstOptions 0
  rw [hdecision] at hnew
  rw [hdecision'] at hlast
  exact ⟨⟨inOrder, hcounter⟩, hnew.1, ⟨inOrder', hcounter'⟩, hlast.1⟩

/-! ### Where requests lead -/

/-- What speaks against a quiz of an account where requests have led: its number or its tick is out
of range, or its id is taken. -/
def checkReachedPlace (rules : Rules) (hall : Hall) (latest : Int) (account : String) :
    Except Refusal Registration :=
  let sequence := latest + 1
  let due := hall.clock + rules.delay
  let id := rules.idOf sequence
  if ¬ (0 ≤ sequence ∧ sequence ≤ 2 ^ (64 : Nat) - 1) then .error ⟨.badValue, .beyondU64 sequence⟩
  else if hall.stores.keepsQuiz id ∨ hall.stores.keepsKey id then
    .error ⟨.alreadyExists, .idTaken id⟩
  else if ¬ (0 ≤ due ∧ due ≤ 2 ^ (64 : Nat) - 1) then .error ⟨.badValue, .beyondU64 due⟩
  else .ok { account, sequence, id, bucket := rules.idOf due }

/-- **Where requests have led, a creation is refused for the reasons that it can give**, and for no
other: the call has no signer, not five questions, an answer that is none of the options, or a gate
that is no byte; the number of the quiz or its tick is out of range; or its id is taken. Otherwise
the quiz is registered. The counter can always be read there. -/
theorem Reached.creation_decided {settings : Settings} {hash : HashService} {keepsEvents : Bool}
    {ledger : Ledger} {clock : Int}
    (h : Reached (Rules.ofSettings settings hash keepsEvents) (ofSettings settings ledger clock)
      hall)
    (inOrder : ∀ call, hall.outages.find? call = none) (ctx : CallContext)
    (questions : List Question) (key : Answers) (gate : Int) :
    let rules := Rules.ofSettings settings hash keepsEvents
    ∃ latest, hall.stores.counter = .ok latest ∧
      let decision := (checkCall rules ctx questions key gate).bind
        (checkReachedPlace rules hall latest)
      let result := (Act.create rules ctx questions key (.int gate)).run hall
      hall.CreationComesTo rules questions key gate decision result.1 result.2 ∧
        ∀ refusal, decision = .error refusal → refusal.fault.kind = refusal.kind := by
  intro rules
  obtain ⟨latest, hlatest⟩ := h.readable.counter
  have hplace : checkReachedPlace rules hall latest = checkPlace rules hall latest := by
    funext account
    simp only [checkReachedPlace, checkPlace, h.hasTextFor, Bool.false_eq_true, if_false]
  refine ⟨latest, hlatest, ?_⟩
  rw [hplace]
  have hends := ends_create_decided rules inOrder hlatest ctx questions key gate
  exact ⟨hends, fun refusal hrefused => kind_of_decideCreation hrefused⟩

end Hall

end QuizHall
