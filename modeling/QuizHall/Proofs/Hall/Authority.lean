import QuizHall.Proofs.Hall.Creation
import QuizHall.Proofs.Hall.Ending
import QuizHall.Proofs.Ledger

/-!
# Authority Is Confined to the Signer

Whoever signs a call can change what belongs to the signer, and nothing that belongs to anybody
else. The ratings of others stay what they were, their balances do not fall, their quizzes and the
keys of their quizzes are left alone, and no bucket loses an entry. What the signer pays is what the
others get.

This is so in every state of a hall, be it one that a run can come to or not, whatever calls are out
of order, and whether the call succeeds or fails. In particular ids may coincide: a creation whose
id is taken by a quiz of somebody else is refused before anything is stored, and so the removal that
undoes a creation never meets anything but the quiz that was just stored.

## Main results

* `Stores.Spares`, `Ledger.Spares`: nothing of the others is touched, in the stores and in the
  ledger.
* `confined_to_signer`: a call touches nothing that does not belong to its signer.
-/

namespace QuizHall

/-! ### In the stores -/

/-- A change of the stores **spares** everybody but an account if the ratings of the others, their
quizzes and the keys of their quizzes are left as they were, and buckets only grow. -/
structure Stores.Spares (account : String) (before after : Stores) : Prop where
  /-- The rating of anybody else reads as before. -/
  rating : ∀ other, other ≠ account → after.rating other = before.rating other
  /-- A quiz of anybody else reads as before, and so does its key. -/
  quiz : ∀ id quiz, before.quiz? id = .ok (some quiz) → quiz.owner ≠ account →
    after.quiz? id = .ok (some quiz) ∧ after.key? id = before.key? id
  /-- A bucket has the entries that it had, in their order, and perhaps some more ids after them. -/
  bucket : ∀ bucket, ∃ ids : List String,
    after.entriesIn bucket = before.entriesIn bucket ++ ids.map String.toUTF8

namespace Stores.Spares

variable {account : String} {s s' s'' : Stores}

/-- Whatever reads the same as before is spared. -/
theorem of_agreeOn (hrating : ∀ other, other ≠ account → s.AgreeOn s' (.rating other))
    (hquiz : ∀ id quiz, s.quiz? id = .ok (some quiz) → quiz.owner ≠ account →
      s.AgreeOn s' (.quiz id) ∧ s.AgreeOn s' (.solution id))
    (hbucket : ∀ bucket, s.AgreeOn s' (.bucket bucket)) : s.Spares account s' := by
  refine ⟨hrating, fun id quiz hfind howner => ?_, fun bucket => ⟨[], ?_⟩⟩
  · obtain ⟨hsame, hkey⟩ := hquiz id quiz hfind howner
    exact ⟨Eq.trans hsame hfind, hkey⟩
  · rw [List.map_nil, List.append_nil]
    exact hbucket bucket

theorem refl (account : String) (s : Stores) : s.Spares account s :=
  of_agreeOn (fun _ _ => rfl) (fun _ _ _ _ => ⟨rfl, rfl⟩) fun _ => rfl

theorem trans (h : s.Spares account s') (h' : s'.Spares account s'') : s.Spares account s'' := by
  refine ⟨fun other hother => ?_, fun id quiz hfind howner => ?_, fun bucket => ?_⟩
  · rw [h'.rating other hother, h.rating other hother]
  · obtain ⟨hfind', hkey⟩ := h.quiz id quiz hfind howner
    obtain ⟨hfind'', hkey'⟩ := h'.quiz id quiz hfind' howner
    exact ⟨hfind'', hkey'.trans hkey⟩
  · obtain ⟨ids, hids⟩ := h.bucket bucket
    obtain ⟨ids', hids'⟩ := h'.bucket bucket
    exact ⟨ids ++ ids', by rw [hids', hids, List.map_append, List.append_assoc]⟩

/-- A quiz is stored only where no quiz of anybody was. -/
theorem createQuiz {id : String} {quiz : Quiz} {key : Answers}
    (h : s.createQuiz id quiz key = .ok s') : s.Spares account s' := by
  refine of_agreeOn (fun other _ => agreeOn_createQuiz h (by simp) (by simp))
    (fun id' quiz' hfind _ => ?_) fun bucket => agreeOn_createQuiz h (by simp) (by simp)
  have hne : id' ≠ id := by
    rintro rfl
    rw [(quiz?_createQuiz h).1] at hfind
    cases hfind
  exact ⟨agreeOn_createQuiz h (by simpa using hne) (by simp),
    agreeOn_createQuiz h (by simp) (by simpa using hne)⟩

/-- Removing a quiz of the account spares the others. -/
theorem deleteQuiz {id : String} (h : s.deleteQuiz id = .ok s')
    (hown : ∀ quiz, s.quiz? id = .ok (some quiz) → quiz.owner = account) :
    s.Spares account s' := by
  refine of_agreeOn (fun other _ => agreeOn_deleteQuiz h (by simp) (by simp))
    (fun id' quiz hfind howner => ?_) fun bucket => agreeOn_deleteQuiz h (by simp) (by simp)
  have hne : id' ≠ id := by
    rintro rfl
    exact howner (hown quiz hfind)
  exact ⟨agreeOn_deleteQuiz h (by simpa using hne) (by simp),
    agreeOn_deleteQuiz h (by simp) (by simpa using hne)⟩

/-- Appending to a bucket takes nothing away. -/
theorem appendBucket {bucket id : String} (h : s.appendBucket bucket id = .ok s') :
    s.Spares account s' := by
  have hframe {slot : Slot} (hne : slot ≠ .bucket bucket) : s.AgreeOn s' slot :=
    agreeOn_appendBucket h hne
  refine ⟨fun other _ => hframe (by simp : Slot.rating other ≠ _), fun id' quiz hfind _ => ?_,
    fun bucket' => ?_⟩
  · have hquiz : s.AgreeOn s' (.quiz id') := hframe (by simp)
    exact ⟨Eq.trans hquiz hfind, hframe (by simp : Slot.solution id' ≠ _)⟩
  · by_cases hne : bucket' = bucket
    · refine ⟨[id], ?_⟩
      rw [hne, entriesIn_appendBucket h]
      rfl
    · refine ⟨[], ?_⟩
      have hsame : s.AgreeOn s' (.bucket bucket') := hframe (by simpa using hne)
      rw [List.map_nil, List.append_nil]
      exact hsame

/-- Moving the counter takes nothing away. -/
theorem putCounter {n : Int} (h : s.putCounter n = .ok s') : s.Spares account s' :=
  of_agreeOn (fun _ _ => agreeOn_putCounter h (by simp))
    (fun _ _ _ _ => ⟨agreeOn_putCounter h (by simp), agreeOn_putCounter h (by simp)⟩)
    fun _ => agreeOn_putCounter h (by simp)

/-- Storing the rating of the account spares the others. -/
theorem saveRating {n : Int} (h : s.saveRating account n = .ok s') : s.Spares account s' :=
  of_agreeOn (fun _ hother => agreeOn_saveRating h (by simpa using hother))
    (fun _ _ _ _ => ⟨agreeOn_saveRating h (by simp), agreeOn_saveRating h (by simp)⟩)
    fun _ => agreeOn_saveRating h (by simp)

end Stores.Spares

/-! ### In the ledger -/

/-- A change of the ledger **spares** everybody but an account if nobody else has less than before,
and what the account has less is just what all the others together have more. -/
structure Ledger.Spares (account : String) (before after : Ledger) : Prop where
  /-- Nobody else has less. -/
  balance : ∀ other, other ≠ account → before.balance other ≤ after.balance other
  /-- What the account pays is what the others get. -/
  debit : before.balance account - after.balance account =
    after.totalBut account - before.totalBut account

theorem Ledger.Spares.refl (account : String) (l : Ledger) : l.Spares account l :=
  ⟨fun _ _ => Int.le_refl _, by omega⟩

/-- A payment spares everybody but the payer. -/
theorem Paid.spares {before after : Ledger} {payer owner : String} {amount : Int}
    (h : Paid before payer owner amount after) : before.Spares payer after := by
  cases h with
  | nothing hzero => exact .refl payer before
  | moved hne hfree htransfer =>
      obtain ⟨hamount, rfl⟩ := Ledger.transfer_eq_ok hne htransfer
      refine ⟨fun other hother => before.balance_le_balance_move hamount hother, ?_⟩
      have htotal := before.total_move payer owner amount
      rw [Ledger.total_eq _ payer, before.total_eq payer] at htotal
      omega

namespace Hall

/-! ### In a hall -/

/-- What happens to a hall **spares** everybody but an account if the stores and the ledger do. -/
structure Spares (account : String) (before after : Hall) : Prop where
  /-- Nothing of the others is touched in the stores. -/
  stores : before.stores.Spares account after.stores
  /-- The others do not pay. -/
  ledger : before.ledger.Spares account after.ledger

variable {account : String} {before hall : Hall}

theorem Spares.refl (account : String) (hall : Hall) : hall.Spares account hall :=
  ⟨.refl account hall.stores, .refl account hall.ledger⟩

/-- A deletion removes nothing but a quiz of the caller. -/
theorem spares_deleteBy (rules : Rules) (account : String) (sequence : Int) (hall : Hall) :
    (Act.deleteBy rules account sequence).Ends hall fun _ after => hall.Spares account after := by
  have hsame := Spares.refl account hall
  refine .deleteBy (fun _ => hsame) fun id quiz stores log hquiz howner hdelete => ?_
  refine ⟨.deleteQuiz hdelete fun quiz' hquiz' => ?_, hsame.ledger⟩
  rw [howner, Option.some.inj (Except.ok.inj (hquiz'.symm.trans hquiz))]

/-- An attempt is paid by the caller and changes the rating of the caller. -/
theorem spares_attemptBy (rules : Rules) (account : String) (sequence : Int)
    (submission : Answers) (hall : Hall) :
    (Act.attemptBy rules account sequence submission).Ends hall
      fun _ after => hall.Spares account after := by
  have hsame := Spares.refl account hall
  refine .attemptBy (fun _ _ => ⟨hsame.stores, hsame.ledger⟩)
    (fun e owner amount prior rated ledger log statements hpaid _ _ => ?_)
    fun score owner amount rated stores ledger events log statements hpaid hsave => ?_
  · exact ⟨hsame.stores, hpaid.spares⟩
  · exact ⟨.saveRating hsave, hpaid.spares⟩

/-- Undoing a creation removes nothing but the quiz that was created. -/
theorem spares_undo {id : String} {e : Fault} (h : before.Spares account hall)
    (hown : ∀ quiz, hall.stores.quiz? id = .ok (some quiz) → quiz.owner = account) :
    (Act.deleteQuiz id).Ends hall
      (Act.Then (fun _ => (throw e : Act Int)) fun _ after => before.Spares account after) := by
  refine .deleteQuiz (fun _ _ => h) fun stores hdelete => .fail ?_
  exact ⟨h.stores.trans (.deleteQuiz hdelete hown), h.ledger⟩

/-- A creation stores a quiz of the caller under an id that nobody used, or takes it out again. -/
theorem spares_enter (rules : Rules) {quiz : Quiz} (howner : quiz.owner = account) (key : Answers)
    (hall : Hall) :
    (Act.enter rules quiz key).Ends hall fun _ after => hall.Spares account after := by
  have hsame := Spares.refl account hall
  have hmine {id : String} {placed stores : Stores}
      (hplaced : hall.stores.createQuiz id quiz key = .ok placed)
      (hsame' : placed.AgreeOn stores (.quiz id)) (quiz' : Quiz)
      (hquiz' : stores.quiz? id = .ok (some quiz')) : quiz'.owner = account := by
    have hfind : stores.quiz? id = .ok (some quiz) :=
      Eq.trans hsame' (Stores.quiz?_createQuiz hplaced).2
    rw [← howner, Option.some.inj (Except.ok.inj (hquiz'.symm.trans hfind))]
  refine .enter (fun _ _ => ⟨hsame.stores, hsame.ledger⟩) (fun id placed e hplaced => ?_)
    (fun n id bucket placed stores log e _ hplaced happend _ => ?_)
    fun n id bucket placed stores stores' events log hplaced happend hput => ?_
  · exact spares_undo ⟨.createQuiz hplaced, hsame.ledger⟩ (hmine hplaced (.refl placed _))
  · exact spares_undo ⟨(Stores.Spares.createQuiz hplaced).trans (.appendBucket happend),
      hsame.ledger⟩ (hmine hplaced (Stores.agreeOn_appendBucket happend (by simp)))
  · exact ⟨(Stores.Spares.createQuiz hplaced).trans
      ((Stores.Spares.appendBucket happend).trans (.putCounter hput)), hsame.ledger⟩

/-- **Authority is confined to the signer.** Whatever state a hall is in and whatever comes of a
call, a creation, an attempt or a deletion spares everybody but the account that signed it. -/
theorem confined_to_signer (rules : Rules) (hall : Hall) (account : String) :
    (∀ questions key gate,
      hall.Spares account
        ((Act.create rules ⟨some account⟩ questions key gate).run hall).2) ∧
    (∀ sequence submission,
      hall.Spares account ((Act.attempt rules ⟨some account⟩ sequence submission).run hall).2) ∧
    ∀ sequence, hall.Spares account ((Act.delete rules ⟨some account⟩ sequence).run hall).2 := by
  have hsame := Spares.refl account hall
  have hsender {sender : String} (h : CallContext.sender ⟨some account⟩ = .ok sender) :
      sender = account :=
    (Option.some.inj (CallContext.sender_eq_ok_iff.mp h).1).symm
  refine ⟨fun questions key gate => ?_, fun sequence submission => ?_, fun sequence => ?_⟩
  · have hends : (Act.create rules ⟨some account⟩ questions key gate).Ends hall
        fun _ after => hall.Spares account after := by
      refine .bind (.ofExcept (fun _ _ => hsame) fun quiz hquiz => ?_)
      exact .locked (spares_enter rules (hsender (Rules.newQuiz_eq_ok hquiz).1) key hall)
    exact hends
  · have hends : (Act.attempt rules ⟨some account⟩ sequence submission).Ends hall
        fun _ after => hall.Spares account after := by
      refine .bind (.ofExcept (fun _ _ => hsame) fun sender h => ?_)
      obtain rfl := hsender h
      exact .locked (spares_attemptBy rules sender sequence submission hall)
    exact hends
  · have hends : (Act.delete rules ⟨some account⟩ sequence).Ends hall
        fun _ after => hall.Spares account after := by
      refine .bind (.ofExcept (fun _ _ => hsame) fun sender h => ?_)
      obtain rfl := hsender h
      exact .locked (spares_deleteBy rules sender sequence hall)
    exact hends

end Hall

end QuizHall
