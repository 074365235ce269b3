import QuizHall.Proofs.Json.RoundTrip
import QuizHall.Proofs.Store.Slots

/-!
# Stored Records

A quiz and its key are stored as compact JSON in UTF-8. This module shows that nothing is lost on
the way: what is stored is not empty, is read back as the same record, and belongs to no other
record. An empty text would read as the absence of a record, so that it does not occur matters as
much as that the text can be read.

## Main results

* `readRecord_ofText`: a record is read back from its text, if its value is plain and not deep.
* `readRecord_quiz`, `readRecord_key`: quizzes and keys are such records.
* `createQuiz_reads_back`: what is stored under a free id is read back from there.
-/

namespace QuizHall

-- Powers are those of the core library, whatever else is imported.
attribute [local instance (2000)] instPowNat

open Json (Value)

/-! ### Texts -/

/-- A text as what a key holds. -/
def Entry.ofText (text : String) : Entry := .bytes text.toUTF8

/-- The bytes of a text are those of no other text. -/
theorem toUTF8_inj {s t : String} (h : s.toUTF8 = t.toUTF8) : s = t := by
  rw [String.toUTF8_eq_toByteArray, String.toUTF8_eq_toByteArray] at h
  exact String.toByteArray_inj.mp h

/-- A text is read back from its bytes. -/
theorem fromUTF8?_toUTF8 (s : String) : String.fromUTF8? s.toUTF8 = some s := by
  have hvalid : s.toUTF8.IsValidUTF8 := s.isValidUTF8
  rw [String.fromUTF8?, dif_pos hvalid]
  rfl

/-- A text that is not empty has bytes. -/
theorem isEmpty_toUTF8 {s : String} (h : s ≠ "") : s.toUTF8.isEmpty = false := by
  rw [Bool.eq_false_iff]
  intro hempty
  have hsize : s.toUTF8.size = 0 := by simpa [ByteArray.isEmpty] using hempty
  refine h (toUTF8_inj ?_)
  rw [ByteArray.size_eq_zero_iff] at hsize
  rw [hsize]
  rfl

/-! ### Records that read back -/

/-- A compact text that can be read is not empty. -/
theorem compact_ne_empty {v : Value} (hplain : v.IsPlain Json.maxWidth) (hdepth : v.depth ≤ 200) :
    v.compact ≠ "" := by
  intro h
  have hread := Json.read_compact hplain hdepth
  have hnone : Json.read "" = none := rfl
  rw [h, hnone] at hread
  exact absurd hread (by simp)

namespace KeySpace

/-- **A record is read back** from the text of its value. -/
theorem readRecord_ofText {α : Type} {rule : Rule α} {v : Value} {a : α}
    (hplain : v.IsPlain Json.maxWidth) (hdepth : v.depth ≤ 200) (hrule : rule v = .accepted a) :
    readRecord rule v.compact.toUTF8 = .ok (some a) := by
  have hne := isEmpty_toUTF8 (compact_ne_empty hplain hdepth)
  simp only [readRecord, hne, Bool.false_eq_true, ↓reduceIte, fromUTF8?_toUTF8, Checked.ofText,
    Json.read_compact hplain hdepth, hrule]
  rfl

end KeySpace

/-! ### Quizzes and keys -/

/-- A byte is written in few characters. -/
theorem isPlain_byte (n : Fin 256) : (Value.int n.val).IsPlain Json.maxWidth := by
  have hlt : (n.val : Int).natAbs < 10 ^ (3 : Nat) := by
    have := n.isLt
    omega
  have hlen : (Integer.chars n.val).length ≤ 4 := Integer.length_chars_le (by decide) hlt
  rw [Value.IsPlain, Json.maxWidth]
  omega

/-- The questions of a quiz are plain records. -/
theorem itemsPlain_questions (qs : List Question) :
    Json.ItemsPlain Json.maxWidth (qs.map Question.toValue) := by
  induction qs with
  | nil => trivial
  | cons q qs ih => exact ⟨by simp [Question.toValue, Value.IsPlain, Json.FieldsPlain], ih⟩

/-- The questions of a quiz hold nothing but texts. -/
theorem itemsDepth_questions (qs : List Question) :
    Json.itemsDepth (qs.map Question.toValue) ≤ 1 := by
  induction qs with
  | nil => exact Nat.zero_le 1
  | cons q qs ih =>
      have hq : q.toValue.depth ≤ 1 := by
        simp [Question.toValue, Value.depth, Json.fieldsDepth]
      rw [List.map_cons, Json.itemsDepth]
      exact max_le hq ih

/-- A quiz is a plain record. -/
theorem Quiz.isPlain_toValue (q : Quiz) : q.toValue.IsPlain Json.maxWidth := by
  have hqs := itemsPlain_questions q.questions
  have hgate := isPlain_byte q.gate
  simp only [Quiz.toValue, Value.IsPlain, Json.FieldsPlain] at hgate ⊢
  exact ⟨trivial, hqs, hgate, trivial⟩

/-- A quiz is a record in a list in a record. -/
theorem Quiz.depth_toValue (q : Quiz) : q.toValue.depth ≤ 200 := by
  have hqs := itemsDepth_questions q.questions
  have hlist : (Value.list (q.questions.map Question.toValue)).depth ≤ 2 := by
    cases hmap : q.questions.map Question.toValue with
    | nil => rw [Value.depth]; omega
    | cons v vs =>
        rw [hmap, Json.itemsDepth] at hqs
        rw [Value.depth]
        omega
  rw [Quiz.toValue, Value.depth, Json.fieldsDepth, Json.fieldsDepth, Json.fieldsDepth, Value.depth,
    Value.depth]
  omega

/-- A key is a plain record. -/
theorem Answers.isPlain_toValue (a : Answers) : a.toValue.IsPlain Json.maxWidth :=
  ⟨isPlain_byte _, isPlain_byte _, isPlain_byte _, isPlain_byte _, isPlain_byte _, trivial⟩

/-- A key is a record without lists and records in it. -/
theorem Answers.depth_toValue (a : Answers) : a.toValue.depth ≤ 200 := by
  simp [Answers.toValue, Value.depth, Json.fieldsDepth]

namespace KeySpace

/-- A quiz is read back from its text. -/
theorem readRecord_quiz (q : Quiz) :
    readRecord (Quiz.ofValue .json) q.toValue.compact.toUTF8 = .ok (some q) :=
  readRecord_ofText q.isPlain_toValue q.depth_toValue (Quiz.ofValue_toValue .json q)

/-- A key is read back from its text. -/
theorem readRecord_key (a : Answers) :
    readRecord (Answers.ofValue .json) a.toValue.compact.toUTF8 = .ok (some a) :=
  readRecord_ofText a.isPlain_toValue a.depth_toValue (Answers.ofValue_toValue .json a)

/-- What a slot holds after a text was put into one. -/
theorem find?_putText (ks : KeySpace) (s t : Slot) (text : String) :
    (ks.putText s.name text).find? t.name =
      if t = s then some (Entry.ofText text) else ks.find? t.name :=
  Slot.find?_insert ks s t _

/-- The bytes in a slot that holds a text. -/
theorem bytes?_ofText {ks : KeySpace} {name text : String}
    (h : ks.find? name = some (Entry.ofText text)) : ks.bytes? name = .ok (some text.toUTF8) := by
  rw [bytes?, h]
  rfl

/-- The record in a slot that holds a text is what can be read from the text. -/
theorem record?_ofText {α : Type} {ks : KeySpace} {name text : String} (rule : Rule α)
    (h : ks.find? name = some (Entry.ofText text)) :
    ks.record? rule name = readRecord rule text.toUTF8 := by
  rw [record?, bytes?_ofText h]
  rfl

/-- An empty slot holds no record. -/
theorem record?_of_none {α : Type} {ks : KeySpace} {name : String} (rule : Rule α)
    (h : ks.find? name = none) : ks.record? rule name = .ok none := by
  rw [record?, bytes?, h]
  rfl

/-- A slot that holds the text of a quiz is read as that quiz. -/
theorem quiz?_ofText {ks : KeySpace} {id : String} {q : Quiz}
    (h : ks.find? (Key.quiz id) = some (Entry.ofText q.toValue.compact)) :
    ks.quiz? id = .ok (some q) := by
  rw [quiz?, record?_ofText _ h]
  exact readRecord_quiz q

/-- A slot that holds the text of a key is read as that key. -/
theorem key?_ofText {ks : KeySpace} {id : String} {a : Answers}
    (h : ks.find? (Key.solution id) = some (Entry.ofText a.toValue.compact)) :
    ks.key? id = .ok (some a) := by
  rw [key?, record?_ofText _ h]
  exact readRecord_key a

/-- A quiz can be stored under an id at which neither a quiz nor a key is found. -/
theorem createQuiz_of_free {ks : KeySpace} {id : String} (quiz : Quiz) (key : Answers)
    (hquiz : ks.find? (Key.quiz id) = none) (hkey : ks.find? (Key.solution id) = none) :
    ks.createQuiz id quiz key = .ok ((ks.putText (Key.quiz id) quiz.toValue.compact).putText
      (Key.solution id) key.toValue.compact) := by
  rw [createQuiz, Table.contains, Table.contains, hquiz, hkey]
  rfl

/-- What a slot holds after a quiz and its key were stored. -/
theorem find?_stored (ks : KeySpace) (id quizText keyText : String) (t : Slot) :
    ((ks.putText (Key.quiz id) quizText).putText (Key.solution id) keyText).find? t.name =
      if t = .solution id then some (Entry.ofText keyText)
      else if t = .quiz id then some (Entry.ofText quizText) else ks.find? t.name := by
  have hkey := find?_putText (ks.putText (Key.quiz id) quizText) (.solution id) t keyText
  have hquiz := find?_putText ks (.quiz id) t quizText
  rw [← hquiz]
  exact hkey

/-- **What is stored under a free id is read back from there.** The text of a quiz and the text of
its key are not empty; under the id of the quiz both are found as they were written, and read as
the records they were written from; and no other quiz, nor any other key, has the same text. -/
theorem createQuiz_reads_back {ks : KeySpace} {id : String} (quiz : Quiz) (key : Answers)
    (hquiz : ks.find? (Key.quiz id) = none) (hkey : ks.find? (Key.solution id) = none) :
    quiz.toValue.compact.toUTF8.isEmpty = false ∧ key.toValue.compact.toUTF8.isEmpty = false ∧
    (∃ ks', ks.createQuiz id quiz key = .ok ks' ∧
      ks'.find? (Key.quiz id) = some (.bytes quiz.toValue.compact.toUTF8) ∧
      ks'.find? (Key.solution id) = some (.bytes key.toValue.compact.toUTF8) ∧
      ks'.quiz? id = .ok (some quiz) ∧ ks'.key? id = .ok (some key)) ∧
    (∀ quiz' : Quiz, quiz'.toValue.compact.toUTF8 = quiz.toValue.compact.toUTF8 → quiz' = quiz) ∧
    (∀ key' : Answers, key'.toValue.compact.toUTF8 = key.toValue.compact.toUTF8 → key' = key) := by
  have hquizText := isEmpty_toUTF8 (compact_ne_empty quiz.isPlain_toValue quiz.depth_toValue)
  have hkeyText := isEmpty_toUTF8 (compact_ne_empty key.isPlain_toValue key.depth_toValue)
  have hfind := find?_stored ks id quiz.toValue.compact key.toValue.compact
  have hfindQuiz := (hfind (.quiz id)).trans ((if_neg (by simp)).trans (if_pos rfl))
  have hfindKey := (hfind (.solution id)).trans (if_pos rfl)
  refine ⟨hquizText, hkeyText, ⟨_, createQuiz_of_free quiz key hquiz hkey, hfindQuiz, hfindKey,
    quiz?_ofText hfindQuiz, key?_ofText hfindKey⟩, ?_, ?_⟩
  · intro quiz' h
    have hread := readRecord_quiz quiz'
    rw [h, readRecord_quiz quiz] at hread
    exact (Option.some.inj (Except.ok.inj hread)).symm
  · intro key' h
    have hread := readRecord_key key'
    rw [h, readRecord_key key] at hread
    exact (Option.some.inj (Except.ok.inj hread)).symm

/-- A question whose texts need every kind of escape, or none at all. -/
def awkwardQuestion : Question :=
  ⟨"a \x22quoted\x22 \\ text", "", "\x00\x08\x09\x0a\x0c\x0d\x1f", "\x7f", "é 漢 😀"⟩

/-- Quotation marks, backslashes, control characters, the empty text and characters beyond ASCII
all come back from an empty key space. -/
theorem createQuiz_reads_back_awkward :
    (Table.empty : KeySpace).find? (Key.quiz "00") = none ∧
    (Table.empty : KeySpace).find? (Key.solution "00") = none ∧
    ∃ ks', createQuiz Table.empty "00"
        ⟨"\x22", List.replicate 5 awkwardQuestion, 255, rfl⟩ ⟨1, 2, 3, 4, 0⟩ = .ok ks' ∧
      ks'.quiz? "00" = .ok (some ⟨"\x22", List.replicate 5 awkwardQuestion, 255, rfl⟩) ∧
      ks'.key? "00" = .ok (some ⟨1, 2, 3, 4, 0⟩) := by
  have hfree : (Table.empty : KeySpace).find? (Key.quiz "00") = none := rfl
  have hfreeKey : (Table.empty : KeySpace).find? (Key.solution "00") = none := rfl
  obtain ⟨-, -, ⟨ks', hcreate, -, -, hquiz, hkey⟩, -, -⟩ :=
    createQuiz_reads_back ⟨"\x22", List.replicate 5 awkwardQuestion, 255, rfl⟩ ⟨1, 2, 3, 4, 0⟩
      hfree hfreeKey
  exact ⟨hfree, hfreeKey, ks', hcreate, hquiz, hkey⟩

end KeySpace

end QuizHall
