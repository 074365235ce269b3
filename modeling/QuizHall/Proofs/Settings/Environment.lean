import Mathlib.Data.List.Nodup
import QuizHall.Proofs.Json.Tokens
import QuizHall.Settings.Environment

/-!
# Settings Survive the Environment

Settings are written to an environment by giving every variable the text of its setting: words for
the backends, decimal digits for numbers, `true` or `false` for the flag, and texts as they are. An
environment in which this was done asks for just these settings. So no two variables are mixed up,
and no text is read as something else than what was written.

A setting that is at its default can be left out, or written as nothing at all, which is the same.
This is why an empty password need not be told from none, and why no other text may be empty.

What decides about the settings is the value of each variable that has one, so an environment can
lose the variables that are empty and those that nobody looks at.

## Main definitions

* `Settings.written`: the variables of settings, with the text of each.
* `Settings.Writable`: settings that can be written to an environment.
* `Environment.without`: an environment that has lost some of its variables.

## Main results

* `LenientInteger.read_chars`: an integer is read from its digits, also where more is allowed.
* `Settings.field?_formOfEnvironment`: a field is set by its own variable, and by no other.
* `Settings.ofEnvironment_congr`: what the settings of an environment depend on.
* `Settings.environment_gives_back`: settings survive the environment.
-/

namespace QuizHall

-- Powers are those of the core library, whatever else is imported.
attribute [local instance (2000)] instPowNat

open Json (Value)

/-! ### Words and numbers -/

/-- An integer is not written as nothing. -/
theorem Integer.text_ne_empty (n : Int) : text n ≠ "" := by
  intro hempty
  have hchars : chars n = [] := by simpa [text] using congrArg String.toList hempty
  have hread : read [] = some n := hchars ▸ read_chars n
  cases hread

/-- An integer is read from its digits, if these are not too many. -/
theorem LenientInteger.read_chars {n : Int} (h : (Integer.chars n).length ≤ Json.maxWidth) :
    LenientInteger.read (Integer.chars n) = .ok n := by
  rw [LenientInteger.read, Json.plainInteger_chars h]

namespace Rule

variable {α : Type}

/-- A word is taken for what it names. -/
theorem oneOf_text {choices : List (String × α)} {word : String} {a : α}
    (h : choices.lookup word = some a) : oneOf choices (.text word) = .accepted a := by
  simp only [oneOf, h]

/-- The text of an integer is taken for the integer. -/
theorem integer_text {n : Int} (h : (Integer.chars n).length ≤ Json.maxWidth) :
    integer (.text (Integer.text n)) = .accepted n := by
  rw [integer, readInteger, Integer.text, String.toList_ofList, LenientInteger.read_chars h]

/-- So it is where the integer has a least value, if it is not below that. -/
theorem atLeast_text {least : Int} (n : { n : Int // least ≤ n })
    (h : (Integer.chars n.val).length ≤ Json.maxWidth) :
    atLeast least (.text (Integer.text n.val)) = .accepted n := by
  rw [atLeast, integer_text h, Checked.andThen_accepted, dif_pos n.property]

end Rule

/-- The word of a storage backend names it. -/
theorem StorageBackend.rule_word (b : StorageBackend) : rule (.text b.word) = .accepted b := by
  cases b <;> exact Rule.oneOf_text (by decide)

/-- The word of a rating backend names it. -/
theorem RatingBackend.rule_word (b : RatingBackend) : rule (.text b.word) = .accepted b := by
  cases b <;> exact Rule.oneOf_text (by decide)

/-! ### The fields of a form -/

namespace Json

/-- A name that no field has leads to nothing. -/
theorem field?_eq_none {name : String} {fields : List (String × Value)}
    (h : name ∉ fields.map Prod.fst) : field? name fields = none := by
  induction fields with
  | nil => rfl
  | cons p r ih =>
      rw [List.map_cons, List.mem_cons, not_or] at h
      rw [field?, ih h.2, if_neg (Ne.symm h.1)]
      rfl

/-- In two lists of fields, one behind the other, the second one comes first. -/
theorem field?_append (name : String) (fields more : List (String × Value)) :
    field? name (fields ++ more) = (field? name more).or (field? name fields) := by
  induction fields with
  | nil => rw [List.nil_append, field?, Option.or_none]
  | cons p r ih => rw [List.cons_append, field?, ih, field?, Option.or_assoc]

end Json

namespace Settings

variable {env env' : Environment}

/-- Every variable that settings are read from. -/
def recognised : List String := flagVariable :: fieldVariables.map Prod.snd

/-- The texts of some variables, under the names of their fields. A field is among them just if its
variable has a value. -/
theorem field?_filterMap {fields : List (String × String)} (hnodup : (fields.map Prod.fst).Nodup)
    {field name : String} (hmem : (field, name) ∈ fields) (env : Environment) :
    Json.field? field (fields.filterMap fun p => (env.value? p.2).map fun s => (p.1, .text s)) =
      (env.value? name).map Value.text := by
  induction fields with
  | nil => cases hmem
  | cons p r ih =>
      obtain ⟨hp, hr⟩ := List.nodup_cons.mp hnodup
      -- What the other variables set are other fields.
      have hnames : ∀ other, other ∉ r.map Prod.fst → Json.field? other
          (r.filterMap fun p => (env.value? p.2).map fun s => (p.1, .text s)) = none := by
        intro other hother
        refine Json.field?_eq_none fun hmem => hother ?_
        obtain ⟨⟨other', v⟩, hv, rfl⟩ := List.mem_map.mp hmem
        obtain ⟨q, hq, hset⟩ := List.mem_filterMap.mp hv
        obtain ⟨s, -, heq⟩ := Option.map_eq_some_iff.mp hset
        exact List.mem_map.mpr ⟨q, hq, congrArg Prod.fst heq⟩
      rcases List.mem_cons.mp hmem with rfl | hmem
      · cases hvalue : env.value? name with
        | none =>
            rw [List.filterMap_cons_none (by rw [hvalue]; rfl), hnames field hp]
            rfl
        | some s =>
            rw [List.filterMap_cons_some (by rw [hvalue]; rfl), Json.field?, hnames field hp,
              if_pos rfl]
            rfl
      · have hne : p.1 ≠ field := by
          rintro rfl
          exact hp (List.mem_map.mpr ⟨_, hmem, rfl⟩)
        cases hvalue : env.value? p.2 with
        | none =>
            rw [List.filterMap_cons_none (by rw [hvalue]; rfl)]
            exact ih hr hmem
        | some s =>
            rw [List.filterMap_cons_some (by rw [hvalue]; rfl), Json.field?, if_neg hne,
              Option.or_none]
            exact ih hr hmem

/-- **A field is set by its own variable**, and by no other. -/
theorem field?_formOfEnvironment {field name : String} (hmem : (field, name) ∈ fieldVariables)
    (env : Environment) :
    Json.field? field (formOfEnvironment env) = (env.value? name).map Value.text := by
  have hflag : ∀ v? : Option Value,
      Json.field? field (v?.map fun v => ("validate_all_answers", v)).toList = none := by
    have hne : ∀ p ∈ fieldVariables, p.1 ≠ "validate_all_answers" := by decide
    intro v?
    refine Json.field?_eq_none fun hin => ?_
    obtain ⟨⟨other, v⟩, hv, rfl⟩ := List.mem_map.mp hin
    obtain ⟨v', -, heq⟩ := Option.map_eq_some_iff.mp (Option.mem_toList.mp hv)
    exact hne _ hmem (congrArg Prod.fst heq).symm
  have hflag' := hflag ((env.value? flagVariable).map fun s => .flag (isYes s))
  rw [Option.map_map] at hflag'
  rw [formOfEnvironment, Json.field?_append, field?_filterMap (by decide) hmem]
  exact (congrArg (Option.or · _) hflag').trans (Option.none_or)

/-- **What the settings of an environment depend on**: the values of the variables that settings are
read from. -/
theorem ofEnvironment_congr (h : ∀ name ∈ recognised, env.value? name = env'.value? name) :
    ofEnvironment env = ofEnvironment env' := by
  have hform : formOfEnvironment env = formOfEnvironment env' := by
    rw [formOfEnvironment, formOfEnvironment, h flagVariable List.mem_cons_self]
    refine congrArg (· ++ _) (List.filterMap_congr fun p hp => ?_)
    rw [h p.2 (List.mem_cons_of_mem _ (List.mem_map_of_mem hp))]
  rw [ofEnvironment, hform, ofEnvironment]

/-! ### Losing variables -/

end Settings

/-- An environment that has lost some of its variables. -/
def Environment.without (env : Environment) (removed : String → Bool) : Environment := fun name =>
  if removed name then none else env name

namespace Settings

variable {env : Environment}

/-! ### Writing settings -/

/-- The variables of settings, with the text of each. The length of a tick is left out: it is no
integer, and how doubles are written is a matter of its own. -/
def written (s : Settings) : List (String × String) :=
  [("QUIZ_STORAGE_BACKEND", s.storageBackend.word),
   ("QUIZ_RATING_BACKEND", (s.ratingBackend.map RatingBackend.word).getD ""),
   ("REDIS_HOST", s.redisHost),
   ("REDIS_PORT", Integer.text s.redisPort),
   ("REDIS_DB", Integer.text s.redisDb),
   ("DB_HOST", s.dbHost),
   ("DB_PORT", Integer.text s.dbPort),
   ("DB_USER", s.dbUser),
   ("DB_PASSWORD", s.dbPassword),
   ("DB_NAME", s.dbName),
   ("QUIZ_DELETION_DELAY", Integer.text s.deletionDelay),
   ("QUIZ_TOKENS_PER_QUESTION", Integer.text s.tokensPerQuestion),
   ("QUIZ_VALIDATE_ALL_ANSWERS", if s.validateAllAnswers then "true" else "false"),
   ("QUIZ_LOG_FILE", s.logFile.getD "")]

/-- Settings are **writable** if each of them has a text that is not taken for the absence of one:
no text is empty but that of the password, which is so by default. Numbers have no more digits than
are read, and the length of a tick, which is not written, is the default. -/
structure Writable (s : Settings) : Prop where
  /-- Hosts and names are not empty. -/
  texts : ∀ text ∈ [s.redisHost, s.dbHost, s.dbUser, s.dbName], text ≠ ""
  /-- There is a log file, and its name is not empty. -/
  logFile : ∃ file, s.logFile = some file ∧ file ≠ ""
  /-- No number has too many digits. -/
  numbers : ∀ n ∈ [s.redisPort, s.redisDb, s.dbPort, s.deletionDelay, s.tokensPerQuestion],
    (Integer.chars n).length ≤ Json.maxWidth
  /-- A tick takes as long as it does by default. -/
  tickSeconds : s.tickSeconds = (default : Settings).tickSeconds

/-- A field that has a variable is read from its text; if the text is empty, the field is at its
default. -/
theorem withDefault_of_text {α : Type} {field name text : String} {rule : Rule α} {a base : α}
    (hmem : (field, name) ∈ fieldVariables) (hset : env name = some text)
    (hempty : text = "" → base = a) (hread : text ≠ "" → rule (.text text) = .accepted a) :
    (formOfEnvironment env).withDefault field rule base = .accepted a := by
  have hvalue : env.value? name = if text = "" then none else some text := by
    rw [Environment.value?, hset, Option.filter_some]
    by_cases htext : text = "" <;> simp [htext]
  rw [Form.withDefault, field?_formOfEnvironment hmem, hvalue]
  by_cases htext : text = ""
  · rw [if_pos htext, hempty htext]
    rfl
  · rw [if_neg htext]
    exact congrArg (Checked.under _) (hread htext)

/-- A field whose variable has no value is at its default. -/
theorem withDefault_of_none {α : Type} {field name : String} {rule : Rule α} {base : α}
    (hmem : (field, name) ∈ fieldVariables) (hunset : env.value? name = none) :
    (formOfEnvironment env).withDefault field rule base = .accepted base := by
  rw [Form.withDefault, field?_formOfEnvironment hmem, hunset]
  rfl

/-- The flag is read from its word. -/
theorem withDefault_flag {b base : Bool}
    (hset : env flagVariable = some (if b then "true" else "false")) :
    (formOfEnvironment env).withDefault "validate_all_answers" Rule.flag base = .accepted b := by
  have hvalue : env.value? flagVariable = some (if b then "true" else "false") := by
    rw [Environment.value?, hset]
    cases b <;> decide
  have hword : isYes (if b then "true" else "false") = b := by cases b <;> decide
  have hfield : Json.field? "validate_all_answers" (formOfEnvironment env) = some (.flag b) := by
    rw [formOfEnvironment, hvalue, Json.field?_append, Option.map_some, hword]
    rfl
  rw [Form.withDefault, hfield]
  rfl

/-- A field of text is read from its text. -/
theorem withDefault_of_nonempty {field name text base : String}
    (hmem : (field, name) ∈ fieldVariables) (hset : env name = some text) (hne : text ≠ "") :
    (formOfEnvironment env).withDefault field Rule.text base = .accepted text :=
  withDefault_of_text hmem hset (absurd · hne) fun _ => rfl

/-- A field of an integer is read from its digits. -/
theorem withDefault_of_integer {field name : String} {n base : Int}
    (hmem : (field, name) ∈ fieldVariables) (hset : env name = some (Integer.text n))
    (hwidth : (Integer.chars n).length ≤ Json.maxWidth) :
    (formOfEnvironment env).withDefault field Rule.integer base = .accepted n :=
  withDefault_of_text hmem hset (absurd · (Integer.text_ne_empty n)) fun _ =>
    Rule.integer_text hwidth

/-- So is a field of an integer that has a least value. -/
theorem withDefault_of_atLeast {field name : String} {least : Int}
    {n base : { n : Int // least ≤ n }} (hmem : (field, name) ∈ fieldVariables)
    (hset : env name = some (Integer.text n.val))
    (hwidth : (Integer.chars n.val).length ≤ Json.maxWidth) :
    (formOfEnvironment env).withDefault field (Rule.atLeast least) base = .accepted n :=
  withDefault_of_text hmem hset (absurd · (Integer.text_ne_empty n.val)) fun _ =>
    Rule.atLeast_text n hwidth

/-- Settings are those of an environment to which they were written. -/
theorem ofEnvironment_of_written {s : Settings} (hs : s.Writable)
    (hset : ∀ p ∈ s.written, env p.1 = some p.2)
    (htick : env "QUIZ_TICK_SECONDS" = none ∨ env "QUIZ_TICK_SECONDS" = some "") :
    ofEnvironment env = .accepted s := by
  obtain ⟨htexts, ⟨file, hfile, hfileName⟩, hnumbers, hseconds⟩ := hs
  simp only [written, List.forall_mem_cons] at hset
  obtain ⟨hstorage, hrating, hredisHost, hredisPort, hredisDb, hdbHost, hdbPort, hdbUser,
    hdbPassword, hdbName, hdelay, htokens, hflag, hlog, -⟩ := hset
  simp only [List.forall_mem_cons] at htexts hnumbers
  obtain ⟨hredisHost', hdbHost', hdbUser', hdbName', -⟩ := htexts
  obtain ⟨hredisPort', hredisDb', hdbPort', hdelay', htokens', -⟩ := hnumbers
  -- Backends, the password, the log file and the length of a tick are read in ways of their own.
  have hstorageRead : (formOfEnvironment env).withDefault "storage_backend" StorageBackend.rule
      (default : Settings).storageBackend = .accepted s.storageBackend :=
    withDefault_of_text (by decide) hstorage (by cases s.storageBackend <;> decide)
      fun _ => s.storageBackend.rule_word
  have hratingRead : (formOfEnvironment env).withDefault "rating_backend"
      (Rule.orNull RatingBackend.rule) (default : Settings).ratingBackend =
        .accepted s.ratingBackend := by
    refine withDefault_of_text (by decide) hrating ?_ ?_
    · rcases s.ratingBackend with - | (- | - | -) <;> decide
    · rcases s.ratingBackend with - | b
      · exact (absurd rfl ·)
      · exact fun _ => congrArg (Checked.map some) b.rule_word
  have hpasswordRead : (formOfEnvironment env).withDefault "db_password" Rule.text
      (default : Settings).dbPassword = .accepted s.dbPassword :=
    withDefault_of_text (by decide) hdbPassword Eq.symm fun _ => rfl
  have hsecondsRead : (formOfEnvironment env).withDefault "tick_seconds" (Rule.positive .memory)
      (default : Settings).tickSeconds = .accepted s.tickSeconds := by
    have hunset : env.value? "QUIZ_TICK_SECONDS" = none := by
      rw [Environment.value?]
      rcases htick with h | h <;> rw [h] <;> rfl
    rw [withDefault_of_none (by decide) hunset, hseconds]
  have hlogRead : (formOfEnvironment env).withDefault "log_file" (Rule.orNull Rule.text)
      (default : Settings).logFile = .accepted s.logFile := by
    rw [hfile] at hlog ⊢
    exact withDefault_of_text (by decide) hlog (absurd · hfileName) fun _ => rfl
  rw [ofEnvironment, ofForm, hstorageRead, hratingRead,
    withDefault_of_nonempty (by decide) hredisHost hredisHost',
    withDefault_of_integer (by decide) hredisPort hredisPort',
    withDefault_of_integer (by decide) hredisDb hredisDb',
    withDefault_of_nonempty (by decide) hdbHost hdbHost',
    withDefault_of_integer (by decide) hdbPort hdbPort',
    withDefault_of_nonempty (by decide) hdbUser hdbUser', hpasswordRead,
    withDefault_of_nonempty (by decide) hdbName hdbName',
    withDefault_of_atLeast (n := ⟨s.deletionDelay, s.one_le_deletionDelay⟩) (by decide)
      hdelay hdelay',
    withDefault_of_atLeast (n := ⟨s.tokensPerQuestion, s.tokensPerQuestion_nonneg⟩) (by decide)
      htokens htokens',
    withDefault_flag hflag, hsecondsRead, hlogRead]
  rfl

/-- **Settings survive the environment.** An environment in which every variable has the text of
its setting asks for these settings, whatever the other variables are, if the length of a tick has
no value. And the settings that an environment asks for stay what they are when it loses variables
that are empty or that nobody looks at. -/
theorem environment_gives_back :
    (∀ (s : Settings) (env : Environment), s.Writable →
      (∀ p ∈ s.written, env p.1 = some p.2) →
      (env "QUIZ_TICK_SECONDS" = none ∨ env "QUIZ_TICK_SECONDS" = some "") →
        ofEnvironment env = .accepted s) ∧
    ∀ (env : Environment) (removed : String → Bool),
      (∀ name, removed name = true → env name = some "" ∨ name ∉ recognised) →
        ofEnvironment (env.without removed) = ofEnvironment env := by
  constructor
  · intro s env hs hset htick
    exact ofEnvironment_of_written hs hset htick
  · intro env removed hremoved
    refine ofEnvironment_congr fun name hname => ?_
    rw [Environment.value?, Environment.without, Environment.value?]
    by_cases hgone : removed name = true
    · have hempty : env name = some "" := (hremoved name hgone).resolve_right fun h => h hname
      rw [if_pos hgone, hempty]
      rfl
    · rw [if_neg hgone]

/-- Settings that say something else than the defaults almost everywhere, with a port below zero, a
number wider than a machine word and a host name in capital letters of another alphabet, survive an
environment in which every name that nobody looks at has a value; and so they do when these names
and the empty password are removed. -/
theorem environment_gives_back_unusual :
    let s : Settings :=
      { storageBackend := .redis, ratingBackend := some .mysql, redisHost := "ΔΟΚΙΜΗ",
        redisPort := -1, redisDb := 2 ^ (70 : Nat), dbHost := " db ", dbPort := 0, dbUser := "null",
        dbPassword := "", dbName := "7", deletionDelay := 1, tokensPerQuestion := 0,
        validateAllAnswers := true, logFile := some "false" }
    let env : Environment := fun name =>
      if name = "QUIZ_TICK_SECONDS" then some "" else (s.written.lookup name).or (some "redis")
    let removed : String → Bool := fun name => name = "DB_PASSWORD" ∨ name ∉ recognised
    s.Writable ∧ ofEnvironment env = .accepted s ∧
      ofEnvironment (env.without removed) = .accepted s := by
  intro s env removed
  have hs : s.Writable :=
    { texts := by decide
      logFile := ⟨"false", rfl, by decide⟩
      numbers := by decide +kernel
      tickSeconds := rfl }
  have hread : ofEnvironment env = .accepted s :=
    environment_gives_back.1 s env hs (by decide +kernel) (.inr rfl)
  refine ⟨hs, hread, ?_⟩
  have hremoved : ∀ name, removed name = true → env name = some "" ∨ name ∉ recognised := by
    intro name hname
    rcases of_decide_eq_true hname with rfl | hname
    · exact .inl (by decide +kernel)
    · exact .inr hname
  exact (environment_gives_back.2 env removed hremoved).trans hread

end Settings

end QuizHall
