import QuizHall.Settings.Basic

/-!
# Settings from the environment

Every setting has an environment variable. A variable that is unset or empty leaves the setting
at its default; a name that belongs to no setting is not looked at.

## Main definitions

* `Environment`: the value of a variable, if it is set.
* `Settings.fieldVariables`: the variable of each field that is taken over as it is.
* `Settings.isYes`: how the variable of the one flag is read.
* `Settings.ofEnvironment`: the settings that an environment asks for.
-/

namespace QuizHall

open Json (Value)

/-- The value of each variable, if it is set. -/
abbrev Environment := String → Option String

namespace Environment

/-- The environment that a list of names and values describes. -/
def ofList (vars : List (String × String)) : Environment := fun name => vars.lookup name

/-- The value of a variable that is set and not empty. -/
def value? (env : Environment) (name : String) : Option String :=
  (env name).filter (· ≠ "")

end Environment

namespace Settings

/-- Each field with the variable whose text it is read from. -/
def fieldVariables : List (String × String) :=
  [("storage_backend", "QUIZ_STORAGE_BACKEND"),
   ("rating_backend", "QUIZ_RATING_BACKEND"),
   ("redis_host", "REDIS_HOST"),
   ("redis_port", "REDIS_PORT"),
   ("redis_db", "REDIS_DB"),
   ("db_host", "DB_HOST"),
   ("db_port", "DB_PORT"),
   ("db_user", "DB_USER"),
   ("db_password", "DB_PASSWORD"),
   ("db_name", "DB_NAME"),
   ("deletion_delay", "QUIZ_DELETION_DELAY"),
   ("tokens_per_question", "QUIZ_TOKENS_PER_QUESTION"),
   ("tick_seconds", "QUIZ_TICK_SECONDS"),
   ("log_file", "QUIZ_LOG_FILE")]

/-- The variable of the flag that asks for the fifth answer to be checked. -/
def flagVariable : String := "QUIZ_VALIDATE_ALL_ANSWERS"

/-- Whether a text says yes. Blanks around it do not count, and neither does the case of its
letters; no character outside of ASCII has one of the letters needed here as its lowercase. -/
def isYes (s : String) : Bool :=
  let word := String.ofList ((Text.trim Text.isBlankOrSeparator s.toList).map Char.toLower)
  word ∈ ["1", "true", "yes", "on"]

/-- The fields that an environment sets. -/
def formOfEnvironment (env : Environment) : Form :=
  (fieldVariables.filterMap fun p => (env.value? p.2).map fun s => (p.1, Value.text s)) ++
    ((env.value? flagVariable).map fun s => ("validate_all_answers", Value.flag (isYes s))).toList

/-- The settings that an environment asks for. -/
def ofEnvironment (env : Environment) : Checked Settings :=
  ofForm .memory (formOfEnvironment env) default

end Settings

end QuizHall
