import QuizHall.Table
import QuizHall.Text.Integer

/-!
# The rating table

Ratings in a relational table with one row for each account. Every statement that changes the
table is committed at once.

## Main definitions

* `RatingTable`: the rows and the number of commits.
* `Statement`: the three statements that the table is used by, with their text.
-/

namespace QuizHall

/-- The rows of the table, and how often a change was committed. -/
structure RatingTable where
  /-- The rating in the row of each account. -/
  rows : Table String Int := Table.empty
  /-- How many changes were committed; making the table is the first one. -/
  commits : Nat := 1

namespace RatingTable

/-- The rating in the row of an account; zero without a row. -/
def rating (t : RatingTable) (account : String) : Int := (t.rows.find? account).getD 0

/-- Writes the row of an account. -/
def save (t : RatingTable) (account : String) (rating : Int) : RatingTable :=
  { rows := t.rows.insert account rating, commits := t.commits + 1 }

end RatingTable

/-- A statement that was sent to the server. -/
inductive Statement where
  /-- Makes the table, unless it is there. -/
  | createTable
  /-- Reads the row of an account. -/
  | select (account : String)
  /-- Writes the row of an account. -/
  | upsert (account : String) (rating : Int)
  deriving DecidableEq

namespace Statement

/-- The text of a statement, with a place for each parameter. -/
def text : Statement → String
  | createTable => "CREATE TABLE IF NOT EXISTS user_ratings (" ++
      " account_id VARCHAR(255) PRIMARY KEY, rating TINYINT UNSIGNED NOT NULL DEFAULT 0 )"
  | select _ => "SELECT rating FROM user_ratings WHERE account_id=%s"
  | upsert .. => "INSERT INTO user_ratings (account_id, rating) VALUES (%s, %s)" ++
      " ON DUPLICATE KEY UPDATE rating=VALUES(rating)"

end Statement

end QuizHall
