import QuizHall.Digest.Blake2b
import QuizHall.Digest.Hex
import QuizHall.Digest.Sha256
import QuizHall.Event
import QuizHall.Fault
import QuizHall.Hall.Act
import QuizHall.Hall.Attempt
import QuizHall.Hall.Lifetime
import QuizHall.Hall.Opening
import QuizHall.Hall.Request
import QuizHall.Hall.Schedule
import QuizHall.Hall.Service
import QuizHall.Hall.State
import QuizHall.Hall.TickLoop
import QuizHall.Hall.Together
import QuizHall.Identifier
import QuizHall.Json.Printer
import QuizHall.Json.Reader
import QuizHall.Json.Token
import QuizHall.Json.Value
import QuizHall.Ledger
import QuizHall.Logging.Line
import QuizHall.Logging.Notice
import QuizHall.Logging.Setup
import QuizHall.Main
import QuizHall.Program
import QuizHall.Proofs.Hall.Along
import QuizHall.Proofs.Hall.Atomicity
import QuizHall.Proofs.Hall.AttemptDecision
import QuizHall.Proofs.Hall.Authority
import QuizHall.Proofs.Hall.Backends
import QuizHall.Proofs.Hall.Books
import QuizHall.Proofs.Hall.Calls
import QuizHall.Proofs.Hall.Chronicle
import QuizHall.Proofs.Hall.Commuting
import QuizHall.Proofs.Hall.Creation
import QuizHall.Proofs.Hall.CreationDecision
import QuizHall.Proofs.Hall.Deletion
import QuizHall.Proofs.Hall.Delivery
import QuizHall.Proofs.Hall.Driven
import QuizHall.Proofs.Hall.Ending
import QuizHall.Proofs.Hall.History
import QuizHall.Proofs.Hall.InOrder
import QuizHall.Proofs.Hall.Lifetime
import QuizHall.Proofs.Hall.Locking
import QuizHall.Proofs.Hall.Numbering
import QuizHall.Proofs.Hall.Opening
import QuizHall.Proofs.Hall.Outage
import QuizHall.Proofs.Hall.Queues
import QuizHall.Proofs.Hall.RatingMap
import QuizHall.Proofs.Hall.Ratings
import QuizHall.Proofs.Hall.Restart
import QuizHall.Proofs.Hall.Rounds
import QuizHall.Proofs.Hall.Scoring
import QuizHall.Proofs.Hall.Secrecy
import QuizHall.Proofs.Hall.Serving
import QuizHall.Proofs.Hall.Solvency
import QuizHall.Proofs.Hall.Soundness
import QuizHall.Proofs.Hall.Sweeping
import QuizHall.Proofs.Hall.Together
import QuizHall.Proofs.Hall.View
import QuizHall.Proofs.Identifier
import QuizHall.Proofs.Json.RoundTrip
import QuizHall.Proofs.Json.Tokens
import QuizHall.Proofs.Ledger
import QuizHall.Proofs.Program
import QuizHall.Proofs.Settings.Environment
import QuizHall.Proofs.Store.Contents
import QuizHall.Proofs.Store.Frame
import QuizHall.Proofs.Store.Holds
import QuizHall.Proofs.Store.Integers
import QuizHall.Proofs.Store.Reach
import QuizHall.Proofs.Store.Records
import QuizHall.Proofs.Store.Slots
import QuizHall.Proofs.Store.Soundness
import QuizHall.Proofs.Store.Twins
import QuizHall.Proofs.Text.Decimal
import QuizHall.Quiz.AnswerList
import QuizHall.Quiz.Basic
import QuizHall.Quiz.Record
import QuizHall.Rating
import QuizHall.Settings.Basic
import QuizHall.Settings.Environment
import QuizHall.Store.KeySpace
import QuizHall.Store.Memory
import QuizHall.Store.Pool
import QuizHall.Store.RatingTable
import QuizHall.Store.Stores
import QuizHall.Table
import QuizHall.Template.Fill
import QuizHall.Template.Number
import QuizHall.Template.Placeholder
import QuizHall.Template.Shown
import QuizHall.Text.Blank
import QuizHall.Text.ByteLiteral
import QuizHall.Text.Decimal
import QuizHall.Text.Double
import QuizHall.Text.Integer
import QuizHall.Text.Literal
import QuizHall.Text.Printable
import QuizHall.Validation.Checked
import QuizHall.Validation.Issue
import QuizHall.Validation.LenientInteger
import QuizHall.Validation.Rule
import QuizHall.Validation.Verdict
import QuizHall.World
