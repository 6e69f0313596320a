import KeyedImages.Calendar
import KeyedImages.MockService
import KeyedImages.ScriptedService
import KeyedImages.Session.Dialogue
import KeyedImages.Decimal.Display
import KeyedImages.Json.Document
import KeyedImages.Json.Fragment
import KeyedImages.Json.Encode
import KeyedImages.Json.Session
import KeyedImages.Main
import KeyedImages.Proofs.Session.Stage
import KeyedImages.Proofs.Session.Plan
import KeyedImages.Proofs.Session.Passage
import KeyedImages.Proofs.Session.Calls
import KeyedImages.Proofs.MockService.History
import KeyedImages.Proofs.MockService.Shared
import KeyedImages.Proofs.Session.Faithful
import KeyedImages.Proofs.MockService.Replies
import KeyedImages.Proofs.MockService.Clients
import KeyedImages.Proofs.MockService.Opening
import KeyedImages.Proofs.MockService.Sessions
import KeyedImages.Proofs.MockService.Alone
import KeyedImages.Proofs.MockService.CurrentKey
import KeyedImages.Proofs.MockService.Renaming
import KeyedImages.Proofs.MockService.Succession
import KeyedImages.Proofs.Program.Written
import KeyedImages.Proofs.Calendar.Days
import KeyedImages.Proofs.Calendar.Instants
import KeyedImages.Proofs.Settings.Writing
import KeyedImages.Proofs.Text.Numeral
import KeyedImages.Proofs.Settings.Layers
import KeyedImages.Proofs.Settings.Resolved
import KeyedImages.Proofs.Json.Reading
import KeyedImages.Proofs.Json.Layout
import KeyedImages.Proofs.Json.Structures
import KeyedImages.Proofs.Json.Grammar
import KeyedImages.Proofs.Json.RoundTrip
import KeyedImages.Proofs.MockService.Thinned
import KeyedImages.Proofs.Session.Keyless
import KeyedImages.Proofs.Calendar.Order
import KeyedImages.Proofs.Decimal.Large
import KeyedImages.Proofs.Json.Large
import KeyedImages.Proofs.Text.Reader
import KeyedImages.Proofs.CommandLine
import KeyedImages.Proofs.Toml.Number
import KeyedImages.Proofs.Settings.Counts
import KeyedImages.Proofs.Program.ImageCount
import KeyedImages.Proofs.MockService.Records
import KeyedImages.Proofs.Session.Records
import KeyedImages.Proofs.Text.Lines
import KeyedImages.Proofs.Session.Lines
import KeyedImages.Proofs.MockService.Greeting
import KeyedImages.Proofs.Json.Kept
import KeyedImages.Proofs.Json.Outcomes
import KeyedImages.Proofs.Text.Decimal
import KeyedImages.Proofs.Timestamp.Shown
import KeyedImages.Proofs.CommandLine.Spelling
import KeyedImages.Proofs.Program.Options
import KeyedImages.Proofs.Dotenv
import KeyedImages.Proofs.Program.Unset
import KeyedImages.Proofs.Timestamp.Reading
import KeyedImages.Proofs.Session.Columns
