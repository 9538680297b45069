import Agenda.Activity
import Agenda.Build
import Agenda.Calendar.Date
import Agenda.Calendar.DateText
import Agenda.Calendar.Instant
import Agenda.Calendar.TimeOfDay
import Agenda.Calendar.Weekday
import Agenda.Command.Cue
import Agenda.Command.Interpretation
import Agenda.Command.TimeMention
import Agenda.Command.Title
import Agenda.CommandBar
import Agenda.CommandLine.Options
import Agenda.CommandLine.Run
import Agenda.Decimal.Binary64
import Agenda.Decimal.Shortest
import Agenda.Draft
import Agenda.Draft.Wire
import Agenda.Draft.WireText
import Agenda.Json.Number
import Agenda.Json.Pretty
import Agenda.Json.Reader
import Agenda.Json.Scan
import Agenda.Json.Value
import Agenda.Log.Directory
import Agenda.Log.Event
import Agenda.Log.Session
import Agenda.Log.Storage
import Agenda.Main
import Agenda.Service.Commands
import Agenda.Service.Gateway
import Agenda.Service.Run
import Agenda.Text.Blank
import Agenda.Text.Caseless
import Agenda.Text.Digits
import Agenda.Text.Lowercase
import Agenda.Text.Quoted
import Agenda.Text.Unprintable
import Agenda.Text.Utf8
import Agenda.Text.WordChar
import Agenda.Proofs.Calendar.DayCount
import Agenda.Proofs.Command.Totality
import Agenda.Proofs.Command.DateWords
import Agenda.Proofs.Command.Removal
import Agenda.Proofs.Command.ClockText
import Agenda.Proofs.Command.Composition
import Agenda.Proofs.Command.Provenance
import Agenda.Proofs.Service.Runs
import Agenda.Proofs.Calendar.DateText
import Agenda.Proofs.Json.PassingOver
import Agenda.Proofs.Json.WrittenText
import Agenda.Proofs.Json.Members
import Agenda.Proofs.Draft.Spelling
import Agenda.Proofs.Draft.TextOrder
import Agenda.Proofs.Draft.RoundTrip
import Agenda.Proofs.Draft.Shape
import Agenda.Proofs.CommandBar.Agreement
import Agenda.Proofs.Text.AsciiCase
import Agenda.Proofs.Command.AnyCase
import Agenda.Proofs.Log.Spellings
import Agenda.Proofs.Log.Setup
import Agenda.Proofs.Log.Configuration
import Agenda.Proofs.Log.Recording
import Agenda.Proofs.Log.Discretion
import Agenda.Proofs.Log.OneLine
import Agenda.Proofs.Calendar.WeekAhead
import Agenda.Proofs.Command.Precedence
import Agenda.Proofs.Command.NumberRuns
import Agenda.Proofs.Command.Offer
import Agenda.Proofs.Command.Resumption
import Agenda.Proofs.Text.Cutting
import Agenda.Proofs.Command.Prepositions
import Agenda.Proofs.Command.Stages
import Agenda.Proofs.Command.TitleForm
import Agenda.Proofs.Command.WordOrder
import Agenda.Proofs.Command.Evidence
import Agenda.Proofs.Command.OuterBlanks
import Agenda.Proofs.CommandLine.Printout
import Agenda.Proofs.Calendar.TimeText
import Agenda.Proofs.Log.Truncation
