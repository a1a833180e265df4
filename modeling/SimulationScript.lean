import SimulationScript.Calendar.Date
import SimulationScript.Calendar.Endpoint
import SimulationScript.Command.Arguments
import SimulationScript.Command.Disk
import SimulationScript.Command.Run
import SimulationScript.Config
import SimulationScript.Decoding.Decoder
import SimulationScript.Decoding.Error
import SimulationScript.Decoding.Record
import SimulationScript.Household
import SimulationScript.Json.Basic
import SimulationScript.Json.Fault
import SimulationScript.Json.Printer
import SimulationScript.Json.Quoted
import SimulationScript.Json.Reader
import SimulationScript.Json.Skipper
import SimulationScript.Json.Token
import SimulationScript.Literal
import SimulationScript.Main
import SimulationScript.Metadata
import SimulationScript.Number.Basic
import SimulationScript.Number.Binary64
import SimulationScript.Number.Layout
import SimulationScript.Number.Shortest
import SimulationScript.OrderedMap
import SimulationScript.Plan.Basic
import SimulationScript.Plan.Definitions
import SimulationScript.Plan.Script
import SimulationScript.Plan.Simulations
import SimulationScript.Policy.Interval
import SimulationScript.Policy.Reform
import SimulationScript.Policy.Span
import SimulationScript.Policy.Value
import SimulationScript.Proofs.Calendar.Form
import SimulationScript.Proofs.Calendar.Order
import SimulationScript.Proofs.Calendar.Reading
import SimulationScript.Proofs.Calendar.Scan
import SimulationScript.Proofs.Calendar.Spelling
import SimulationScript.Proofs.Calendar.Writing
import SimulationScript.Proofs.Command.Validation
import SimulationScript.Proofs.Decoding.Agreement
import SimulationScript.Proofs.Decoding.Parts
import SimulationScript.Proofs.Decoding.Provenance
import SimulationScript.Proofs.Decoding.Rewriting
import SimulationScript.Proofs.Decoding.Year
import SimulationScript.Proofs.Fallible
import SimulationScript.Proofs.Household.Reduction
import SimulationScript.Proofs.Household.Retention
import SimulationScript.Proofs.Household.Selection
import SimulationScript.Proofs.Json.Escape
import SimulationScript.Proofs.Json.Extent
import SimulationScript.Proofs.Json.Grammar
import SimulationScript.Proofs.Json.Layout
import SimulationScript.Proofs.Json.Readable
import SimulationScript.Proofs.Json.Reading
import SimulationScript.Proofs.Json.Skipping
import SimulationScript.Proofs.Json.Soundness
import SimulationScript.Proofs.Json.Style
import SimulationScript.Proofs.Json.Token
import SimulationScript.Proofs.Json.Transcript
import SimulationScript.Proofs.Literal.Faithfulness
import SimulationScript.Proofs.Literal.Layout
import SimulationScript.Proofs.Literal.Occurrence
import SimulationScript.Proofs.Literal.Respelling
import SimulationScript.Proofs.Literal.Restoration
import SimulationScript.Proofs.Number.Characters
import SimulationScript.Proofs.OrderedMap
import SimulationScript.Proofs.Plan.Definedness
import SimulationScript.Proofs.Plan.Dependence
import SimulationScript.Proofs.Plan.Entries
import SimulationScript.Proofs.Plan.Failure
import SimulationScript.Proofs.Plan.Imports
import SimulationScript.Proofs.Plan.Instants
import SimulationScript.Proofs.Plan.ReformUse
import SimulationScript.Proofs.Plan.Situation
import SimulationScript.Proofs.Plan.StateTax
import SimulationScript.Proofs.Plan.Success
import SimulationScript.Proofs.Plan.Updates
import SimulationScript.Proofs.Plan.Year
import SimulationScript.Proofs.Policy.Extreme
import SimulationScript.Proofs.Policy.Key
import SimulationScript.Proofs.Policy.Reform
import SimulationScript.Proofs.Policy.Span
import SimulationScript.Proofs.Request.Agreement
import SimulationScript.Proofs.Request.Inverse
import SimulationScript.Proofs.Request.OnePass
import SimulationScript.Proofs.Request.Parts
import SimulationScript.Proofs.Request.Rewriting
import SimulationScript.Proofs.Request.RoundTrip
import SimulationScript.Proofs.Script.Precedence
import SimulationScript.Proofs.Text.Blank
import SimulationScript.Proofs.Text.Mark
import SimulationScript.Proofs.Text.Numeral
import SimulationScript.Proofs.Text.Replacement
import SimulationScript.Request
import SimulationScript.Scope
import SimulationScript.Script
import SimulationScript.ScriptError
import SimulationScript.Settings.Basic
import SimulationScript.Settings.Configuration
import SimulationScript.Settings.Path
import SimulationScript.Settings.Sources
import SimulationScript.Settings.Toml.Document
import SimulationScript.Settings.Toml.Moment
import SimulationScript.Settings.Toml.Numeral
import SimulationScript.Settings.Toml.Quoted
import SimulationScript.Settings.Toml.Reader
import SimulationScript.Settings.Toml.Table
import SimulationScript.Settings.Toml.Value
import SimulationScript.Text.Blank
import SimulationScript.Text.Invisible
import SimulationScript.Text.Numeral
import SimulationScript.Text.Replace
import SimulationScript.Text.Shown
import SimulationScript.Year
