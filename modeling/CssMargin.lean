import CssMargin.Main
import CssMargin.Proofs.Shorthand.Acceptance
import CssMargin.Proofs.Shorthand.Expansion
import CssMargin.Proofs.Shorthand.Report
import CssMargin.Proofs.Margin.BoxRule
import CssMargin.Proofs.Problem.Order
import CssMargin.Proofs.Command.Outcome
import CssMargin.Proofs.Command.Prediction
import CssMargin.Proofs.Command.Stages
import CssMargin.Proofs.Command.Changes
import CssMargin.Proofs.Command.SavedListing
import CssMargin.Proofs.Disk.WriteRead
import CssMargin.Proofs.Disk.Halves
import CssMargin.Proofs.Disk.Changes
import CssMargin.Proofs.Disk.SameText
import CssMargin.Proofs.Json.Strings
import CssMargin.Proofs.Json.Collections
import CssMargin.Proofs.Json.RoundTrip
import CssMargin.Proofs.Listing.Json
import CssMargin.Proofs.Yaml.Stretch
import CssMargin.Proofs.Yaml.Cursor
import CssMargin.Proofs.Yaml.Places
import CssMargin.Proofs.Yaml.Quoted
import CssMargin.Proofs.Yaml.DoubleQuoted
import CssMargin.Proofs.Yaml.Plain
import CssMargin.Proofs.Yaml.Scalar
import CssMargin.Proofs.Yaml.Steps
import CssMargin.Proofs.Yaml.Lines
import CssMargin.Proofs.Listing.Tokens
import CssMargin.Proofs.Yaml.Tree
import CssMargin.Proofs.Yaml.Records
import CssMargin.Proofs.Yaml.Written
import CssMargin.Proofs.Listing.Yaml
import CssMargin.Proofs.Yaml.Escapes
import CssMargin.Proofs.Yaml.TokenFaults
import CssMargin.Proofs.Yaml.ScalarFaults
import CssMargin.Proofs.Yaml.MeaningFaults
import CssMargin.Proofs.Command.Loading
import CssMargin.Proofs.Command.LogOptions
import CssMargin.Proofs.Command.SettingsFile
import CssMargin.Proofs.Log.Actions
import CssMargin.Proofs.Command.SpelledOut
import CssMargin.Proofs.Command.CheckReport
import CssMargin.Proofs.Shorthand.OneEntry
import CssMargin.Proofs.Command.FrontEnds
import CssMargin.Proofs.Yaml.Keys
import CssMargin.Proofs.Settings.Entries
import CssMargin.Proofs.Settings.Merge
import CssMargin.Proofs.Shorthand.Fill
import CssMargin.Proofs.Shorthand.Places
import CssMargin.Proofs.Log.JsonLine
import CssMargin.Proofs.Text.Trim
import CssMargin.Proofs.Margin.AutoText
import CssMargin.Proofs.Margin.FourValues
import CssMargin.Proofs.Shorthand.Summaries
import CssMargin.Proofs.Text.LineEnds
import CssMargin.Proofs.Log.Events
import CssMargin.Proofs.Command.Trace
