import CriticalCss.Api.Message
import CriticalCss.Api.Route
import CriticalCss.Api.Service
import CriticalCss.Assembly
import CriticalCss.Browser.Call
import CriticalCss.Browser.Page
import CriticalCss.Browser.Script
import CriticalCss.Browser.Session
import CriticalCss.Css.Component
import CriticalCss.Css.Diagnostic
import CriticalCss.Css.Entry
import CriticalCss.Css.Lexer
import CriticalCss.Css.Node
import CriticalCss.Css.Printer
import CriticalCss.Css.Scan
import CriticalCss.Css.Token
import CriticalCss.Dialogue.Basic
import CriticalCss.Dialogue.Pool
import CriticalCss.Digest
import CriticalCss.Extraction
import CriticalCss.File.Path
import CriticalCss.File.Tree
import CriticalCss.Finalize
import CriticalCss.Job.Store
import CriticalCss.Job.Task
import CriticalCss.Json.Basic
import CriticalCss.Json.Printer
import CriticalCss.Json.Reader
import CriticalCss.MediaOrder
import CriticalCss.Merge
import CriticalCss.Minify.Basic
import CriticalCss.Minify.Scan
import CriticalCss.Number.Reading
import CriticalCss.Number.Shortest
import CriticalCss.Options.Browser
import CriticalCss.Options.Checked
import CriticalCss.Options.Device
import CriticalCss.Options.Field
import CriticalCss.Options.Request
import CriticalCss.Options.Run
import CriticalCss.Options.Value
import CriticalCss.Partition
import CriticalCss.Position
import CriticalCss.Proofs.Api.Acceptance
import CriticalCss.Proofs.Assembly.Cascade
import CriticalCss.Proofs.Assembly.Count
import CriticalCss.Proofs.Assembly.Finished
import CriticalCss.Proofs.Assembly.Order
import CriticalCss.Proofs.Assembly.Other
import CriticalCss.Proofs.Assembly.Parts
import CriticalCss.Proofs.Assembly.Remnant
import CriticalCss.Proofs.Assembly.Split
import CriticalCss.Proofs.Css.Cut
import CriticalCss.Proofs.Css.Locality
import CriticalCss.Proofs.Css.Lookahead
import CriticalCss.Proofs.Css.Nesting
import CriticalCss.Proofs.Css.Origin
import CriticalCss.Proofs.Css.Place
import CriticalCss.Proofs.Css.Spelling
import CriticalCss.Proofs.Css.Suffix
import CriticalCss.Proofs.Css.Text
import CriticalCss.Proofs.Css.Value
import CriticalCss.Proofs.Css.Written
import CriticalCss.Proofs.Extraction
import CriticalCss.Proofs.Extraction.Decision
import CriticalCss.Proofs.Json.Text
import CriticalCss.Proofs.Lists
import CriticalCss.Proofs.Options.Reading
import CriticalCss.Proofs.Partition
import CriticalCss.Proofs.Partition.Listing
import CriticalCss.Proofs.Partition.Side
import CriticalCss.Proofs.Removal
import CriticalCss.Proofs.RuleMap.Content
import CriticalCss.Proofs.RuleMap.Difference
import CriticalCss.Proofs.RuleMap.Fold
import CriticalCss.Proofs.RuleMap.Grouping
import CriticalCss.Proofs.RuleMap.Inverse
import CriticalCss.Proofs.RuleMap.Materialize
import CriticalCss.Proofs.RuleMap.Misfit
import CriticalCss.Proofs.RuleMap.Subtract
import CriticalCss.Proofs.Selector.Pattern
import CriticalCss.Proofs.Stylesheet.Account
import CriticalCss.Proofs.Stylesheet.Content
import CriticalCss.Proofs.Stylesheet.Duplicate
import CriticalCss.Proofs.Stylesheet.Key
import CriticalCss.Proofs.Stylesheet.Legible
import CriticalCss.Proofs.Stylesheet.Letters
import CriticalCss.Proofs.Stylesheet.Payload
import CriticalCss.Proofs.Stylesheet.Place
import CriticalCss.Proofs.Stylesheet.ReadBack
import CriticalCss.Proofs.Stylesheet.Reader
import CriticalCss.Proofs.Stylesheet.ReadsAs
import CriticalCss.Proofs.Stylesheet.RoundTrip
import CriticalCss.Proofs.Stylesheet.Steady
import CriticalCss.Proofs.Stylesheet.Styling
import CriticalCss.Proofs.Text.Blank
import CriticalCss.Removal
import CriticalCss.Report
import CriticalCss.Retry
import CriticalCss.RuleMap.Basic
import CriticalCss.RuleMap.Materialize
import CriticalCss.RuleMap.Subtract
import CriticalCss.Run
import CriticalCss.Selector.Pattern
import CriticalCss.Selector.Pseudo
import CriticalCss.Selector.Verdict
import CriticalCss.Stylesheet.Content
import CriticalCss.Stylesheet.Data
import CriticalCss.Stylesheet.Duplicate
import CriticalCss.Stylesheet.Key
import CriticalCss.Stylesheet.Printer
import CriticalCss.Stylesheet.Reader
import CriticalCss.Stylesheet.Rule
import CriticalCss.Text.Alphanumeric
import CriticalCss.Text.Blank
import CriticalCss.Text.DecimalDigit
import CriticalCss.Text.Printable
import CriticalCss.Url
import CriticalCss.Url.Authority
import CriticalCss.Proofs.Dialogue.Course
import CriticalCss.Proofs.Dialogue.Interleaving
import CriticalCss.Proofs.Dialogue.Pool
import CriticalCss.Proofs.Browser.Course
import CriticalCss.Proofs.Browser.Release
import CriticalCss.Proofs.Run.Course
import CriticalCss.Proofs.Run.Release
import CriticalCss.Proofs.Run.Script
import CriticalCss.Proofs.Job.History
import CriticalCss.Proofs.Browser.Failure
import CriticalCss.Proofs.Run.Failure
import CriticalCss.Proofs.Run.Isolation
import CriticalCss.Proofs.Merge
import CriticalCss.Proofs.Merge.Union
import CriticalCss.Proofs.Merge.Contents
import CriticalCss.Proofs.Finalize
import CriticalCss.Proofs.Stylesheet.Layout
import CriticalCss.Proofs.File.Within
import CriticalCss.Proofs.Browser.Attempts
import CriticalCss.Proofs.Job.Settlement
import CriticalCss.Proofs.Selector.Pseudo
import CriticalCss.Proofs.Options.Rebuilding
import CriticalCss.Proofs.Options.Spelling
