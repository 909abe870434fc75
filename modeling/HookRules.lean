import HookRules.Change.Item
import HookRules.Change.Listing
import HookRules.Command.Words
import HookRules.CommandLine.Arguments
import HookRules.CommandLine.Log
import HookRules.CommandLine.Run
import HookRules.Document.CharacterData
import HookRules.Document.Cursor
import HookRules.Document.Element
import HookRules.Document.Excerpt
import HookRules.Document.Load
import HookRules.Document.Malformed
import HookRules.Document.Reader
import HookRules.Document.Span
import HookRules.Document.Tag
import HookRules.Event.Basic
import HookRules.Event.Kind
import HookRules.Event.LockToken
import HookRules.Event.Subject
import HookRules.Fact.Basic
import HookRules.Fact.Error
import HookRules.Fact.Fixed
import HookRules.Fact.Repository
import HookRules.Machine.Files
import HookRules.Machine.Host
import HookRules.Machine.Transcript
import HookRules.Mail.Address
import HookRules.Mail.Basic
import HookRules.Mail.Delivery
import HookRules.Main
import HookRules.Path
import HookRules.Pattern.Basic
import HookRules.Pattern.Compiled
import HookRules.Pattern.Match
import HookRules.Pattern.Named
import HookRules.Pattern.Reader
import HookRules.Pattern.Size
import HookRules.Proofs.Change.Listing
import HookRules.Proofs.Change.Replacement
import HookRules.Proofs.CommandLine.Hook
import HookRules.Proofs.CommandLine.Log
import HookRules.Proofs.CommandLine.Setting
import HookRules.Proofs.Document.Content
import HookRules.Proofs.Document.Cursor
import HookRules.Proofs.Document.Excerpt
import HookRules.Proofs.Document.Location
import HookRules.Proofs.Document.Path
import HookRules.Proofs.Document.Reading
import HookRules.Proofs.Document.Remark
import HookRules.Proofs.Document.Syntax
import HookRules.Proofs.Document.Tree
import HookRules.Proofs.Event.LockToken
import HookRules.Proofs.Fact.Answers
import HookRules.Proofs.Fact.Memory
import HookRules.Proofs.Fact.Printed
import HookRules.Proofs.Fact.Queries
import HookRules.Proofs.Fact.Transparency
import HookRules.Proofs.Report.Layout
import HookRules.Proofs.Rule.Action
import HookRules.Proofs.Rule.Agreement
import HookRules.Proofs.Rule.Check
import HookRules.Proofs.Rule.Conflict
import HookRules.Proofs.Rule.Envelope
import HookRules.Proofs.Rule.Filter
import HookRules.Proofs.Rule.Parameter
import HookRules.Proofs.Rule.Registry
import HookRules.Proofs.Rule.Token
import HookRules.Proofs.Run.Act
import HookRules.Proofs.Run.Agreement
import HookRules.Proofs.Run.Blame
import HookRules.Proofs.Run.Check
import HookRules.Proofs.Run.Client
import HookRules.Proofs.Run.Conjunction
import HookRules.Proofs.Run.Derivation
import HookRules.Proofs.Run.Environment
import HookRules.Proofs.Run.Erasure
import HookRules.Proofs.Run.Exchange
import HookRules.Proofs.Run.FirstItem
import HookRules.Proofs.Run.Isolation
import HookRules.Proofs.Run.Locality
import HookRules.Proofs.Run.Mailing
import HookRules.Proofs.Run.Mirror
import HookRules.Proofs.Run.Plan
import HookRules.Proofs.Run.Queries
import HookRules.Proofs.Run.Refinement
import HookRules.Proofs.Run.Station
import HookRules.Proofs.Run.Upkeep
import HookRules.Proofs.Text.Dedent
import HookRules.Proofs.Text.Line
import HookRules.Proofs.Text.Numeral
import HookRules.Proofs.Text.Trim
import HookRules.Proofs.Token.Expansion
import HookRules.Proofs.Token.Height
import HookRules.Proofs.Token.Placeholder
import HookRules.Proofs.Token.Store
import HookRules.Report.Diagnostic
import HookRules.Report.Log
import HookRules.Report.Style
import HookRules.Rule.Action
import HookRules.Rule.Check
import HookRules.Rule.Error
import HookRules.Rule.Filter
import HookRules.Rule.Gate
import HookRules.Rule.Parameter
import HookRules.Rule.Registry
import HookRules.Run.Act
import HookRules.Run.Document
import HookRules.Run.Evaluation
import HookRules.Run.Failure
import HookRules.Run.Notice
import HookRules.Settings.Basic
import HookRules.Settings.Load
import HookRules.Settings.Toml
import HookRules.Shell.Expansion
import HookRules.Shell.Glob
import HookRules.Shell.Program
import HookRules.Shell.Program.Basic
import HookRules.Shell.Program.Condition
import HookRules.Shell.Program.FileTool
import HookRules.Shell.Program.Print
import HookRules.Shell.Reader
import HookRules.Shell.Run
import HookRules.Shell.Session
import HookRules.Shell.Syntax
import HookRules.Shell.Token
import HookRules.Text.Blank
import HookRules.Text.Case
import HookRules.Text.Dedent
import HookRules.Text.Line
import HookRules.Text.Numeral
import HookRules.Text.Quoted
import HookRules.Text.Search
import HookRules.Text.Utf8
import HookRules.Token.Expansion
import HookRules.Token.Store
import HookRules.Unicode.Category
import HookRules.Unicode.CodeSet
import HookRules.Unicode.Letter
import HookRules.Unicode.Property
import HookRules.Unicode.Script
