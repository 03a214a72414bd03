import IssueWatch.Action
import IssueWatch.Alert
import IssueWatch.Archive
import IssueWatch.Cli
import IssueWatch.Command
import IssueWatch.Config
import IssueWatch.Config.Violation
import IssueWatch.Console.Literal
import IssueWatch.Console.Literal.Lexeme
import IssueWatch.Console.Markup
import IssueWatch.Console.Style
import IssueWatch.Decimal
import IssueWatch.Html.Shape
import IssueWatch.Issue
import IssueWatch.Json.Reader
import IssueWatch.Json.Schema
import IssueWatch.Json.Value
import IssueWatch.Json.Writer
import IssueWatch.Link
import IssueWatch.Mail
import IssueWatch.Main
import IssueWatch.Proofs.Action
import IssueWatch.Proofs.Alert.Delivery
import IssueWatch.Proofs.Alert.Distinction
import IssueWatch.Proofs.Alert.History
import IssueWatch.Proofs.Alert.Mailing
import IssueWatch.Proofs.Alert.Summary
import IssueWatch.Proofs.Command.Agreement
import IssueWatch.Proofs.Command.Caching
import IssueWatch.Proofs.Command.Kinds
import IssueWatch.Proofs.Command.Listing
import IssueWatch.Proofs.Command.Loading
import IssueWatch.Proofs.Command.Mailing
import IssueWatch.Proofs.Command.Verbatim
import IssueWatch.Proofs.Command.Writing
import IssueWatch.Proofs.Config.Growth
import IssueWatch.Proofs.Config.Repetition
import IssueWatch.Proofs.Config.Roster
import IssueWatch.Proofs.Config.Violation
import IssueWatch.Proofs.Console.Escape
import IssueWatch.Proofs.Console.Filling
import IssueWatch.Proofs.Console.Plain
import IssueWatch.Proofs.Console.Verbatim
import IssueWatch.Proofs.Decimal.Digits
import IssueWatch.Proofs.Html.Shape
import IssueWatch.Proofs.Html.Table
import IssueWatch.Proofs.Issue.Collection
import IssueWatch.Proofs.Json.Plain
import IssueWatch.Proofs.Json.Reading
import IssueWatch.Proofs.Json.Tokens
import IssueWatch.Proofs.Link
import IssueWatch.Proofs.Mail.Session
import IssueWatch.Proofs.Query.Citation
import IssueWatch.Proofs.Query.Descent
import IssueWatch.Proofs.Query.Indexed
import IssueWatch.Proofs.Query.Laws
import IssueWatch.Proofs.Query.Layout
import IssueWatch.Proofs.Query.Misfits
import IssueWatch.Proofs.Query.Outcome
import IssueWatch.Proofs.Query.Parentheses
import IssueWatch.Proofs.Query.Parsing
import IssueWatch.Proofs.Query.PhraseReading
import IssueWatch.Proofs.Query.Rejection
import IssueWatch.Proofs.Query.RoundTrip
import IssueWatch.Proofs.Query.Scanning
import IssueWatch.Proofs.Query.Searching
import IssueWatch.Proofs.Query.Spelling
import IssueWatch.Proofs.Query.Trimming
import IssueWatch.Proofs.Query.UnknownNames
import IssueWatch.Proofs.Snapshot.Keeping
import IssueWatch.Proofs.Snapshot.Naming
import IssueWatch.Proofs.Snapshot.Storing
import IssueWatch.Proofs.Text.Lines
import IssueWatch.Proofs.Tracker
import IssueWatch.Proofs.Tracker.Numbers
import IssueWatch.Proofs.Workspace.Folders
import IssueWatch.Proofs.Workspace.Listing
import IssueWatch.Proofs.Xml.Nesting
import IssueWatch.Query.Expr
import IssueWatch.Query.Grammar
import IssueWatch.Query.Indexed
import IssueWatch.Query.Meaning
import IssueWatch.Query.Parser
import IssueWatch.Query.Token
import IssueWatch.Report
import IssueWatch.Snapshot
import IssueWatch.Text.Character
import IssueWatch.Text.Integer
import IssueWatch.Text.LetterCase
import IssueWatch.Text.Lines
import IssueWatch.Text.Quoted
import IssueWatch.Tracker
import IssueWatch.Workspace
import IssueWatch.Xml.Codec
import IssueWatch.Xml.Doctype
import IssueWatch.Xml.Element
import IssueWatch.Xml.Markup
import IssueWatch.Xml.Reader
