import PageExtract.Text.Split
import PageExtract.Text.Entries
import PageExtract.Text.Blank
import PageExtract.Text.LowerCase
import PageExtract.Text.Quoted
import PageExtract.Decimal.Layout
import PageExtract.Json.Cursor
import PageExtract.Json.Number
import PageExtract.Json.Quoted
import PageExtract.Json.Reader
import PageExtract.Rule.Definition
import PageExtract.Rule.Printer
import PageExtract.Rule.Validation
import PageExtract.Record.Printer
import PageExtract.Record.Reader
import PageExtract.Scope.ClassTree
import PageExtract.Html.Node
import PageExtract.Html.Entity
import PageExtract.Html.Lexer
import PageExtract.Html.ElementClass
import PageExtract.Html.Foreign
import PageExtract.Html.OldLayout
import PageExtract.Html.Builder
import PageExtract.Html.Formatting
import PageExtract.Html.Document
import PageExtract.Css.Token
import PageExtract.Css.Parser
import PageExtract.Css.Match
import PageExtract.Css.Cache
import PageExtract.Html.View
import PageExtract.Extraction
import PageExtract.Failure
import PageExtract.Charset.Utf8
import PageExtract.Folder
import PageExtract.Job.Load
import PageExtract.Charset.Declared
import PageExtract.Url.Private
import PageExtract.Url.Domain.Ascii
import PageExtract.Url.Parser
import PageExtract.Fetch.Basic
import PageExtract.Main
import PageExtract.Proofs.Url.Address
import PageExtract.Proofs.Url.Host
import PageExtract.Proofs.Fetch.Course
import PageExtract.Proofs.Fetch.Guard
import PageExtract.Proofs.Fetch.PublicHosts
import PageExtract.Proofs.Css.Cache
import PageExtract.Proofs.Rule.Validation
import PageExtract.Proofs.Rule.Reachable
import PageExtract.Proofs.Scope.Totality
import PageExtract.Proofs.Extraction.Plain
import PageExtract.Proofs.Extraction.EmptyDocument
import PageExtract.Proofs.Css.Outlook
import PageExtract.Proofs.Extraction.Isolation
import PageExtract.Proofs.Fetch.Chain
import PageExtract.Proofs.Fetch.Redirects
import PageExtract.Proofs.Fetch.Body
import PageExtract.Proofs.Fetch.Success
import PageExtract.Proofs.Json.Grammar
import PageExtract.Proofs.Json.Strings
import PageExtract.Proofs.Json.Reading
import PageExtract.Proofs.Record.Text
import PageExtract.Proofs.Json.Unambiguous
import PageExtract.Proofs.Css.Interleaving
import PageExtract.Proofs.Extraction.Prepared
import PageExtract.Proofs.CommandLine.Switch
import PageExtract.Proofs.CommandLine.Course
import PageExtract.Proofs.CommandLine.Strictness
import PageExtract.Proofs.CommandLine.Delivery
import PageExtract.Proofs.Client
import PageExtract.Proofs.Fetch.Failures
import PageExtract.Proofs.Fetch.Options
import PageExtract.Proofs.Rule.Sequence
import PageExtract.Proofs.Json.Form
import PageExtract.Proofs.Json.Passing
import PageExtract.Proofs.Json.Taking
import PageExtract.Proofs.Rule.Reading
import PageExtract.Proofs.Rule.Spelling
import PageExtract.Proofs.Charset.Utf8
import PageExtract.Proofs.Charset.Declared
import PageExtract.Proofs.Fetch.Text
import PageExtract.Proofs.Rule.FirstMistake
import PageExtract.Proofs.Rule.Path
import PageExtract.Proofs.Json.Passed
import PageExtract.Proofs.Json.Found
import PageExtract.Proofs.Rule.Shape
import PageExtract.Proofs.Rule.RoundTrip
import PageExtract.Proofs.Html.Order
import PageExtract.Proofs.Extraction.First
import PageExtract.Proofs.Extraction.Items
import PageExtract.Proofs.Extraction.Independence
import PageExtract.Proofs.Scope.Questions
import PageExtract.Proofs.Fetch.Addresses
import PageExtract.Proofs.Fetch.Headers
import PageExtract.Proofs.Fetch.Credentials
import PageExtract.Proofs.Text.LowerCase
import PageExtract.Proofs.Charset.Respelled
import PageExtract.Proofs.Json.Embedding
import PageExtract.Proofs.Rule.Nesting
import PageExtract.Proofs.Job.Reading
import PageExtract.Proofs.Job.Embedded
import PageExtract.Proofs.CallDepth
import PageExtract.Proofs.Rule.Depth
import PageExtract.Proofs.Record.Nesting
import PageExtract.Proofs.Extraction.Bounded
import PageExtract.Proofs.Url.Private
import PageExtract.Proofs.Rule.Preorder
import PageExtract.Proofs.Scope.Selectors
import PageExtract.Proofs.Record.Filled
import PageExtract.Proofs.Rule.Kind
