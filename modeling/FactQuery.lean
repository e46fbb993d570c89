import FactQuery.Text.Blank
import FactQuery.Text.DecimalDigit
import FactQuery.Text.Escape
import FactQuery.Text.LineEnd
import FactQuery.Text.Position
import FactQuery.Text.Quoted
import FactQuery.Text.TabStop
import FactQuery.Grammar.Keyword
import FactQuery.Token.LiteralSuffix
import FactQuery.Token.Number
import FactQuery.Token.QuotedText
import FactQuery.Number.Order
import FactQuery.Iri.Reference
import FactQuery.Turtle.Document
import FactQuery.Sparql.Grammar
import FactQuery.Sparql.Reading
import FactQuery.Evaluation.Select
import FactQuery.Store
import FactQuery.Engine
import FactQuery.Data.Json
import FactQuery.Settings
import FactQuery.Service
import FactQuery.Proofs.Join.BruteForce
import FactQuery.Proofs.Store.Lifecycle
import FactQuery.Proofs.Grammar.Reads
import FactQuery.Proofs.Grammar.Tokens
import FactQuery.Proofs.Text.Unescape
import FactQuery.Proofs.Token.QuotedText
import FactQuery.Proofs.Token.Names
import FactQuery.Proofs.Token.LiteralSuffix
import FactQuery.Proofs.Turtle.Canonical
import FactQuery.Proofs.Turtle.Statement
import FactQuery.Proofs.Turtle.RoundTrip
import FactQuery.Proofs.Token.Number
import FactQuery.Proofs.Grammar.Ensures
import FactQuery.Proofs.Sparql.WellFormed
import FactQuery.Proofs.Sparql.TermRoundTrip
import FactQuery.Proofs.Sparql.FilterRoundTrip
import FactQuery.Proofs.Sparql.GroupRoundTrip
import FactQuery.Proofs.Sparql.ModifierRoundTrip
import FactQuery.Proofs.Sparql.SelectRoundTrip
import FactQuery.Proofs.Sparql.QueryText
import FactQuery.Proofs.Sparql.RoundTrip
import FactQuery.Proofs.Filter.Conjunction
import FactQuery.Proofs.Evaluation.Rejection
import FactQuery.Proofs.Sparql.Writable
import FactQuery.Proofs.Evaluation.Domain
import FactQuery.Proofs.Evaluation.Faults
import FactQuery.Proofs.Token.WrittenString
import FactQuery.Proofs.Token.WrittenNumber
import FactQuery.Proofs.TripleText.Written
import FactQuery.Proofs.TripleText.Document
import FactQuery.Proofs.TripleText.Query
import FactQuery.Proofs.TripleText.Agreement
import FactQuery.Proofs.Join.Matching
import FactQuery.Proofs.Turtle.Numbering
import FactQuery.Proofs.Abbreviation.Block
import FactQuery.Proofs.Abbreviation.Document
import FactQuery.Proofs.Abbreviation.Phrase
import FactQuery.Proofs.Abbreviation.Agreement
import FactQuery.Proofs.Iri.Resolution
import FactQuery.Proofs.Turtle.Directives
import FactQuery.Proofs.Turtle.FullDocument
import FactQuery.Proofs.Turtle.BlankNodes
import FactQuery.Proofs.Sparql.Nesting
import FactQuery.Proofs.Store.Reads
import FactQuery.Proofs.Service.Availability
import FactQuery.Proofs.Order.Sorting
import FactQuery.Proofs.Sparql.Prefixes
import FactQuery.Proofs.Sparql.SpacedFilter
import FactQuery.Proofs.Literal.Datatype
import FactQuery.Proofs.Filter.Comparison
import FactQuery.Proofs.Turtle.BareSubjects
import FactQuery.Proofs.Turtle.References
import FactQuery.Proofs.Layout.Independence
import FactQuery.Proofs.Literal.Printed
import FactQuery.Proofs.Evaluation.Pages
import FactQuery.Proofs.Prepending.Positions
import FactQuery.Proofs.Join.Counters
import FactQuery.Proofs.Token.NumberLanguage
import FactQuery.Proofs.Literal.Numbers
