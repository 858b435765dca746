import ResourceFilter.Unicode.RangeSet
import ResourceFilter.Unicode.Alphabetic
import ResourceFilter.Unicode.Numeric
import ResourceFilter.Unicode.Unprintable
import ResourceFilter.Unicode.Blank
import ResourceFilter.Position
import ResourceFilter.Text.Split
import ResourceFilter.Text.Decimal
import ResourceFilter.Text.Quoted
import ResourceFilter.Text.Escaped
import ResourceFilter.Text.JsonString
import ResourceFilter.Vocabulary
import ResourceFilter.Token.Basic
import ResourceFilter.Token.Stream
import ResourceFilter.Filter.Basic
import ResourceFilter.Filter.Outline
import ResourceFilter.Filter.Unfinished
import ResourceFilter.Filter.Reader
import ResourceFilter.Text.Lowercase
import ResourceFilter.Text.Pattern
import ResourceFilter.Text.Delimited
import ResourceFilter.Column.Basic
import ResourceFilter.Column.Mapping
import ResourceFilter.Sql.Argument
import ResourceFilter.Sql.Flavour
import ResourceFilter.Sql.Condition
import ResourceFilter.Sql.Selection
import ResourceFilter.Sql.Query
import ResourceFilter.Command.Task
import ResourceFilter.Command.Arguments
import ResourceFilter.Command.Line
import ResourceFilter.Main
import ResourceFilter.Proofs.Grammar.Phrase
import ResourceFilter.Proofs.Grammar.Run
import ResourceFilter.Proofs.Grammar.Spelling
import ResourceFilter.Proofs.Grammar.Recognition
import ResourceFilter.Proofs.Token.Shape
import ResourceFilter.Proofs.Token.Lexeme
import ResourceFilter.Proofs.Token.Modes
import ResourceFilter.Proofs.Filter.Canonical
import ResourceFilter.Proofs.Filter.Reuse
import ResourceFilter.Proofs.Filter.PatchPaths
import ResourceFilter.Proofs.Filter.Height
import ResourceFilter.Proofs.Sql.Lexeme
import ResourceFilter.Proofs.Sql.Clause
import ResourceFilter.Proofs.Sql.Statement
import ResourceFilter.Proofs.Sql.Joins
import ResourceFilter.Proofs.Sql.Scope
import ResourceFilter.Proofs.Sql.Readback
import ResourceFilter.Proofs.Sql.Placeholder
import ResourceFilter.Proofs.Sql.Sight
import ResourceFilter.Proofs.Sql.SelfJoin
import ResourceFilter.Proofs.Sql.Whitelist
import ResourceFilter.Proofs.Sql.Evaluation
import ResourceFilter.Proofs.Sql.Returned
import ResourceFilter.Proofs.Sql.Draft
import ResourceFilter.Proofs.Sql.Refusal
import ResourceFilter.Proofs.Sql.ValueFree
import ResourceFilter.Proofs.Filter.Blame
import ResourceFilter.Proofs.Filter.Session
import ResourceFilter.Proofs.Token.Layout
import ResourceFilter.Proofs.Filter.WellFormed
import ResourceFilter.Proofs.Filter.Embedding
import ResourceFilter.Proofs.Sql.Names
import ResourceFilter.Proofs.Sql.Dotted
import ResourceFilter.Proofs.Sql.OperandOrder
import ResourceFilter.Proofs.Token.Partition
import ResourceFilter.Proofs.Token.Place
import ResourceFilter.Proofs.Token.Quotation
import ResourceFilter.Proofs.Token.Restyle
import ResourceFilter.Proofs.Filter.Style
import ResourceFilter.Proofs.Text.Pattern
import ResourceFilter.Proofs.Sql.Schema
import ResourceFilter.Proofs.Text.Trim
import ResourceFilter.Proofs.Column.Path
import ResourceFilter.Proofs.Filter.Blank
import ResourceFilter.Proofs.Command.Mapping
import ResourceFilter.Proofs.Command.Request
import ResourceFilter.Proofs.Command.Assignment
