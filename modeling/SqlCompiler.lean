import SqlCompiler.Criteria.Condition
import SqlCompiler.Criteria.Template
import SqlCompiler.Statement.Plan
import SqlCompiler.Compiler
import SqlCompiler.Json.Printer
import SqlCompiler.Config
import SqlCompiler.Document.Reader
import SqlCompiler.Document.Query
import SqlCompiler.CommandLine.FileTree
import SqlCompiler.Main
import SqlCompiler.Proofs.Binder.Numbering
import SqlCompiler.Proofs.Template.Filling
import SqlCompiler.Proofs.Binder.Run
import SqlCompiler.Proofs.Sql.Lexeme
import SqlCompiler.Proofs.Sql.Path
import SqlCompiler.Proofs.Sql.Placeholder
import SqlCompiler.Proofs.Sql.Skeleton
import SqlCompiler.Proofs.Template.Spacing
import SqlCompiler.Proofs.Statement.Spacing
import SqlCompiler.Proofs.Statement.Verbatim
import SqlCompiler.Proofs.Statement.Payload
import SqlCompiler.Proofs.Statement.Placeholder
import SqlCompiler.Proofs.Statement.Structure
import SqlCompiler.Proofs.Template.Slots
import SqlCompiler.Proofs.Statement.Bound
import SqlCompiler.Proofs.Statement.Refusal
import SqlCompiler.Proofs.Statement.Outline
import SqlCompiler.Proofs.Text.Blank
import SqlCompiler.Proofs.Criteria.Presence
import SqlCompiler.Proofs.Criteria.Sign
import SqlCompiler.Proofs.Criteria.Unambiguous
import SqlCompiler.Proofs.Statement.Criteria
import SqlCompiler.Proofs.Sql.Grammar
import SqlCompiler.Proofs.Document.Passes
import SqlCompiler.Proofs.Document.Scalars
import SqlCompiler.Proofs.Document.Translation
import SqlCompiler.Proofs.CommandLine.Output
import SqlCompiler.Proofs.Statement.Insertion
import SqlCompiler.Proofs.Decimal.Rounding
import SqlCompiler.Proofs.Json.Reading
import SqlCompiler.Proofs.Document.Printed
import SqlCompiler.Proofs.Document.Count
import SqlCompiler.Proofs.Query.Join
import SqlCompiler.Proofs.Criteria.Fragment
import SqlCompiler.Proofs.Statement.Selection
import SqlCompiler.Proofs.Sql.Segment
import SqlCompiler.Proofs.Statement.Alias
import SqlCompiler.Proofs.Statement.JoinedTable
import SqlCompiler.Proofs.Sql.Dotted
import SqlCompiler.Proofs.Criteria.Concatenation
import SqlCompiler.Proofs.Criteria.Unbound
import SqlCompiler.Proofs.Criteria.Spelling
import SqlCompiler.Proofs.Criteria.Keyword
import SqlCompiler.Proofs.Query.History
import SqlCompiler.Proofs.Query.Column
import SqlCompiler.Proofs.Text.Numeral
import SqlCompiler.Proofs.Query.Count
import SqlCompiler.Proofs.Statement.Paging
import SqlCompiler.Proofs.Value.Literal
import SqlCompiler.Proofs.Statement.Trace
import SqlCompiler.Proofs.Json.Strings
import SqlCompiler.Proofs.Config
import SqlCompiler.Proofs.Sql.Scan
