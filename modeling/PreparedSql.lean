import PreparedSql.Condition.Template
import PreparedSql.Context.Configuration
import PreparedSql.Description.Statement
import PreparedSql.Double.Layout
import PreparedSql.Draft.Building
import PreparedSql.Json.Printer
import PreparedSql.Json.Reader
import PreparedSql.Main
import PreparedSql.Ordering
import PreparedSql.Pagination
import PreparedSql.Proofs.Alignment
import PreparedSql.Proofs.Building
import PreparedSql.Proofs.Canonical
import PreparedSql.Proofs.Cells
import PreparedSql.Proofs.Chain
import PreparedSql.Proofs.Congruence
import PreparedSql.Proofs.Correspondence
import PreparedSql.Proofs.Denotation
import PreparedSql.Proofs.Entries
import PreparedSql.Proofs.Faults
import PreparedSql.Proofs.Filtering
import PreparedSql.Proofs.Flattening
import PreparedSql.Proofs.Grammar
import PreparedSql.Proofs.History
import PreparedSql.Proofs.Inlining
import PreparedSql.Proofs.Lexing
import PreparedSql.Proofs.Listing
import PreparedSql.Proofs.Literals
import PreparedSql.Proofs.Loading
import PreparedSql.Proofs.Marking
import PreparedSql.Proofs.Masking
import PreparedSql.Proofs.Meaning
import PreparedSql.Proofs.Nearest
import PreparedSql.Proofs.Neighbours
import PreparedSql.Proofs.Nesting
import PreparedSql.Proofs.Outcome
import PreparedSql.Proofs.Pairing
import PreparedSql.Proofs.Portability
import PreparedSql.Proofs.Rebinding
import PreparedSql.Proofs.Region
import PreparedSql.Proofs.Renaming
import PreparedSql.Proofs.Resolution
import PreparedSql.Proofs.Sources
import PreparedSql.Proofs.Spelling
import PreparedSql.Proofs.Stripping
import PreparedSql.Proofs.Swapping
import PreparedSql.Proofs.Unquoting
import PreparedSql.Proofs.Untagged
import PreparedSql.Proofs.Unwrapping
import PreparedSql.Proofs.Windowing
import PreparedSql.Proofs.Writing
import PreparedSql.Query
import PreparedSql.Statement.Prepared
import PreparedSql.Text.Blank
import PreparedSql.Text.Quoted
import PreparedSql.Value.Json
