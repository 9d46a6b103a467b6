import SelectQuery.Count
import SelectQuery.Entity
import SelectQuery.Inspection
import SelectQuery.Proofs.Placeholders
import SelectQuery.Schema.Json
import SelectQuery.Session
import SelectQuery.Settings
import SelectQuery.Proofs.Checks
import SelectQuery.Proofs.Script
import SelectQuery.Proofs.Syntax.Token
import SelectQuery.Proofs.Syntax.Expression
import SelectQuery.Proofs.Meaning
import SelectQuery.Proofs.Strict
import SelectQuery.Proofs.Atomicity
import SelectQuery.Proofs.Rearrangement
import SelectQuery.Proofs.Noninterference
import SelectQuery.Proofs.Phrase
import SelectQuery.Proofs.Sqlite.Lexer
import SelectQuery.Proofs.Sqlite.Literal
import SelectQuery.Proofs.Alias
import SelectQuery.Proofs.Sqlite.Inlined
import SelectQuery.Proofs.Syntax.Tree
import SelectQuery.Proofs.Syntax.Statement
import SelectQuery.Proofs.Syntax.Lexeme
import SelectQuery.Proofs.Readback
import SelectQuery.Proofs.Simulation
import SelectQuery.Proofs.Permissive
import SelectQuery.Proofs.Resolving
import SelectQuery.Proofs.Requests
import SelectQuery.Proofs.Stem
import SelectQuery.Proofs.Sqlite.Grammar
import SelectQuery.Proofs.Sqlite.Reference
import SelectQuery.Proofs.Sqlite.Sentence
import SelectQuery.Proofs.Comparability
import SelectQuery.Proofs.Lookup
import SelectQuery.Proofs.Collision
import SelectQuery.Proofs.AppendOnly
import SelectQuery.Proofs.Projection
import SelectQuery.Proofs.NestedPath
import SelectQuery.Proofs.Exchange
import SelectQuery.Proofs.Vacuous
import SelectQuery.Proofs.NamedColumn
import SelectQuery.Proofs.ColumnJoin
import SelectQuery.Proofs.Substitution
import SelectQuery.Proofs.Bytes
import SelectQuery.Proofs.Decimal
import SelectQuery.Proofs.Count.InPlace
import SelectQuery.Proofs.Count.Numeral
import SelectQuery.Proofs.Floating
import SelectQuery.Proofs.Count.Floating
import SelectQuery.Proofs.Chronology
import SelectQuery.Proofs.Decoding
import SelectQuery.Proofs.Trimming
import SelectQuery.Proofs.Spelling
import SelectQuery.Proofs.Sqlite.Stored
import SelectQuery.Proofs.Sqlite.Identifiers
import SelectQuery.Proofs.Environment
import SelectQuery.Proofs.TypePath
