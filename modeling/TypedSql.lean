import TypedSql.Calendar.Fields
import TypedSql.Declaration.Derived
import TypedSql.Execution.Application
import TypedSql.Execution.Inspect
import TypedSql.Execution.Scripted
import TypedSql.Inspect
import TypedSql.Key
import TypedSql.Postgres.Pool
import TypedSql.Postgres.Scripted
import TypedSql.Statement.Builder
import TypedSql.Expr.Write
import TypedSql.Proofs.Shape
import TypedSql.Proofs.Writing
import TypedSql.Proofs.Skeleton
import TypedSql.Proofs.Replacement
import TypedSql.Proofs.LiteralReading
import TypedSql.Proofs.Lexical
import TypedSql.Proofs.InlineText
import TypedSql.Proofs.Comments
import TypedSql.Proofs.Prepared
import TypedSql.Proofs.Leaves
import TypedSql.Proofs.Registration
import TypedSql.Proofs.Resolution
import TypedSql.Proofs.Layout
import TypedSql.Proofs.Scoping
import TypedSql.Proofs.Placement
import TypedSql.Proofs.Aliases
import TypedSql.Proofs.Lexemes
import TypedSql.Proofs.UniqueReading
import TypedSql.Proofs.Elementary
import TypedSql.Proofs.LexedConditions
import TypedSql.Proofs.SessionTriples
import TypedSql.Proofs.TransactionSteps
import TypedSql.Proofs.TransactionRuns
import TypedSql.Proofs.OpenSlots
import TypedSql.Proofs.ParameterModes
import TypedSql.Proofs.Ownership
import TypedSql.Proofs.Openings
import TypedSql.Proofs.PooledSessions
import TypedSql.Proofs.Balance
import TypedSql.Proofs.ReturnedColumns
import TypedSql.Proofs.ParameterSets
import TypedSql.Proofs.Agreement
import TypedSql.Proofs.Observers
import TypedSql.Proofs.Chains
import TypedSql.Proofs.BuilderStages
import TypedSql.Proofs.SharedRenderings
import TypedSql.Proofs.TypeTexts
import TypedSql.Proofs.DerivedRows
import TypedSql.Proofs.WireRoundTrip
import TypedSql.Proofs.FirstSlots
import TypedSql.Proofs.RowAlignment
import TypedSql.Proofs.JoinedDeletes
import TypedSql.Proofs.CommittedWork
import TypedSql.Proofs.Identifiers
import TypedSql.Proofs.DayNumbers
import TypedSql.Proofs.WrittenInstants
import TypedSql.Proofs.ColumnValues
import TypedSql.Proofs.AliasDraws
import TypedSql.Proofs.Templates
import TypedSql.Proofs.Appending
import TypedSql.Proofs.TypedParameters
import TypedSql.Proofs.DerivedNames
