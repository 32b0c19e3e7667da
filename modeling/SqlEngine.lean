import SqlEngine.Database.Execute
import SqlEngine.Proofs.Catalog.Changes
import SqlEngine.Proofs.Catalog.Conversions
import SqlEngine.Proofs.Catalog.Linking
import SqlEngine.Proofs.Catalog.Redefinition
import SqlEngine.Proofs.Catalog.Relations
import SqlEngine.Proofs.Catalog.Soundness
import SqlEngine.Proofs.Database.Agreement
import SqlEngine.Proofs.Database.Checks
import SqlEngine.Proofs.Database.Consistency
import SqlEngine.Proofs.Database.Counters
import SqlEngine.Proofs.Database.DefinitionFrame
import SqlEngine.Proofs.Database.DefinitionParallel
import SqlEngine.Proofs.Database.DroppedColumns
import SqlEngine.Proofs.Database.Drops
import SqlEngine.Proofs.Database.Extensions
import SqlEngine.Proofs.Database.Faultless
import SqlEngine.Proofs.Database.Faults
import SqlEngine.Proofs.Database.Insertion
import SqlEngine.Proofs.Database.Invariants
import SqlEngine.Proofs.Database.KeyLayouts
import SqlEngine.Proofs.Database.Linking
import SqlEngine.Proofs.Database.PrimaryKeys
import SqlEngine.Proofs.Database.Reachable
import SqlEngine.Proofs.Database.Registries
import SqlEngine.Proofs.Database.Renaming
import SqlEngine.Proofs.Database.Rollback
import SqlEngine.Proofs.Database.SerialColumns
import SqlEngine.Proofs.Database.SerialDefaults
import SqlEngine.Proofs.Database.SingleCalls
import SqlEngine.Proofs.Database.Snapshot
import SqlEngine.Proofs.Database.StatementFrame
import SqlEngine.Proofs.Database.StatementParallel
import SqlEngine.Proofs.Database.Statements
import SqlEngine.Proofs.Database.Twins
import SqlEngine.Proofs.Database.Visibility
import SqlEngine.Proofs.Evaluation.Alike
import SqlEngine.Proofs.Evaluation.Cursors
import SqlEngine.Proofs.Evaluation.Frame
import SqlEngine.Proofs.Evaluation.Parallel
import SqlEngine.Proofs.Evaluation.Regrouping
import SqlEngine.Proofs.Expr.Arithmetic
import SqlEngine.Proofs.Expr.Like
import SqlEngine.Proofs.Expr.Membership
import SqlEngine.Proofs.Expr.Overloads
import SqlEngine.Proofs.Json.Order
import SqlEngine.Proofs.Query.OutputNames
import SqlEngine.Proofs.Rows.Aggregates
import SqlEngine.Proofs.Rows.Groups
import SqlEngine.Proofs.Rows.Joins
import SqlEngine.Proofs.Rows.Repeats
import SqlEngine.Proofs.Rows.StableSort
import SqlEngine.Proofs.Run
import SqlEngine.Proofs.Sql.Mentions
import SqlEngine.Proofs.Sql.OwnerChange
import SqlEngine.Proofs.Sql.SequenceClauses
import SqlEngine.Proofs.Storage.Index
import SqlEngine.Proofs.Storage.IndexPrefix
import SqlEngine.Proofs.Storage.Progression
import SqlEngine.Proofs.Storage.Table
import SqlEngine.Proofs.Storage.TableChange
import SqlEngine.Proofs.Storage.TableLayout
import SqlEngine.Proofs.Storage.TableRun
import SqlEngine.Proofs.Storage.ValueOrder
import SqlEngine.Proofs.Text.LowerCase
import SqlEngine.Proofs.Transaction.MapStack
import SqlEngine.Proofs.Types.ArrayGrammar
import SqlEngine.Proofs.Types.ArrayText
import SqlEngine.Proofs.Types.ByteText
import SqlEngine.Proofs.Types.ConversionSafety
import SqlEngine.Proofs.Types.Conversions
import SqlEngine.Proofs.Types.KeyOrder
import SqlEngine.Proofs.Types.Reconciliation
import SqlEngine.Proofs.Typing.Aggregates
import SqlEngine.Proofs.Typing.Building
import SqlEngine.Proofs.Typing.Combines
import SqlEngine.Proofs.Typing.Compilation
import SqlEngine.Proofs.Typing.Content
import SqlEngine.Proofs.Typing.Expressions
import SqlEngine.Proofs.Typing.IndexJoin
import SqlEngine.Proofs.Typing.Judgement
import SqlEngine.Proofs.Typing.Locality
import SqlEngine.Proofs.Typing.MovedColumns
import SqlEngine.Proofs.Typing.Regularity
import SqlEngine.Proofs.Typing.Renaming
import SqlEngine.Proofs.Typing.Selects
import SqlEngine.Proofs.Typing.Terms
