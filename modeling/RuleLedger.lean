import RuleLedger.Log.Message
import RuleLedger.Main
import RuleLedger.Run.Verification
import RuleLedger.Proofs.Number.Binary64
import RuleLedger.Proofs.Number.Shortest
import RuleLedger.Proofs.Number.FloatText
import RuleLedger.Proofs.Canonical
import RuleLedger.Proofs.Run.Blocks
import RuleLedger.Proofs.Counters
import RuleLedger.Proofs.Run.Books
import RuleLedger.Proofs.Run.Replay
import RuleLedger.Proofs.Run.Timeless
import RuleLedger.Proofs.Run.Halting
import RuleLedger.Proofs.Run.Concatenation
import RuleLedger.Proofs.Run.Rebuild
import RuleLedger.Proofs.Run.Frame
import RuleLedger.Proofs.Run.Escape
import RuleLedger.Proofs.Expr.Grammar
import RuleLedger.Proofs.Expr.Forms
import RuleLedger.Proofs.Expr.Reading
import RuleLedger.Proofs.Expr.Accepting
import RuleLedger.Proofs.Expr.Refusing
import RuleLedger.Proofs.Expr.Language
import RuleLedger.Proofs.Number.Nearest
import RuleLedger.Proofs.Json.Numbers
import RuleLedger.Proofs.Json.Indented
import RuleLedger.Proofs.Json.Stored
import RuleLedger.Proofs.Files.Places
import RuleLedger.Proofs.Run.Marked
import RuleLedger.Proofs.Run.Reload
import RuleLedger.Proofs.Run.Reordering
import RuleLedger.Proofs.Run.Vouching
import RuleLedger.Proofs.Expr.Values
import RuleLedger.Proofs.Run.KeyOrder
import RuleLedger.Proofs.KeyPath.Diverging
import RuleLedger.Proofs.KeyPath.Promised
import RuleLedger.Proofs.Primitive.Rules
import RuleLedger.Proofs.Record.Distinct
import RuleLedger.Proofs.Primitive.Mutations
import RuleLedger.Proofs.Expr.Stops
import RuleLedger.Proofs.Record.Clocked
import RuleLedger.Proofs.Expr.Faults
import RuleLedger.Proofs.Primitive.Answers
import RuleLedger.Proofs.Expr.Answers
import RuleLedger.Proofs.Value.Comparison
import RuleLedger.Proofs.Expr.Equality
import RuleLedger.Proofs.Expr.Mentioned
import RuleLedger.Proofs.Expr.DottedNames
import RuleLedger.Proofs.Expr.Paths
import RuleLedger.Proofs.Ledger.Damaged
import RuleLedger.Proofs.Terminal.Shown
import RuleLedger.Proofs.Command.LedgerStatus
import RuleLedger.Proofs.Expr.Lexemes
import RuleLedger.Proofs.Expr.Tokens
import RuleLedger.Proofs.Expr.Literals
import RuleLedger.Proofs.Number.Exact
import RuleLedger.Proofs.Number.Whole
import RuleLedger.Proofs.Expr.Integers
import RuleLedger.Proofs.Primitive.IntegerText
import RuleLedger.Proofs.Expr.Interchange
import RuleLedger.Proofs.Expr.Brackets
import RuleLedger.Proofs.Time.Timestamp
import RuleLedger.Proofs.Run.Defects
import RuleLedger.Proofs.Invariant.Binding
import RuleLedger.Proofs.Value.NumberText
import RuleLedger.Proofs.Plan.Documents
import RuleLedger.Proofs.Number.Sums
import RuleLedger.Proofs.Metrics.Totals
import RuleLedger.Proofs.Metrics.Export
