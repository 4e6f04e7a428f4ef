import SymbolTable.Text.Item
import SymbolTable.Operator.Token
import SymbolTable.Script.Session
import SymbolTable.Expr.Meaning
import SymbolTable.Expr.Typing
import SymbolTable.Version
import SymbolTable.Proofs.Effect
import SymbolTable.Proofs.Store.Run
import SymbolTable.Proofs.Handle.Standing
import SymbolTable.Proofs.Handle.Safety
import SymbolTable.Proofs.Declarations.Roster
import SymbolTable.Proofs.Expr.Evaluation
import SymbolTable.Proofs.Store.Refusal
import SymbolTable.Proofs.Names.Draws
import SymbolTable.Proofs.Expr.Soundness
import SymbolTable.Proofs.Handle.Identity
import SymbolTable.Proofs.Routine.Basic
import SymbolTable.Proofs.Routine.Isolation
import SymbolTable.Proofs.Text.Lines
import SymbolTable.Proofs.Collector.Account
import SymbolTable.Proofs.Outcome
import SymbolTable.Proofs.Environment.Independence
import SymbolTable.Proofs.Context.Dating
import SymbolTable.Proofs.Environment.Shift
import SymbolTable.Proofs.Routine.Alone
import SymbolTable.Proofs.Routine.Renewal
import SymbolTable.Proofs.Routine.Afresh
import SymbolTable.Proofs.Log.Failure
import SymbolTable.Proofs.Log.Ledger
import SymbolTable.Proofs.Log.Account
import SymbolTable.Proofs.Operator.Reference
import SymbolTable.Proofs.Text.Pieces
import SymbolTable.Proofs.Text.Wording
import SymbolTable.Proofs.Operator.Tokens
import SymbolTable.Proofs.Operator.Order
import SymbolTable.Proofs.Text.Values
import SymbolTable.Proofs.Text.Symbols
import SymbolTable.Proofs.Text.Fields
import SymbolTable.Proofs.Text.Table
