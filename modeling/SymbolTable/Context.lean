/-!
# Evaluation contexts

Every fallible operation is given the line of the statement being processed, which its diagnostics carry, and
whether results of operators are worth more than the finest level of the log.
-/

namespace SymbolTable

structure Context where
  line : UInt32 := 1
  trace : Bool := false
  deriving DecidableEq

namespace Context

def atLine (line : UInt32) : Context := { line }

def withTrace (context : Context) (trace : Bool) : Context := { context with trace }

def withLine (context : Context) (line : UInt32) : Context := { context with line }

/-- The next line; the last line that can be counted stays. -/
def next (context : Context) : Context :=
  if context.line.toNat + 1 < UInt32.size then { context with line := context.line + 1 } else context

end Context

end SymbolTable
