/-!
# Handles

A handle refers to a symbol of one environment. It says which environment issued it, which of the two arenas
of that environment holds the symbol, at which position, and in which generation of the arena. A release
starts a new generation, so older handles no longer fit.
-/

namespace SymbolTable

inductive ArenaKind where
  | declared
  | temporary
  deriving DecidableEq

def ArenaKind.text : ArenaKind → String
  | .declared => "declared"
  | .temporary => "temporary"

structure Handle where
  owner : UInt64
  kind : ArenaKind
  position : Nat
  generation : UInt32
  deriving DecidableEq

def Handle.isTemporary (handle : Handle) : Bool := handle.kind == .temporary

end SymbolTable
