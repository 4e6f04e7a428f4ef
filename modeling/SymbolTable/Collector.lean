import SymbolTable.Log

/-!
# Collecting diagnostics

A caller that goes on after an error puts its diagnostics into a collector. Each one is logged, and stored as
long as the collector has room; the others are counted.
-/

namespace SymbolTable

structure Collector where
  /-- How many diagnostics are stored at most. -/
  limit : Option Nat := none
  stored : Array Diagnostic := #[]
  dropped : Nat := 0

namespace Collector

def size (collector : Collector) : Nat := collector.stored.size

/-- Whether as many diagnostics are stored as the limit allows. -/
def isFull (collector : Collector) : Bool := collector.limit.any (· ≤ collector.size)

def push (collector : Collector) (diagnostic : Diagnostic) : Collector × Log :=
  (if collector.isFull then { collector with dropped := collector.dropped + 1 }
    else { collector with stored := collector.stored.push diagnostic },
    .ofEvents [.reported diagnostic])

/-- Passes a result through, or takes its diagnostic. -/
def record {α : Type} (collector : Collector) (result : Except Diagnostic α) :
    Option α × Collector × Log :=
  match result with
  | .ok value => (some value, collector, [])
  | .error diagnostic => (none, collector.push diagnostic)

/-- Whether nothing is stored. -/
def isEmpty (collector : Collector) : Bool := collector.stored.isEmpty

/-- Whether there was any diagnostic, stored or not. -/
def hasErrors (collector : Collector) : Bool := !collector.isEmpty || collector.dropped ≠ 0

/-- Success if there was no diagnostic, otherwise the stored ones. -/
def verdict (collector : Collector) : Except (List Diagnostic) Unit :=
  if collector.hasErrors then .error collector.stored.toList else .ok ()

/-- One line for each stored diagnostic, and one that counts the others, if there are any. -/
def text (collector : Collector) : String :=
  String.join (collector.stored.toList.map fun diagnostic => diagnostic.text ++ "\n")
    ++ if collector.dropped = 0 then "" else "... and " ++ collector.dropped.repr ++ " more errors\n"

end Collector

end SymbolTable
