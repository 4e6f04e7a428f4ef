import SymbolTable.Context
import SymbolTable.Diagnostic

/-!
# The log

Operations report what they do as a list of records in order. A record is an event, or the opening of a span;
one span is opened for each use of an operator, and the events of that use name it. Records are typed here,
and `Event.level`, `Event.message`, `Event.fields` and their counterparts for spans say how they are shown.
-/

namespace SymbolTable

inductive Level where
  | error
  | debug
  | trace
  deriving DecidableEq

def Level.text : Level → String
  | .error => "ERROR"
  | .debug => "DEBUG"
  | .trace => "TRACE"

/-- What a field of a record holds. -/
inductive FieldValue where
  | text (text : String)
  | number (n : Nat)
  deriving DecidableEq

inductive Event where
  | declared (name : String) (ty : Ty) (line : UInt32)
  | duplicate (name : String) (line : UInt32)
  | assigned (name : String) (value : Value) (line : UInt32)
  | temporary (name : String) (value : Value)
  | releasingDeclared (count : Nat)
  | releasingTemporaries (count : Nat)
  | typeMismatch (op : Operator) (line : UInt32)
  | divisionByZero (line : UInt32)
  | operandCount (op : Operator) (line : UInt32)
  | evaluated (op : Operator) (value : Value) (context : Context)
  | reported (diagnostic : Diagnostic)
  deriving DecidableEq

namespace Event

/-- Events about values are of the finest level, but the result of an operator is raised from it where the
context asks for that. -/
def level : Event → Level
  | .reported _ => .error
  | .assigned .. | .temporary .. => .trace
  | .evaluated _ _ context => if context.trace then .debug else .trace
  | _ => .debug

def message : Event → String
  | .declared .. => "declared symbol"
  | .duplicate .. => "duplicate declaration"
  | .assigned .. => "assigned"
  | .temporary .. => "new temporary"
  | .releasingDeclared _ => "releasing declared symbols"
  | .releasingTemporaries _ => "releasing temporaries"
  | .typeMismatch .. => "operand type mismatch"
  | .divisionByZero _ => "division by zero"
  | .operandCount .. => "operator dispatched with wrong operand count"
  | .evaluated .. => "evaluated"
  | .reported diagnostic => diagnostic.text

def fields : Event → List (String × FieldValue)
  | .declared name ty line => [("name", .text name), ("ty", .text ty.text), ("line", .number line.toNat)]
  | .duplicate name line => [("name", .text name), ("line", .number line.toNat)]
  | .assigned name value line =>
    [("name", .text name), ("value", .text value.text), ("line", .number line.toNat)]
  | .temporary name value =>
    [("name", .text name), ("ty", .text value.ty.text), ("value", .text value.text)]
  | .releasingDeclared count | .releasingTemporaries count => [("count", .number count)]
  | .typeMismatch op line | .operandCount op line =>
    [("op", .text op.spelling), ("line", .number line.toNat)]
  | .divisionByZero line => [("line", .number line.toNat)]
  | .evaluated op value context =>
    [("op", .text op.spelling), ("value", .text value.text), ("line", .number context.line.toNat)]
  | .reported diagnostic => [("line", .number diagnostic.line.toNat)]

end Event

/-- One use of an operator, with the names of its operands. -/
inductive Span where
  | binary (op : BinaryOperator) (left right : String)
  | negation (operand : String)
  deriving DecidableEq

namespace Span

def name : Span → String
  | .binary (.arithmetic op) _ _ => op.description
  | .binary (.comparison _) _ _ => "comparison"
  | .binary (.connective .and) _ _ => "and"
  | .binary (.connective .or) _ _ => "or"
  | .negation _ => "not"

def fields : Span → List (String × FieldValue)
  | .binary (.comparison op) left right =>
    [("left", .text left), ("right", .text right), ("op", .text op.spelling)]
  | .binary _ left right => [("left", .text left), ("right", .text right)]
  | .negation operand => [("operand", .text operand)]

def level : Span → Level := fun _ => .trace

end Span

inductive LogRecord where
  | opened (span : Span)
  | event (inside : Option Span) (event : Event)
  deriving DecidableEq

abbrev Log := List LogRecord

/-- The log of events that belong to no use of an operator. -/
def Log.ofEvents (events : List Event) : Log := events.map (.event none)

/-- Opens a span and puts the events that stand in none inside it. -/
def Log.within (span : Span) (log : Log) : Log :=
  .opened span :: log.map fun
    | .event none event => .event (some span) event
    | record => record

/-- The event by which a fault shows in the log. A missing name, a value of another type and a result out of
range leave none. -/
def Diagnostic.event? (diagnostic : Diagnostic) : Option Event :=
  match diagnostic.fault with
  | .typeMismatch mismatch => some (.typeMismatch mismatch.op diagnostic.line)
  | .divisionByZero => some (.divisionByZero diagnostic.line)
  | .operandCount op => some (.operandCount op diagnostic.line)
  | .duplicateDeclaration name => some (.duplicate name diagnostic.line)
  | .overflow _ | .undeclaredVariable _ | .valueTypeMismatch .. => none

end SymbolTable
