import Courier.ArgumentError

/-!
# Severities

How much a record matters, from tracing to fatal failures. A threshold lets
through what matters as much or more.
-/

namespace Courier

inductive Severity where
  | trace
  | debug
  | info
  | warning
  | error
  | fatal
  deriving DecidableEq, Repr

namespace Severity

def name : Severity → String
  | trace => "trace"
  | debug => "debug"
  | info => "info"
  | warning => "warning"
  | error => "error"
  | fatal => "fatal"

def rank : Severity → Nat
  | trace => 0
  | debug => 1
  | info => 2
  | warning => 3
  | error => 4
  | fatal => 5

/-- The severity with exactly this name. -/
def ofName? : String → Option Severity
  | "trace" => some trace
  | "debug" => some debug
  | "info" => some info
  | "warning" => some warning
  | "error" => some error
  | "fatal" => some fatal
  | _ => none

def parse (name : String) : Except ArgumentError Severity :=
  match ofName? name with
  | some severity => .ok severity
  | none => .error (.severity name)

/-- Whether a record of a severity gets past a threshold. -/
def passes (severity threshold : Severity) : Bool := threshold.rank ≤ severity.rank

end Severity

end Courier
