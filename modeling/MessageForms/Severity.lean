import MessageForms.Text

/-!
# Severities

Reports are ranked by how serious they are. A host names a severity, or the threshold that
reports must reach, by its number.
-/

namespace MessageForms

/-- How serious a report is. -/
inductive Severity where
  | trace
  | debug
  | info
  | warning
  | error
  | fatal
deriving DecidableEq, Repr

namespace Severity

/-- The number of a severity; more serious ones have greater numbers. -/
def number : Severity → Nat
  | trace => 0
  | debug => 1
  | info => 2
  | warning => 3
  | error => 4
  | fatal => 5

/-- The severity with a number; a number that none has reads as `info`. -/
def ofNumber : Nat → Severity
  | 0 => trace
  | 1 => debug
  | 3 => warning
  | 4 => error
  | 5 => fatal
  | _ => info

/-- The number at which a threshold lets nothing pass. -/
def offNumber : Nat := 6

/-- The severity that a threshold number stands for: the one that lets nothing pass counts
as `fatal`, all others as `ofNumber` reads them. -/
def ofThreshold (number : Nat) : Severity :=
  if number = offNumber then fatal else ofNumber number

/-- The name of a severity in a log line. -/
def name : Severity → Text
  | trace => "trace"
  | debug => "debug"
  | info => "info"
  | warning => "warning"
  | error => "error"
  | fatal => "critical"

end Severity

end MessageForms
