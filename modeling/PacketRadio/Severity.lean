/-!
# Severities

How loudly a notice is reported.
-/

namespace PacketRadio

/-- The severity of a notice, the least one first. -/
inductive Severity
  | trace
  | debug
  | info
  | warn
  | error
  deriving DecidableEq

namespace Severity

/-- The position of a severity, the least one at zero. -/
def rank : Severity → Nat
  | trace => 0
  | debug => 1
  | info => 2
  | warn => 3
  | error => 4

/-- The word in front of a notice. -/
def text : Severity → String
  | trace => "TRACE"
  | debug => "DEBUG"
  | info => "INFO"
  | warn => "WARN"
  | error => "ERROR"

/-- `s` is heard by a listener that asked for `threshold`. -/
def reaches (s threshold : Severity) : Bool := threshold.rank ≤ s.rank

end Severity

end PacketRadio
