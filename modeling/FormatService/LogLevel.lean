/-!
# Log levels

How much a run says. A message is printed when its own level is at least the
level of the run; at the silent level nothing is.
-/

set_option autoImplicit false

namespace FormatService

inductive LogLevel
  | debug
  | info
  | warn
  | error
  | silent
  deriving DecidableEq, Repr, Inhabited

namespace LogLevel

def rank : LogLevel → Nat
  | debug => 0
  | info => 1
  | warn => 2
  | error => 3
  | silent => 4

def name : LogLevel → String
  | debug => "Debug"
  | info => "Info"
  | warn => "Warn"
  | error => "Error"
  | silent => "Silent"

/-- Silence wins over verbosity. -/
def ofFlags (verbose quiet : Bool) : LogLevel :=
  if quiet then silent else if verbose then debug else info

/-- Whether a run at this level prints messages of the given level. -/
def shows (level message : LogLevel) : Bool := level.rank ≤ message.rank

end LogLevel

end FormatService
