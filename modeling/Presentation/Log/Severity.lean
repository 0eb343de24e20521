/-!
# Log severities
-/

set_option autoImplicit false

namespace Presentation.Log

inductive Severity where
  | trace
  | debug
  | info
  | warn
  | error
  deriving DecidableEq, Inhabited

namespace Severity

/-- Severities are ordered from per-frame chatter to errors. -/
def rank : Severity → Nat
  | trace => 0
  | debug => 1
  | info => 2
  | warn => 3
  | error => 4

instance : LE Severity := ⟨fun a b => a.rank ≤ b.rank⟩

instance (a b : Severity) : Decidable (a ≤ b) := inferInstanceAs (Decidable (a.rank ≤ b.rank))

def all : List Severity := [trace, debug, info, warn, error]

def name : Severity → String
  | trace => "Trace"
  | debug => "Debug"
  | info => "Info"
  | warn => "Warn"
  | error => "Error"

def ofName? (text : String) : Option Severity := all.find? (·.name == text)

/-- The column heading of a severity in a log line, five characters wide. -/
def label : Severity → String
  | trace => "TRACE"
  | debug => "DEBUG"
  | info => "INFO "
  | warn => "WARN "
  | error => "ERROR"

theorem trace_le (s : Severity) : trace ≤ s := Nat.zero_le _

/-- The byte that a severity is kept as. -/
def code : Severity → UInt8
  | trace => 0
  | debug => 1
  | info => 2
  | warn => 3
  | error => 4

/-- The severity that is read from a byte. -/
def ofCode : UInt8 → Severity
  | 0 => trace
  | 1 => debug
  | 2 => info
  | 3 => warn
  | _ => error

@[simp] theorem ofCode_code (s : Severity) : ofCode s.code = s := by
  cases s with
  | _ => rfl

end Severity

end Presentation.Log
