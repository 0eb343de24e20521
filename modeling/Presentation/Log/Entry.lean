import Presentation.Log.Severity

/-!
# Log entries

An entry is what a component has to say: how severe it is, who says it, the
message, and for errors the place it was said at.
-/

set_option autoImplicit false

namespace Presentation.Log

structure Location where
  file : String
  line : UInt32
  deriving DecidableEq

/-- A place is known only if both the file and the line are. -/
def Location.ofParts? : Option String → Option UInt32 → Option Location
  | some file, some line => some ⟨file, line⟩
  | _, _ => none

structure Entry where
  severity : Severity
  source : String
  message : String
  location : Option Location
  deriving DecidableEq

namespace Entry

/-- An entry as a log statement writes it: of all severities only an error names its place. -/
def statement (severity : Severity) (source message : String) (place : Location) : Entry :=
  ⟨severity, source, message, if severity = .error then some place else none⟩

/-- An entry of a component of this library, which is also its place. -/
def report (severity : Severity) (source message : String) : Entry :=
  statement severity source message ⟨source, 0⟩

def isLocated (e : Entry) : Bool := e.location.isSome

end Entry

end Presentation.Log
