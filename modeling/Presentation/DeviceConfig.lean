import Presentation.Text.Inspect

/-!
# Device configurations
-/

set_option autoImplicit false

namespace Presentation

/-- Which validation messages a device subscribes to. -/
inductive DebugSeverity where
  | errorsOnly
  | errorsAndWarnings
  | all
  deriving DecidableEq, Inhabited

namespace DebugSeverity

def every : List DebugSeverity := [errorsOnly, errorsAndWarnings, all]

def name : DebugSeverity → String
  | errorsOnly => "ErrorsOnly"
  | errorsAndWarnings => "ErrorsAndWarnings"
  | all => "All"

def ofName? (text : String) : Option DebugSeverity := every.find? (·.name == text)

end DebugSeverity

structure Version where
  major : UInt32
  minor : UInt32
  patch : UInt32
  deriving DecidableEq

/-- A version packed in a word: from the lowest bit 12 bits of patch, 10 of minor and 7 of major
number. A number that is too large spills into the bits above it. -/
def Version.packed (v : Version) : UInt32 := v.major <<< 22 ||| v.minor <<< 12 ||| v.patch

structure DeviceConfig where
  /-- Validation is wanted; it is had only where the backend supports it. -/
  validation : Bool
  appName : String
  appVersion : Version
  debugSeverity : DebugSeverity
  /-- Give up the process at the first validation error. -/
  breakOnValidationError : Bool
  deriving DecidableEq

namespace DeviceConfig

def default : DeviceConfig :=
  ⟨true, "Galaxy3D Application", ⟨1, 0, 0⟩, .errorsAndWarnings, false⟩

def inspect (c : DeviceConfig) : String :=
  Text.record "Config"
    [("enable_validation", Text.bool c.validation), ("app_name", Text.quoted c.appName),
      ("app_version",
        Text.tuple ([c.appVersion.major, c.appVersion.minor, c.appVersion.patch].map
          fun n => toString n.toNat)),
      ("debug_severity", c.debugSeverity.name),
      ("break_on_validation_error", Text.bool c.breakOnValidationError)]

end DeviceConfig

end Presentation
