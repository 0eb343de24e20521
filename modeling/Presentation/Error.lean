import Presentation.Text.Inspect

/-!
# Errors of the presentation layer

One type for everything that can go wrong between the application, the
surface and the native layer. Causes that come from outside carry the reason
as text.
-/

set_option autoImplicit false

namespace Presentation

inductive Error where
  /-- The capabilities of the window cannot be read, or the device cannot present to it. -/
  | unsupportedSurface (reason : String)
  /-- The requested format, usage or size cannot be satisfied. -/
  | invalidConfig (reason : String)
  | notConfigured
  | notAcquired
  | alreadyAcquired
  /-- The native surface went stale, typically by a resize. -/
  | outOfDateSurface
  /-- The surface cannot be created for this window and device. -/
  | construction (reason : String)
  | backendError (reason : String)
  | outOfMemory
  deriving DecidableEq, Inhabited

namespace Error

def kind : Error → String
  | unsupportedSurface _ => "UnsupportedSurface"
  | invalidConfig _ => "InvalidConfig"
  | notConfigured => "NotConfigured"
  | notAcquired => "NotAcquired"
  | alreadyAcquired => "AlreadyAcquired"
  | outOfDateSurface => "OutOfDateSurface"
  | construction _ => "Construction"
  | backendError _ => "BackendError"
  | outOfMemory => "OutOfMemory"

def reason? : Error → Option String
  | unsupportedSurface reason | invalidConfig reason | construction reason
  | backendError reason => some reason
  | _ => none

/-- The error of a named kind. Kinds without a reason ignore the text. -/
def ofKind? (kind reason : String) : Option Error :=
  [unsupportedSurface reason, invalidConfig reason, notConfigured, notAcquired, alreadyAcquired,
    outOfDateSurface, construction reason, backendError reason, outOfMemory].find?
      (·.kind == kind)

def message : Error → String
  | unsupportedSurface reason => "Unsupported surface: " ++ reason
  | invalidConfig reason => "Invalid surface config: " ++ reason
  | notConfigured => "Surface is not configured"
  | notAcquired => "No surface image acquired"
  | alreadyAcquired => "A surface image is already acquired"
  | outOfDateSurface => "Surface is out of date"
  | construction reason => "Surface construction failed: " ++ reason
  | backendError reason => "Backend error: " ++ reason
  | outOfMemory => "Out of GPU memory"

def inspect (e : Error) : String :=
  match e.reason? with
  | some reason => e.kind ++ "(" ++ Text.quoted reason ++ ")"
  | none => e.kind

/-- Only an out-of-date surface can be recovered from, by configuring it again. -/
def isRecoverable : Error → Bool
  | outOfDateSurface => true
  | _ => false

/-- What the creation of a surface reports: a construction error, with the message of any
other error as its reason. -/
def toConstruction : Error → Error
  | construction reason => construction reason
  | e => construction e.message

end Error

end Presentation
