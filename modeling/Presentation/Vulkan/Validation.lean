import Presentation.DeviceConfig
import Presentation.Text.Bytes
import Presentation.Vulkan.Context

/-!
# Validation messages

A messenger subscribes to messages of the validation layer by severity. While
forwarding is on, each message becomes one log entry.
-/

set_option autoImplicit false

namespace Presentation.Vulkan

def verboseFlag : UInt32 := 0x1
def infoFlag : UInt32 := 0x10
def warningFlag : UInt32 := 0x100
def errorFlag : UInt32 := 0x1000

/-- The severities that a messenger subscribes to. -/
def severityFlags : DebugSeverity → UInt32
  | .errorsOnly => errorFlag
  | .errorsAndWarnings => errorFlag ||| warningFlag
  | .all => errorFlag ||| warningFlag ||| infoFlag ||| verboseFlag

def generalFlag : UInt32 := 1
def validationFlag : UInt32 := 2
def performanceFlag : UInt32 := 4

def messageTypes : UInt32 := generalFlag ||| validationFlag ||| performanceFlag

/-- What a message says. Either part may be missing. -/
structure MessageData where
  id : Option (List UInt8)
  text : Option (List UInt8)

structure Message where
  severity : UInt32
  type : UInt32
  data : Option MessageData

namespace Message

def has (word flag : UInt32) : Bool := word &&& flag == flag

def logSource : String := "galaxy3d::vulkan::validation"

/-- The severity of the log entry: that of the highest flag, and trace if there is none above
verbose. -/
def logSeverity (m : Message) : Log.Severity :=
  if has m.severity errorFlag then .error
  else if has m.severity warningFlag then .warn
  else if has m.severity infoFlag then .info
  else .trace

def typeName (m : Message) : String :=
  if has m.type validationFlag then "Validation"
  else if has m.type performanceFlag then "Performance"
  else "General"

/-- A string that ends at its first zero byte or at the end of its bytes. -/
def decode (bytes : List UInt8) : String := Text.decode ((Text.cString? bytes).getD bytes)

def MessageData.line (type : String) (d : MessageData) : String :=
  "[" ++ type ++ "] " ++ (d.id.map decode).getD "Unknown" ++ ": " ++
    (d.text.map decode).getD "No message"

/-- Forwards a message to the log, if forwarding is on and the message says anything. The
answer tells the validation layer never to abort the call that caused it. -/
def report (forwarding : Option Forwarding) (m : Message) : Program Bool :=
  match forwarding, m.data with
  | some f, some data => do
    .log (.report m.logSeverity logSource (MessageData.line m.typeName data))
    if f.breakOnError && m.logSeverity = .error then
      .log (.report .error logSource "Break on validation error, aborting")
      .halt .aborted
    else return false
  | _, _ => return false

end Message

end Presentation.Vulkan
