import Presentation.Log.Entry
import Presentation.Surface.Config

/-!
# What a surface logs

Every entry of a surface is one of these notices. The severity follows from the
notice: frames are traced, configurations are news, an out-of-date surface is a
warning, and whatever else goes wrong is an error.
-/

set_option autoImplicit false

namespace Presentation.Surface

def logSource : String := "galaxy3d::Surface"

inductive Notice where
  | createFailed (device : String) (e : Error)
  | queryFailed (e : Error)
  | noFormats
  | created (device : String) (preferred : Format) (formats : Nat)
  | configRejected (e : Error)
  | reconfigureDropsImage
  | noImages
  | otherCount (requested : UInt32) (realized : Nat)
  | configured (desc : SwapchainDesc) (images : Nat)
  | infoKept (e : Error)
  | unconfigureDropsImage
  | unconfigured
  | acquireUnconfigured
  | acquireWhileHeld (held : Nat)
  | poolStale
  | acquireOutOfDate
  | acquireFailed (e : Error)
  | strayImage (index images : Nat)
  | acquired (index generation : Nat)
  | presentWithoutImage
  | presented (index : Nat)
  | presentOutOfDate
  | presentFailed (index : Nat) (e : Error)
  | droppedWhileHeld

namespace Notice

open Log (Severity)

def severity : Notice → Severity
  | acquired .. | presented _ => .trace
  | reconfigureDropsImage | otherCount .. | unconfigureDropsImage | droppedWhileHeld => .debug
  | created .. | configured .. | unconfigured => .info
  | infoKept _ | poolStale | acquireOutOfDate | presentOutOfDate => .warn
  | createFailed .. | queryFailed _ | noFormats | configRejected _ | noImages
  | acquireUnconfigured | acquireWhileHeld _ | acquireFailed _ | strayImage .. | presentWithoutImage
  | presentFailed .. => .error

def text : Notice → String
  | createFailed device e => "Failed to create surface on '" ++ device ++ "': " ++ e.message
  | queryFailed e => "Failed to query surface capabilities: " ++ e.message
  | noFormats => "Surface reports no presentable formats"
  | created device preferred formats =>
    "Surface created on '" ++ device ++ "' (preferred format " ++ preferred.name ++ ", " ++
      toString formats ++ " formats)"
  | configRejected e => "Rejected surface config: " ++ e.message
  | reconfigureDropsImage => "Reconfigure drops the held image without presenting it"
  | noImages =>
    "Native swapchain configured without images, acquisition will report out of date"
  | otherCount requested realized =>
    "Requested " ++ toString requested.toNat ++ " images, backend realized " ++ toString realized
  | configured desc images =>
    "Configured " ++ toString desc.width.toNat ++ "x" ++ toString desc.height.toNat ++ " " ++
      desc.format.name ++ " usage=" ++ desc.usage.inspect ++ " images=" ++ toString images ++
      " vsync=" ++ Text.bool desc.vsync
  | infoKept e => "Keeping previous surface info: " ++ e.message
  | unconfigureDropsImage => "Unconfigure drops the held image without presenting it"
  | unconfigured => "Surface unconfigured"
  | acquireUnconfigured => "acquire_next_image() on an unconfigured surface"
  | acquireWhileHeld held =>
    "acquire_next_image() while image " ++ toString held ++ " is still held"
  | poolStale => "Image pool is stale, reconfigure required"
  | acquireOutOfDate => "Surface out of date on acquire, reconfigure required"
  | acquireFailed e => "Acquire failed: " ++ e.message
  | strayImage index images =>
    "Backend acquired image " ++ toString index ++ " but the pool has " ++ toString images ++
      " images, reconfigure required"
  | acquired index generation =>
    "Acquired image " ++ toString index ++ " (generation " ++ toString generation ++ ")"
  | presentWithoutImage => "present() without an acquired image"
  | presented index => "Presented image " ++ toString index
  | presentOutOfDate => "Surface out of date on present, reconfigure required"
  | presentFailed index e =>
    "Present of image " ++ toString index ++ " failed, image still held: " ++ e.message
  | droppedWhileHeld => "Surface dropped while an image is held, releasing it unpresented"

def entry (n : Notice) : Log.Entry := .report n.severity logSource n.text

end Notice

end Presentation.Surface
