import Presentation.Surface.Config
import Presentation.Vulkan.Call

/-!
# What the Vulkan backend logs

Every entry of the backend is one of these notices. A failure is logged once,
where it is turned into an error, and the error carries the text of the notice.
-/

set_option autoImplicit false

namespace Presentation.Vulkan

def logSource : String := "galaxy3d::vulkan"

inductive Notice where
  | callFailed (function : String) (code : Code)
  | libraryMissing (reason : String)
  | nameInvalid (position : Nat)
  | extensionsFailed (code : Code)
  | validationUnavailable
  | instanceFailed (code : Code)
  | messengerFailed (code : Code)
  | deviceFailed (code : Code)
  | deviceCreated (name : String) (graphicsFamily presentFamily : Nat) (validation : Bool)
  | surfaceFailed (code : Code)
  | gpusFailed (code : Code)
  | noGpu
  | cannotPresent (device : String)
  | waitIdleFailed (code : Code)
  | formatNotOffered (format : Format)
  | zeroExtent
  | noImages
  | swapchainCreated (extent : Extent) (format : FormatCode) (space : ColorSpace)
      (mode : ModeCode) (images : Nat) (hint : UInt32)
  | swapchainDestroyed
  | mustRecreate
  | suboptimalAcquire (index : Nat)
  | strayImage (index images : Nat)
  | notHeld (index : Nat) (held : Option Nat)
  | suboptimalPresent (index : Nat)
  | presentFailed (code : Code)

namespace Notice

open Log (Severity)

def severity : Notice → Severity
  | suboptimalAcquire _ | suboptimalPresent _ => .trace
  | swapchainCreated .. | swapchainDestroyed => .debug
  | deviceCreated .. => .info
  | validationUnavailable | zeroExtent | mustRecreate => .warn
  | _ => .error

def text : Notice → String
  | callFailed function code => function ++ " failed: " ++ code.name
  | libraryMissing reason => "Failed to load Vulkan library: " ++ reason
  | nameInvalid position =>
    "Invalid application name: nul byte found in provided data at position: " ++ toString position
  | extensionsFailed code => "Failed to get required extensions: " ++ code.name
  | validationUnavailable =>
    "Validation requested but the backend was built without the vulkan-validation feature"
  | instanceFailed code => "Failed to create Vulkan instance: " ++ code.name
  | messengerFailed code => "Failed to create debug messenger: " ++ code.name
  | deviceFailed code => "Failed to create logical device: " ++ code.name
  | deviceCreated name graphicsFamily presentFamily validation =>
    "Vulkan device '" ++ name ++ "' created (graphics family " ++ toString graphicsFamily ++
      ", present family " ++ toString presentFamily ++ ", validation " ++
      Text.bool validation ++ ")"
  | surfaceFailed code => "Failed to create surface: " ++ code.name
  | gpusFailed code => "Failed to enumerate physical devices: " ++ code.name
  | noGpu => "No Vulkan GPU can present to this window"
  | cannotPresent device => "'" ++ device ++ "' cannot present to this window"
  | waitIdleFailed code => "Failed to wait idle: " ++ code.name
  | formatNotOffered format => "Surface does not offer format " ++ format.name
  | zeroExtent => "Surface has a zero extent, cannot create a swapchain"
  | noImages => "vkGetSwapchainImagesKHR returned no images"
  | swapchainCreated extent format space mode images hint =>
    "Swapchain created: " ++ toString extent.width.toNat ++ "x" ++ toString extent.height.toNat ++
      " " ++ format.name ++ " " ++ space.name ++ " " ++ mode.name ++ ", " ++ toString images ++
      " images (hint " ++ toString hint.toNat ++ ")"
  | swapchainDestroyed => "Swapchain destroyed"
  | mustRecreate => "Swapchain must be recreated before the next acquire"
  | suboptimalAcquire index => "Swapchain suboptimal on acquire (image " ++ toString index ++ ")"
  | strayImage index images =>
    "vkAcquireNextImageKHR returned image " ++ toString index ++ " of " ++ toString images
  | notHeld index held =>
    "present: image " ++ toString index ++ " is not acquired (held: " ++
      Text.option (held.map toString) ++ ")"
  | suboptimalPresent index => "Swapchain suboptimal on present (image " ++ toString index ++ ")"
  | presentFailed code =>
    "vkQueuePresentKHR failed: " ++ code.name ++ ", swapchain must be recreated"

def entry (n : Notice) : Log.Entry := .report n.severity logSource n.text

end Notice

variable {I : Interface}

def notice (n : Notice) : Presentation.Program I Unit := .log n.entry

/-- Logs a failure, and gives the error that is made of its text. -/
def refuse (toError : String → Error) (n : Notice) : Presentation.Program I Error := do
  notice n
  return toError n.text

/-- The error for a call that failed. An out-of-date surface is left for the caller to report;
a lost surface, an exhausted memory and any other failure are logged here. -/
def callFailure (function : String) (code : Code) : Presentation.Program I Error :=
  if code = .outOfDate then return .outOfDateSurface
  else if code = .surfaceLost ∨ code = .nativeWindowInUse then
    refuse .unsupportedSurface (.callFailed function code)
  else if code = .outOfHostMemory ∨ code = .outOfDeviceMemory then
    refuse (fun _ => .outOfMemory) (.callFailed function code)
  else refuse .backendError (.callFailed function code)

end Presentation.Vulkan
