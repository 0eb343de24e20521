import Presentation.Vulkan.Selection
import Presentation.Vulkan.Validation
import Presentation.Vulkan.WindowSurface

/-!
# The Vulkan device

Creating a device loads Vulkan, makes an instance, finds a physical device that
can present to a window, and makes the logical device. A creation that fails
gives back what it had made. Whether validation messages are forwarded is one
setting for the whole process, so every creation and release takes the setting
and returns it.
-/

set_option autoImplicit false

namespace Presentation.Vulkan

/-- The backend as built and installed. -/
structure Host where
  /-- Whether the Vulkan library can be loaded, or why not. -/
  library : Except String Unit
  /-- Whether the backend was built with support for validation. -/
  validation : Bool

structure Device where
  context : Context
  name : String
  deriving DecidableEq

def engineName : String := "Galaxy3D"
def engineVersion : Version := ⟨0, 1, 0⟩
def apiVersion : Version := ⟨1, 1, 0⟩
def validationLayer : String := "VK_LAYER_KHRONOS_validation"
def debugExtension : String := "VK_EXT_debug_utils"
def swapchainExtension : String := "VK_KHR_swapchain"

namespace Device

/-- The position of the first zero byte in the UTF-8 form of a text. -/
def zeroByte? (text : String) : Option Nat := text.toUTF8.toList.findIdx? (· == 0)

/-- The request for an instance. Its extensions are those of the display, and with validation
one more. -/
def instanceRequest (config : DeviceConfig) (extensions : List String) (validation : Bool) :
    InstanceRequest where
  appName := config.appName
  appVersion := config.appVersion.packed
  engineName
  engineVersion := engineVersion.packed
  apiVersion := apiVersion.packed
  layers := if validation then [validationLayer] else []
  extensions := extensions ++ if validation then [debugExtension] else []

/-- What can be settled before an instance is made: the extensions it needs, or what stands in
the way. -/
def prerequisites (host : Host) (handle : WindowHandle) (config : DeviceConfig) :
    Program (Except Error (List String)) := do
  match host.library with
  | .error reason => return .error (← refuse .construction (.libraryMissing reason))
  | .ok () =>
    match zeroByte? config.appName with
    | some position => return .error (← refuse .construction (.nameInvalid position))
    | none =>
      match handle.display.extensions with
      | .error code => return .error (← refuse .construction (.extensionsFailed code))
      | .ok extensions =>
        if config.validation && !host.validation then notice .validationUnavailable
        return .ok extensions

/-- The messenger of an instance, if validation is on. Forwarding is on from before it is
made, and stays on if it cannot be made. -/
def createMessenger (inst : Handle .inst) (config : DeviceConfig) (validation : Bool)
    (forwarding : Option Forwarding) :
    Program (Except Error (Option (Handle .messenger)) × Option Forwarding) := do
  if validation then
    let forwarding := some ⟨config.breakOnValidationError⟩
    match ← ask (.create (.messenger inst (severityFlags config.debugSeverity) messageTypes)) with
    | .error code => return (.error (← refuse .construction (.messengerFailed code)), forwarding)
    | .ok messenger => return (.ok (some messenger), forwarding)
  else return (.ok none, forwarding)

def queueFamilies (selection : Selection) : List Nat :=
  if selection.presentFamily = selection.graphicsFamily then [selection.graphicsFamily]
  else [selection.graphicsFamily, selection.presentFamily]

def openContext (inst : Handle .inst) (messenger : Option (Handle .messenger))
    (selection : Selection) (device : Handle .device) : Program Context := do
  let graphicsQueue ← ask (.queue device selection.graphicsFamily)
  let presentQueue ← ask (.queue device selection.presentFamily)
  return {
    inst, device, messenger, graphicsQueue, presentQueue
    gpu := selection.gpu
    graphicsFamily := selection.graphicsFamily
    presentFamily := selection.presentFamily }

/-- The error of a logical device that could not be made is worded apart from its entry. -/
def deviceError (code : Code) : Error :=
  .construction ("Failed to create device: " ++ code.name)

def instanceError (code : Code) : Error :=
  .construction ("Failed to create instance: " ++ code.name)

/-- The logical device of an instance, which is released if none can be made. -/
def createOn (inst : Handle .inst) (messenger : Option (Handle .messenger))
    (handle : WindowHandle) (validation : Bool) (forwarding : Option Forwarding) :
    Program (Except Error Device × Option Forwarding) := do
  match ← select inst handle with
  | .error e => return (.error e, ← Context.releaseInstance inst messenger)
  | .ok selection =>
    match ← ask (.create (.device inst selection.gpu (queueFamilies selection)
        [swapchainExtension])) with
    | .error code =>
      notice (.deviceFailed code)
      return (.error (deviceError code), ← Context.releaseInstance inst messenger)
    | .ok device =>
      notice (.deviceCreated selection.name selection.graphicsFamily selection.presentFamily
        validation)
      let context ← openContext inst messenger selection device
      return (.ok ⟨context, selection.name⟩, forwarding)

def create (host : Host) (window : Window) (config : DeviceConfig)
    (forwarding : Option Forwarding) : Program (Except Error Device × Option Forwarding) := do
  match WindowHandle.ofWindow window with
  | .error e => return (.error e, forwarding)
  | .ok handle =>
    match ← prerequisites host handle config with
    | .error e => return (.error e, forwarding)
    | .ok extensions =>
      let validation := config.validation && host.validation
      match ← ask (.create (.inst (instanceRequest config extensions validation))) with
      | .error code =>
        notice (.instanceFailed code)
        return (.error (instanceError code), forwarding)
      | .ok inst =>
        match ← createMessenger inst config validation forwarding with
        | (.error e, forwarding) =>
          destroyRoot inst
          return (.error e, forwarding)
        | (.ok messenger, forwarding) => createOn inst messenger handle validation forwarding

/-- A window surface that the device can present to. -/
def openWindow (d : Device) (handle : WindowHandle) : Program (Except Error WindowSurface) := do
  match ← createWindowSurface d.context.inst handle with
  | .error code => return .error (← refuse .unsupportedSurface (.surfaceFailed code))
  | .ok surface =>
    if ← canPresent d.context.gpu surface d.context.presentFamily then
      return .ok ⟨d.context, surface, none⟩
    else
      destroyOn d.context.inst (some surface)
      return .error (← refuse .unsupportedSurface (.cannotPresent d.name))

def waitIdle (d : Device) : Program (Except Error Unit) := do
  match ← ask (.waitIdle d.context.device) with
  | .ok () => return .ok ()
  | .error code => return .error (← refuse .backendError (.waitIdleFailed code))

end Device

end Presentation.Vulkan
