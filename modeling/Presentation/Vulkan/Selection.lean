import Presentation.Text.Bytes
import Presentation.Vulkan.Notice
import Presentation.Window

/-!
# Choosing a physical device

A physical device qualifies for a surface if it has a queue family for graphics
and one that can present to the surface. Discrete devices are preferred, and
among equals the first.
-/

set_option autoImplicit false

namespace Presentation

/-- The instance extensions that a display needs, or the code of the failure to name them. -/
def DisplayHandle.extensions : DisplayHandle → Except Vulkan.Code (List String)
  | xlib _ => .ok ["VK_KHR_surface", "VK_KHR_xlib_surface"]
  | xcb _ => .ok ["VK_KHR_surface", "VK_KHR_xcb_surface"]
  | wayland => .ok ["VK_KHR_surface", "VK_KHR_wayland_surface"]
  | windows => .ok ["VK_KHR_surface", "VK_KHR_win32_surface"]
  | android => .ok ["VK_KHR_surface", "VK_KHR_android_surface"]
  | uikit => .ok ["VK_KHR_surface", "VK_EXT_metal_surface"]
  | web => .error .extensionNotPresent

/-- The window system to create a surface with. Display and window have to belong together, and
the connection or program instance that the window system wants has to be there. -/
def WindowHandle.platform (handle : WindowHandle) : Except Vulkan.Code Vulkan.Platform :=
  match handle.display, handle.window with
  | .xlib connected, .xlib => if connected then .ok .xlib else .error .initializationFailed
  | .xcb connected, .xcb => if connected then .ok .xcb else .error .initializationFailed
  | .wayland, .wayland => .ok .wayland
  | .windows, .win32 hasInstance => if hasInstance then .ok .win32 else .error .initializationFailed
  | .android, .android => .ok .android
  | _, _ => .error .extensionNotPresent

namespace Vulkan

/-- Creates a surface for a window. Nothing is asked if the handles do not allow one. -/
def createWindowSurface (inst : Handle .inst) (handle : WindowHandle) :
    Program (Except Code (Handle .surface)) :=
  match handle.platform with
  | .error code => return .error code
  | .ok platform => ask (.create (.surface inst platform))

structure Selection where
  gpu : Gpu
  graphicsFamily : Nat
  presentFamily : Nat
  name : String
  deriving DecidableEq

structure Candidate where
  selection : Selection
  discrete : Bool
  deriving DecidableEq

def GpuProperties.nameText (p : GpuProperties) : String :=
  ((Text.cString? p.name).map Text.decode).getD "Unknown GPU"

/-- A family whose query fails counts as one that cannot present. -/
def canPresent (gpu : Gpu) (surface : Handle .surface) (family : Nat) : Program Bool := do
  return (← ask (.surfaceSupport gpu family surface)).toOption.getD false

/-- The first family of a list that can present. -/
def findPresentFamily (gpu : Gpu) (surface : Handle .surface) : List Nat → Program (Option Nat)
  | [] => return none
  | family :: rest => do
    if ← canPresent gpu surface family then return some family
    else findPresentFamily gpu surface rest

/-- The graphics family if it can present, else the first that can. -/
def choosePresentFamily (gpu : Gpu) (surface : Handle .surface) (graphics families : Nat) :
    Program (Option Nat) := do
  if ← canPresent gpu surface graphics then return some graphics
  else findPresentFamily gpu surface (List.range families)

def candidate (surface : Handle .surface) (gpu : Gpu) : Program (Option Candidate) := do
  let properties ← ask (.gpuProperties gpu)
  let families ← ask (.queueFamilies gpu)
  match families.findIdx? (·.hasGraphics) with
  | none => return none
  | some graphics =>
    match ← choosePresentFamily gpu surface graphics families.length with
    | none => return none
    | some present =>
      return some ⟨⟨gpu, graphics, present, properties.nameText⟩,
        properties.type = GpuProperties.discrete⟩

def candidates (surface : Handle .surface) : List Gpu → Program (List Candidate)
  | [] => return []
  | gpu :: rest => do
    let first ← candidate surface gpu
    return first.toList ++ (← candidates surface rest)

def preferred (all : List Candidate) : Option Candidate := (all.find? (·.discrete)).or all.head?

def selectFor (inst : Handle .inst) (surface : Handle .surface) :
    Program (Except Error Selection) := do
  match ← ask (.gpus inst) with
  | .error code => return .error (← refuse .construction (.gpusFailed code))
  | .ok gpus =>
    match preferred (← candidates surface gpus) with
    | none => return .error (← refuse .construction .noGpu)
    | some best => return .ok best.selection

/-- The physical device for a window, found with a surface made for the purpose. -/
def select (inst : Handle .inst) (handle : WindowHandle) : Program (Except Error Selection) := do
  match ← createWindowSurface inst handle with
  | .error code => return .error (← refuse .construction (.surfaceFailed code))
  | .ok surface =>
    let result ← selectFor inst surface
    destroyOn inst (some surface)
    return result

end Vulkan

end Presentation
