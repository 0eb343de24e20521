import Presentation.Native
import Presentation.Vulkan.Frame

/-!
# The Vulkan side of a surface

A window surface and its swapchain, as a server for the calls of the surface
layer.
-/

set_option autoImplicit false

namespace Presentation.Vulkan

structure WindowSurface where
  context : Context
  surface : Handle .surface
  swapchain : Option Swapchain
  deriving DecidableEq

namespace WindowSurface

def queryInfo (ws : WindowSurface) : Program (Except Error SurfaceInfo) := do
  match ← ask (.capabilities ws.context.gpu ws.surface) with
  | .error code =>
    return .error (← refuse .unsupportedSurface
      (.callFailed "vkGetPhysicalDeviceSurfaceCapabilitiesKHR" code))
  | .ok capabilities =>
    match ← ask (.surfaceFormats ws.context.gpu ws.surface) with
    | .error code =>
      return .error (← refuse .unsupportedSurface
        (.callFailed "vkGetPhysicalDeviceSurfaceFormatsKHR" code))
    | .ok formats => return .ok (surfaceInfo formats capabilities.usage)

def releaseSwapchain (ws : WindowSurface) : Program Unit :=
  match ws.swapchain with
  | some sc => sc.release ws.context
  | none => return ()

/-- The old swapchain stays in use until the new one is complete. -/
def configure (ws : WindowSurface) (desc : SwapchainDesc) :
    Program (Except Error Unit × WindowSurface) := do
  match ← Swapchain.create ws.context ws.surface desc (ws.swapchain.map (·.handle)) with
  | .error e => return (.error e, ws)
  | .ok sc =>
    ws.releaseSwapchain
    return (.ok (), { ws with swapchain := some sc })

def unconfigure (ws : WindowSurface) : Program WindowSurface := do
  if ws.swapchain.isSome then
    ws.releaseSwapchain
    notice .swapchainDestroyed
  return { ws with swapchain := none }

def textures (ws : WindowSurface) : List Texture :=
  match ws.swapchain with
  | some sc => sc.textures.map fun texture => ⟨texture.image.id, texture.info⟩
  | none => []

/-- Works on the swapchain, which has to be there. -/
def onSwapchain {α : Type} (ws : WindowSurface) (t : Context → Swapchain.Build α) :
    Program (Except Error α × WindowSurface) :=
  match ws.swapchain with
  | none => return (.error .notConfigured, ws)
  | some sc => do
    let (result, sc) ← t ws.context sc
    return (result, { ws with swapchain := some sc })

def serve (call : Native.Call) (ws : WindowSurface) : Program (call.Answer × WindowSurface) :=
  match call with
  | .queryInfo => return (← ws.queryInfo, ws)
  | .configure desc => ws.configure desc
  | .unconfigure => return ((), ← ws.unconfigure)
  | .images => return (ws.textures, ws)
  | .acquire => ws.onSwapchain Swapchain.acquire
  | .present index => ws.onSwapchain (Swapchain.present · index)

/-- The swapchain goes before the surface it was made for. -/
def release (ws : WindowSurface) : Program Unit := do
  ws.releaseSwapchain
  destroyOn ws.context.inst (some ws.surface)

end WindowSurface

end Presentation.Vulkan
