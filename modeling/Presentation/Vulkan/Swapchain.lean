import Presentation.Attempt
import Presentation.Texture
import Presentation.Vulkan.Context

/-!
# Swapchains

A swapchain owns its images' views and the objects that synchronise acquiring
and presenting. For each image two command buffers are recorded once: one makes
it usable when it was acquired, one makes it presentable again. Each has a
fence that guards its reuse, and a semaphore orders the second before the
presentation.

A swapchain is built up object by object. What exists of it when a step fails
is released, by the same release that ends a finished one.
-/

set_option autoImplicit false

namespace Presentation.Vulkan

structure SwapchainTexture where
  image : Image
  view : Handle .view
  info : TextureInfo
  deriving DecidableEq

structure Swapchain where
  handle : Handle .swapchain
  extent : Extent
  textures : List SwapchainTexture
  pool : Option (Handle .pool)
  toGeneral : List CommandBuffer
  toPresent : List CommandBuffer
  acquireFence : Option (Handle .fence)
  /-- A fence is missing after a submission that failed, until the next one. -/
  generalFences : List (Option (Handle .fence))
  presentFences : List (Option (Handle .fence))
  presentSemaphores : List (Handle .semaphore)
  /-- The image that the application owns. -/
  held : Option Nat
  /-- An acquired image could not be prepared, or was lost in presentation. -/
  stale : Bool
  deriving DecidableEq

/-- A call that can fail, by the name under which its failure is reported. -/
def attempt {σ α : Type} (function : String) (p : Program (Except Code α)) :
    Attempt interface σ α :=
  .expectOr (callFailure function) p

structure Terms where
  format : FormatCode
  colorSpace : ColorSpace
  extent : Extent
  imageCount : UInt32
  mode : ModeCode
  capabilities : Capabilities
  deriving DecidableEq

namespace Terms

/-- Asks the surface what it can do, and settles the choices of a request within it. -/
def negotiate (ctx : Context) (surface : Handle .surface) (desc : SwapchainDesc) :
    Attempt interface Unit Terms := do
  let capabilities ← attempt "vkGetPhysicalDeviceSurfaceCapabilitiesKHR"
    (ask (.capabilities ctx.gpu surface))
  let formats ← attempt "vkGetPhysicalDeviceSurfaceFormatsKHR"
    (ask (.surfaceFormats ctx.gpu surface))
  let modes ← attempt "vkGetPhysicalDeviceSurfacePresentModesKHR"
    (ask (.presentModes ctx.gpu surface))
  let format := FormatCode.ofFormat desc.format
  match chooseColorSpace formats format with
  | none => .fail (← .step (refuse .backendError (.formatNotOffered desc.format)))
  | some colorSpace =>
    let extent := chooseExtent capabilities desc.width desc.height
    if extent.width = 0 ∨ extent.height = 0 then
      .step (notice .zeroExtent)
      .fail .outOfDateSurface
    else
      return {
        format, colorSpace, extent, capabilities
        imageCount := chooseImageCount capabilities desc.imageCount
        mode := choosePresentMode desc.vsync modes }

def request (t : Terms) (ctx : Context) (surface : Handle .surface) (desc : SwapchainDesc)
    (old : Option (Handle .swapchain)) : SwapchainRequest where
  surface
  minImages := t.imageCount
  format := t.format
  colorSpace := t.colorSpace
  extent := t.extent
  usage := .ofUsage desc.usage
  sharedBy := ctx.sharingFamilies
  transform := t.capabilities.transform
  alpha := chooseAlpha t.capabilities
  mode := t.mode
  old

end Terms

namespace Swapchain

def bare (handle : Handle .swapchain) (extent : Extent) : Swapchain where
  handle
  extent
  textures := []
  pool := none
  toGeneral := []
  toPresent := []
  acquireFence := none
  generalFences := []
  presentFences := []
  presentSemaphores := []
  held := none
  stale := false

/-- Destroys whatever the swapchain has, once the device is idle or cannot be waited for. -/
def release (ctx : Context) (sc : Swapchain) : Program Unit := do
  let _ ← ask (.waitIdle ctx.device)
  destroyOn ctx.device sc.acquireFence
  (sc.generalFences ++ sc.presentFences).forM fun fence => destroyOn ctx.device fence
  sc.presentSemaphores.forM fun semaphore => destroyOn ctx.device (some semaphore)
  destroyOn ctx.device sc.pool
  sc.textures.forM fun texture => destroyOn ctx.device (some texture.view)
  destroyOn ctx.device (some sc.handle)

abbrev Build := Attempt interface Swapchain

def addTexture (ctx : Context) (format : FormatCode) (desc : SwapchainDesc) (image : Image) :
    Build Unit := do
  let view ← attempt "vkCreateImageView" (ask (.create (.view ctx.device image format)))
  .update fun sc =>
    let info := ⟨sc.extent.width, sc.extent.height, desc.format, desc.usage, 1⟩
    { sc with textures := sc.textures ++ [⟨image, view, info⟩] }

def addTextures (ctx : Context) (format : FormatCode) (desc : SwapchainDesc) : Build Unit := do
  let sc ← .get
  let images ← attempt "vkGetSwapchainImagesKHR" (ask (.swapchainImages ctx.device sc.handle))
  .forEach (addTexture ctx format desc) images

def newFence {σ : Type} (ctx : Context) (signaled : Bool) :
    Attempt interface σ (Handle .fence) :=
  attempt "vkCreateFence" (ask (.create (.fence ctx.device signaled)))

/-- The fences of an image are made signaled, as if an earlier submission had finished. -/
def addImageSync (ctx : Context) : Build Unit := do
  let fence ← newFence ctx true
  .update fun sc => { sc with generalFences := sc.generalFences ++ [some fence] }
  let fence ← newFence ctx true
  .update fun sc => { sc with presentFences := sc.presentFences ++ [some fence] }
  let semaphore ← attempt "vkCreateSemaphore" (ask (.create (.semaphore ctx.device)))
  .update fun sc => { sc with presentSemaphores := sc.presentSemaphores ++ [semaphore] }

def addSync (ctx : Context) : Build Unit := do
  let fence ← newFence ctx false
  .update fun sc => { sc with acquireFence := some fence }
  let sc ← .get
  .times (addImageSync ctx) sc.textures.length

/-- Records one transition. A buffer that cannot be begun is reported like one that cannot be
ended. -/
def record (buffer : CommandBuffer) (image : Image) (transition : Transition) : Build Unit := do
  attempt "vkEndCommandBuffer" (ask (.beginCommands buffer))
  .step (ask (.barrier buffer image transition))
  attempt "vkEndCommandBuffer" (ask (.endCommands buffer))

def recordImage (image : Image × Nat) : Build Unit := do
  let sc ← .get
  record (← .step (.fetch sc.toGeneral image.2)) image.1 .toGeneral
  record (← .step (.fetch sc.toPresent image.2)) image.1 .toPresent

def addCommands (ctx : Context) : Build Unit := do
  let pool ← attempt "vkCreateCommandPool" (ask (.create (.pool ctx.device ctx.graphicsFamily)))
  .update fun sc => { sc with pool := some pool }
  let sc ← .get
  let count := sc.textures.length
  let buffers ← attempt "vkAllocateCommandBuffers" (ask (.allocate ctx.device pool count))
  .update fun sc => { sc with toGeneral := buffers }
  let buffers ← attempt "vkAllocateCommandBuffers" (ask (.allocate ctx.device pool count))
  .update fun sc => { sc with toPresent := buffers }
  .forEach recordImage (sc.textures.map (·.image)).zipIdx

def build (ctx : Context) (terms : Terms) (desc : SwapchainDesc) : Build Unit := do
  addTextures ctx terms.format desc
  let sc ← .get
  if sc.textures.isEmpty then .fail (← .step (refuse .backendError .noImages))
  addSync ctx
  addCommands ctx
  .step (notice (.swapchainCreated terms.extent terms.format terms.colorSpace terms.mode
    sc.textures.length desc.imageCount))

/-- A new swapchain for a surface. The old one, if any, is handed to the driver as the one being
replaced, and is for the caller to release afterwards. -/
def create (ctx : Context) (surface : Handle .surface) (desc : SwapchainDesc)
    (old : Option (Handle .swapchain)) : Program (Except Error Swapchain) := do
  match ← Terms.negotiate ctx surface desc () with
  | (.error e, _) => return .error e
  | (.ok terms, _) =>
    match ← ask (.create (.swapchain ctx.device (terms.request ctx surface desc old))) with
    | .error code => return .error (← callFailure "vkCreateSwapchainKHR" code)
    | .ok handle =>
      match ← build ctx terms desc (bare handle terms.extent) with
      | (.ok (), sc) => return .ok sc
      | (.error e, sc) =>
        sc.release ctx
        return .error e

end Swapchain

end Presentation.Vulkan
