import Presentation.Vulkan.Call

/-!
# Transcripts

An answered call as a line of text: the function, its arguments, and what came
of it. Success without a result is not mentioned.
-/

set_option autoImplicit false

namespace Presentation.Vulkan

def bracketed (items : List String) : String := "[" ++ ",".intercalate items ++ "]"

def handleName {kind : Kind} (h : Handle kind) : String := h.object.name

def handleOrNull {kind : Kind} : Option (Handle kind) → String
  | some h => handleName h
  | none => "null"

def Image.name (i : Image) : String := "image" ++ toString i.id

def CommandBuffer.name (b : CommandBuffer) : String := "cmd" ++ toString b.id

def Gpu.name (g : Gpu) : String := "gpu" ++ toString g.index

def Queue.name (q : Queue) : String := "queue" ++ toString q.family

def word (n : UInt32) : String := toString n.toNat

def flag (b : Bool) : String := if b then "1" else "0"

/-- The range that every view and barrier covers: the colour aspect of the only mip level and
the only layer. -/
def wholeImage : String := "aspect=1,mips=0+1,layers=0+1"

/-- Vulkan's numbers for a transition. -/
structure BarrierMasks where
  oldLayout : UInt32
  newLayout : UInt32
  sourceStages : UInt32
  destinationStages : UInt32
  sourceAccess : UInt32
  destinationAccess : UInt32

/-- An acquired image's content is discarded, and all later commands wait for the change; a
rendered image waits for all earlier commands. -/
def Transition.masks : Transition → BarrierMasks
  | .toGeneral => ⟨0, 1, 0x1, 0x10000, 0, 0x18000⟩
  | .toPresent => ⟨1, 1000001002, 0x10000, 0x2000, 0x10000, 0⟩

def Transition.arguments (buffer : CommandBuffer) (image : Image) (t : Transition) : List String :=
  let m := t.masks
  [buffer.name, "stages=" ++ word m.sourceStages ++ "->" ++ word m.destinationStages, "flags=0",
    "memory=0", "buffers=0",
    "images=[" ++ image.name ++ " layout=" ++ word m.oldLayout ++ "->" ++ word m.newLayout ++
      " access=" ++ word m.sourceAccess ++ "->" ++ word m.destinationAccess ++
      " family=4294967295->4294967295 " ++ wholeImage ++ "]"]

def InstanceRequest.arguments (r : InstanceRequest) : List String :=
  ["app=" ++ r.appName, "app_version=" ++ word r.appVersion, "engine=" ++ r.engineName,
    "engine_version=" ++ word r.engineVersion, "api=" ++ word r.apiVersion,
    "layers=" ++ bracketed r.layers, "extensions=" ++ bracketed r.extensions]

def SwapchainRequest.arguments (r : SwapchainRequest) : List String :=
  [handleName r.surface, "min_images=" ++ word r.minImages,
    "format=" ++ toString r.format.raw.toInt, "color_space=" ++ toString r.colorSpace.raw.toInt,
    "extent=" ++ word r.extent.width ++ "x" ++ word r.extent.height, "layers=1",
    "usage=" ++ word r.usage.bits, "sharing=" ++ flag !r.sharedBy.isEmpty,
    "families=" ++ bracketed (r.sharedBy.map toString), "transform=" ++ word r.transform,
    "alpha=" ++ word r.alpha, "mode=" ++ toString r.mode.raw.toInt, "clipped=1",
    "old=" ++ handleOrNull r.old]

namespace Creation

def function : Creation → String
  | inst _ => "vkCreateInstance"
  | messenger .. => "vkCreateDebugUtilsMessengerEXT"
  | surface _ platform => "vkCreate" ++ platform.name ++ "SurfaceKHR"
  | device .. => "vkCreateDevice"
  | swapchain .. => "vkCreateSwapchainKHR"
  | view .. => "vkCreateImageView"
  | fence .. => "vkCreateFence"
  | semaphore _ => "vkCreateSemaphore"
  | pool .. => "vkCreateCommandPool"

def arguments : Creation → List String
  | inst request => request.arguments
  | messenger _ severity types => ["severity=" ++ word severity, "types=" ++ word types]
  | surface owner _ => [handleName owner]
  | device _ gpu families extensions =>
    [gpu.name, "queues=" ++ bracketed (families.map fun family => toString family ++ "x1"),
      "extensions=" ++ bracketed extensions]
  | swapchain _ request => request.arguments
  | view _ image format =>
    [image.name, "type=1", "format=" ++ toString format.raw.toInt, "swizzle=0000", wholeImage]
  | fence _ signaled => ["flags=" ++ flag signaled]
  | semaphore _ => ["flags=0"]
  | pool _ family => ["flags=0", "family=" ++ toString family]

end Creation

def Kind.destroyFunction : Kind → String
  | inst => "vkDestroyInstance"
  | device => "vkDestroyDevice"
  | surface => "vkDestroySurfaceKHR"
  | swapchain => "vkDestroySwapchainKHR"
  | view => "vkDestroyImageView"
  | fence => "vkDestroyFence"
  | semaphore => "vkDestroySemaphore"
  | pool => "vkDestroyCommandPool"
  | messenger => "vkDestroyDebugUtilsMessengerEXT"

namespace Call

def function : Call → String
  | create what => what.function
  | destroy kind .. => kind.destroyFunction
  | gpus _ => "vkEnumeratePhysicalDevices"
  | gpuProperties _ => "vkGetPhysicalDeviceProperties"
  | queueFamilies _ => "vkGetPhysicalDeviceQueueFamilyProperties"
  | surfaceSupport .. => "vkGetPhysicalDeviceSurfaceSupportKHR"
  | capabilities .. => "vkGetPhysicalDeviceSurfaceCapabilitiesKHR"
  | surfaceFormats .. => "vkGetPhysicalDeviceSurfaceFormatsKHR"
  | presentModes .. => "vkGetPhysicalDeviceSurfacePresentModesKHR"
  | queue .. => "vkGetDeviceQueue"
  | waitIdle _ => "vkDeviceWaitIdle"
  | swapchainImages .. => "vkGetSwapchainImagesKHR"
  | waitForFence .. => "vkWaitForFences"
  | resetFence .. => "vkResetFences"
  | allocate .. => "vkAllocateCommandBuffers"
  | beginCommands _ => "vkBeginCommandBuffer"
  | barrier .. => "vkCmdPipelineBarrier"
  | endCommands _ => "vkEndCommandBuffer"
  | submit .. => "vkQueueSubmit"
  | acquire .. => "vkAcquireNextImageKHR"
  | present .. => "vkQueuePresentKHR"

def arguments : Call → List String
  | create what => what.arguments
  | destroy _ _ handle => [handleOrNull handle]
  | gpus owner => [handleName owner]
  | gpuProperties gpu => [gpu.name]
  | queueFamilies gpu => [gpu.name]
  | surfaceSupport gpu family surface =>
    [gpu.name, "family=" ++ toString family, handleName surface]
  | capabilities gpu surface => [gpu.name, handleName surface]
  | surfaceFormats gpu surface => [gpu.name, handleName surface]
  | presentModes gpu surface => [gpu.name, handleName surface]
  | queue device family => [handleName device, "family=" ++ toString family, "index=0"]
  | waitIdle device => [handleName device]
  | swapchainImages _ swapchain => [handleName swapchain]
  | waitForFence _ fence => [bracketed [handleOrNull fence], "all=1", "timeout=forever"]
  | resetFence _ fence => [bracketed [handleOrNull fence]]
  | allocate _ pool count => [handleName pool, "level=0", "count=" ++ toString count]
  | beginCommands buffer => [buffer.name, "flags=0"]
  | barrier buffer image transition => transition.arguments buffer image
  | endCommands buffer => [buffer.name]
  | submit on buffer signal fence =>
    [on.name,
      "[wait=[] cmds=" ++ bracketed [buffer.name] ++ " signal=" ++
        bracketed (signal.map handleName).toList ++ "]",
      handleName fence]
  | acquire _ swapchain fence =>
    [handleName swapchain, "timeout=forever", "null", handleOrNull fence]
  | present on wait swapchain index =>
    [on.name, "wait=" ++ bracketed [handleName wait],
      "swapchains=" ++ bracketed [handleName swapchain],
      "indices=" ++ bracketed [toString index]]

end Call

/-- What came of a call that can fail: the results on success, or the code. -/
def outcomes {α : Type} (results : α → List String) : Except Code α → List String
  | .ok a => results a
  | .error code => [code.number]

def nothing {α : Type} (_ : α) : List String := []

namespace Call

def results : (c : Call) → c.Answer → List String
  | create _, answer => outcomes (fun h => [handleName h]) answer
  | destroy .., _ => []
  | gpus _, answer => outcomes nothing answer
  | gpuProperties _, _ => []
  | queueFamilies _, _ => []
  | surfaceSupport .., answer => outcomes (fun supported => [Text.bool supported]) answer
  | capabilities .., answer => outcomes nothing answer
  | surfaceFormats .., answer => outcomes nothing answer
  | presentModes .., answer => outcomes nothing answer
  | queue .., _ => []
  | waitIdle _, answer => outcomes nothing answer
  | swapchainImages .., answer => outcomes nothing answer
  | waitForFence .., answer => outcomes nothing answer
  | resetFence .., answer => outcomes nothing answer
  | allocate .., answer =>
    outcomes (fun buffers => [bracketed (buffers.map CommandBuffer.name)]) answer
  | beginCommands _, answer => outcomes nothing answer
  | barrier .., _ => []
  | endCommands _, answer => outcomes nothing answer
  | submit .., answer => outcomes nothing answer
  | acquire .., answer =>
    outcomes (fun image => (if image.suboptimal then [Code.suboptimal.number] else []) ++
      ["index " ++ toString image.index]) answer
  | present .., answer =>
    outcomes (fun suboptimal => if suboptimal then [Code.suboptimal.number] else []) answer

def line (c : Call) (answer : c.Answer) : String :=
  " -> ".intercalate ((c.function ++ "(" ++ ",".intercalate c.arguments ++ ")") ::
    c.results answer)

end Call

/-- The lines of the calls among the events of a run. -/
def transcript (events : List (Event interface)) : List String :=
  events.filterMap fun
    | .noted _ => none
    | .asked c answer => some (Call.line c answer)

end Presentation.Vulkan
