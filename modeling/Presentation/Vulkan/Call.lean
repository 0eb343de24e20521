import Presentation.Program
import Presentation.Vulkan.Code
import Presentation.Vulkan.Negotiation
import Presentation.Vulkan.Object

/-!
# Calls to Vulkan

Everything that is asked of a Vulkan driver, with the type of what it answers.
A call that can fail answers with a value or with the code of its failure. A
failed creation makes no object, and destroying the null handle does nothing.
-/

set_option autoImplicit false

namespace Presentation.Vulkan

/-- Window systems for which a surface can be created. -/
inductive Platform where
  | xlib
  | xcb
  | wayland
  | win32
  | android
  deriving DecidableEq

def Platform.name : Platform → String
  | xlib => "Xlib"
  | xcb => "Xcb"
  | wayland => "Wayland"
  | win32 => "Win32"
  | android => "Android"

structure InstanceRequest where
  appName : String
  appVersion : UInt32
  engineName : String
  engineVersion : UInt32
  apiVersion : UInt32
  layers : List String
  extensions : List String
  deriving DecidableEq

structure SwapchainRequest where
  surface : Handle .surface
  minImages : UInt32
  format : FormatCode
  colorSpace : ColorSpace
  extent : Extent
  usage : ImageUsage
  /-- The queue families that share the images; none if a single family has them. -/
  sharedBy : List Nat
  transform : UInt32
  alpha : UInt32
  mode : ModeCode
  /-- The swapchain that is being replaced. -/
  old : Option (Handle .swapchain)
  deriving DecidableEq

inductive Creation where
  | inst (request : InstanceRequest)
  | messenger (inst : Handle .inst) (severity types : UInt32)
  | surface (inst : Handle .inst) (platform : Platform)
  | device (inst : Handle .inst) (gpu : Gpu) (families : List Nat) (extensions : List String)
  | swapchain (device : Handle .device) (request : SwapchainRequest)
  | view (device : Handle .device) (image : Image) (format : FormatCode)
  | fence (device : Handle .device) (signaled : Bool)
  | semaphore (device : Handle .device)
  | pool (device : Handle .device) (family : Nat)

@[reducible]
def Creation.kind : Creation → Kind
  | inst _ => .inst
  | messenger .. => .messenger
  | surface .. => .surface
  | device .. => .device
  | swapchain .. => .swapchain
  | view .. => .view
  | fence .. => .fence
  | semaphore _ => .semaphore
  | pool .. => .pool

/-- The change of layout that a transition command buffer makes. -/
inductive Transition where
  /-- From freshly acquired to usable by any command. -/
  | toGeneral
  /-- From rendered to presentable. -/
  | toPresent
  deriving DecidableEq

structure GpuProperties where
  /-- The field that holds the name as a string ended by a zero byte. -/
  name : List UInt8
  type : Int32

def GpuProperties.discrete : Int32 := 2

/-- A word of capability flags of a queue family. -/
structure QueueFlags where
  bits : UInt32
  deriving DecidableEq

def QueueFlags.hasGraphics (flags : QueueFlags) : Bool := flags.bits &&& 1 == 1

/-- An image handed out, and whether the swapchain no longer fits its surface well. -/
structure Acquired where
  index : Nat
  suboptimal : Bool
  deriving DecidableEq

inductive Call where
  | create (what : Creation)
  | destroy (kind : Kind) (on : Option Object) (handle : Option (Handle kind))
  | gpus (inst : Handle .inst)
  | gpuProperties (gpu : Gpu)
  | queueFamilies (gpu : Gpu)
  | surfaceSupport (gpu : Gpu) (family : Nat) (surface : Handle .surface)
  | capabilities (gpu : Gpu) (surface : Handle .surface)
  | surfaceFormats (gpu : Gpu) (surface : Handle .surface)
  | presentModes (gpu : Gpu) (surface : Handle .surface)
  | queue (device : Handle .device) (family : Nat)
  | waitIdle (device : Handle .device)
  | swapchainImages (device : Handle .device) (swapchain : Handle .swapchain)
  | waitForFence (device : Handle .device) (fence : Option (Handle .fence))
  | resetFence (device : Handle .device) (fence : Option (Handle .fence))
  | allocate (device : Handle .device) (pool : Handle .pool) (count : Nat)
  | beginCommands (buffer : CommandBuffer)
  | barrier (buffer : CommandBuffer) (image : Image) (transition : Transition)
  | endCommands (buffer : CommandBuffer)
  | submit (queue : Queue) (buffer : CommandBuffer) (signal : Option (Handle .semaphore))
      (fence : Handle .fence)
  | acquire (device : Handle .device) (swapchain : Handle .swapchain)
      (fence : Option (Handle .fence))
  | present (queue : Queue) (wait : Handle .semaphore) (swapchain : Handle .swapchain)
      (index : Nat)

@[reducible]
def Call.Answer : Call → Type
  | create what => Except Code (Handle what.kind)
  | destroy .. => Unit
  | gpus _ => Except Code (List Gpu)
  | gpuProperties _ => GpuProperties
  | queueFamilies _ => List QueueFlags
  | surfaceSupport .. => Except Code Bool
  | capabilities .. => Except Code Capabilities
  | surfaceFormats .. => Except Code (List SurfaceFormat)
  | presentModes .. => Except Code (List ModeCode)
  | queue .. => Queue
  | waitIdle _ => Except Code Unit
  | swapchainImages .. => Except Code (List Image)
  | waitForFence .. => Except Code Unit
  | resetFence .. => Except Code Unit
  | allocate .. => Except Code (List CommandBuffer)
  | beginCommands _ => Except Code Unit
  | barrier .. => Unit
  | endCommands _ => Except Code Unit
  | submit .. => Except Code Unit
  | acquire .. => Except Code Acquired
  /- Whether the swapchain no longer fits its surface well. -/
  | present .. => Except Code Bool

abbrev interface : Interface := ⟨Call, Call.Answer⟩

abbrev Program := Presentation.Program interface

def ask (c : Call) : Program c.Answer := .call (I := interface) c

def destroyOn {parent kind : Kind} (on : Handle parent) (handle : Option (Handle kind)) :
    Program Unit :=
  ask (.destroy kind (some on.object) handle)

/-- Destroys an object that is its own parent. -/
def destroyRoot {kind : Kind} (handle : Handle kind) : Program Unit :=
  ask (.destroy kind none (some handle))

end Presentation.Vulkan
