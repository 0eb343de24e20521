import Presentation.Vulkan.Notice

/-!
# The shared context

Instance, logical device and queues, shared by a device and all surfaces that
were created on it. Whoever refers to it last releases it.
-/

set_option autoImplicit false

namespace Presentation.Vulkan

/-- Whether validation messages are forwarded to the log, and how. -/
structure Forwarding where
  /-- Give up the process at the first error. -/
  breakOnError : Bool
  deriving DecidableEq

structure Context where
  inst : Handle .inst
  gpu : Gpu
  device : Handle .device
  graphicsFamily : Nat
  graphicsQueue : Queue
  presentFamily : Nat
  presentQueue : Queue
  messenger : Option (Handle .messenger)
  deriving DecidableEq

namespace Context

def sharingFamilies (ctx : Context) : List Nat :=
  if ctx.graphicsFamily = ctx.presentFamily then [] else [ctx.graphicsFamily, ctx.presentFamily]

/-- Ends forwarding, and destroys the messenger and the instance. -/
def releaseInstance (inst : Handle .inst) (messenger : Option (Handle .messenger)) :
    Program (Option Forwarding) := do
  if messenger.isSome then destroyOn inst messenger
  destroyRoot inst
  return none

/-- Gives back everything, and ends forwarding. A device that cannot be waited for is
destroyed all the same. -/
def release (ctx : Context) : Program (Option Forwarding) := do
  let _ ← ask (.waitIdle ctx.device)
  destroyRoot ctx.device
  releaseInstance ctx.inst ctx.messenger

end Context

end Presentation.Vulkan
