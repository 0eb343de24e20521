/-!
# Vulkan objects

Objects are created and destroyed one by one. A handle names an object of a
kind; where Vulkan allows the null handle, the handle is optional. Images,
command buffers, physical devices and queues come and go with an object that
has them.
-/

set_option autoImplicit false

namespace Presentation.Vulkan

/-- Kinds of objects, parents before children. -/
inductive Kind where
  | inst
  | device
  | surface
  | swapchain
  | view
  | fence
  | semaphore
  | pool
  | messenger
  deriving DecidableEq

namespace Kind

def all : List Kind :=
  [inst, device, surface, swapchain, view, fence, semaphore, pool, messenger]

def name : Kind → String
  | inst => "instance"
  | device => "device"
  | surface => "surface"
  | swapchain => "swapchain"
  | view => "view"
  | fence => "fence"
  | semaphore => "semaphore"
  | pool => "pool"
  | messenger => "messenger"

end Kind

structure Handle (kind : Kind) where
  id : Nat
  deriving DecidableEq

structure Object where
  kind : Kind
  id : Nat
  deriving DecidableEq

namespace Handle

variable {kind : Kind}

def object (h : Handle kind) : Object := ⟨kind, h.id⟩

end Handle

def Object.name (o : Object) : String := o.kind.name ++ toString o.id

structure Image where
  id : Nat
  deriving DecidableEq

structure CommandBuffer where
  id : Nat
  deriving DecidableEq

structure Gpu where
  index : Nat
  deriving DecidableEq

structure Queue where
  family : Nat
  deriving DecidableEq

end Presentation.Vulkan
