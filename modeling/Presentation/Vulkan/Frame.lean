import Presentation.Vulkan.Swapchain

/-!
# Frames on a swapchain

Acquiring takes an image from the driver and makes it usable; presenting makes
it presentable and hands it back. An image that the driver handed out but that
could not be made usable is lost until the swapchain is replaced, and so is one
that the driver refused to show: the swapchain is then stale and gives out no
further image.
-/

set_option autoImplicit false

namespace Presentation.Vulkan.Swapchain

/-- Makes sure that a slot holds a fence that no submission is using, not signaled. -/
def readyFence (ctx : Context) : Attempt interface (Option (Handle .fence)) (Handle .fence) := do
  match ← .get with
  | none =>
    let fence ← newFence ctx false
    .update fun _ => some fence
    return fence
  | some fence =>
    attempt "vkWaitForFences" (ask (.waitForFence ctx.device (some fence)))
    attempt "vkResetFences" (ask (.resetFence ctx.device (some fence)))
    return fence

/-- Submits a transition on the graphics queue, guarded by the fence in a slot, so that an
earlier submission of the same buffer has finished. A submission that fails would leave its
fence unsignaled for good: the fence is destroyed, and the next submission makes a new one. -/
def submit (ctx : Context) (buffer : CommandBuffer) (signal : Option (Handle .semaphore)) :
    Attempt interface (Option (Handle .fence)) Unit := do
  let fence ← readyFence ctx
  match ← .step (ask (.submit ctx.graphicsQueue buffer signal fence)) with
  | .ok () => return ()
  | .error code =>
    .step (destroyOn ctx.device (some fence))
    .update fun _ => none
    .fail (← .step (callFailure "vkQueueSubmit" code))

/-- Works on one fence of the guards of the transitions that make images usable. -/
def onGeneralFence (index : Nat) (t : Attempt interface (Option (Handle .fence)) Unit) :
    Build Unit := fun sc => do
  let slot ← .fetch sc.generalFences index
  let (result, slot) ← t slot
  return (result, { sc with generalFences := sc.generalFences.set index slot })

/-- Works on one fence of the guards of the transitions that make images presentable. -/
def onPresentFence (index : Nat) (t : Attempt interface (Option (Handle .fence)) Unit) :
    Build Unit := fun sc => do
  let slot ← .fetch sc.presentFences index
  let (result, slot) ← t slot
  return (result, { sc with presentFences := sc.presentFences.set index slot })

/-- Waits until an acquired image is really free, and submits its transition. -/
def prepare (ctx : Context) (index : Nat) : Build Unit := do
  let sc ← .get
  attempt "vkWaitForFences" (ask (.waitForFence ctx.device sc.acquireFence))
  attempt "vkResetFences" (ask (.resetFence ctx.device sc.acquireFence))
  if index < sc.textures.length then
    let buffer ← .step (.fetch sc.toGeneral index)
    onGeneralFence index (submit ctx buffer none)
  else .fail (← .step (refuse .backendError (.strayImage index sc.textures.length)))

/-- From here on the application owns the image, unless it could not be prepared. -/
def take (ctx : Context) (index : Nat) : Build Nat := fun sc => do
  match ← prepare ctx index sc with
  | (.ok (), sc) => return (.ok index, { sc with held := some index })
  | (.error e, sc) => return (.error e, { sc with stale := true })

def acquire (ctx : Context) : Build Nat := do
  let sc ← .get
  if sc.stale then
    .step (notice .mustRecreate)
    .fail .outOfDateSurface
  else
    let image ← attempt "vkAcquireNextImageKHR"
      (ask (.acquire ctx.device sc.handle sc.acquireFence))
    if image.suboptimal then .step (notice (.suboptimalAcquire image.index))
    take ctx image.index

/-- What a presentation comes to. Whatever the driver answered, the image is no longer held. A
failure other than out of date makes the swapchain stale, and is reported as out of date. -/
def conclude (index : Nat) : Except Code Bool → Build Unit
  | .ok suboptimal => do
    .update fun sc => { sc with held := none }
    if suboptimal then .step (notice (.suboptimalPresent index))
  | .error code => do
    .update fun sc => { sc with held := none }
    if code ≠ .outOfDate then
      .update fun sc => { sc with stale := true }
      .step (notice (.presentFailed code))
    .fail .outOfDateSurface

/-- A failure before the image reached the driver's queue leaves it held, so that presenting can
be tried again. -/
def present (ctx : Context) (index : Nat) : Build Unit := do
  let sc ← .get
  if sc.held ≠ some index then
    .fail (← .step (refuse .backendError (.notHeld index sc.held)))
  else
    let semaphore ← .step (.fetch sc.presentSemaphores index)
    let buffer ← .step (.fetch sc.toPresent index)
    onPresentFence index (submit ctx buffer (some semaphore))
    conclude index (← .step (ask (.present ctx.presentQueue semaphore sc.handle index)))

end Presentation.Vulkan.Swapchain
