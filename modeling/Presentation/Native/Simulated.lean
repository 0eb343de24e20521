import Presentation.Native

/-!
# A simulated native surface

A window without a window system: a swapchain of two to four images that are
handed out round robin, one at a time. It keeps count of what it was asked and
can be told to fail. Its answers are a function of its state, so a program over
the native surface can be run against it as it is.
-/

set_option autoImplicit false

namespace Presentation.Native

/-- Failures that a simulated surface is told to produce. -/
structure Faults where
  query : Bool
  /-- Fails the next configuration only. -/
  nextConfigure : Bool
  outOfDateOnAcquire : Bool
  outOfDateOnPresent : Bool
  /-- Configurations yield no images, and fail for it. -/
  emptySwapchain : Bool
  /-- Fails the next acquisition only, without taking an image. -/
  acquire : Option Error
  /-- Fails the next presentation only, and leaves the image acquired. -/
  present : Option Error
  /-- Handed out once instead of the next index. -/
  strayIndex : Option Nat
  deriving DecidableEq

def Faults.none : Faults := ⟨false, false, false, false, false, .none, .none, .none⟩

structure Simulated where
  info : SurfaceInfo
  configures : Nat
  unconfigures : Nat
  acquired : List Nat
  presented : List Nat
  desc : Option SwapchainDesc
  /-- The index that was handed out and not yet taken back. -/
  outstanding : Option Nat
  dropped : Bool
  faults : Faults
  images : List Texture
  next : Nat
  deriving DecidableEq

namespace Simulated

/-- What a simulated window supports unless told otherwise. -/
def defaultInfo : SurfaceInfo where
  preferredFormat := .bgra8Srgb
  supportedUsage :=
    ((Usage.renderTarget.union .copySource).union .copyDestination).union .present
  formats := [.bgra8Srgb, .bgra8Unorm, .rgba8Unorm]

def ofInfo (info : SurfaceInfo) : Simulated where
  info
  configures := 0
  unconfigures := 0
  acquired := []
  presented := []
  desc := none
  outstanding := none
  dropped := false
  faults := .none
  images := []
  next := 0

def minImages : Nat := 2

def maxImages : Nat := 4

def imagesOf (desc : SwapchainDesc) : List Texture :=
  (List.range (max minImages (min desc.imageCount.toNat maxImages))).map fun image =>
    ⟨image, ⟨desc.width, desc.height, desc.format, desc.usage, 1⟩⟩

def queryInfo (n : Simulated) : Except Error SurfaceInfo :=
  if n.faults.query then .error (.unsupportedSurface "mock window is gone") else .ok n.info

def configure (n : Simulated) (desc : SwapchainDesc) : Except Error Unit × Simulated :=
  let n := { n with configures := n.configures + 1 }
  if n.faults.nextConfigure then
    (.error (.backendError "mock configure failure"),
      { n with faults := { n.faults with nextConfigure := false } })
  else if n.faults.emptySwapchain then
    (.error (.backendError "mock swapchain has no images"), n)
  else
    (.ok (), { n with images := imagesOf desc, next := 0, outstanding := none, desc := some desc })

def unconfigure (n : Simulated) : Simulated :=
  { n with unconfigures := n.unconfigures + 1, outstanding := none, desc := none, images := [] }

def handOut (n : Simulated) (index : Nat) : Simulated :=
  { n with outstanding := some index, acquired := n.acquired ++ [index] }

def acquire (n : Simulated) : Except Error Nat × Simulated :=
  if n.images.isEmpty then (.error (.backendError "mock acquire without swapchain"), n)
  else if n.outstanding.isSome then
    (.error (.backendError "mock image already outstanding"), n)
  else if n.faults.outOfDateOnAcquire then (.error .outOfDateSurface, n)
  else
    match n.faults.acquire, n.faults.strayIndex with
    | some e, _ => (.error e, { n with faults := { n.faults with acquire := none } })
    | none, some index =>
      (.ok index, { n with faults := { n.faults with strayIndex := none } }.handOut index)
    | none, none =>
      (.ok n.next, { n with next := (n.next + 1) % n.images.length }.handOut n.next)

def present (n : Simulated) (index : Nat) : Except Error Unit × Simulated :=
  if n.outstanding ≠ some index then
    (.error (.backendError
      ("mock present of image " ++ toString index ++ " which is not outstanding")), n)
  else
    match n.faults.present with
    | some e => (.error e, { n with faults := { n.faults with present := none } })
    | none =>
      let n := { n with outstanding := none, presented := n.presented ++ [index] }
      (if n.faults.outOfDateOnPresent then .error .outOfDateSurface else .ok (), n)

def answer : (c : Call) → Simulated → c.Answer × Simulated
  | .queryInfo, n => (n.queryInfo, n)
  | .configure desc, n => n.configure desc
  | .unconfigure, n => ((), n.unconfigure)
  | .images, n => (n.images, n)
  | .acquire, n => n.acquire
  | .present index, n => n.present index

def drop (n : Simulated) : Simulated := { n with dropped := true }

end Simulated

end Presentation.Native
