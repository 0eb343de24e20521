import Presentation.Native
import Presentation.Surface.Notice

/-!
# The surface of a window

A surface is unconfigured, or configured with a pool of images of which the
application may hold one. Acquiring and presenting alternate strictly. Every
operation is a program over the native surface that takes a surface to its
reply and to the surface afterwards; an operation that fails leaves it as it
was, but for an image that an out-of-date presentation consumed and for a pool
found not to match the native swapchain.
-/

set_option autoImplicit false

namespace Presentation

/-- The images of one successful configuration. -/
structure ImagePool where
  images : List Texture
  generation : Nat
  deriving DecidableEq

structure ActiveConfig where
  config : SurfaceConfig
  pool : ImagePool
  /-- The image held between acquiring and presenting. -/
  acquired : Option Nat
  /-- The pool does not match the native swapchain. -/
  stale : Bool
  deriving DecidableEq

structure Surface where
  device : String
  info : SurfaceInfo
  active : Option ActiveConfig
  /-- The last configuration that succeeded, kept while the window is minimised. -/
  lastConfig : Option SurfaceConfig
  /-- The number of successful configurations. -/
  generation : Nat
  deriving DecidableEq

/-- An image as it is handed to the application. -/
structure SurfaceImage where
  index : Nat
  generation : Nat
  info : TextureInfo
  deriving DecidableEq

def SurfaceImage.inspect (image : SurfaceImage) : String :=
  Text.record "SurfaceImage"
    [("index", toString image.index), ("generation", toString image.generation),
      ("info", image.info.inspect)]

namespace Surface

def notice {I : Interface} (n : Notice) : Program I Unit := .log n.entry

/-- The reply of an operation, and the surface after it. -/
abbrev Outcome (α : Type) := Except Error α × Surface

/-- The error of a surface for which the device has no native surface. -/
def refused {I : Interface} (device : String) (e : Error) : Program I Error := do
  notice (.createFailed device e)
  return e.toConstruction

/-- A surface on a native surface that was just made. -/
def attach (device : String) : Native.Program (Except Error Surface) := do
  match ← Native.queryInfo with
  | .error e =>
    notice (.queryFailed e)
    return .error e.toConstruction
  | .ok info =>
    if info.formats.isEmpty then
      notice .noFormats
      return .error (.construction "surface reports no presentable formats")
    else
      notice (.created device info.preferredFormat info.formats.length)
      return .ok ⟨device, info, none, none, 0⟩

/-- A surface on a device, given the device's answer to the request for a native surface. -/
def create (device : String) : Except Error Unit → Native.Program (Except Error Surface)
  | .error e => return .error (← refused device e)
  | .ok () => attach device

def config (s : Surface) : Option SurfaceConfig := s.active.map (·.config)

def isConfigured (s : Surface) : Bool := s.active.isSome

def acquired (s : Surface) : Option Nat := s.active.bind (·.acquired)

def isAcquired (s : Surface) : Bool := s.acquired.isSome

def imageCount (s : Surface) : Nat := (s.active.map (·.pool.images.length)).getD 0

/-- The image that is held, if any. -/
def currentImage (s : Surface) : Option SurfaceImage := do
  let active ← s.active
  let index ← active.acquired
  let texture ← active.pool.images[index]?
  return ⟨index, active.pool.generation, texture.info⟩

def refreshInfo (s : Surface) : Native.Program (Outcome SurfaceInfo) := do
  match ← Native.queryInfo with
  | .error e => return (.error e, s)
  | .ok info => return (.ok info, { s with info })

/-- After a transition the snapshot is taken again; a failure keeps the old one. -/
def refreshAfterTransition (s : Surface) : Native.Program Surface := do
  match ← Native.queryInfo with
  | .error e =>
    notice (.infoKept e)
    return s
  | .ok info => return { s with info }

/-- The surface with a configuration that the native surface has accepted. -/
def adopt (s : Surface) (config : SurfaceConfig) (images : List Texture) : Surface :=
  { s with
    active := some ⟨config, ⟨images, s.generation + 1⟩, none, images.isEmpty⟩
    lastConfig := some config
    generation := s.generation + 1 }

def configure (s : Surface) (config : SurfaceConfig) : Native.Program (Outcome Unit) := do
  match config.validate s.info with
  | .error e =>
    notice (.configRejected e)
    return (.error e, s)
  | .ok desc =>
    if s.isAcquired then notice .reconfigureDropsImage
    match ← Native.configure desc with
    | .error e => return (.error e, s)
    | .ok () =>
      let images ← Native.images
      if images.isEmpty then notice .noImages
      if images.length ≠ desc.imageCount.toNat then
        notice (.otherCount desc.imageCount images.length)
      notice (.configured desc images.length)
      let s ← (s.adopt config images).refreshAfterTransition
      return (.ok (), s)

/-- Does nothing while unconfigured. -/
def unconfigure (s : Surface) : Native.Program Surface := do
  if s.isConfigured then
    if s.isAcquired then notice .unconfigureDropsImage
    Native.unconfigure
    let s ← { s with active := none }.refreshAfterTransition
    notice .unconfigured
    return s
  else return s

/-- Follows the window to a new size. No area means that the window is minimised. -/
def resize (s : Surface) (width height : UInt32) : Native.Program (Outcome Unit) := do
  if width = 0 ∨ height = 0 then
    let s ← s.unconfigure
    return (.ok (), s)
  else
    match s.config <|> s.lastConfig with
    | none => return (.error .notConfigured, s)
    | some base => s.configure (base.withSize width height)

def acquireNextImage (s : Surface) : Native.Program (Outcome SurfaceImage) := do
  match s.active with
  | none =>
    notice .acquireUnconfigured
    return (.error .notConfigured, s)
  | some active =>
    match active.acquired with
    | some held =>
      notice (.acquireWhileHeld held)
      return (.error .alreadyAcquired, s)
    | none =>
      if active.stale then
        notice .poolStale
        return (.error .outOfDateSurface, s)
      else
        match ← Native.acquire with
        | .error .outOfDateSurface =>
          notice .acquireOutOfDate
          return (.error .outOfDateSurface, s)
        | .error e =>
          notice (.acquireFailed e)
          return (.error e, s)
        | .ok index =>
          match active.pool.images[index]? with
          | none =>
            notice (.strayImage index active.pool.images.length)
            return (.error .outOfDateSurface,
              { s with active := some { active with stale := true } })
          | some texture =>
            notice (.acquired index active.pool.generation)
            return (.ok ⟨index, active.pool.generation, texture.info⟩,
              { s with active := some { active with acquired := some index } })

def released (s : Surface) : Surface :=
  { s with active := s.active.map ({ · with acquired := none }) }

def present (s : Surface) : Native.Program (Outcome Unit) := do
  match s.acquired with
  | none =>
    notice .presentWithoutImage
    return (.error .notAcquired, s)
  | some index =>
    match ← Native.present index with
    | .ok () =>
      notice (.presented index)
      return (.ok (), s.released)
    | .error .outOfDateSurface =>
      notice .presentOutOfDate
      return (.error .outOfDateSurface, s.released)
    | .error e =>
      notice (.presentFailed index e)
      return (.error e, s)

/-- The end of a surface: its native swapchain is given up, whatever its state. -/
def close (s : Surface) : Native.Program Unit := do
  if s.isAcquired then notice .droppedWhileHeld
  Native.unconfigure

end Surface

end Presentation
