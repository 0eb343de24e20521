import Presentation.Error
import Presentation.Format
import Presentation.Usage

/-!
# Surface configurations

A configuration is what the application wishes for, a snapshot what the window
supports. Validation settles every open choice of the first against the second
and yields a request for the native layer, or says what cannot be had.
-/

set_option autoImplicit false

namespace Presentation

/-- What a window supported when it was last asked. -/
structure SurfaceInfo where
  preferredFormat : Format
  supportedUsage : Usage
  formats : List Format
  deriving DecidableEq

structure SurfaceConfig where
  format : Format
  usage : Usage
  width : UInt32
  height : UInt32
  imageCount : UInt32
  vsync : Bool
  deriving DecidableEq

/-- A settled request for a swapchain. The image count is a hint. -/
structure SwapchainDesc where
  format : Format
  usage : Usage
  width : UInt32
  height : UInt32
  imageCount : UInt32
  vsync : Bool
  deriving DecidableEq

namespace SurfaceInfo

def inspect (info : SurfaceInfo) : String :=
  Text.record "SurfaceInfo"
    [("preferred_format", info.preferredFormat.name),
      ("supported_usage", info.supportedUsage.inspect),
      ("formats", Text.list (info.formats.map Format.name))]

end SurfaceInfo

/-- The fields that configurations and requests share, in the order they are shown. -/
private def requestFields (format : Format) (usage : Usage) (width height imageCount : UInt32)
    (vsync : Bool) : List (String × String) :=
  [("format", format.name), ("usage", usage.inspect), ("width", toString width.toNat),
    ("height", toString height.toNat), ("desired_image_count", toString imageCount.toNat),
    ("vsync", Text.bool vsync)]

namespace SwapchainDesc

def inspect (d : SwapchainDesc) : String :=
  Text.record "SwapchainDesc" (requestFields d.format d.usage d.width d.height d.imageCount d.vsync)

end SwapchainDesc

namespace SurfaceConfig

/-- No size, three images, vertical synchronisation, and the surface's choice of the rest. -/
def default : SurfaceConfig := ⟨.undefined, .none, 0, 0, 3, true⟩

def ofSize (width height : UInt32) : SurfaceConfig := { default with width, height }

def withSize (c : SurfaceConfig) (width height : UInt32) : SurfaceConfig := { c with width, height }

/-- One choice of the application. -/
inductive Choice where
  | size (width height : UInt32)
  | format (format : Format)
  | usage (usage : Usage)
  | imageCount (count : UInt32)
  | vsync (on : Bool)

def choose (c : SurfaceConfig) : Choice → SurfaceConfig
  | .size width height => c.withSize width height
  | .format format => { c with format }
  | .usage usage => { c with usage }
  | .imageCount imageCount => { c with imageCount }
  | .vsync vsync => { c with vsync }

def inspect (c : SurfaceConfig) : String :=
  Text.record "SurfaceConfig" (requestFields c.format c.usage c.width c.height c.imageCount c.vsync)

/-- Why a configuration does not fit a snapshot. -/
inductive Misfit where
  | zeroArea (width height : UInt32)
  | noImages
  | format (wanted : Format) (supported : List Format)
  | usage (wanted unsupported : Usage)
  | noDefaultUsage

def Misfit.reason : Misfit → String
  | zeroArea width height =>
    "cannot configure a zero-area surface (" ++ toString width.toNat ++ "x" ++
      toString height.toNat ++ ")"
  | noImages => "desired_image_count must be at least 1"
  | format wanted supported =>
    "format " ++ wanted.name ++ " is not supported by the surface (supported: " ++
      Text.list (supported.map Format.name) ++ ")"
  | usage wanted unsupported =>
    "usage " ++ wanted.inspect ++ " is not supported by the surface (unsupported bits: " ++
      unsupported.inspect ++ ")"
  | noDefaultUsage => "surface supports neither render target nor present usage"

/-- The format that is asked for; an undefined one stands for the preferred. -/
def resolvedFormat (c : SurfaceConfig) (info : SurfaceInfo) : Format :=
  if c.format = .undefined then info.preferredFormat else c.format

/-- The usage that is asked for; none stands for rendering and presenting, as far as
supported. -/
def resolvedUsage (c : SurfaceConfig) (info : SurfaceInfo) : Usage :=
  if c.usage.isEmpty then (Usage.renderTarget.union .present).inter info.supportedUsage
  else c.usage

/-- The first misfit is reported: size, image count, format, usage asked for, default usage. -/
def settle (c : SurfaceConfig) (info : SurfaceInfo) : Except Misfit SwapchainDesc :=
  let format := c.resolvedFormat info
  let usage := c.resolvedUsage info
  if c.width = 0 ∨ c.height = 0 then .error (.zeroArea c.width c.height)
  else if c.imageCount = 0 then .error .noImages
  else if format ∉ info.formats then .error (.format format info.formats)
  else if !info.supportedUsage.contains c.usage then
    .error (.usage c.usage (c.usage.diff info.supportedUsage))
  else if usage.isEmpty then .error .noDefaultUsage
  else .ok ⟨format, usage, c.width, c.height, c.imageCount, c.vsync⟩

def validate (c : SurfaceConfig) (info : SurfaceInfo) : Except Error SwapchainDesc :=
  (c.settle info).mapError fun misfit => .invalidConfig misfit.reason

end SurfaceConfig

end Presentation
