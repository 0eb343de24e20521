import Presentation.Surface.Config
import Presentation.Vulkan.Format

/-!
# Negotiating with a Vulkan surface

What a surface reports about itself, and how the open choices of a swapchain
are made within it.
-/

set_option autoImplicit false

namespace Presentation.Vulkan

structure Extent where
  width : UInt32
  height : UInt32
  deriving DecidableEq

/-- A format and a colour space that a surface can show together. -/
structure SurfaceFormat where
  format : FormatCode
  colorSpace : ColorSpace
  deriving DecidableEq

structure Capabilities where
  minCount : UInt32
  /-- No limit if zero. -/
  maxCount : UInt32
  minExtent : Extent
  maxExtent : Extent
  transform : UInt32
  /-- Flags of the supported composite alpha modes. -/
  alpha : UInt32
  usage : ImageUsage
  deriving DecidableEq

/-- The first occurrences of the formats that the surface layer has. -/
def knownFormats (offered : List SurfaceFormat) : List Format :=
  (offered.filterMap (·.format.format?)).foldl
    (fun known f => if f ∈ known then known else known ++ [f]) []

/-- Preferred is the first sRGB format, else the first, else none. -/
def surfaceInfo (offered : List SurfaceFormat) (usage : ImageUsage) : SurfaceInfo :=
  let formats := knownFormats offered
  ⟨((formats.find? (·.isSrgb)).or formats.head?).getD .undefined, usage.usage, formats⟩

/-- The colour space for a format: `srgbNonlinear` if it is offered, else the first. -/
def chooseColorSpace (offered : List SurfaceFormat) (format : FormatCode) : Option ColorSpace :=
  let spaces := (offered.filter (·.format = format)).map (·.colorSpace)
  (spaces.find? (· = .srgbNonlinear)).or spaces.head?

def choosePresentMode (vsync : Bool) (available : List ModeCode) : ModeCode :=
  .ofMode (PresentMode.select vsync (available.filterMap (·.mode?)))

/-- The point of a range that is closest to a number. -/
def clamp (low high n : UInt32) (_ : low ≤ high) : UInt32 := max low (min n high)

/-- Closest to the wanted number in a range whose upper end is lifted to the lower one, should
it lie below. -/
def clampLifted (low high n : UInt32) : UInt32 :=
  clamp low (max high low) n (by
    rw [show max high low = if high ≤ low then low else high from rfl]
    split
    · exact UInt32.le_refl _
    · rename_i h
      exact (UInt32.le_total low high).resolve_right h)

def chooseExtent (caps : Capabilities) (width height : UInt32) : Extent :=
  ⟨clampLifted caps.minExtent.width caps.maxExtent.width width,
    clampLifted caps.minExtent.height caps.maxExtent.height height⟩

/-- At least the minimum, then at most the maximum. -/
def chooseImageCount (caps : Capabilities) (desired : UInt32) : UInt32 :=
  let count := max desired caps.minCount
  if caps.maxCount = 0 then count else min count caps.maxCount

/-- Composite alpha modes in order of preference: opaque content, the window system's own way,
premultiplied, postmultiplied. -/
def alphaModes : List UInt32 := [1, 8, 2, 4]

def chooseAlpha (caps : Capabilities) : UInt32 :=
  (alphaModes.find? fun mode => caps.alpha &&& mode == mode).getD 1

end Presentation.Vulkan
