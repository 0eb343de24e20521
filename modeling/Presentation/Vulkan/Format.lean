import Presentation.Format
import Presentation.PresentMode
import Presentation.Usage

/-!
# Vulkan's words for formats, usages and present modes

Vulkan has its own numbers for what the surface layer calls a format, a usage
or a present mode. Both directions stand side by side.
-/

set_option autoImplicit false

namespace Presentation.Vulkan

structure FormatCode where
  raw : Int32
  deriving DecidableEq, Inhabited

structure ColorSpace where
  raw : Int32
  deriving DecidableEq, Inhabited

structure ModeCode where
  raw : Int32
  deriving DecidableEq, Inhabited

structure ImageUsage where
  bits : UInt32
  deriving DecidableEq, Inhabited

namespace FormatCode

def ofFormat : Format → FormatCode
  | .undefined => ⟨0⟩
  | .rgba8Unorm => ⟨37⟩
  | .rgba8Srgb => ⟨43⟩
  | .bgra8Unorm => ⟨44⟩
  | .bgra8Srgb => ⟨50⟩
  | .a2bgr10Unorm => ⟨64⟩
  | .rgba16Float => ⟨97⟩

/-- The format of a number, if the surface layer has it. Undefined is no format here. -/
def format? (code : FormatCode) : Option Format :=
  (Format.all.filter (· ≠ .undefined)).find? (ofFormat · = code)

def names : List (FormatCode × String) :=
  [(⟨0⟩, "UNDEFINED"), (⟨37⟩, "R8G8B8A8_UNORM"), (⟨43⟩, "R8G8B8A8_SRGB"),
    (⟨44⟩, "B8G8R8A8_UNORM"), (⟨50⟩, "B8G8R8A8_SRGB"),
    (⟨64⟩, "A2B10G10R10_UNORM_PACK32"), (⟨97⟩, "R16G16B16A16_SFLOAT")]

def name (code : FormatCode) : String := (names.lookup code).getD (toString code.raw.toInt)

end FormatCode

namespace ColorSpace

def srgbNonlinear : ColorSpace := ⟨0⟩

def names : List (ColorSpace × String) :=
  [(srgbNonlinear, "SRGB_NONLINEAR"),
    (⟨1000104001⟩, "DISPLAY_P3_NONLINEAR_EXT"), (⟨1000104002⟩, "EXTENDED_SRGB_LINEAR_EXT"),
    (⟨1000104003⟩, "DISPLAY_P3_LINEAR_EXT"), (⟨1000104004⟩, "DCI_P3_NONLINEAR_EXT"),
    (⟨1000104005⟩, "BT709_LINEAR_EXT"), (⟨1000104006⟩, "BT709_NONLINEAR_EXT"),
    (⟨1000104007⟩, "BT2020_LINEAR_EXT"), (⟨1000104008⟩, "HDR10_ST2084_EXT"),
    (⟨1000104009⟩, "DOLBYVISION_EXT"), (⟨1000104010⟩, "HDR10_HLG_EXT"),
    (⟨1000104011⟩, "ADOBERGB_LINEAR_EXT"), (⟨1000104012⟩, "ADOBERGB_NONLINEAR_EXT"),
    (⟨1000104013⟩, "PASS_THROUGH_EXT"), (⟨1000104014⟩, "EXTENDED_SRGB_NONLINEAR_EXT"),
    (⟨1000213000⟩, "DISPLAY_NATIVE_AMD")]

def name (space : ColorSpace) : String := (names.lookup space).getD (toString space.raw.toInt)

end ColorSpace

namespace ImageUsage

def none : ImageUsage := ⟨0⟩
def transferSource : ImageUsage := ⟨1⟩
def transferDestination : ImageUsage := ⟨2⟩
def sampled : ImageUsage := ⟨4⟩
def storage : ImageUsage := ⟨8⟩
def colorAttachment : ImageUsage := ⟨16⟩

def union (a b : ImageUsage) : ImageUsage := ⟨a.bits ||| b.bits⟩

def contains (a b : ImageUsage) : Bool := a.bits &&& b.bits == b.bits

/-- Which usage flag each image usage flag stands for. Presenting needs none. -/
def flags : List (Usage × ImageUsage) :=
  [(.shaderResource, sampled), (.unorderedAccess, storage), (.renderTarget, colorAttachment),
    (.copySource, transferSource), (.copyDestination, transferDestination)]

/-- The flags for a usage. With nothing else asked for an image is a colour attachment, which
every surface supports. -/
def ofUsage (usage : Usage) : ImageUsage :=
  let asked := (flags.filter (usage.contains ·.1)).foldl (fun word flag => word.union flag.2) none
  if asked.bits = 0 then colorAttachment else asked

/-- The usage of a word of flags. Images of a swapchain can always be presented. -/
def usage (word : ImageUsage) : Usage :=
  (flags.filter (word.contains ·.2)).foldl (fun usage flag => usage.union flag.1) .present

end ImageUsage

namespace ModeCode

def ofMode : PresentMode → ModeCode
  | .immediate => ⟨0⟩
  | .mailbox => ⟨1⟩
  | .fifo => ⟨2⟩

def mode? (code : ModeCode) : Option PresentMode := PresentMode.all.find? (ofMode · = code)

def names : List (ModeCode × String) := [(⟨0⟩, "IMMEDIATE"), (⟨1⟩, "MAILBOX"), (⟨2⟩, "FIFO")]

def name (code : ModeCode) : String := (names.lookup code).getD (toString code.raw.toInt)

end ModeCode

end Presentation.Vulkan
