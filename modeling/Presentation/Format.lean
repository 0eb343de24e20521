/-!
# Pixel formats

The formats a surface image may have. `undefined` asks for whatever format the
surface prefers.
-/

set_option autoImplicit false

namespace Presentation

inductive Format where
  | undefined
  | rgba8Unorm
  | rgba8Srgb
  | bgra8Unorm
  | bgra8Srgb
  | a2bgr10Unorm
  | rgba16Float
  deriving DecidableEq, Inhabited

namespace Format

def all : List Format :=
  [undefined, rgba8Unorm, rgba8Srgb, bgra8Unorm, bgra8Srgb, a2bgr10Unorm, rgba16Float]

/-- The name of a format, which is also its inspection text. -/
def name : Format → String
  | undefined => "Undefined"
  | rgba8Unorm => "R8G8B8A8_UNORM"
  | rgba8Srgb => "R8G8B8A8_SRGB"
  | bgra8Unorm => "B8G8R8A8_UNORM"
  | bgra8Srgb => "B8G8R8A8_SRGB"
  | a2bgr10Unorm => "A2B10G10R10_UNORM"
  | rgba16Float => "R16G16B16A16_SFLOAT"

def ofName? (text : String) : Option Format := all.find? (·.name == text)

/-- Formats whose colour channels carry the sRGB transfer function. -/
def isSrgb : Format → Bool
  | rgba8Srgb | bgra8Srgb => true
  | _ => false

theorem mem_all (f : Format) : f ∈ all := by cases f <;> decide

theorem ofName?_name (f : Format) : ofName? f.name = some f := by cases f <;> rfl

end Format

end Presentation
