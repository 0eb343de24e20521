import Presentation.Format
import Presentation.Usage

/-!
# Textures of a surface
-/

set_option autoImplicit false

namespace Presentation

structure TextureInfo where
  width : UInt32
  height : UInt32
  format : Format
  usage : Usage
  layers : UInt32
  deriving DecidableEq

/-- A native image that the application may use as a texture. -/
structure Texture where
  image : Nat
  info : TextureInfo
  deriving DecidableEq

def TextureInfo.inspect (t : TextureInfo) : String :=
  Text.record "TextureInfo"
    [("width", toString t.width.toNat), ("height", toString t.height.toNat),
      ("format", t.format.name), ("usage", t.usage.inspect),
      ("array_layers", toString t.layers.toNat)]

end Presentation
