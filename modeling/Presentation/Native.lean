import Presentation.Program
import Presentation.Surface.Config
import Presentation.Texture

/-!
# The native surface

What a surface asks of the native presentation object of its window. Any answer
is possible to any call.
-/

set_option autoImplicit false

namespace Presentation.Native

inductive Call where
  /-- What does the window support? -/
  | queryInfo
  /-- Create the swapchain, or replace it. On failure the previous one stays in use. -/
  | configure (desc : SwapchainDesc)
  /-- Give up the swapchain, if there is one. -/
  | unconfigure
  /-- The images of the swapchain, in the order of their indices. -/
  | images
  /-- Wait for the next image that is free. -/
  | acquire
  /-- Queue an image for presentation. It is handed back on success and when the surface is
  out of date; any other error leaves it acquired. -/
  | present (index : Nat)
  deriving DecidableEq

@[reducible]
def Call.Answer : Call → Type
  | queryInfo => Except Error SurfaceInfo
  | configure _ => Except Error Unit
  | unconfigure => Unit
  | images => List Texture
  | acquire => Except Error Nat
  | present _ => Except Error Unit

abbrev interface : Interface := ⟨Call, Call.Answer⟩

abbrev Program := Presentation.Program interface

def queryInfo : Program (Except Error SurfaceInfo) := .call (I := interface) .queryInfo

def configure (desc : SwapchainDesc) : Program (Except Error Unit) :=
  .call (I := interface) (.configure desc)

def unconfigure : Program Unit := .call (I := interface) .unconfigure

def images : Program (List Texture) := .call (I := interface) .images

def acquire : Program (Except Error Nat) := .call (I := interface) .acquire

def present (index : Nat) : Program (Except Error Unit) := .call (I := interface) (.present index)

end Presentation.Native
