import Presentation.Error

/-!
# Windows and their handles

A platform window gives out two raw handles, one for its display and one for
itself. Either may be withheld. The surface layer never looks inside; only the
backend does, when it creates the native presentation object.
-/

set_option autoImplicit false

namespace Presentation

/-- A raw display handle. `connected` tells whether it carries a connection. -/
inductive DisplayHandle where
  | xlib (connected : Bool)
  | xcb (connected : Bool)
  | wayland
  | windows
  | android
  | uikit
  | web
  deriving DecidableEq

/-- A raw window handle. `hasInstance` tells whether it names its program instance. -/
inductive RawWindow where
  | xlib
  | xcb
  | wayland
  | win32 (hasInstance : Bool)
  | android
  | uikit
  | web
  deriving DecidableEq

inductive HandleFault where
  | unavailable
  | notSupported
  deriving DecidableEq

structure Window where
  display : Except HandleFault DisplayHandle
  window : Except HandleFault RawWindow

structure WindowHandle where
  display : DisplayHandle
  window : RawWindow
  deriving DecidableEq

def DisplayHandle.name : DisplayHandle → String
  | xlib _ => "Xlib"
  | xcb _ => "Xcb"
  | wayland => "Wayland"
  | windows => "Windows"
  | android => "Android"
  | uikit => "UiKit"
  | web => "Web"

def RawWindow.name : RawWindow → String
  | xlib => "Xlib"
  | xcb => "Xcb"
  | wayland => "Wayland"
  | win32 _ => "Win32"
  | android => "AndroidNdk"
  | uikit => "UiKit"
  | web => "Web"

def HandleFault.message : HandleFault → String
  | unavailable => "the underlying handle is not available"
  | notSupported => "the underlying handle cannot be represented using the types in this crate"

/-- Both handles of a window. The display is asked first, and its fault is the one reported. -/
def WindowHandle.ofWindow (w : Window) : Except Error WindowHandle :=
  match w.display, w.window with
  | .error fault, _ => .error (.construction ("Failed to get display handle: " ++ fault.message))
  | _, .error fault => .error (.construction ("Failed to get window handle: " ++ fault.message))
  | .ok display, .ok window => .ok ⟨display, window⟩

end Presentation
