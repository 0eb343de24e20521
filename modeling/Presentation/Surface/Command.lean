import Presentation.Surface.Basic

/-!
# Operations of a surface as data

An application's use of a surface is a list of operations. Each has a reply,
and the surface after one is the surface before the next.
-/

set_option autoImplicit false

namespace Presentation.Surface

inductive Op where
  | configure (config : SurfaceConfig)
  | resize (width height : UInt32)
  | unconfigure
  | acquire
  | present
  | refresh
  | current

inductive Reply where
  | unit (result : Except Error Unit)
  | image (result : Except Error SurfaceImage)
  | info (result : Except Error SurfaceInfo)
  | current (image : Option SurfaceImage)

def Reply.error? : Reply → Option Error
  | unit (.error e) | image (.error e) | info (.error e) => some e
  | _ => none

def perform : Surface → Op → Native.Program (Reply × Surface)
  | s, .configure config => return (← s.configure config).map .unit id
  | s, .resize width height => return (← s.resize width height).map .unit id
  | s, .unconfigure => return (.unit (.ok ()), ← s.unconfigure)
  | s, .acquire => return (← s.acquireNextImage).map .image id
  | s, .present => return (← s.present).map .unit id
  | s, .refresh => return (← s.refreshInfo).map .info id
  | s, .current => return (.current s.currentImage, s)

def performAll : Surface → List Op → Native.Program (List Reply × Surface)
  | s, [] => return ([], s)
  | s, op :: ops => do
    let (reply, s) ← s.perform op
    let (replies, s) ← s.performAll ops
    return (reply :: replies, s)

/-- A surface from its creation on, through a list of operations. -/
def life (device : String) (ops : List Op) :
    Native.Program (Except Error (List Reply × Surface)) := do
  match ← attach device with
  | .error e => return .error e
  | .ok s => return .ok (← s.performAll ops)

/-- A life that ends with the surface given up. -/
def wholeLife (device : String) (ops : List Op) :
    Native.Program (Except Error (List Reply)) := do
  match ← life device ops with
  | .error e => return .error e
  | .ok (replies, s) =>
    s.close
    return .ok replies

/-- The frames of a loop that acquires and presents until something fails. -/
structure Frames where
  indices : List Nat
  acquireError : Option Error
  presentError : Option Error

/-- Acquires and presents `count` times, or until an error. -/
def renderFrames : Surface → Nat → Native.Program (Frames × Surface)
  | s, 0 => return (⟨[], none, none⟩, s)
  | s, count + 1 => do
    match ← s.acquireNextImage with
    | (.error e, s) => return (⟨[], some e, none⟩, s)
    | (.ok image, s) =>
      match ← s.present with
      | (.error e, s) => return (⟨[image.index], none, some e⟩, s)
      | (.ok (), s) =>
        let (frames, s) ← s.renderFrames count
        return ({ frames with indices := image.index :: frames.indices }, s)

end Presentation.Surface
