import Presentation.Native.Simulated

/-!
# A staged native surface

A simulated surface behind a stage manager who may answer in its place: other
capabilities, fewer images, or an error that the simulation knows nothing of.
-/

set_option autoImplicit false

namespace Presentation.Native

structure Staged where
  base : Simulated
  canPresent : Bool
  createError : Option Error
  queryError : Option Error
  info : Option SurfaceInfo
  /-- Fails the next configuration only; the simulation does not see the call. -/
  configureError : Option Error
  imageLimit : Option Nat
  deriving DecidableEq

inductive Staged.Setting where
  | createError (e : Option Error)
  | queryError (e : Option Error)
  | info (info : Option SurfaceInfo)
  | configureError (e : Option Error)
  | imageLimit (limit : Option Nat)
  | failQuery (on : Bool)
  | failNextConfigure (on : Bool)
  | outOfDateOnAcquire (on : Bool)
  | outOfDateOnPresent (on : Bool)
  | emptySwapchain (on : Bool)
  | failAcquire (e : Option Error)
  | failPresent (e : Option Error)
  | strayIndex (index : Option Nat)

namespace Staged

def ofInfo (info : SurfaceInfo) (canPresent : Bool) : Staged :=
  ⟨.ofInfo info, canPresent, none, none, none, none, none⟩

def mapFaults (n : Staged) (f : Faults → Faults) : Staged :=
  { n with base := { n.base with faults := f n.base.faults } }

def set (n : Staged) : Setting → Staged
  | .createError e => { n with createError := e }
  | .queryError e => { n with queryError := e }
  | .info info => { n with info }
  | .configureError e => { n with configureError := e }
  | .imageLimit limit => { n with imageLimit := limit }
  | .failQuery on => n.mapFaults ({ · with query := on })
  | .failNextConfigure on => n.mapFaults ({ · with nextConfigure := on })
  | .outOfDateOnAcquire on => n.mapFaults ({ · with outOfDateOnAcquire := on })
  | .outOfDateOnPresent on => n.mapFaults ({ · with outOfDateOnPresent := on })
  | .emptySwapchain on => n.mapFaults ({ · with emptySwapchain := on })
  | .failAcquire e => n.mapFaults ({ · with acquire := e })
  | .failPresent e => n.mapFaults ({ · with present := e })
  | .strayIndex index => n.mapFaults ({ · with strayIndex := index })

def setAll (n : Staged) (settings : List Setting) : Staged := settings.foldl set n

/-- The device's answer to the request for a native surface. -/
def opened (n : Staged) : Except Error Unit :=
  match n.createError with
  | some e => .error e
  | none =>
    if n.canPresent then .ok ()
    else .error (.unsupportedSurface "mock device cannot present")

def queryInfo (n : Staged) : Except Error SurfaceInfo :=
  match n.queryError with
  | some e => .error e
  | none => n.base.queryInfo.map fun info => n.info.getD info

def configure (n : Staged) (desc : SwapchainDesc) : Except Error Unit × Staged :=
  match n.configureError with
  | some e => (.error e, { n with configureError := none })
  | none =>
    let (result, base) := n.base.configure desc
    (result, { n with base })

def images (n : Staged) : List Texture :=
  match n.imageLimit with
  | some limit => n.base.images.take limit
  | none => n.base.images

def answer : (c : Call) → Staged → c.Answer × Staged
  | .queryInfo, n => (n.queryInfo, n)
  | .configure desc, n => n.configure desc
  | .unconfigure, n => ((), { n with base := n.base.unconfigure })
  | .images, n => (n.images, n)
  | .acquire, n =>
    let (result, base) := n.base.acquire
    (result, { n with base })
  | .present index, n =>
    let (result, base) := n.base.present index
    (result, { n with base })

def drop (n : Staged) : Staged := { n with base := n.base.drop }

end Staged

end Presentation.Native
