import Presentation.Log.Hub
import Presentation.Session.Reply
import Presentation.Session.Slots
import Presentation.Vulkan.Device
import Presentation.Vulkan.Scene

/-!
# Vulkan sessions

A device and the surfaces made on it, kept in slots, each dropped when it is
told to. The device's context is shared: it is released with the last of them.
-/

set_option autoImplicit false

namespace Presentation.Session

open Vulkan (Device WindowSurface Context Forwarding)

inductive Holding where
  | surface (surface : Surface) (native : WindowSurface)
  | native (native : WindowSurface)

namespace Holding

def surface? : Holding → Option Surface
  | surface s _ => some s
  | native _ => none

def context : Holding → Context
  | surface _ ws => ws.context
  | native ws => ws.context

/-- The end of a surface, and of its native side. -/
def release : Holding → Vulkan.Program Unit
  | surface s ws => do
    let ((), ws) ← s.close.servedBy WindowSurface.serve ws
    ws.release
  | native ws => ws.release

end Holding

structure Playback where
  window : Window
  device : Option Device
  slots : Slots Holding
  forwarding : Option Forwarding
  /-- Whether a messenger was ever made. -/
  callback : Bool

namespace Playback

/-- A command concerns one slot, unless it concerns the device. -/
inductive Command where
  | newSurface (window : Option Window)
  | newNative (window : Option Window)
  | drop
  | surface (step : SurfaceStep)
  | native (call : Native.Call)
  | waitIdle
  | dropDevice
  | message (message : Vulkan.Message)

/-- A session after the creation of its device. -/
def start (host : Vulkan.Host) (window : Window) (config : DeviceConfig) :
    Vulkan.Program (Reply × Playback) := do
  let (result, forwarding) ← Device.create host window config none
  let p : Playback := ⟨window, result.toOption, .empty, forwarding, forwarding.isSome⟩
  return (.name (result.map (·.name)), p)

/-- Releases a context to which nothing refers any more. -/
def releaseUnused (p : Playback) (context : Context) : Vulkan.Program Playback := do
  if p.device.isNone && p.slots.isEmpty then
    return { p with forwarding := ← context.release }
  else return p

def dropSlot (p : Playback) (slot : String) : Vulkan.Program Playback := do
  match p.slots.get? slot with
  | none => return p
  | some holding =>
    holding.release
    let p := { p with slots := p.slots.erase slot }
    p.releaseUnused holding.context

def dropDevice (p : Playback) : Vulkan.Program Playback := do
  match p.device with
  | none => return p
  | some device =>
    let p := { p with device := none }
    p.releaseUnused device.context

/-- What was in the slot before ends when the new holding is there. -/
def store (p : Playback) (slot : String) (holding : Holding) : Vulkan.Program Playback := do
  let old := p.slots.get? slot
  old.forM Holding.release
  return { p with slots := p.slots.insert slot holding }

/-- A surface on a device: a native surface for the window, and a surface attached to it. -/
def openSurface (device : Device) (handle : WindowHandle) :
    Vulkan.Program (Except Error Holding) := do
  match ← device.openWindow handle with
  | .error e => return .error (← Surface.refused device.name e)
  | .ok ws =>
    match ← (Surface.attach device.name).servedBy WindowSurface.serve ws with
    | (.ok s, ws) => return .ok (.surface s ws)
    | (.error e, ws) =>
      ws.release
      return .error e

def openNative (device : Device) (handle : WindowHandle) :
    Vulkan.Program (Except Error Holding) := do
  return (← device.openWindow handle).map .native

/-- Opens a window of the session's device and stores what was made for it. -/
def openIn (p : Playback) (slot : String) (window : Option Window)
    (make : Device → WindowHandle → Vulkan.Program (Except Error Holding)) :
    Vulkan.Program (Reply × Playback) := do
  match p.device with
  | none => return (.noDevice, p)
  | some device =>
    match WindowHandle.ofWindow (window.getD p.window) with
    | .error e => return (.unit (.error e), p)
    | .ok handle =>
      match ← make device handle with
      | .error e => return (.unit (.error e), p)
      | .ok holding => return (.done, ← p.store slot holding)

def onSurface (p : Playback) (slot : String) (step : SurfaceStep) :
    Vulkan.Program (Reply × Playback) := do
  match p.slots.get? slot with
  | some (.surface s ws) =>
    let ((reply, s), ws) ← (step.perform s).servedBy WindowSurface.serve ws
    return (reply, { p with slots := p.slots.insert slot (.surface s ws) })
  | _ => return (.noSlot, p)

def onNative (p : Playback) (slot : String) (call : Native.Call) :
    Vulkan.Program (Reply × Playback) := do
  match p.slots.get? slot with
  | some (.native ws) =>
    let (answer, ws) ← ws.serve call
    return (.native call answer, { p with slots := p.slots.insert slot (.native ws) })
  | _ => return (.noSlot, p)

def step (p : Playback) (slot : String) : Command → Vulkan.Program (Reply × Playback)
  | .newSurface window => p.openIn slot window openSurface
  | .newNative window => p.openIn slot window openNative
  | .drop => return (.done, ← p.dropSlot slot)
  | .surface step => p.onSurface slot step
  | .native call => p.onNative slot call
  | .waitIdle =>
    match p.device with
    | none => return (.noDevice, p)
    | some device => return (.unit (← device.waitIdle), p)
  | .dropDevice => return (.done, ← p.dropDevice)
  | .message m =>
    if p.callback then return (.message (← m.report p.forwarding), p)
    else return (.noCallback, p)

def steps (p : Playback) : List (String × Command) → Vulkan.Program Playback
  | [] => return p
  | (slot, command) :: rest => do
    let (_, p) ← p.step slot command
    p.steps rest

/-- A session from the creation of its device on. -/
def session (host : Vulkan.Host) (window : Window) (config : DeviceConfig)
    (commands : List (String × Command)) : Vulkan.Program Playback := do
  let (_, p) ← start host window config
  p.steps commands

def dropSlots (p : Playback) : List String → Vulkan.Program Playback
  | [] => return p
  | slot :: rest => do (← p.dropSlot slot).dropSlots rest

/-- The end of a session: its slots are dropped, then its device. -/
def finish (p : Playback) : Vulkan.Program Playback := do
  (← p.dropSlots (p.slots.entries.map (·.1))).dropDevice

end Playback

end Presentation.Session
