import Presentation.Session.Playback
import Presentation.Session.Script
import Presentation.Vulkan.Transcript

/-!
# Performances

A Vulkan session played on a driver, with everything that was called and logged
in each step. Between steps the driver may be directed to go on otherwise, and
the minimum severity may be changed.
-/

set_option autoImplicit false

namespace Presentation.Session

/-- Whoever stands in for a driver, and takes directions. -/
structure Actor (σ δ : Type) where
  answer : (c : Vulkan.Call) → σ → c.Answer × σ
  direct : δ → σ → σ

structure Performance (σ : Type) where
  hub : Log.Hub
  driver : σ
  playback : Playback

namespace Performance

inductive Action (δ : Type) where
  | play (command : Playback.Command)
  | change (direction : δ)
  | minimum (severity : Log.Severity)

structure Command (δ : Type) where
  slot : String
  action : Action δ

structure Row where
  reply : Reply
  surface : Option Surface
  /-- What was called, and answered. -/
  asked : List (Event Vulkan.interface)
  log : List Log.Entry

def Row.calls (row : Row) : List String := Vulkan.transcript row.asked

variable {σ δ : Type} (actor : Actor σ δ)

/-- Plays a program on the driver. After a halt the session stays as it was. -/
def play (r : Performance σ) (p : Vulkan.Program (Reply × Playback)) : Row × Performance σ :=
  let run := p.run actor.answer r.driver
  let (reply, playback) := match run.outcome with
    | .ok end' => end'
    | .error reason => (.halted reason, r.playback)
  (⟨reply, none, run.calls, r.hub.accepted run.entries⟩,
    { r with driver := run.peer, playback })

def act (r : Performance σ) (slot : String) : Action δ → Row × Performance σ
  | .play command => r.play actor (r.playback.step slot command)
  | .change direction =>
    (⟨.done, none, [], []⟩, { r with driver := actor.direct direction r.driver })
  | .minimum severity =>
    (⟨.done, none, [], []⟩, { r with hub := r.hub.step (.setMinimum severity) })

/-- A step is seen together with the surface that is in its slot afterwards. -/
def step (r : Performance σ) (c : Command δ) : Row × Performance σ :=
  let (row, r) := r.act actor c.slot c.action
  ({ row with surface := (r.playback.slots.get? c.slot).bind Holding.surface? }, r)

def steps (r : Performance σ) (commands : List (Command δ)) : List Row × Performance σ :=
  playAll (step actor) r commands

/-- The end of a session, which leaves nothing of it. -/
def finish (r : Performance σ) : Row × Performance σ :=
  r.play actor do
    let p ← r.playback.finish
    return (.finished false, p)

/-- A session from the creation of its device to its end. A session whose device cannot be
created has no steps. -/
def whole (hub : Log.Hub) (driver : σ) (host : Vulkan.Host) (window : Window)
    (config : DeviceConfig) (commands : List (Command δ)) : List Row × Performance σ :=
  let idle : Playback := ⟨window, none, .empty, none, false⟩
  let (first, r) := play actor ⟨hub, driver, idle⟩ (Playback.start host window config)
  let (rows, r) := r.steps actor (if r.playback.device.isSome then commands else [])
  let (last, r) := r.finish actor
  (first :: rows ++ [last], r)

end Performance

end Presentation.Session
