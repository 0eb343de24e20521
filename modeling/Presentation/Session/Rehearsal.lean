import Presentation.Log.Hub
import Presentation.Native.Staged
import Presentation.Session.Reply
import Presentation.Session.Script

/-!
# Rehearsals

A surface, or the native surface alone, played on a staged window.
-/

set_option autoImplicit false

namespace Presentation.Session

structure Rehearsal where
  hub : Log.Hub
  native : Native.Staged
  surface : Option Surface

namespace Rehearsal

inductive Command where
  | inject (settings : List Native.Staged.Setting)
  | minimum (severity : Log.Severity)
  | waitIdle
  | drop
  | surface (step : SurfaceStep)
  | native (call : Native.Call)

structure Row where
  reply : Reply
  surface : Option Surface
  native : Native.Simulated
  /-- What was called, and answered. -/
  asked : List (Event Native.interface)
  log : List Log.Entry

/-- Plays a program over the native surface. Its entries go through the hub as it is. -/
def play (r : Rehearsal) (p : Native.Program (Reply × Option Surface)) : Row × Rehearsal :=
  let run := p.run Native.Staged.answer r.native
  let (reply, surface) := match run.outcome with
    | .ok end' => end'
    | .error reason => (.halted reason, none)
  (⟨reply, surface, run.peer.base, run.calls, r.hub.accepted run.entries⟩,
    { r with native := run.peer, surface })

def settle (r : Rehearsal) (reply : Reply) : Row × Rehearsal :=
  (⟨reply, r.surface, r.native.base, [], []⟩, r)

/-- The end of the native surface is seen in the row of the command that ends it. -/
def dropNative (played : Row × Rehearsal) : Row × Rehearsal :=
  let native := played.2.native.drop
  ({ played.1 with native := native.base }, { played.2 with native })

/-- Gives up the surface, and the native surface with it. -/
def drop (r : Rehearsal) (reply : Reply) : Row × Rehearsal :=
  match r.surface with
  | none => r.settle reply
  | some s =>
    dropNative (r.play do
      s.close
      return (reply, none))

def step (r : Rehearsal) : Command → Row × Rehearsal
  | .inject settings => { r with native := r.native.setAll settings }.settle .done
  | .minimum severity => { r with hub := r.hub.step (.setMinimum severity) }.settle .done
  | .waitIdle => r.settle .done
  | .drop => r.drop .done
  | .surface step =>
    match r.surface with
    | none => r.settle .dropped
    | some s => r.play do return (← step.perform s).map id some
  | .native call =>
    r.play do return (.native call (← .call (I := Native.interface) call), r.surface)

def steps (r : Rehearsal) (commands : List Command) : List Row × Rehearsal :=
  playAll step r commands

/-- A native surface that was made and given to nobody is dropped. -/
def dropUnowned (played : Row × Rehearsal) : Row × Rehearsal :=
  if played.2.surface.isNone && played.2.native.opened.toOption.isSome then dropNative played
  else played

/-- A surface is made on the native surface, if the device has one. -/
def create (device : String) (native : Native.Staged) :
    Native.Program (Reply × Option Surface) := do
  match ← Surface.create device native.opened with
  | .error e => return (.unit (.error e), none)
  | .ok s => return (.done, some s)

def surfaceRows (hub : Log.Hub) (device : String) (native : Native.Staged)
    (commands : List Command) : List Row :=
  let (first, r) := dropUnowned (play ⟨hub, native, none⟩ (create device native))
  if r.surface.isNone then [first]
  else
    let (rows, r) := r.steps commands
    first :: rows ++ [(r.drop (.finished r.surface.isSome)).1]

def nativeRows (hub : Log.Hub) (native : Native.Staged) (commands : List Command) :
    Except Error (List Row) :=
  native.opened.map fun () =>
    let (rows, r) := steps ⟨hub, native, none⟩ commands
    rows ++ [(dropNative (r.settle .done)).1]

end Rehearsal

end Presentation.Session
