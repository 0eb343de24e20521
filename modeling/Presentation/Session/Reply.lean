import Presentation.Surface.Command

/-!
# Replies of sessions

A session plays a list of commands and keeps a row for each: what was replied,
and what can be seen afterwards. Sessions differ in what stands behind a
surface; what can be done with the surface is the same in all.
-/

set_option autoImplicit false

namespace Presentation.Session

inductive Reply where
  | unit (result : Except Error Unit)
  | name (result : Except Error String)
  | surface (reply : Surface.Reply)
  | frames (frames : Surface.Frames)
  | native (call : Native.Call) (answer : call.Answer)
  | message (abort : Bool)
  /-- The surface is gone. -/
  | dropped
  /-- The slot is empty. -/
  | noSlot
  /-- The device is gone. -/
  | noDevice
  /-- No messenger was ever made. -/
  | noCallback
  /-- The end, and whether the surface was there until then. -/
  | finished (alive : Bool)
  | halted (reason : Halt)

def Reply.done : Reply := .unit (.ok ())

inductive SurfaceStep where
  | op (op : Surface.Op)
  | frames (count : Nat)
  | deviceName

def SurfaceStep.perform (step : SurfaceStep) (s : Surface) : Native.Program (Reply × Surface) :=
  match step with
  | op operation => return (← s.perform operation).map .surface id
  | frames count => return (← s.renderFrames count).map .frames id
  | deviceName => return (.name (.ok s.device), s)

end Presentation.Session
