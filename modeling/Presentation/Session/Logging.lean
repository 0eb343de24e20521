import Presentation.Log.Hub
import Presentation.Log.Line
import Presentation.Session.Script

/-!
# Logging sessions

The hub with sinks that can be looked into: captured entries by the name of
their sink, and the text that was printed.
-/

set_option autoImplicit false

namespace Presentation.Session

structure Logging where
  hub : Log.Hub
  palette : Log.Palette

namespace Logging

inductive Command where
  | hub (command : Log.Hub.Command)
  | palette (palette : Log.Palette)

structure Row where
  minimum : Log.Severity
  captured : List (String × Log.Entry)
  printed : String

/-- The stamp that stands for the time in what is printed. -/
def stamp : String := "TS"

def row (l : Logging) (delivery : Option (Log.Sink × Log.Entry)) : Row :=
  match delivery with
  | some (.capture name, e) => ⟨l.hub.minimum, [(name, e)], ""⟩
  | some (.console, e) => ⟨l.hub.minimum, [], e.line l.palette stamp ++ "\n"⟩
  | none => ⟨l.hub.minimum, [], ""⟩

def step (l : Logging) : Command → Row × Logging
  | .hub c =>
    let next := { l with hub := l.hub.step c }
    (next.row (l.hub.delivery c), next)
  | .palette palette =>
    let next := { l with palette }
    (next.row none, next)

def rows (l : Logging) (commands : List Command) : List Row := (playAll step l commands).1

end Logging

end Presentation.Session
