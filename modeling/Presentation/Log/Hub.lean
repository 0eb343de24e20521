import Presentation.Log.Entry

/-!
# Routing of log entries

The hub holds the one installed sink and the minimum severity. An entry below
the minimum goes nowhere, any other goes to the sink that is installed when it
is logged. Nothing else is filtered, and no entry is altered.
-/

set_option autoImplicit false

namespace Presentation.Log

inductive Sink where
  /-- Prints each entry as a line of text. -/
  | console
  /-- Keeps each entry under the name of the sink. -/
  | capture (name : String)
  deriving DecidableEq

structure Hub where
  sink : Sink
  minimum : Severity
  deriving DecidableEq

inductive Hub.Command where
  | install (sink : Sink)
  | reset
  | setMinimum (severity : Severity)
  | log (entry : Entry)

namespace Hub

def initial : Hub := ⟨.console, .trace⟩

def accepts (hub : Hub) (e : Entry) : Bool := decide (hub.minimum ≤ e.severity)

def accepted (hub : Hub) (entries : List Entry) : List Entry := entries.filter hub.accepts

theorem accepted_of_trace {hub : Hub} (h : hub.minimum = .trace) (entries : List Entry) :
    hub.accepted entries = entries := by
  apply List.filter_eq_self.mpr
  intro e _
  rw [accepts, h]
  exact decide_eq_true (Severity.trace_le e.severity)

/-- A reset brings back both the console and the lowest minimum. -/
def step (hub : Hub) : Command → Hub
  | .install sink => { hub with sink }
  | .reset => initial
  | .setMinimum severity => { hub with minimum := severity }
  | .log _ => hub

/-- Where a command delivers an entry, and which. -/
def delivery (hub : Hub) : Command → Option (Sink × Entry)
  | .log e => if hub.accepts e then some (hub.sink, e) else none
  | _ => none

/-- All deliveries of a run of commands, in order. -/
def deliveries (hub : Hub) : List Command → List (Sink × Entry)
  | [] => []
  | c :: rest => (hub.delivery c).toList ++ (hub.step c).deliveries rest

end Hub

end Presentation.Log
