import Presentation.Log.Hub
import Presentation.Program

/-!
# Programs with a hub behind their log

Each entry is dispatched when it is logged, by the hub as it is at that moment;
whoever else is in the process may have changed it since the last. However the
hub is changed, the run is the run of the program, and its deliveries are
those of its entries that the hub accepts when they are logged.
-/

set_option autoImplicit false

namespace Presentation

namespace Log

/-- An entry that was delivered, and when. -/
structure Delivery where
  moment : Nat
  sink : Sink
  entry : Entry

namespace Hub

/-- What comes of an entry that is logged at a moment. -/
def deliver (hub : Hub) (moment : Nat) (e : Entry) : List Delivery :=
  ((hub.delivery (.log e)).map fun (sink, e) => ⟨moment, sink, e⟩).toList

/-- The hub with the lowest minimum. -/
def loud (hub : Hub) : Hub := { hub with minimum := .trace }

theorem deliver_loud (hub : Hub) (moment : Nat) (e : Entry) :
    hub.loud.deliver moment e = [⟨moment, hub.sink, e⟩] := by
  have haccepts : hub.loud.accepts e = true := decide_eq_true (Severity.trace_le e.severity)
  rw [deliver, delivery, if_pos haccepts]
  rfl

theorem deliver_eq_filter (hub : Hub) (moment : Nat) (e : Entry) :
    hub.deliver moment e =
      (hub.loud.deliver moment e).filter fun d => hub.minimum ≤ d.entry.severity := by
  rw [deliver_loud, List.filter_cons, List.filter_nil, deliver, delivery, accepts]
  split <;> rfl

end Hub

end Log

/-- A finished run whose entries were dispatched. -/
structure Dispatched (I : Interface) (σ α : Type) where
  outcome : Except Halt α
  peer : σ
  calls : List (Event I)
  deliveries : List Log.Delivery

namespace Program

variable {I : Interface} {σ α : Type} (answer : (c : I.Call) → σ → I.Answer c × σ)

/-- Runs a program from a moment on. Every call and every entry takes one moment. -/
def dispatch (hub : Nat → Log.Hub) : Nat → Program I α → σ → Dispatched I σ α
  | _, done a, s => ⟨.ok a, s, [], []⟩
  | t, note e p, s =>
    let d := p.dispatch hub (t + 1) s
    { d with deliveries := (hub t).deliver t e ++ d.deliveries }
  | t, ask c k, s =>
    let (a, s') := answer c s
    let d := (k a).dispatch hub (t + 1) s'
    { d with calls := .asked c a :: d.calls }
  | _, halt r, s => ⟨.error r, s, [], []⟩

/-- The hub does not matter to the run. -/
theorem dispatch_run (hub : Nat → Log.Hub) (t : Nat) (p : Program I α) (s : σ) :
    (p.dispatch answer hub t s).outcome = (p.run answer s).outcome ∧
      (p.dispatch answer hub t s).peer = (p.run answer s).peer ∧
      (p.dispatch answer hub t s).calls = (p.run answer s).calls := by
  induction p generalizing t s with
  | done a => exact ⟨rfl, rfl, rfl⟩
  | note e p ih => exact ih (t + 1) s
  | ask c k ih =>
    obtain ⟨houtcome, hpeer, hcalls⟩ := ih (answer c s).1 (t + 1) (answer c s).2
    exact ⟨houtcome, hpeer, congrArg (Event.asked c (answer c s).1 :: ·) hcalls⟩
  | halt r => exact ⟨rfl, rfl, rfl⟩

/-- While the minimum stays the lowest, every entry is delivered. -/
theorem dispatch_loud (hub : Nat → Log.Hub) (t : Nat) (p : Program I α) (s : σ) :
    (p.dispatch answer (fun t => (hub t).loud) t s).deliveries.map Log.Delivery.entry =
      (p.run answer s).entries := by
  induction p generalizing t s with
  | done a => rfl
  | note e p ih =>
    rw [dispatch, Log.Hub.deliver_loud, List.map_append, ih]
    rfl
  | ask c k ih => exact ih (answer c s).1 (t + 1) (answer c s).2
  | halt r => rfl

/-- What is delivered is what would be while the minimum stays the lowest, less the entries
below the minimum of their moment. -/
theorem dispatch_filter (hub : Nat → Log.Hub) (t : Nat) (p : Program I α) (s : σ) :
    (p.dispatch answer hub t s).deliveries =
      (p.dispatch answer (fun t => (hub t).loud) t s).deliveries.filter fun d =>
        (hub d.moment).minimum ≤ d.entry.severity := by
  induction p generalizing t s with
  | done a => rfl
  | note e p ih =>
    rw [dispatch, dispatch, List.filter_append, Log.Hub.deliver_eq_filter, Log.Hub.deliver_loud,
      ih]
    rfl
  | ask c k ih => exact ih (answer c s).1 (t + 1) (answer c s).2
  | halt r => rfl

end Program

end Presentation
