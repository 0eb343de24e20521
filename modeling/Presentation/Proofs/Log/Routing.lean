import Presentation.Log.Hub

/-!
# Where entries go

What becomes of an entry is settled by what was done to the hub before it was
logged. The sink that was put in place last receives it, if the minimum that was
set last lets it pass; a reset does both. So every sink has the entries of the
times in which it was in place, in the order in which they were logged.
-/

set_option autoImplicit false

namespace Presentation.Log

/-- What the last of some things to tell anything has told, or what was known at the start. -/
def latest {γ α : Type} (tells : γ → Option α) (start : α) (past : List γ) : α :=
  (past.reverse.findSome? tells).getD start

section

variable {γ α : Type} (tells : γ → Option α) (start : α)

theorem latest_cons (c : γ) (rest : List γ) :
    latest tells start (c :: rest) = latest tells ((tells c).getD start) rest := by
  rw [latest, latest, List.reverse_cons, List.findSome?_append, List.findSome?_singleton]
  cases rest.reverse.findSome? tells with
  | none => rfl
  | some a => rfl

/-- What tells nothing might as well not be there. -/
theorem latest_skip (before after : List γ) {c : γ} (h : tells c = none) :
    latest tells start (before ++ c :: after) = latest tells start (before ++ after) := by
  simp [latest, List.findSome?_append, h]

end

namespace Hub

/-- The sink that a command puts in place. -/
def Command.sink? : Command → Option Sink
  | .install sink => some sink
  | .reset => some .console
  | _ => none

/-- The minimum that a command sets. -/
def Command.minimum? : Command → Option Severity
  | .setMinimum severity => some severity
  | .reset => some .trace
  | _ => none

def sinkAfter (past : List Command) : Sink := latest Command.sink? .console past

def minimumAfter (past : List Command) : Severity := latest Command.minimum? .trace past

/-- The entry that a command logs, if it passes after what was done before. -/
def passing (past : List Command) : Command → List Entry
  | .log e => if minimumAfter past ≤ e.severity then [e] else []
  | _ => []

/-- What a sink receives of some deliveries. -/
def received (sink : Sink) (deliveries : List (Sink × Entry)) : List Entry :=
  (deliveries.filter fun d => d.1 = sink).map Prod.snd

def run (commands : List Command) : Hub := commands.foldl step initial

/-- What a process keeps of a hub: the sink, and the minimum in one byte. -/
structure Cells where
  sink : Sink
  level : UInt8

namespace Cells

def hub (cells : Cells) : Hub := ⟨cells.sink, .ofCode cells.level⟩

def initial : Cells := ⟨.console, 0⟩

def step (cells : Cells) : Command → Cells
  | .install sink => { cells with sink }
  | .reset => ⟨.console, Severity.trace.code⟩
  | .setMinimum severity => { cells with level := severity.code }
  | .log _ => cells

theorem hub_step (cells : Cells) (c : Command) : (cells.step c).hub = cells.hub.step c := by
  cases c with
  | install sink => rfl
  | reset => rfl
  | setMinimum severity => exact congrArg (Hub.mk cells.sink) (Severity.ofCode_code severity)
  | log e => rfl

theorem hub_steps (cells : Cells) (commands : List Command) :
    (commands.foldl step cells).hub = commands.foldl Hub.step cells.hub := by
  induction commands generalizing cells with
  | nil => rfl
  | cons c rest ih => rw [List.foldl_cons, List.foldl_cons, ih, hub_step]

end Cells

/-- A hub is what the last commands to set anything have made of it. -/
theorem steps_eq (hub : Hub) (commands : List Command) :
    commands.foldl step hub =
      ⟨latest Command.sink? hub.sink commands, latest Command.minimum? hub.minimum commands⟩ := by
  induction commands generalizing hub with
  | nil => rfl
  | cons c rest ih =>
    rw [List.foldl_cons, ih, latest_cons, latest_cons]
    cases c with
    | _ => rfl

theorem run_eq (commands : List Command) :
    run commands = ⟨sinkAfter commands, minimumAfter commands⟩ := steps_eq initial commands

/-- A command delivers what passes to the sink that is in place. -/
theorem delivery_run (past : List Command) (c : Command) :
    ((run past).delivery c).toList = (passing past c).map (sinkAfter past, ·) := by
  rw [run_eq]
  cases c with
  | log e =>
    simp only [delivery, accepts, passing, decide_eq_true_eq]
    split <;> rfl
  | _ => rfl

theorem deliveries_after (past commands : List Command) :
    (run past).deliveries commands =
      (commands.mapIdx fun i c =>
        let before := past ++ commands.take i
        (passing before c).map (sinkAfter before, ·)).flatten := by
  induction commands generalizing past with
  | nil => rfl
  | cons c rest ih =>
    have hstep : (run past).step c = run (past ++ [c]) := by rw [run, run, List.foldl_append]; rfl
    rw [deliveries, delivery_run, hstep, ih, List.mapIdx_cons, List.flatten_cons]
    simp

theorem deliveries_initial (commands : List Command) :
    initial.deliveries commands =
      (commands.mapIdx fun i c =>
        (passing (commands.take i) c).map (sinkAfter (commands.take i), ·)).flatten :=
  deliveries_after [] commands

theorem received_flatten (sink : Sink) (deliveries : List (List (Sink × Entry))) :
    received sink deliveries.flatten = (deliveries.map (received sink)).flatten := by
  rw [received, List.filter_flatten, List.map_flatten, List.map_map]
  rfl

theorem received_passing (sink place : Sink) (entries : List Entry) :
    received sink (entries.map (place, ·)) = if place = sink then entries else [] := by
  unfold received
  split
  · rename_i hplace
    rw [List.filter_eq_self.mpr, List.map_map]
    · exact List.map_id entries
    · simp [hplace]
  · rename_i hplace
    rw [List.filter_eq_nil_iff.mpr, List.map_nil]
    simp [hplace]

/-- Of a run of commands every entry that is logged is delivered once, as it is, to the sink
that was put in place last, if it is at least as severe as the minimum that was set last, and
otherwise not at all. So a sink receives what passes while it is in place and nothing else. To
put one in place never changes the minimum, which is read from its byte as it was set. -/
theorem entries_routed (commands : List Command) :
    initial.deliveries commands =
        (commands.mapIdx fun i c =>
          (passing (commands.take i) c).map (sinkAfter (commands.take i), ·)).flatten ∧
      (∀ sink, received sink (initial.deliveries commands) =
        (commands.mapIdx fun i c =>
          if sinkAfter (commands.take i) = sink then passing (commands.take i) c else []).flatten) ∧
      (∀ before sink after, commands = before ++ .install sink :: after →
        (run commands).minimum = (run (before ++ after)).minimum) ∧
      (commands.foldl Cells.step Cells.initial).hub = run commands := by
  refine ⟨deliveries_initial commands, ?_, ?_, Cells.hub_steps Cells.initial commands⟩
  · intro sink
    rw [deliveries_initial, received_flatten, List.mapIdx_eq_zipIdx_map,
      List.mapIdx_eq_zipIdx_map, List.map_map]
    simp only [Function.comp_def, received_passing]
  · rintro before sink after rfl
    rw [run_eq, run_eq]
    exact latest_skip Command.minimum? .trace before after rfl

end Hub

end Presentation.Log
