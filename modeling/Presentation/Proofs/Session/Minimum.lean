import Presentation.Proofs.Dispatch
import Presentation.Session.Recording
import Presentation.Session.Rehearsal

/-!
# The minimum severity

What is logged has no influence on a session. Two runs of one script that differ
in the minimum severity, from the start or by what the script sets it to, have
the same replies, make the same calls and leave the same states. One of them
at the lowest minimum hears every entry; the other hears of those, in the same
order, the ones that are at least as severe as the minimum then is.
-/

set_option autoImplicit false

namespace Presentation

open Log (Severity)

namespace Log

/-- The entries that are heard under a minimum. -/
def audible (minimum : Severity) (entries : List Entry) : List Entry :=
  entries.filter fun e => minimum ≤ e.severity

/-- The minimum that some settings, one after the other, have led to. -/
def inForce (start : Severity) (settings : List Severity) : Severity :=
  settings.getLast?.getD start

theorem inForce_cons {γ : Type} (setting : γ → Option Severity) (start : Severity) (c : γ)
    (rest : List γ) : inForce start ((c :: rest).filterMap setting) =
      inForce ((setting c).getD start) (rest.filterMap setting) := by
  cases h : setting c with
  | none => rw [List.filterMap_cons_none h, Option.getD_none]
  | some minimum =>
    rw [List.filterMap_cons_some h, inForce, List.getLast?_cons]
    rfl

/-- What a hub accepts of the entries that one with the lowest minimum accepts. -/
theorem Hub.accepted_eq (hub full : Hub) (hfull : full.minimum = .trace) (entries : List Entry) :
    hub.accepted entries = audible hub.minimum (full.accepted entries) := by
  rw [full.accepted_of_trace hfull]
  rfl

end Log

open Log (audible inForce)

namespace Session

/-- Two sessions keep beside each other if their steps do. The settings of the one lead from
each minimum to the next, and its rows are those of the other as they are heard under it. -/
theorem playAll_beside {σ γ ρ : Type} {step : σ → γ → ρ × σ} {heard : ρ → Severity → ρ}
    {loud : γ → γ} {setting : γ → Option Severity} {Beside : Severity → σ → σ → Prop}
    (hstep : ∀ minimum s t c, Beside minimum s t →
      (step s c).1 = heard (step t (loud c)).1 minimum ∧
        Beside ((setting c).getD minimum) (step s c).2 (step t (loud c)).2)
    {minimum : Severity} {s t : σ} (h : Beside minimum s t) (commands : List γ) :
    (playAll step s commands).1 = ((playAll step t (commands.map loud)).1.mapIdx fun j row =>
        heard row (inForce minimum ((commands.take j).filterMap setting))) ∧
      Beside (inForce minimum (commands.filterMap setting)) (playAll step s commands).2
        (playAll step t (commands.map loud)).2 := by
  induction commands generalizing minimum s t with
  | nil => exact ⟨rfl, h⟩
  | cons c rest ih =>
    obtain ⟨hrow, hnext⟩ := hstep minimum s t c h
    obtain ⟨hrows, hend⟩ := ih hnext
    constructor
    · simp only [playAll, List.map_cons, List.mapIdx_cons, List.take_succ_cons, Log.inForce_cons,
        hrow, hrows]
      rfl
    · rw [Log.inForce_cons]
      exact hend

/-- The rows of a whole session: one before its commands, one for each, and one after them. -/
theorem mapIdx_whole {γ ρ : Type} (heard : ρ → Severity → ρ) (setting : γ → Option Severity)
    (minimum : Severity) (commands : List γ) (first last : ρ) (rows : List ρ)
    (hlength : rows.length = commands.length) :
    ((first :: rows ++ [last]).mapIdx fun j row =>
        heard row (inForce minimum ((commands.take (j - 1)).filterMap setting))) =
      heard first minimum ::
        (rows.mapIdx fun j row =>
          heard row (inForce minimum ((commands.take j).filterMap setting))) ++
        [heard last (inForce minimum (commands.filterMap setting))] := by
  simp only [List.cons_append, List.mapIdx_cons, List.mapIdx_append, List.mapIdx_nil,
    Nat.add_sub_cancel, Nat.zero_add, hlength, List.take_length]
  rfl

namespace Rehearsal

/-- What a command sets the minimum to. -/
def Command.setting : Command → Option Severity
  | .minimum severity => some severity
  | _ => none

/-- A command that sets the minimum to the lowest instead. -/
def Command.loud : Command → Command
  | .minimum _ => .minimum .trace
  | c => c

/-- A row in which the entries below a minimum are not heard. -/
def Row.heard (row : Row) (minimum : Severity) : Row :=
  { row with log := audible minimum row.log }

/-- The rehearsal that hears everything from here on. -/
def loud (r : Rehearsal) : Rehearsal := { r with hub := r.hub.loud }

/-- A rehearsal with a minimum, beside one that hears everything. -/
structure Beside (minimum : Severity) (r full : Rehearsal) : Prop where
  quiet : r.hub.minimum = minimum
  loud : full.hub.minimum = .trace
  native : r.native = full.native
  surface : r.surface = full.surface

theorem beside_loud (r : Rehearsal) : Beside r.hub.minimum r r.loud := ⟨rfl, rfl, rfl, rfl⟩

/-- What is played under a minimum is as it is when everything is heard, and leads to the next
minimum. -/
def Echoes (minimum next : Severity) (played full : Row × Rehearsal) : Prop :=
  played.1 = full.1.heard minimum ∧ Beside next played.2 full.2

variable {minimum next : Severity} {r full : Rehearsal} {played playedFull : Row × Rehearsal}

theorem play_echoes (h : Beside minimum r full)
    (p : Native.Program (Reply × Option Surface)) :
    Echoes minimum minimum (r.play p) (full.play p) := by
  have hlog := Log.Hub.accepted_eq r.hub full.hub h.loud
  constructor
  · simp only [play, Row.heard, h.native, hlog, h.quiet]
  · simp only [play, h.native]
    exact ⟨h.quiet, h.loud, rfl, rfl⟩

theorem settle_echoes (h : Beside minimum r full) (reply : Reply) (minimum' : Severity) :
    Echoes minimum' minimum (r.settle reply) (full.settle reply) := by
  refine ⟨?_, h⟩
  simp only [settle, h.surface, h.native]
  rfl

theorem dropNative_echoes (h : Echoes minimum next played playedFull) :
    Echoes minimum next (dropNative played) (dropNative playedFull) := by
  obtain ⟨hrow, hnext⟩ := h
  constructor
  · simp only [dropNative, hrow, hnext.native]
    rfl
  · simp only [dropNative, hnext.native]
    exact ⟨hnext.quiet, hnext.loud, rfl, hnext.surface⟩

theorem dropUnowned_echoes (h : Echoes minimum next played playedFull) :
    Echoes minimum next (dropUnowned played) (dropUnowned playedFull) := by
  unfold dropUnowned
  rw [h.2.surface, h.2.native]
  split
  · exact dropNative_echoes h
  · exact h

theorem drop_echoes (h : Beside minimum r full) (reply : Reply) :
    Echoes minimum minimum (r.drop reply) (full.drop reply) := by
  unfold drop
  rw [h.surface]
  split
  · exact settle_echoes h reply minimum
  · exact dropNative_echoes (play_echoes h _)

theorem step_echoes (h : Beside minimum r full) (c : Command) :
    Echoes minimum (c.setting.getD minimum) (r.step c) (full.step c.loud) := by
  cases c with
  | inject settings =>
    have hinject : Beside minimum { r with native := r.native.setAll settings }
        { full with native := full.native.setAll settings } :=
      ⟨h.quiet, h.loud, congrArg (·.setAll settings) h.native, h.surface⟩
    exact settle_echoes hinject .done minimum
  | minimum severity =>
    have htuned : Beside severity { r with hub := r.hub.step (.setMinimum severity) }
        { full with hub := full.hub.step (.setMinimum .trace) } :=
      ⟨rfl, rfl, h.native, h.surface⟩
    exact settle_echoes htuned .done minimum
  | waitIdle => exact settle_echoes h .done minimum
  | drop => exact drop_echoes h .done
  | surface step =>
    simp only [Rehearsal.step, Command.loud, h.surface]
    split
    · exact settle_echoes h .dropped minimum
    · exact play_echoes h _
  | native call =>
    simp only [Rehearsal.step, Command.loud, h.surface]
    exact play_echoes h _

theorem steps_beside (h : Beside minimum r full) (commands : List Command) :
    (r.steps commands).1 = ((full.steps (commands.map .loud)).1.mapIdx fun j row =>
        row.heard (inForce minimum ((commands.take j).filterMap Command.setting))) ∧
      Beside (inForce minimum (commands.filterMap Command.setting)) (r.steps commands).2
        (full.steps (commands.map .loud)).2 := by
  have hstep : ∀ minimum r full (c : Command), Beside minimum r full →
      (r.step c).1 = (full.step c.loud).1.heard minimum ∧
        Beside (c.setting.getD minimum) (r.step c).2 (full.step c.loud).2 :=
    fun _ _ _ c h => step_echoes h c
  exact playAll_beside hstep h commands

/-- A whole rehearsal is as it is when everything is heard. Before a row there were as many
commands as there are rows between it and the first. -/
theorem surfaceRows_echoes (hub : Log.Hub) (device : String) (native : Native.Staged)
    (commands : List Command) :
    surfaceRows hub device native commands =
      (surfaceRows hub.loud device native (commands.map .loud)).mapIdx fun j row =>
        row.heard (inForce hub.minimum ((commands.take (j - 1)).filterMap Command.setting)) := by
  have hnew := beside_loud ⟨hub, native, none⟩
  obtain ⟨hrow, hfirst⟩ := dropUnowned_echoes (play_echoes hnew (create device native))
  simp only [Rehearsal.loud] at hrow hfirst
  obtain ⟨hrows, hend⟩ := steps_beside hfirst commands
  simp only [surfaceRows, hfirst.surface]
  split
  · rw [hrow]
    rfl
  · rw [mapIdx_whole Row.heard Command.setting, hrow, hrows, hend.surface,
      (drop_echoes hend _).1]
    exact (playAll_length _ _ _).trans (List.length_map _)

end Rehearsal

namespace Performance

variable {σ δ : Type} (actor : Actor σ δ)

/-- What a command sets the minimum to. -/
def Command.setting (c : Command δ) : Option Severity :=
  match c.action with
  | .minimum severity => some severity
  | _ => none

/-- A command that sets the minimum to the lowest instead. -/
def Command.loud (c : Command δ) : Command δ :=
  match c.action with
  | .minimum _ => { c with action := .minimum .trace }
  | _ => c

/-- A row in which the entries below a minimum are not heard. -/
def Row.heard (row : Row) (minimum : Severity) : Row :=
  { row with log := audible minimum row.log }

/-- The performance that hears everything from here on. -/
def loud (r : Performance σ) : Performance σ := { r with hub := r.hub.loud }

/-- A performance with a minimum, beside one that hears everything. -/
structure Beside (minimum : Severity) (r full : Performance σ) : Prop where
  quiet : r.hub.minimum = minimum
  loud : full.hub.minimum = .trace
  driver : r.driver = full.driver
  playback : r.playback = full.playback

theorem beside_loud (r : Performance σ) : Beside r.hub.minimum r r.loud := ⟨rfl, rfl, rfl, rfl⟩

/-- What is played under a minimum is as it is when everything is heard, and leads to the next
minimum. -/
def Echoes (minimum next : Severity) (played full : Row × Performance σ) : Prop :=
  played.1 = full.1.heard minimum ∧ Beside next played.2 full.2

variable {minimum : Severity} {r full : Performance σ}

theorem play_echoes (h : Beside minimum r full) (p : Vulkan.Program (Reply × Playback)) :
    Echoes minimum minimum (r.play actor p) (full.play actor p) := by
  have hlog := Log.Hub.accepted_eq r.hub full.hub h.loud
  constructor
  · simp only [play, Row.heard, h.driver, h.playback, hlog, h.quiet]
  · simp only [play, h.driver, h.playback]
    exact ⟨h.quiet, h.loud, rfl, rfl⟩

theorem step_echoes (h : Beside minimum r full) (c : Command δ) :
    Echoes minimum (c.setting.getD minimum) (r.step actor c) (full.step actor c.loud) := by
  obtain ⟨slot, action⟩ := c
  cases action with
  | play command =>
    obtain ⟨hrow, hnext⟩ := play_echoes actor h (full.playback.step slot command)
    constructor
    · simp only [step, act, Command.loud, h.playback, hrow, hnext.playback]
      rfl
    · simp only [step, act, Command.loud, h.playback]
      exact hnext
  | change direction =>
    constructor
    · simp only [step, act, Command.loud, h.playback]
      rfl
    · simp only [step, act, Command.loud, h.driver]
      exact ⟨h.quiet, h.loud, rfl, h.playback⟩
  | minimum severity =>
    constructor
    · simp only [step, act, Command.loud, h.playback]
      rfl
    · exact ⟨rfl, rfl, h.driver, h.playback⟩

theorem steps_beside (h : Beside minimum r full) (commands : List (Command δ)) :
    (r.steps actor commands).1 =
      ((full.steps actor (commands.map .loud)).1.mapIdx fun j row =>
        row.heard (inForce minimum ((commands.take j).filterMap Command.setting))) ∧
      Beside (inForce minimum (commands.filterMap Command.setting)) (r.steps actor commands).2
        (full.steps actor (commands.map .loud)).2 := by
  have hstep : ∀ minimum r full (c : Command δ), Beside minimum r full →
      (r.step actor c).1 = (full.step actor c.loud).1.heard minimum ∧
        Beside (c.setting.getD minimum) (r.step actor c).2 (full.step actor c.loud).2 :=
    fun _ _ _ c h => step_echoes actor h c
  exact playAll_beside hstep h commands

theorem finish_echoes (h : Beside minimum r full) :
    Echoes minimum minimum (r.finish actor) (full.finish actor) := by
  unfold finish
  rw [h.playback]
  exact play_echoes actor h _

/-- A whole performance is as it is when everything is heard. Before a row there were as many
commands as there are rows between it and the first. -/
theorem whole_echoes (hub : Log.Hub) (driver : σ) (host : Vulkan.Host) (window : Window)
    (config : DeviceConfig) (commands : List (Command δ)) :
    (whole actor hub driver host window config commands).1 =
        ((whole actor hub.loud driver host window config (commands.map .loud)).1.mapIdx
          fun j row =>
            row.heard (inForce hub.minimum ((commands.take (j - 1)).filterMap Command.setting))) ∧
      (whole actor hub driver host window config commands).2.driver =
        (whole actor hub.loud driver host window config (commands.map .loud)).2.driver := by
  have hnew := beside_loud ⟨hub, driver, ⟨window, none, .empty, none, false⟩⟩
  obtain ⟨hrow, hfirst⟩ := play_echoes actor hnew (Playback.start host window config)
  simp only [Performance.loud] at hrow hfirst
  simp only [whole, hfirst.playback]
  split
  · obtain ⟨hrows, hend⟩ := steps_beside actor hfirst commands
    obtain ⟨hlast, hleft⟩ := finish_echoes actor hend
    rw [mapIdx_whole Row.heard Command.setting, hrow, hrows, hlast]
    · exact ⟨rfl, hleft.driver⟩
    · exact (playAll_length _ _ _).trans (List.length_map _)
  · obtain ⟨hlast, hleft⟩ := finish_echoes actor hfirst
    refine ⟨?_, hleft.driver⟩
    rw [hrow, steps, playAll, hlast]
    rfl

end Performance

/-- The minimum severity decides what is heard and nothing else. A rehearsal or a performance,
with the minimum changed at any step, has row by row the replies, the surfaces and the calls it
has while the minimum stays the lowest, leads to the same native surface, driver and surfaces,
and is heard to log, of what it then logs, what is at least as severe as the minimum in force.
Whoever changes the hub in the middle of an operation changes its deliveries in the same way,
and neither its outcome nor its calls. -/
theorem minimum_only_filters :
    (∀ hub entries, Log.Hub.accepted (Log.Hub.loud hub) entries = entries) ∧
    (∀ hub device native (commands : List Rehearsal.Command),
      Rehearsal.surfaceRows hub device native commands =
        (Rehearsal.surfaceRows hub.loud device native (commands.map .loud)).mapIdx fun j row =>
          row.heard (inForce hub.minimum
            ((commands.take (j - 1)).filterMap Rehearsal.Command.setting))) ∧
    (∀ (r : Rehearsal) commands,
      (r.steps commands).2.native = (r.loud.steps (commands.map .loud)).2.native ∧
        (r.steps commands).2.surface = (r.loud.steps (commands.map .loud)).2.surface) ∧
    (∀ (σ δ : Type) (actor : Actor σ δ) hub driver host window config
        (commands : List (Performance.Command δ)),
      (Performance.whole actor hub driver host window config commands).1 =
          ((Performance.whole actor hub.loud driver host window config
            (commands.map .loud)).1.mapIdx fun j row =>
              row.heard (inForce hub.minimum
                ((commands.take (j - 1)).filterMap Performance.Command.setting))) ∧
        (Performance.whole actor hub driver host window config commands).2.driver =
          (Performance.whole actor hub.loud driver host window config
            (commands.map .loud)).2.driver) ∧
    (∀ (σ δ : Type) (actor : Actor σ δ) (r : Performance σ) commands,
      (r.steps actor commands).2.driver = (r.loud.steps actor (commands.map .loud)).2.driver ∧
        (r.steps actor commands).2.playback =
          (r.loud.steps actor (commands.map .loud)).2.playback) ∧
    ∀ (I : Interface) (σ α : Type) (answer : (c : I.Call) → σ → I.Answer c × σ)
        (hub : Nat → Log.Hub) (start : Nat) (p : Program I α) (s : σ),
      let heard := p.dispatch answer hub start s
      let full := p.dispatch answer (fun moment => (hub moment).loud) start s
      heard.outcome = full.outcome ∧ heard.peer = full.peer ∧ heard.calls = full.calls ∧
        full.deliveries.map Log.Delivery.entry = (p.run answer s).entries ∧
        heard.deliveries = full.deliveries.filter fun d =>
          (hub d.moment).minimum ≤ d.entry.severity := by
  refine ⟨fun hub => Log.Hub.accepted_of_trace rfl, Rehearsal.surfaceRows_echoes, ?_,
    fun σ δ actor => Performance.whole_echoes actor, ?_, ?_⟩
  · intro r commands
    obtain ⟨-, hend⟩ := Rehearsal.steps_beside r.beside_loud commands
    exact ⟨hend.native, hend.surface⟩
  · intro σ δ actor r commands
    obtain ⟨-, hend⟩ := Performance.steps_beside actor r.beside_loud commands
    exact ⟨hend.driver, hend.playback⟩
  · intro I σ α answer hub start p s heard full
    obtain ⟨houtcome, hpeer, hcalls⟩ := p.dispatch_run answer hub start s
    obtain ⟨houtcome', hpeer', hcalls'⟩ := p.dispatch_run answer (fun t => (hub t).loud) start s
    exact ⟨houtcome.trans houtcome'.symm, hpeer.trans hpeer'.symm, hcalls.trans hcalls'.symm,
      p.dispatch_loud answer hub start s, p.dispatch_filter answer hub start s⟩

end Session

end Presentation
