import Presentation.Native.Simulated
import Presentation.Proofs.Surface.Episode

/-!
# Surfaces on a simulated window

An application performs operations on a surface whose native surface is
simulated, and between them faults are set and cleared.
-/

set_option autoImplicit false

namespace Presentation.Native.Simulated

open Surface (Op Episode)

inductive Move where
  | inject (change : Faults → Faults)
  | perform (op : Op)

def Move.op? : Move → Option Op
  | inject _ => none
  | perform op => some op

/-- A surface with its native surface. -/
structure Stage where
  surface : Surface
  native : Simulated

namespace Stage

def inject (st : Stage) (change : Faults → Faults) : Stage :=
  { st with native := { st.native with faults := change st.native.faults } }

/-- One operation. There is nothing after one that halts. -/
def perform (st : Stage) (op : Op) : Option (Episode interface × Stage) :=
  let run := (st.surface.perform op).run answer st.native
  match run.outcome with
  | .ok (reply, s) => some (⟨op, st.surface, reply, s, run.events⟩, ⟨s, run.peer⟩)
  | .error _ => none

def play : Stage → List Move → List (Episode interface) × Stage
  | st, [] => ([], st)
  | st, .inject change :: moves => (st.inject change).play moves
  | st, .perform op :: moves =>
    match st.perform op with
    | some (e, st) =>
      let (es, st) := st.play moves
      (e :: es, st)
    | none => ([], st)

/-- A surface that is made on a simulated window. -/
def attach (device : String) (n : Simulated) : Option Stage :=
  let run := (Surface.attach device).run answer n
  match run.outcome with
  | .ok (.ok s) => some ⟨s, run.peer⟩
  | _ => none

/-- The episodes of a surface from its creation on. -/
def story (device : String) (n : Simulated) (moves : List Move) : List (Episode interface) :=
  match attach device n with
  | some st => (st.play moves).1
  | none => []

end Stage

theorem configure_fst {m n : Simulated} (h : m.faults = n.faults) (desc : SwapchainDesc) :
    (m.configure desc).1 = (n.configure desc).1 := by
  simp only [configure, h]
  split
  · rfl
  · split
    · rfl
    · rfl

theorem configure_images {n : Simulated} {desc : SwapchainDesc}
    (h : (n.configure desc).1 = .ok ()) : (n.configure desc).2.images = imagesOf desc := by
  revert h
  simp only [configure]
  split
  · rintro ⟨⟩
  · split
    · rintro ⟨⟩
    · exact fun _ => rfl

/-- Textures as a configuration makes them. -/
def Made (_ : Episode interface) (desc : SwapchainDesc) (info : TextureInfo) : Prop :=
  info = ⟨desc.width, desc.height, desc.format, desc.usage, 1⟩

theorem made_of_mem {e : Episode interface} {desc : SwapchainDesc} {texture : Texture}
    (h : texture ∈ imagesOf desc) : Made e desc texture.info := by
  obtain ⟨image, -, rfl⟩ := List.mem_map.mp h
  rfl

namespace Stage

variable {st st' : Stage} {op : Op} {e : Episode interface}

/-- An operation is performed as it was described, with the answers of the simulated surface. -/
structure Performs (st : Stage) (op : Op) (e : Episode interface) (st' : Stage) : Prop where
  op_eq : e.op = op
  before : e.before = st.surface
  after : e.after = st'.surface
  acts : st.surface.Acts op (Watch.calls e.events) e.reply st'.surface
  replays : Program.Replays answer (Watch.calls e.events) st.native st'.native

theorem exists_performs (st : Stage) (op : Op) :
    ∃ e st', st.perform op = some (e, st') ∧ st.Performs op e st' := by
  obtain ⟨reply, s, houtcome, hacts⟩ := Surface.perform_run answer st.native st.surface op
  have hreplays := Program.run_replays answer (st.surface.perform op) st.native
  refine ⟨⟨op, st.surface, reply, s, ((st.surface.perform op).run answer st.native).events⟩,
    ⟨s, ((st.surface.perform op).run answer st.native).peer⟩, ?_, rfl, rfl, rfl, hacts, hreplays⟩
  simp only [perform, houtcome]

theorem Performs.sound (h : st.Performs op e st') : e.Sound Made := by
  refine ⟨Watch.calls e.events, ?_, ?_⟩
  · rw [h.before, h.after, h.op_eq]
    exact h.acts
  · intro desc images info hcalls texture htexture
    have hreplays := h.replays
    rw [hcalls] at hreplays
    obtain ⟨hok, rfl, -⟩ := hreplays
    have himages : (st.native.configure desc).2.images = imagesOf desc :=
      configure_images hok.symm
    exact made_of_mem (himages ▸ htexture)

/-- None of the operations halts. -/
theorem play_ops (st : Stage) (moves : List Move) :
    (st.play moves).1.map (·.op) = moves.filterMap Move.op? := by
  induction moves generalizing st with
  | nil => rfl
  | cons move moves ih =>
    cases move with
    | inject change => exact ih (st.inject change)
    | perform op =>
      obtain ⟨e, st', heq, h⟩ := st.exists_performs op
      simp only [play, heq, List.map_cons, h.op_eq, ih st']
      rfl

theorem play_linked (st : Stage) (moves : List Move) :
    Episode.Linked st.surface (st.play moves).1 ∧ ∀ e ∈ (st.play moves).1, e.Sound Made := by
  induction moves generalizing st with
  | nil => exact ⟨trivial, by simp [play]⟩
  | cons move moves ih =>
    cases move with
    | inject change => exact ih (st.inject change)
    | perform op =>
      obtain ⟨e, st', heq, h⟩ := st.exists_performs op
      obtain ⟨hlinked, hsound⟩ := ih st'
      simp only [play, heq]
      refine ⟨⟨h.before, h.after ▸ hlinked⟩, ?_⟩
      intro e' he'
      rcases List.mem_cons.mp he' with rfl | he'
      · exact h.sound
      · exact hsound e' he'

/-- A surface that is made is not configured yet, and its window is as it was. -/
theorem attach_eq {device : String} {n : Simulated} (h : attach device n = some st) :
    st.surface.active = none ∧ st.native = n := by
  simp only [attach, Surface.attach, Native.queryInfo, Program.call, bind, Program.bind,
    Program.run, answer] at h
  cases hinfo : n.queryInfo with
  | error e =>
    rw [hinfo] at h
    cases h
  | ok info =>
    rw [hinfo] at h
    dsimp only at h
    split at h
    · rename_i hmade
      cases h
      split at hmade
      · cases hmade
      · cases hmade
        exact ⟨rfl, by split <;> rfl⟩
    · cases h

/-- What an application is shown on a simulated window is true, whatever faults are injected. -/
theorem story_truthful (device : String) (n : Simulated) (moves : List Move) :
    Episode.Truthful Made (story device n moves) := by
  unfold story attach
  dsimp only
  cases houtcome : ((Surface.attach device).run answer n).outcome with
  | error reason => exact Episode.truthful_nil
  | ok made =>
    cases made with
    | error e => exact Episode.truthful_nil
    | ok s =>
      obtain ⟨-, hend, -⟩ := (Surface.attach_unconfigured device).run answer n
        (fun _ _ _ _ => trivial)
      have hnone : s.active = none := hend _ houtcome s rfl
      obtain ⟨hlinked, hsound⟩ :=
        play_linked ⟨s, ((Surface.attach device).run answer n).peer⟩ moves
      exact Episode.truthful_of_linked hlinked hnone hsound

end Stage

end Presentation.Native.Simulated
