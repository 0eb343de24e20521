import Presentation.Proofs.Watch
import Presentation.Session.Reply

/-!
# One transition an operation

An operation of a surface configures its native surface or gives up its
swapchain at most once. After that it asks for nothing but the snapshot and the
images.
-/

set_option autoImplicit false

namespace Presentation

namespace Native

/-- Calls that leave a native surface as it is. -/
def Call.Reads : Call → Prop
  | .queryInfo => True
  | .images => True
  | _ => False

/-- Whether a call ends the swapchain that there is, or tries to. -/
def Call.transits : Call → Bool
  | .configure _ => true
  | .unconfigure => true
  | _ => false

/-- Whether there was a transition. There is one at most, and only reading afterwards. -/
def transition : Watch interface Bool where
  see past
    | .asked call _ => past || call.transits
    | .noted _ => past
  allows past call := past = true → call.Reads
  trusts _ _ _ := True
  halts := False

instance : transition.Deaf := ⟨fun _ _ => rfl⟩

end Native

open Native (transition)

namespace Surface

variable {s : Surface} {past : Bool}

theorem refreshAfterTransition_reads :
    s.refreshAfterTransition.Keeps transition (fun _ _ => True) past := by
  simp only [refreshAfterTransition, Native.queryInfo, Program.keeps_andThen, Program.call,
    Program.keeps_ask, Program.keeps_done]
  refine ⟨fun _ => trivial, ?_⟩
  intro answer _
  cases answer with
  | error e =>
    simp only [notice, Program.keeps_andThen, Program.keeps_log, Program.keeps_pure]
  | ok info =>
    trivial

theorem configure_transits (config : SurfaceConfig) :
    (s.configure config).Keeps transition (fun _ _ => True) false := by
  unfold configure
  split
  · simp only [notice, Program.keeps_andThen, Program.keeps_log, Program.keeps_pure]
  · simp only [notice, Program.keeps_logIf, Program.keeps_andThen, Native.configure,
      Program.call, Program.keeps_ask, Program.keeps_done]
    refine ⟨by simp [transition], ?_⟩
    intro answer _
    cases answer with
    | error e =>
      trivial
    | ok done =>
      simp only [Native.images, Program.keeps_logIf, Program.keeps_andThen, Program.call,
        Program.keeps_ask, Program.keeps_done, Program.keeps_log, Program.keeps_pure]
      constructor
      · intro _
        trivial
      · intro images _
        exact refreshAfterTransition_reads

theorem unconfigure_transits : s.unconfigure.Keeps transition (fun _ _ => True) false := by
  unfold unconfigure
  split
  · simp only [notice, Program.keeps_logIf, Program.keeps_andThen, Native.unconfigure,
      Program.call, Program.keeps_ask, Program.keeps_done, Program.keeps_log, Program.keeps_pure]
    constructor
    · simp [transition]
    · intro _ _
      exact refreshAfterTransition_reads
  · trivial

theorem resize_transits (width height : UInt32) :
    (s.resize width height).Keeps transition (fun _ _ => True) false := by
  unfold resize
  split
  · simp only [Program.keeps_andThen, Program.keeps_pure]
    exact unconfigure_transits
  · split
    · trivial
    · exact configure_transits _

theorem acquireNextImage_stays :
    s.acquireNextImage.Keeps transition (fun _ past => past = false) false := by
  unfold acquireNextImage
  split
  · simp only [notice, Program.keeps_andThen, Program.keeps_log, Program.keeps_pure]
  · split
    · simp only [notice, Program.keeps_andThen, Program.keeps_log, Program.keeps_pure]
    · split
      · simp only [notice, Program.keeps_andThen, Program.keeps_log, Program.keeps_pure]
      · simp only [Native.acquire, Program.keeps_andThen, Program.call, Program.keeps_ask,
          Program.keeps_done]
        refine ⟨by simp [transition], ?_⟩
        intro answer _
        cases answer with
        | error e =>
          cases e with
          | _ => rfl
        | ok index =>
          dsimp only
          split
          · rfl
          · rfl

theorem present_stays : s.present.Keeps transition (fun _ past => past = false) false := by
  unfold present
  split
  · simp only [notice, Program.keeps_andThen, Program.keeps_log, Program.keeps_pure]
  · simp only [Native.present, Program.keeps_andThen, Program.call, Program.keeps_ask,
      Program.keeps_done]
    refine ⟨by simp [transition], ?_⟩
    intro answer _
    cases answer with
    | error e =>
      cases e with
      | _ => rfl
    | ok done =>
      rfl

theorem renderFrames_stays (count : Nat) :
    (s.renderFrames count).Keeps transition (fun _ past => past = false) false := by
  induction count generalizing s with
  | zero => rfl
  | succ count ih =>
    simp only [renderFrames, Program.keeps_andThen]
    apply Program.Keeps.mono acquireNextImage_stays
    rintro ⟨e | image, s⟩ _ rfl
    · rfl
    · simp only [Program.keeps_andThen]
      apply Program.Keeps.mono present_stays
      rintro ⟨e | ⟨⟩, s⟩ _ rfl
      · rfl
      · simp only [Program.keeps_andThen, Program.keeps_pure]
        exact ih

theorem perform_transits (op : Op) : (s.perform op).Keeps transition (fun _ _ => True) false := by
  cases op with
  | configure config =>
    simp only [perform, Program.keeps_andThen, Program.keeps_pure]
    exact configure_transits config
  | resize width height =>
    simp only [perform, Program.keeps_andThen, Program.keeps_pure]
    exact resize_transits width height
  | unconfigure =>
    simp only [perform, Program.keeps_andThen, Program.keeps_pure]
    exact unconfigure_transits
  | acquire =>
    simp only [perform, Program.keeps_andThen, Program.keeps_pure]
    exact acquireNextImage_stays.mono fun _ _ _ => trivial
  | present =>
    simp only [perform, Program.keeps_andThen, Program.keeps_pure]
    exact present_stays.mono fun _ _ _ => trivial
  | refresh =>
    simp only [perform, refreshInfo, Native.queryInfo, Program.keeps_andThen, Program.call,
      Program.keeps_ask, Program.keeps_done, Program.keeps_pure]
    refine ⟨fun _ => trivial, ?_⟩
    intro answer _
    cases answer with
    | error e =>
      trivial
    | ok info =>
      trivial
  | current => trivial

theorem attach_stays (device : String) :
    (attach device).Keeps transition (fun _ past => past = false) false := by
  simp only [attach, Native.queryInfo, Program.keeps_andThen, Program.call, Program.keeps_ask,
    Program.keeps_done]
  refine ⟨fun _ => trivial, ?_⟩
  intro answer _
  cases answer with
  | error e =>
    rfl
  | ok info =>
    dsimp only
    split
    · rfl
    · rfl

end Surface

theorem Session.SurfaceStep.perform_transits (step : Session.SurfaceStep) (s : Surface) :
    (step.perform s).Keeps transition (fun _ _ => True) false := by
  cases step with
  | op op =>
    simp only [perform, Program.keeps_andThen, Program.keeps_pure]
    exact Surface.perform_transits op
  | frames count =>
    simp only [perform, Program.keeps_andThen, Program.keeps_pure]
    exact (Surface.renderFrames_stays count).mono fun _ _ _ => trivial
  | deviceName => trivial

end Presentation
