import Presentation.Proofs.Vulkan.Alarm
import Presentation.Proofs.Vulkan.Retirement
import Presentation.Vulkan.Device

/-!
# Failures are reported once

Whatever a driver answers, a device that is created or used and a window surface
that serves a call raise one alarm if they end with an error that is not left to
the caller, or if a presentation is denied, and none otherwise.
-/

set_option autoImplicit false

namespace Presentation.Vulkan

variable {presents : Prop}

section Selection

theorem createWindowSurface_silent (inst : Handle .inst) (handle : WindowHandle) :
    (createWindowSurface inst handle).Silent alarming := by
  unfold createWindowSurface
  split
  · exact Program.silent_pure _
  · exact ask_calm _ id

theorem canPresent_silent (gpu : Gpu) (surface : Handle .surface) (family : Nat) :
    (canPresent gpu surface family).Silent alarming :=
  (ask_calm _ id).bind fun _ => Program.silent_pure _

theorem findPresentFamily_silent (gpu : Gpu) (surface : Handle .surface) (families : List Nat) :
    (findPresentFamily gpu surface families).Silent alarming := by
  induction families with
  | nil => exact Program.silent_pure _
  | cons family rest ih =>
    apply (canPresent_silent gpu surface family).bind
    intro able
    split
    · exact Program.silent_pure _
    · exact ih

theorem choosePresentFamily_silent (gpu : Gpu) (surface : Handle .surface)
    (graphics families : Nat) :
    (choosePresentFamily gpu surface graphics families).Silent alarming := by
  apply (canPresent_silent gpu surface graphics).bind
  intro able
  split
  · exact Program.silent_pure _
  · exact findPresentFamily_silent gpu surface _

theorem candidate_silent (surface : Handle .surface) (gpu : Gpu) :
    (candidate surface gpu).Silent alarming := by
  apply (ask_calm _ id).bind
  intro properties
  apply (ask_calm _ id).bind
  intro families
  split
  · exact Program.silent_pure _
  · apply (choosePresentFamily_silent gpu surface _ _).bind
    rintro (_ | present)
    · exact Program.silent_pure _
    · exact Program.silent_pure _

theorem candidates_silent (surface : Handle .surface) (gpus : List Gpu) :
    (candidates surface gpus).Silent alarming := by
  induction gpus with
  | nil => exact Program.silent_pure _
  | cons gpu rest ih =>
    apply (candidate_silent surface gpu).bind
    intro first
    exact ih.bind fun _ => Program.silent_pure _

theorem selectFor_explains (inst : Handle .inst) (surface : Handle .surface) :
    (selectFor inst surface).Marks alarming
      (fun r => Explained (Account presents) (failure? r)) [] := by
  apply (ask_calm _ id).andThen
  rintro (code | gpus)
  · exact refuse_explained rfl faithful_construction fun _ => rfl
  · apply (candidates_silent surface gpus).andThen
    intro all
    split
    · exact refuse_explained rfl faithful_construction fun _ => rfl
    · exact rfl

theorem select_explains (inst : Handle .inst) (handle : WindowHandle) :
    (select inst handle).Marks alarming
      (fun r => Explained (Account presents) (failure? r)) [] := by
  apply (createWindowSurface_silent inst handle).andThen
  rintro (code | surface)
  · exact refuse_explained rfl faithful_construction fun _ => rfl
  · apply (selectFor_explains inst surface).andThen
    intro result told htold
    exact (ask_calm _ id).andThen fun _ => htold

end Selection

namespace Device

theorem releaseInstance_silent (inst : Handle .inst) (messenger : Option (Handle .messenger)) :
    (Context.releaseInstance inst messenger).Silent alarming := by
  unfold Context.releaseInstance
  split
  · exact (ask_calm _ id).bind fun _ => (ask_calm _ id).bind fun _ => Program.silent_pure _
  · exact (ask_calm _ id).bind fun _ => Program.silent_pure _

theorem prerequisites_explains (host : Host) (handle : WindowHandle) (config : DeviceConfig) :
    (prerequisites host handle config).Marks alarming
      (fun r => Explained (Account presents) (failure? r)) [] := by
  unfold prerequisites
  split
  · exact refuse_explained rfl faithful_construction fun _ => rfl
  · split
    · exact refuse_explained rfl faithful_construction fun _ => rfl
    · split
      · exact refuse_explained rfl faithful_construction fun _ => rfl
      · split
        · exact (notice_silent (by decide)).andThen fun _ => rfl
        · exact rfl

theorem createMessenger_explains (inst : Handle .inst) (config : DeviceConfig) (validation : Bool)
    (forwarding : Option Forwarding) :
    (createMessenger inst config validation forwarding).Marks alarming
      (fun r => Explained (Account presents) (failure? r.1)) [] := by
  unfold createMessenger
  split
  · apply (ask_calm _ id).andThen
    rintro (code | messenger)
    · exact refuse_explained rfl faithful_construction fun _ => rfl
    · exact rfl
  · exact rfl

/-- An alarm whose words are not those of the error, which is not for the application. -/
theorem account_construction {n : Notice} (hn : n.severity = .error) (reason : String) :
    Account presents (.construction reason) [.noted n.entry] :=
  .loud (faithful_construction reason).1 hn fun _ h => by simp at h

theorem createOn_explains (inst : Handle .inst) (messenger : Option (Handle .messenger))
    (handle : WindowHandle) (validation : Bool) (forwarding : Option Forwarding) :
    (createOn inst messenger handle validation forwarding).Marks alarming
      (fun r => Explained (Account presents) (failure? r.1)) [] := by
  apply (select_explains inst handle).andThen
  rintro (e | selection) told htold
  · exact (releaseInstance_silent inst messenger).andThen fun _ => htold
  · obtain rfl : told = [] := htold
    apply (ask_calm _ id).andThen
    rintro (code | device)
    · -- the alarm comes before the instance is released
      apply (notice_alarms rfl).andThen
      rintro _ _ rfl
      exact (releaseInstance_silent inst messenger).andThen fun _ => account_construction rfl _
    · apply (notice_silent fun h => by cases h).andThen
      intro _
      apply (ask_calm _ id).andThen
      intro graphicsQueue
      apply (ask_calm _ id).andThen
      exact fun presentQueue => rfl

theorem create_explains {window : Window} {handle : WindowHandle}
    (hhandle : WindowHandle.ofWindow window = .ok handle) (host : Host) (config : DeviceConfig)
    (forwarding : Option Forwarding) : (create host window config forwarding).Marks alarming
      (fun r => Explained (Account presents) (failure? r.1)) [] := by
  unfold create
  rw [hhandle]
  apply (prerequisites_explains host handle config).andThen
  rintro (e | extensions) told htold
  · exact htold
  · obtain rfl : told = [] := htold
    apply (ask_calm _ id).andThen
    rintro (code | inst)
    · apply (notice_alarms rfl).andThen
      rintro _ _ rfl
      exact account_construction rfl _
    · apply (createMessenger_explains inst config _ forwarding).andThen
      rintro ⟨e | messenger, forwarding⟩ told htold
      · exact (ask_calm _ id).andThen fun _ => htold
      · obtain rfl : told = [] := htold
        exact createOn_explains inst messenger handle _ forwarding

theorem openWindow_explains (d : Device) (handle : WindowHandle) :
    (d.openWindow handle).Marks alarming
      (fun r => Explained (Account presents) (failure? r)) [] := by
  apply (createWindowSurface_silent d.context.inst handle).andThen
  rintro (code | surface)
  · exact refuse_explained rfl faithful_unsupportedSurface fun _ => rfl
  · apply (canPresent_silent d.context.gpu surface d.context.presentFamily).andThen
    intro able
    split
    · exact rfl
    · apply (ask_calm _ id).andThen
      intro _
      exact refuse_explained rfl faithful_unsupportedSurface fun _ => rfl

theorem waitIdle_explains (d : Device) : d.waitIdle.Marks alarming
    (fun r => Explained (Account presents) (failure? r)) [] := by
  apply (ask_calm _ id).andThen
  rintro (code | ⟨⟨⟩⟩)
  · exact refuse_explained rfl faithful_backendError fun _ => rfl
  · exact rfl

end Device

/-- The error that a call is answered with, if it is. -/
def callFailure? : (call : Native.Call) → call.Answer → Option Error
  | .queryInfo, r => failure? r
  | .configure _, r => failure? r
  | .unconfigure, _ => none
  | .images, _ => none
  | .acquire, r => failure? r
  | .present _, r => failure? r

theorem WindowSurface.serve_explains (ws : WindowSurface) (call : Native.Call) :
    (serve call ws).Marks alarming (fun r =>
      Explained (Account (∃ index, call = .present index)) (callFailure? call r.1)) [] := by
  cases call with
  | queryInfo => exact ws.queryInfo_explains.andThen fun _ _ htold => htold
  | configure desc => exact ws.configure_explains desc
  | unconfigure => exact ws.unconfigure_silent.andThen fun _ => rfl
  | images => exact rfl
  | acquire => exact ws.onSwapchain_explains Swapchain.acquire_explains
  | present index =>
    exact ws.onSwapchain_explains fun ctx => Swapchain.present_explains ctx index ⟨index, rfl⟩

/-- A presentation was denied by the driver. -/
def Denied (events : List (Event interface)) : Prop :=
  ∃ queue wait swapchain index code,
    .asked (.present queue wait swapchain index) (.error code) ∈ events ∧ code ≠ .outOfDate

/-- What is heard during a call that ends with an error or with none. -/
structure Heard (error : Option Error) (presents : Prop) (events : List (Event interface)) :
    Prop where
  once : (∃ e, error = some e ∧ Loud e) ∨ presents ∧ Denied events →
    ∃ entry, alarms events = [entry]
  silent : ¬ ((∃ e, error = some e ∧ Loud e) ∨ presents ∧ Denied events) → alarms events = []
  text : ∀ m, error = some (.backendError m) ∨ error = some (.unsupportedSurface m) →
    (alarms events).map (·.message) = [m]

section Hearing

variable {error : Option Error} {events told : List (Event interface)}

theorem alarms_filter (events : List (Event interface)) :
    alarms (events.filter alarming) = alarms events := by
  rw [alarms, alarms, List.filter_filterMap, List.filter_filterMap, List.filterMap_filter]
  refine congrArg (List.filterMap · events) (funext fun event => ?_)
  cases event with
  | asked c a => exact ite_self none
  | noted entry =>
    by_cases h : isAlarm entry = true
    · exact if_pos h
    · rw [if_neg (show ¬ alarming (.noted entry) = true from h)]
      exact (if_neg h).symm

theorem denied_filter : Denied (events.filter alarming) ↔ Denied events := by
  constructor
  · rintro ⟨queue, wait, swapchain, index, code, hmem, hcode⟩
    exact ⟨queue, wait, swapchain, index, code, (List.mem_filter.mp hmem).1, hcode⟩
  · rintro ⟨queue, wait, swapchain, index, code, hmem, hcode⟩
    exact ⟨queue, wait, swapchain, index, code,
      List.mem_filter.mpr ⟨hmem, decide_eq_true hcode⟩, hcode⟩

theorem heard_nothing (h : ∀ e, error = some e → ¬ Loud e) : Heard error presents [] := by
  have hnone : ¬ ((∃ e, error = some e ∧ Loud e) ∨ presents ∧ Denied []) := by
    rintro (⟨e, herror, hloud⟩ | ⟨-, queue, wait, swapchain, index, code, hmem, -⟩)
    · exact h e herror hloud
    · cases hmem
  refine ⟨fun hfails => absurd hfails hnone, fun _ => rfl, ?_⟩
  rintro m (herror | herror)
  · exact absurd (faithful_backendError m).1 (h _ herror)
  · exact absurd (faithful_unsupportedSurface m).1 (h _ herror)

theorem heard_of_explained (h : Explained (Account presents) error told) :
    Heard error presents told := by
  cases error with
  | none =>
    obtain rfl : told = [] := h
    exact heard_nothing nofun
  | some e =>
    cases h with
    | quiet hquiet =>
      apply heard_nothing
      rintro _ ⟨⟩
      exact hquiet
    | @loud _ n hloud hn htext =>
      have halarms : alarms [.noted n.entry] = [n.entry] :=
        List.filter_cons_of_pos (isAlarm_entry.mpr hn)
      refine ⟨fun _ => ⟨_, halarms⟩, fun hnone => absurd (Or.inl ⟨e, rfl, hloud⟩) hnone, ?_⟩
      intro m hm
      rw [htext m (hm.imp Option.some.inj Option.some.inj), halarms]
      rfl
    | @denied queue wait swapchain index code n hpresents hcode hn =>
      have halarms : alarms [.asked (.present queue wait swapchain index) (.error code),
          .noted n.entry] = [n.entry] := List.filter_cons_of_pos (isAlarm_entry.mpr hn)
      have hdenied : Denied [.asked (.present queue wait swapchain index) (.error code),
          .noted n.entry] := ⟨queue, wait, swapchain, index, code, List.mem_cons_self, hcode⟩
      refine ⟨fun _ => ⟨_, halarms⟩, fun hnone => absurd (Or.inr ⟨hpresents, hdenied⟩) hnone, ?_⟩
      rintro m (hm | hm)
      · cases hm
      · cases hm

/-- The error that a run ends with, if it does. -/
def endsWith? {σ β : Type} (run : Run interface σ β) (error? : β → Option Error) : Option Error :=
  match run.outcome with
  | .ok r => error? r
  | .error _ => none

theorem heard_of_marks {σ β : Type} {p : Program β} {error? : β → Option Error}
    (h : p.Marks alarming (fun r => Explained (Account presents) (error? r)) [])
    (answer : (c : Call) → σ → c.Answer × σ) (driver : σ) :
    Heard (endsWith? (p.run answer driver) error?) presents (p.run answer driver).events := by
  obtain ⟨hend, hhalt⟩ := h.run answer driver
  rw [List.nil_append] at hend hhalt
  have htold : Explained (Account presents) (endsWith? (p.run answer driver) error?)
      ((p.run answer driver).events.filter alarming) := by
    unfold endsWith?
    split
    · rename_i r houtcome
      exact hend r houtcome
    · rename_i reason houtcome
      exact hhalt reason houtcome
  obtain ⟨honce, hsilent, htext⟩ := heard_of_explained htold
  rw [alarms_filter, denied_filter] at honce hsilent
  rw [alarms_filter] at htext
  exact ⟨honce, hsilent, htext⟩

end Hearing

/-- An error that a call ends with, and a presentation that the driver denies, are reported once, by
one alarm with the text of the error. What ends otherwise raises no alarm. -/
theorem failures_reported_once {σ : Type} (answer : (c : Call) → σ → c.Answer × σ) (driver : σ) :
    (∀ window handle, WindowHandle.ofWindow window = .ok handle → ∀ host config forwarding,
      let run := (Device.create host window config forwarding).run answer driver
      Heard (endsWith? run fun r => failure? r.1) False run.events) ∧
    (∀ (d : Device) handle,
      let run := (d.openWindow handle).run answer driver
      Heard (endsWith? run failure?) False run.events) ∧
    (∀ d : Device,
      let run := d.waitIdle.run answer driver
      Heard (endsWith? run failure?) False run.events) ∧
    ∀ (ws : WindowSurface) call,
      let run := (ws.serve call).run answer driver
      Heard (endsWith? run fun r => callFailure? call r.1) (∃ index, call = .present index)
        run.events := by
  refine ⟨?_, ?_, ?_, ?_⟩
  · intro window handle hhandle host config forwarding
    exact heard_of_marks (Device.create_explains hhandle host config forwarding) answer driver
  · intro d handle
    exact heard_of_marks (d.openWindow_explains handle) answer driver
  · intro d
    exact heard_of_marks d.waitIdle_explains answer driver
  · intro ws call
    exact heard_of_marks (ws.serve_explains call) answer driver

/-- A surface with one image, which is held. -/
def showing : WindowSurface where
  context := .plain
  surface := ⟨0⟩
  swapchain := some { Swapchain.bare ⟨0⟩ ⟨4, 4⟩ with
    toPresent := [⟨0⟩]
    presentFences := [some ⟨0⟩]
    presentSemaphores := [⟨0⟩]
    held := some 0 }

/-- There is one alarm when there is no Vulkan, and one when the driver denies a presentation. -/
theorem failures_reported_once_unwilling :
    (∃ entry, alarms ((Device.create ⟨.error "not found", true⟩ ⟨.ok .wayland, .ok .wayland⟩
      .default none).run unwilling ()).events = [entry]) ∧
    ∃ entry, alarms ((showing.serve (.present 0)).run unwilling ()).events = [entry] := by
  obtain ⟨hcreate, -, -, hserve⟩ := failures_reported_once unwilling ()
  constructor
  · apply (hcreate ⟨.ok .wayland, .ok .wayland⟩ ⟨.wayland, .wayland⟩ rfl _ _ _).once
    exact Or.inl ⟨_, rfl, (faithful_construction _).1⟩
  · apply (hserve showing (.present 0)).once
    exact Or.inr ⟨⟨0, rfl⟩, ⟨0⟩, ⟨0⟩, ⟨0⟩, 0, .surfaceLost, List.mem_of_getElem? (i := 3) rfl,
      by decide⟩

end Presentation.Vulkan
