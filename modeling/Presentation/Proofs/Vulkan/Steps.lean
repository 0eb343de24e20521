import Mathlib.Logic.Basic
import Presentation.Proofs.Vulkan.Supplies

/-!
# The steps of a frame

What a swapchain does for one image is told by the calls that work on images: how
far an acquisition or a presentation has come. Nothing follows a step that fails,
every step is on the swapchain itself or one of its buffers, and what is asked of a
stale swapchain comes to no step at all.
-/

set_option autoImplicit false

namespace Presentation.Vulkan

/-- A wait or a reset that succeeded. -/
def Smooth : Event interface → Prop
  | .asked (.waitForFence ..) (.ok _) => True
  | .asked (.resetFence ..) (.ok _) => True
  | _ => False

/-- A wait or a reset that failed, or a submission of one of some buffers. -/
def Fails (buffers : List CommandBuffer) : Event interface → Prop
  | .asked (.waitForFence ..) (.error _) => True
  | .asked (.resetFence ..) (.error _) => True
  | .asked (.submit _ buffer _ _) (.error _) => buffer ∈ buffers
  | _ => False

/-- Steps that lead to no submission. If one of them failed, it was the last. -/
def Breaks (buffers : List CommandBuffer) (steps : List (Event interface)) : Prop :=
  ∃ smooth last, steps = smooth ++ last ∧ (∀ e ∈ smooth, Smooth e) ∧
    (last = [] ∨ ∃ e, last = [e] ∧ Fails buffers e)

/-- Steps that lead to a submission. -/
def Reaches (buffers : List CommandBuffer) (steps : List (Event interface)) : Prop :=
  ∃ smooth queue buffer signal fence, buffer ∈ buffers ∧
    steps = smooth ++ [.asked (.submit queue buffer signal fence) (.ok ())] ∧
      ∀ e ∈ smooth, Smooth e

variable {β σ : Type} {full : Prop} {c : Call} {e : Event interface}
  {buffers : List CommandBuffer} {es es' es'' steps steps' : List (Event interface)}

/-- A step, and what is known after it. -/
theorem ask_works (c : Call) {post : c.Answer → List (Event interface) → Prop}
    (hc : c.works = true) (h : Takes es steps es')
    (hpost : ∀ a es'', Takes es (steps ++ [.asked c a]) es'' → post a es'') :
    (ask c).Keeps (supply full) post es' :=
  ask_keeps c trivial fun a _ => hpost a _ (h.worked hc a)

theorem smooth_append (h : ∀ e ∈ steps, Smooth e) (h' : ∀ e ∈ steps', Smooth e) :
    ∀ e ∈ steps ++ steps', Smooth e := by
  intro e he
  rcases List.mem_append.mp he with he | he
  · exact h e he
  · exact h' e he

theorem breaks_of_smooth (h : ∀ e ∈ steps, Smooth e) : Breaks buffers steps :=
  ⟨steps, [], (List.append_nil steps).symm, h, Or.inl rfl⟩

theorem breaks_append (h : ∀ e ∈ steps, Smooth e) (he : Fails buffers e) :
    Breaks buffers (steps ++ [e]) :=
  ⟨steps, [e], rfl, h, Or.inr ⟨e, rfl, he⟩⟩

theorem Breaks.after (h : Breaks buffers steps') (hsmooth : ∀ e ∈ steps, Smooth e) :
    Breaks buffers (steps ++ steps') := by
  obtain ⟨smooth, last, rfl, hsmooth', hlast⟩ := h
  exact ⟨steps ++ smooth, last, (List.append_assoc ..).symm, smooth_append hsmooth hsmooth', hlast⟩

theorem Reaches.after (h : Reaches buffers steps') (hsmooth : ∀ e ∈ steps, Smooth e) :
    Reaches buffers (steps ++ steps') := by
  obtain ⟨smooth, queue, buffer, signal, fence, hbuffer, rfl, hsmooth'⟩ := h
  exact ⟨steps ++ smooth, queue, buffer, signal, fence, hbuffer, (List.append_assoc ..).symm,
    smooth_append hsmooth hsmooth'⟩

/-- A fence is waited for and reset before something else is done. -/
theorem renew_takes {s : σ} {ok : β → σ → List (Event interface) → Prop}
    {err : Error → σ → List (Event interface) → Prop} {t : Attempt interface σ β}
    (device : Handle .device) (fence : Option (Handle .fence))
    (herr : ∀ e steps es', Takes es steps es' → Breaks buffers steps → err e s es')
    (hok : ∀ steps es', Takes es steps es' → (∀ e ∈ steps, Smooth e) →
      t.Keeps (supply full) ok err s es') :
    (do
      attempt "vkWaitForFences" (ask (.waitForFence device fence))
      attempt "vkResetFences" (ask (.resetFence device fence))
      t).Keeps (supply full) ok err s es := by
  rw [Attempt.keeps_bind]
  apply attempt_keeps
  apply ask_works (.waitForFence device fence) rfl (Takes.refl es)
  rintro (code | done) es' hes
  · exact fun e _ => herr e _ es' hes (breaks_append (by simp) trivial)
  rw [Attempt.keeps_bind]
  apply attempt_keeps
  apply ask_works (.resetFence device fence) rfl hes
  rintro (code | done') es' hes
  · exact fun e _ => herr e _ es' hes (breaks_append (by simp [Smooth]) trivial)
  · exact hok _ es' hes (by simp [Smooth])

namespace Swapchain

/-- The same swapchain, complete as it has to be. -/
structure Remains (full : Prop) (sc sc' : Swapchain) : Prop where
  complete : full → sc'.Complete
  handle : sc'.handle = sc.handle
  buffers : sc'.buffers = sc.buffers
  textures : sc'.textures = sc.textures

variable {sc sc' : Swapchain} {index : Nat}

namespace Complete

theorem withGeneralFences (h : sc.Complete) (slot : Option (Handle .fence)) :
    Complete { sc with generalFences := sc.generalFences.set index slot } :=
  ⟨h.textures, h.toGeneral, h.toPresent, List.length_set.trans h.generalFences, h.presentFences,
    h.presentSemaphores, h.held⟩

theorem withPresentFences (h : sc.Complete) (slot : Option (Handle .fence)) :
    Complete { sc with presentFences := sc.presentFences.set index slot } :=
  ⟨h.textures, h.toGeneral, h.toPresent, h.generalFences, List.length_set.trans h.presentFences,
    h.presentSemaphores, h.held⟩

theorem withHeld (h : sc.Complete) {held : Option Nat} (stale : Bool)
    (hheld : ∀ index, held = some index → index < sc.textures.length) :
    Complete { sc with held, stale } :=
  ⟨h.textures, h.toGeneral, h.toPresent, h.generalFences, h.presentFences, h.presentSemaphores,
    hheld⟩

end Complete

theorem readyFence_takes (ctx : Context) (slot : Option (Handle .fence)) :
    (readyFence ctx).Keeps (supply full)
      (fun _ _ es' => ∃ steps, Takes es steps es' ∧ ∀ e ∈ steps, Smooth e)
      (fun _ _ es' => ∃ steps, Takes es steps es' ∧ Breaks buffers steps) slot es := by
  rw [readyFence, Attempt.keeps_bind, Attempt.keeps_get]
  cases slot with
  | none =>
    rw [Attempt.keeps_bind]
    apply attempt_keeps
    apply ask_takes (.create (.fence ctx.device false)) rfl (Takes.refl es)
    rintro (code | fence) es' - hes - -
    · exact fun _ _ => ⟨[], hes, breaks_of_smooth (by simp)⟩
    · exact ⟨[], hes, by simp⟩
  | some fence =>
    apply renew_takes ctx.device (some fence)
    · exact fun _ steps es' hes hbreaks => ⟨steps, hes, hbreaks⟩
    · exact fun steps es' hes hsmooth => ⟨steps, hes, hsmooth⟩

theorem submit_takes (ctx : Context) (signal : Option (Handle .semaphore))
    {buffer : CommandBuffer} (hbuffer : buffer ∈ buffers) (slot : Option (Handle .fence)) :
    (submit ctx buffer signal).Keeps (supply full)
      (fun _ _ es' => ∃ steps, Takes es steps es' ∧ Reaches buffers steps)
      (fun _ _ es' => ∃ steps, Takes es steps es' ∧ Breaks buffers steps) slot es := by
  rw [submit, Attempt.keeps_bind]
  apply (readyFence_takes ctx slot).mono _ (fun _ _ _ h => h)
  rintro fence slot es' ⟨steps, hes, hsmooth⟩
  rw [Attempt.keeps_bind, Attempt.keeps_step]
  apply ask_works (.submit ctx.graphicsQueue buffer signal fence) rfl hes
  rintro (code | ⟨⟩) es' hes
  · simp only [Attempt.keeps_bind, Attempt.keeps_step, Attempt.keeps_update]
    apply ask_takes (.destroy .fence (some ctx.device.object) (some fence)) rfl hes
    rintro _ es' - hes - -
    apply callFailure_keeps _ code
    exact fun _ _ => ⟨_, hes, breaks_append hsmooth hbuffer⟩
  · exact ⟨_, hes, steps, _, _, _, _, hbuffer, rfl, hsmooth⟩

theorem onFence_takes {ok : Swapchain → List (Event interface) → Prop}
    {err : Error → Swapchain → List (Event interface) → Prop}
    {t : Attempt interface (Option (Handle .fence)) Unit} {fences : List (Option (Handle .fence))}
    {put : List (Option (Handle .fence)) → Swapchain} (hbounds : full → index < fences.length)
    (ht : ∀ slot, t.Keeps (supply full) (fun _ slot' => ok (put (fences.set index slot')))
      (fun e slot' => err e (put (fences.set index slot'))) slot es) :
    (onFence fences put index t).Keeps (supply full) (Attempt.Ends (fun _ => ok) err) es := by
  apply Program.keeps_andThen.mpr
  apply fetch_takes hbounds
  intro slot _
  apply Program.Keeps.andThen (ht slot)
  rintro ⟨e | done, slot'⟩ g h
  · exact h
  · exact h

/-- An image is made ready up to the submission, or not. -/
theorem prepare_takes (ctx : Context) (index : Nat) (h : full → sc.Complete) :
    (prepare ctx index).Keeps (supply full)
      (fun _ sc' es' => sc.Remains full sc' ∧ sc.Alike sc' ∧ index < sc.textures.length ∧
        ∃ steps, Takes es steps es' ∧ Reaches sc.buffers steps)
      (fun _ sc' es' => sc.Remains full sc' ∧
        ∃ steps, Takes es steps es' ∧ Breaks sc.buffers steps) sc es := by
  rw [prepare, Attempt.keeps_bind, Attempt.keeps_get]
  apply renew_takes ctx.device sc.acquireFence
  · exact fun _ steps es' hes hbreaks => ⟨⟨h, rfl, rfl, rfl⟩, steps, hes, hbreaks⟩
  intro smooth es' hes hsmooth
  split
  · rename_i hlt
    rw [Attempt.keeps_bind, Attempt.keeps_step]
    apply fetch_takes (fun hfull => (h hfull).toGeneral ▸ hlt)
    intro buffer hbuffer
    have hmem : buffer ∈ sc.buffers := List.mem_append_left _ (List.mem_of_getElem? hbuffer)
    rw [Attempt.Keeps, onGeneralFence_eq]
    apply onFence_takes (fun hfull => (h hfull).generalFences ▸ hlt)
    intro slot
    apply (submit_takes ctx none hmem slot).mono
    · rintro _ slot' es'' ⟨steps, hes', hreaches⟩
      exact ⟨⟨fun hfull => (h hfull).withGeneralFences slot', rfl, rfl, rfl⟩, ⟨rfl, rfl, rfl, rfl⟩,
        hlt, _, hes.trans hes', hreaches.after hsmooth⟩
    · rintro _ slot' es'' ⟨steps, hes', hbreaks⟩
      exact ⟨⟨fun hfull => (h hfull).withGeneralFences slot', rfl, rfl, rfl⟩, _,
        hes.trans hes', hbreaks.after hsmooth⟩
  · rw [Attempt.keeps_bind, Attempt.keeps_step]
    exact refuse_keeps _ _ ⟨⟨h, rfl, rfl, rfl⟩, smooth, hes, breaks_of_smooth hsmooth⟩

/-- What an acquisition comes to: its result, the steps that were taken, and whether the swapchain
is stale afterwards. -/
inductive Acquisition (sc : Swapchain) : Except Error Nat → List (Event interface) → Bool → Prop
  | barred : sc.stale = true → sc.Acquisition (.error .outOfDateSurface) [] true
  | missed (e : Error) (device : Handle .device) (fence : Option (Handle .fence)) (code : Code) :
      sc.stale = false →
      sc.Acquisition (.error e) [.asked (.acquire device sc.handle fence) (.error code)] false
  | lost {steps : List (Event interface)} (e : Error) (device : Handle .device)
      (fence : Option (Handle .fence)) (image : Acquired) : sc.stale = false →
      Breaks sc.buffers steps →
      sc.Acquisition (.error e) (.asked (.acquire device sc.handle fence) (.ok image) :: steps) true
  | taken {steps : List (Event interface)} (device : Handle .device)
      (fence : Option (Handle .fence)) (image : Acquired) : sc.stale = false →
      Reaches sc.buffers steps → image.index < sc.textures.length →
      sc.Acquisition (.ok image.index)
        (.asked (.acquire device sc.handle fence) (.ok image) :: steps) false

theorem take_takes (ctx : Context) {device : Handle .device} {fence : Option (Handle .fence)}
    {image : Acquired} (h : full → sc.Complete) (hstale : sc.stale = false)
    (hes : Takes es [.asked (.acquire device sc.handle fence) (.ok image)] es') :
    (take ctx image.index).Keeps (supply full)
      (fun index sc' es'' => sc.Remains full sc' ∧
        ∃ steps, Takes es steps es'' ∧ sc.Acquisition (.ok index) steps sc'.stale)
      (fun e sc' es'' => sc.Remains full sc' ∧
        ∃ steps, Takes es steps es'' ∧ sc.Acquisition (.error e) steps sc'.stale) sc es' := by
  apply Program.Keeps.andThen (prepare_takes ctx image.index h)
  rintro ⟨e | ⟨⟩, sc'⟩ es'' hprepared
  · obtain ⟨hs, steps, hes', hbreaks⟩ := hprepared
    have hlost : full → Complete { sc' with stale := true } :=
      fun hfull => (hs.complete hfull).withHeld true (hs.complete hfull).held
    exact ⟨⟨hlost, hs.handle, hs.buffers, hs.textures⟩, _, hes.trans hes',
      .lost e device fence image hstale hbreaks⟩
  · obtain ⟨hs, halike, hlt, steps, hes', hreaches⟩ := hprepared
    have hheld : ∀ index, some image.index = some index → index < sc'.textures.length := by
      rintro index ⟨⟩
      rw [hs.textures]
      exact hlt
    have htaken : full → Complete { sc' with held := some image.index } :=
      fun hfull => (hs.complete hfull).withHeld sc'.stale hheld
    have hfresh : sc'.stale = false := halike.2.2.2.trans hstale
    refine ⟨⟨htaken, hs.handle, hs.buffers, hs.textures⟩, _, hes.trans hes', ?_⟩
    rw [hfresh]
    exact .taken device fence image hstale hreaches hlt

theorem acquire_takes (ctx : Context) (h : full → sc.Complete) :
    (acquire ctx).Keeps (supply full)
      (fun index sc' es' => sc.Remains full sc' ∧
        ∃ steps, Takes es steps es' ∧ sc.Acquisition (.ok index) steps sc'.stale)
      (fun e sc' es' => sc.Remains full sc' ∧
        ∃ steps, Takes es steps es' ∧ sc.Acquisition (.error e) steps sc'.stale) sc es := by
  rw [acquire, Attempt.keeps_bind, Attempt.keeps_get]
  split
  · rename_i hstale
    simp only [Attempt.keeps_bind, Attempt.keeps_step, notice, Program.keeps_log,
      Attempt.keeps_fail]
    refine ⟨⟨h, rfl, rfl, rfl⟩, [], Takes.refl es, ?_⟩
    rw [hstale]
    exact .barred hstale
  · rename_i hstale
    rw [Bool.not_eq_true] at hstale
    rw [Attempt.keeps_bind]
    apply attempt_keeps
    apply ask_works (.acquire ctx.device sc.handle sc.acquireFence) rfl (Takes.refl es)
    intro answer es' hes
    cases answer with
    | error code =>
      intro e _
      refine ⟨⟨h, rfl, rfl, rfl⟩, _, hes, ?_⟩
      rw [hstale]
      exact .missed e _ _ code hstale
    | ok image =>
      dsimp only
      split
      · simp only [Attempt.keeps_bind, Attempt.keeps_step, notice, Program.keeps_log]
        exact take_takes ctx h hstale hes
      · exact take_takes ctx h hstale hes

/-- What a presentation comes to: its result, the steps that were taken, and whether the swapchain
is stale afterwards. -/
inductive Showing (sc : Swapchain) : Except Error Unit → List (Event interface) → Bool → Prop
  | unheld (e : Error) : sc.Showing (.error e) [] sc.stale
  | kept {steps : List (Event interface)} (e : Error) : Breaks sc.buffers steps →
      sc.Showing (.error e) steps sc.stale
  | shown {steps : List (Event interface)} (queue : Queue) (wait : Handle .semaphore)
      (index : Nat) (suboptimal : Bool) : Reaches sc.buffers steps →
      sc.Showing (.ok ())
        (steps ++ [.asked (.present queue wait sc.handle index) (.ok suboptimal)]) sc.stale
  | outdated {steps : List (Event interface)} (queue : Queue) (wait : Handle .semaphore)
      (index : Nat) : Reaches sc.buffers steps →
      sc.Showing (.error .outOfDateSurface)
        (steps ++ [.asked (.present queue wait sc.handle index) (.error .outOfDate)]) sc.stale
  | spoilt {steps : List (Event interface)} (queue : Queue) (wait : Handle .semaphore)
      (index : Nat) (code : Code) : Reaches sc.buffers steps → code ≠ .outOfDate →
      sc.Showing (.error .outOfDateSurface)
        (steps ++ [.asked (.present queue wait sc.handle index) (.error code)]) true

theorem present_takes (ctx : Context) (index : Nat) (h : full → sc.Complete) :
    (present ctx index).Keeps (supply full)
      (fun _ sc' es' => sc.Remains full sc' ∧
        ∃ steps, Takes es steps es' ∧ sc.Showing (.ok ()) steps sc'.stale)
      (fun e sc' es' => sc.Remains full sc' ∧
        ∃ steps, Takes es steps es' ∧ sc.Showing (.error e) steps sc'.stale) sc es := by
  rw [present, Attempt.keeps_bind, Attempt.keeps_get]
  split
  · rw [Attempt.keeps_bind, Attempt.keeps_step]
    exact refuse_keeps _ _ ⟨⟨h, rfl, rfl, rfl⟩, [], Takes.refl es, .unheld _⟩
  · rename_i hheld
    have hlt : full → index < sc.textures.length :=
      fun hfull => (h hfull).held index (not_not.mp hheld)
    rw [Attempt.keeps_bind, Attempt.keeps_step]
    apply fetch_takes (fun hfull => (h hfull).presentSemaphores ▸ hlt hfull)
    intro semaphore _
    rw [Attempt.keeps_bind, Attempt.keeps_step]
    apply fetch_takes (fun hfull => (h hfull).toPresent ▸ hlt hfull)
    intro buffer hbuffer
    have hmem : buffer ∈ sc.buffers := List.mem_append_right _ (List.mem_of_getElem? hbuffer)
    rw [Attempt.keeps_bind, Attempt.Keeps, onPresentFence_eq]
    apply onFence_takes (fun hfull => (h hfull).presentFences ▸ hlt hfull)
    intro slot
    apply (submit_takes ctx (some semaphore) hmem slot).mono
    · rintro _ slot' es' ⟨steps, hes, hreaches⟩
      have hgone : ∀ stale, full → Complete { sc with
          presentFences := sc.presentFences.set index slot', held := none, stale } :=
        fun stale hfull => ((h hfull).withPresentFences slot').withHeld stale (by simp)
      rw [Attempt.keeps_bind, Attempt.keeps_step]
      apply ask_works (.present ctx.presentQueue semaphore sc.handle index) rfl hes
      intro answer es'' hes
      cases answer with
      | ok suboptimal =>
        simp only [conclude, Attempt.keeps_bind, Attempt.keeps_update]
        have hshown : sc.Showing (.ok ()) (steps ++ [.asked
            (.present ctx.presentQueue semaphore sc.handle index) (.ok suboptimal)]) sc.stale :=
          .shown _ _ _ suboptimal hreaches
        split
        · simp only [Attempt.keeps_step, notice, Program.keeps_log]
          exact ⟨⟨hgone _, rfl, rfl, rfl⟩, _, hes, hshown⟩
        · exact ⟨⟨hgone _, rfl, rfl, rfl⟩, _, hes, hshown⟩
      | error code =>
        simp only [conclude, Attempt.keeps_bind, Attempt.keeps_update]
        split
        · rename_i hcode
          simp only [Attempt.keeps_bind, Attempt.keeps_update, Attempt.keeps_step, notice,
            Program.keeps_log, Attempt.keeps_fail]
          exact ⟨⟨hgone true, rfl, rfl, rfl⟩, _, hes, .spoilt _ _ _ _ hreaches hcode⟩
        · rename_i hcode
          cases not_not.mp hcode
          exact ⟨⟨hgone sc.stale, rfl, rfl, rfl⟩, _, hes, .outdated _ _ _ hreaches⟩
    · rintro e slot' es' ⟨steps, hes, hbreaks⟩
      exact ⟨⟨fun hfull => (h hfull).withPresentFences slot', rfl, rfl, rfl⟩, steps, hes,
        .kept e hbreaks⟩

end Swapchain

end Presentation.Vulkan
