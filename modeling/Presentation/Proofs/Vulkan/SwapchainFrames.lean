import Mathlib.Logic.Basic
import Presentation.Proofs.Vulkan.Aside

/-!
# The frames of a swapchain

A frame begins with an image being acquired and made usable, and ends with the
image being made presentable and queued. What a swapchain holds is a frame that
was begun and did nothing else since.
-/

set_option autoImplicit false

namespace Presentation.Vulkan

/-- Events that are no step of a frame. -/
def Idle : Event interface → Prop
  | .asked (.submit ..) (.ok _) => False
  | .asked (.acquire ..) (.ok _) => False
  | .asked (.present ..) _ => False
  | _ => True

/-- Calls that are no step of a frame, whatever the answer. -/
def Call.Idles (c : Call) : Prop := ∀ a : c.Answer, Idle (.asked c a)

/-- A successful submission of a command buffer. -/
def Submits (buffer : Option CommandBuffer) (signal : Option (Handle .semaphore))
    (e : Event interface) : Prop :=
  ∃ queue b guard, buffer = some b ∧ e = .asked (.submit queue b signal guard) (.ok ())

/-- A successful wait for a fence. -/
def Awaited (fence : Option (Handle .fence)) (e : Event interface) : Prop :=
  ∃ device, e = .asked (.waitForFence device fence) (.ok ())

/-- The last call was a submission that signals a semaphore. -/
def Signalled (semaphore : Handle .semaphore) (es : List (Event interface)) : Prop :=
  ∃ earlier buffer e, es = earlier ++ [e] ∧ Submits buffer (some semaphore) e

/-- No signal is pending that only the next call could wait for. -/
def Quiet (es : List (Event interface)) : Prop := ∀ semaphore, ¬ Signalled semaphore es

/-- Later, with no step of a frame in between. -/
def Rests (es es' : List (Event interface)) : Prop :=
  ∃ idle, es' = es ++ idle ∧ ∀ e ∈ idle, Idle e

def Call.Awaits (semaphore : Handle .semaphore) : Call → Prop
  | .present _ wait _ _ => wait = semaphore
  | _ => False

namespace Swapchain

/-- An image was acquired. -/
def Acquires (sc : Swapchain) (index : Nat) (e : Event interface) : Prop :=
  ∃ device suboptimal,
    e = .asked (.acquire device sc.handle sc.acquireFence) (.ok ⟨index, suboptimal⟩)

/-- An image was acquired and, once its acquisition was waited for, made usable. Nothing that is a
step of a frame came in between, or since. -/
def Begun (sc : Swapchain) (index : Nat) (es : List (Event interface)) : Prop :=
  ∃ earlier acquired waiting usable between,
    es = earlier ++ [acquired] ++ waiting ++ [usable] ++ between ∧ sc.Acquires index acquired ∧
      (∀ e ∈ waiting, Idle e) ∧ (∃ e ∈ waiting, Awaited sc.acquireFence e) ∧
      Submits sc.toGeneral[index]? none usable ∧ ∀ e ∈ between, Idle e

/-- A frame that was begun, and whose image has just been made presentable. -/
def Frame (sc : Swapchain) (index : Nat) (wait : Handle .semaphore)
    (es : List (Event interface)) : Prop :=
  ∃ begun presentable, es = begun ++ [presentable] ∧ sc.Begun index begun ∧
    sc.presentSemaphores[index]? = some wait ∧ Submits sc.toPresent[index]? (some wait) presentable

/-- The same handle, fence, buffers and semaphores to make frames of. -/
structure Shares (sc sc' : Swapchain) : Prop where
  handle : sc'.handle = sc.handle
  acquireFence : sc'.acquireFence = sc.acquireFence
  toGeneral : sc'.toGeneral = sc.toGeneral
  toPresent : sc'.toPresent = sc.toPresent
  presentSemaphores : sc'.presentSemaphores = sc.presentSemaphores

end Swapchain

/-- What may be queued for presentation, by what was called before. -/
abbrev Gate : Type :=
  List (Event interface) → Handle .semaphore → Handle .swapchain → Nat → Prop

/-- A watch over frames: a signal is waited for at once, and what is queued passes a gate. -/
def frames (gate : Gate) : Watch interface (List (Event interface)) :=
  .tape (fun es c => (∀ semaphore, Signalled semaphore es → c.Awaits semaphore) ∧
      ∀ queue wait handle index, c = .present queue wait handle index → gate es wait handle index)
    Call.Calm True

variable {gate : Gate} {es es' : List (Event interface)} {c : Call}

instance : (frames gate).Deaf := inferInstanceAs (Watch.tape _ _ _).Deaf

theorem not_idle_of_submits {buffer : Option CommandBuffer} {signal : Option (Handle .semaphore)}
    {e : Event interface} (h : Submits buffer signal e) : ¬ Idle e := by
  obtain ⟨queue, b, guard, -, rfl⟩ := h
  exact id

theorem quiet_nil : Quiet [] := by
  rintro semaphore ⟨earlier, buffer, e, heq, -⟩
  simp at heq

theorem signalled_append {semaphore : Handle .semaphore} {e : Event interface}
    (h : Signalled semaphore (es ++ [e])) : ∃ buffer, Submits buffer (some semaphore) e := by
  obtain ⟨earlier, buffer, e', heq, hsubmits⟩ := h
  obtain ⟨-, hlast⟩ := List.append_inj' heq rfl
  cases hlast
  exact ⟨buffer, hsubmits⟩

theorem quiet_append {e : Event interface}
    (h : ∀ buffer semaphore, ¬ Submits buffer (some semaphore) e) : Quiet (es ++ [e]) := by
  intro semaphore hsignalled
  obtain ⟨buffer, hsubmits⟩ := signalled_append hsignalled
  exact h buffer semaphore hsubmits

theorem quiet_of_submits {buffer : Option CommandBuffer} {e : Event interface}
    (h : Submits buffer none e) : Quiet (es ++ [e]) := by
  obtain ⟨_, _, _, -, rfl⟩ := h
  apply quiet_append
  rintro _ _ ⟨_, _, _, -, heq⟩
  cases heq

theorem Rests.refl (es : List (Event interface)) : Rests es es :=
  ⟨[], (List.append_nil es).symm, by simp⟩

theorem Rests.append {e : Event interface} (h : Rests es es') (he : Idle e) :
    Rests es (es' ++ [e]) := by
  obtain ⟨idle, rfl, hidle⟩ := h
  refine ⟨idle ++ [e], by rw [List.append_assoc], ?_⟩
  intro x hx
  rcases List.mem_append.mp hx with hx | hx
  · exact hidle x hx
  · cases List.mem_singleton.mp hx
    exact he

theorem Swapchain.Begun.rests {sc : Swapchain} {index : Nat} (h : sc.Begun index es)
    (hrests : Rests es es') : sc.Begun index es' := by
  obtain ⟨earlier, acquired, waiting, usable, between, rfl, hacq, hwait, hawaited, huse, hidle⟩ := h
  obtain ⟨idle, rfl, hrest⟩ := hrests
  refine ⟨earlier, acquired, waiting, usable, between ++ idle, ?_, hacq, hwait, hawaited, huse, ?_⟩
  · rw [List.append_assoc]
  · intro e he
    rcases List.mem_append.mp he with he | he
    · exact hidle e he
    · exact hrest e he

/-- With no signal pending, anything but a presentation may be called. -/
theorem frames_allows (hq : Quiet es)
    (hc : ∀ queue wait handle index, c ≠ .present queue wait handle index) :
    (frames gate).allows es c := by
  constructor
  · intro semaphore hsignalled
    exact absurd hsignalled (hq semaphore)
  · intro queue wait handle index heq
    exact absurd heq (hc queue wait handle index)

/-- Nothing becomes of frames from one point to another. -/
def Still (es es' : List (Event interface)) : Prop := Quiet es' ∧ Rests es es'

theorem Still.refl (h : Quiet es) : Still es es := ⟨h, Rests.refl es⟩

theorem Still.append {e : Event interface} (h : Still es es') (he : Idle e) :
    Still es (es' ++ [e]) :=
  ⟨quiet_append fun _ _ hsubmits => not_idle_of_submits hsubmits he, h.2.append he⟩

theorem idles_bears (es : List (Event interface)) : (frames gate).Bears Call.Idles (Still es) := by
  intro c es' hc hstill
  constructor
  · apply frames_allows hstill.1
    rintro queue wait handle index rfl
    exact hc (.ok false)
  · intro a _
    exact hstill.append (hc a)

theorem Call.Inquires.idles (h : c.Inquires) : c.Idles := by
  intro a
  cases c with
  | submit => exact h.elim
  | acquire => exact h.elim
  | present => exact h.elim
  | _ => trivial

theorem Call.Builds.idles {handle : Handle .swapchain} (h : c.Builds handle) : c.Idles := by
  intro a
  cases c with
  | submit => exact h.elim
  | acquire => exact h.elim
  | present => exact h.elim
  | _ => trivial

theorem Call.Releases.idles {device : Handle .device} {sc : Swapchain}
    (h : c.Releases device sc) : c.Idles := by
  intro a
  cases c with
  | submit => exact h.elim
  | acquire => exact h.elim
  | present => exact h.elim
  | _ => trivial

theorem ask_still (c : Call) {post : c.Answer → List (Event interface) → Prop} (hc : c.Idles)
    (h : Still es es')
    (hpost : ∀ a, Still es (es' ++ [.asked c a]) → post a (es' ++ [.asked c a])) :
    (ask c).Keeps (frames gate) post es' := by
  obtain ⟨hallowed, hafter⟩ := idles_bears es c es' hc h
  exact ask_keeps c hallowed fun a ha => hpost a (hafter a ha)

namespace Swapchain

variable {sc sc' : Swapchain}

theorem create_still (ctx : Context) (surface : Handle .surface) (desc : SwapchainDesc)
    (old : Option (Handle .swapchain)) (h : Quiet es) :
    (create ctx surface desc old).Keeps (frames gate)
      (fun r es' => Still es es' ∧ ∀ sc, r = .ok sc → sc.held = none) es := by
  have hcreate : ∀ (request : SwapchainRequest) es', request.old = old → Still es es' →
      (ask (.create (.swapchain ctx.device request))).Keeps (frames gate)
        (Either (fun _ => Still es) (Still es)) es' := by
    intro request es' _ hstill
    apply ask_still _ (by intro _; trivial) hstill
    rintro (code | handle) hstill
    · exact hstill
    · exact hstill
  apply Program.Keeps.mono (create_bears (Q := fun _ => Still es) (R := fun _ => Still es)
    ctx surface desc trivial (fun c es' hc => idles_bears es c es' hc.idles) (fun _ => id) hcreate
    (fun _ c es' hc => idles_bears es c es' hc.idles) (fun _ _ => id)
    (fun _ c es' hc => idles_bears es c es' hc.idles) (fun _ _ => id) (Still.refl h))
  rintro (e | sc) es' hr
  · exact ⟨hr, by simp⟩
  · refine ⟨hr.2.2, ?_⟩
    rintro _ ⟨⟩
    exact hr.1.2.1

theorem release_still (ctx : Context) (sc : Swapchain) (h : Quiet es) :
    (sc.release ctx).Keeps (frames gate) (fun _ => Still es) es := by
  have hbears : (frames gate).Bears (Call.Releases ctx.device sc) (Still es) :=
    fun c es' hc => idles_bears es c es' hc.idles
  apply (within_bears hbears trivial (release_within ctx sc) (Still.refl h)).mono
  intro _ _ hr
  exact hr.2

/-- A transition was submitted, and nothing else became of frames before that. -/
def Submitted (buffer : CommandBuffer) (signal : Option (Handle .semaphore))
    (es es' : List (Event interface)) : Prop :=
  ∃ rest e, es' = rest ++ [e] ∧ Still es rest ∧ Submits (some buffer) signal e

theorem readyFence_still (ctx : Context) {slot : Option (Handle .fence)} (h : Still es es') :
    (readyFence ctx).Keeps (frames gate) (fun _ _ => Still es) (fun _ _ => Still es) slot es' := by
  rw [readyFence, Attempt.keeps_bind, Attempt.keeps_get]
  cases slot with
  | none =>
    rw [Attempt.keeps_bind]
    apply attempt_keeps
    apply ask_still _ (by intro _; trivial) h
    rintro (code | fence) hstill
    · exact fun _ _ => hstill
    · exact hstill
  | some fence =>
    rw [Attempt.keeps_bind]
    apply attempt_keeps
    apply ask_still _ (by intro _; trivial) h
    rintro (code | done) hstill
    · exact fun _ _ => hstill
    · simp only [Attempt.keeps_bind]
      apply attempt_keeps
      apply ask_still _ (by intro _; trivial) hstill
      rintro (code | done) hstill
      · exact fun _ _ => hstill
      · exact hstill

theorem submit_frames (ctx : Context) (buffer : CommandBuffer)
    (signal : Option (Handle .semaphore)) {slot : Option (Handle .fence)} (h : Still es es') :
    (submit ctx buffer signal).Keeps (frames gate) (fun _ _ => Submitted buffer signal es)
      (fun _ _ => Still es) slot es' := by
  rw [submit, Attempt.keeps_bind]
  apply (readyFence_still ctx h).mono _ (fun _ _ _ hstill => hstill)
  intro fence slot rest hrest
  rw [Attempt.keeps_bind, Attempt.keeps_step]
  apply ask_keeps
  · apply frames_allows hrest.1
    simp
  rintro (code | ⟨⟩) _
  · simp only [Attempt.keeps_bind, Attempt.keeps_step, Attempt.keeps_update]
    have hfailed : Still es (rest ++
        [.asked (.submit ctx.graphicsQueue buffer signal fence) (.error code)]) :=
      hrest.append trivial
    apply ask_still _ (by intro _; trivial) hfailed
    intro _ hstill
    apply callFailure_keeps _ code
    intro _ _
    exact hstill
  · exact ⟨rest, _, rfl, hrest, _, _, _, rfl, rfl⟩

theorem Shares.refl (sc : Swapchain) : sc.Shares sc := ⟨rfl, rfl, rfl, rfl, rfl⟩

theorem Begun.congr {index : Nat} (h : sc.Begun index es) (hs : sc.Shares sc') :
    sc'.Begun index es := by
  unfold Begun Acquires at h ⊢
  rw [hs.handle, hs.acquireFence, hs.toGeneral]
  exact h

/-- The image that is held has its frame begun. -/
def Poised (sc : Swapchain) (es : List (Event interface)) : Prop :=
  Quiet es ∧ ∀ index, sc.held = some index → sc.Begun index es

theorem Poised.still (h : sc.Poised es) (hstill : Still es es') : sc.Poised es' :=
  ⟨hstill.1, fun index hheld => (h.2 index hheld).rests hstill.2⟩

theorem poised_of_none (hq : Quiet es) (hheld : sc.held = none) : sc.Poised es := by
  refine ⟨hq, ?_⟩
  intro index hsome
  rw [hheld] at hsome
  cases hsome

theorem begun_of_submits {index : Nat} (earlier : List (Event interface))
    {waiting : List (Event interface)} {acquired usable : Event interface}
    (hacquires : sc.Acquires index acquired)
    (hwaiting : ∀ e ∈ waiting, Idle e) (hawaited : ∃ e ∈ waiting, Awaited sc.acquireFence e)
    (husable : Submits sc.toGeneral[index]? none usable) :
    sc.Begun index (earlier ++ [acquired] ++ waiting ++ [usable]) :=
  ⟨earlier, acquired, waiting, usable, [], (List.append_nil _).symm, hacquires, hwaiting, hawaited,
    husable, by simp⟩

/-- After an acquisition, the image is made usable, or not. -/
theorem prepare_frames (ctx : Context) (index : Nat) (sc : Swapchain)
    (hacquired : ∃ earlier acquired, es = earlier ++ [acquired] ∧ sc.Acquires index acquired) :
    (prepare ctx index).Keeps (frames gate)
      (fun _ sc' es' => sc.Shares sc' ∧ Quiet es' ∧ sc.Begun index es')
      (fun _ sc' es' => sc.Shares sc' ∧ sc'.held = sc.held ∧ Quiet es') sc es := by
  obtain ⟨earlier, acquired, rfl, hacquires⟩ := hacquired
  have hquiet : Quiet (earlier ++ [acquired]) := by
    obtain ⟨_, _, rfl⟩ := hacquires
    apply quiet_append
    rintro _ _ ⟨_, _, _, -, heq⟩
    cases heq
  rw [prepare, Attempt.keeps_bind, Attempt.keeps_get, Attempt.keeps_bind]
  apply attempt_keeps
  apply ask_still _ (by intro _; trivial) (Still.refl hquiet)
  rintro (code | ⟨⟩) hwaited
  · intro _ _
    exact ⟨Shares.refl sc, rfl, hwaited.1⟩
  rw [Attempt.keeps_bind]
  apply attempt_keeps
  apply ask_still _ (by intro _; trivial) hwaited
  rintro (code | ⟨⟩) hreset
  · intro _ _
    exact ⟨Shares.refl sc, rfl, hreset.1⟩
  dsimp only
  split
  · rw [Attempt.keeps_bind, Attempt.keeps_step]
    apply Program.keeps_fetch _ (fun _ => trivial)
    intro buffer hbuffer
    apply onGeneralFence_keeps trivial
    intro _ _
    apply (submit_frames ctx buffer none (Still.refl hreset.1)).mono
    · rintro _ _ _ ⟨rest, usable, rfl, ⟨-, idle, rfl, hidle⟩, husable⟩
      rw [← hbuffer] at husable
      have hwaiting : ∀ e ∈ [.asked (.waitForFence ctx.device sc.acquireFence) (.ok ()),
          .asked (.resetFence ctx.device sc.acquireFence) (.ok ())] ++ idle, Idle e := by
        intro e he
        simp only [List.cons_append, List.nil_append, List.mem_cons] at he
        rcases he with rfl | rfl | he
        · trivial
        · trivial
        · exact hidle e he
      have hbegun := begun_of_submits earlier hacquires hwaiting
        ⟨_, List.mem_cons_self, ctx.device, rfl⟩ husable
      refine ⟨⟨rfl, rfl, rfl, rfl, rfl⟩, quiet_of_submits husable, ?_⟩
      simpa only [List.append_assoc, List.cons_append, List.nil_append] using hbegun
    · intro _ _ _ hr
      exact ⟨⟨rfl, rfl, rfl, rfl, rfl⟩, rfl, hr.1⟩
  · rw [Attempt.keeps_bind, Attempt.keeps_step]
    exact refuse_keeps _ _ ⟨Shares.refl sc, rfl, hreset.1⟩

theorem acquire_frames (ctx : Context) (sc : Swapchain) (hq : Quiet es) (hheld : sc.held = none) :
    (acquire ctx).Keeps (frames gate) (fun _ sc' es' => sc.Shares sc' ∧ sc'.Poised es')
      (fun _ sc' es' => sc.Shares sc' ∧ sc'.Poised es') sc es := by
  rw [acquire, Attempt.keeps_bind, Attempt.keeps_get]
  split
  · simp only [Attempt.keeps_bind, Attempt.keeps_step, notice, Program.keeps_log,
      Attempt.keeps_fail]
    exact ⟨Shares.refl sc, poised_of_none hq hheld⟩
  · rw [Attempt.keeps_bind]
    apply attempt_keeps
    apply ask_keeps
    · apply frames_allows hq
      simp
    rintro (code | image) _
    · intro _ _
      have hfailed : Still es (es ++
          [.asked (.acquire ctx.device sc.handle sc.acquireFence) (.error code)]) :=
        (Still.refl hq).append trivial
      exact ⟨Shares.refl sc, poised_of_none hfailed.1 hheld⟩
    · have htake : (take ctx image.index).Keeps (frames gate)
          (fun _ sc' es' => sc.Shares sc' ∧ sc'.Poised es')
          (fun _ sc' es' => sc.Shares sc' ∧ sc'.Poised es') sc
          (es ++ [.asked (.acquire ctx.device sc.handle sc.acquireFence) (.ok image)]) := by
        apply Program.keeps_andThen.mpr
        apply Program.Keeps.mono (prepare_frames ctx image.index sc
          ⟨es, _, rfl, ctx.device, image.suboptimal, rfl⟩)
        rintro ⟨e | ⟨⟩, sc'⟩ es' hr
        · obtain ⟨hshares, hsame, hquiet⟩ := hr
          exact ⟨⟨hshares.1, hshares.2, hshares.3, hshares.4, hshares.5⟩,
            poised_of_none hquiet (hsame.trans hheld)⟩
        · obtain ⟨hshares, hquiet, hbegun⟩ := hr
          have hholds : sc.Shares { sc' with held := some image.index } :=
            ⟨hshares.1, hshares.2, hshares.3, hshares.4, hshares.5⟩
          refine ⟨hholds, hquiet, ?_⟩
          rintro _ ⟨⟩
          exact hbegun.congr hholds
      dsimp only
      split
      · simp only [Attempt.keeps_bind, Attempt.keeps_step, notice, Program.keeps_log]
        exact htake
      · exact htake

/-- A transition to be presented completes the frame of the image that is held, and is the only one
that signals. -/
theorem onPresentFence_frames (ctx : Context) {index : Nat} {semaphore : Handle .semaphore}
    {buffer : CommandBuffer} (h : sc.Poised es) (hheld : sc.held = some index)
    (hsemaphore : sc.presentSemaphores[index]? = some semaphore)
    (hbuffer : sc.toPresent[index]? = some buffer) :
    (onPresentFence index (submit ctx buffer (some semaphore))).Keeps (frames gate)
      (fun _ sc' es' => sc.Shares sc' ∧ sc.Frame index semaphore es' ∧
        ∀ signalled, Signalled signalled es' → signalled = semaphore)
      (fun _ sc' es' => sc.Shares sc' ∧ sc'.Poised es') sc es := by
  apply onPresentFence_keeps trivial
  intro _ _
  apply (submit_frames ctx buffer (some semaphore) (Still.refl h.1)).mono
  · rintro _ _ _ ⟨begun, presentable, rfl, hstill, hsubmits⟩
    refine ⟨⟨rfl, rfl, rfl, rfl, rfl⟩, ?_, ?_⟩
    · refine ⟨begun, presentable, rfl, (h.2 index hheld).rests hstill.2, hsemaphore, ?_⟩
      rw [hbuffer]
      exact hsubmits
    · intro signalled hsignalled
      obtain ⟨_, _, _, _, -, hlast⟩ := signalled_append hsignalled
      obtain ⟨_, _, _, -, rfl⟩ := hsubmits
      cases hlast
      rfl
  · intro _ _ _ hstill
    exact ⟨⟨rfl, rfl, rfl, rfl, rfl⟩, h.still hstill⟩

/-- What is queued for presentation completes the frame of the image that is held. -/
theorem present_frames (ctx : Context) (index : Nat) (sc : Swapchain) (h : sc.Poised es)
    (hgate : ∀ wait es, sc.Frame index wait es → gate es wait sc.handle index) :
    (present ctx index).Keeps (frames gate) (fun _ sc' es' => sc.Shares sc' ∧ sc'.Poised es')
      (fun _ sc' es' => sc.Shares sc' ∧ sc'.Poised es') sc es := by
  rw [present, Attempt.keeps_bind, Attempt.keeps_get]
  split
  · rw [Attempt.keeps_bind, Attempt.keeps_step]
    exact refuse_keeps _ _ ⟨Shares.refl sc, h⟩
  · rename_i hheld
    rw [not_not] at hheld
    rw [Attempt.keeps_bind, Attempt.keeps_step]
    apply Program.keeps_fetch _ (fun _ => trivial)
    intro semaphore hsemaphore
    rw [Attempt.keeps_bind, Attempt.keeps_step]
    apply Program.keeps_fetch _ (fun _ => trivial)
    intro buffer hbuffer
    rw [Attempt.keeps_bind]
    apply (onPresentFence_frames ctx h hheld hsemaphore hbuffer).mono _ (fun _ _ _ hr => hr)
    rintro _ sc' es' ⟨hshares, hframe, honly⟩
    rw [Attempt.keeps_bind, Attempt.keeps_step]
    have hallowed : (frames gate).allows es'
        (.present ctx.presentQueue semaphore sc.handle index) := by
      constructor
      · intro signalled hsignalled
        exact (honly signalled hsignalled).symm
      · rintro _ _ _ _ ⟨⟩
        exact hgate semaphore es' hframe
    apply ask_keeps _ hallowed
    intro result _
    have hquiet : Quiet (es' ++
        [.asked (.present ctx.presentQueue semaphore sc.handle index) result]) := by
      apply quiet_append
      rintro _ _ ⟨_, _, _, -, heq⟩
      cases heq
    have hdone : ∀ stale, (stale = false → sc'.stale = false) →
        sc.Shares { sc' with held := none, stale } ∧
          Poised { sc' with held := none, stale } (es' ++
            [.asked (.present ctx.presentQueue semaphore sc.handle index) result]) := by
      intro stale _
      exact ⟨⟨hshares.1, hshares.2, hshares.3, hshares.4, hshares.5⟩, poised_of_none hquiet rfl⟩
    apply (conclude_keeps (P := fun sc' => sc.Shares sc' ∧ sc'.Poised _) index result hdone).mono
    · rintro _ _ _ ⟨hr, rfl⟩
      exact hr
    · rintro _ _ _ ⟨hr, rfl, -⟩
      exact hr

end Swapchain

end Presentation.Vulkan
