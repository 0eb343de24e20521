import Presentation.Proofs.Vulkan.Guards

/-!
# The fences of a swapchain

A swapchain keeps its fences and buffers in order through every acquisition and
presentation, wherever one fails. While a new swapchain is built beside it,
nothing befalls what it has, and the release of either spares the other.
-/

set_option autoImplicit false

namespace Presentation.Vulkan

variable {α β σ : Type} {g g₀ : Guards} {ready : Prop}

/-- Calls that concern neither fences nor buffers. -/
def Call.Plain : Call → Prop
  | .create (.fence ..) => False
  | .create (.pool ..) => False
  | .destroy .fence .. => False
  | .waitForFence .. => False
  | .resetFence .. => False
  | .allocate .. => False
  | .submit .. => False
  | .acquire .. => False
  | _ => True

theorem see_plain {c : Call} {a : c.Answer} (hc : c.Plain) : g.see (.asked c a) = g := by
  unfold Guards.see
  split
  all_goals first
    | rfl
    | (rename_i heq; cases heq; exact hc.elim)

theorem allows_plain {c : Call} (hc : c.Plain) : g.Allows c := by
  cases c with
  | submit => exact hc.elim
  | acquire => exact hc.elim
  | _ => trivial

theorem ask_plain (c : Call) (hc : c.Plain) : (ask c).Keeps guarding (fun _ g' => g' = g) g :=
  ask_keeps c (allows_plain hc) fun _ _ => see_plain hc

theorem bears_plain {calls : Call → Prop} (P : Guards → Prop) (hcalls : ∀ c, calls c → c.Plain) :
    guarding.Bears calls P := by
  intro c g hc h
  refine ⟨allows_plain (hcalls c hc), fun a _ => ?_⟩
  have hsame : guarding.see g (.asked c a) = g := see_plain (hcalls c hc)
  rwa [hsame]

theorem Call.Inquires.plain {c : Call} (h : c.Inquires) : c.Plain := by
  cases c with
  | capabilities => trivial
  | surfaceFormats => trivial
  | presentModes => trivial
  | _ => exact h.elim

theorem Call.Records.plain {c : Call} (h : c.Records) : c.Plain := by
  cases c with
  | beginCommands => trivial
  | barrier => trivial
  | endCommands => trivial
  | _ => exact h.elim

theorem attempt_plain {s : σ} {ok : β → σ → Guards → Prop} {err : Error → σ → Guards → Prop}
    {function : String} {p : Program (Except Code β)}
    (hp : p.Keeps guarding (fun _ g' => g' = g) g) (hok : ∀ b, ok b s g) (herr : ∀ e, err e s g) :
    (attempt function p).Keeps guarding ok err s g := by
  apply attempt_keeps
  apply hp.mono
  rintro (code | b) _ rfl
  · exact fun e _ => herr e
  · exact hok b

namespace Swapchain

def fenceAt (sc : Swapchain) : Post → Option (Handle .fence)
  | .acquire => sc.acquireFence
  | .work .toGeneral i => sc.generalFences[i]?.join
  | .work .toPresent i => sc.presentFences[i]?.join

def bufferAt (sc : Swapchain) : Transition → Nat → Option CommandBuffer
  | .toGeneral, i => sc.toGeneral[i]?
  | .toPresent, i => sc.toPresent[i]?

/-- The fences and buffers of a swapchain are in order. Only a stale one may have its acquire fence
in use. -/
def Guarded (sc : Swapchain) (g : Guards) : Prop :=
  g.Orderly (sc.stale = false) sc.fenceAt sc.bufferAt

variable {ctx : Context} {sc : Swapchain} {fence : Post → Option (Handle .fence)}
  {buffer : Transition → Nat → Option CommandBuffer} {t : Transition} {i : Nat}
  {slot : Option (Handle .fence)}

theorem fenceAt_acquire (sc : Swapchain) (f : Option (Handle .fence)) :
    fenceAt { sc with acquireFence := f } = Function.update sc.fenceAt .acquire f := by
  funext p
  cases p with
  | acquire => simp [fenceAt]
  | work t i => cases t <;> simp [fenceAt]

theorem fenceAt_general {fences : List (Option (Handle .fence))}
    (h : ∀ j, fences[j]?.join = if j = i then slot else sc.generalFences[j]?.join) :
    fenceAt { sc with generalFences := fences } =
      Function.update sc.fenceAt (.work .toGeneral i) slot := by
  funext p
  cases p with
  | acquire => simp [fenceAt]
  | work t j =>
    cases t with
    | toGeneral => simp [fenceAt, h, Function.update_apply]
    | toPresent => simp [fenceAt]

theorem fenceAt_present {fences : List (Option (Handle .fence))}
    (h : ∀ j, fences[j]?.join = if j = i then slot else sc.presentFences[j]?.join) :
    fenceAt { sc with presentFences := fences } =
      Function.update sc.fenceAt (.work .toPresent i) slot := by
  funext p
  cases p with
  | acquire => simp [fenceAt]
  | work t j =>
    cases t with
    | toGeneral => simp [fenceAt]
    | toPresent => simp [fenceAt, h, Function.update_apply]

theorem join_set {fences : List (Option (Handle .fence))} (hlt : i < fences.length) (j : Nat) :
    (fences.set i slot)[j]?.join = if j = i then slot else fences[j]?.join := by
  by_cases hj : j = i
  · subst hj
    simp [hlt]
  · rw [if_neg hj, List.getElem?_set_ne (Ne.symm hj)]

theorem join_append (fences : List (Option (Handle .fence))) (j : Nat) :
    (fences ++ [slot])[j]?.join = if j = fences.length then slot else fences[j]?.join := by
  rcases Nat.lt_trichotomy j fences.length with hlt | rfl | hgt
  · rw [if_neg (Nat.ne_of_lt hlt), List.getElem?_append_left hlt]
  · simp
  · have hbeyond : (fences ++ [slot]).length ≤ j := by
      rw [List.length_append]
      exact hgt
    rw [if_neg (Nat.ne_of_gt hgt), List.getElem?_eq_none hbeyond,
      List.getElem?_eq_none (Nat.le_of_lt hgt)]

theorem newFence_guards (ctx : Context) (signaled : Bool) {s : σ} :
    (newFence ctx signaled).Keeps guarding
      (fun f s' g' => s' = s ∧ g.fence f = none ∧
        g' = g.make f (if signaled then .signaled else .unsignaled))
      (fun _ s' g' => s' = s ∧ g' = g) s g := by
  apply attempt_keeps
  apply ask_keeps _ trivial
  rintro (code | f) hnew
  · intro _ _
    exact ⟨rfl, rfl⟩
  · exact ⟨rfl, hnew, rfl⟩

/-- What a place holds when a transition can be submitted: a fence that is ready, and no buffer
that may still be executing. -/
def Armed (ready : Prop) (fence : Post → Option (Handle .fence))
    (buffer : Transition → Nat → Option CommandBuffer) (t : Transition) (i : Nat)
    (f : Handle .fence) (g : Guards) : Prop :=
  g.Orderly ready (Function.update fence (.work t i) (some f)) buffer ∧
    g.fence f = some .unsignaled ∧ ∀ b, buffer t i = some b → g.duty b = .free

/-- A place without a fence gets a new one. -/
theorem fillFence_guards (ctx : Context)
    (h : g.Orderly ready (Function.update fence (.work t i) none) buffer) :
    (readyFence ctx).Keeps guarding
      (fun f slot' g' => slot' = some f ∧ Armed ready fence buffer t i f g')
      (fun _ slot' g' => g'.Orderly ready (Function.update fence (.work t i) slot') buffer)
      none g := by
  have hvacant : Function.update fence (.work t i) none (.work t i) = none :=
    Function.update_self _ _ _
  rw [readyFence, Attempt.keeps_bind, Attempt.keeps_get, Attempt.keeps_bind]
  apply (newFence_guards ctx false).mono
  · rintro f _ _ ⟨-, hnew, rfl⟩
    have hmade := h.make hvacant hnew .unsignaled fun hr => Or.inr ⟨Post.work_ne_acquire t i, hr⟩
    rw [Function.update_idem] at hmade
    refine ⟨rfl, hmade, Function.update_self _ _ _, ?_⟩
    intro b hb
    rcases h.guarded t i b hb with hfree | ⟨f', hf', -⟩
    · exact hfree
    · rw [hvacant] at hf'
      cases hf'
  · rintro _ _ _ ⟨rfl, rfl⟩
    exact h

/-- The fence of a place is waited for and reset. -/
theorem renewFence_guards (ctx : Context) {f : Handle .fence}
    (h : g.Orderly ready (Function.update fence (.work t i) (some f)) buffer) :
    (readyFence ctx).Keeps guarding
      (fun f slot' g' => slot' = some f ∧ Armed ready fence buffer t i f g')
      (fun _ slot' g' => g'.Orderly ready (Function.update fence (.work t i) slot') buffer)
      (some f) g := by
  have hplace : Function.update fence (.work t i) (some f) (.work t i) = some f :=
    Function.update_self _ _ _
  rw [readyFence, Attempt.keeps_bind, Attempt.keeps_get, Attempt.keeps_bind]
  apply attempt_keeps
  apply ask_keeps _ trivial
  rintro (code | ⟨⟩) -
  · intro _ _
    exact h
  have hwaited : (g.relieve f).Orderly ready (Function.update fence (.work t i) (some f))
      buffer := h.relieve hplace fun hr => ⟨Post.work_ne_acquire t i, hr⟩
  have hfree : ∀ b, buffer t i = some b → (g.relieve f).duty b = .free := by
    intro b hb
    rcases h.guarded t i b hb with hfree | ⟨f', hf', hunder⟩
    · simp [Guards.relieve, hfree]
    · rw [hplace] at hf'
      cases hf'
      exact if_pos hunder
  simp only [Attempt.keeps_bind]
  apply attempt_keeps
  apply ask_keeps _ trivial
  rintro (code | ⟨⟩) -
  · intro _ _
    exact hwaited
  · exact ⟨rfl, hwaited.mark hplace .unsignaled fun hr => Or.inr ⟨Post.work_ne_acquire t i, hr⟩,
      Guards.mark_self (hwaited.live _ f hplace), hfree⟩

/-- A fence is made ready, or the place keeps whatever it had. -/
theorem readyFence_guards (ctx : Context)
    (h : g.Orderly ready (Function.update fence (.work t i) slot) buffer) :
    (readyFence ctx).Keeps guarding
      (fun f slot' g' => slot' = some f ∧ Armed ready fence buffer t i f g')
      (fun _ slot' g' => g'.Orderly ready (Function.update fence (.work t i) slot') buffer)
      slot g := by
  cases slot with
  | none => exact fillFence_guards ctx h
  | some f => exact renewFence_guards ctx h

/-- Whether a submission succeeds or not, its place stays in order. -/
theorem submit_guards (ctx : Context) {b : CommandBuffer} (signal : Option (Handle .semaphore))
    (hb : buffer t i = some b)
    (h : g.Orderly ready (Function.update fence (.work t i) slot) buffer) :
    (submit ctx b signal).Keeps guarding
      (fun _ slot' g' => g'.Orderly ready (Function.update fence (.work t i) slot') buffer)
      (fun _ slot' g' => g'.Orderly ready (Function.update fence (.work t i) slot') buffer)
      slot g := by
  rw [submit, Attempt.keeps_bind]
  apply (readyFence_guards ctx h).mono _ (fun _ _ _ h' => h')
  rintro f _ g' ⟨rfl, horderly, hstands, hfree⟩
  have hplace : Function.update fence (.work t i) (some f) (.work t i) = some f :=
    Function.update_self _ _ _
  rw [Attempt.keeps_bind, Attempt.keeps_step]
  have hallowed : guarding.allows g' (.submit ctx.graphicsQueue b signal f) :=
    ⟨hstands, hfree b hb⟩
  apply ask_keeps _ hallowed
  rintro (code | ⟨⟩) -
  · simp only [Attempt.keeps_bind, Attempt.keeps_step, Attempt.keeps_update]
    apply ask_keeps _ trivial
    intro _ _
    apply callFailure_keeps _ code
    intro _ _
    have hgone := horderly.discard hplace hfree
    rw [Function.update_idem] at hgone
    exact hgone
  · exact horderly.engage hplace hb

theorem update_slot {p : Post} (hp : fence p = slot) : Function.update fence p slot = fence := by
  rw [← hp, Function.update_eq_self]

/-- In order, and as stale as before. -/
def StillOrderly (ready : Prop) (sc sc' : Swapchain) (g : Guards) : Prop :=
  sc'.stale = sc.stale ∧ g.Orderly ready sc'.fenceAt sc'.bufferAt

theorem onGeneralFence_guards (ctx : Context) {b : CommandBuffer} (hb : sc.toGeneral[i]? = some b)
    (h : g.Orderly ready sc.fenceAt sc.bufferAt) :
    (onGeneralFence i (submit ctx b none)).Keeps guarding (fun _ => StillOrderly ready sc)
      (fun _ => StillOrderly ready sc) sc g := by
  apply onGeneralFence_keeps trivial
  intro slot hslot
  have hplace : sc.fenceAt (.work .toGeneral i) = slot := by simp [fenceAt, hslot]
  have hput : ∀ slot' g',
      g'.Orderly ready (Function.update sc.fenceAt (.work .toGeneral i) slot') sc.bufferAt →
      StillOrderly ready sc { sc with generalFences := sc.generalFences.set i slot' } g' := by
    intro slot' g' h'
    refine ⟨rfl, ?_⟩
    rw [fenceAt_general (join_set (List.getElem?_eq_some_iff.mp hslot).1)]
    exact h'
  rw [← update_slot hplace] at h
  exact (submit_guards ctx none hb h).mono (fun _ => hput) (fun _ => hput)

theorem onPresentFence_guards (ctx : Context) {b : CommandBuffer} (semaphore : Handle .semaphore)
    (hb : sc.toPresent[i]? = some b) (h : g.Orderly ready sc.fenceAt sc.bufferAt) :
    (onPresentFence i (submit ctx b (some semaphore))).Keeps guarding
      (fun _ => StillOrderly ready sc) (fun _ => StillOrderly ready sc) sc g := by
  apply onPresentFence_keeps trivial
  intro slot hslot
  have hplace : sc.fenceAt (.work .toPresent i) = slot := by simp [fenceAt, hslot]
  have hput : ∀ slot' g',
      g'.Orderly ready (Function.update sc.fenceAt (.work .toPresent i) slot') sc.bufferAt →
      StillOrderly ready sc { sc with presentFences := sc.presentFences.set i slot' } g' := by
    intro slot' g' h'
    refine ⟨rfl, ?_⟩
    rw [fenceAt_present (join_set (List.getElem?_eq_some_iff.mp hslot).1)]
    exact h'
  rw [← update_slot hplace] at h
  exact (submit_guards ctx (some semaphore) hb h).mono (fun _ => hput) (fun _ => hput)

/-- When an acquisition was waited for and its fence reset, the acquire fence is ready again. -/
theorem prepare_guards (ctx : Context) (index : Nat) {f : Handle .fence}
    (hf : sc.acquireFence = some f) (h : g.Orderly False sc.fenceAt sc.bufferAt) :
    (prepare ctx index).Keeps guarding (fun _ sc' g' => g'.Orderly True sc'.fenceAt sc'.bufferAt)
      (fun _ sc' g' => g'.Orderly False sc'.fenceAt sc'.bufferAt) sc g := by
  have hplace : sc.fenceAt .acquire = some f := hf
  rw [prepare, Attempt.keeps_bind, Attempt.keeps_get, Attempt.keeps_bind, hf]
  apply attempt_keeps
  apply ask_keeps _ trivial
  rintro (code | ⟨⟩) -
  · intro _ _
    exact h
  have hwaited : (g.relieve f).Orderly False sc.fenceAt sc.bufferAt := h.relieve hplace False.elim
  rw [Attempt.keeps_bind]
  apply attempt_keeps
  apply ask_keeps _ trivial
  rintro (code | ⟨⟩) -
  · intro _ _
    exact hwaited
  have hreset : ((g.relieve f).mark f .unsignaled).Orderly True sc.fenceAt sc.bufferAt :=
    hwaited.mark hplace .unsignaled fun _ => Or.inl ⟨rfl, rfl⟩
  dsimp only
  split
  · rw [Attempt.keeps_bind, Attempt.keeps_step]
    apply Program.keeps_fetch _ (fun _ => trivial)
    intro b hb
    apply (onGeneralFence_guards ctx hb hreset).mono
    · intro _ _ _ h'
      exact h'.2
    · intro _ _ _ h'
      exact h'.2.weaken False.elim
  · rw [Attempt.keeps_bind, Attempt.keeps_step]
    exact refuse_keeps _ _ (hreset.weaken False.elim)

theorem acquire_guards (ctx : Context) (h : sc.Guarded g) :
    (acquire ctx).Keeps guarding (fun _ sc' g' => sc'.Guarded g') (fun _ sc' g' => sc'.Guarded g')
      sc g := by
  rw [acquire, Attempt.keeps_bind, Attempt.keeps_get]
  split
  · simp only [Attempt.keeps_bind, Attempt.keeps_step, notice, Program.keeps_log,
      Attempt.keeps_fail]
    exact h
  · rename_i hstale
    rw [Bool.not_eq_true] at hstale
    obtain ⟨f, hf, hstands⟩ := h.acquire hstale
    have hplace : sc.acquireFence = some f := hf
    have hallowed : guarding.allows g (.acquire ctx.device sc.handle sc.acquireFence) :=
      ⟨f, hplace, hstands⟩
    rw [Attempt.keeps_bind]
    apply attempt_keeps
    apply ask_keeps _ hallowed
    rw [hplace]
    rintro (code | image) -
    · intro _ _
      exact h
    · have hgiven : (g.mark f .pending).Orderly False sc.fenceAt sc.bufferAt :=
        Guards.Orderly.mark h hf .pending False.elim
      have htake : (take ctx image.index).Keeps guarding (fun _ sc' g' => sc'.Guarded g')
          (fun _ sc' g' => sc'.Guarded g') sc (g.mark f .pending) := by
        apply Program.keeps_andThen.mpr
        apply Program.Keeps.mono (prepare_guards ctx image.index hplace hgiven)
        rintro ⟨e | ⟨⟩, sc'⟩ g' h'
        · exact Guards.Orderly.weaken h' (by simp)
        · exact Guards.Orderly.weaken h' fun _ => trivial
      dsimp only
      split
      · simp only [Attempt.keeps_bind, Attempt.keeps_step, notice, Program.keeps_log]
        exact htake
      · exact htake

theorem present_guards (ctx : Context) (index : Nat) (h : sc.Guarded g) :
    (present ctx index).Keeps guarding (fun _ sc' g' => sc'.Guarded g')
      (fun _ sc' g' => sc'.Guarded g') sc g := by
  rw [present, Attempt.keeps_bind, Attempt.keeps_get]
  split
  · rw [Attempt.keeps_bind, Attempt.keeps_step]
    exact refuse_keeps _ _ h
  · rw [Attempt.keeps_bind, Attempt.keeps_step]
    apply Program.keeps_fetch _ (fun _ => trivial)
    intro semaphore _
    rw [Attempt.keeps_bind, Attempt.keeps_step]
    apply Program.keeps_fetch _ (fun _ => trivial)
    intro b hb
    rw [Attempt.keeps_bind]
    apply (onPresentFence_guards ctx semaphore hb h).mono
    · rintro _ sc' _ ⟨hstale, h'⟩
      rw [Attempt.keeps_bind, Attempt.keeps_step]
      apply Program.Keeps.mono
        (ask_plain (.present ctx.presentQueue semaphore sc.handle index) trivial)
      rintro result g' rfl
      have hdone : ∀ stale, (stale = false → sc'.stale = false) →
          Guarded { sc' with held := none, stale } g' := by
        intro stale hr
        exact Guards.Orderly.weaken h' fun hfalse => hstale.symm.trans (hr hfalse)
      apply (conclude_keeps (P := fun sc' => sc'.Guarded g') index result hdone).mono
      · rintro _ _ _ ⟨hguarded, rfl⟩
        exact hguarded
      · rintro _ _ _ ⟨hguarded, rfl, -⟩
        exact hguarded
    · rintro _ sc' g' ⟨hstale, h'⟩
      exact Guards.Orderly.weaken h' fun hfalse => hstale.symm.trans hfalse

/-- A swapchain that is being built has fences of its own, in order, and all that was live before
is spared. -/
structure Rising (g₀ : Guards) (ready : Prop) (sc : Swapchain) (g : Guards) : Prop where
  spares : g₀.Spares g
  new : ∀ p f, sc.fenceAt p = some f → g₀.fence f = none
  orderly : g.Orderly ready sc.fenceAt sc.bufferAt

/-- Without buffers yet. -/
def Unarmed (sc : Swapchain) : Prop := sc.toGeneral = [] ∧ sc.toPresent = []

theorem Unarmed.bufferAt (h : sc.Unarmed) (t : Transition) (i : Nat) : sc.bufferAt t i = none := by
  cases t with
  | toGeneral => simp [Swapchain.bufferAt, h.1]
  | toPresent => simp [Swapchain.bufferAt, h.2]

theorem Rising.weaken (h : Rising g₀ ready sc g) : Rising g₀ False sc g :=
  ⟨h.spares, h.new, h.orderly.weaken False.elim⟩

/-- A new fence is one that was not live before. -/
theorem Rising.make {ready' : Prop} {p : Post} {f : Handle .fence} {s : Signal} {sc' : Swapchain}
    (h : Rising g₀ ready sc g) (hp : sc.fenceAt p = none) (hf : g.fence f = none)
    (hr : ready' → p = .acquire ∧ s = .unsignaled ∨ p ≠ .acquire ∧ ready)
    (hfence : sc'.fenceAt = Function.update sc.fenceAt p (some f))
    (hbuffer : sc'.bufferAt = sc.bufferAt) : Rising g₀ ready' sc' (g.make f s) where
  spares := h.spares.trans (Guards.spares_make hf s)
  new q f' hq := by
    rw [hfence] at hq
    rcases Guards.update_some hq with ⟨-, rfl⟩ | ⟨-, hq⟩
    · -- Had it been live before, it would still be, and the driver could not have given it out.
      by_contra hlive
      exact hlive ((h.spares.fence f' hlive).symm.trans hf)
    · exact h.new q f' hq
  orderly := by
    rw [hfence, hbuffer]
    exact h.orderly.make hp hf s hr

theorem addTextures_guards (ctx : Context) (format : FormatCode) (desc : SwapchainDesc)
    (h : Rising g₀ ready sc g) (hunarmed : sc.Unarmed) (hacquire : sc.acquireFence = none) :
    (addTextures ctx format desc).Keeps guarding
      (fun _ sc' g' => Rising g₀ ready sc' g' ∧ sc'.Unarmed ∧ sc'.acquireFence = none)
      (fun _ sc' g' => Rising g₀ ready sc' g' ∧ sc'.Unarmed ∧ sc'.acquireFence = none) sc g := by
  rw [addTextures, Attempt.keeps_bind, Attempt.keeps_get, Attempt.keeps_bind]
  apply attempt_plain (ask_plain (.swapchainImages ctx.device sc.handle) trivial)
  · intro images
    apply Attempt.keeps_forEach images _ ⟨h, hunarmed, hacquire⟩
    intro image _ sc' g' h'
    rw [addTexture, Attempt.keeps_bind]
    apply attempt_plain (ask_plain (.create (.view ctx.device image format)) trivial)
    · intro view
      exact ⟨⟨h'.1.spares, h'.1.new, h'.1.orderly⟩, h'.2⟩
    · intro _
      exact h'
  · intro _
    exact ⟨h, hunarmed, hacquire⟩

theorem Rising.pushGeneral {f : Handle .fence} {s : Signal} (h : Rising g₀ True sc g)
    (hf : g.fence f = none) :
    Rising g₀ True { sc with generalFences := sc.generalFences ++ [some f] } (g.make f s) :=
  h.make (p := .work .toGeneral sc.generalFences.length) (by simp [fenceAt]) hf
    (fun _ => Or.inr ⟨Post.work_ne_acquire _ _, trivial⟩) (fenceAt_general (join_append _)) rfl

theorem Rising.pushPresent {f : Handle .fence} {s : Signal} (h : Rising g₀ True sc g)
    (hf : g.fence f = none) :
    Rising g₀ True { sc with presentFences := sc.presentFences ++ [some f] } (g.make f s) :=
  h.make (p := .work .toPresent sc.presentFences.length) (by simp [fenceAt]) hf
    (fun _ => Or.inr ⟨Post.work_ne_acquire _ _, trivial⟩) (fenceAt_present (join_append _)) rfl

theorem addImageSync_guards (ctx : Context) (h : Rising g₀ True sc g) (hunarmed : sc.Unarmed) :
    (addImageSync ctx).Keeps guarding (fun _ sc' g' => Rising g₀ True sc' g' ∧ sc'.Unarmed)
      (fun _ sc' g' => Rising g₀ True sc' g' ∧ sc'.Unarmed) sc g := by
  rw [addImageSync, Attempt.keeps_bind]
  apply (newFence_guards ctx true).mono
  · rintro f sc _ ⟨rfl, hnew, rfl⟩
    have hgeneral := h.pushGeneral (s := .signaled) hnew
    rw [Attempt.keeps_bind, Attempt.keeps_update, Attempt.keeps_bind]
    apply (newFence_guards ctx true).mono
    · rintro f' _ _ ⟨rfl, hnew', rfl⟩
      have hpresent := hgeneral.pushPresent (s := .signaled) hnew'
      rw [Attempt.keeps_bind, Attempt.keeps_update, Attempt.keeps_bind]
      apply attempt_plain (ask_plain (.create (.semaphore ctx.device)) trivial)
      · intro semaphore
        exact ⟨⟨hpresent.spares, hpresent.new, hpresent.orderly⟩, hunarmed⟩
      · intro _
        exact ⟨hpresent, hunarmed⟩
    · rintro _ _ _ ⟨rfl, rfl⟩
      exact ⟨hgeneral, hunarmed⟩
  · rintro _ _ _ ⟨rfl, rfl⟩
    exact ⟨h, hunarmed⟩

theorem addSync_guards (ctx : Context) (h : Rising g₀ False sc g) (hunarmed : sc.Unarmed)
    (hacquire : sc.acquireFence = none) :
    (addSync ctx).Keeps guarding (fun _ sc' g' => Rising g₀ True sc' g' ∧ sc'.Unarmed)
      (fun _ => Rising g₀ False) sc g := by
  rw [addSync, Attempt.keeps_bind]
  apply (newFence_guards ctx false).mono
  · rintro f sc _ ⟨rfl, hnew, rfl⟩
    have hready : Rising g₀ True { sc with acquireFence := some f } (g.make f .unsignaled) :=
      h.make (p := .acquire) hacquire hnew (fun _ => Or.inl ⟨rfl, rfl⟩)
        (fenceAt_acquire sc (some f)) rfl
    rw [Attempt.keeps_bind, Attempt.keeps_update, Attempt.keeps_bind, Attempt.keeps_get]
    have hstart : Rising g₀ True { sc with acquireFence := some f } (g.make f .unsignaled) ∧
        Unarmed { sc with acquireFence := some f } := ⟨hready, hunarmed⟩
    apply Attempt.Keeps.mono (Attempt.keeps_times _
      (fun _ _ h => addImageSync_guards ctx h.1 h.2) hstart)
    · intro _ _ _ h
      exact h
    · intro _ _ _ h
      exact h.1.weaken
  · rintro _ _ _ ⟨rfl, rfl⟩
    exact h

theorem mem_buffers {b : CommandBuffer} (hb : sc.bufferAt t i = some b) : b ∈ sc.buffers := by
  cases t with
  | toGeneral => exact List.mem_append_left _ (List.mem_of_getElem? hb)
  | toPresent => exact List.mem_append_right _ (List.mem_of_getElem? hb)

theorem eq_of_getElem? {xs : List α} {x : α} {j : Nat} (hnodup : xs.Nodup) (hi : xs[i]? = some x)
    (hj : xs[j]? = some x) : i = j := by
  have hlt : i < xs.length := (List.getElem?_eq_some_iff.mp hi).1
  exact List.getElem?_inj hlt hnodup |>.mp (hi.trans hj.symm)

/-- Among different buffers, each has one place. -/
theorem bufferAt_single (hnodup : sc.buffers.Nodup) {t' : Transition} {i' : Nat} {b : CommandBuffer}
    (hb : sc.bufferAt t i = some b) (hb' : sc.bufferAt t' i' = some b) : t = t' ∧ i = i' := by
  obtain ⟨hgeneral, hpresent, hdisjoint⟩ := List.nodup_append.mp hnodup
  cases t with
  | toGeneral =>
    cases t' with
    | toGeneral => exact ⟨rfl, eq_of_getElem? hgeneral hb hb'⟩
    | toPresent =>
      exact absurd rfl (hdisjoint b (List.mem_of_getElem? hb) b (List.mem_of_getElem? hb'))
  | toPresent =>
    cases t' with
    | toGeneral =>
      exact absurd rfl (hdisjoint b (List.mem_of_getElem? hb') b (List.mem_of_getElem? hb))
    | toPresent => exact ⟨rfl, eq_of_getElem? hpresent hb hb'⟩

theorem Rising.spared {g' : Guards} (h : Rising g₀ ready sc g) (hs : g.Spares g') :
    Rising g₀ ready sc g' :=
  ⟨h.spares.trans hs, h.new, h.orderly.spared hs⟩

/-- Other buffers, different and all of them free. -/
theorem Rising.equip (h : Rising g₀ ready sc g) (pool : Option (Handle .pool))
    {toGeneral toPresent : List CommandBuffer} (hnodup : (toGeneral ++ toPresent).Nodup)
    (hfree : ∀ b ∈ toGeneral ++ toPresent, g.duty b = .free) :
    Rising g₀ ready { sc with pool, toGeneral, toPresent } g where
  spares := h.spares
  new := h.new
  orderly := by
    have hdifferent : { sc with pool, toGeneral, toPresent }.buffers.Nodup := hnodup
    apply Guards.Orderly.equip h.orderly
    · intro t i t' i' b hb hb'
      exact bufferAt_single hdifferent hb hb'
    · intro t i b hb
      exact hfree b (mem_buffers hb)

/-- The buffers of both transitions come from one pool, so they are different ones. -/
theorem addCommands_guards (ctx : Context) (h : Rising g₀ True sc g) (hunarmed : sc.Unarmed) :
    (addCommands ctx).Keeps guarding (fun _ => Rising g₀ True) (fun _ => Rising g₀ True) sc g := by
  rw [addCommands, Attempt.keeps_bind]
  apply attempt_keeps
  apply ask_keeps (.create (.pool ctx.device ctx.graphicsFamily)) trivial
  rintro (code | pool) -
  · intro _ _
    exact h
  have hopen := h.spared (Guards.spares_openPool pool)
  simp only [Attempt.keeps_bind, Attempt.keeps_update, Attempt.keeps_get]
  apply attempt_keeps
  apply ask_keeps (.allocate ctx.device pool sc.textures.length) trivial
  rintro (code | general) hnew
  · intro _ _
    exact ⟨hopen.spares, hopen.new, hopen.orderly⟩
  have hgeneral : general.Nodup := hnew.1
  have hgiven : ∀ b ∈ general, ((g.openPool pool).allot pool general).duty b = .free :=
    fun _ hb => if_pos hb
  have hhalf : Rising g₀ True { sc with pool := some pool, toGeneral := general }
      ((g.openPool pool).allot pool general) := by
    apply (hopen.spared (Guards.spares_allot pool general)).equip
    · simpa [hunarmed.2] using hgeneral
    · simpa [hunarmed.2] using hgiven
  apply attempt_keeps
  apply ask_keeps (.allocate ctx.device pool sc.textures.length) trivial
  rintro (code | present) hnew
  · intro _ _
    exact hhalf
  obtain ⟨hpresent, hother⟩ :
    present.Nodup ∧ ∀ b ∈ present, b ∉ ((g.openPool pool).allot pool general).allotted pool := hnew
  have hapart : ∀ b ∈ present, b ∉ general := by
    simpa [Guards.allot, Guards.openPool] using hother
  have hspared := Guards.spares_allot (g := (g.openPool pool).allot pool general) pool present
  have hwhole : Rising g₀ True
      { sc with pool := some pool, toGeneral := general, toPresent := present }
      (((g.openPool pool).allot pool general).allot pool present) := by
    apply (hhalf.spared hspared).equip
    · apply List.nodup_append.mpr ⟨hgeneral, hpresent, _⟩
      rintro b hb _ hb' rfl
      exact hapart b hb' hb
    · intro b hb
      rcases List.mem_append.mp hb with hb | hb
      · exact hspared.free b (hgiven b hb)
      · exact if_pos hb
  exact recordImages_keeps _ (fun sc => bears_plain (Rising g₀ True sc) fun _ hc => hc.plain)
    trivial hwhole

theorem rising_bare (handle : Handle .swapchain) (extent : Extent) (h : g₀.Spares g) :
    Rising g₀ False (bare handle extent) g := by
  have hvacant : ∀ p, (bare handle extent).fenceAt p = none := by
    intro p
    cases p with
    | acquire => rfl
    | work t i => cases t <;> rfl
  have hunarmed : (bare handle extent).Unarmed := ⟨rfl, rfl⟩
  refine ⟨h, ?_, ?_, ?_, ?_, ?_, False.elim⟩
  · intro p f hp
    simp [hvacant] at hp
  · intro p f hp
    simp [hvacant] at hp
  · intro p q f hp
    simp [hvacant] at hp
  · intro t i t' i' b hb
    simp [hunarmed.bufferAt] at hb
  · intro t i b hb
    simp [hunarmed.bufferAt] at hb

theorem build_guards (ctx : Context) (terms : Terms) (desc : SwapchainDesc)
    (handle : Handle .swapchain) (h : g₀.Spares g) :
    (build ctx terms desc).Keeps guarding (fun _ => Rising g₀ True) (fun _ => Rising g₀ False)
      (bare handle terms.extent) g := by
  rw [build, Attempt.keeps_bind]
  apply (addTextures_guards ctx terms.format desc (rising_bare handle terms.extent h)
    ⟨rfl, rfl⟩ rfl).mono _ (fun _ _ _ h => h.1)
  rintro _ sc g ⟨hrising, hunarmed, hacquire⟩
  simp only [Attempt.keeps_bind, Attempt.keeps_get]
  split
  · simp only [Attempt.keeps_bind, Attempt.keeps_step]
    exact refuse_keeps _ _ hrising
  · simp only [Attempt.keeps_bind]
    apply (addSync_guards ctx hrising hunarmed hacquire).mono _ (fun _ _ _ h => h)
    rintro _ sc g ⟨hrising, hunarmed⟩
    apply (addCommands_guards ctx hrising hunarmed).mono _ (fun _ _ _ h => h.weaken)
    intro _ sc g hrising
    simp only [Attempt.keeps_step, notice, Program.keeps_log]
    exact hrising

theorem exists_post {f : Handle .fence}
    (hf : some f ∈ sc.acquireFence :: (sc.generalFences ++ sc.presentFences)) :
    ∃ p, sc.fenceAt p = some f := by
  rcases List.mem_cons.mp hf with hacquire | hwork
  · exact ⟨.acquire, hacquire.symm⟩
  · rcases List.mem_append.mp hwork with hgeneral | hpresent
    · obtain ⟨i, hi⟩ := List.mem_iff_getElem?.mp hgeneral
      exact ⟨.work .toGeneral i, by simp [fenceAt, hi]⟩
    · obtain ⟨i, hi⟩ := List.mem_iff_getElem?.mp hpresent
      exact ⟨.work .toPresent i, by simp [fenceAt, hi]⟩

/-- The release of a swapchain destroys the fences that it has, and no others. -/
theorem release_guards {P : Guards → Prop} (ctx : Context)
    (hP : ∀ p f g, sc.fenceAt p = some f → P g → P (g.destroy f)) (h : P g) :
    (sc.release ctx).Keeps guarding (fun _ => P) g := by
  have hbears : guarding.Bears (Call.Releases ctx.device sc) P := by
    intro c g hc h
    cases c with
    | waitIdle => exact ⟨trivial, fun _ _ => h⟩
    | destroy kind on handle =>
      cases kind with
      | fence =>
        cases handle with
        | none => exact ⟨trivial, fun _ _ => h⟩
        | some f =>
          obtain ⟨p, hp⟩ := exists_post hc.2
          exact ⟨trivial, fun _ _ => hP p f g hp h⟩
      | view => exact ⟨trivial, fun _ _ => h⟩
      | semaphore => exact ⟨trivial, fun _ _ => h⟩
      | pool => exact ⟨trivial, fun _ _ => h⟩
      | swapchain => exact ⟨trivial, fun _ _ => h⟩
      | _ => exact hc.elim
    | _ => exact hc.elim
  apply (within_bears hbears trivial (release_within ctx sc) h).mono
  intro _ _ h
  exact h.2

/-- A new swapchain is in order and ready, and so is what there was before. -/
theorem create_guards (ctx : Context) (surface : Handle .surface) (desc : SwapchainDesc)
    (old : Option (Handle .swapchain)) :
    (create ctx surface desc old).Keeps guarding (Either (Rising g True) g.Spares) g := by
  apply create_phases (P := fun g' => g' = g) (Q := fun _ g' => g' = g)
    (R := fun sc g' => Rising g False sc g') ctx surface desc
  · apply (attempt_bears (bears_plain (fun g' => g' = g) fun _ hc => hc.plain) trivial
      (Terms.negotiate_keeps ctx surface desc) rfl).mono
    · rintro _ _ _ ⟨-, rfl⟩
      rfl
    · rintro _ _ _ ⟨-, rfl⟩
      exact Guards.Spares.refl _
  · rintro terms g' rfl
    apply (ask_plain (.create (.swapchain ctx.device (terms.request ctx surface desc old)))
      trivial).mono
    rintro (code | handle) _ rfl
    · exact Guards.Spares.refl _
    · rfl
  · rintro terms handle g' rfl
    exact build_guards ctx terms desc handle (Guards.Spares.refl g')
  · intro sc g' h
    apply release_guards ctx _ h.spares
    intro p f g'' hp hs
    exact hs.destroy (h.new p f hp)

end Swapchain

end Presentation.Vulkan
