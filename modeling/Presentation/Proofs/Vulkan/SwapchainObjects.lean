import Presentation.Proofs.Vulkan.Census

/-!
# The objects of a swapchain

Whatever a swapchain is built up to when a step fails, what it says it has is
what was made for it and is still live. So releasing it destroys all of that,
each object once, and the handle last. Everything else that is live stays as it
is: it is the frame of each statement.
-/

set_option autoImplicit false

namespace Presentation.Vulkan

theorem Context.device_mem {ctx : Context} {frame : Multiset Object}
    (h : ctx.objects ≤ frame) : ctx.device.object ∈ frame := by
  apply Multiset.mem_of_le h
  simp [Context.objects]

theorem Context.inst_mem {ctx : Context} {frame : Multiset Object}
    (h : ctx.objects ≤ frame) : ctx.inst.object ∈ frame := by
  apply Multiset.mem_of_le h
  simp [Context.objects]

namespace Swapchain

variable {α β : Type} {ctx : Context} {frame spared : Multiset Object} {sc : Swapchain}
  {c : Census}

theorem handle_mem (sc : Swapchain) : sc.handle.object ∈ sc.objects := by
  simp [objects]

theorem acquireFence_mem {o : Object} (ho : o ∈ part sc.acquireFence) : o ∈ sc.objects := by
  simp [objects, ho]

theorem presentSemaphore_mem {semaphore : Handle .semaphore}
    (h : semaphore ∈ sc.presentSemaphores) : semaphore.object ∈ sc.objects := by
  have hpart : part (some semaphore) ≤ parts (sc.presentSemaphores.map some) := by
    apply part_le_parts
    exact List.mem_map_of_mem h
  have hmem : semaphore.object ∈ parts (sc.presentSemaphores.map some) := by
    apply Multiset.mem_of_le hpart
    simp
  simp [objects, hmem]

/-- From a swapchain of one kind to one of another, what is live stays what the swapchain has and
the frame. After a failure it does as well. -/
def Conserves (frame spared : Multiset Object) (P Q : Swapchain → Prop) (t : Build α) : Prop :=
  ∀ sc c, P sc → c.Books (sc.objects + frame) spared →
    t.Keeps census (fun _ sc' c' => Q sc' ∧ c'.Books (sc'.objects + frame) spared)
      (fun _ sc' c' => c'.Books (sc'.objects + frame) spared) sc c

section

variable {P Q R : Swapchain → Prop}

theorem Conserves.bind {t : Build α} {f : α → Build β} (ht : Conserves frame spared P Q t)
    (hf : ∀ a, Conserves frame spared Q R (f a)) : Conserves frame spared P R (t >>= f) := by
  intro sc c hP h
  rw [Attempt.keeps_bind]
  apply (ht sc c hP h).mono
  · intro a sc' c' h'
    exact hf a sc' c' h'.1 h'.2
  · intro _ sc' c' h'
    exact h'

theorem Conserves.get {f : Swapchain → Build β}
    (hf : ∀ sc, P sc → Conserves frame spared (fun sc' => P sc' ∧ sc' = sc) Q (f sc)) :
    Conserves frame spared P Q (.get >>= f) := by
  intro sc c hP h
  rw [Attempt.keeps_bind, Attempt.keeps_get]
  exact hf sc hP sc c ⟨hP, rfl⟩ h

theorem Conserves.weaken {t : Build α} (ht : Conserves frame spared P Q t)
    (hR : ∀ sc, R sc → P sc) : Conserves frame spared R Q t := by
  intro sc c hsc h
  exact ht sc c (hR sc hsc) h

theorem conserves_succeed {a : α} : Conserves frame spared P P (.succeed a) := by
  intro sc c hP h
  exact ⟨hP, h⟩

theorem conserves_forEach {f : β → Build Unit} (xs : List β)
    (hf : ∀ x, Conserves frame spared P P (f x)) : Conserves frame spared P P (.forEach f xs) := by
  induction xs with
  | nil => exact conserves_succeed
  | cons x xs ih => exact (hf x).bind fun _ => ih

theorem conserves_times {t : Build Unit} (n : Nat) (ht : Conserves frame spared P P t) :
    Conserves frame spared P P (.times t n) := by
  induction n with
  | zero => exact conserves_succeed
  | succ n ih => exact ht.bind fun _ => ih

theorem conserves_attempt {γ : Type} {function : String} {p : Program (Except Code γ)}
    (hp : ∀ (sc : Swapchain) (c : Census), P sc → c.Books (sc.objects + frame) spared →
      p.Keeps census (fun _ c' => c'.Books (sc.objects + frame) spared) c) :
    Conserves frame spared P P (attempt function p) := by
  intro sc c hP h
  apply attempt_keeps
  apply Program.Keeps.mono (hp sc c hP h)
  rintro (code | a) c' h'
  · intro _ _
    exact h'
  · exact ⟨hP, h'⟩

theorem conserves_step {p : Program α}
    (hp : ∀ (sc : Swapchain) (c : Census), P sc → c.Books (sc.objects + frame) spared →
      p.Keeps census (fun _ c' => c'.Books (sc.objects + frame) spared) c) :
    Conserves frame spared P P (.step p) := by
  intro sc c hP h
  rw [Attempt.keeps_step]
  apply Program.Keeps.mono (hp sc c hP h)
  intro _ c' h'
  exact ⟨hP, h'⟩

theorem conserves_update {f : Swapchain → Swapchain}
    (hf : ∀ sc, P sc → Q (f sc) ∧ (f sc).objects = sc.objects) :
    Conserves frame spared P Q (.update f) := by
  intro sc c hP h
  obtain ⟨hQ, hobjects⟩ := hf sc hP
  rw [Attempt.keeps_update, hobjects]
  exact ⟨hQ, h⟩

theorem conserves_fetch (xs : List α) (index : Nat) :
    Conserves frame spared P P (.step (.fetch xs index)) := by
  apply conserves_step
  intro sc c _ h
  exact Program.keeps_fetch (fun _ _ => h) (fun _ => trivial)

theorem conserves_notice (n : Notice) : Conserves frame spared P P (.step (notice n)) := by
  apply conserves_step
  intro sc c _ h
  rw [notice, Program.keeps_log]
  exact h

theorem conserves_refuse (toError : String → Error) (n : Notice) :
    Conserves frame spared P Q
      (.step (refuse toError n) >>= fun e => (.fail e : Build α)) := by
  intro sc c _ h
  rw [Attempt.keeps_bind, Attempt.keeps_step]
  exact refuse_keeps toError n h

/-- What is made is put where the swapchain has nothing yet. -/
theorem conserves_make {kind : Kind} {t : Build (Handle kind)}
    {put : Handle kind → Swapchain → Swapchain}
    (ht : ∀ (sc : Swapchain) (c : Census), c.Books (sc.objects + frame) spared →
      t.Keeps census (fun made sc' c' => sc' = sc ∧
          c'.Books (part (some made) + (sc.objects + frame)) spared)
        (fun _ sc' c' => sc' = sc ∧ c'.Books (sc.objects + frame) spared) sc c)
    (hput : ∀ made sc, P sc → Q (put made sc) ∧
      (put made sc).objects = part (some made) + sc.objects) :
    Conserves frame spared P Q (t >>= fun made => .update (put made)) := by
  intro sc c hP h
  rw [Attempt.keeps_bind]
  apply (ht sc c h).mono
  · intro made sc' c' h'
    rw [h'.1]
    obtain ⟨hQ, hobjects⟩ := hput made sc hP
    constructor
    · exact hQ
    · rw [hobjects, add_assoc]
      exact h'.2
  · intro _ sc' c' h'
    rw [h'.1]
    exact h'.2

theorem conserves_makeThen {kind : Kind} {t : Build (Handle kind)}
    {put : Handle kind → Swapchain → Swapchain} {f : Handle kind → Build β}
    (Q : Handle kind → Swapchain → Prop)
    (ht : ∀ (sc : Swapchain) (c : Census), c.Books (sc.objects + frame) spared →
      t.Keeps census (fun made sc' c' => sc' = sc ∧
          c'.Books (part (some made) + (sc.objects + frame)) spared)
        (fun _ sc' c' => sc' = sc ∧ c'.Books (sc.objects + frame) spared) sc c)
    (hput : ∀ made sc, P sc → Q made (put made sc) ∧
      (put made sc).objects = part (some made) + sc.objects)
    (hf : ∀ made, Conserves frame spared (Q made) R (f made)) :
    Conserves frame spared P R (t >>= fun made => .update (put made) >>= fun _ => f made) := by
  intro sc c hP h
  rw [Attempt.keeps_bind]
  apply (ht sc c h).mono
  · intro made sc' c' h'
    rw [h'.1]
    obtain ⟨hQ, hobjects⟩ := hput made sc hP
    rw [Attempt.keeps_bind, Attempt.keeps_update]
    apply hf made _ _ hQ
    rw [hobjects, add_assoc]
    exact h'.2
  · intro _ sc' c' h'
    rw [h'.1]
    exact h'.2

end

theorem made_books {σ : Type} {s : σ} {objects : Multiset Object} {function : String}
    {kind : Kind} {p : Program (Except Code (Handle kind))}
    (hp : p.Keeps census (Made objects spared) c) :
    (attempt function p).Keeps census
      (fun made s' c' => s' = s ∧ c'.Books (part (some made) + objects) spared)
      (fun _ s' c' => s' = s ∧ c'.Books objects spared) s c := by
  apply attempt_keeps
  apply Program.Keeps.mono hp
  rintro (code | made) c' h'
  · intro _ _
    exact ⟨rfl, h'⟩
  · exact ⟨rfl, h'⟩

section

variable (hctx : ctx.objects ≤ frame)

include hctx

/-- Neither fence nor pool was made yet. -/
def Unsynced (sc : Swapchain) : Prop := sc.acquireFence = none ∧ sc.pool = none

theorem addTexture_conserves (format : FormatCode) (desc : SwapchainDesc) (image : Image) :
    Conserves frame spared Unsynced Unsynced (addTexture ctx format desc image) := by
  apply conserves_make
  · intro sc c h
    have hdevice := Context.device_mem hctx
    exact made_books (create_books (.view ctx.device image format) h
      (by simp [Creation.uses, hdevice]))
  · intro view sc hsc
    constructor
    · exact hsc
    · simp only [objects, List.map_append, List.map_cons, List.map_nil, parts_append, parts_cons,
        parts_nil]
      abel

theorem addTextures_conserves (format : FormatCode) (desc : SwapchainDesc) :
    Conserves frame spared Unsynced Unsynced (addTextures ctx format desc) := by
  have hdevice := Context.device_mem hctx
  apply Conserves.get
  intro sc _
  apply Conserves.bind
  · apply conserves_attempt
    intro sc c hr h
    obtain ⟨_, rfl⟩ := hr
    exact ask_books (.swapchainImages ctx.device sc.handle) trivial h
      (by simp [Call.uses, hdevice, handle_mem])
  · intro images
    apply Conserves.weaken
    · exact conserves_forEach images fun image => addTexture_conserves hctx format desc image
    · intro _ hsc
      exact hsc.1

theorem newFence_books {σ : Type} {s : σ} {objects : Multiset Object} (signaled : Bool)
    (h : c.Books (objects + frame) spared) :
    (newFence ctx signaled).Keeps census
      (fun made s' c' => s' = s ∧ c'.Books (part (some made) + (objects + frame)) spared)
      (fun _ s' c' => s' = s ∧ c'.Books (objects + frame) spared) s c := by
  have hdevice := Context.device_mem hctx
  exact made_books (create_books (.fence ctx.device signaled) h
    (by simp [Creation.uses, hdevice]))

theorem addImageSync_conserves :
    Conserves frame spared (fun sc => sc.pool = none) (fun sc => sc.pool = none)
      (addImageSync ctx) := by
  have hdevice := Context.device_mem hctx
  apply conserves_makeThen (fun _ sc => sc.pool = none) (fun _ _ h => newFence_books hctx true h)
  · intro fence sc hsc
    constructor
    · exact hsc
    · simp only [objects, parts_append, parts_cons, parts_nil]
      abel
  intro _
  apply conserves_makeThen (fun _ sc => sc.pool = none) (fun _ _ h => newFence_books hctx true h)
  · intro fence sc hsc
    constructor
    · exact hsc
    · simp only [objects, parts_append, parts_cons, parts_nil]
      abel
  intro _
  apply conserves_make
  · intro sc c h
    exact made_books (create_books (.semaphore ctx.device) h (by simp [Creation.uses, hdevice]))
  · intro semaphore sc hsc
    constructor
    · exact hsc
    · simp only [objects, List.map_append, List.map_cons, List.map_nil, parts_append, parts_cons,
        parts_nil]
      abel

theorem addSync_conserves :
    Conserves frame spared Unsynced (fun sc => sc.pool = none) (addSync ctx) := by
  apply conserves_makeThen (fun _ sc => sc.pool = none) (fun _ _ h => newFence_books hctx false h)
  · intro fence sc hr
    obtain ⟨hfence, hpool⟩ := hr
    constructor
    · exact hpool
    · simp only [objects, hfence, part_none]
      abel
  intro _
  apply Conserves.get
  intro sc _
  apply Conserves.weaken
  · exact conserves_times sc.textures.length (addImageSync_conserves hctx)
  · intro _ hsc
    exact hsc.1

omit hctx in
theorem records_bears (objects : Multiset Object) :
    census.Bears Call.Records (fun c => c.Books objects spared) := by
  intro call c hcall h
  have hkeeps : (ask call).Keeps census (fun _ c' => c'.Books objects spared) c := by
    cases call with
    | beginCommands buffer =>
      exact ask_books (.beginCommands buffer) trivial h (by simp [Call.uses])
    | barrier buffer image transition =>
      exact ask_books (.barrier buffer image transition) trivial h (by simp [Call.uses])
    | endCommands buffer =>
      exact ask_books (.endCommands buffer) trivial h (by simp [Call.uses])
    | _ => exact hcall.elim
  exact hkeeps

omit hctx in
theorem recordImages_conserves {P : Swapchain → Prop} (images : List (Image × Nat)) :
    Conserves frame spared P P (.forEach recordImage images) := by
  have hbears : ∀ sc : Swapchain, census.Bears Call.Records
      (fun c => P sc ∧ c.Books (sc.objects + frame) spared) := by
    intro sc call c hcall h
    obtain ⟨hallowed, hafter⟩ := records_bears _ call c hcall h.2
    exact ⟨hallowed, fun a ha => ⟨h.1, hafter a ha⟩⟩
  intro sc c hP h
  apply (recordImages_keeps images hbears trivial ⟨hP, h⟩).mono
  · intro _ _ _ h
    exact h
  · intro _ _ _ h
    exact h.2

theorem addCommands_conserves :
    Conserves frame spared (fun sc => sc.pool = none) (fun _ => True) (addCommands ctx) := by
  have hdevice := Context.device_mem hctx
  apply conserves_makeThen (fun pool sc => sc.pool = some pool)
  · intro sc c h
    exact made_books (create_books (.pool ctx.device ctx.graphicsFamily) h
      (by simp [Creation.uses, hdevice]))
  · intro pool sc hpool
    constructor
    · rfl
    · simp only [objects, hpool, part_none]
      abel
  intro pool
  have hallocate : ∀ count, Conserves frame spared (fun sc => sc.pool = some pool)
      (fun sc => sc.pool = some pool)
      (attempt "vkAllocateCommandBuffers" (ask (.allocate ctx.device pool count))) := by
    intro count
    apply conserves_attempt
    intro sc c hpool h
    exact ask_books (.allocate ctx.device pool count) trivial h
      (by simp [Call.uses, hdevice, objects, hpool])
  apply Conserves.get
  intro sc _
  apply Conserves.weaken (P := fun sc => sc.pool = some pool)
  · apply (hallocate sc.textures.length).bind
    intro general
    apply Conserves.bind (Q := fun sc => sc.pool = some pool)
    · exact conserves_update fun sc hpool => ⟨hpool, rfl⟩
    intro _
    apply (hallocate sc.textures.length).bind
    intro present
    apply Conserves.bind (Q := fun _ => True)
    · exact conserves_update fun sc _ => ⟨trivial, rfl⟩
    intro _
    exact recordImages_conserves _
  · intro _ hsc
    exact hsc.1

/-- Everything but the handle is built on a swapchain that has nothing else. -/
theorem build_conserves (terms : Terms) (desc : SwapchainDesc) :
    Conserves frame spared Unsynced (fun _ => True) (build ctx terms desc) := by
  apply (addTextures_conserves hctx terms.format desc).bind
  intro _
  apply Conserves.get
  intro sc _
  have hrest : Conserves frame spared Unsynced (fun _ => True) (do
      addSync ctx
      addCommands ctx
      .step (notice (.swapchainCreated terms.extent terms.format terms.colorSpace terms.mode
        sc.textures.length desc.imageCount))) := by
    apply (addSync_conserves hctx).bind
    intro _
    apply (addCommands_conserves hctx).bind
    intro _
    exact conserves_notice _
  intro sc' c hsc h
  dsimp only
  split
  · rw [Attempt.keeps_bind, Attempt.keeps_step]
    exact refuse_keeps _ _ h
  · exact hrest sc' c hsc.1 h

/-- A release destroys everything that the swapchain has, and the handle last. -/
theorem release_books (h : c.Books (sc.objects + frame) spared) :
    (sc.release ctx).Keeps census
      (fun _ c' => c'.Books frame (spared ∪ below .swapchain frame)) c := by
  have hdevice := Context.device_mem hctx
  have hparts : sc.objects + frame = part sc.acquireFence +
      (parts (sc.generalFences ++ sc.presentFences) + (parts (sc.presentSemaphores.map some) +
        (part sc.pool + (parts (sc.textures.map fun t => some t.view) +
          (part (some sc.handle) + frame))))) := by
    simp only [objects, parts_append, part_some]
    abel
  rw [hparts] at h
  apply Program.Keeps.andThen
    (ask_books (.waitIdle ctx.device) trivial h (by simp [Call.uses, hdevice]))
  intro _ c h
  apply Program.Keeps.andThen (destroyOn_books ctx.device sc.acquireFence rfl h (by simp [hdevice]))
  intro _ c h
  have hfences := destroyAll_books ctx.device id rfl (sc.generalFences ++ sc.presentFences)
    (by rw [List.map_id]; exact h) (by simp [hdevice])
  apply Program.Keeps.andThen hfences
  intro _ c h
  apply Program.Keeps.andThen
    (destroyAll_books ctx.device some rfl sc.presentSemaphores h (by simp [hdevice]))
  intro _ c h
  apply Program.Keeps.andThen (destroyOn_books ctx.device sc.pool rfl h (by simp [hdevice]))
  intro _ c h
  apply Program.Keeps.andThen (destroyAll_books ctx.device
    (fun t : SwapchainTexture => some t.view) rfl sc.textures h (by simp [hdevice]))
  intro _ c h
  exact destroy_books (some ctx.device.object) (some sc.handle) h (by simp [hdevice])

omit hctx in
theorem asked_books {γ : Type} {function : String} {p : Program (Except Code γ)}
    {f : γ → Attempt interface Unit β} {ok : β → Unit → Census → Prop}
    (hp : p.Keeps census (fun _ c' => c'.Books frame spared) c)
    (hf : ∀ a c', c'.Books frame spared →
      (f a).Keeps census ok (fun _ _ c' => c'.Books frame spared) () c') :
    (attempt function p >>= f).Keeps census ok (fun _ _ c' => c'.Books frame spared) () c := by
  rw [Attempt.keeps_bind]
  apply attempt_keeps
  apply Program.Keeps.mono hp
  rintro (code | a) c' h'
  · intro _ _
    exact h'
  · exact hf a c' h'

omit hctx in
theorem negotiate_books (ctx : Context) {surface : Handle .surface} (desc : SwapchainDesc)
    (hsurface : surface.object ∈ frame) (h : c.Books frame spared) :
    (Terms.negotiate ctx surface desc).Keeps census (fun _ _ c' => c'.Books frame spared)
      (fun _ _ c' => c'.Books frame spared) () c := by
  apply asked_books
  · exact ask_books (.capabilities ctx.gpu surface) trivial h (by simp [Call.uses, hsurface])
  intro capabilities c h
  apply asked_books
  · exact ask_books (.surfaceFormats ctx.gpu surface) trivial h (by simp [Call.uses, hsurface])
  intro formats c h
  apply asked_books
  · exact ask_books (.presentModes ctx.gpu surface) trivial h (by simp [Call.uses, hsurface])
  intro modes c h
  dsimp only
  split
  · rw [Attempt.keeps_bind, Attempt.keeps_step]
    exact refuse_keeps _ _ h
  · split
    · simp only [Attempt.keeps_bind, Attempt.keeps_step, notice, Program.keeps_log]
      exact h
    · exact h

/-- What is there after a creation: all of a new swapchain, or no more than before. -/
def Founded (frame spared : Multiset Object) : Except Error Swapchain → Census → Prop
  | .ok sc, c => c.Books (sc.objects + frame) spared
  | .error _, c => c.Books frame (spared ∪ below .swapchain frame)

theorem create_founds {surface : Handle .surface} (desc : SwapchainDesc)
    {old : Option (Handle .swapchain)} (hsurface : surface.object ∈ frame)
    (hold : ∀ o ∈ part old, o ∈ frame) (h : c.Books frame spared) :
    (create ctx surface desc old).Keeps census (Founded frame spared) c := by
  have hdevice := Context.device_mem hctx
  have hmore : ∀ {c' : Census}, c'.Books frame spared →
      c'.Books frame (spared ∪ below .swapchain frame) := by
    intro c' h'
    exact ⟨h'.1, h'.2.trans Multiset.le_union_left⟩
  have huses : ∀ terms : Terms, ∀ o ∈ Creation.uses (.swapchain ctx.device
      (terms.request ctx surface desc old)), o ∈ frame := by
    intro terms o ho
    simp only [Creation.uses, Terms.request, Multiset.mem_add, Multiset.mem_singleton] at ho
    rcases ho with (rfl | rfl) | ho
    · exact hdevice
    · exact hsurface
    · exact hold o ho
  apply (create_phases (P := fun c => c.Books frame spared)
    (Q := fun handle c => c.Books (part (some handle) + frame) spared)
    (R := fun sc c => c.Books (sc.objects + frame) spared)
    (S := fun sc c => c.Books (sc.objects + frame) spared)
    (E := fun c => c.Books frame (spared ∪ below .swapchain frame))
    ctx surface desc ?_ ?_ ?_ ?_).mono
  · rintro (e | sc) c h
    · exact h
    · exact h
  · apply (negotiate_books ctx desc hsurface h).mono
    · intro _ _ _ h
      exact h
    · intro _ _ _ h
      exact hmore h
  · intro terms c h
    apply Program.Keeps.mono (create_books _ h (huses terms))
    rintro (code | handle) c h
    · exact hmore h
    · exact h
  · intro terms handle c h
    have hbare : c.Books ((bare handle terms.extent).objects + frame) spared := by
      simpa [objects, bare] using h
    apply (build_conserves hctx terms desc _ c ⟨rfl, rfl⟩ hbare).mono
    · intro _ _ _ h
      exact h.2
    · intro _ _ _ h
      exact h
  · intro sc c h
    exact release_books hctx h

/-- Whatever becomes of a slot, the fence in it is the one that is live. -/
theorem readyFence_books {slot : Option (Handle .fence)} (h : c.Books (part slot + frame) spared) :
    (readyFence ctx).Keeps census
      (fun fence slot' c' => slot' = some fence ∧ c'.Books (part slot' + frame) spared)
      (fun _ slot' c' => c'.Books (part slot' + frame) spared) slot c := by
  have hdevice := Context.device_mem hctx
  rw [readyFence, Attempt.keeps_bind, Attempt.keeps_get]
  cases slot with
  | none =>
    rw [Attempt.keeps_bind]
    rw [part_none] at h
    apply (newFence_books hctx false h).mono
    · intro fence slot' c' h'
      rw [Attempt.keeps_bind, Attempt.keeps_update, Attempt.keeps_pure]
      constructor
      · rfl
      · have hbooks := h'.2
        rw [zero_add] at hbooks
        exact hbooks
    · intro _ slot' c' h'
      rw [h'.1]
      exact h'.2
  | some fence =>
    have hkeep : ∀ (call : Call), call.Quiet → (∀ o ∈ call.uses, o ∈ part (some fence) + frame) →
        ∀ c : Census, c.Books (part (some fence) + frame) spared →
          (ask call).Keeps census (fun _ c' => c'.Books (part (some fence) + frame) spared) c := by
      intro call hq huses c h
      exact ask_books call hq h huses
    rw [Attempt.keeps_bind]
    apply attempt_keeps
    apply Program.Keeps.mono (hkeep (.waitForFence ctx.device (some fence)) trivial
      (by simp [Call.uses, hdevice]) c h)
    intro answer c h
    cases answer with
    | error code =>
      intro _ _
      exact h
    | ok done =>
      simp only [Attempt.keeps_bind]
      apply attempt_keeps
      apply Program.Keeps.mono (hkeep (.resetFence ctx.device (some fence)) trivial
        (by simp [Call.uses, hdevice]) c h)
      intro answer c h
      cases answer with
      | error code =>
        intro _ _
        exact h
      | ok done =>
        exact ⟨rfl, h⟩

theorem submit_books (buffer : CommandBuffer) {signal : Option (Handle .semaphore)}
    {slot : Option (Handle .fence)} (hsignal : ∀ o ∈ part signal, o ∈ frame)
    (h : c.Books (part slot + frame) spared) :
    (submit ctx buffer signal).Keeps census
      (fun _ slot' c' => c'.Books (part slot' + frame) spared)
      (fun _ slot' c' => c'.Books (part slot' + frame) spared) slot c := by
  have hdevice := Context.device_mem hctx
  rw [submit, Attempt.keeps_bind]
  apply (readyFence_books hctx h).mono
  · intro fence _ c hr
    obtain ⟨rfl, h⟩ := hr
    have huses : ∀ o ∈ (Call.submit ctx.graphicsQueue buffer signal fence).uses,
        o ∈ part (some fence) + frame := by
      intro o ho
      rcases Multiset.mem_add.mp ho with ho | ho
      · exact Multiset.mem_add.mpr (Or.inr (hsignal o ho))
      · exact Multiset.mem_add.mpr (Or.inl ho)
    rw [Attempt.keeps_bind, Attempt.keeps_step]
    apply Program.Keeps.mono
      (ask_books (.submit ctx.graphicsQueue buffer signal fence) trivial h huses)
    intro answer c h
    cases answer with
    | error code =>
      simp only [Attempt.keeps_bind, Attempt.keeps_step, Attempt.keeps_update]
      apply Program.Keeps.mono (destroyOn_books ctx.device (some fence) rfl h hdevice)
      intro _ c h
      apply callFailure_keeps
      intro _ _
      rw [Attempt.keeps_fail, part_none, zero_add]
      exact h
    | ok done =>
      exact h
  · intro _ _ _ h
    exact h

omit hctx in
/-- While there is work on one fence, all else that is live stands by. -/
theorem oneFence_books {fences : List (Option (Handle .fence))} {others : Multiset Object}
    {put : List (Option (Handle .fence)) → Swapchain} {index : Nat} {slot : Option (Handle .fence)}
    {t : Attempt interface (Option (Handle .fence)) Unit}
    (hput : ∀ fences, (put fences).objects + frame = parts fences + others)
    (hslot : fences[index]? = some slot)
    (ht : ∀ rest c, others ≤ rest → c.Books (part slot + rest) spared →
      t.Keeps census (fun _ slot' c' => c'.Books (part slot' + rest) spared)
        (fun _ slot' c' => c'.Books (part slot' + rest) spared) slot c)
    (h : c.Books ((put fences).objects + frame) spared) :
    t.Keeps census
      (fun _ slot' c' => c'.Books ((put (fences.set index slot')).objects + frame) spared)
      (fun _ slot' c' => c'.Books ((put (fences.set index slot')).objects + frame) spared)
      slot c := by
  obtain ⟨rest, hbefore, hafter⟩ := parts_set hslot
  have hothers : others ≤ rest + others := Multiset.le_add_left _ _
  have hbooks : ∀ slot' (c' : Census), c'.Books (part slot' + (rest + others)) spared →
      c'.Books ((put (fences.set index slot')).objects + frame) spared := by
    intro slot' c' h'
    rw [hput, hafter, add_assoc]
    exact h'
  rw [hput, hbefore, add_assoc] at h
  exact (ht (rest + others) c hothers h).mono (fun _ => hbooks) (fun _ => hbooks)

omit hctx in
theorem onGeneralFence_books {index : Nat} {t : Attempt interface (Option (Handle .fence)) Unit}
    (ht : ∀ slot rest c, frame ≤ rest → c.Books (part slot + rest) spared →
      t.Keeps census (fun _ slot' c' => c'.Books (part slot' + rest) spared)
        (fun _ slot' c' => c'.Books (part slot' + rest) spared) slot c)
    (h : c.Books (sc.objects + frame) spared) :
    (onGeneralFence index t).Keeps census (fun _ sc' c' => c'.Books (sc'.objects + frame) spared)
      (fun _ sc' c' => c'.Books (sc'.objects + frame) spared) sc c := by
  have hput : ∀ fences, Swapchain.objects { sc with generalFences := fences } + frame =
      parts fences + ({sc.handle.object} + parts (sc.textures.map fun t => some t.view) +
        part sc.acquireFence + parts sc.presentFences + parts (sc.presentSemaphores.map some) +
        part sc.pool + frame) := by
    intro fences
    simp only [objects]
    abel
  apply onGeneralFence_keeps trivial
  intro slot hslot
  apply oneFence_books hput hslot _ h
  intro rest c hrest h
  exact ht slot rest c ((Multiset.le_add_left _ _).trans hrest) h

omit hctx in
/-- The semaphores stay with the swapchain. -/
theorem onPresentFence_books {index : Nat} {t : Attempt interface (Option (Handle .fence)) Unit}
    (ht : ∀ slot rest c, parts (sc.presentSemaphores.map some) + frame ≤ rest →
      c.Books (part slot + rest) spared →
      t.Keeps census (fun _ slot' c' => c'.Books (part slot' + rest) spared)
        (fun _ slot' c' => c'.Books (part slot' + rest) spared) slot c)
    (h : c.Books (sc.objects + frame) spared) :
    (onPresentFence index t).Keeps census
      (fun _ sc' c' => sc'.handle = sc.handle ∧ sc'.presentSemaphores = sc.presentSemaphores ∧
        c'.Books (sc'.objects + frame) spared)
      (fun _ sc' c' => c'.Books (sc'.objects + frame) spared) sc c := by
  have hput : ∀ fences, Swapchain.objects { sc with presentFences := fences } + frame =
      parts fences + ({sc.handle.object} + parts (sc.textures.map fun t => some t.view) +
        part sc.acquireFence + parts sc.generalFences + part sc.pool +
        (parts (sc.presentSemaphores.map some) + frame)) := by
    intro fences
    simp only [objects]
    abel
  apply onPresentFence_keeps trivial
  intro slot hslot
  have hone := oneFence_books hput hslot (fun rest c hrest h =>
    ht slot rest c ((Multiset.le_add_left _ _).trans hrest) h) h
  apply hone.mono
  · intro _ _ _ h'
    exact ⟨rfl, rfl, h'⟩
  · intro _ _ _ h'
    exact h'

theorem prepare_conserves {P : Swapchain → Prop} (index : Nat) :
    Conserves frame spared P (fun _ => True) (prepare ctx index) := by
  have huses : ∀ sc : Swapchain, ∀ o ∈ {ctx.device.object} + part sc.acquireFence,
      o ∈ sc.objects + frame := by
    intro sc o ho
    rcases Multiset.mem_add.mp ho with ho | ho
    · rw [Multiset.mem_singleton.mp ho]
      exact Multiset.mem_add.mpr (Or.inr (Context.device_mem hctx))
    · exact Multiset.mem_add.mpr (Or.inl (acquireFence_mem ho))
  apply Conserves.get
  intro sc _
  apply Conserves.bind
  · apply conserves_attempt
    intro sc c hr h
    obtain ⟨_, rfl⟩ := hr
    exact ask_books (.waitForFence ctx.device sc.acquireFence) trivial h (huses sc)
  intro _
  apply Conserves.bind
  · apply conserves_attempt
    intro sc c hr h
    obtain ⟨_, rfl⟩ := hr
    exact ask_books (.resetFence ctx.device sc.acquireFence) trivial h (huses sc)
  intro _
  split
  · apply (conserves_fetch sc.toGeneral index).bind
    intro buffer sc c _ h
    apply (onGeneralFence_books _ h).mono
    · intro _ _ _ h'
      exact ⟨trivial, h'⟩
    · intro _ _ _ h'
      exact h'
    intro slot rest c hrest h
    exact submit_books (hctx.trans hrest) buffer (by simp) h
  · exact conserves_refuse _ _

theorem take_conserves {P : Swapchain → Prop} (index : Nat) :
    Conserves frame spared P (fun _ => True) (take ctx index) := by
  intro sc c hP h
  apply Program.Keeps.andThen (prepare_conserves hctx index sc c hP h)
  rintro ⟨e | ⟨⟩, sc'⟩ c' h'
  · exact h'
  · exact h'

theorem acquire_conserves :
    Conserves frame spared (fun _ => True) (fun _ => True) (acquire ctx) := by
  have huses : ∀ sc : Swapchain,
      ∀ o ∈ {ctx.device.object} + {sc.handle.object} + part sc.acquireFence,
        o ∈ sc.objects + frame := by
    intro sc o ho
    rcases Multiset.mem_add.mp ho with ho | ho
    · rcases Multiset.mem_add.mp ho with ho | ho
      · rw [Multiset.mem_singleton.mp ho]
        exact Multiset.mem_add.mpr (Or.inr (Context.device_mem hctx))
      · rw [Multiset.mem_singleton.mp ho]
        exact Multiset.mem_add.mpr (Or.inl (handle_mem sc))
    · exact Multiset.mem_add.mpr (Or.inl (acquireFence_mem ho))
  apply Conserves.get
  intro sc _
  split
  · apply (conserves_notice .mustRecreate).bind
    intro _ sc c _ h
    exact h
  · apply Conserves.bind
    · apply conserves_attempt
      intro sc c hr h
      obtain ⟨_, rfl⟩ := hr
      exact ask_books (.acquire ctx.device sc.handle sc.acquireFence) trivial h (huses sc)
    intro image
    dsimp only
    split
    · apply (conserves_notice (.suboptimalAcquire image.index)).bind
      intro _
      exact take_conserves hctx image.index
    · exact take_conserves hctx image.index

omit hctx in
theorem conclude_conserves {P : Swapchain → Prop} (index : Nat) (result : Except Code Bool) :
    Conserves frame spared P (fun _ => True) (conclude index result) := by
  have hdrop : Conserves frame spared P (fun _ => True)
      (.update fun sc => { sc with held := none }) :=
    conserves_update fun _ _ => ⟨trivial, rfl⟩
  cases result with
  | ok suboptimal =>
    apply hdrop.bind
    intro _
    split
    · exact conserves_notice _
    · exact conserves_succeed
  | error code =>
    have hfail : Conserves frame spared (fun _ => True) (fun _ => True)
        (.fail .outOfDateSurface : Build Unit) := by
      intro sc c _ h
      exact h
    apply hdrop.bind
    intro _
    dsimp only
    split
    · apply Conserves.bind (Q := fun _ => True)
      · exact conserves_update fun _ _ => ⟨trivial, rfl⟩
      intro _
      apply (conserves_notice (.presentFailed code)).bind
      intro _
      exact hfail
    · exact hfail

theorem present_conserves (index : Nat) :
    Conserves frame spared (fun _ => True) (fun _ => True) (present ctx index) := by
  intro sc c _ h
  rw [present, Attempt.keeps_bind, Attempt.keeps_get]
  split
  · rw [Attempt.keeps_bind, Attempt.keeps_step]
    exact refuse_keeps _ _ h
  · rw [Attempt.keeps_bind, Attempt.keeps_step]
    apply Program.keeps_fetch _ (fun _ => trivial)
    intro semaphore hsemaphore
    have hmem : semaphore ∈ sc.presentSemaphores := List.mem_of_getElem? hsemaphore
    rw [Attempt.keeps_bind, Attempt.keeps_step]
    apply Program.keeps_fetch _ (fun _ => trivial)
    intro buffer _
    rw [Attempt.keeps_bind]
    apply (onPresentFence_books _ h).mono
    · intro heq sc' c' hr
      cases heq
      obtain ⟨hhandle, hsemaphores, h'⟩ := hr
      have hlive : semaphore.object ∈ sc'.objects := presentSemaphore_mem (hsemaphores ▸ hmem)
      have huses : ∀ o ∈ (Call.present ctx.presentQueue semaphore sc.handle index).uses,
          o ∈ sc'.objects + frame := by
        simp [Call.uses, hlive, ← hhandle, handle_mem]
      rw [Attempt.keeps_bind, Attempt.keeps_step]
      apply Program.Keeps.mono
        (ask_books (.present ctx.presentQueue semaphore sc.handle index) trivial h' huses)
      intro result c'' h''
      exact conclude_conserves (P := fun _ => True) index result sc' c'' trivial h''
    · intro _ _ _ h'
      exact h'
    · intro slot rest c hrest h
      have hin : part (some semaphore) ≤ parts (sc.presentSemaphores.map some) := by
        apply part_le_parts
        exact List.mem_map_of_mem hmem
      have hsignal : part (some semaphore) ≤ rest :=
        (hin.trans (Multiset.le_add_right _ _)).trans hrest
      have hmore : ctx.objects ≤ rest := (hctx.trans (Multiset.le_add_left _ _)).trans hrest
      apply submit_books hmore buffer _ h
      intro o ho
      exact Multiset.mem_of_le hsignal ho

end

end Swapchain

end Presentation.Vulkan
