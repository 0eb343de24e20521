import Presentation.Proofs.Vulkan.Completion

/-!
# What a swapchain was supplied with

A swapchain has got its handle and its command buffers from the driver. Creating
and releasing one is no work on its images, and one that was created is complete,
if the driver allocates as many buffers as it is asked for.
-/

set_option autoImplicit false

namespace Presentation.Vulkan

/-- Calls by which images are taken, made ready and shown. -/
def Call.works : Call → Bool
  | .acquire .. | .waitForFence .. | .resetFence .. | .submit .. | .present .. => true
  | _ => false

def Works : Event interface → Bool
  | .asked c _ => c.works
  | .noted _ => false

/-- The events of work on images. -/
def work (events : List (Event interface)) : List (Event interface) := events.filter Works

/-- A swapchain with a handle was created. -/
def Creates (events : List (Event interface)) (handle : Handle .swapchain) : Prop :=
  ∃ device request, .asked (.create (.swapchain device request)) (.ok handle) ∈ events

/-- A command buffer was allocated. -/
def Allots (events : List (Event interface)) (buffer : CommandBuffer) : Prop :=
  ∃ device pool count buffers,
    .asked (.allocate device pool count) (.ok buffers) ∈ events ∧ buffer ∈ buffers

/-- As many command buffers are allocated as were asked for. -/
def Call.Full : (c : Call) → c.Answer → Prop
  | .allocate _ _ count, .ok buffers => buffers.length = count
  | _, _ => True

/-- Remembers what was called. A program may halt if allocations can fall short. -/
def supply (full : Prop) : Watch interface (List (Event interface)) :=
  .tape (fun _ _ => True) (fun c a => full → c.Full a) (¬ full)

/-- Later, when some steps of work on images were taken. -/
structure Takes (es steps es' : List (Event interface)) : Prop where
  later : es <+: es'
  work : work es' = work es ++ steps

variable {α : Type} {full : Prop} {c : Call} {calls : Call → Prop} {handle : Handle .swapchain}
  {buffer : CommandBuffer} {es es' es'' steps steps' : List (Event interface)}

instance : (supply full).Deaf := inferInstanceAs (Watch.tape _ _ _).Deaf

theorem work_append (es more : List (Event interface)) :
    work (es ++ more) = work es ++ work more := List.filter_append es more

theorem Creates.mono (h : Creates es handle) (hes : es ⊆ es') : Creates es' handle := by
  obtain ⟨device, request, hmem⟩ := h
  exact ⟨device, request, hes hmem⟩

theorem Allots.mono (h : Allots es buffer) (hes : es ⊆ es') : Allots es' buffer := by
  obtain ⟨device, pool, count, buffers, hmem, hbuffer⟩ := h
  exact ⟨device, pool, count, buffers, hes hmem, hbuffer⟩

theorem Call.Inquires.not_works (h : c.Inquires) : c.works = false := by
  cases c with
  | capabilities => rfl
  | surfaceFormats => rfl
  | presentModes => rfl
  | _ => exact h.elim

theorem Call.Builds.not_works (h : c.Builds handle) : c.works = false := by
  cases c with
  | acquire => exact h.elim
  | waitForFence => exact h.elim
  | resetFence => exact h.elim
  | submit => exact h.elim
  | present => exact h.elim
  | _ => rfl

theorem Call.Releases.not_works {device : Handle .device} {sc : Swapchain}
    (h : c.Releases device sc) : c.works = false := by
  cases c with
  | acquire => exact h.elim
  | waitForFence => exact h.elim
  | resetFence => exact h.elim
  | submit => exact h.elim
  | present => exact h.elim
  | _ => rfl

namespace Takes

theorem refl (es : List (Event interface)) : Takes es [] es :=
  ⟨List.prefix_rfl, (List.append_nil _).symm⟩

theorem trans (h : Takes es steps es') (h' : Takes es' steps' es'') :
    Takes es (steps ++ steps') es'' where
  later := h.later.trans h'.later
  work := by rw [h'.work, h.work, List.append_assoc]

/-- A call that is no work on an image. -/
theorem asked (h : Takes es steps es') (hc : c.works = false) (a : c.Answer) :
    Takes es steps (es' ++ [.asked c a]) where
  later := h.later.trans (List.prefix_append es' _)
  work := by
    rw [work_append, h.work]
    simp [Vulkan.work, Works, hc]

/-- A step. -/
theorem worked (h : Takes es steps es') (hc : c.works = true) (a : c.Answer) :
    Takes es (steps ++ [.asked c a]) (es' ++ [.asked c a]) where
  later := h.later.trans (List.prefix_append es' _)
  work := by
    rw [work_append, h.work]
    simp [Vulkan.work, Works, hc]

end Takes

theorem takes_bears (es : List (Event interface)) (hcalls : ∀ c, calls c → c.works = false) :
    (supply full).Bears calls (Takes es steps) :=
  fun c _ hc h => ⟨trivial, fun a _ => h.asked (hcalls c hc) a⟩

/-- A call that is no work, and what is known after it. -/
theorem ask_takes (c : Call) {post : c.Answer → List (Event interface) → Prop}
    (hc : c.works = false) (h : Takes es steps es')
    (hpost : ∀ a es'', (full → c.Full a) → Takes es steps es'' → es' <+: es'' →
      .asked c a ∈ es'' → post a es'') : (ask c).Keeps (supply full) post es' := by
  apply ask_keeps c trivial
  intro a ha
  have hmem : .asked c a ∈ es' ++ [.asked c a] :=
    List.mem_append_right _ (List.mem_singleton_self _)
  exact hpost a _ ha (h.asked hc a) (List.prefix_append es' _) hmem

/-- Lists are read inside their bounds, if allocations never fall short. -/
theorem fetch_takes {xs : List α} {index : Nat} {post : α → List (Event interface) → Prop}
    (hbounds : full → index < xs.length) (h : ∀ x, xs[index]? = some x → post x es) :
    (Program.fetch xs index : Program α).Keeps (supply full) post es := by
  apply Program.keeps_fetch h
  intro hnone hfull
  exact absurd (hbounds hfull) (Nat.not_lt.mpr (List.getElem?_eq_none_iff.mp hnone))

namespace Swapchain

/-- A swapchain and its command buffers were made among some events. -/
structure Supplied (es : List (Event interface)) (sc : Swapchain) : Prop where
  creates : Creates es sc.handle
  allots : ∀ buffer ∈ sc.buffers, Allots es buffer

variable {sc sc' : Swapchain}

theorem Supplied.mono (h : sc.Supplied es) (hes : es ⊆ es') : sc.Supplied es' :=
  ⟨h.creates.mono hes, fun buffer hb => (h.allots buffer hb).mono hes⟩

theorem recordImage_takes (image : Image × Nat)
    (hbounds : full → image.2 < sc.toGeneral.length ∧ image.2 < sc.toPresent.length)
    (h : Takes es steps es') :
    (recordImage image).Keeps (supply full) (fun _ sc' es'' => sc' = sc ∧ Takes es steps es'')
      (fun _ sc' es'' => sc' = sc ∧ Takes es steps es'') sc es' := by
  have hbears : (supply full).Bears Call.Records (Takes es steps) :=
    takes_bears es fun c hc => (hc.builds sc.handle).not_works
  have hrecord : ∀ buffer transition es', Takes es steps es' →
      (record buffer image.1 transition).Keeps (supply full)
        (fun _ sc' es'' => sc' = sc ∧ Takes es steps es'')
        (fun _ sc' es'' => sc' = sc ∧ Takes es steps es'') sc es' :=
    fun buffer transition es' h =>
      attempt_strictly_bears hbears (record_strictly buffer image.1 transition) h
  rw [recordImage, Attempt.keeps_bind, Attempt.keeps_get, Attempt.keeps_bind, Attempt.keeps_step]
  apply fetch_takes fun hfull => (hbounds hfull).1
  intro general _
  rw [Attempt.keeps_bind]
  apply (hrecord general .toGeneral es' h).mono _ (fun _ _ _ h => h)
  rintro _ sc es' ⟨rfl, h⟩
  rw [Attempt.keeps_bind, Attempt.keeps_step]
  apply fetch_takes fun hfull => (hbounds hfull).2
  intro present _
  exact hrecord present .toPresent es' h

theorem addCommands_takes (ctx : Context) (h : sc.Rough handle sc.textures.length)
    (htextures : sc.textures ≠ []) (hes : Takes es [] es') :
    (addCommands ctx).Keeps (supply full)
      (fun _ sc' es'' => Takes es [] es'' ∧ sc'.Fresh handle ∧ (full → sc'.Complete) ∧
        ∀ buffer ∈ sc'.buffers, Allots es'' buffer)
      (fun _ sc' es'' => Takes es [] es'' ∧ sc'.Fresh handle) sc es' := by
  rw [addCommands, Attempt.keeps_bind]
  apply attempt_keeps
  apply ask_takes (.create (.pool ctx.device ctx.graphicsFamily)) rfl hes
  rintro (code | pool) es' - hes - -
  · exact fun _ _ => ⟨hes, h.fresh⟩
  simp only [Attempt.keeps_bind, Attempt.keeps_update, Attempt.keeps_get]
  apply attempt_keeps
  apply ask_takes (.allocate ctx.device pool sc.textures.length) rfl hes
  rintro (code | general) es' hgeneral hes - hmem
  · exact fun _ _ => ⟨hes, h.fresh⟩
  have hallots : ∀ buffer ∈ general, Allots es' buffer :=
    fun buffer hb => ⟨_, _, _, _, hmem, hb⟩
  apply attempt_keeps
  apply ask_takes (.allocate ctx.device pool sc.textures.length) rfl hes
  rintro (code | present) es'' hpresent hes hlater hmem
  · exact fun _ _ => ⟨hes, h.fresh⟩
  have hallots' : ∀ buffer ∈ general ++ present, Allots es'' buffer := by
    intro buffer hb
    rcases List.mem_append.mp hb with hb | hb
    · exact (hallots buffer hb).mono hlater.subset
    · exact ⟨_, _, _, _, hmem, hb⟩
  have hcomplete : full → Complete { sc with pool, toGeneral := general, toPresent := present } :=
    fun hfull => ⟨htextures, hgeneral hfull, hpresent hfull, h.generalFences, h.presentFences,
      h.presentSemaphores, by simp [h.fresh.2.1]⟩
  -- recording reads both lists at the places that the images have
  have hrecord : ∀ image ∈ (sc.textures.map (·.image)).zipIdx,
      full → image.2 < general.length ∧ image.2 < present.length := by
    intro image himage hfull
    have hplace : image.2 < sc.textures.length := by
      simpa using List.snd_lt_of_mem_zipIdx himage
    have hgeneral : general.length = sc.textures.length := hgeneral hfull
    have hpresent : present.length = sc.textures.length := hpresent hfull
    omega
  apply Attempt.Keeps.mono (Attempt.keeps_forEach
    (P := fun sc' es₃ => sc' = { sc with pool, toGeneral := general, toPresent := present } ∧
      Takes es'' [] es₃) _ ?_ ⟨rfl, Takes.refl es''⟩)
  · rintro _ _ es₃ ⟨rfl, hes'⟩
    refine ⟨hes.trans hes', h.fresh, hcomplete, ?_⟩
    exact fun buffer hb => (hallots' buffer hb).mono hes'.later.subset
  · rintro _ _ es₃ ⟨rfl, hes'⟩
    exact ⟨hes.trans hes', h.fresh⟩
  · rintro image himage _ es₃ ⟨rfl, hes'⟩
    exact recordImage_takes image (hrecord image himage) hes'

/-- A swapchain that was made, with none of its images handed out. -/
structure Pristine (full : Prop) (es : List (Event interface)) (sc : Swapchain) : Prop where
  fresh : sc.Fresh sc.handle
  supplied : sc.Supplied es
  complete : full → sc.Complete

theorem build_takes (ctx : Context) (terms : Terms) (desc : SwapchainDesc)
    (h : sc.Rough handle 0) (hcreates : Creates es handle) :
    (build ctx terms desc).Keeps (supply full)
      (fun _ sc' es' => Takes es [] es' ∧ sc'.Pristine full es') (fun _ _ es' => Takes es [] es')
      sc es := by
  have hbears : (supply full).Bears (Call.Builds handle) (Takes es []) :=
    takes_bears es fun _ hc => hc.not_works
  rw [build, Attempt.keeps_bind]
  apply (attempt_strictly_bears hbears (addTextures_strictly ctx terms.format desc h)
    (Takes.refl es)).mono _ (fun _ _ _ h => h.2)
  rintro _ sc es' ⟨h, hes⟩
  simp only [Attempt.keeps_bind, Attempt.keeps_get]
  split
  · simp only [Attempt.keeps_bind, Attempt.keeps_step]
    exact refuse_keeps _ _ hes
  · rename_i hne
    rw [List.isEmpty_iff] at hne
    simp only [Attempt.keeps_bind]
    apply (attempt_strictly_bears hbears (addSync_strictly ctx h) hes).mono _ (fun _ _ _ h => h.2)
    rintro _ sc' es' ⟨⟨h, htextures⟩, hes⟩
    rw [← htextures] at h hne
    apply (addCommands_takes ctx h hne hes).mono _ (fun _ _ _ h => h.1)
    rintro _ sc'' es'' ⟨hes, ⟨rfl, hfresh⟩, hcomplete, hallots⟩
    simp only [Attempt.keeps_step, notice, Program.keeps_log]
    exact ⟨hes, ⟨rfl, hfresh⟩, ⟨hcreates.mono hes.later.subset, hallots⟩, hcomplete⟩

theorem release_takes (ctx : Context) (sc : Swapchain) (h : Takes es steps es') :
    (sc.release ctx).Keeps (supply full) (fun _ => Takes es steps) es' := by
  have hbears : (supply full).Bears (Call.Releases ctx.device sc) (Takes es steps) :=
    takes_bears es fun _ hc => hc.not_works
  exact (strictly_bears hbears (release_strictly ctx sc) h).mono fun _ _ h => h.2

theorem create_takes (ctx : Context) (surface : Handle .surface) (desc : SwapchainDesc)
    (old : Option (Handle .swapchain)) :
    (create ctx surface desc old).Keeps (supply full)
      (Either (fun sc es' => Takes es [] es' ∧ sc.Pristine full es') (Takes es [])) es := by
  apply create_phases (P := Takes es [])
    (Q := fun handle es' => Takes es [] es' ∧ Creates es' handle) (R := fun _ => Takes es [])
    ctx surface desc
  · have hbears : (supply full).Bears Call.Inquires (Takes es []) :=
      takes_bears es fun _ hc => hc.not_works
    apply (attempt_strictly_bears hbears (Terms.negotiate_strictly ctx surface desc)
      (Takes.refl es)).mono
    · exact fun _ _ _ h => h.2
    · exact fun _ _ _ h => h.2
  · intro terms es' hes
    apply ask_takes (.create (.swapchain ctx.device _)) rfl hes
    rintro (code | handle) es'' - hes - hmem
    · exact hes
    · exact ⟨hes, _, _, hmem⟩
  · rintro terms handle es' ⟨hes, hcreates⟩
    apply (build_takes ctx terms desc (rough_bare handle terms.extent) hcreates).mono
    · rintro _ sc es'' ⟨hes', hnew⟩
      exact ⟨hes.trans hes', hnew⟩
    · intro _ sc es'' hes'
      exact hes.trans hes'
  · intro sc es' hes
    exact release_takes ctx sc hes

end Swapchain

end Presentation.Vulkan
