import Presentation.Proofs.Vulkan.Aside

/-!
# Complete swapchains

A complete swapchain has for each of its images all that acquiring and presenting
it need. It is built up in stages, of which only the last, the recording of
commands, reads a list by position. The stages before it are gathered here, with
what they leave of the swapchain.
-/

set_option autoImplicit false

namespace Presentation.Vulkan

variable {σ : Type} {calls : Call → Prop}

namespace Swapchain

/-- Each image has two command buffers, two fences and a semaphore, and the image that is held is
one of them. -/
structure Complete (sc : Swapchain) : Prop where
  textures : sc.textures ≠ []
  toGeneral : sc.toGeneral.length = sc.textures.length
  toPresent : sc.toPresent.length = sc.textures.length
  generalFences : sc.generalFences.length = sc.textures.length
  presentFences : sc.presentFences.length = sc.textures.length
  presentSemaphores : sc.presentSemaphores.length = sc.textures.length
  held : ∀ index, sc.held = some index → index < sc.textures.length

/-- A swapchain that is being built, with fences and semaphores for some of its images and no
buffers yet. -/
structure Rough (handle : Handle .swapchain) (count : Nat) (sc : Swapchain) : Prop where
  fresh : sc.Fresh handle
  toGeneral : sc.toGeneral = []
  toPresent : sc.toPresent = []
  generalFences : sc.generalFences.length = count
  presentFences : sc.presentFences.length = count
  presentSemaphores : sc.presentSemaphores.length = count

variable {handle : Handle .swapchain} {sc : Swapchain} {textures : List SwapchainTexture}

theorem rough_bare (handle : Handle .swapchain) (extent : Extent) :
    (bare handle extent).Rough handle 0 :=
  ⟨bare_fresh handle extent, rfl, rfl, rfl, rfl, rfl⟩

theorem addTextures_strictly (ctx : Context) (format : FormatCode) (desc : SwapchainDesc)
    (h : sc.Rough handle 0) :
    (addTextures ctx format desc).Keeps (strictly (Call.Builds handle))
      (fun _ sc _ => sc.Rough handle 0) (fun _ sc _ => sc.Rough handle 0) sc () := by
  rw [addTextures, Attempt.keeps_bind, Attempt.keeps_get, Attempt.keeps_bind]
  apply attempt_beside (fun _ => h) (ask_beside _ h.fresh.1)
  intro images
  apply Attempt.keeps_forEach (P := fun (sc : Swapchain) (_ : Unit) => sc.Rough handle 0) images _ h
  intro image _ sc _ h
  rw [addTexture, Attempt.keeps_bind]
  apply attempt_beside (fun _ => h) (ask_beside _ trivial)
  intro view
  exact ⟨h.fresh, h.toGeneral, h.toPresent, h.generalFences, h.presentFences,
    h.presentSemaphores⟩

theorem newFence_strictly (ctx : Context) (signaled : Bool) {s : σ}
    (hcalls : calls (.create (.fence ctx.device signaled))) :
    (newFence ctx signaled).Keeps (strictly calls) (fun _ s' _ => s' = s) (fun _ s' _ => s' = s)
      s () := by
  apply attempt_beside (by intro _; rfl) (ask_beside _ hcalls)
  intro _
  rfl

theorem addImageSync_strictly (ctx : Context) {count : Nat} (h : sc.Rough handle count) :
    (addImageSync ctx).Keeps (strictly (Call.Builds handle))
      (fun _ sc' _ => sc'.Rough handle (count + 1) ∧ sc'.textures = sc.textures)
      (fun _ sc' _ => sc'.Fresh handle) sc () := by
  rw [addImageSync, Attempt.keeps_bind]
  apply (newFence_strictly ctx true trivial).mono _ (fun _ _ _ hs => hs ▸ h.fresh)
  rintro general _ _ rfl
  rw [Attempt.keeps_bind, Attempt.keeps_update, Attempt.keeps_bind]
  apply (newFence_strictly ctx true trivial).mono _ (fun _ _ _ hs => hs ▸ h.fresh)
  rintro present _ _ rfl
  rw [Attempt.keeps_bind, Attempt.keeps_update, Attempt.keeps_bind]
  apply attempt_beside (fun _ => h.fresh) (ask_beside _ trivial)
  intro semaphore
  refine ⟨⟨h.fresh, h.toGeneral, h.toPresent, ?_, ?_, ?_⟩, rfl⟩
  · exact List.length_append.trans (congrArg (· + 1) h.generalFences)
  · exact List.length_append.trans (congrArg (· + 1) h.presentFences)
  · exact List.length_append.trans (congrArg (· + 1) h.presentSemaphores)

/-- Afterwards there are as many of each as there are images. -/
theorem addSync_strictly (ctx : Context) (h : sc.Rough handle 0) :
    (addSync ctx).Keeps (strictly (Call.Builds handle))
      (fun _ sc' _ => sc'.Rough handle sc.textures.length ∧ sc'.textures = sc.textures)
      (fun _ sc' _ => sc'.Fresh handle) sc () := by
  rw [addSync, Attempt.keeps_bind]
  apply (newFence_strictly ctx false trivial).mono _ (fun _ _ _ hs => hs ▸ h.fresh)
  rintro fence sc _ rfl
  rw [Attempt.keeps_bind, Attempt.keeps_update, Attempt.keeps_bind, Attempt.keeps_get]
  apply Attempt.keeps_times_counted
    (P := fun count (sc' : Swapchain) (_ : Unit) =>
      sc'.Rough handle count ∧ sc'.textures = sc.textures)
  · rintro count sc' _ ⟨h, htextures⟩
    apply (addImageSync_strictly ctx h).mono _ (fun _ _ _ h => h)
    rintro _ sc'' _ ⟨h, hsame⟩
    exact ⟨h, hsame.trans htextures⟩
  · exact ⟨⟨h.fresh, h.toGeneral, h.toPresent, h.generalFences, h.presentFences,
      h.presentSemaphores⟩, rfl⟩

end Swapchain

end Presentation.Vulkan
