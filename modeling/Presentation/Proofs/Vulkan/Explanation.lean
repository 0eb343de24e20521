import Presentation.Proofs.Mark
import Presentation.Vulkan.Swapchain

/-!
# Explaining why there is no swapchain

A swapchain is made in many steps, and each can fail in its own way. But for its
first call and its last each failure is that of a call, reported by its name, so
whatever accounts for such failures accounts for all of them.
-/

set_option autoImplicit false

namespace Presentation.Vulkan

namespace Notice

/-- How a text begins. -/
def Begins (first second : Char) (text : String) : Prop := text.toList.take 2 = [first, second]

instance (first second : Char) (text : String) : Decidable (Begins first second text) :=
  inferInstanceAs (Decidable (_ = _))

end Notice

open Notice (Begins)

def Call.Presents : Call → Prop
  | .present .. => True
  | _ => False

/-- Marks that no call gets but a presentation, and accounts that are given of the failures of
calls. -/
structure Fair (mark : Event interface → Bool) (account : Error → List (Event interface) → Prop) :
    Prop where
  asked : ∀ c, ¬ c.Presents → ∀ a, mark (.asked c a) = false
  created : ∀ extent format space mode images hint,
    mark (.noted (Notice.swapchainCreated extent format space mode images hint).entry) = false
  failed : ∀ function, Begins 'v' 'k' function → ∀ code,
    (callFailure function code : Program Error).Marks mark account []
  empty : (refuse .backendError .noImages : Program Error).Marks mark account []

variable {σ α : Type} {mark : Event interface → Bool}
  {account : Error → List (Event interface) → Prop}

theorem ask_silent (h : Fair mark account) (c : Call) (hc : ¬ c.Presents) :
    (ask c).Silent mark := Program.silent_call (I := interface) (h.asked c hc)

theorem attempt_explains (h : Fair mark account) {function : String}
    {p : Program (Except Code α)} (hp : p.Silent mark) (hname : Begins 'v' 'k' function) :
    (attempt function p : Attempt interface σ α).Explains mark account :=
  Attempt.explains_expectOr hp (h.failed function hname)

namespace Swapchain

theorem addTexture_explains (h : Fair mark account) (ctx : Context) (format : FormatCode)
    (desc : SwapchainDesc) (image : Image) :
    (addTexture ctx format desc image).Explains mark account := by
  apply Attempt.Explains.andThen
  · exact attempt_explains h (ask_silent h _ id) (by decide)
  intro view
  exact Attempt.explains_update _

theorem addTextures_explains (h : Fair mark account) (ctx : Context) (format : FormatCode)
    (desc : SwapchainDesc) : (addTextures ctx format desc).Explains mark account := by
  apply Attempt.explains_get.andThen
  intro sc
  apply Attempt.Explains.andThen
  · exact attempt_explains h (ask_silent h _ id) (by decide)
  intro images
  exact Attempt.explains_forEach (addTexture_explains h ctx format desc) images

theorem newFence_explains (h : Fair mark account) (ctx : Context) (signaled : Bool) :
    (newFence ctx signaled : Attempt interface σ _).Explains mark account :=
  attempt_explains h (ask_silent h _ id) (by decide)

theorem addImageSync_explains (h : Fair mark account) (ctx : Context) :
    (addImageSync ctx).Explains mark account := by
  apply (newFence_explains h ctx true).andThen
  intro fence
  apply (Attempt.explains_update _).andThen
  intro _
  apply (newFence_explains h ctx true).andThen
  intro fence
  apply (Attempt.explains_update _).andThen
  intro _
  apply Attempt.Explains.andThen
  · exact attempt_explains h (ask_silent h _ id) (by decide)
  intro semaphore
  exact Attempt.explains_update _

theorem addSync_explains (h : Fair mark account) (ctx : Context) :
    (addSync ctx).Explains mark account := by
  apply (newFence_explains h ctx false).andThen
  intro fence
  apply (Attempt.explains_update _).andThen
  intro _
  apply Attempt.explains_get.andThen
  intro sc
  exact Attempt.explains_times (addImageSync_explains h ctx) _

theorem record_explains (h : Fair mark account) (buffer : CommandBuffer) (image : Image)
    (transition : Transition) : (record buffer image transition).Explains mark account := by
  apply Attempt.Explains.andThen
  · exact attempt_explains h (ask_silent h _ id) (by decide)
  intro _
  apply (Attempt.explains_aside (ask_silent h _ id)).andThen
  intro _
  exact attempt_explains h (ask_silent h _ id) (by decide)

theorem recordImage_explains (h : Fair mark account) (image : Image × Nat) :
    (recordImage image).Explains mark account := by
  apply Attempt.explains_get.andThen
  intro sc
  apply (Attempt.explains_step (Program.marks_fetch _ _)).andThen
  intro buffer
  apply (record_explains h _ _ _).andThen
  intro _
  apply (Attempt.explains_step (Program.marks_fetch _ _)).andThen
  intro buffer
  exact record_explains h _ _ _

theorem addCommands_explains (h : Fair mark account) (ctx : Context) :
    (addCommands ctx).Explains mark account := by
  apply Attempt.Explains.andThen
  · exact attempt_explains h (ask_silent h _ id) (by decide)
  intro pool
  apply (Attempt.explains_update _).andThen
  intro _
  apply Attempt.explains_get.andThen
  intro sc
  apply Attempt.Explains.andThen
  · exact attempt_explains h (ask_silent h _ id) (by decide)
  intro buffers
  apply (Attempt.explains_update _).andThen
  intro _
  apply Attempt.Explains.andThen
  · exact attempt_explains h (ask_silent h _ id) (by decide)
  intro buffers
  apply (Attempt.explains_update _).andThen
  intro _
  exact Attempt.explains_forEach (recordImage_explains h) _

theorem build_explains (h : Fair mark account) (ctx : Context) (terms : Terms)
    (desc : SwapchainDesc) : (build ctx terms desc).Explains mark account := by
  have hrest : ∀ sc : Swapchain, (do
      addSync ctx
      addCommands ctx
      Attempt.step (notice (.swapchainCreated terms.extent terms.format terms.colorSpace
        terms.mode sc.textures.length desc.imageCount)) : Build Unit).Explains mark account :=
    fun sc => (addSync_explains h ctx).andThen fun _ => (addCommands_explains h ctx).andThen
      fun _ => Attempt.explains_aside (Program.silent_log (h.created _ _ _ _ _ _))
  apply (addTextures_explains h ctx terms.format desc).andThen
  intro _
  apply Attempt.explains_get.andThen
  intro sc
  split
  · exact Attempt.explains_step_andThen h.empty fun _ _ htold _ => htold
  · exact hrest sc

theorem release_silent (h : Fair mark account) (ctx : Context) (sc : Swapchain) :
    (sc.release ctx).Silent mark := by
  have hdestroy : ∀ {kind : Kind} (handle : Option (Handle kind)),
      (destroyOn ctx.device handle).Silent mark := fun _ => ask_silent h _ id
  apply (ask_silent h _ id).bind
  intro _
  apply (hdestroy _).bind
  intro _
  apply (Program.silent_forM _ fun fence => hdestroy fence).bind
  intro _
  apply (Program.silent_forM _ fun semaphore => hdestroy (some semaphore)).bind
  intro _
  apply (hdestroy _).bind
  intro _
  apply Program.Silent.bind
  · exact Program.silent_forM _ fun texture => hdestroy (some texture.view)
  intro _
  exact hdestroy _

/-- What follows a negotiation that came to terms. -/
def make (ctx : Context) (desc : SwapchainDesc) (terms : Terms) (request : SwapchainRequest) :
    Program (Except Error Swapchain) := do
  match ← ask (.create (.swapchain ctx.device request)) with
  | .error code => return .error (← callFailure "vkCreateSwapchainKHR" code)
  | .ok handle =>
    match ← build ctx terms desc (bare handle terms.extent) with
    | (.ok (), sc) => return .ok sc
    | (.error e, sc) =>
      sc.release ctx
      return .error e

theorem create_eq (ctx : Context) (surface : Handle .surface) (desc : SwapchainDesc)
    (old : Option (Handle .swapchain)) :
    create ctx surface desc old = Terms.negotiate ctx surface desc () >>= fun
      | (.error e, _) => pure (.error e)
      | (.ok terms, _) => make ctx desc terms (terms.request ctx surface desc old) := by
  unfold create
  congr 1
  funext settled
  obtain ⟨e | terms, ⟨⟩⟩ := settled
  · rfl
  · simp only [make]
    congr 1
    funext answer
    cases answer with
    | error code => rfl
    | ok handle => rfl

theorem make_explains (h : Fair mark account) (ctx : Context) (desc : SwapchainDesc)
    (terms : Terms) (request : SwapchainRequest) :
    (make ctx desc terms request).Marks mark (fun r => Explained account (failure? r)) [] := by
  apply (ask_silent h _ id).andThen
  rintro (code | handle)
  · apply (h.failed _ (by decide) code).andThen
    exact fun _ _ htold => htold
  · apply (build_explains h ctx terms desc _).andThen
    rintro ⟨e | ⟨⟨⟩⟩, sc⟩ told htold
    · exact (release_silent h ctx sc).andThen fun _ => htold
    · exact htold

end Swapchain

end Presentation.Vulkan
