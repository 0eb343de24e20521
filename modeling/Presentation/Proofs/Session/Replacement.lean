import Presentation.Proofs.Session.Ownership
import Presentation.Proofs.Vulkan.Replacement

/-!
# Replacing a swapchain in a session

Whatever a session has gone through, a window surface of it that is configured
keeps its swapchain on failure, and has it replaced on success.
-/

set_option autoImplicit false

namespace Presentation.Session.Playback

open Vulkan (WindowSurface Swapchain live)

variable {σ : Type}

theorem configuration_keeps_or_replaces (answer : (c : Vulkan.Call) → σ → c.Answer × σ)
    (driver : σ) (host : Vulkan.Host) (window : Window) (config : DeviceConfig)
    (commands : List (String × Command)) (p : Playback)
    (hreached : ((session host window config commands).run answer driver).outcome = .ok p)
    (slot : String) (holding : Holding) (hget : p.slots.get? slot = some holding)
    (desc : SwapchainDesc) (result : Except Error Unit) (ws' : WindowSurface) :
    let reached := (session host window config commands).run answer driver
    let ws := holding.windowSurface
    let making := (Swapchain.create ws.context ws.surface desc ws.handle?).run answer reached.peer
    let run := (ws.configure desc).run answer reached.peer
    run.outcome = .ok (result, ws') →
      (∀ e, result = .error e → ws.Kept reached.events run.events ws') ∧
      (result = .ok () → ∃ sc ending, making.outcome = .ok (.ok sc) ∧
        run.events = making.events ++ ending ∧ ws' = { ws with swapchain := some sc } ∧
        ws.Replaced reached.events making.events ending sc) := by
  intro reached ws making run hend
  obtain ⟨-, hsettled, -⟩ := (session_settles host window config commands).run answer driver
    (fun _ _ _ _ => trivial)
  obtain ⟨hsound, hlive⟩ := hsettled p hreached
  have hobjects : live reached.events = ws.objects +
      (ws.context.objects + (p.slots.erase slot).total Holding.objects) := by
    rw [← holding.context_eq]
    exact hlive.trans (hsound.objects_get hget)
  exact WindowSurface.configure_keeps_or_replaces (Multiset.le_add_right _ _) hobjects desc hend

/-- A session with a surface that has acquired an image, from a driver that does not replace a
swapchain. -/
def acquiring : Run Vulkan.interface Unit Playback :=
  (session ⟨.ok (), true⟩ ⟨.ok .wayland, .ok .wayland⟩ ⟨true, "", ⟨1, 0, 0⟩, .all, false⟩
    [("main", .newSurface none), ("main", .surface (.op (.configure (.ofSize 4 4)))),
      ("main", .surface (.op .acquire))]).run Vulkan.stubborn ()

/-- Whether a configuration fails now, with an image still held. -/
def failsHolding : Bool :=
  match acquiring.outcome with
  | .ok p => match p.slots.get? "main" with
    | some holding =>
      match ((holding.windowSurface.configure ⟨.bgra8Srgb, .none, 4, 4, 3, true⟩).run
        Vulkan.stubborn acquiring.peer).outcome with
      | .ok (.error _, _) => holding.windowSurface.swapchain.bind (·.held) == some 0
      | _ => false
    | none => false
  | .error _ => false

/-- A configuration fails, and the image is still held. -/
theorem acquiring_keeps : ∃ p holding e ws',
    acquiring.outcome = .ok p ∧ p.slots.get? "main" = some holding ∧
    ((holding.windowSurface.configure ⟨.bgra8Srgb, .none, 4, 4, 3, true⟩).run Vulkan.stubborn
      acquiring.peer).outcome = .ok (.error e, ws') ∧
    holding.windowSurface.swapchain.bind (·.held) = some 0 ∧
    holding.windowSurface.Kept acquiring.events
      ((holding.windowSurface.configure ⟨.bgra8Srgb, .none, 4, 4, 3, true⟩).run Vulkan.stubborn
        acquiring.peer).events ws' := by
  have hends : failsHolding = true := by decide +kernel
  unfold failsHolding at hends
  split at hends
  · rename_i p hreached
    split at hends
    · rename_i holding hget
      split at hends
      · rename_i e ws' hend
        refine ⟨p, holding, e, ws', hreached, hget, hend, beq_iff_eq.mp hends, ?_⟩
        exact (configuration_keeps_or_replaces Vulkan.stubborn () ⟨.ok (), true⟩
          ⟨.ok .wayland, .ok .wayland⟩ ⟨true, "", ⟨1, 0, 0⟩, .all, false⟩ _ p hreached "main"
          holding hget _ _ ws' hend).1 e rfl
      · cases hends
    · cases hends
  · cases hends

end Presentation.Session.Playback
