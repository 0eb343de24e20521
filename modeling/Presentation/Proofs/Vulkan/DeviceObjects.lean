import Presentation.Proofs.Vulkan.SurfaceObjects
import Presentation.Proofs.Vulkan.Survey
import Presentation.Vulkan.Device

/-!
# The objects of a device

A device has its context: instance, logical device and messenger. A creation
that fails leaves nothing behind, however far it came; the surface with which a
physical device is chosen is gone before the logical device is made.
-/

set_option autoImplicit false

namespace Presentation.Vulkan

variable {frame spared : Multiset Object} {c : Census} {inst : Handle .inst}
  {surface : Handle .surface} {messenger : Option (Handle .messenger)}

theorem destroyRoot_books {kind : Kind} (handle : Handle kind)
    (h : c.Books (part (some handle) + frame) spared) :
    (destroyRoot handle).Keeps census
      (fun _ c' => c'.Books frame (spared ∪ below kind frame)) c := by
  apply destroy_books none (some handle) h
  intro o ho
  cases ho

theorem createWindowSurface_books (handle : WindowHandle) (hinst : inst.object ∈ frame)
    (h : c.Books frame spared) :
    (createWindowSurface inst handle).Keeps census (Made frame spared) c := by
  unfold createWindowSurface
  split
  · exact h
  · exact create_books _ h (by simp [Creation.uses, hinst])

/-- A survey uses an instance and a surface, and leaves everything as it is. -/
theorem surveys_bears (hinst : inst.object ∈ frame) (hsurface : surface.object ∈ frame) :
    census.Bears (Call.Surveys inst surface) fun c => c.Books frame spared := by
  intro call c hcall h
  cases call with
  | gpus i =>
    obtain rfl : i = inst := hcall
    exact ask_books (.gpus i) trivial h (by simp [Call.uses, hinst])
  | gpuProperties gpu => exact ask_books (.gpuProperties gpu) trivial h (by simp [Call.uses])
  | queueFamilies gpu => exact ask_books (.queueFamilies gpu) trivial h (by simp [Call.uses])
  | surfaceSupport gpu family s =>
    obtain rfl : s = surface := hcall
    exact ask_books (.surfaceSupport gpu family s) trivial h (by simp [Call.uses, hsurface])
  | _ => exact hcall.elim

theorem canPresent_books (hinst : inst.object ∈ frame) (hsurface : surface.object ∈ frame)
    (gpu : Gpu) (family : Nat) (h : c.Books frame spared) :
    (canPresent gpu surface family).Keeps census (fun _ c' => c'.Books frame spared) c :=
  (strictly_bears (surveys_bears hinst hsurface)
    (surveying_strictly (canPresent_surveys gpu family)) h).mono fun _ _ hpost => hpost.2

theorem selectFor_books (hinst : inst.object ∈ frame) (hsurface : surface.object ∈ frame)
    (h : c.Books frame spared) :
    (selectFor inst surface).Keeps census (fun _ c' => c'.Books frame spared) c :=
  (strictly_bears (surveys_bears hinst hsurface) (selectFor_strictly inst surface) h).mono
    fun _ _ hpost => hpost.2

/-- A surface is made to choose a physical device with, and is gone again when one is chosen. -/
theorem select_books (handle : WindowHandle) (hinst : inst.object ∈ frame)
    (h : c.Books frame spared) :
    (select inst handle).Keeps census
      (fun _ c' => c'.Books frame (spared ∪ below .surface frame)) c := by
  apply Program.Keeps.andThen (createWindowSurface_books handle hinst h)
  intro answer c h
  cases answer with
  | error code =>
    apply Program.keeps_andThen.mpr
    exact refuse_keeps _ _ ⟨h.1, h.2.trans Multiset.le_union_left⟩
  | ok surface =>
    have hsurface : surface.object ∈ part (some surface) + frame := by simp
    have hmore : inst.object ∈ part (some surface) + frame :=
      Multiset.mem_add.mpr (Or.inr hinst)
    apply Program.Keeps.andThen (selectFor_books hmore hsurface h)
    intro result c h
    apply Program.keeps_andThen.mpr
    apply destroy_books (some inst.object) (some surface) h
    intro o ho
    rw [← Option.some.inj ho]
    exact hmore

/-- The messenger goes before the instance. -/
theorem Context.releaseInstance_books (h : c.Books (part (some inst) + part messenger) spared) :
    (Context.releaseInstance inst messenger).Keeps census
      (fun _ c' => c'.Books 0 spared) c := by
  have hinstance : ∀ {c : Census}, c.Books (part (some inst)) spared →
      (destroyRoot inst).Keeps census (fun _ c' => c'.Books 0 spared) c := by
    intro c h
    rw [← add_zero (part (some inst))] at h
    apply Program.Keeps.mono (destroyRoot_books inst h)
    intro _ c h
    rw [below_zero, Multiset.union_zero] at h
    exact h
  cases messenger with
  | none =>
    rw [part_none, add_zero] at h
    apply Program.keeps_andThen.mpr
    exact hinstance h
  | some messenger =>
    rw [add_comm] at h
    apply Program.Keeps.andThen (destroyOn_books inst (some messenger) rfl h (by simp))
    intro _ c h
    apply Program.keeps_andThen.mpr
    exact hinstance h

theorem Context.release_books {ctx : Context} (h : c.Books ctx.objects spared) :
    ctx.release.Keeps census (fun _ c' => c'.Books 0 spared) c := by
  have hsplit : ctx.objects =
      part (some ctx.device) + (part (some ctx.inst) + part ctx.messenger) := by
    simp only [Context.objects, part_some]
    abel
  have hbelow : below .device (part (some ctx.inst) + part ctx.messenger) = 0 := by
    rw [below_add, below_part (by decide), below_part (by decide), add_zero]
  have hdevice : ctx.device.object ∈ ctx.objects := Context.device_mem le_rfl
  apply Program.Keeps.andThen (ask_books (.waitIdle ctx.device) trivial h
    (by simp [Call.uses, hdevice]))
  intro _ c h
  rw [hsplit] at h
  apply Program.Keeps.andThen (destroyRoot_books ctx.device h)
  intro _ c h
  rw [hbelow, Multiset.union_zero] at h
  exact Context.releaseInstance_books h

namespace Device

theorem prerequisites_books (host : Host) (handle : WindowHandle) (config : DeviceConfig)
    (h : c.Books frame spared) :
    (prerequisites host handle config).Keeps census (fun _ c' => c'.Books frame spared) c := by
  unfold prerequisites
  split
  · apply Program.keeps_andThen.mpr
    exact refuse_keeps _ _ h
  · split
    · apply Program.keeps_andThen.mpr
      exact refuse_keeps _ _ h
    · split
      · apply Program.keeps_andThen.mpr
        exact refuse_keeps _ _ h
      · simp only [notice, Program.keeps_logIf, Program.keeps_pure]
        exact h

/-- A messenger is there if the creation says so. -/
def Messaged (frame spared : Multiset Object) :
    Except Error (Option (Handle .messenger)) → Census → Prop
  | .ok messenger, c => c.Books (part messenger + frame) spared
  | .error _, c => c.Books frame spared

theorem createMessenger_books (config : DeviceConfig) (validation : Bool)
    (forwarding : Option Forwarding) (hinst : inst.object ∈ frame) (h : c.Books frame spared) :
    (createMessenger inst config validation forwarding).Keeps census
      (fun r => Messaged frame spared r.1) c := by
  unfold createMessenger
  split
  · apply Program.Keeps.andThen (create_books _ h (by simp [Creation.uses, hinst]))
    intro answer c h
    cases answer with
    | error code =>
      apply Program.keeps_andThen.mpr
      exact refuse_keeps _ _ h
    | ok made =>
      exact h
  · rw [Program.keeps_pure, Messaged, part_none, zero_add]
    exact h

/-- What there is after a creation: the context of the device, or nothing. -/
def Established (spared : Multiset Object) : Except Error Device → Census → Prop
  | .ok d, c => c.Books d.context.objects spared
  | .error _, c => c.Books 0 spared

theorem openContext_books (selection : Selection) (device : Handle .device)
    (hdevice : device.object ∈ frame) (h : c.Books frame spared) :
    (openContext inst messenger selection device).Keeps census
      (fun ctx c' => ctx.inst = inst ∧ ctx.device = device ∧ ctx.messenger = messenger ∧
        c'.Books frame spared) c := by
  apply Program.Keeps.andThen (ask_books (.queue device selection.graphicsFamily) trivial h
    (by simp [Call.uses, hdevice]))
  intro _ c h
  apply Program.Keeps.andThen (ask_books (.queue device selection.presentFamily) trivial h
    (by simp [Call.uses, hdevice]))
  intro _ c h
  exact ⟨rfl, rfl, rfl, h⟩

theorem createOn_books (handle : WindowHandle) (validation : Bool)
    (forwarding : Option Forwarding) (h : c.Books (part (some inst) + part messenger) spared) :
    (createOn inst messenger handle validation forwarding).Keeps census
      (fun r => Established spared r.1) c := by
  have hinst : inst.object ∈ part (some inst) + part messenger := by simp
  have hbelow : below .surface (part (some inst) + part messenger) = 0 := by
    rw [below_add, below_part (by decide), below_part (by decide), add_zero]
  apply Program.Keeps.andThen (select_books handle hinst h)
  intro result c h
  rw [hbelow, Multiset.union_zero] at h
  cases result with
  | error e =>
    apply Program.keeps_andThen.mpr
    exact Context.releaseInstance_books h
  | ok selection =>
    apply Program.Keeps.andThen (create_books _ h (by simp [Creation.uses]))
    intro answer c h
    cases answer with
    | error code =>
      simp only [notice, Program.keeps_andThen, Program.keeps_log]
      exact Context.releaseInstance_books h
    | ok device =>
      have hdevice : device.object ∈
          part (some device) + (part (some inst) + part messenger) := by simp
      simp only [notice, Program.keeps_andThen, Program.keeps_log]
      apply Program.Keeps.mono (openContext_books selection device hdevice h)
      intro ctx c hr
      obtain ⟨rfl, rfl, rfl, h⟩ := hr
      show c.Books ctx.objects spared
      have hobjects : ctx.objects =
          part (some ctx.device) + (part (some ctx.inst) + part ctx.messenger) := by
        simp only [Context.objects, part_some]
        abel
      rw [hobjects]
      exact h

theorem create_books (host : Host) (window : Window) (config : DeviceConfig)
    (forwarding : Option Forwarding) (h : c.Books 0 spared) :
    (create host window config forwarding).Keeps census
      (fun r => Established spared r.1) c := by
  unfold create
  split
  · exact h
  · rename_i handle _
    apply Program.Keeps.andThen (prerequisites_books host handle config h)
    rintro (e | extensions) c h
    · exact h
    apply Program.Keeps.andThen (Vulkan.create_books _ h (by simp [Creation.uses]))
    intro answer c h
    cases answer with
    | error code =>
      simp only [notice, Program.keeps_andThen, Program.keeps_log]
      exact h
    | ok inst =>
      have hinst : inst.object ∈ part (some inst) + 0 := by simp
      apply Program.Keeps.andThen (createMessenger_books config _ forwarding hinst h)
      rintro ⟨e | messenger, forwarding⟩ c h
      · apply Program.Keeps.andThen (destroyRoot_books inst h)
        intro _ c h
        rw [below_zero, Multiset.union_zero] at h
        exact h
      · rw [Messaged, add_zero, add_comm] at h
        exact createOn_books handle _ forwarding h

/-- What there is after a window was opened: its surface on the context of the device, or no more
than before. -/
def Opened (d : Device) (frame spared : Multiset Object) :
    Except Error WindowSurface → Census → Prop
  | .ok ws, c => ws.context = d.context ∧ c.Books (ws.objects + frame) spared
  | .error _, c => c.Books frame (spared ∪ below .surface frame)

theorem openWindow_books {d : Device} (handle : WindowHandle) (hctx : d.context.objects ≤ frame)
    (h : c.Books frame spared) :
    (d.openWindow handle).Keeps census (Opened d frame spared) c := by
  have hinst := Context.inst_mem hctx
  apply Program.Keeps.andThen (createWindowSurface_books handle hinst h)
  intro answer c h
  cases answer with
  | error code =>
    apply Program.keeps_andThen.mpr
    exact refuse_keeps _ _ ⟨h.1, h.2.trans Multiset.le_union_left⟩
  | ok surface =>
    have hsurface : surface.object ∈ part (some surface) + frame := by simp
    have hmore : d.context.inst.object ∈ part (some surface) + frame :=
      Multiset.mem_add.mpr (Or.inr hinst)
    apply Program.Keeps.andThen
      (canPresent_books hmore hsurface d.context.gpu d.context.presentFamily h)
    intro able c h
    split
    · constructor
      · rfl
      · rw [WindowSurface.objects_none rfl]
        exact h
    · apply Program.Keeps.andThen (destroy_books (some d.context.inst.object) (some surface) h
        (by simp [hinst]))
      intro _ c h
      apply Program.keeps_andThen.mpr
      exact refuse_keeps _ _ h

theorem waitIdle_books {d : Device} (hctx : d.context.objects ≤ frame)
    (h : c.Books frame spared) :
    d.waitIdle.Keeps census (fun _ c' => c'.Books frame spared) c := by
  have hdevice := Context.device_mem hctx
  apply Program.Keeps.andThen (ask_books (.waitIdle d.context.device) trivial h
    (by simp [Call.uses, hdevice]))
  intro answer c h
  cases answer with
  | error code =>
    apply Program.keeps_andThen.mpr
    exact refuse_keeps _ _ h
  | ok done =>
    exact h

end Device

end Presentation.Vulkan
