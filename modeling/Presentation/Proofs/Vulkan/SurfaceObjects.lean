import Presentation.Proofs.Surface.Transition
import Presentation.Proofs.Vulkan.SwapchainObjects

/-!
# The objects of a window surface

A window surface has its surface and all of its swapchain. Old and new
swapchain overlap while one replaces the other, and what was made for the one
that goes is gone before it.
-/

set_option autoImplicit false

namespace Presentation.Vulkan

open Native (transition)

theorem below_swapchain_le (m : Multiset Object) : below .swapchain m ≤ below .surface m := by
  apply Multiset.monotone_filter_right
  intro o ho
  simp only [Kind.below, List.mem_cons] at ho ⊢
  exact Or.inr ho

namespace WindowSurface

def swapchainObjects (ws : WindowSurface) : Multiset Object :=
  match ws.swapchain with
  | some sc => sc.objects
  | none => 0

variable {ctx : Context} {frame spared : Multiset Object} {ws : WindowSurface} {c : Census}

theorem objects_eq (ws : WindowSurface) :
    ws.objects = part (some ws.surface) + ws.swapchainObjects := rfl

theorem objects_some {sc : Swapchain} (hs : ws.swapchain = some sc) :
    ws.objects = part (some ws.surface) + sc.objects := by
  rw [objects_eq, swapchainObjects, hs]

theorem objects_none (hs : ws.swapchain = none) : ws.objects = part (some ws.surface) := by
  rw [objects_eq, swapchainObjects, hs, add_zero]

theorem surface_mem (ws : WindowSurface) : ws.surface.object ∈ ws.objects := by
  rw [objects_eq, part_some]
  simp

theorem handle_mem (ws : WindowSurface) :
    ∀ o ∈ part (ws.swapchain.map (·.handle)), o ∈ ws.objects := by
  intro o ho
  cases hs : ws.swapchain with
  | none => simp [hs] at ho
  | some sc =>
    rw [hs, Option.map_some, part_some, Multiset.mem_singleton] at ho
    rw [ho, objects_some hs]
    simp [Swapchain.handle_mem]

section

variable (hctx : ws.context.objects ≤ frame)

include hctx

theorem releaseSwapchain_books (h : c.Books (ws.swapchainObjects + frame) spared) :
    ws.releaseSwapchain.Keeps census
      (fun _ c' => c'.Books frame (spared ∪ below .swapchain frame)) c := by
  unfold releaseSwapchain
  unfold swapchainObjects at h
  split
  · rename_i sc hs
    rw [hs] at h
    exact Swapchain.release_books hctx h
  · rename_i hs
    rw [hs] at h
    rw [zero_add] at h
    exact ⟨h.1, h.2.trans Multiset.le_union_left⟩

/-- The swapchain goes first, then the surface. -/
theorem release_books (h : c.Books (ws.objects + frame) spared) :
    ws.release.Keeps census
      (fun _ c' => c'.Books frame (spared ∪ below .surface frame)) c := by
  have hinst := Context.inst_mem hctx
  have hmore : ws.context.objects ≤ part (some ws.surface) + frame :=
    hctx.trans (Multiset.le_add_left _ _)
  have hobjects : ws.objects + frame =
      ws.swapchainObjects + (part (some ws.surface) + frame) := by
    rw [objects_eq]
    abel
  rw [hobjects] at h
  apply Program.Keeps.andThen (releaseSwapchain_books hmore h)
  intro _ c h
  have hsurface : below .swapchain (part (some ws.surface)) = 0 :=
    below_part (by decide) _
  rw [below_add, hsurface, zero_add] at h
  apply Program.Keeps.mono (destroy_books (some ws.context.inst.object) (some ws.surface) h
    (by simp [hinst]))
  intro _ c h
  refine ⟨h.1, h.2.trans ?_⟩
  apply Multiset.union_le _ Multiset.le_union_right
  apply Multiset.union_le Multiset.le_union_left
  exact (below_swapchain_le frame).trans Multiset.le_union_right

omit hctx in
theorem queryInfo_books (h : c.Books (ws.objects + frame) spared) :
    ws.queryInfo.Keeps census (fun _ c' => c'.Books (ws.objects + frame) spared) c := by
  have hsurface : ws.surface.object ∈ ws.objects + frame :=
    Multiset.mem_add.mpr (Or.inl ws.surface_mem)
  apply Program.Keeps.andThen (ask_books (.capabilities ws.context.gpu ws.surface) trivial h
    (by simpa [Call.uses] using hsurface))
  intro answer c h
  cases answer with
  | error code =>
    exact Program.keeps_andThen.mpr (refuse_keeps _ _ h)
  | ok capabilities =>
    apply Program.Keeps.andThen (ask_books (.surfaceFormats ws.context.gpu ws.surface) trivial h
      (by simpa [Call.uses] using hsurface))
    intro answer c h
    cases answer with
    | error code =>
      exact Program.keeps_andThen.mpr (refuse_keeps _ _ h)
    | ok formats =>
      exact h

end

/-- A window surface of a context, with all that it has and a frame live. What was spared in a
transition is below a surface, and still there. -/
def Booked (ctx : Context) (frame spared : Multiset Object) (ws : WindowSurface) (c : Census)
    (past : Bool) : Prop :=
  ws.context = ctx ∧ c.Books (ws.objects + frame)
    (spared ∪ if past then below .surface (ws.objects + frame) else 0)

theorem booked_before (hctx : ws.context = ctx) :
    ws.Booked ctx frame spared c false ↔ c.Books (ws.objects + frame) spared := by
  simp [Booked, hctx]

theorem Booked.after {past : Bool} (h : ws.Booked ctx frame spared c past) :
    c.Books (ws.objects + frame) (spared ∪ below .surface (ws.objects + frame)) := by
  refine ⟨h.2.1, h.2.2.trans ?_⟩
  apply Multiset.union_le_union_left
  cases past with
  | false => exact Multiset.zero_le _
  | true => exact le_refl _

theorem booked_past {spared' : Multiset Object} (hctx : ws.context = ctx)
    (hspared : spared' ≤ spared ∪ below .surface (ws.objects + frame))
    (h : c.Books (ws.objects + frame) spared') : ws.Booked ctx frame spared c true :=
  ⟨hctx, h.1, h.2.trans hspared⟩

section

variable (hctx : ws.context.objects ≤ frame)

include hctx

/-- A new swapchain is complete before the old one goes. One that fails is gone before the old
one. -/
theorem configure_books (desc : SwapchainDesc) (h : c.Books (ws.objects + frame) spared) :
    (ws.configure desc).Keeps census
      (fun r c' => r.2.Booked ws.context frame spared c' true) c := by
  have hmore : ws.context.objects ≤ ws.objects + frame := hctx.trans (Multiset.le_add_left _ _)
  have hsurface : ws.surface.object ∈ ws.objects + frame :=
    Multiset.mem_add.mpr (Or.inl ws.surface_mem)
  have hold : ∀ o ∈ part (ws.swapchain.map (·.handle)), o ∈ ws.objects + frame := by
    intro o ho
    exact Multiset.mem_add.mpr (Or.inl (ws.handle_mem o ho))
  apply Program.Keeps.andThen (Swapchain.create_founds hmore desc hsurface hold h)
  intro answer c h
  cases answer with
  | error e =>
    apply booked_past rfl _ h
    exact Multiset.union_le_union_left (below_swapchain_le _) _
  | ok sc =>
    have hsplit : sc.objects + (ws.objects + frame) = ws.swapchainObjects +
        (sc.objects + (part (some ws.surface) + frame)) := by
      rw [objects_eq]
      abel
    have hrest : ws.context.objects ≤ sc.objects + (part (some ws.surface) + frame) :=
      (hctx.trans (Multiset.le_add_left _ _)).trans (Multiset.le_add_left _ _)
    have hnew : ({ ws with swapchain := some sc } : WindowSurface).objects + frame =
        sc.objects + (part (some ws.surface) + frame) := by
      rw [objects_some rfl]
      abel
    rw [Swapchain.Founded, hsplit] at h
    apply Program.Keeps.andThen (releaseSwapchain_books hrest h)
    intro _ c h
    rw [← hnew] at h
    apply booked_past rfl _ h
    exact Multiset.union_le_union_left (below_swapchain_le _) _

/-- Nothing of this surface is spared when its swapchain goes. -/
theorem unconfigure_books (h : c.Books (ws.objects + frame) spared) :
    ws.unconfigure.Keeps census (fun ws' c' => ws'.context = ws.context ∧
      c'.Books (ws'.objects + frame) (spared ∪ below .swapchain frame)) c := by
  unfold unconfigure
  split
  · have hmore : ws.context.objects ≤ part (some ws.surface) + frame :=
      hctx.trans (Multiset.le_add_left _ _)
    have hsplit : ws.objects + frame =
        ws.swapchainObjects + (part (some ws.surface) + frame) := by
      rw [objects_eq]
      abel
    have hsurface : below .swapchain (part (some ws.surface)) = 0 :=
      below_part (by decide) _
    rw [hsplit] at h
    apply Program.Keeps.andThen (releaseSwapchain_books hmore h)
    intro _ c h
    rw [below_add, hsurface, zero_add] at h
    simp only [notice, Program.keeps_andThen, Program.keeps_log, Program.keeps_pure, true_and]
    rw [objects_none rfl]
    exact h
  · rename_i hnone
    have hs : ws.swapchain = none := by simpa using hnone
    have hsame : ({ ws with swapchain := none } : WindowSurface) = ws := by rw [← hs]
    rw [Program.keeps_pure, hsame]
    exact ⟨rfl, h.1, h.2.trans Multiset.le_union_left⟩

theorem onSwapchain_books {α : Type} {t : Context → Swapchain.Build α}
    (ht : ∀ frame, ws.context.objects ≤ frame →
      Swapchain.Conserves frame spared (fun _ => True) (fun _ => True) (t ws.context))
    (h : c.Books (ws.objects + frame) spared) :
    (ws.onSwapchain t).Keeps census
      (fun r c' => r.2.context = ws.context ∧ c'.Books (r.2.objects + frame) spared) c := by
  have hmore : ws.context.objects ≤ part (some ws.surface) + frame :=
    hctx.trans (Multiset.le_add_left _ _)
  have hwith : ∀ sc : Swapchain, { ws with swapchain := some sc }.objects + frame =
      sc.objects + (part (some ws.surface) + frame) := by
    intro sc
    rw [objects_some rfl]
    abel
  unfold onSwapchain
  split
  · exact ⟨rfl, h⟩
  · rename_i sc hs
    have hsplit : ws.objects + frame = sc.objects + (part (some ws.surface) + frame) := by
      rw [objects_some hs]
      abel
    rw [hsplit] at h
    apply Program.Keeps.andThen (ht _ hmore sc c trivial h)
    rintro ⟨e | a, sc'⟩ c h
    · refine ⟨rfl, ?_⟩
      rw [hwith]
      exact h
    · refine ⟨rfl, ?_⟩
      rw [hwith]
      exact h.2

end

/-- Whatever a surface may still ask for in an operation, its window surface has what is live. -/
theorem serve_books (hctx : ctx.objects ≤ frame) {past : Bool} (call : Native.Call)
    (hallowed : transition.allows past call) (h : ws.Booked ctx frame spared c past) :
    (ws.serve call).Keeps census (fun r c' => transition.trusts past call r.1 ∧
      r.2.Booked ctx frame spared c' (transition.see past (.asked call r.1))) c := by
  obtain ⟨rfl, h⟩ := h
  have hreads : past = true → call.Reads := hallowed
  -- Whatever does more than to read comes before a transition, with nothing spared yet.
  have hbefore : ¬ call.Reads → past = false ∧ c.Books (ws.objects + frame) spared := by
    intro hcall
    cases past with
    | true => exact (hcall (hreads rfl)).elim
    | false => exact ⟨rfl, by simpa using h⟩
  cases call with
  | queryInfo =>
    apply Program.Keeps.andThen (queryInfo_books h)
    intro _ c h
    refine ⟨trivial, rfl, ?_⟩
    simpa [transition, Native.Call.transits] using h
  | images =>
    refine ⟨trivial, rfl, ?_⟩
    simpa [transition, Native.Call.transits] using h
  | configure desc =>
    obtain ⟨rfl, hbooks⟩ := hbefore id
    apply Program.Keeps.mono (configure_books hctx desc hbooks)
    intro _ _ h
    exact ⟨trivial, h⟩
  | unconfigure =>
    obtain ⟨rfl, hbooks⟩ := hbefore id
    apply Program.Keeps.andThen (unconfigure_books hctx hbooks)
    intro ws' c h
    refine ⟨trivial, booked_past h.1 ?_ h.2⟩
    apply Multiset.union_le_union_left
    apply le_trans (below_swapchain_le frame)
    rw [below_add]
    exact Multiset.le_add_left _ _
  | acquire =>
    obtain ⟨rfl, hbooks⟩ := hbefore id
    apply Program.Keeps.mono (onSwapchain_books hctx
      (fun frame hframe => Swapchain.acquire_conserves hframe) hbooks)
    intro _ _ h
    exact ⟨trivial, (booked_before h.1).mpr h.2⟩
  | present index =>
    obtain ⟨rfl, hbooks⟩ := hbefore id
    apply Program.Keeps.mono (onSwapchain_books (t := (Swapchain.present · index)) hctx
      (fun frame hframe => Swapchain.present_conserves hframe index) hbooks)
    intro _ _ h
    exact ⟨trivial, (booked_before h.1).mpr h.2⟩

theorem served_books {α : Type} {p : Native.Program α} {post : Bool → Prop}
    (hctx : ctx.objects ≤ frame) (hws : ws.context = ctx)
    (hp : p.Keeps transition (fun _ past => post past) false)
    (h : c.Books (ws.objects + frame) spared) :
    (p.servedBy serve ws).Keeps census
      (fun r c' => ∃ past, r.2.Booked ctx frame spared c' past ∧ post past) c := by
  have hserve : ∀ call ws c past, Booked ctx frame spared ws c past →
      transition.allows past call → (serve call ws).Keeps census
        (fun r c' => transition.trusts past call r.1 ∧
          r.2.Booked ctx frame spared c' (transition.see past (.asked call r.1))) c := by
    intro call ws c past h hallowed
    exact serve_books hctx call hallowed h
  exact Program.Keeps.servedBy False.elim hserve hp ((booked_before hws).mpr h)

/-- The end of a surface gives up the swapchain, if there is one. -/
theorem close_books (hctx : ws.context.objects ≤ frame) (s : Surface)
    (h : c.Books (ws.objects + frame) spared) :
    (s.close.servedBy serve ws).Keeps census (fun r c' => r.2.context = ws.context ∧
      c'.Books (r.2.objects + frame) (spared ∪ below .swapchain frame)) c := by
  have hserved : (Native.unconfigure.servedBy serve ws).Keeps census
      (fun r c' => r.2.context = ws.context ∧
        c'.Books (r.2.objects + frame) (spared ∪ below .swapchain frame)) c := by
    apply Program.keeps_bind.mpr
    apply Program.keeps_andThen.mpr
    exact unconfigure_books hctx h
  unfold Surface.close
  split
  · exact hserved
  · exact hserved

end WindowSurface

end Presentation.Vulkan
