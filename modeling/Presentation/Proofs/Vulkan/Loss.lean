import Presentation.Proofs.Surface.Protocol
import Presentation.Proofs.Vulkan.Provenance
import Presentation.Proofs.Vulkan.Service

/-!
# Lost images

An image is lost when it was acquired and could not be made ready, or when the
driver refused to show it. The swapchain that it belongs to does no more work from
then on: until it is replaced or given up, the surface reports that it is out of
date, and what is worked on afterwards was obtained since.
-/

set_option autoImplicit false

namespace Presentation

namespace Native

/-- A call for an image, or on one. -/
def Handles : Event interface → Prop
  | .asked .acquire _ => True
  | .asked (.present _) _ => True
  | _ => False

end Native

namespace Surface

open Native (Handles Replaces)

variable {s s' : Surface} {op : Op} {calls : List (Event Native.interface)} {reply : Reply}

/-- An operation that handles an image makes no other call. -/
theorem Acts.handles_alone (h : s.Acts op calls reply s') :
    (∀ e ∈ calls, ¬ Handles e) ∨ ∃ e, calls = [e] := by
  cases h with
  | configured => exact Or.inl (by simp [Handles])
  | rejected => exact Or.inl (by simp)
  | unprecedented => exact Or.inl (by simp)
  | minimised => exact Or.inl (by simp [Handles])
  | idle => exact Or.inl (by simp)
  | barred => exact Or.inl (by simp)
  | emptyHanded => exact Or.inl (by simp)
  | looked => exact Or.inl (by simp)
  | _ => exact Or.inr ⟨_, rfl⟩

/-- An operation that replaces no swapchain leaves the pool, or there is none afterwards. -/
theorem Acts.replaces_or_retains (h : s.Acts op calls reply s') :
    (∃ config desc images info,
      calls = [.asked (.configure desc) (.ok ()), .asked .images images, .asked .queryInfo info] ∧
        s' = (s.adopt config images).informed info) ∨
    s'.active = none ∨ (∀ e ∈ calls, ¬ Replaces e) ∧ s.Retains s' := by
  rcases h.brings_or_retains with ⟨config, desc, images, info, -, -, hcalls, -, hs'⟩ | ⟨-, hretains⟩
  · exact Or.inl ⟨config, desc, images, info, hcalls, hs'⟩
  · cases h with
    | @configured _ config desc images info => exact Or.inl ⟨config, desc, images, info, rfl, rfl⟩
    | minimised info => exact Or.inr (Or.inl (informed_active _ info))
    | _ => exact Or.inr (Or.inr ⟨by simp [Replaces], hretains⟩)

end Surface

namespace Vulkan

open Native (Handles Replaces)
open Surface (Op Episode)

/-- What a call works on was obtained among some events. -/
def Call.Obtained (events : List (Event interface)) : Call → Prop
  | .acquire _ handle _ => Creates events handle
  | .submit _ buffer _ _ => Allots events buffer
  | .present _ _ handle _ => Creates events handle
  | _ => True

/-- The steps in which an image is lost: it was acquired, and no submission makes it ready; or one
made it presentable, and the driver refused to show it. -/
inductive Loss : List (Event interface) → Prop
  | unready {buffers : List CommandBuffer} {steps : List (Event interface)}
      (device : Handle .device) (handle : Handle .swapchain) (fence : Option (Handle .fence))
      (image : Acquired) : Breaks buffers steps →
      Loss (.asked (.acquire device handle fence) (.ok image) :: steps)
  | unshown {buffers : List CommandBuffer} {steps : List (Event interface)} (queue : Queue)
      (wait : Handle .semaphore) (handle : Handle .swapchain) (index : Nat) (code : Code) :
      Reaches buffers steps → code ≠ .outOfDate →
      Loss (steps ++ [.asked (.present queue wait handle index) (.error code)])

variable {σ : Type} {e : Event interface} {c : Call} {a : c.Answer} {buffers : List CommandBuffer}
  {es es' steps : List (Event interface)}

theorem mem_work (hc : c.works = true) : .asked c a ∈ work es ↔ .asked c a ∈ es := by
  simp [work, Works, hc]

theorem work_calls (es : List (Event interface)) : work (Watch.calls es) = work es := by
  rw [work, work, Watch.calls, List.filter_filter]
  apply List.filter_congr
  intro e _
  cases e with
  | noted entry => rfl
  | asked c a => simp [Works, Event.entry?]

theorem Breaks.mem (h : Breaks buffers steps) (he : e ∈ steps) : Smooth e ∨ Fails buffers e := by
  obtain ⟨smooth, last, rfl, hsmooth, hlast⟩ := h
  rcases List.mem_append.mp he with he | he
  · exact Or.inl (hsmooth e he)
  · rcases hlast with rfl | ⟨e', rfl, hfails⟩
    · cases he
    · cases List.mem_singleton.mp he
      exact Or.inr hfails

theorem Reaches.mem (h : Reaches buffers steps) (he : e ∈ steps) :
    Smooth e ∨ ∃ queue buffer signal fence, buffer ∈ buffers ∧
      e = .asked (.submit queue buffer signal fence) (.ok ()) := by
  obtain ⟨smooth, queue, buffer, signal, fence, hbuffer, rfl, hsmooth⟩ := h
  rcases List.mem_append.mp he with he | he
  · exact Or.inl (hsmooth e he)
  · exact Or.inr ⟨queue, buffer, signal, fence, hbuffer, List.mem_singleton.mp he⟩

namespace Swapchain

/-- What an event of work is about is this swapchain. -/
def Concerns (sc : Swapchain) : Event interface → Prop
  | .asked (.acquire _ handle _) _ => handle = sc.handle
  | .asked (.submit _ buffer _ _) _ => buffer ∈ sc.buffers
  | .asked (.present _ _ handle _) _ => handle = sc.handle
  | _ => True

variable {sc : Swapchain} {stale : Bool}

theorem Supplied.obtained (h : sc.Supplied es) (hc : sc.Concerns (.asked c a)) : c.Obtained es := by
  cases c with
  | acquire device handle fence => exact hc ▸ h.creates
  | submit queue buffer signal fence => exact h.allots buffer hc
  | present queue wait handle index => exact hc ▸ h.creates
  | _ => trivial

theorem Remains.supplied {full : Prop} {sc' : Swapchain} (h : sc.Remains full sc')
    (hs : sc.Supplied es) : sc'.Supplied es :=
  ⟨h.handle ▸ hs.creates, h.buffers ▸ hs.allots⟩

theorem concerns_of_smooth (h : Smooth e) : sc.Concerns e := by
  unfold Smooth at h
  split at h
  · trivial
  · trivial
  · exact h.elim

theorem concerns_of_fails (h : Fails sc.buffers e) : sc.Concerns e := by
  unfold Fails at h
  split at h
  · trivial
  · trivial
  · exact h
  · exact h.elim

theorem concerns_of_breaks (h : Breaks sc.buffers steps) : ∀ e ∈ steps, sc.Concerns e := by
  intro e he
  rcases h.mem he with hsmooth | hfails
  · exact concerns_of_smooth hsmooth
  · exact concerns_of_fails hfails

theorem concerns_of_reaches (h : Reaches sc.buffers steps) : ∀ e ∈ steps, sc.Concerns e := by
  intro e he
  rcases h.mem he with hsmooth | ⟨queue, buffer, signal, fence, hbuffer, rfl⟩
  · exact concerns_of_smooth hsmooth
  · exact hbuffer

theorem Acquisition.concerns {result : Except Error Nat} (h : sc.Acquisition result steps stale) :
    ∀ e ∈ steps, sc.Concerns e := by
  cases h with
  | barred hstale => simp
  | missed e device fence code hstale => simp [Concerns]
  | lost e device fence image hstale hbreaks =>
    exact List.forall_mem_cons.mpr ⟨rfl, concerns_of_breaks hbreaks⟩
  | taken device fence image hstale hreaches hlt =>
    exact List.forall_mem_cons.mpr ⟨rfl, concerns_of_reaches hreaches⟩

theorem Showing.concerns {result : Except Error Unit} (h : sc.Showing result steps stale) :
    ∀ e ∈ steps, sc.Concerns e := by
  cases h with
  | unheld e => simp
  | kept e hbreaks => exact concerns_of_breaks hbreaks
  | shown queue wait index suboptimal hreaches =>
    exact List.forall_mem_append.mpr ⟨concerns_of_reaches hreaches, by simp [Concerns]⟩
  | outdated queue wait index hreaches =>
    exact List.forall_mem_append.mpr ⟨concerns_of_reaches hreaches, by simp [Concerns]⟩
  | spoilt queue wait index code hreaches hcode =>
    exact List.forall_mem_append.mpr ⟨concerns_of_reaches hreaches, by simp [Concerns]⟩

end Swapchain

namespace WindowSurface

/-- The swapchain that there is was supplied among some events. -/
def Supplied (es : List (Event interface)) (ws : WindowSurface) : Prop :=
  ∀ sc, ws.swapchain = some sc → sc.Supplied es

variable {ws ws' : WindowSurface} {call : Event Native.interface}
  {calls : List (Event Native.interface)}

theorem Supplied.mono (h : ws.Supplied es) (hes : es ⊆ es') : ws.Supplied es' :=
  fun sc hsc => (h sc hsc).mono hes

namespace Serves

theorem idle (h : ws.Serves es call steps ws') (hhandles : ¬ Handles call) : steps = [] := by
  cases h with
  | acquired hsc hacquisition hs => exact absurd trivial hhandles
  | presented index hsc hshowing hs => exact absurd trivial hhandles
  | _ => rfl

theorem unchanged (h : ws.Serves es call steps ws') (hhandles : ¬ Handles call)
    (hreplaces : ¬ Replaces call) : ws' = ws := by
  cases h with
  | acquired hsc hacquisition hs => exact absurd trivial hhandles
  | presented index hsc hshowing hs => exact absurd trivial hhandles
  | configured desc hsupplied => exact absurd trivial hreplaces
  | unconfigured => exact absurd trivial hreplaces
  | _ => rfl

/-- A swapchain that is not replaced keeps its images. -/
theorem keeps (h : ws.Serves es call steps ws') (hreplaces : ¬ Replaces call) {sc : Swapchain}
    (hsc : ws.swapchain = some sc) :
    ∃ sc', ws'.swapchain = some sc' ∧ sc'.textures = sc.textures := by
  cases h with
  | acquired hsc' hacquisition hs =>
    cases hsc.symm.trans hsc'
    exact ⟨_, rfl, hs.textures⟩
  | presented index hsc' hshowing hs =>
    cases hsc.symm.trans hsc'
    exact ⟨_, rfl, hs.textures⟩
  | configured desc hsupplied => exact absurd trivial hreplaces
  | unconfigured => exact absurd trivial hreplaces
  | _ => exact ⟨sc, hsc, rfl⟩

theorem renews (h : ws.Serves es call steps ws') (hreplaces : Replaces call) :
    ws'.Supplied es := by
  cases h with
  | configured desc hsupplied =>
    rintro sc ⟨⟩
    exact hsupplied
  | unconfigured =>
    rintro sc ⟨⟩
  | told info => exact hreplaces.elim
  | refused desc e => exact hreplaces.elim
  | listed => exact hreplaces.elim
  | acquired hsc hacquisition hs => exact hreplaces.elim
  | presented index hsc hshowing hs => exact hreplaces.elim
  | notAcquired hnone => exact hreplaces.elim
  | notPresented index hnone => exact hreplaces.elim

theorem supplied (h : ws.Serves es call steps ws') (hs : ws.Supplied es) : ws'.Supplied es := by
  cases h with
  | configured desc hsupplied =>
    rintro sc ⟨⟩
    exact hsupplied
  | unconfigured =>
    rintro sc ⟨⟩
  | acquired hsc hacquisition hremains =>
    rintro sc ⟨⟩
    exact hremains.supplied (hs _ hsc)
  | presented index hsc hshowing hremains =>
    rintro sc ⟨⟩
    exact hremains.supplied (hs _ hsc)
  | _ => exact hs

/-- Every step is on the swapchain that there is. -/
theorem concerns (h : ws.Serves es call steps ws') :
    ∀ e ∈ steps, ∃ sc, ws.swapchain = some sc ∧ sc.Concerns e := by
  cases h with
  | acquired hsc hacquisition hs => exact fun e he => ⟨_, hsc, hacquisition.concerns e he⟩
  | presented index hsc hshowing hs => exact fun e he => ⟨_, hsc, hshowing.concerns e he⟩
  | _ => simp

end Serves

namespace Serving

theorem single (h : Serving es ws [call] steps ws') : ws.Serves es call steps ws' := by
  obtain ⟨first, rest, mid, rfl, hserves, rfl, rfl⟩ := h
  rwa [List.append_nil]

theorem idle (h : Serving es ws calls steps ws') (hhandles : ∀ e ∈ calls, ¬ Handles e) :
    steps = [] := by
  induction calls generalizing ws steps with
  | nil => exact h.1
  | cons call calls ih =>
    obtain ⟨first, rest, mid, rfl, hserves, hrest⟩ := h
    rw [hserves.idle (hhandles call List.mem_cons_self),
      ih hrest fun e he => hhandles e (List.mem_cons_of_mem call he)]
    rfl

theorem unchanged (h : Serving es ws calls steps ws') (hhandles : ∀ e ∈ calls, ¬ Handles e)
    (hreplaces : ∀ e ∈ calls, ¬ Replaces e) : ws' = ws := by
  induction calls generalizing ws steps with
  | nil => exact h.2
  | cons call calls ih =>
    obtain ⟨first, rest, mid, rfl, hserves, hrest⟩ := h
    rw [ih hrest (fun e he => hhandles e (List.mem_cons_of_mem call he))
      fun e he => hreplaces e (List.mem_cons_of_mem call he)]
    exact hserves.unchanged (hhandles call List.mem_cons_self) (hreplaces call List.mem_cons_self)

theorem keeps (h : Serving es ws calls steps ws') (hreplaces : ∀ e ∈ calls, ¬ Replaces e)
    {sc : Swapchain} (hsc : ws.swapchain = some sc) :
    ∃ sc', ws'.swapchain = some sc' ∧ sc'.textures = sc.textures := by
  induction calls generalizing ws steps sc with
  | nil =>
    obtain ⟨rfl, rfl⟩ := h
    exact ⟨sc, hsc, rfl⟩
  | cons call calls ih =>
    obtain ⟨first, rest, mid, rfl, hserves, hrest⟩ := h
    obtain ⟨sc', hsc', htextures⟩ := hserves.keeps (hreplaces call List.mem_cons_self) hsc
    obtain ⟨sc'', hsc'', htextures'⟩ :=
      ih hrest (fun e he => hreplaces e (List.mem_cons_of_mem call he)) hsc'
    exact ⟨sc'', hsc'', htextures'.trans htextures⟩

theorem supplied (h : Serving es ws calls steps ws') (hs : ws.Supplied es) :
    ws'.Supplied es := by
  induction calls generalizing ws steps with
  | nil =>
    obtain ⟨rfl, rfl⟩ := h
    exact hs
  | cons call calls ih =>
    obtain ⟨first, rest, mid, rfl, hserves, hrest⟩ := h
    exact ih hrest (hserves.supplied hs)

/-- After a replacement, whatever swapchain there is was supplied meanwhile. -/
theorem renews (h : Serving es ws (call :: calls) steps ws') (hreplaces : Replaces call) :
    ws'.Supplied es := by
  obtain ⟨first, rest, mid, rfl, hserves, hrest⟩ := h
  exact hrest.supplied (hserves.renews hreplaces)

/-- Every step of an operation is on the swapchain that there was before. -/
theorem concerns {s s' : Surface} {op : Op} {reply : Surface.Reply}
    (h : Serving es ws calls steps ws') (hacts : s.Acts op calls reply s') :
    ∀ e ∈ steps, ∃ sc, ws.swapchain = some sc ∧ sc.Concerns e := by
  rcases hacts.handles_alone with hhandles | ⟨call, rfl⟩
  · simp [h.idle hhandles]
  · exact h.single.concerns

end Serving

end WindowSurface

end Vulkan

end Presentation
