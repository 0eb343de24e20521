import Presentation.Proofs.Surface.Act
import Presentation.Proofs.Vulkan.Steps

/-!
# How a surface is served

For each call of a surface: what a window surface can answer, which steps on images
it takes for it, and what becomes of its swapchain. An operation of a surface comes
to a chain of such calls.
-/

set_option autoImplicit false

namespace Presentation

namespace Surface

/-- Images are asked for by a surface that holds none. One that does not ask, though it is
configured and holds none, has a stale pool. -/
structure Asks (s : Surface) (reply : Reply) (calls : List (Event Native.interface)) : Prop where
  free : calls ≠ [] → ∃ active, s.active = some active ∧ active.acquired = none
  barred : calls = [] → ∀ active, s.active = some active → active.acquired = none →
    reply = .image (.error .outOfDateSurface)

theorem acquireNextImage_asks (s : Surface) :
    s.acquireNextImage.Keeps (s.calling .acquire) (fun r calls => s.Asks (.image r.1) calls)
      [] := by
  unfold acquireNextImage
  split
  · rename_i hnone
    simp only [notice, Program.keeps_andThen, Program.keeps_log, Program.keeps_pure]
    refine ⟨fun h => absurd rfl h, ?_⟩
    intro _ active hactive
    cases hnone.symm.trans hactive
  · rename_i active hactive
    split
    · rename_i held hheld
      simp only [notice, Program.keeps_andThen, Program.keeps_log, Program.keeps_pure]
      refine ⟨fun h => absurd rfl h, ?_⟩
      intro _ active' hactive' hfree
      cases hactive.symm.trans hactive'
      cases hheld.symm.trans hfree
    · rename_i hfree
      split
      · simp only [notice, Program.keeps_andThen, Program.keeps_log, Program.keeps_pure]
        exact ⟨fun h => absurd rfl h, fun _ _ _ _ => rfl⟩
      · simp only [Native.acquire, Program.keeps_andThen, Program.call, Program.keeps_ask,
          Program.keeps_done]
        refine ⟨trivial, ?_⟩
        intro answer _
        have hasks : ∀ reply, s.Asks reply [.asked Native.Call.acquire answer] :=
          fun reply => ⟨fun _ => ⟨active, hactive, hfree⟩, by simp⟩
        cases answer with
        | error e =>
          cases e with
          | _ => exact hasks _
        | ok index =>
          dsimp only
          split
          · simp only [notice, Program.keeps_andThen, Program.keeps_log, Program.keeps_pure]
            exact hasks _
          · simp only [notice, Program.keeps_andThen, Program.keeps_log, Program.keeps_pure]
            exact hasks _

/-- An operation acts in one of its ways, and asks for images only when it may. -/
theorem perform_asks (s : Surface) (op : Op) :
    (s.perform op).Keeps (s.calling op)
      (fun r calls => s.Acts op calls r.1 r.2 ∧ (op = .acquire → s.Asks r.1 calls)) [] := by
  by_cases hop : op = .acquire
  · subst hop
    apply (perform_acts s .acquire).and
    simp only [perform, Program.keeps_andThen, Program.keeps_pure]
    apply (acquireNextImage_asks s).mono
    intro _ _ h _
    exact h
  · apply (perform_acts s op).mono
    intro _ _ hacts
    exact ⟨hacts, fun h => absurd h hop⟩

end Surface

namespace Vulkan.WindowSurface

variable {full : Prop} {ws ws' : WindowSurface} {s : Surface}
  {es es' steps steps' : List (Event interface)} {e : Event Native.interface}
  {calls : List (Event Native.interface)}

/-- What a call comes to: its answer, the steps that were taken on images, and the window surface
afterwards. A new swapchain was supplied among some events. -/
inductive Serves (es' : List (Event interface)) (ws : WindowSurface) :
    Event Native.interface → List (Event interface) → WindowSurface → Prop
  | told (info : Except Error SurfaceInfo) : ws.Serves es' (.asked .queryInfo info) [] ws
  | configured {sc : Swapchain} (desc : SwapchainDesc) : sc.Supplied es' →
      ws.Serves es' (.asked (.configure desc) (.ok ())) [] { ws with swapchain := some sc }
  | refused (desc : SwapchainDesc) (e : Error) :
      ws.Serves es' (.asked (.configure desc) (.error e)) [] ws
  | unconfigured : ws.Serves es' (.asked .unconfigure ()) [] { ws with swapchain := none }
  | listed : ws.Serves es' (.asked .images ws.textures) [] ws
  | acquired {sc sc' : Swapchain} {result : Except Error Nat} {steps : List (Event interface)} :
      ws.swapchain = some sc → sc.Acquisition result steps sc'.stale → sc.Remains False sc' →
      ws.Serves es' (.asked .acquire result) steps { ws with swapchain := some sc' }
  | presented {sc sc' : Swapchain} {result : Except Error Unit} {steps : List (Event interface)}
      (index : Nat) : ws.swapchain = some sc → sc.Showing result steps sc'.stale →
      sc.Remains False sc' →
      ws.Serves es' (.asked (.present index) result) steps { ws with swapchain := some sc' }
  | notAcquired : ws.swapchain = none →
      ws.Serves es' (.asked .acquire (.error .notConfigured)) [] ws
  | notPresented (index : Nat) : ws.swapchain = none →
      ws.Serves es' (.asked (.present index) (.error .notConfigured)) [] ws

/-- The swapchain is complete, as far as allocations do not fall short. -/
def Whole (full : Prop) (ws : WindowSurface) : Prop :=
  ∀ sc, ws.swapchain = some sc → full → sc.Complete

theorem releaseSwapchain_takes (ws : WindowSurface) (h : Takes es steps es') :
    ws.releaseSwapchain.Keeps (supply full) (fun _ => Takes es steps) es' := by
  unfold releaseSwapchain
  split
  · exact Swapchain.release_takes ws.context _ h
  · exact h

theorem unconfigure_takes (ws : WindowSurface) :
    ws.unconfigure.Keeps (supply full)
      (fun ws' es' => ws' = { ws with swapchain := none } ∧ Takes es [] es') es := by
  unfold unconfigure
  split
  · apply Program.Keeps.andThen (releaseSwapchain_takes ws (Takes.refl es))
    intro _ es' hes
    simp only [notice, Program.keeps_andThen, Program.keeps_log, Program.keeps_pure]
    exact ⟨trivial, hes⟩
  · exact ⟨rfl, Takes.refl es⟩

/-- What is done on the swapchain, if there is one, is all that is done. -/
theorem onSwapchain_takes {α : Type} {t : Context → Swapchain.Build α}
    {P : Swapchain → Except Error α → List (Event interface) → Bool → Prop} (h : ws.Whole full)
    (ht : ∀ sc, (full → sc.Complete) → (t ws.context).Keeps (supply full)
      (fun a sc' es' => sc.Remains full sc' ∧
        ∃ steps, Takes es steps es' ∧ P sc (.ok a) steps sc'.stale)
      (fun e sc' es' => sc.Remains full sc' ∧
        ∃ steps, Takes es steps es' ∧ P sc (.error e) steps sc'.stale) sc es) :
    (ws.onSwapchain t).Keeps (supply full)
      (fun r es' => r.2.Whole full ∧ ∃ steps, Takes es steps es' ∧
        ((ws.swapchain = none ∧ steps = [] ∧ r = (.error .notConfigured, ws)) ∨
          ∃ sc sc', ws.swapchain = some sc ∧ sc.Remains False sc' ∧
            r.2 = { ws with swapchain := some sc' } ∧ P sc r.1 steps sc'.stale)) es := by
  unfold onSwapchain
  split
  · rename_i hnone
    exact ⟨h, [], Takes.refl es, Or.inl ⟨hnone, rfl, rfl⟩⟩
  · rename_i sc hsc
    apply Program.Keeps.andThen (ht sc (h sc hsc))
    rintro ⟨result, sc'⟩ es' hend
    obtain ⟨hs, steps, hes, hP⟩ : sc.Remains full sc' ∧
        ∃ steps, Takes es steps es' ∧ P sc result steps sc'.stale := by
      cases result with
      | error e => exact hend
      | ok a => exact hend
    refine ⟨?_, steps, hes, Or.inr ⟨sc, sc', hsc, ?_, rfl, hP⟩⟩
    · intro sc'' hsc''
      cases hsc''
      exact hs.complete
    · exact ⟨False.elim, hs.handle, hs.buffers, hs.textures⟩

/-- Any call is served so. -/
theorem serve_takes (h : ws.Whole full) (c : Native.Call) :
    (serve c ws).Keeps (supply full)
      (fun r es' => r.2.Whole full ∧
        ∃ steps, Takes es steps es' ∧ ws.Serves es' (.asked c r.1) steps r.2) es := by
  cases c with
  | queryInfo =>
    have hbears : (supply full).Bears Call.Inquires (Takes es []) :=
      takes_bears es fun _ hc => hc.not_works
    apply Program.Keeps.andThen (strictly_bears hbears (queryInfo_strictly ws) (Takes.refl es))
    intro info es' hes
    exact ⟨h, [], hes.2, .told info⟩
  | configure desc =>
    apply Program.Keeps.andThen (Swapchain.create_takes ws.context ws.surface desc _)
    intro made es' hmade
    cases made with
    | error e => exact ⟨h, [], hmade, .refused desc e⟩
    | ok sc =>
      obtain ⟨hes, hnew⟩ := hmade
      apply Program.Keeps.andThen (releaseSwapchain_takes ws (Takes.refl es'))
      intro _ es'' hes'
      refine ⟨?_, [], hes.trans hes', .configured desc (hnew.supplied.mono hes'.later.subset)⟩
      intro sc' hsc'
      cases hsc'
      exact hnew.complete
  | unconfigure =>
    apply Program.Keeps.andThen (unconfigure_takes ws)
    intro ws' es' hgone
    obtain ⟨rfl, hes⟩ := hgone
    refine ⟨?_, [], hes, .unconfigured⟩
    intro sc hsc
    cases hsc
  | images => exact ⟨h, [], Takes.refl es, .listed⟩
  | acquire =>
    apply (onSwapchain_takes (P := Swapchain.Acquisition) h
      fun sc hsc => Swapchain.acquire_takes ws.context hsc).mono
    intro r es' hr
    obtain ⟨hwhole, steps, hes, ⟨hnone, rfl, rfl⟩ | ⟨sc, sc', hsc, hs, hws, hP⟩⟩ := hr
    · exact ⟨hwhole, [], hes, .notAcquired hnone⟩
    · refine ⟨hwhole, steps, hes, ?_⟩
      rw [hws]
      exact .acquired hsc hP hs
  | present index =>
    apply (onSwapchain_takes (t := (Swapchain.present · index)) (P := Swapchain.Showing) h
      fun sc hsc => Swapchain.present_takes ws.context index hsc).mono
    intro r es' hr
    obtain ⟨hwhole, steps, hes, ⟨hnone, rfl, rfl⟩ | ⟨sc, sc', hsc, hs, hws, hP⟩⟩ := hr
    · exact ⟨hwhole, [], hes, .notPresented index hnone⟩
    · refine ⟨hwhole, steps, hes, ?_⟩
      rw [hws]
      exact .presented index hsc hP hs

theorem Serves.mono (h : ws.Serves es e steps ws') (hes : es ⊆ es') :
    ws.Serves es' e steps ws' := by
  cases h with
  | told info => exact .told info
  | configured desc hsupplied => exact .configured desc (hsupplied.mono hes)
  | refused desc e => exact .refused desc e
  | unconfigured => exact .unconfigured
  | listed => exact .listed
  | acquired hsc hacquisition hs => exact .acquired hsc hacquisition hs
  | presented index hsc hshowing hs => exact .presented index hsc hshowing hs
  | notAcquired hnone => exact .notAcquired hnone
  | notPresented index hnone => exact .notPresented index hnone

/-- Calls that are served one after another. -/
def Serving (es' : List (Event interface)) :
    WindowSurface → List (Event Native.interface) → List (Event interface) → WindowSurface → Prop
  | ws, [], steps, ws' => steps = [] ∧ ws' = ws
  | ws, e :: calls, steps, ws' => ∃ first rest mid, steps = first ++ rest ∧
      ws.Serves es' e first mid ∧ Serving es' mid calls rest ws'

theorem Serving.mono (h : Serving es ws calls steps ws') (hes : es ⊆ es') :
    Serving es' ws calls steps ws' := by
  induction calls generalizing ws steps with
  | nil => exact h
  | cons e calls ih =>
    obtain ⟨first, rest, mid, hsteps, hserves, hrest⟩ := h
    exact ⟨first, rest, mid, hsteps, hserves.mono hes, ih hrest⟩

theorem Serving.append {ws'' : WindowSurface} (h : Serving es ws calls steps ws')
    (he : ws'.Serves es e steps' ws'') : Serving es ws (calls ++ [e]) (steps ++ steps') ws'' := by
  induction calls generalizing ws steps with
  | nil =>
    obtain ⟨rfl, rfl⟩ := h
    exact ⟨steps', [], ws'', (List.append_nil _).symm, he, rfl, rfl⟩
  | cons e' calls ih =>
    obtain ⟨first, rest, mid, rfl, hserves, hrest⟩ := h
    exact ⟨first, rest ++ steps', mid, List.append_assoc .., hserves, ih hrest⟩

/-- An operation is served as a chain of calls. -/
theorem perform_takes (h : ws.Whole full) (s : Surface) (op : Surface.Op) :
    ((s.perform op).servedBy serve ws).Keeps (supply full)
      (fun r es' => r.2.Whole full ∧ ∃ calls steps, Takes es steps es' ∧
        Serving es' ws calls steps r.2 ∧ s.Acts op calls r.1.1 r.1.2 ∧
        (op = .acquire → s.Asks r.1.1 calls)) es := by
  have hserve : ∀ c ws' es' calls,
      (ws'.Whole full ∧ ∃ steps, Takes es steps es' ∧ Serving es' ws calls steps ws') →
      (s.calling op).allows calls c → (serve c ws').Keeps (supply full)
        (fun r es'' => (s.calling op).trusts calls c r.1 ∧ r.2.Whole full ∧
          ∃ steps, Takes es steps es'' ∧
            Serving es'' ws ((s.calling op).see calls (.asked c r.1)) steps r.2) es' := by
    intro c ws' es' calls hstart _
    obtain ⟨hwhole, steps, hes, hserving⟩ := hstart
    apply (serve_takes hwhole c).mono
    intro r es'' hr
    obtain ⟨hwhole', steps', hes', hserves⟩ := hr
    exact ⟨trivial, hwhole', steps ++ steps', hes.trans hes',
      (hserving.mono hes'.later.subset).append hserves⟩
  have hstart : ws.Whole full ∧ ∃ steps, Takes es steps es ∧ Serving es ws [] steps ws :=
    ⟨h, [], Takes.refl es, rfl, rfl⟩
  apply ((Surface.perform_asks s op).servedBy False.elim hserve hstart).mono
  intro r es' hr
  obtain ⟨calls, ⟨hwhole, steps, hes, hserving⟩, hacts, hasks⟩ := hr
  exact ⟨hwhole, calls, steps, hes, hserving, hacts, hasks⟩

end Vulkan.WindowSurface

end Presentation
