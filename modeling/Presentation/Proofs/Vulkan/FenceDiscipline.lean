import Mathlib.Data.List.Nodup
import Presentation.Proofs.Surface.Protocol
import Presentation.Proofs.Vulkan.Ledger
import Presentation.Proofs.Vulkan.SwapchainFences

/-!
# Fence discipline

Whatever a surface is asked for, its swapchain has its fences and buffers in
order. So no fence is given away that is in use, and no buffer is submitted
again before its submission was waited for, as long as the driver gives nothing
out twice.
-/

set_option autoImplicit false

namespace Presentation.Vulkan

variable {α σ : Type} {g : Guards}

namespace WindowSurface

variable {ws : WindowSurface}

/-- The swapchain, if there is one, has its fences and buffers in order. -/
def Guarded (ws : WindowSurface) (g : Guards) : Prop :=
  ∀ sc, ws.swapchain = some sc → sc.Guarded g

theorem configure_guards (desc : SwapchainDesc) (h : ws.Guarded g) :
    (ws.configure desc).Keeps guarding (fun r g' => r.2.Guarded g') g := by
  apply Program.Keeps.andThen (Swapchain.create_guards ws.context ws.surface desc _)
  rintro (e | new) g' h'
  · intro sc hs
    exact Guards.Orderly.spared (h sc hs) h'
  have hrelease : ws.releaseSwapchain.Keeps guarding
      (fun _ g' => g'.Orderly True new.fenceAt new.bufferAt) g' := by
    unfold releaseSwapchain
    split
    · rename_i sc hs
      apply Swapchain.release_guards ws.context _ h'.orderly
      intro p f g'' hp horderly
      -- The fences of the old swapchain were live before, those of the new one were not.
      apply horderly.destroy
      intro q hq
      exact (h sc hs).live p f hp (h'.new q f hq)
    · exact h'.orderly
  apply Program.Keeps.andThen hrelease
  rintro _ g'' horderly sc hs
  cases hs
  exact horderly.weaken fun _ => trivial

theorem guarded_none (hs : ws.swapchain = none) : ws.Guarded g := by
  intro sc hs'
  rw [hs] at hs'
  cases hs'

theorem unconfigure_guards (ws : WindowSurface) :
    ws.unconfigure.Keeps guarding (fun ws' g' => ws'.Guarded g') g := by
  have hrelease : ws.releaseSwapchain.Keeps guarding (fun _ _ => True) g := by
    unfold releaseSwapchain
    split
    · exact Swapchain.release_guards ws.context (fun _ _ _ _ _ => trivial) trivial
    · trivial
  unfold unconfigure
  split
  · apply Program.Keeps.andThen hrelease
    intro _ _ _
    simp only [notice, Program.keeps_andThen, Program.keeps_log]
    exact guarded_none rfl
  · exact guarded_none rfl

theorem onSwapchain_guards {t : Context → Swapchain.Build α} (h : ws.Guarded g)
    (ht : ∀ sc, sc.Guarded g → (t ws.context).Keeps guarding (fun _ sc' g' => sc'.Guarded g')
      (fun _ sc' g' => sc'.Guarded g') sc g) :
    (ws.onSwapchain t).Keeps guarding (fun r g' => r.2.Guarded g') g := by
  unfold onSwapchain
  split
  · exact h
  · rename_i sc hs
    apply Program.Keeps.andThen (ht sc (h sc hs))
    rintro ⟨e | a, sc'⟩ g' h' _ heq
    · cases heq
      exact h'
    · cases heq
      exact h'

/-- Whatever a surface asks for, its fences and buffers stay in order. -/
theorem serve_guards (call : Native.Call) (h : ws.Guarded g) :
    (ws.serve call).Keeps guarding (fun r g' => r.2.Guarded g') g := by
  cases call with
  | queryInfo =>
    apply Program.Keeps.andThen (within_bears (bears_plain ws.Guarded fun _ hc => hc.plain) trivial
      ws.queryInfo_keeps h)
    intro _ _ h'
    exact h'.2
  | images => exact h
  | configure desc => exact configure_guards desc h
  | unconfigure =>
    apply Program.Keeps.andThen (unconfigure_guards ws)
    intro _ _ h'
    exact h'
  | acquire => exact onSwapchain_guards h fun sc hsc => Swapchain.acquire_guards ws.context hsc
  | present index =>
    exact onSwapchain_guards (t := (Swapchain.present · index)) h
      fun sc hsc => Swapchain.present_guards ws.context index hsc

end WindowSurface

/-- A driver that grants everything, and never gives out a handle or a buffer twice. -/
def lavish (c : Call) (next : Nat) : c.Answer × Nat :=
  match c with
  | .create _ => (.ok ⟨next⟩, next + 1)
  | .allocate _ _ count => (.ok ((List.range' next count).map .mk), next + count)
  | c => ((stubborn c ()).1, next)

namespace Guards

variable {next : Nat} {e : Event interface}

/-- Whatever was given out has a number below the next one. -/
structure Below (g : Guards) (next : Nat) : Prop where
  fence : ∀ f, g.fence f ≠ none → f.id < next
  allotted : ∀ pool, ∀ b ∈ g.allotted pool, b.id < next

theorem below_initial : initial.Below 0 := ⟨by simp [initial], by simp [initial]⟩

theorem live_of_see {f : Handle .fence} (h : (g.see e).fence f ≠ none) :
    g.fence f ≠ none ∨
      ∃ device signaled, e = .asked (.create (.fence device signaled)) (.ok f) := by
  have hmark : ∀ {f' s}, (g.mark f' s).fence f ≠ none → g.fence f ≠ none := by
    intro f' s hlive
    by_cases heq : f = f'
    · subst heq
      intro hnone
      simp [mark, hnone] at hlive
    · rwa [mark_ne heq] at hlive
  unfold see at h
  split at h
  · rename_i device signaled f'
    by_cases heq : f = f'
    · subst heq
      exact Or.inr ⟨device, signaled, rfl⟩
    · rw [make_ne heq] at h
      exact Or.inl h
  · rename_i f' _
    by_cases heq : f = f'
    · subst heq
      simp [destroy] at h
    · rw [destroy_ne heq] at h
      exact Or.inl h
  · exact Or.inl (hmark h)
  · exact Or.inl (hmark h)
  · exact Or.inl (hmark h)
  · exact Or.inl (hmark h)
  · exact Or.inl h
  · exact Or.inl h
  · exact Or.inl h

theorem allotted_of_see {pool : Handle .pool} {b : CommandBuffer}
    (h : b ∈ (g.see e).allotted pool) :
    b ∈ g.allotted pool ∨ ∃ device count bs, e = .asked (.allocate device pool count) (.ok bs) ∧
      b ∈ bs := by
  unfold see at h
  split at h
  · exact Or.inl h
  · exact Or.inl h
  · exact Or.inl h
  · exact Or.inl h
  · exact Or.inl h
  · exact Or.inl h
  · rename_i pool'
    by_cases heq : pool = pool'
    · subst heq
      simp [openPool] at h
    · left
      simpa [openPool, heq] using h
  · rename_i pool' _ bs
    by_cases heq : pool = pool'
    · subst heq
      have hgiven : b ∈ g.allotted pool ++ bs := by simpa [allot] using h
      rcases List.mem_append.mp hgiven with hold | hnew
      · exact Or.inl hold
      · exact Or.inr ⟨_, _, bs, rfl, hnew⟩
    · left
      simpa [allot, heq] using h
  · exact Or.inl h

theorem mem_lavish {count : Nat} {b : CommandBuffer}
    (hb : b ∈ (List.range' next count).map CommandBuffer.mk) :
    next ≤ b.id ∧ b.id < next + count := by
  obtain ⟨id, hid, rfl⟩ := List.mem_map.mp hb
  exact List.mem_range'_1.mp hid

theorem lavish_distinct (h : g.Below next) (c : Call) : g.Distinct c (lavish c next).1 := by
  cases c with
  | create what =>
    cases what with
    | fence device signaled =>
      by_contra hlive
      exact Nat.lt_irrefl _ (h.fence ⟨next⟩ hlive)
    | _ => trivial
  | allocate device pool count =>
    constructor
    · apply List.Nodup.map _ List.nodup_range'
      intro id id' heq
      exact CommandBuffer.mk.inj heq
    · intro b hb hold
      exact Nat.not_lt.mpr (mem_lavish hb).1 (h.allotted pool b hold)
  | _ => trivial

theorem lavish_le (c : Call) : next ≤ (lavish c next).2 := by
  cases c with
  | create => exact Nat.le_succ next
  | allocate _ _ count => exact Nat.le_add_right next count
  | _ => exact Nat.le_refl next

theorem lavish_below (h : g.Below next) (c : Call) :
    (g.see (.asked c (lavish c next).1)).Below (lavish c next).2 where
  fence f hf := by
    rcases live_of_see hf with hlive | ⟨device, signaled, heq⟩
    · exact Nat.lt_of_lt_of_le (h.fence f hlive) (lavish_le c)
    · cases heq
      exact Nat.lt_succ_self next
  allotted pool b hb := by
    rcases allotted_of_see hb with hold | ⟨device, count, bs, heq, hnew⟩
    · exact Nat.lt_of_lt_of_le (h.allotted pool b hold) (lavish_le c)
    · cases heq
      exact (mem_lavish hnew).2

/-- What it gives out is trusted by every program. -/
theorem lavish_trusted (p : Program α) (h : g.Below next) :
    guarding.Trusts g (p.run lavish next).events := by
  induction p generalizing g next with
  | done a =>
    intro n c a hn
    simp [Program.run] at hn
  | note entry p ih =>
    intro n c a hn
    cases n with
    | zero => simp [Program.run] at hn
    | succ n => exact ih h n c a hn
  | ask c k ih =>
    intro n c' a hn
    cases n with
    | zero =>
      cases hn
      exact lavish_distinct h c
    | succ n => exact ih _ (lavish_below h c) n c' a hn
  | halt r =>
    intro n c a hn
    simp [Program.run] at hn

end Guards

namespace WindowSurface

/-- A surface from its creation to its end leaves no fence or buffer out of order. -/
theorem wholeLife_guards (ctx : Context) (surface : Handle .surface) (device : String)
    (ops : List Surface.Op) :
    ((Surface.wholeLife device ops).servedBy serve ⟨ctx, surface, none⟩).Keeps guarding
      (fun _ _ => True) .initial := by
  have hserve : ∀ c (ws : WindowSurface) g st, ws.Guarded g → Native.protocol.allows st c →
      (serve c ws).Keeps guarding
        (fun r g' => Native.protocol.trusts st c r.1 ∧ r.2.Guarded g') g := by
    intro c ws g st h _
    apply (serve_guards c h).mono
    intro _ _ h'
    exact ⟨trivial, h'⟩
  have hstart : (⟨ctx, surface, none⟩ : WindowSurface).Guarded .initial := guarded_none rfl
  apply (Program.Keeps.servedBy False.elim hserve (Surface.wholeLife_keeps device ops) hstart).mono
  intro _ _ _
  trivial

/-- With a driver that gives out no fence whose handle is live, and no buffer twice, a surface gives
away no fence that is in use, whatever operations it is put through and however its calls end, and
submits no buffer again before its submission was waited for. -/
theorem keeps_fence_discipline (answer : (c : Call) → σ → c.Answer × σ) (driver : σ)
    (ctx : Context) (surface : Handle .surface) (device : String) (ops : List Surface.Op) :
    let run :=
      ((Surface.wholeLife device ops).servedBy serve ⟨ctx, surface, none⟩).run answer driver
    (∀ (n : Nat) c a, run.events[n]? = some (.asked c a) →
      (guards (run.events.take n)).Distinct c a) →
    Disciplined run.events := by
  intro run hdistinct
  obtain ⟨hallows, -, -⟩ := (wholeLife_guards ctx surface device ops).run answer driver hdistinct
  exact disciplined_of_allows hallows

/-- An image is acquired, presented, and acquired again. -/
def reacquiring : List (Event interface) :=
  (((Surface.wholeLife "gpu" [.configure (.ofSize 4 4), .acquire, .present, .acquire]).servedBy
    serve ⟨.plain, ⟨0⟩, none⟩).run lavish 0).events

theorem reacquiring_waits : ∃ before between later,
    reacquiring = before ++ .asked (.submit ⟨0⟩ ⟨7⟩ none ⟨3⟩) (.ok ()) ::
      (between ++ .asked (.submit ⟨0⟩ ⟨7⟩ none ⟨3⟩) (.ok ()) :: later) ∧
    ∃ e ∈ between, Waits ⟨3⟩ e := by
  have hdisciplined : Disciplined reacquiring :=
    keeps_fence_discipline lavish 0 .plain ⟨0⟩ "gpu"
      [.configure (.ofSize 4 4), .acquire, .present, .acquire]
      (Guards.lavish_trusted _ Guards.below_initial)
  have hsplit : reacquiring = reacquiring.take 32 ++
      .asked (.submit ⟨0⟩ ⟨7⟩ none ⟨3⟩) (.ok ()) :: ((reacquiring.drop 33).take 11 ++
        .asked (.submit ⟨0⟩ ⟨7⟩ none ⟨3⟩) (.ok ()) :: reacquiring.drop 45) := rfl
  have hbetween : ∀ e ∈ (reacquiring.drop 33).take 11, ¬ Renews ⟨7⟩ e := by decide +kernel
  obtain ⟨first, e, rest, heq, hwaits, -⟩ :=
    hdisciplined.waits _ _ _ _ _ _ _ _ _ _ _ _ hsplit hbetween
  exact ⟨_, _, _, hsplit, e, by simp [heq], hwaits⟩

end WindowSurface

end Presentation.Vulkan
