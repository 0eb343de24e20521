import Presentation.Proofs.Surface.Protocol
import Presentation.Proofs.Vulkan.Ledger

/-!
# Succession of swapchains

A swapchain that is handed over to be replaced should not be put to use again,
whatever becomes of its replacement. A window surface keeps its swapchain when
the replacement fails, and that is the one case in which it does so: the
swapchain that it puts to use was handed over before exactly if it is there
because what should have taken its place was not made or is gone.
-/

set_option autoImplicit false

namespace Presentation.Vulkan

open Native (Standing protocol)

namespace WindowSurface

/-- The swapchain of a window surface is the one that is left, and whatever should have replaced
it is gone. -/
structure Remains (ws : WindowSurface) (g : Ledger) : Prop where
  replaced : ∀ p ∈ g.replaced, p.1 ∈ g.created
  destroyed : ∀ h ∈ g.destroyed, h ∈ g.created
  left : ∀ h ∈ g.created, h ∈ g.destroyed ∨ ws.handle? = some h
  current : ∀ h, ws.handle? = some h → h ∈ g.created
  live : g.Distinct → ∀ h, ws.handle? = some h → h ∉ g.destroyed
  gone : g.Distinct → ∀ p ∈ g.replaced, ws.handle? = some p.1 → g.Gone p.2

variable {calm : Prop} {ws ws' : WindowSurface} {g g' : Ledger} {sc sc' : Swapchain}

/-- The use of the swapchain is a reuse exactly if some swapchain is bereft. -/
theorem Remains.reuse_iff (h : ws.Remains g) (hd : g.Distinct) :
    (∃ p ∈ g.replaced, ws.handle? = some p.1) ↔ g.Bereft := by
  constructor
  · intro hr
    obtain ⟨p, hp, hcurrent⟩ := hr
    exact ⟨p, hp, h.live hd p.1 hcurrent, h.gone hd p hp hcurrent⟩
  · intro hr
    obtain ⟨p, hp, hlive, -⟩ := hr
    rcases h.left p.1 (h.replaced p hp) with hgone | hcurrent
    · exact absurd hgone hlive
    · exact ⟨p, hp, hcurrent⟩

theorem remains_initial (ctx : Context) (surface : Handle .surface) :
    Remains ⟨ctx, surface, none⟩ .empty where
  replaced := by simp [Ledger.empty]
  destroyed := by simp [Ledger.empty]
  left := by simp [Ledger.empty]
  current := by simp [handle?]
  live := by simp [handle?]
  gone := by simp [Ledger.empty]

/-- Nothing matters but the handle, and what was created, destroyed and replaced. -/
theorem Remains.congr (h : ws.Remains g) (hhandle : ws'.handle? = ws.handle?)
    (hcreated : g'.created = g.created) (hdestroyed : g'.destroyed = g.destroyed)
    (hreplaced : g'.replaced = g.replaced) : ws'.Remains g' := by
  obtain ⟨hrep, hdes, hleft, hcur, hlive, hgone⟩ := h
  constructor
  · simpa only [hcreated, hreplaced] using hrep
  · simpa only [hcreated, hdestroyed] using hdes
  · simpa only [hcreated, hdestroyed, hhandle] using hleft
  · simpa only [hcreated, hhandle] using hcur
  · simpa only [Ledger.Distinct, hcreated, hdestroyed, hhandle] using hlive
  · simpa only [Ledger.Distinct, Ledger.Gone, hcreated, hdestroyed, hreplaced, hhandle] using hgone

theorem mem_replaced_create {old heir : Option (Handle .swapchain)}
    {p : Handle .swapchain × Option (Handle .swapchain)} :
    p ∈ (g.create old heir).replaced ↔ p ∈ g.replaced ∨ old = some p.1 ∧ p.2 = heir := by
  cases old with
  | none => simp [Ledger.create]
  | some h =>
    obtain ⟨x, y⟩ := p
    simp [Ledger.create, eq_comm]

/-- A replacement that was not made leaves the swapchain there is. -/
theorem Remains.notMade (h : ws.Remains g) : ws.Remains (g.create ws.handle? none) where
  replaced := by
    intro p hp
    rcases mem_replaced_create.mp hp with hp | ⟨hcurrent, -⟩
    · simpa [Ledger.create] using h.replaced p hp
    · simpa [Ledger.create] using h.current p.1 hcurrent
  destroyed := by simpa [Ledger.create] using h.destroyed
  left := by simpa [Ledger.create] using h.left
  current := by simpa [Ledger.create] using h.current
  live := by
    intro hd
    exact h.live hd.of_create
  gone := by
    intro hd p hp hcurrent
    rcases mem_replaced_create.mp hp with hp | ⟨-, hheir⟩
    · exact h.gone hd.of_create p hp hcurrent
    · intro x hx
      rw [hheir] at hx
      cases hx

/-- Neither does one that was made and destroyed at once. -/
theorem Remains.undone (h : ws.Remains g) (heir : Handle .swapchain) :
    ws.Remains ((g.create ws.handle? (some heir)).destroy heir) where
  replaced := by
    intro p hp
    rcases mem_replaced_create.mp hp with hp | ⟨hcurrent, -⟩
    · simp [Ledger.create, Ledger.destroy, h.replaced p hp]
    · simp [Ledger.create, Ledger.destroy, h.current p.1 hcurrent]
  destroyed := by
    intro x hx
    simp only [Ledger.create, Ledger.destroy, List.mem_append, List.mem_singleton] at hx
    rcases hx with hx | rfl
    · simp [Ledger.create, Ledger.destroy, h.destroyed x hx]
    · simp [Ledger.create, Ledger.destroy]
  left := by
    intro x hx
    simp only [Ledger.create, Ledger.destroy, Option.toList_some, List.mem_append,
      List.mem_singleton] at hx ⊢
    rcases hx with hx | rfl
    · rcases h.left x hx with hgone | hcurrent
      · exact Or.inl (Or.inl hgone)
      · exact Or.inr hcurrent
    · exact Or.inl (Or.inr rfl)
  current := by
    intro x hx
    simp [Ledger.create, Ledger.destroy, h.current x hx]
  live := by
    intro hd x hx
    have hbefore : (g.create ws.handle? (some heir)).Distinct := hd
    have hne : x ≠ heir := by
      intro heq
      subst heq
      exact hbefore.not_mem (h.current x hx)
    simp [Ledger.create, Ledger.destroy, hne, h.live hbefore.of_create x hx]
  gone := by
    intro hd p hp hcurrent x hx
    have hbefore : (g.create ws.handle? (some heir)).Distinct := hd
    rcases mem_replaced_create.mp hp with hp | ⟨-, hheir⟩
    · have hgone := h.gone hbefore.of_create p hp hcurrent x hx
      simp [Ledger.create, Ledger.destroy, hgone]
    · rw [hheir, Option.some.injEq] at hx
      simp [Ledger.destroy, hx]

theorem Remains.succeeded (h : ws.Remains g)
    (hg : ws.Cleared (g.create ws.handle? (some sc.handle)) g') :
    Remains { ws with swapchain := some sc } g' where
  replaced := by
    intro p hp
    rw [hg.replaced, mem_replaced_create] at hp
    rw [hg.created]
    rcases hp with hp | ⟨hcurrent, -⟩
    · simp [Ledger.create, h.replaced p hp]
    · simp [Ledger.create, h.current p.1 hcurrent]
  destroyed := by
    intro x hx
    rw [hg.mem_destroyed] at hx
    rw [hg.created]
    rcases hx with hx | hcurrent
    · simp [Ledger.create, h.destroyed x hx]
    · simp [Ledger.create, h.current x hcurrent]
  left := by
    intro x hx
    rw [hg.created] at hx
    rw [hg.mem_destroyed]
    simp only [Ledger.create, Option.toList_some, List.mem_append, List.mem_singleton] at hx
    rcases hx with hx | rfl
    · exact Or.inl (h.left x hx)
    · exact Or.inr rfl
  current := by
    intro x heq
    cases heq
    simp [hg.created, Ledger.create]
  live := by
    intro hd x heq hx
    cases heq
    rw [Ledger.Distinct, hg.created] at hd
    have hbefore : (g.create ws.handle? (some sc.handle)).Distinct := hd
    rw [hg.mem_destroyed] at hx
    rcases hx with hx | hcurrent
    · exact hbefore.not_mem (h.destroyed _ hx)
    · exact hbefore.not_mem (h.current _ hcurrent)
  gone := by
    -- a new swapchain was not handed over yet
    intro hd p hp hcurrent
    rw [Ledger.Distinct, hg.created] at hd
    have hbefore : (g.create ws.handle? (some sc.handle)).Distinct := hd
    have hheir : sc.handle = p.1 := Option.some.inj hcurrent
    rw [hg.replaced, mem_replaced_create] at hp
    exfalso
    apply hbefore.not_mem (hheir ▸ _)
    rcases hp with hp | ⟨hold, -⟩
    · exact h.replaced p hp
    · exact h.current p.1 hold

theorem Remains.ended (h : ws.Remains g) (hg : ws.Cleared g g') :
    Remains { ws with swapchain := none } g' where
  replaced := by
    intro p hp
    rw [hg.replaced] at hp
    rw [hg.created]
    exact h.replaced p hp
  destroyed := by
    intro x hx
    rw [hg.mem_destroyed] at hx
    rw [hg.created]
    rcases hx with hx | hcurrent
    · exact h.destroyed x hx
    · exact h.current x hcurrent
  left := by
    intro x hx
    rw [hg.created] at hx
    rw [hg.mem_destroyed]
    exact Or.inl (h.left x hx)
  current := by simp [handle?]
  live := by simp [handle?]
  gone := by simp [handle?]

theorem configure_remains (h : ws.Remains g) (desc : SwapchainDesc) :
    (ws.configure desc).Keeps (keeper calm True) (fun r g' => r.2.Remains g') g := by
  apply Program.keeps_andThen.mpr ((Swapchain.create_keeps ws.context ws.surface desc _ _).mono _)
  · intro device request hold _ hd _
    rw [← h.reuse_iff hd]
    simp [Ledger.Reuses, hold, handle?]
  rintro (e | sc) g' hc
  · rcases hc with rfl | rfl | ⟨heir, rfl⟩
    · exact h
    · exact h.notMade
    · exact h.undone heir
  · obtain ⟨rfl, -⟩ := hc
    apply Program.Keeps.andThen (releaseSwapchain_keeps ws)
    intro _ g' hg
    exact h.succeeded hg

theorem unconfigure_remains (h : ws.Remains g) :
    ws.unconfigure.Keeps (keeper calm True) (fun ws' g' => ws'.Remains g') g := by
  unfold unconfigure
  split
  · apply Program.Keeps.andThen (releaseSwapchain_keeps ws)
    intro _ g' hg
    simp only [notice, Program.keeps_andThen, Program.keeps_log, Program.keeps_pure]
    exact h.ended hg
  · rename_i hnone
    have hs : ws.swapchain = none := by simpa using hnone
    have hhandle : ws.handle? = none := by simp [handle?, hs]
    apply h.ended
    rw [Cleared, hhandle]

theorem acquire_remains (h : ws.Remains g) :
    (ws.onSwapchain Swapchain.acquire).Keeps (keeper calm True) (fun r g' => r.2.Remains g') g := by
  unfold onSwapchain
  split
  · exact h
  · rename_i sc hs
    apply Program.keeps_andThen.mpr (Program.Keeps.mono
      (Swapchain.acquire_keeps ws.context sc ?_) ?_)
    · intro fence _ hd _
      rw [← h.reuse_iff hd, handle?_eq hs]
      simp [Ledger.Reuses]
    rintro ⟨e | index, sc'⟩ g' hr
    · obtain ⟨hhandle, -, -, ⟨-, rfl⟩ | ⟨-, -, index, rfl⟩⟩ : sc.Missed g e sc' g' := hr
      · exact h.congr (by simp [handle?, hs, hhandle]) rfl rfl rfl
      · exact h.congr (by simp [handle?, hs, hhandle]) rfl rfl rfl
    · obtain ⟨-, -, hhandle, -, -, rfl⟩ : sc.Took g index sc' g' := hr
      exact h.congr (by simp [handle?, hs, hhandle]) rfl rfl rfl

theorem present_remains (h : ws.Remains g) (index : Nat) :
    (ws.onSwapchain (Swapchain.present · index)).Keeps (keeper calm True)
      (fun r g' => r.2.Remains g') g := by
  unfold onSwapchain
  split
  · exact h
  · rename_i sc hs
    apply Program.keeps_andThen.mpr (Program.Keeps.mono
      (Swapchain.present_keeps ws.context index sc) ?_)
    rintro ⟨e | ⟨⟩, sc'⟩ g' hr
    · rcases hr with ⟨ha, rfl, -⟩ | ⟨⟨-, hhandle, -, -, rfl⟩, -⟩
      · exact h.congr (by simp [handle?, hs, ha.1]) rfl rfl rfl
      · exact h.congr (by simp [handle?, hs, hhandle]) rfl rfl rfl
    · obtain ⟨-, hhandle, -, -, rfl⟩ : sc.Queued g index sc' g' := hr
      exact h.congr (by simp [handle?, hs, hhandle]) rfl rfl rfl

theorem serve_remains (h : ws.Remains g) (c : Native.Call) :
    (serve c ws).Keeps (keeper calm True) (fun r g' => r.2.Remains g') g := by
  cases c with
  | queryInfo =>
    apply Program.Keeps.andThen (keeper_aside
      (within_aside (fun _ hc => hc.aside) (queryInfo_keeps ws)))
    intro info _ hr
    obtain ⟨-, rfl⟩ := hr
    exact h
  | configure desc => exact configure_remains h desc
  | unconfigure =>
    apply Program.Keeps.andThen (unconfigure_remains h)
    intro ws' g' h'
    exact h'
  | images => exact h
  | acquire => exact acquire_remains h
  | present index => exact present_remains h index

theorem life_remains (ctx : Context) (surface : Handle .surface) (device : String)
    (ops : List Surface.Op) :
    (life ctx surface device ops).Keeps (keeper False True) (fun _ _ => True) .empty := by
  have hserve : ∀ c ws g (st : Standing), Remains ws g → protocol.allows st c →
      (serve c ws).Keeps (keeper False True) (fun r g' => protocol.trusts st c r.1 ∧
        r.2.Remains g') g := by
    intro c ws g st h _
    exact (serve_remains h c).mono fun _ _ h' => ⟨trivial, h'⟩
  apply (Program.Keeps.servedBy False.elim hserve (Surface.life_keeps device ops)
    (remains_initial ctx surface)).mono ?_
  intro _ _ _
  trivial

variable {σ : Type}

/-- Where a swapchain is put to use, it is one that was handed over to be replaced exactly if
there is a swapchain whose replacement failed. Unless a replacement fails, no swapchain is reused;
once one has failed, every use is a reuse until the swapchain is destroyed. -/
theorem reuses_iff_bereft (answer : (c : Call) → σ → c.Answer × σ) (driver : σ)
    (ctx : Context) (surface : Handle .surface) (device : String) (ops : List Surface.Op)
    (hdistinct : (ledger ((life ctx surface device ops).run answer driver).events).Distinct)
    (n : Nat) (c : Call) (a : c.Answer) (hc : c.Employs)
    (hn : ((life ctx surface device ops).run answer driver).events[n]? = some (.asked c a)) :
    (ledger (((life ctx surface device ops).run answer driver).events.take n)).Reuses c ↔
      (ledger (((life ctx surface device ops).run answer driver).events.take n)).Bereft := by
  have hrun := (life_remains ctx surface device ops).run answer driver
    fun _ _ _ _ hcalm => hcalm.elim
  exact hrun.1 n c a hn trivial (ledger_distinct_take hdistinct n) hc

/-- A surface that is configured three times, the later two in vain, and acquires an image. -/
def refused : Run interface Unit (Except Error (List Surface.Reply × Surface) × WindowSurface) :=
  (life .plain ⟨0⟩ "gpu" [.configure (.ofSize 4 4), .configure (.ofSize 4 4),
    .configure (.ofSize 4 4), .acquire]).run stubborn ()

/-- When the image is acquired, the swapchain is bereft of its replacement. -/
theorem refused_bereft : ∃ c a, refused.events[37]? = some (.asked c a) ∧ c.Employs ∧
    (ledger (refused.events.take 37)).Reuses c ∧ (ledger (refused.events.take 37)).Bereft := by
  have hdistinct : (ledger refused.events).Distinct := by
    unfold Ledger.Distinct
    decide +kernel
  have hreuses : (ledger (refused.events.take 37)).Reuses (.acquire ⟨0⟩ ⟨0⟩ (some ⟨0⟩)) :=
    ⟨(⟨0⟩, none), by decide +kernel, rfl⟩
  refine ⟨.acquire ⟨0⟩ ⟨0⟩ (some ⟨0⟩), .ok ⟨0, false⟩, rfl, trivial, hreuses, ?_⟩
  exact (reuses_iff_bereft stubborn () .plain ⟨0⟩ "gpu" _ hdistinct 37
    (.acquire ⟨0⟩ ⟨0⟩ (some ⟨0⟩)) (.ok ⟨0, false⟩) trivial rfl).mp hreuses

/-- A swapchain that was handed over to be replaced is handed over again, and then an image of it
is acquired. -/
theorem retired_swapchain_reused : (ledger refused.events).Distinct ∧
    ∃ (h : Handle .swapchain) (m n k : Nat) (device : Handle .device)
      (request request' : SwapchainRequest) (fence : Option (Handle .fence)) (image : Acquired),
      m < n ∧ n < k ∧
      refused.events[m]? =
        some (.asked (.create (.swapchain device request)) (.error .outOfHostMemory)) ∧
      request.old = some h ∧
      refused.events[n]? =
        some (.asked (.create (.swapchain device request')) (.error .outOfHostMemory)) ∧
      request'.old = some h ∧
      refused.events[k]? = some (.asked (.acquire device h fence) (.ok image)) := by
  refine ⟨?_, ⟨0⟩, 30, 35, 37, ⟨0⟩, _, _, _, _, by decide, by decide, rfl, rfl, rfl, rfl, rfl⟩
  unfold Ledger.Distinct
  decide +kernel

end WindowSurface

end Presentation.Vulkan
