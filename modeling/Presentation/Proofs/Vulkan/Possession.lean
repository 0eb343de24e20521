import Presentation.Proofs.Surface.Protocol
import Presentation.Proofs.Vulkan.Ledger

/-!
# Possession of images

A surface and the Vulkan side of it keep separate accounts of the image that
the application holds. They agree after every operation, whatever the driver
answers, as long as it never reports an out-of-date surface where Vulkan has no
such answer; and of the swapchain that is there, the application has no image
but the one that is held or the one that a stale swapchain has lost.
-/

set_option autoImplicit false

namespace Presentation.Vulkan

open Native (Standing protocol)

/-- The images of a swapchain that are with the application are those it knows of. -/
def Swapchain.Accounts (sc : Swapchain) (own : List Nat) : Prop :=
  match sc.held with
  | some index => own = [index]
  | none => own.length ≤ 1 ∧ (sc.stale = false → own = [])

namespace WindowSurface

/-- How a window surface shows to the surface layer. -/
structure Mirrors (ws : WindowSurface) (st : Standing) : Prop where
  ready : st.ready = ws.swapchain.isSome
  pool : ∀ pool, st.pool = some pool → pool = ws.textures
  out : st.out = (ws.swapchain.bind (·.held)).toList
  images : ∀ sc, ws.swapchain = some sc → sc.textures ≠ []
  inside : ∀ sc index, ws.swapchain = some sc → sc.held = some index → index < sc.textures.length

/-- How a window surface stands in the ledger. A swapchain that shares its handle with another
may have been taken for that one. -/
structure Owns (ws : WindowSurface) (g : Ledger) : Prop where
  created : ∀ sc, ws.swapchain = some sc → sc.handle ∈ g.created
  owned : ∀ sc, ws.swapchain = some sc → sc.Accounts (g.owned sc.handle) ∨
    ¬ g.Distinct ∧ g.owned sc.handle = []
  others : ∀ h, ws.handle? ≠ some h → g.owned h = []

variable {calm strict : Prop} {ws : WindowSurface} {g g' : Ledger} {st : Standing}
  {sc sc' : Swapchain}

theorem Owns.length_le (h : ws.Owns g) (hs : ws.swapchain = some sc) :
    (g.owned sc.handle).length ≤ 1 := by
  rcases h.owned sc hs with hown | ⟨-, hown⟩
  · unfold Swapchain.Accounts at hown
    split at hown
    · simp [hown]
    · exact hown.1
  · simp [hown]

theorem Owns.nil (h : ws.Owns g) (hs : ws.swapchain = some sc) (hheld : sc.held = none)
    (hstale : sc.stale = false) : g.owned sc.handle = [] := by
  rcases h.owned sc hs with hown | ⟨-, hown⟩
  · simp only [Swapchain.Accounts, hheld] at hown
    exact hown.2 hstale
  · exact hown

theorem Owns.held (h : ws.Owns g) (hs : ws.swapchain = some sc) {index : Nat}
    (hheld : sc.held = some index) :
    g.owned sc.handle = [index] ∨ ¬ g.Distinct ∧ g.owned sc.handle = [] := by
  rcases h.owned sc hs with hown | hown
  · simp only [Swapchain.Accounts, hheld] at hown
    exact Or.inl hown
  · exact Or.inr hown

/-- The accounts of a swapchain after a call that concerns only that one. -/
theorem Owns.update (h : ws.Owns g) (hs : ws.swapchain = some sc)
    (hhandle : sc'.handle = sc.handle) (hcreated : g'.created = g.created)
    (hothers : ∀ x, x ≠ sc.handle → g'.owned x = g.owned x)
    (hown : sc'.Accounts (g'.owned sc.handle) ∨ ¬ g'.Distinct ∧ g'.owned sc.handle = []) :
    Owns { ws with swapchain := some sc' } g' where
  created := by
    intro _ heq
    cases heq
    rw [hhandle, hcreated]
    exact h.created sc hs
  owned := by
    intro _ heq
    cases heq
    rw [hhandle]
    exact hown
  others := by
    intro x hx
    have hne : x ≠ sc.handle := by
      intro heq
      subst heq
      exact hx (by simp [handle?, hhandle])
    rw [hothers x hne]
    apply h.others x
    rw [handle?_eq hs]
    simpa using hne.symm

theorem Owns.took (h : ws.Owns g) (hs : ws.swapchain = some sc) (hheld : sc.held = none)
    {index : Nat} (ht : sc.Took g index sc' g') :
    Owns { ws with swapchain := some sc' } g' := by
  obtain ⟨hstale, -, hhandle, -, hheld', rfl⟩ := ht
  refine h.update hs hhandle rfl ?_ (Or.inl ?_)
  · intro x hx
    simp [Ledger.handOut, hx]
  · simp [Swapchain.Accounts, hheld', Ledger.handOut, h.nil hs hheld hstale]

theorem Owns.missed (h : ws.Owns g) (hs : ws.swapchain = some sc) (hheld : sc.held = none)
    {e : Error} (hm : sc.Missed g e sc' g') :
    Owns { ws with swapchain := some sc' } g' := by
  obtain ⟨hhandle, -, hheld', ⟨hstale, rfl⟩ | ⟨hstale, hstale', index, rfl⟩⟩ := hm
  · apply h.update hs hhandle rfl (fun _ _ => rfl)
    have hown := h.owned sc hs
    simpa only [Swapchain.Accounts, hheld', hstale] using hown
  · refine h.update hs hhandle rfl ?_ (Or.inl ?_)
    · intro x hx
      simp [Ledger.handOut, hx]
    · simp [Swapchain.Accounts, hheld', hheld, hstale', Ledger.handOut, h.nil hs hheld hstale]

theorem Owns.queued (h : ws.Owns g) (hs : ws.swapchain = some sc) {index : Nat}
    (hq : sc.Queued g index sc' g') : Owns { ws with swapchain := some sc' } g' := by
  obtain ⟨hheld, hhandle, -, hheld', rfl⟩ := hq
  refine h.update hs hhandle rfl ?_ (Or.inl ?_)
  · intro x hx
    simp [Ledger.takeBack, hx]
  · have hnil : (g.owned sc.handle).erase index = [] := by
      rcases h.held hs hheld with hown | ⟨-, hown⟩
      · simp [hown]
      · simp [hown]
    simp [Swapchain.Accounts, hheld', Ledger.takeBack, hnil]

theorem Owns.failed (h : ws.Owns g) {old : Option (Handle .swapchain)} {e : Error}
    (hc : Swapchain.Created old g (.error e) g') : ws.Owns g' := by
  rcases hc with rfl | rfl | ⟨heir, rfl⟩
  · exact h
  · refine ⟨?_, ?_, h.others⟩
    · intro sc hs
      simpa [Ledger.create] using h.created sc hs
    · intro sc hs
      simpa [Ledger.create, Ledger.Distinct] using h.owned sc hs
  · refine ⟨?_, ?_, ?_⟩
    · intro sc hs
      have hcreated := h.created sc hs
      simp [Ledger.create, Ledger.destroy, hcreated]
    · intro sc hs
      by_cases hheir : sc.handle = heir
      · refine Or.inr ⟨?_, by simp [Ledger.destroy, hheir]⟩
        intro hd
        have hd' : (g.create old (some heir)).Distinct := hd
        exact hd'.not_mem (hheir ▸ h.created sc hs)
      · have hown : ((g.create old (some heir)).destroy heir).owned sc.handle =
            g.owned sc.handle := by
          simp [Ledger.create, Ledger.destroy, hheir]
        rw [hown]
        rcases h.owned sc hs with hacc | ⟨hd, hnil⟩
        · exact Or.inl hacc
        · refine Or.inr ⟨?_, hnil⟩
          intro hd'
          have hbefore : (g.create old (some heir)).Distinct := hd'
          exact hd hbefore.of_create
    · intro x hx
      by_cases hheir : x = heir
      · simp [Ledger.destroy, hheir]
      · simp [Ledger.create, Ledger.destroy, hheir, h.others x hx]

/-- The swapchain that was there is replaced by a new one, or by none. -/
theorem Owns.replaced (h : ws.Owns g) (old heir : Option (Handle .swapchain))
    (hg : ws.Cleared (g.create old heir) g') (next : Option Swapchain)
    (hcreated : ∀ sc, next = some sc → sc.handle ∈ g'.created)
    (hheld : ∀ sc, next = some sc → sc.held = none) :
    Owns { ws with swapchain := next } g' := by
  have hall : ∀ x, g'.owned x = [] := by
    intro x
    rw [hg.owned]
    split
    · rfl
    · rename_i hx
      exact h.others x hx
  refine ⟨hcreated, ?_, fun x _ => hall x⟩
  intro sc hs
  apply Or.inl
  simp [Swapchain.Accounts, hheld sc hs, hall]

theorem Mirrors.initial (hs : ws.swapchain = none) : ws.Mirrors .initial where
  ready := by simp [Standing.initial, hs]
  pool := by simp [Standing.initial]
  out := by simp [Standing.initial, hs]
  images := by simp [hs]
  inside := by simp [hs]

theorem Mirrors.configured (htextures : sc.textures ≠ []) (hheld : sc.held = none) :
    Mirrors { ws with swapchain := some sc } ⟨true, none, []⟩ where
  ready := rfl
  pool := by simp
  out := by simp [hheld]
  images := by
    intro _ heq
    cases heq
    exact htextures
  inside := by
    intro _ index heq hindex
    cases heq
    rw [hheld] at hindex
    cases hindex

theorem Mirrors.update (h : ws.Mirrors st) (hs : ws.swapchain = some sc)
    (htextures : sc'.textures = sc.textures)
    (hinside : ∀ index, sc'.held = some index → index < sc.textures.length) :
    Mirrors { ws with swapchain := some sc' } { st with out := sc'.held.toList } where
  ready := by simp [h.ready, hs]
  pool := by
    intro pool hpool
    rw [h.pool pool hpool]
    simp [textures, hs, htextures]
  out := rfl
  images := by
    intro _ heq
    cases heq
    rw [htextures]
    exact h.images sc hs
  inside := by
    intro _ index heq hindex
    cases heq
    rw [htextures]
    exact hinside index hindex

/-- A window surface that shows to the surface layer as the one and the ledger have it. -/
structure Follows (ws : WindowSurface) (g : Ledger) (st : Standing) : Prop where
  mirrors : ws.Mirrors st
  owns : ws.Owns g

theorem configure_keeps (h : ws.Follows g st) (desc : SwapchainDesc) :
    (ws.configure desc).Keeps (keeper calm False)
      (fun r g' => r.2.Follows g' (st.see (.asked (.configure desc) r.1))) g := by
  apply Program.keeps_andThen.mpr ((Swapchain.create_keeps ws.context ws.surface desc _
    (fun _ _ _ hstrict => hstrict.elim)).mono ?_)
  rintro (e | sc) g' hc
  · exact ⟨h.mirrors, h.owns.failed hc⟩
  · obtain ⟨rfl, hheld, -, htextures⟩ := hc
    apply Program.Keeps.andThen (releaseSwapchain_keeps ws)
    intro heq g' hg
    cases heq
    refine ⟨Mirrors.configured htextures hheld, h.owns.replaced _ _ hg (some sc) ?_ ?_⟩
    · intro _ heq
      cases heq
      simp [hg.created, Ledger.create]
    · intro _ heq
      cases heq
      exact hheld

theorem unconfigure_keeps (h : ws.Follows g st) :
    ws.unconfigure.Keeps (keeper calm strict) (fun ws' g' => ws'.Follows g' .initial) g := by
  unfold unconfigure
  split
  · apply Program.Keeps.andThen (releaseSwapchain_keeps ws)
    intro heq g' hg
    cases heq
    simp only [notice, Program.keeps_andThen, Program.keeps_log, Program.keeps_pure]
    refine ⟨Mirrors.initial rfl, h.owns.replaced none none ?_ none (by simp) (by simp)⟩
    simpa [Ledger.create] using hg
  · rename_i hnone
    have hs : ws.swapchain = none := by simpa using hnone
    have hsame : { ws with swapchain := none } = ws := by rw [← hs]
    simp only [Program.keeps_pure, hsame]
    exact ⟨Mirrors.initial hs, h.owns⟩

theorem Mirrors.swapchain (h : ws.Mirrors st) (hready : st.ready = true) :
    ∃ sc, ws.swapchain = some sc ∧ st.out = sc.held.toList := by
  rw [h.ready, Option.isSome_iff_exists] at hready
  obtain ⟨sc, hs⟩ := hready
  refine ⟨sc, hs, ?_⟩
  rw [h.out, hs]
  rfl

theorem acquire_keeps (h : ws.Follows g st) (hc : st.Allows .acquire) :
    (ws.onSwapchain Swapchain.acquire).Keeps (keeper calm False)
      (fun r g' => r.2.Follows g' (st.see (.asked Native.Call.acquire r.1))) g := by
  obtain ⟨sc, hs, hout⟩ := h.mirrors.swapchain hc.1
  have hheld : sc.held = none := by simpa [hc.2] using hout.symm
  simp only [onSwapchain, hs]
  apply Program.keeps_andThen.mpr (Program.Keeps.mono (Swapchain.acquire_keeps ws.context sc
    (fun _ hstrict => hstrict.elim)) ?_)
  rintro ⟨e | index, sc'⟩ g' hr
  · have hm : sc.Missed g e sc' g' := hr
    refine ⟨?_, h.owns.missed hs hheld hm⟩
    have hmirror : Mirrors { ws with swapchain := some sc' } _ :=
      h.mirrors.update hs hm.2.1 (by simp [hm.2.2.1, hheld])
    simpa [hm.2.2.1, hheld, Standing.see, ← hc.2] using hmirror
  · have ht : sc.Took g index sc' g' := hr
    refine ⟨?_, h.owns.took hs hheld ht⟩
    obtain ⟨-, hlt, -, htextures, hheld', -⟩ := ht
    have hmirror : Mirrors { ws with swapchain := some sc' } _ :=
      h.mirrors.update hs htextures (by simp [hheld', hlt])
    simpa [hheld', Standing.see, hc.2] using hmirror

theorem Follows.queued (h : ws.Follows g st) (hs : ws.swapchain = some sc) {index : Nat}
    (hout : st.out = [index]) (hq : sc.Queued g index sc' g') :
    Follows { ws with swapchain := some sc' } g' { st with out := st.out.erase index } := by
  refine ⟨?_, h.owns.queued hs hq⟩
  obtain ⟨-, -, htextures, hheld', -⟩ := hq
  have hmirror : Mirrors { ws with swapchain := some sc' } _ :=
    h.mirrors.update hs htextures (by simp [hheld'])
  simpa [hheld', hout] using hmirror

theorem Follows.alike (h : ws.Follows g st) (hs : ws.swapchain = some sc)
    (ha : sc.Alike sc') : Follows { ws with swapchain := some sc' } g st := by
  obtain ⟨hhandle, htextures, hheld, hstale⟩ := ha
  refine ⟨?_, h.owns.update hs hhandle rfl (fun _ _ => rfl) ?_⟩
  · have hmirror : Mirrors { ws with swapchain := some sc' } _ :=
      h.mirrors.update hs htextures fun index hi => h.mirrors.inside sc index hs (hheld ▸ hi)
    have hout : st.out = sc'.held.toList := by
      rw [h.mirrors.out, hs, hheld]
      rfl
    rwa [← hout] at hmirror
  · have hown := h.owns.owned sc hs
    simpa only [Swapchain.Accounts, hheld, hstale] using hown

theorem present_keeps (h : ws.Follows g st) (index : Nat) (hc : st.Allows (.present index)) :
    (ws.onSwapchain (Swapchain.present · index)).Keeps (keeper True strict)
      (fun r g' => r.2.Follows g' (st.see (.asked (Native.Call.present index) r.1))) g := by
  obtain ⟨hready, hout, -⟩ := hc
  obtain ⟨sc, hs, -⟩ := h.mirrors.swapchain hready
  simp only [onSwapchain, hs]
  apply Program.keeps_andThen.mpr (Program.Keeps.mono
    (Swapchain.present_keeps ws.context index sc) ?_)
  rintro ⟨e | ⟨⟩, sc'⟩ g' hr
  · rcases hr with ⟨ha, rfl, hcalm⟩ | ⟨hq, rfl⟩
    · have hsee : st.see (.asked (Native.Call.present index) (.error e)) = st := by
        cases e with
        | outOfDateSurface => exact absurd rfl (hcalm trivial)
        | _ => rfl
      show Follows _ _ (st.see (.asked (Native.Call.present index) (.error e)))
      rw [hsee]
      exact h.alike hs ha
    · exact h.queued hs hout hq
  · exact h.queued hs hout hr

theorem serve_keeps (h : ws.Follows g st) (c : Native.Call) (hc : st.Allows c) :
    (serve c ws).Keeps (keeper True False)
      (fun r g' => r.2.Follows g' (st.see (.asked c r.1))) g := by
  cases c with
  | queryInfo =>
    apply Program.Keeps.andThen (keeper_aside
      (within_aside (fun _ hc => hc.aside) (queryInfo_keeps ws)))
    intro info _ hr
    obtain ⟨-, rfl⟩ := hr
    exact h
  | configure desc => exact configure_keeps h desc
  | unconfigure =>
    apply Program.Keeps.andThen (unconfigure_keeps h)
    intro ws' g' h'
    exact h'
  | images => exact ⟨{ h.mirrors with pool := by simp [Standing.see] }, h.owns⟩
  | acquire => exact acquire_keeps h hc
  | present index => exact present_keeps h index hc

/-- A surface and its native side have the same account of configuration, images and hold, and
the application has what that account says. -/
structure Agrees (ws : WindowSurface) (s : Surface) (g : Ledger) : Prop where
  configured : s.isConfigured = ws.swapchain.isSome
  pool : ∀ active, s.active = some active → active.pool.images = ws.textures
  acquired : s.acquired = ws.swapchain.bind (·.held)
  /-- The pool never is one that does not match the swapchain. -/
  matching : ∀ active, s.active = some active → active.stale = false
  single : ∀ sc, ws.swapchain = some sc → (g.owned sc.handle).length ≤ 1
  /-- What is not held is with the application only if the swapchain has lost it. -/
  lost : ∀ sc index, ws.swapchain = some sc → index ∈ g.owned sc.handle →
    sc.held = some index ∨ sc.held = none ∧ sc.stale = true
  held : g.Distinct → ∀ sc index, ws.swapchain = some sc → sc.held = some index →
    g.owned sc.handle = [index]

theorem Mirrors.account (h : ws.Mirrors st) {s : Surface} (hs : s.Knows st) :
    s.isConfigured = ws.swapchain.isSome ∧
      (∀ active, s.active = some active → active.pool.images = ws.textures) ∧
      s.acquired = ws.swapchain.bind (·.held) ∧
      ∀ active, s.active = some active → active.stale = false := by
  cases ha : s.active with
  | none =>
    have hst : st = .initial := by simpa [Surface.Knows, ha] using hs
    have hnone : ws.swapchain = none := by simpa [hst, Standing.initial] using h.ready
    simp [Surface.isConfigured, Surface.acquired, ha, hnone]
  | some active =>
    obtain ⟨hready, hpool, hacc⟩ := Surface.knows_some ha hs
    obtain ⟨sc, hsc, hout⟩ := h.swapchain hready
    have himages := h.pool _ hpool
    have hlength : active.pool.images.length = sc.textures.length := by
      simp [himages, textures, hsc]
    have hkey : active.acquired = sc.held ∧ active.stale = false := by
      rw [hout] at hacc
      unfold ActiveConfig.Accounts at hacc
      split at hacc
      · rename_i index hacq
        obtain ⟨hheld, -, hstale⟩ := hacc
        rw [Option.toList_eq_singleton_iff] at hheld
        exact ⟨hacq.trans hheld.symm, hstale⟩
      · rename_i hacq
        split at hacc
        · -- a pool is found not to match only if it is empty or an index lies outside
          exfalso
          rcases hacc with ⟨-, hnil⟩ | ⟨index, hheld, hle⟩
          · rw [hnil, List.length_nil, eq_comm, List.length_eq_zero_iff] at hlength
            exact h.images sc hsc hlength
          · rw [Option.toList_eq_singleton_iff] at hheld
            have hlt := h.inside sc index hsc hheld
            omega
        · rename_i hstale
          obtain ⟨hheld, -⟩ := hacc
          rw [Option.toList_eq_nil_iff] at hheld
          exact ⟨hacq.trans hheld.symm, by simpa using hstale⟩
    simp [Surface.isConfigured, Surface.acquired, ha, hsc, himages, hkey.1, hkey.2]

theorem Follows.agrees (h : ws.Follows g st) {s : Surface} (hs : s.Knows st) :
    ws.Agrees s g where
  configured := (h.mirrors.account hs).1
  pool := (h.mirrors.account hs).2.1
  acquired := (h.mirrors.account hs).2.2.1
  matching := (h.mirrors.account hs).2.2.2
  single _ hsc := h.owns.length_le hsc
  lost sc index hsc hi := by
    cases hheld : sc.held with
    | some held =>
      rcases h.owns.held hsc hheld with hown | ⟨-, hown⟩
      · rw [hown, List.mem_singleton] at hi
        exact Or.inl (by rw [hi])
      · simp [hown] at hi
    | none =>
      refine Or.inr ⟨rfl, ?_⟩
      by_contra hstale
      rw [Bool.not_eq_true] at hstale
      simp [h.owns.nil hsc hheld hstale] at hi
  held hd sc index hsc hheld := by
    rcases h.owns.held hsc hheld with hown | ⟨hd', -⟩
    · exact hown
    · exact absurd hd hd'

theorem follows_initial (ctx : Context) (surface : Handle .surface) :
    Follows ⟨ctx, surface, none⟩ .empty .initial where
  mirrors := Mirrors.initial rfl
  owns := ⟨by simp, by simp, fun _ _ => rfl⟩

theorem life_keeps (ctx : Context) (surface : Handle .surface) (device : String)
    (ops : List Surface.Op) :
    (life ctx surface device ops).Keeps (keeper True False)
      (fun r g => ∀ replies s, r.1 = .ok (replies, s) → r.2.Agrees s g) .empty := by
  have hserve : ∀ c ws g st, Follows ws g st → protocol.allows st c →
      (serve c ws).Keeps (keeper True False) (fun r g' => protocol.trusts st c r.1 ∧
        r.2.Follows g' (protocol.see st (.asked c r.1))) g := by
    intro c ws g st h hc
    exact (serve_keeps h c hc).mono fun _ _ h' => ⟨trivial, h'⟩
  apply (Program.Keeps.servedBy False.elim hserve (Surface.life_keeps device ops)
    (follows_initial ctx surface)).mono ?_
  intro r g hr replies s heq
  obtain ⟨result, ws⟩ := r
  obtain ⟨st, hf, hs⟩ := hr
  subst heq
  exact hf.agrees hs

variable {σ : Type}

/-- Between operations the two levels agree. A list of operations is any part of a longer one up
to a point between two. -/
theorem agrees_after_operations (answer : (c : Call) → σ → c.Answer × σ) (driver : σ)
    (ctx : Context) (surface : Handle .surface) (device : String) (ops : List Surface.Op)
    (replies : List Surface.Reply) (s : Surface) (ws : WindowSurface)
    (hcalm : ∀ c a, .asked c a ∈ ((life ctx surface device ops).run answer driver).events →
      c.Calm a)
    (hend : ((life ctx surface device ops).run answer driver).outcome =
      .ok (.ok (replies, s), ws)) :
    ws.Agrees s (ledger ((life ctx surface device ops).run answer driver).events) := by
  have hrun := (life_keeps ctx surface device ops).run answer driver
    fun n c a hn _ => hcalm c a (List.mem_of_getElem? hn)
  exact hrun.2.1 _ hend replies s rfl

/-- An image is acquired from a driver that grants it. -/
theorem agrees_after_acquiring : ∃ replies s ws,
    ((life .plain ⟨0⟩ "gpu" [.configure (.ofSize 4 4), .acquire]).run stubborn ()).outcome =
      .ok (.ok (replies, s), ws) ∧ s.acquired = some 0 ∧ ws.swapchain.isSome ∧
    ws.Agrees s (ledger
      ((life .plain ⟨0⟩ "gpu" [.configure (.ofSize 4 4), .acquire]).run stubborn ()).events) := by
  refine ⟨_, _, _, rfl, rfl, rfl,
    agrees_after_operations stubborn () .plain ⟨0⟩ "gpu" _ _ _ _ ?_ rfl⟩
  intro c a h
  obtain ⟨u, rfl⟩ := Program.answer_of_mem h
  exact stubborn_calm c u

end WindowSurface

end Presentation.Vulkan
