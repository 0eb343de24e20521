import Presentation.Proofs.Vulkan.Loss

/-!
# Retired swapchains

A swapchain that lost an image is retired. The surface holds none of its images
any more, and gets none: this stays so through whatever fails or changes nothing,
until a configuration succeeds or the surface is unconfigured. Afterwards the work
is on a swapchain that was created since.
-/

set_option autoImplicit false

namespace Presentation

namespace Surface

variable {s s' : Surface} {op : Op} {reply : Reply} {index : Nat}

theorem Acts.of_missed {e : Error} (h : s.Acts op [.asked .acquire (.error e)] reply s') :
    op = .acquire ∧ reply = .image (.error e) ∧ s' = s := by
  cases h with
  | missed => exact ⟨rfl, rfl, rfl⟩

theorem Acts.of_acquired (h : s.Acts op [.asked .acquire (.ok index)] reply s') :
    ∃ active, s.active = some active ∧
      ((∃ image, reply = .image (.ok image)) ∨ active.pool.images.length ≤ index) := by
  cases h with
  | acquired hactive hfree hstale htexture => exact ⟨_, hactive, Or.inl ⟨_, rfl⟩⟩
  | strayed hactive hfree hstray =>
    exact ⟨_, hactive, Or.inr (List.getElem?_eq_none_iff.mp hstray)⟩

theorem Acts.of_outdated
    (h : s.Acts op [.asked (.present index) (.error .outOfDateSurface)] reply s') :
    s.acquired = some index ∧ s' = s.released := by
  cases h with
  | presented hindex hanswer => exact ⟨hindex, rfl⟩
  | kept hindex hne => exact absurd rfl hne

end Surface

namespace Vulkan

open Native (Handles Replaces)
open Surface (Op Episode)

/-- A wait, a reset or a submission that failed. -/
def Stumbles : Event interface → Prop
  | .asked (.waitForFence ..) (.error _) => True
  | .asked (.resetFence ..) (.error _) => True
  | .asked (.submit ..) (.error _) => True
  | _ => False

/-- In an episode an image is lost: it was acquired and could not be made ready, or is none of the
images, or did not get to the application for any other reason; or the driver refused to show it. -/
inductive Loses (e : Episode interface) : Prop
  | unready (device : Handle .device) (handle : Handle .swapchain) (fence : Option (Handle .fence))
      (image : Acquired) : .asked (.acquire device handle fence) (.ok image) ∈ e.events →
      (∃ f ∈ e.events, Stumbles f) ∨ e.before.imageCount ≤ image.index ∨
        (∀ image', e.reply ≠ .image (.ok image')) → Loses e
  | unshown (queue : Queue) (wait : Handle .semaphore) (handle : Handle .swapchain) (index : Nat)
      (code : Code) : .asked (.present queue wait handle index) (.error code) ∈ e.events →
      code ≠ .outOfDate → Loses e

variable {σ : Type} {e : Event interface} {es steps : List (Event interface)}
  {buffers : List CommandBuffer} {device : Handle .device} {handle : Handle .swapchain}
  {fence : Option (Handle .fence)} {image : Acquired} {queue : Queue} {wait : Handle .semaphore}
  {index : Nat} {code : Code}

theorem Stumbles.mem_work (h : Stumbles e) (he : e ∈ es) : e ∈ work es := by
  unfold Stumbles at h
  split at h
  · exact (Vulkan.mem_work rfl).mpr he
  · exact (Vulkan.mem_work rfl).mpr he
  · exact (Vulkan.mem_work rfl).mpr he
  · exact h.elim

theorem Smooth.not_stumbles (h : Smooth e) : ¬ Stumbles e := by
  unfold Smooth at h
  split at h
  · exact id
  · exact id
  · exact h.elim

theorem Reaches.not_stumbles (h : Reaches buffers steps) (he : e ∈ steps) : ¬ Stumbles e := by
  rcases h.mem he with hsmooth | ⟨queue, buffer, signal, fence, hbuffer, rfl⟩
  · exact hsmooth.not_stumbles
  · exact id

theorem Reaches.not_acquire (h : Reaches buffers steps) :
    .asked (.acquire device handle fence) (.ok image) ∉ steps := by
  intro hmem
  rcases h.mem hmem with hsmooth | ⟨queue, buffer, signal, fence, hbuffer, heq⟩
  · exact hsmooth
  · cases heq

theorem Breaks.not_acquire (h : Breaks buffers steps) :
    .asked (.acquire device handle fence) (.ok image) ∉ steps := by
  intro hmem
  rcases h.mem hmem with hsmooth | hfails
  · exact hsmooth
  · exact hfails

theorem Reaches.not_present (h : Reaches buffers steps) :
    .asked (.present queue wait handle index) (.error code) ∉ steps := by
  intro hmem
  rcases h.mem hmem with hsmooth | ⟨queue, buffer, signal, fence, hbuffer, heq⟩
  · exact hsmooth
  · cases heq

theorem Breaks.not_present (h : Breaks buffers steps) :
    .asked (.present queue wait handle index) (.error code) ∉ steps := by
  intro hmem
  rcases h.mem hmem with hsmooth | hfails
  · exact hsmooth
  · exact hfails

namespace Swapchain

variable {sc : Swapchain} {stale : Bool}

/-- An image that was acquired is lost, or it is one of the images and nothing failed. -/
theorem Acquisition.of_acquire {result : Except Error Nat} (h : sc.Acquisition result steps stale)
    (hmem : .asked (.acquire device handle fence) (.ok image) ∈ steps) :
    (∃ e, result = .error e) ∧ Loss steps ∧ stale = true ∨
      result = .ok image.index ∧ image.index < sc.textures.length ∧
        ∀ e ∈ steps, ¬ Stumbles e := by
  cases h with
  | barred hstale => cases hmem
  | missed e device fence code hstale => simp at hmem
  | lost e device fence image hstale hbreaks =>
    exact Or.inl ⟨⟨e, rfl⟩, .unready device sc.handle fence image hbreaks, rfl⟩
  | taken device fence image hstale hreaches hlt =>
    rcases List.mem_cons.mp hmem with heq | hmem
    · cases heq
      refine Or.inr ⟨rfl, hlt, List.forall_mem_cons.mpr ⟨id, ?_⟩⟩
      exact fun e he => hreaches.not_stumbles he
    · exact absurd hmem hreaches.not_acquire

theorem Acquisition.not_present {result : Except Error Nat}
    (h : sc.Acquisition result steps stale) :
    .asked (.present queue wait handle index) (.error code) ∉ steps := by
  cases h with
  | barred hstale => simp
  | missed e device fence code hstale => simp
  | lost e device fence image hstale hbreaks => simpa using hbreaks.not_present
  | taken device fence image hstale hreaches hlt => simpa using hreaches.not_present

theorem Showing.not_acquire {result : Except Error Unit} (h : sc.Showing result steps stale) :
    .asked (.acquire device handle fence) (.ok image) ∉ steps := by
  cases h with
  | unheld e => simp
  | kept e hbreaks => exact hbreaks.not_acquire
  | shown queue wait index suboptimal hreaches => simpa using hreaches.not_acquire
  | outdated queue wait index hreaches => simpa using hreaches.not_acquire
  | spoilt queue wait index code hreaches hcode => simpa using hreaches.not_acquire

/-- An image that the driver refuses to show is lost. -/
theorem Showing.of_present {result : Except Error Unit} (h : sc.Showing result steps stale)
    (hmem : .asked (.present queue wait handle index) (.error code) ∈ steps)
    (hcode : code ≠ .outOfDate) :
    result = .error .outOfDateSurface ∧ Loss steps ∧ stale = true := by
  cases h with
  | unheld e => cases hmem
  | kept e hbreaks => exact absurd hmem hbreaks.not_present
  | shown queue wait index suboptimal hreaches =>
    exact absurd hmem (by simpa using hreaches.not_present)
  | outdated queue wait index hreaches =>
    rcases List.mem_append.mp hmem with hmem | hmem
    · exact absurd hmem hreaches.not_present
    · cases List.mem_singleton.mp hmem
      exact absurd rfl hcode
  | spoilt queue wait index code hreaches hcode =>
    exact ⟨rfl, .unshown queue wait sc.handle index code hreaches hcode, rfl⟩

end Swapchain

namespace WindowSurface

variable {ws ws' : WindowSurface} {s : Surface} {e : Episode interface}
  {between later : List (Episode interface)}

/-- How an episode goes on a window surface. -/
def Plays (ws : WindowSurface) (e : Episode interface) (ws' : WindowSurface) : Prop :=
  ∃ calls, Serving e.events ws calls (work e.events) ws' ∧
    e.before.Acts e.op calls e.reply e.after ∧ (e.op = .acquire → e.before.Asks e.reply calls)

/-- Episodes that go on one after another. -/
def Played : Surface → WindowSurface → List (Episode interface) → Prop
  | _, _, [] => True
  | s, ws, e :: es => e.before = s ∧ ∃ ws', Plays ws e ws' ∧ Played e.after ws' es

/-- The images of a surface are as many as those of the swapchain. -/
def Fits (s : Surface) (ws : WindowSurface) : Prop :=
  ∀ active, s.active = some active →
    ∃ sc, ws.swapchain = some sc ∧ active.pool.images.length = sc.textures.length

/-- A configured surface holds no image, and its swapchain is stale. -/
def Spent (s : Surface) (ws : WindowSurface) : Prop :=
  ∃ active sc, s.active = some active ∧ active.acquired = none ∧ ws.swapchain = some sc ∧
    sc.stale = true

theorem play_played (answer : (c : Call) → σ → c.Answer × σ) (s : Surface) (ws : WindowSurface)
    (driver : σ) (ops : List Op) : Played s ws (play answer s ws driver ops) := by
  induction ops generalizing s ws driver with
  | nil => trivial
  | cons op ops ih =>
    simp only [play]
    split
    · rename_i reply s' ws' houtcome
      have hwhole : ws.Whole False := fun _ _ h => h.elim
      obtain ⟨-, hend, -⟩ := (perform_takes hwhole s op).run answer driver
        (fun _ _ _ _ h => h.elim)
      obtain ⟨-, calls, steps, hes, hserving, hacts, hasks⟩ := hend _ houtcome
      rw [supply, Watch.tape_after, List.nil_append] at hes hserving
      cases hes.work.symm.trans (work_calls _)
      refine ⟨rfl, ws', ⟨calls, hserving.mono (List.filter_sublist.subset), hacts, hasks⟩, ?_⟩
      exact ih s' ws' _
    · trivial

namespace Plays

theorem fits (h : Plays ws e ws') (hfits : Fits e.before ws) : Fits e.after ws' := by
  obtain ⟨calls, hserving, hacts, -⟩ := h
  intro active hactive
  rcases hacts.replaces_or_retains with
    ⟨config, desc, images, info, rfl, hafter⟩ | hnone | ⟨hreplaces, hretains⟩
  · obtain ⟨_, _, ws₁, -, hconfigure, _, _, ws₂, -, himages, hinfo⟩ := hserving
    rw [hafter, Surface.informed_active] at hactive
    cases hactive
    cases hconfigure
    cases himages
    cases hinfo.single
    exact ⟨_, rfl, List.length_map _⟩
  · cases hnone.symm.trans hactive
  · obtain ⟨old, hold, hpool⟩ := hretains.pool active hactive
    obtain ⟨sc, hsc, hlength⟩ := hfits old hold
    obtain ⟨sc', hsc', htextures⟩ := hserving.keeps hreplaces hsc
    refine ⟨sc', hsc', ?_⟩
    rw [hpool, hlength, htextures]

/-- An episode in which an image is lost leaves the surface without it, and the swapchain stale. -/
theorem spends (h : Plays ws e ws') (hfits : Fits e.before ws) (hloses : Loses e) :
    Loss (work e.events) ∧ Spent e.after ws' := by
  obtain ⟨calls, hserving, hacts, hasks⟩ := h
  have hsingle : ∀ {c a}, c.works = true → .asked c a ∈ e.events →
      ∃ call, calls = [call] ∧ ws.Serves e.events call (work e.events) ws' := by
    intro c a hc hmem
    rcases hacts.handles_alone with hhandles | ⟨call, rfl⟩
    · have hstep := (mem_work hc).mpr hmem
      rw [hserving.idle hhandles] at hstep
      cases hstep
    · exact ⟨call, rfl, hserving.single⟩
  cases hloses with
  | unready device handle fence image hmem hlost =>
    obtain ⟨call, rfl, hserves⟩ := hsingle rfl hmem
    replace hmem := (mem_work rfl).mpr hmem
    have hstumbles : ∀ f ∈ e.events, Stumbles f → f ∈ work e.events :=
      fun f hf h => h.mem_work hf
    generalize work e.events = steps at hserves hmem hstumbles ⊢
    cases hserves with
    | acquired hsc hacquisition hs =>
      rcases hacquisition.of_acquire hmem with ⟨⟨e, rfl⟩, hloss, hstale⟩ | ⟨rfl, hlt, hsmooth⟩
      · obtain ⟨hop, -, hafter⟩ := hacts.of_missed
        obtain ⟨active, hactive, hfree⟩ := (hasks hop).free (by simp)
        exact ⟨hloss, active, _, hafter ▸ hactive, hfree, rfl, hstale⟩
      · -- it was made ready, so it is one of the images, and the application has it
        obtain ⟨active, hactive, hreply⟩ := hacts.of_acquired
        obtain ⟨sc, hsc', hlength⟩ := hfits active hactive
        cases hsc.symm.trans hsc'
        rw [← hlength] at hlt
        rcases hlost with ⟨f, hf, hstumble⟩ | hstray | hnone
        · exact absurd hstumble (hsmooth f (hstumbles f hf hstumble))
        · rw [Surface.imageCount, hactive] at hstray
          exact absurd hlt (Nat.not_lt.mpr hstray)
        · rcases hreply with ⟨image', himage⟩ | hstray
          · exact absurd himage (hnone image')
          · exact absurd hlt (Nat.not_lt.mpr hstray)
    | presented index hsc hshowing hs => exact absurd hmem hshowing.not_acquire
    | _ => cases hmem
  | unshown queue wait handle index code hmem hcode =>
    obtain ⟨call, rfl, hserves⟩ := hsingle rfl hmem
    replace hmem := (mem_work rfl).mpr hmem
    generalize work e.events = steps at hserves hmem ⊢
    cases hserves with
    | acquired hsc hacquisition hs => exact absurd hmem hacquisition.not_present
    | presented index hsc hshowing hs =>
      obtain ⟨rfl, hloss, hstale⟩ := hshowing.of_present hmem hcode
      obtain ⟨hindex, hafter⟩ := hacts.of_outdated
      obtain ⟨active, hactive, -⟩ := Option.bind_eq_some_iff.mp hindex
      refine ⟨hloss, { active with acquired := none }, _, ?_, rfl, rfl, hstale⟩
      rw [hafter, Surface.released, hactive]
      rfl
    | _ => cases hmem

end Plays

namespace Spent

variable {s' : Surface} {calls : List (Event Native.interface)}

/-- Whatever handles and replaces nothing does no work. -/
theorem stays (h : Spent s ws) (hserving : Serving es ws calls steps ws')
    (hcalls : ∀ e ∈ calls, ¬ Handles e ∧ ¬ Replaces e) (hactive : s'.active = s.active) :
    steps = [] ∧ Spent s' ws' := by
  have hhandles : ∀ e ∈ calls, ¬ Handles e := fun e he => (hcalls e he).1
  refine ⟨hserving.idle hhandles, ?_⟩
  rw [hserving.unchanged hhandles fun e he => (hcalls e he).2, Spent, hactive]
  exact h

/-- There is no image to get. -/
theorem bars {result : Except Error Nat} (h : Spent s ws)
    (hserves : ws.Serves es (.asked .acquire result) steps ws') :
    result = .error .outOfDateSurface ∧ steps = [] ∧ Spent s ws' := by
  obtain ⟨active, sc, hactive, hfree, hsc, hstale⟩ := h
  cases hserves with
  | notAcquired hnone => cases hsc.symm.trans hnone
  | @acquired _ sc' _ _ hsc' hacquisition hs =>
    cases hsc.symm.trans hsc'
    generalize hafter : sc'.stale = stale at hacquisition
    cases hacquisition with
    | barred => exact ⟨rfl, rfl, active, sc', hactive, hfree, rfl, hafter⟩
    | missed e device fence code hfresh => cases hstale.symm.trans hfresh
    | lost e device fence image hfresh hbreaks => cases hstale.symm.trans hfresh
    | taken device fence image hfresh hreaches hlt => cases hstale.symm.trans hfresh

end Spent

/-- In an episode on a spent surface no work is done. It stays spent, or the swapchain is replaced
or given up. -/
theorem Plays.of_spent (h : Plays ws e ws') (hspent : Spent e.before ws) :
    work e.events = [] ∧ (e.op = .acquire → e.reply = .image (.error .outOfDateSurface)) ∧
      (e.ends = false ∧ Spent e.after ws' ∨ e.ends = true ∧ ws'.Supplied e.events) := by
  obtain ⟨calls, hserving, hacts, hasks⟩ := h
  obtain ⟨active, sc, hactive, hfree, hsc, hstale⟩ := id hspent
  have hheld : ∀ index, e.before.acquired ≠ some index := by
    intro index hindex
    rw [Surface.acquired, hactive, Option.bind_some, hfree] at hindex
    cases hindex
  obtain ⟨op, s, reply, s', events⟩ := e
  dsimp only at hserving hacts hasks hspent hactive hheld ⊢
  cases hacts with
  | configured images info hrequested hdesc =>
    refine ⟨hserving.idle (by simp [Handles]), ?_, Or.inr ⟨?_, hserving.renews trivial⟩⟩
    · rintro rfl
      cases hrequested
    · exact Episode.ends_of_requested hrequested rfl
  | refused e hrequested hdesc =>
    obtain ⟨hsteps, hafter⟩ := hspent.stays hserving (by simp [Handles, Replaces]) rfl
    refine ⟨hsteps, ?_, Or.inl ⟨?_, hafter⟩⟩
    · rintro rfl
      cases hrequested
    · exact Episode.not_ends (Surface.not_minimises hrequested) (by simp)
  | rejected hrequested herror =>
    obtain ⟨hsteps, hafter⟩ := hspent.stays hserving (by simp) rfl
    refine ⟨hsteps, ?_, Or.inl ⟨?_, hafter⟩⟩
    · rintro rfl
      cases hrequested
    · exact Episode.not_ends (Surface.not_minimises hrequested) (by simp)
  | unprecedented harea hnone =>
    obtain ⟨hsteps, hafter⟩ := hspent.stays hserving (by simp) rfl
    exact ⟨hsteps, by simp, Or.inl ⟨Episode.not_ends harea (by simp), hafter⟩⟩
  | minimised info hop hconfigured =>
    refine ⟨hserving.idle (by simp [Handles]), ?_, Or.inr ⟨?_, hserving.renews trivial⟩⟩
    · rintro rfl
      exact hop.elim
    · rw [Episode.ends_of_minimises hop]
      exact hconfigured
  | idle hop hnone => cases hactive.symm.trans hnone
  | acquired _ _ _ _ => cases (hspent.bars hserving.single).1
  | strayed _ _ _ => cases (hspent.bars hserving.single).1
  | missed e =>
    obtain ⟨heq, hsteps, hafter⟩ := hspent.bars hserving.single
    cases heq
    exact ⟨hsteps, fun _ => rfl, Or.inl ⟨rfl, hafter⟩⟩
  | barred e =>
    obtain ⟨hsteps, hafter⟩ := hspent.stays hserving (by simp) rfl
    exact ⟨hsteps, fun hop => (hasks hop).barred rfl active hactive hfree, Or.inl ⟨rfl, hafter⟩⟩
  | presented hindex hanswer => exact absurd hindex (hheld _)
  | kept hindex hne => exact absurd hindex (hheld _)
  | emptyHanded hnone =>
    obtain ⟨hsteps, hafter⟩ := hspent.stays hserving (by simp) rfl
    exact ⟨hsteps, by simp, Or.inl ⟨rfl, hafter⟩⟩
  | refreshed info =>
    obtain ⟨hsteps, hafter⟩ :=
      hspent.stays hserving (by simp [Handles, Replaces]) (Surface.informed_active s info)
    exact ⟨hsteps, by simp, Or.inl ⟨rfl, hafter⟩⟩
  | looked =>
    obtain ⟨hsteps, hafter⟩ := hspent.stays hserving (by simp) rfl
    exact ⟨hsteps, by simp, Or.inl ⟨rfl, hafter⟩⟩

namespace Played

/-- On a swapchain that was supplied, all work is on what was obtained. -/
theorem obtained (h : Played s ws (between ++ e :: later)) (hs : ws.Supplied es) {c : Call}
    {a : c.Answer} (hmem : .asked c a ∈ work e.events) :
    c.Obtained (es ++ between.flatMap (·.events)) := by
  induction between generalizing s ws es with
  | nil =>
    obtain ⟨-, ws', ⟨calls, hserving, hacts, -⟩, -⟩ := h
    obtain ⟨sc, hsc, hconcerns⟩ := hserving.concerns hacts _ hmem
    rw [List.flatMap_nil, List.append_nil]
    exact (hs sc hsc).obtained hconcerns
  | cons d between ih =>
    obtain ⟨-, ws', ⟨calls, hserving, -⟩, hrest⟩ := h
    have hnext : ws'.Supplied (es ++ d.events) :=
      (hserving.mono (List.subset_append_right _ _)).supplied
        (hs.mono (List.subset_append_left _ _))
    rw [List.flatMap_cons, ← List.append_assoc]
    exact ih hrest hnext

/-- From a spent surface on, all work is on what was obtained since the swapchain was replaced. -/
theorem since (h : Played s ws (between ++ e :: later)) (hspent : Spent s ws) {c : Call}
    {a : c.Answer} (hmem : .asked c a ∈ work e.events) :
    ∃ first d second, between = first ++ d :: second ∧ d.ends = true ∧
      c.Obtained (d.events ++ second.flatMap (·.events)) := by
  induction between generalizing s ws with
  | nil =>
    obtain ⟨rfl, ws', hplays, -⟩ := h
    rw [(hplays.of_spent hspent).1] at hmem
    cases hmem
  | cons d between ih =>
    obtain ⟨rfl, ws', hplays, hrest⟩ := h
    rcases (hplays.of_spent hspent).2.2 with ⟨-, hspent'⟩ | ⟨hends, hsupplied⟩
    · obtain ⟨first, d', second, rfl, hends, hobtained⟩ := ih hrest hspent'
      exact ⟨d :: first, d', second, rfl, hends, hobtained⟩
    · exact ⟨[], d, between, rfl, hends, hrest.obtained hsupplied hmem⟩

/-- While the swapchain is neither replaced nor given up, a spent surface stays so. -/
theorem spent (h : Played s ws (between ++ e :: later)) (hspent : Spent s ws)
    (hbetween : ∀ d ∈ between, d.ends = false) :
    work e.events = [] ∧ (e.op = .acquire → e.reply = .image (.error .outOfDateSurface)) := by
  induction between generalizing s ws with
  | nil =>
    obtain ⟨rfl, ws', hplays, -⟩ := h
    obtain ⟨hwork, hreply, -⟩ := hplays.of_spent hspent
    exact ⟨hwork, hreply⟩
  | cons d between ih =>
    obtain ⟨rfl, ws', hplays, hrest⟩ := h
    have hkept := hbetween d List.mem_cons_self
    rcases (hplays.of_spent hspent).2.2 with ⟨-, hspent'⟩ | ⟨hends, -⟩
    · exact ih hrest hspent' fun d hd => hbetween d (List.mem_cons_of_mem _ hd)
    · cases hkept.symm.trans hends

/-- A surface fits its swapchain all along. -/
theorem split (h : Played s ws (between ++ e :: later)) (hfits : Fits s ws) :
    ∃ ws₁ ws₂, Fits e.before ws₁ ∧ Plays ws₁ e ws₂ ∧ Played e.after ws₂ later := by
  induction between generalizing s ws with
  | nil =>
    obtain ⟨rfl, ws', hplays, hrest⟩ := h
    exact ⟨ws, ws', hfits, hplays, hrest⟩
  | cons d between ih =>
    obtain ⟨rfl, ws', hplays, hrest⟩ := h
    exact ih hrest (hplays.fits hfits)

end Played

/-- What becomes of a swapchain that has lost an image. -/
structure Retired (e : Episode interface) (rest : List (Episode interface)) : Prop where
  /-- Nothing follows on the loss. -/
  lost : Loss (work e.events)
  /-- Whatever is worked on later was obtained since a replacement. -/
  since : ∀ between e' later, rest = between ++ e' :: later → ∀ c a,
    .asked c a ∈ work e'.events → ∃ first d second, between = first ++ d :: second ∧
      d.ends = true ∧ c.Obtained (d.events ++ second.flatMap (·.events))
  /-- Before one there is no work, and no image to be had. -/
  spent : ∀ between e' later, rest = between ++ e' :: later → (∀ d ∈ between, d.ends = false) →
    work e'.events = [] ∧ (e'.op = .acquire → e'.reply = .image (.error .outOfDateSurface))

theorem story_retires (answer : (c : Call) → σ → c.Answer × σ) (driver : σ) (ctx : Context)
    (surface : Handle .surface) (device : String) (ops : List Op)
    {before rest : List (Episode interface)}
    (h : story answer driver ctx surface device ops = before ++ e :: rest) (hloses : Loses e) :
    Retired e rest := by
  unfold story at h
  dsimp only at h
  split at h
  · rename_i t ws₀ houtcome
    obtain ⟨-, hend, -⟩ := (attach_unconfigured ⟨ctx, surface, none⟩ device).run answer driver
      (fun _ _ _ _ => trivial)
    have hfits : Fits t ws₀ := by
      intro active hactive
      cases (hend _ houtcome t rfl).symm.trans hactive
    have hplayed := play_played answer t ws₀ (((Surface.attach device).servedBy serve
      ⟨ctx, surface, none⟩).run answer driver).peer ops
    rw [h] at hplayed
    obtain ⟨ws₁, ws₂, hfits', hplays, hrest⟩ := hplayed.split hfits
    obtain ⟨hloss, hspent⟩ := hplays.spends hfits' hloses
    refine ⟨hloss, ?_, ?_⟩
    · rintro between e' later rfl c a hmem
      exact hrest.since hspent hmem
    · rintro between e' later rfl hbetween
      exact hrest.spent hspent hbetween
  · cases before with
    | nil => cases h
    | cons d before => cases h

/-- The end of a surface is no work. -/
theorem close_strictly (s : Surface) (ws : WindowSurface) :
    (s.close.servedBy serve ws).Keeps (strictly fun c => c.works = false) (fun _ _ => True) () := by
  have hrelease : ws.releaseSwapchain.Keeps (strictly fun c => c.works = false) (fun _ _ => True)
      () := by
    unfold releaseSwapchain
    split
    · rename_i sc _
      have hbears : (strictly fun c => c.works = false).Bears
          (Call.Releases ws.context.device sc) (fun _ => True) :=
        fun c _ hc _ => ⟨hc.not_works, fun _ _ => trivial⟩
      apply (strictly_bears hbears (Swapchain.release_strictly ws.context sc) trivial).mono
      intro _ _ _
      trivial
    · trivial
  have hserve : (Native.unconfigure.servedBy serve ws).Keeps (strictly fun c => c.works = false)
      (fun _ _ => True) () := by
    simp only [Native.unconfigure, Program.call, Program.servedBy, Program.keeps_bind, serve,
      unconfigure, Program.keeps_andThen, Program.keeps_done, Program.keeps_pure]
    split
    · simp only [Program.keeps_andThen, notice, Program.keeps_log, Program.keeps_pure]
      exact hrelease
    · trivial
  unfold Surface.close
  split
  · exact hserve
  · exact hserve

theorem close_idle (answer : (c : Call) → σ → c.Answer × σ) (driver : σ) (s : Surface)
    (ws : WindowSurface) : work ((s.close.servedBy serve ws).run answer driver).events = [] := by
  obtain ⟨hallows, -, -⟩ :=
    (close_strictly s ws).run answer driver (fun _ _ _ _ => trivial)
  rw [work, List.filter_eq_nil_iff]
  rintro (entry | ⟨c, a⟩) hmem
  · simp [Works]
  · obtain ⟨n, hn⟩ := List.mem_iff_getElem?.mp hmem
    have hidle : c.works = false := hallows n c a hn
    simp [Works, hidle]

end WindowSurface

/-- Once an image is lost, the swapchain is never worked on again, whatever the driver answers:
until it is replaced or given up, the surface is out of date, which can be recovered from. -/
theorem lost_image_retires_swapchain {σ : Type} (answer : (c : Call) → σ → c.Answer × σ)
    (driver : σ) (ctx : Context) (surface : Handle .surface) (device : String) (ops : List Op) :
    (∀ before e rest, WindowSurface.story answer driver ctx surface device ops =
      before ++ e :: rest → Loses e → WindowSurface.Retired e rest) ∧
    (∀ (s : Surface) (ws : WindowSurface) (driver : σ),
      work ((s.close.servedBy WindowSurface.serve ws).run answer driver).events = []) ∧
    Error.outOfDateSurface.isRecoverable = true := by
  refine ⟨?_, ?_, rfl⟩
  · intro before e rest h hloses
    exact WindowSurface.story_retires answer driver ctx surface device ops h hloses
  · intro s ws driver
    exact WindowSurface.close_idle answer driver s ws

/-- A driver that refuses to replace a swapchain, and to show its images. -/
def unwilling : (c : Call) → Unit → c.Answer × Unit
  | .present .., u => (.error .surfaceLost, u)
  | c, u => stubborn c u

/-- An image is lost, and a configuration that is refused does not bring another one. -/
theorem lost_image_retires_swapchain_unwilling : ∃ before e d e',
    WindowSurface.story unwilling () .plain ⟨0⟩ "gpu" [.configure (.ofSize 4 4), .acquire, .present,
      .configure (.ofSize 5 5), .acquire] = before ++ e :: ([d] ++ [e']) ∧
    Loses e ∧ d.ends = false ∧ work e'.events = [] ∧
    e'.reply = .image (.error .outOfDateSurface) := by
  obtain ⟨before, e, d, e', hstory, hloses, hkept, hop⟩ : ∃ before e d e',
      WindowSurface.story unwilling () .plain ⟨0⟩ "gpu" [.configure (.ofSize 4 4), .acquire,
        .present, .configure (.ofSize 5 5), .acquire] = before ++ e :: ([d] ++ [e']) ∧
      Loses e ∧ d.ends = false ∧ e'.op = .acquire := by
    refine ⟨[_, _], _, _, _, rfl, ?_, rfl, rfl⟩
    exact .unshown _ _ _ _ .surfaceLost (List.mem_of_getElem? (i := 3) rfl) (by decide)
  have hretires := (lost_image_retires_swapchain unwilling () .plain ⟨0⟩ "gpu"
    [.configure (.ofSize 4 4), .acquire, .present, .configure (.ofSize 5 5), .acquire]).1
  have hbetween : ∀ d' ∈ [d], d'.ends = false := List.forall_mem_singleton.mpr hkept
  obtain ⟨hwork, hreply⟩ := (hretires before e _ hstory hloses).spent [d] e' [] rfl hbetween
  exact ⟨before, e, d, e', hstory, hloses, hkept, hwork, hreply hop⟩

end Vulkan

end Presentation
