import Presentation.Proofs.Session.Slots
import Presentation.Proofs.Vulkan.DeviceObjects
import Presentation.Proofs.Vulkan.Ledger
import Presentation.Proofs.Vulkan.Lifetimes
import Presentation.Session.Playback

/-!
# What a session owns

A session owns the context that its device and its surfaces refer to, as long
as any of them does, and all that its surfaces have. Each command leaves live
what the session owns afterwards, whatever was created or failed to be created
in it, and in whatever order device and surfaces go.
-/

set_option autoImplicit false

namespace Presentation.Session

open Vulkan (Device WindowSurface Context Census Object Kind below census created destroyed live
  PassesLive Accounts)

namespace Holding

def windowSurface : Holding → WindowSurface
  | surface _ ws => ws
  | native ws => ws

def objects (holding : Holding) : Multiset Object := holding.windowSurface.objects

theorem context_eq (holding : Holding) : holding.context = holding.windowSurface.context := by
  cases holding with
  | surface s ws => rfl
  | native ws => rfl

variable {holding : Holding} {frame spared : Multiset Object} {c : Census}

theorem release_books (hctx : holding.context.objects ≤ frame)
    (h : c.Books (holding.objects + frame) spared) :
    holding.release.Keeps census
      (fun _ c' => c'.Books frame (spared ∪ below .surface frame)) c := by
  cases holding with
  | native ws => exact WindowSurface.release_books hctx h
  | surface s ws =>
    apply Program.Keeps.andThen (WindowSurface.close_books hctx s h)
    intro r c hr
    obtain ⟨⟨⟩, ws'⟩ := r
    obtain ⟨hsame, h⟩ := hr
    have hctx' : ws'.context.objects ≤ frame := by
      rw [hsame]
      exact hctx
    apply Program.Keeps.mono (WindowSurface.release_books hctx' h)
    intro _ c h
    refine ⟨h.1, h.2.trans ?_⟩
    apply Multiset.union_le _ Multiset.le_union_right
    exact Multiset.union_le_union_left (Vulkan.below_swapchain_le frame) _

end Holding

namespace Playback

def contexts (p : Playback) : List Context :=
  (p.device.map (·.context)).toList ++ p.slots.entries.map fun e => e.2.context

/-- What a session owns: each context that it refers to, and what its surfaces have. -/
def objects (p : Playback) : Multiset Object :=
  (p.contexts.dedup.map Context.objects).sum + p.slots.total Holding.objects

/-- All that a session has is of one context. -/
structure Sound (p : Playback) : Prop where
  shares : ∀ a ∈ p.contexts, ∀ b ∈ p.contexts, a = b
  single : p.slots.Single

variable {p p' : Playback} {ctx : Context} {slot : String} {holding : Holding}
  {spared : Multiset Object} {c : Census}

theorem device_mem {device : Device} (h : p.device = some device) :
    device.context ∈ p.contexts := by
  simp [contexts, h]

theorem slot_mem (h : p.slots.get? slot = some holding) : holding.context ∈ p.contexts := by
  have hmem := Slots.mem_of_get? h
  apply List.mem_append_right
  exact List.mem_map.mpr ⟨(slot, holding), hmem, rfl⟩

theorem total_le_objects : p.slots.total Holding.objects ≤ p.objects :=
  Multiset.le_add_left _ _

theorem Sound.objects_eq (hs : p.Sound) (hctx : ctx ∈ p.contexts) :
    p.objects = ctx.objects + p.slots.total Holding.objects := by
  have hall : p.contexts = List.replicate p.contexts.length ctx :=
    List.eq_replicate_of_mem fun a ha => hs.shares a ha ctx hctx
  have hone : p.contexts.dedup = [ctx] := by
    rw [hall]
    exact List.replicate_dedup (List.length_pos_of_mem hctx).ne'
  rw [objects, hone, List.map_singleton, List.sum_singleton]

theorem objects_unused (h : p.contexts = []) : p.objects = 0 := by
  have hslots : p.slots.entries = [] := by
    have hnone := List.append_eq_nil_iff.mp h
    exact List.map_eq_nil_iff.mp hnone.2
  simp [objects, Slots.total, h, hslots]

theorem unused_iff : (p.device.isNone && p.slots.isEmpty) = true ↔ p.contexts = [] := by
  cases hd : p.device <;> simp [contexts, Slots.isEmpty, hd]

theorem Sound.of_subset (hs : p.Sound) (hsub : ∀ a ∈ p'.contexts, a ∈ p.contexts)
    (hsingle : p'.slots.Single) : p'.Sound where
  shares := by
    intro a ha b hb
    exact hs.shares a (hsub a ha) b (hsub b hb)
  single := hsingle

theorem erase_subset :
    ∀ a ∈ ({ p with slots := p.slots.erase slot } : Playback).contexts, a ∈ p.contexts := by
  intro a ha
  rcases List.mem_append.mp ha with hdevice | hslot
  · exact List.mem_append_left _ hdevice
  · obtain ⟨e, he, rfl⟩ := List.mem_map.mp hslot
    exact List.mem_append_right _ (List.mem_map_of_mem (Slots.mem_erase.mp he).1)

theorem Sound.erase (hs : p.Sound) : { p with slots := p.slots.erase slot }.Sound :=
  hs.of_subset erase_subset (Slots.erase_single hs.single)

theorem Sound.insert (hs : p.Sound) (slot : String) (hctx : holding.context ∈ p.contexts) :
    { p with slots := p.slots.insert slot holding }.Sound := by
  apply hs.of_subset _ (Slots.insert_single hs.single)
  intro a ha
  rcases List.mem_append.mp ha with hdevice | hslot
  · exact List.mem_append_left _ hdevice
  · obtain ⟨e, he, rfl⟩ := List.mem_map.mp hslot
    rcases Slots.mem_insert.mp he with rfl | hother
    · exact hctx
    · exact List.mem_append_right _ (List.mem_map_of_mem (Slots.mem_erase.mp hother).1)

theorem Sound.withoutDevice (hs : p.Sound) : { p with device := none }.Sound := by
  have hsingle : ({ p with device := none } : Playback).slots.Single := hs.single
  apply hs.of_subset _ hsingle
  intro a ha
  exact List.mem_append_right _ ha

/-- A sound session that owns what is live. What was spared on the way it owns as well. -/
def Settled (spared : Multiset Object) (p : Playback) (c : Census) : Prop :=
  p.Sound ∧ c.Books p.objects (spared ∪ p.objects)

theorem settled_of_books {spared' : Multiset Object} (hs : p.Sound)
    (hle : spared' ≤ spared ∪ p.objects) (h : c.Books p.objects spared') :
    p.Settled spared c :=
  ⟨hs, h.1, h.2.trans hle⟩

theorem settled_unchanged (hs : p.Sound) (h : c.Books p.objects spared) : p.Settled spared c :=
  settled_of_books hs Multiset.le_union_left h

theorem Sound.objects_get (hs : p.Sound) (hget : p.slots.get? slot = some holding) :
    p.objects = holding.objects +
      (holding.context.objects + (p.slots.erase slot).total Holding.objects) := by
  rw [hs.objects_eq (slot_mem hget), Slots.total_of_get? Holding.objects hs.single hget]
  exact add_left_comm _ _ _

theorem Sound.objects_insert (hs : p.Sound) (slot : String) (hctx : holding.context ∈ p.contexts) :
    { p with slots := p.slots.insert slot holding }.objects = holding.objects +
      (holding.context.objects + (p.slots.erase slot).total Holding.objects) := by
  have hmem : holding.context ∈
      ({ p with slots := p.slots.insert slot holding } : Playback).contexts := by
    apply List.mem_append_right
    exact List.mem_map.mpr ⟨(slot, holding), Slots.mem_insert.mpr (Or.inl rfl), rfl⟩
  rw [(hs.insert slot hctx).objects_eq hmem, Slots.total_insert]
  exact add_left_comm _ _ _

theorem below_context (ctx : Context) : below .surface ctx.objects = 0 := by
  have hsplit : ctx.objects = Vulkan.part (some ctx.inst) + Vulkan.part (some ctx.device) +
      Vulkan.part ctx.messenger := rfl
  rw [hsplit, Vulkan.below_add, Vulkan.below_add, Vulkan.below_part (by decide),
    Vulkan.below_part (by decide), Vulkan.below_part (by decide)]
  rfl

/-- The context goes if nothing refers to it any more, and stays if anything does. -/
theorem releaseUnused_books (hs : p.Sound) (hall : ∀ a ∈ p.contexts, a = ctx)
    (h : c.Books (ctx.objects + p.slots.total Holding.objects) spared) :
    (p.releaseUnused ctx).Keeps census (fun p' c' => p'.slots = p.slots ∧ p'.Sound ∧
      c'.Books p'.objects spared) c := by
  unfold releaseUnused
  split
  · rename_i hunused
    have hnone : p.contexts = [] := unused_iff.mp hunused
    have htotal : p.slots.total Holding.objects = 0 := by
      apply Multiset.le_zero.mp
      rw [← objects_unused hnone]
      exact total_le_objects
    rw [htotal, add_zero] at h
    apply Program.Keeps.andThen (Context.release_books h)
    intro forwarding c h
    have hobjects : ({ p with forwarding } : Playback).objects = 0 := objects_unused hnone
    refine ⟨rfl, hs.of_subset (fun _ ha => ha) hs.single, ?_⟩
    rw [hobjects]
    exact h
  · rename_i hused
    obtain ⟨a, ha⟩ := List.exists_mem_of_ne_nil _ (unused_iff.not.mp hused)
    have hctx : ctx ∈ p.contexts := hall a ha ▸ ha
    refine ⟨rfl, hs, ?_⟩
    rw [hs.objects_eq hctx]
    exact h

theorem dropSlot_settles (hs : p.Sound) (h : c.Books p.objects spared) :
    (p.dropSlot slot).Keeps census (Settled spared) c := by
  unfold dropSlot
  split
  · exact settled_unchanged hs h
  · rename_i holding hget
    have hmem := slot_mem hget
    have hall : ∀ a ∈ ({ p with slots := p.slots.erase slot } : Playback).contexts,
        a = holding.context := by
      intro a ha
      exact hs.shares a (erase_subset a ha) holding.context hmem
    rw [hs.objects_get hget] at h
    apply Program.Keeps.andThen (Holding.release_books (Multiset.le_add_right _ _) h)
    intro _ c h
    -- The context may go next, so nothing of it may count as spared.
    rw [Vulkan.below_add, below_context, zero_add] at h
    apply Program.Keeps.mono (releaseUnused_books hs.erase hall h)
    intro p' c hr
    obtain ⟨hslots, hs', h⟩ := hr
    have htotal : (p.slots.erase slot).total Holding.objects ≤ p'.objects := by
      show ({ p with slots := p.slots.erase slot } : Playback).slots.total Holding.objects ≤ _
      rw [← hslots]
      exact total_le_objects
    apply settled_of_books hs' _ h
    apply Multiset.union_le_union_left
    exact (Vulkan.below_le _ _).trans htotal

theorem dropDevice_settles (hs : p.Sound) (h : c.Books p.objects spared) :
    p.dropDevice.Keeps census (Settled spared) c := by
  unfold dropDevice
  split
  · exact settled_unchanged hs h
  · rename_i device hdevice
    have hmem := device_mem hdevice
    have hall : ∀ a ∈ ({ p with device := none } : Playback).contexts, a = device.context := by
      intro a ha
      exact hs.shares a (List.mem_append_right _ ha) device.context hmem
    rw [hs.objects_eq hmem] at h
    apply Program.Keeps.mono (releaseUnused_books hs.withoutDevice hall h)
    intro p' c hr
    obtain ⟨-, hs', h⟩ := hr
    exact settled_unchanged hs' h

/-- The holding is put into its place before what was there goes. -/
theorem store_settles (hs : p.Sound) (hctx : holding.context ∈ p.contexts)
    (h : c.Books (holding.objects + p.objects) spared) :
    (p.store slot holding).Keeps census (Settled spared) c := by
  have hobjects := hs.objects_insert slot hctx
  have hinsert := hs.insert slot hctx
  unfold store
  cases hget : p.slots.get? slot with
  | none =>
    rw [hs.objects_eq hctx] at h
    rw [Slots.erase_of_get?_none hget] at hobjects
    rw [← hobjects] at h
    exact settled_unchanged hinsert h
  | some old =>
    have hsame : old.context = holding.context :=
      hs.shares old.context (slot_mem hget) holding.context hctx
    have hsplit : holding.objects + p.objects = old.objects +
        ({ p with slots := p.slots.insert slot holding } : Playback).objects := by
      rw [hs.objects_get hget, hobjects, hsame]
      exact add_left_comm _ _ _
    have hmore : old.context.objects ≤
        ({ p with slots := p.slots.insert slot holding } : Playback).objects := by
      rw [hobjects, hsame]
      exact (Multiset.le_add_right _ _).trans (Multiset.le_add_left _ _)
    rw [hsplit] at h
    apply Program.Keeps.andThen (Holding.release_books hmore h)
    intro _ c h
    apply settled_of_books hinsert _ h
    exact Multiset.union_le_union_left (Vulkan.below_le _ _) _

/-- What there is after an opening: a holding on a context, or no more than before. -/
def Opened (ctx : Context) (frame spared : Multiset Object) :
    Except Error Holding → Census → Prop
  | .ok holding, c => holding.context = ctx ∧ c.Books (holding.objects + frame) spared
  | .error _, c => c.Books frame (spared ∪ below .surface frame)

section

variable {device : Device} {frame : Multiset Object} (handle : WindowHandle)
  (hctx : device.context.objects ≤ frame)

include hctx

theorem openNative_books (h : c.Books frame spared) :
    (openNative device handle).Keeps census (Opened device.context frame spared) c := by
  apply Program.Keeps.andThen (Device.openWindow_books handle hctx h)
  intro answer c h
  cases answer with
  | error e =>
    exact h
  | ok ws =>
    exact h

/-- A window surface that no surface can be attached to goes again. -/
theorem openSurface_books (h : c.Books frame spared) :
    (openSurface device handle).Keeps census (Opened device.context frame spared) c := by
  apply Program.Keeps.andThen (Device.openWindow_books handle hctx h)
  intro answer c h
  cases answer with
  | error e =>
    simp only [Surface.refused, Surface.notice, Program.keeps_andThen, Program.keeps_log,
      Program.keeps_pure]
    exact h
  | ok ws =>
    obtain ⟨hws, h⟩ := h
    apply Program.Keeps.andThen
      (WindowSurface.served_books hctx hws (Surface.attach_stays device.name) h)
    rintro ⟨e | s, ws'⟩ c ⟨past, hbooked, rfl⟩
    · have hws' : ws'.context.objects ≤ frame := by
        rw [hbooked.1]
        exact hctx
      apply Program.Keeps.andThen
        (WindowSurface.release_books hws' ((WindowSurface.booked_before hbooked.1).mp hbooked))
      intro _ c h
      exact h
    · exact ⟨hbooked.1, (WindowSurface.booked_before hbooked.1).mp hbooked⟩

end

theorem openIn_settles (window : Option Window)
    {make : Device → WindowHandle → Vulkan.Program (Except Error Holding)}
    (hmake : ∀ (device : Device) (handle : WindowHandle) (frame : Multiset Object) (c : Census),
      device.context.objects ≤ frame → c.Books frame spared →
        (make device handle).Keeps census (Opened device.context frame spared) c)
    (hs : p.Sound) (h : c.Books p.objects spared) :
    (p.openIn slot window make).Keeps census (fun r => Settled spared r.2) c := by
  unfold openIn
  split
  · exact settled_unchanged hs h
  · rename_i device hdevice
    have hmem := device_mem hdevice
    have hctx : device.context.objects ≤ p.objects := by
      rw [hs.objects_eq hmem]
      exact Multiset.le_add_right _ _
    split
    · exact settled_unchanged hs h
    · rename_i handle _
      apply Program.Keeps.andThen (hmake device handle p.objects c hctx h)
      intro answer c h
      cases answer with
      | error e =>
        apply settled_of_books hs _ h
        exact Multiset.union_le_union_left (Vulkan.below_le _ _) _
      | ok holding =>
        have hown : holding.context ∈ p.contexts := by
          rw [h.1]
          exact hmem
        apply Program.keeps_andThen.mpr
        exact store_settles hs hown h.2

/-- What a slot's surface did to its own objects is all that changed. -/
theorem settled_insert {ws : WindowSurface} {past : Bool} (hs : p.Sound)
    (hget : p.slots.get? slot = some holding) {holding' : Holding}
    (hws : holding'.windowSurface = ws)
    (h : ws.Booked holding.context
      (holding.context.objects + (p.slots.erase slot).total Holding.objects) spared c past) :
    { p with slots := p.slots.insert slot holding' }.Settled spared c := by
  have hctx : holding'.context = holding.context := by
    rw [Holding.context_eq, hws]
    exact h.1
  have hown : holding'.context ∈ p.contexts := by
    rw [hctx]
    exact slot_mem hget
  have hobjects := hs.objects_insert slot hown
  rw [hctx, Holding.objects, hws] at hobjects
  have hafter := h.after
  rw [← hobjects] at hafter
  apply settled_of_books (hs.insert slot hown) _ hafter
  exact Multiset.union_le_union_left (Vulkan.below_le _ _) _

theorem onSurface_settles (step : SurfaceStep) (hs : p.Sound) (h : c.Books p.objects spared) :
    (p.onSurface slot step).Keeps census (fun r => Settled spared r.2) c := by
  unfold onSurface
  split
  · rename_i s ws hget
    rw [hs.objects_get hget] at h
    apply Program.Keeps.andThen (WindowSurface.served_books (Multiset.le_add_right _ _) rfl
      (step.perform_transits s) h)
    intro r c hr
    obtain ⟨⟨reply, s'⟩, ws'⟩ := r
    obtain ⟨past, hbooked, -⟩ := hr
    exact settled_insert hs hget rfl hbooked
  · exact settled_unchanged hs h

theorem onNative_settles (call : Native.Call) (hs : p.Sound) (h : c.Books p.objects spared) :
    (p.onNative slot call).Keeps census (fun r => Settled spared r.2) c := by
  unfold onNative
  split
  · rename_i ws hget
    rw [hs.objects_get hget] at h
    have hallowed : Native.transition.allows false call := by
      intro hpast
      cases hpast
    apply Program.Keeps.andThen (WindowSurface.serve_books (Multiset.le_add_right _ _) call hallowed
      ((WindowSurface.booked_before rfl).mpr h))
    intro r c hr
    obtain ⟨answer, ws'⟩ := r
    obtain ⟨-, hbooked⟩ := hr
    exact settled_insert hs hget rfl hbooked
  · exact settled_unchanged hs h

theorem report_books {frame : Multiset Object} (forwarding : Option Vulkan.Forwarding)
    (m : Vulkan.Message) (h : c.Books frame spared) :
    (m.report forwarding).Keeps census (fun _ c' => c'.Books frame spared) c := by
  unfold Vulkan.Message.report
  split
  · rw [Program.keeps_andThen, Program.keeps_log]
    split
    · rw [Program.keeps_andThen, Program.keeps_log]
      trivial
    · exact h
  · exact h

/-- Every command of a sound session leaves live what the session has afterwards. -/
theorem step_settles (command : Command) (hs : p.Sound) (h : c.Books p.objects spared) :
    (p.step slot command).Keeps census (fun r => Settled spared r.2) c := by
  cases command with
  | newSurface window =>
    exact openIn_settles window (fun _ handle _ _ hctx h => openSurface_books handle hctx h) hs h
  | newNative window =>
    exact openIn_settles window (fun _ handle _ _ hctx h => openNative_books handle hctx h) hs h
  | drop =>
    apply Program.keeps_andThen.mpr
    exact dropSlot_settles hs h
  | surface step => exact onSurface_settles step hs h
  | native call => exact onNative_settles call hs h
  | waitIdle =>
    dsimp only [step]
    split
    · exact settled_unchanged hs h
    · rename_i device hdevice
      have hctx : device.context.objects ≤ p.objects := by
        rw [hs.objects_eq (device_mem hdevice)]
        exact Multiset.le_add_right _ _
      apply Program.Keeps.andThen (Device.waitIdle_books hctx h)
      intro _ c h
      exact settled_unchanged hs h
  | dropDevice =>
    apply Program.keeps_andThen.mpr
    exact dropDevice_settles hs h
  | message m =>
    dsimp only [step]
    split
    · apply Program.Keeps.andThen (report_books p.forwarding m h)
      intro _ c h
      exact settled_unchanged hs h
    · exact settled_unchanged hs h

/-- A session has its first device alone, or nothing. -/
theorem start_settles (host : Vulkan.Host) (window : Window) (config : DeviceConfig)
    (h : c.Books 0 spared) :
    (start host window config).Keeps census (fun r => Settled spared r.2) c := by
  apply Program.Keeps.andThen (Device.create_books host window config none h)
  rintro ⟨e | device, forwarding⟩ c h
  · have hs : Sound ⟨window, none, .empty, forwarding, forwarding.isSome⟩ :=
      ⟨fun _ ha => (List.not_mem_nil ha).elim, List.nodup_nil⟩
    apply settled_unchanged hs
    rw [objects_unused rfl]
    exact h
  · have hs : Sound ⟨window, some device, .empty, forwarding, forwarding.isSome⟩ := by
      refine ⟨?_, List.nodup_nil⟩
      intro a ha b hb
      rw [List.mem_singleton.mp ha, List.mem_singleton.mp hb]
    apply settled_unchanged hs
    rw [hs.objects_eq (device_mem rfl)]
    show c.Books (device.context.objects + 0) spared
    rw [add_zero]
    exact h

theorem steps_settles (commands : List (String × Command)) (hs : p.Sound)
    (h : c.live = p.objects) :
    (p.steps commands).Keeps census (fun p' c' => p'.Sound ∧ c'.live = p'.objects) c := by
  induction commands generalizing p c with
  | nil => exact ⟨hs, h⟩
  | cons first rest ih =>
    obtain ⟨slot, command⟩ := first
    -- Over several commands only what is live matters: each of them accounts for what it spares.
    apply Program.Keeps.andThen (step_settles command hs ⟨h, le_rfl⟩)
    intro r c hr
    exact ih hr.1 hr.2.1

theorem session_settles (host : Vulkan.Host) (window : Window) (config : DeviceConfig)
    (commands : List (String × Command)) :
    (session host window config commands).Keeps census
      (fun p c => p.Sound ∧ c.live = p.objects) ⟨0, 0⟩ := by
  apply Program.Keeps.andThen (start_settles host window config ⟨rfl, le_rfl⟩)
  intro r c hr
  exact steps_settles commands hr.1 hr.2.1

variable {σ α : Type} {answer : (c : Vulkan.Call) → σ → c.Answer × σ} {driver : σ}

/-- An operation that keeps to the census accounts for all objects when it is completed. -/
theorem accounts_of_settles {before : List (Event Vulkan.interface)}
    {operation : Vulkan.Program (α × Playback)} {a : α}
    (hbefore : census.Allows ⟨0, 0⟩ before)
    (hkeeps : operation.Keeps census (fun r => Settled 0 r.2) ⟨live before, 0⟩)
    (hend : (operation.run answer driver).outcome = .ok (a, p)) :
    Accounts before (operation.run answer driver).events p.objects := by
  have hrun := hkeeps.run answer driver (fun _ _ _ _ => trivial)
  have hsettled := (hrun.2.1 _ hend).2
  rw [Multiset.zero_union] at hsettled
  exact Vulkan.accounts_of_books hbefore hrun.1 hsettled

/-- With any driver, from the creation of a device or its failure on and through all commands:
only live objects are passed, and each completed operation accounts for all objects. Where neither
device nor surfaces are left, nothing is live. -/
theorem session_accounts (answer : (c : Vulkan.Call) → σ → c.Answer × σ) (driver : σ)
    (host : Vulkan.Host) (window : Window) (config : DeviceConfig)
    (commands : List (String × Command)) :
    let first := (start host window config).run answer driver
    let run := (session host window config commands).run answer driver
    PassesLive run.events ∧
      (∀ reply p, first.outcome = .ok (reply, p) → Accounts [] first.events p.objects) ∧
      ∀ p, run.outcome = .ok p →
        (p.device = none → p.slots.isEmpty = true → live run.events = 0) ∧
        ∀ slot command reply p',
          ((p.step slot command).run answer run.peer).outcome = .ok (reply, p') →
          Accounts run.events ((p.step slot command).run answer run.peer).events p'.objects := by
  intro first run
  have hrun := (session_settles host window config commands).run answer driver
    (fun _ _ _ _ => trivial)
  refine ⟨hrun.1, ?_, ?_⟩
  · intro reply p hend
    have hnil : census.Allows ⟨0, 0⟩ [] := Watch.allows_nil _ _
    exact accounts_of_settles hnil (start_settles host window config ⟨rfl, le_rfl⟩) hend
  · intro p hend
    obtain ⟨hsound, hlive⟩ := hrun.2.1 p hend
    constructor
    · intro hdevice hslots
      have hunused : p.contexts = [] := unused_iff.mp (by simp [hdevice, hslots])
      exact hlive.trans (objects_unused hunused)
    · intro slot command reply p' hstep
      exact accounts_of_settles hrun.1 (step_settles command hsound ⟨hlive, le_rfl⟩) hstep

/-- A surface that presents an image, and outlives its device. -/
def outliving : Run Vulkan.interface Nat Playback :=
  (session ⟨.ok (), true⟩ ⟨.ok .wayland, .ok .wayland⟩ ⟨true, "", ⟨1, 0, 0⟩, .all, false⟩
    [("main", .newSurface none), ("main", .surface (.op (.configure (.ofSize 4 4)))),
      ("main", .surface (.op .acquire)), ("main", .surface (.op .present)),
      ("", .dropDevice)]).run Vulkan.generous 0

/-- When it is dropped, the context goes with it. -/
theorem outliving_accounts : ∃ p reply p', outliving.outcome = .ok p ∧
    ((p.step "main" .drop).run Vulkan.generous outliving.peer).outcome = .ok (reply, p') ∧
    p.device = none ∧ p'.slots.isEmpty = true ∧
    Accounts outliving.events
      ((p.step "main" .drop).run Vulkan.generous outliving.peer).events p'.objects := by
  have hends : (match outliving.outcome with
      | .ok p => p.device.isNone &&
        match ((p.step "main" .drop).run Vulkan.generous outliving.peer).outcome with
        | .ok (_, p') => p'.slots.isEmpty
        | .error _ => false
      | .error _ => false) = true := by
    decide +kernel
  split at hends
  · rename_i p hend
    obtain ⟨hdevice, hlast⟩ := Bool.and_eq_true_iff.mp hends
    split at hlast
    · rename_i reply p' hstep
      refine ⟨p, reply, p', hend, hstep, Option.isNone_iff_eq_none.mp hdevice, hlast, ?_⟩
      exact ((session_accounts Vulkan.generous 0 ⟨.ok (), true⟩ ⟨.ok .wayland, .ok .wayland⟩
        ⟨true, "", ⟨1, 0, 0⟩, .all, false⟩ _).2.2 p hend).2 "main" .drop reply p' hstep
    · cases hlast
  · cases hends

end Playback

end Presentation.Session
