import Mathlib.Algebra.BigOperators.Group.List.Basic
import Presentation.Proofs.Vulkan.Ledger
import Presentation.Proofs.Vulkan.Lifetimes
import Presentation.Proofs.Vulkan.SurfaceObjects

/-!
# Replacing a swapchain

A window surface that is configured anew has a second swapchain made beside the
one it has. If that fails, all that was made of it is gone again and the first
one was not touched, save that the driver may have been told that it is to be
replaced. If it succeeds, the first one goes when the second is complete.
-/

set_option autoImplicit false

namespace Presentation.Vulkan

variable {σ : Type} {es before events : List (Event interface)}

/-- A call passes a swapchain as the one that a new one is to replace. -/
def Call.Replaces (old : Handle .swapchain) : Call → Prop
  | .create (.swapchain _ request) => request.old = some old
  | _ => False

/-- The driver gave a handle to a new swapchain. -/
def Renewed (handle : Handle .swapchain) (es : List (Event interface)) : Prop :=
  ∃ device request, .asked (.create (.swapchain device request)) (.ok handle) ∈ es

/-- A call that passes a swapchain is the first one that does, and passes it to be replaced. Only
if the driver has meanwhile given its handle to another one, that may be passed. -/
def HandsOver (old : Handle .swapchain) (es : List (Event interface)) (c : Call) : Prop :=
  old.object ∈ c.uses →
    Renewed old es ∨ c.Replaces old ∧ ∀ c' a, .asked c' a ∈ es → old.object ∉ c'.uses

/-- A swapchain was passed at most once, and only to be replaced. -/
def HandedOver (old : Handle .swapchain) (events : List (Event interface)) : Prop :=
  ∀ (n : Nat) c a, events[n]? = some (.asked c a) → HandsOver old (events.take n) c

theorem not_uses_of_inquires {c : Call} (hc : c.Inquires) (handle : Handle .swapchain) :
    handle.object ∉ c.uses := by
  cases c with
  | capabilities => simp [Call.uses, Handle.object]
  | surfaceFormats => simp [Call.uses, Handle.object]
  | presentModes => simp [Call.uses, Handle.object]
  | _ => exact hc.elim

theorem object_inj {kind : Kind} {h h' : Handle kind} (heq : h.object = h'.object) : h = h' := by
  cases h
  cases h'
  simpa [Handle.object] using heq

theorem eq_of_builds_uses {c : Call} {handle old : Handle .swapchain} (hc : c.Builds handle)
    (huses : old.object ∈ c.uses) : old = handle := by
  cases c with
  | create what =>
    cases what with
    | view => simp [Call.uses, Creation.uses, Handle.object] at huses
    | fence => simp [Call.uses, Creation.uses, Handle.object] at huses
    | semaphore => simp [Call.uses, Creation.uses, Handle.object] at huses
    | pool => simp [Call.uses, Creation.uses, Handle.object] at huses
    | _ => exact hc.elim
  | swapchainImages device swapchain =>
    have hsame : swapchain = handle := hc
    rw [hsame, Call.uses, Multiset.mem_add, Multiset.mem_singleton, Multiset.mem_singleton] at huses
    rcases huses with hdevice | hswapchain
    · simp [Handle.object] at hdevice
    · exact object_inj hswapchain
  | allocate => simp [Call.uses, Handle.object] at huses
  | beginCommands => simp [Call.uses] at huses
  | barrier => simp [Call.uses] at huses
  | endCommands => simp [Call.uses] at huses
  | _ => exact hc.elim

theorem not_uses_of_destroy {kind : Kind} {on : Option Object} {device : Handle .device}
    {h : Option (Handle kind)} (hkind : kind ≠ .swapchain) (hon : on = some device.object)
    (handle : Handle .swapchain) : handle.object ∉ (Call.destroy kind on h).uses := by
  intro huses
  cases h with
  | none => simp [Call.uses, Handle.object, hon] at huses
  | some h =>
    have hsame : Kind.swapchain = kind := by
      simpa [Call.uses, Handle.object, hon] using congrArg Object.kind
        (show handle.object = h.object by simpa [Call.uses, Handle.object, hon] using huses)
    exact hkind hsame.symm

theorem eq_of_releases_uses {c : Call} {device : Handle .device} {sc : Swapchain}
    {old : Handle .swapchain} (hc : c.Releases device sc) (huses : old.object ∈ c.uses) :
    old = sc.handle := by
  cases c with
  | waitIdle => simp [Call.uses, Handle.object] at huses
  | destroy kind on h =>
    cases kind with
    | swapchain =>
      obtain ⟨rfl, rfl⟩ := hc
      have heq : old.object = sc.handle.object := by
        simpa [Call.uses, Handle.object] using huses
      exact object_inj heq
    | view => exact absurd huses (not_uses_of_destroy (by decide) hc old)
    | fence => exact absurd huses (not_uses_of_destroy (by decide) hc.1 old)
    | semaphore => exact absurd huses (not_uses_of_destroy (by decide) hc old)
    | pool => exact absurd huses (not_uses_of_destroy (by decide) hc old)
    | _ => exact hc.elim
  | _ => exact hc.elim

theorem endedBy_of_inquires {c : Call} {a : c.Answer} (hc : c.Inquires) :
    endedBy (.asked c a) = 0 := by
  cases c with
  | destroy => exact hc.elim
  | _ => rfl

theorem endedBy_of_builds {c : Call} {a : c.Answer} {handle : Handle .swapchain}
    (hc : c.Builds handle) : endedBy (.asked c a) = 0 := by
  cases c with
  | destroy => exact hc.elim
  | _ => rfl

theorem madeBy_of_releases {c : Call} {a : c.Answer} {device : Handle .device}
    {sc : Swapchain} (hc : c.Releases device sc) : madeBy (.asked c a) = 0 := by
  cases c with
  | create => exact hc.elim
  | _ => rfl

theorem destroyed_asked {c : Call} {a : c.Answer} (h : endedBy (.asked c a) = 0) :
    destroyed (es ++ [.asked c a]) = destroyed es := by
  simp [destroyed, h]

theorem destroyed_calls : destroyed (Watch.calls events) = destroyed events := by
  induction events with
  | nil => rfl
  | cons e rest ih =>
    cases e with
    | noted entry => exact ih.trans (zero_add _).symm
    | asked c a => exact congrArg (endedBy (.asked c a) + ·) ih

theorem Renewed.append {handle : Handle .swapchain} (h : Renewed handle es)
    (more : List (Event interface)) : Renewed handle (es ++ more) := by
  obtain ⟨device, request, hmem⟩ := h
  exact ⟨device, request, List.mem_append_left more hmem⟩

/-- A watch over what becomes of an old swapchain while a new one is made. -/
def handover (old : Option (Handle .swapchain)) : Watch interface (List (Event interface)) :=
  .tape (fun es c => ∀ h, old = some h → HandsOver h es c) (fun _ _ => True) True

variable {old : Option (Handle .swapchain)} {calm : Prop}

instance : (handover old).Deaf := inferInstanceAs (Watch.tape _ _ _).Deaf

theorem handedOver_of_allows {h : Handle .swapchain}
    (hallows : (handover (some h)).Allows [] events) : HandedOver h events := by
  intro n c a hn huses
  have htape : (handover (some h)).after [] (events.take n) = Watch.calls (events.take n) :=
    Watch.tape_after
  have hover := hallows n c a hn h rfl huses
  rw [htape] at hover
  rcases hover with ⟨device, request, hmem⟩ | ⟨hreplaces, hfirst⟩
  · exact Or.inl ⟨device, request, Watch.mem_calls.mp hmem⟩
  · exact Or.inr ⟨hreplaces, fun c' a' hmem => hfirst c' a' (Watch.mem_calls.mpr hmem)⟩

namespace Swapchain

/-- A new swapchain has its handle, and nothing was destroyed. -/
def Arising (handle : Handle .swapchain) (es : List (Event interface)) : Prop :=
  Renewed handle es ∧ destroyed es = 0

/-- Nothing was done yet that concerns an old swapchain. -/
def Untouched (old : Option (Handle .swapchain)) (es : List (Event interface)) : Prop :=
  (∀ h, old = some h → ∀ c a, .asked c a ∈ es → h.object ∉ c.uses) ∧ destroyed es = 0

theorem inquiring_bears : (handover old).Bears Call.Inquires (Untouched old) := by
  intro c es hc hes
  constructor
  · intro h _ huses
    exact absurd huses (not_uses_of_inquires hc h)
  · intro a _
    refine ⟨?_, (destroyed_asked (endedBy_of_inquires hc)).trans hes.2⟩
    intro h hold c' a' hmem
    rcases List.mem_append.mp hmem with hmem | hmem
    · exact hes.1 h hold c' a' hmem
    · cases List.mem_singleton.mp hmem
      exact not_uses_of_inquires hc h

theorem building_bears (handle : Handle .swapchain) :
    (handover old).Bears (Call.Builds handle) (Arising handle) := by
  intro c es hc hes
  constructor
  · intro h _ huses
    rw [eq_of_builds_uses hc huses]
    exact Or.inl hes.1
  · intro a _
    exact ⟨hes.1.append _, (destroyed_asked (endedBy_of_builds hc)).trans hes.2⟩

theorem releasing_bears (device : Handle .device) (sc : Swapchain) :
    (handover old).Bears (Call.Releases device sc) (Renewed sc.handle) := by
  intro c es hc hes
  constructor
  · intro h _ huses
    rw [eq_of_releases_uses hc huses]
    exact Or.inl hes
  · intro a _
    exact hes.append _

/-- An old swapchain is passed once at most while a new one is made, and nothing is destroyed if
that succeeds. -/
theorem create_hands_over (ctx : Context) (surface : Handle .surface) (desc : SwapchainDesc)
    (old : Option (Handle .swapchain)) :
    (create ctx surface desc old).Keeps (handover old)
      (fun r es => ∀ sc, r = .ok sc → sc.Fresh sc.handle ∧ sc.textures ≠ [] ∧ destroyed es = 0)
      [] := by
  have hnone : Untouched old [] := ⟨fun _ _ _ _ hmem => (List.not_mem_nil hmem).elim, rfl⟩
  have hcreate : ∀ (request : SwapchainRequest) es, request.old = old → Untouched old es →
      (ask (.create (.swapchain ctx.device request))).Keeps (handover old)
        (Either Arising fun _ => True) es := by
    intro request es hold hes
    apply ask_keeps
    · intro h hsome _
      exact Or.inr ⟨hold.trans hsome, hes.1 h hsome⟩
    rintro (code | handle) -
    · trivial
    · exact ⟨⟨_, _, List.mem_append_right es (List.mem_singleton.mpr rfl)⟩,
        (destroyed_asked rfl).trans hes.2⟩
  apply Program.Keeps.mono (create_bears (E := fun _ => True) (R := Renewed) ctx surface desc
    trivial inquiring_bears (fun _ _ => trivial) hcreate building_bears (fun _ _ h => h.1)
    (releasing_bears ctx.device) (fun _ _ _ => trivial) hnone)
  rintro (e | sc') es h sc heq
  · cases heq
  · cases heq
    exact ⟨h.1, h.2.1, h.2.2.2⟩

end Swapchain

theorem created_of_releases {device : Handle .device} {sc : Swapchain}
    (h : (within (Call.Releases device sc) calm).Allows () events) : created events = 0 := by
  apply List.sum_eq_zero
  intro objects hmem
  obtain ⟨e, he, rfl⟩ := List.mem_map.mp hmem
  cases e with
  | noted entry => rfl
  | asked c a =>
    obtain ⟨n, hn⟩ := List.getElem?_of_mem he
    exact madeBy_of_releases (h n c a hn)

theorem live_append : live (before ++ events) = (census.after ⟨live before, 0⟩ events).live := by
  rw [live, Watch.after_append, Census.after_live 0]
  rfl

/-- What keeps to the census makes and destroys what it adds to and takes from what is live. -/
theorem live_balance (h : census.Allows ⟨live before, 0⟩ events) :
    live before + created events = destroyed events + live (before ++ events) := by
  rw [live_append]
  exact Census.after_balance h

namespace Swapchain

/-- A swapchain that was made in full, with nothing destroyed on the way. -/
structure Completed (before making : List (Event interface)) (sc : Swapchain) : Prop where
  held : sc.held = none
  stale : sc.stale = false
  textures : sc.textures ≠ []
  created_eq : created making = sc.objects
  spares : destroyed making = 0
  live_eq : live (before ++ making) = sc.objects + live before

/-- What a creation comes to by its events. -/
def Leaves (before making : List (Event interface)) : Except Error Swapchain → Prop
  | .ok sc => sc.Completed before making
  | .error _ => live (before ++ making) = live before

variable {ctx : Context} {surface : Handle .surface} {made : Except Error Swapchain} {driver : σ}
  {answer : (c : Call) → σ → c.Answer × σ}

theorem create_leaves (desc : SwapchainDesc) (hctx : ctx.objects ≤ live before)
    (hsurface : surface.object ∈ live before) (hold : ∀ o ∈ part old, o ∈ live before)
    (hend : ((create ctx surface desc old).run answer driver).outcome = .ok made) :
    Leaves before ((create ctx surface desc old).run answer driver).events made ∧
      ∀ h, old = some h →
        HandedOver h ((create ctx surface desc old).run answer driver).events := by
  have hbooks : Census.Books ⟨live before, 0⟩ (live before) 0 := ⟨rfl, le_rfl⟩
  obtain ⟨hcensus, hfounded, -⟩ := (create_founds hctx desc hsurface hold hbooks).run answer driver
    (fun _ _ _ _ => trivial)
  obtain ⟨hover, hspares, -⟩ := (create_hands_over ctx surface desc old).run answer driver
    (fun _ _ _ _ => trivial)
  have hafter := hfounded made hend
  constructor
  · cases made with
    | error e =>
      exact live_append.trans hafter.1
    | ok sc =>
      obtain ⟨⟨-, hheld, hstale⟩, htextures, htape⟩ := hspares _ hend sc rfl
      have hlive : live (before ++ _) = sc.objects + live before := live_append.trans hafter.1
      have hnothing : destroyed ((create ctx surface desc old).run answer driver).events = 0 := by
        rwa [handover, Watch.tape_after, List.nil_append, destroyed_calls] at htape
      have hbalance := live_balance hcensus
      rw [hnothing, hlive, zero_add, add_comm] at hbalance
      exact ⟨hheld, hstale, htextures, add_right_cancel hbalance, hnothing, hlive⟩
  · rintro h rfl
    exact handedOver_of_allows hover

end Swapchain

namespace WindowSurface

/-- A configuration that failed: the window surface and the set of live objects are what they were,
and the swapchain, if there is one, was passed at most to be replaced. -/
structure Kept (ws : WindowSurface) (before events : List (Event interface))
    (ws' : WindowSurface) : Prop where
  unchanged : ws' = ws
  live_eq : live (before ++ events) = live before
  handed : ∀ sc, ws.swapchain = some sc → HandedOver sc.handle events

/-- A configuration that succeeded: a new swapchain was completed, and then all of the old one was
destroyed. -/
structure Replaced (ws : WindowSurface) (before making ending : List (Event interface))
    (sc : Swapchain) : Prop where
  completed : sc.Completed before making
  adds : created ending = 0
  ended : destroyed ending = ws.swapchainObjects

variable {ws ws' : WindowSurface} {frame : Multiset Object} {driver : σ}
  {answer : (c : Call) → σ → c.Answer × σ} {result : Except Error Unit}

theorem releaseSwapchain_ends (hctx : ws.context.objects ≤ frame)
    (hlive : live before = ws.swapchainObjects + frame)
    (hend : (ws.releaseSwapchain.run answer driver).outcome = .ok ()) :
    created (ws.releaseSwapchain.run answer driver).events = 0 ∧
      destroyed (ws.releaseSwapchain.run answer driver).events = ws.swapchainObjects := by
  have hbooks : Census.Books ⟨live before, 0⟩ (ws.swapchainObjects + frame) 0 := ⟨hlive, le_rfl⟩
  obtain ⟨hcensus, hpost, -⟩ := (releaseSwapchain_books hctx hbooks).run answer driver
    (fun _ _ _ _ => trivial)
  have hafter : live (before ++ _) = frame := live_append.trans (hpost () hend).1
  have hcreated : created (ws.releaseSwapchain.run answer driver).events = 0 := by
    unfold releaseSwapchain
    split
    · rename_i sc hs
      have hwithin : (sc.release ws.context).Keeps
          (within (Call.Releases ws.context.device sc) False) (fun _ _ => True) () :=
        Swapchain.release_within ws.context sc
      have hrun := hwithin.run answer driver (fun _ _ _ _ hcalm => hcalm.elim)
      exact created_of_releases hrun.1
    · rfl
  have hbalance := live_balance hcensus
  rw [hcreated, hafter, hlive, add_zero] at hbalance
  exact ⟨hcreated, (add_right_cancel hbalance).symm⟩

/-- With any driver, a configuration either fails and keeps the swapchain there is, or replaces it
when a new one is complete. -/
theorem configure_keeps_or_replaces (hctx : ws.context.objects ≤ frame)
    (hlive : live before = ws.objects + frame) (desc : SwapchainDesc)
    (hend : ((ws.configure desc).run answer driver).outcome = .ok (result, ws')) :
    let making := (Swapchain.create ws.context ws.surface desc ws.handle?).run answer driver
    let run := (ws.configure desc).run answer driver
    (∀ e, result = .error e → ws.Kept before run.events ws') ∧
      (result = .ok () → ∃ sc ending, making.outcome = .ok (.ok sc) ∧
        run.events = making.events ++ ending ∧ ws' = { ws with swapchain := some sc } ∧
        ws.Replaced before making.events ending sc) := by
  intro making run
  have hmore : ws.context.objects ≤ live before := by
    rw [hlive]
    exact hctx.trans (Multiset.le_add_left _ _)
  have hsurface : ws.surface.object ∈ live before := by
    rw [hlive]
    exact Multiset.mem_add.mpr (Or.inl ws.surface_mem)
  have hold : ∀ o ∈ part ws.handle?, o ∈ live before := by
    intro o ho
    rw [hlive]
    exact Multiset.mem_add.mpr (Or.inl (ws.handle_mem o ho))
  obtain ⟨made, hcreate, hrest, hevents⟩ := Program.run_bind_ok hend
  obtain ⟨hleaves, hover⟩ := Swapchain.create_leaves desc hmore hsurface hold hcreate
  cases made with
  | error e =>
    have hmaking : run.events = making.events := hevents.trans (List.append_nil _)
    cases hrest
    constructor
    · intro _ _
      rw [hmaking]
      exact ⟨rfl, hleaves, fun sc hs => hover sc.handle (handle?_eq hs)⟩
    · intro heq
      cases heq
  | ok sc =>
    obtain ⟨⟨⟩, hreleased, hdone, hmore'⟩ := Program.run_bind_ok hrest
    have hboth : live (before ++ making.events) = ws.swapchainObjects +
        (sc.objects + (part (some ws.surface) + frame)) := by
      rw [hleaves.live_eq, hlive, objects_eq]
      abel
    have hrest' : ws.context.objects ≤ sc.objects + (part (some ws.surface) + frame) :=
      (hctx.trans (Multiset.le_add_left _ _)).trans (Multiset.le_add_left _ _)
    obtain ⟨hadds, hended⟩ := releaseSwapchain_ends hrest' hboth hreleased
    cases hdone
    constructor
    · intro _ heq
      cases heq
    · intro _
      have hending := hmore'.trans (List.append_nil _)
      exact ⟨sc, _, hcreate, hevents.trans (congrArg (making.events ++ ·) hending), rfl,
        hleaves, hadds, hended⟩

end WindowSurface

end Presentation.Vulkan
