import Mathlib.Logic.Function.Basic
import Presentation.Proofs.Vulkan.Aside
import Presentation.Surface.Command
import Presentation.Vulkan.Scene

/-!
# The ledger of swapchains

The calls of a run and their answers tell which swapchains were created and
destroyed, which were handed over to be replaced and by what, and which images
are with the application. An image is, from its acquisition on, until it is
queued for presentation or its swapchain is destroyed.
-/

set_option autoImplicit false

namespace Presentation.Vulkan

structure Ledger where
  created : List (Handle .swapchain)
  destroyed : List (Handle .swapchain)
  /-- Each swapchain that was handed over to be replaced, with what was made in its place. -/
  replaced : List (Handle .swapchain × Option (Handle .swapchain))
  /-- The images of a swapchain that are with the application. -/
  owned : Handle .swapchain → List Nat

namespace Ledger

def empty : Ledger := ⟨[], [], [], fun _ => []⟩

def create (g : Ledger) (old heir : Option (Handle .swapchain)) : Ledger :=
  { g with
    created := g.created ++ heir.toList
    replaced := g.replaced ++ (old.map fun h => (h, heir)).toList }

def destroy (g : Ledger) (h : Handle .swapchain) : Ledger :=
  { g with destroyed := g.destroyed ++ [h], owned := Function.update g.owned h [] }

def handOut (g : Ledger) (h : Handle .swapchain) (index : Nat) : Ledger :=
  { g with owned := Function.update g.owned h (g.owned h ++ [index]) }

def takeBack (g : Ledger) (h : Handle .swapchain) (index : Nat) : Ledger :=
  { g with owned := Function.update g.owned h ((g.owned h).erase index) }

def see (g : Ledger) : Event interface → Ledger
  | .asked (.create (.swapchain _ request)) answer => g.create request.old answer.toOption
  | .asked (.destroy .swapchain _ (some h)) _ => g.destroy h
  | .asked (.acquire _ h _) (.ok image) => g.handOut h image.index
  | .asked (.present _ _ h index) _ => g.takeBack h index
  | _ => g

/-- Different swapchains have different handles. -/
def Distinct (g : Ledger) : Prop := g.created.Nodup

/-- A call passes a swapchain that was handed over to be replaced before. -/
def Reuses (g : Ledger) : Call → Prop
  | .create (.swapchain _ request) => ∃ p ∈ g.replaced, request.old = some p.1
  | .acquire _ h _ => ∃ p ∈ g.replaced, h = p.1
  | _ => False

/-- Nothing was made, or what was made is gone. -/
def Gone (g : Ledger) (heir : Option (Handle .swapchain)) : Prop :=
  ∀ h, heir = some h → h ∈ g.destroyed

/-- A swapchain is there whose replacement failed. -/
def Bereft (g : Ledger) : Prop := ∃ p ∈ g.replaced, p.1 ∉ g.destroyed ∧ g.Gone p.2

theorem Distinct.of_create {g : Ledger} {old heir : Option (Handle .swapchain)}
    (h : (g.create old heir).Distinct) : g.Distinct :=
  h.sublist (List.sublist_append_left _ _)

/-- With different handles, a new swapchain has a handle that none had before. -/
theorem Distinct.not_mem {g : Ledger} {old : Option (Handle .swapchain)} {h : Handle .swapchain}
    (hd : (g.create old (some h)).Distinct) : h ∉ g.created := by
  intro hmem
  exact (List.nodup_append.mp hd).2.2 h hmem h (by simp) rfl

end Ledger

def ledger (events : List (Event interface)) : Ledger := events.foldl Ledger.see .empty

theorem Ledger.created_see (g : Ledger) (e : Event interface) :
    ∃ new, (g.see e).created = g.created ++ new := by
  unfold Ledger.see
  split
  · exact ⟨_, rfl⟩
  · exact ⟨[], (List.append_nil _).symm⟩
  · exact ⟨[], (List.append_nil _).symm⟩
  · exact ⟨[], (List.append_nil _).symm⟩
  · exact ⟨[], (List.append_nil _).symm⟩

theorem Ledger.created_foldl (g : Ledger) (events : List (Event interface)) :
    ∃ new, (events.foldl see g).created = g.created ++ new := by
  induction events generalizing g with
  | nil => exact ⟨[], (List.append_nil _).symm⟩
  | cons e events ih =>
    obtain ⟨first, hfirst⟩ := g.created_see e
    obtain ⟨rest, hrest⟩ := ih (g.see e)
    refine ⟨first ++ rest, ?_⟩
    rw [List.foldl_cons, hrest, hfirst, List.append_assoc]

theorem ledger_distinct_take {events : List (Event interface)} (h : (ledger events).Distinct)
    (n : Nat) : (ledger (events.take n)).Distinct := by
  obtain ⟨new, hnew⟩ := Ledger.created_foldl (ledger (events.take n)) (events.drop n)
  have happend : ledger events = (events.drop n).foldl Ledger.see (ledger (events.take n)) := by
    rw [ledger, ledger, ← List.foldl_append, List.take_append_drop]
  rw [Ledger.Distinct, happend, hnew] at h
  exact h.sublist (List.sublist_append_left _ _)

/-- Calls that put a swapchain to use: for an image, or for its replacement. -/
def Call.Employs : Call → Prop
  | .create (.swapchain ..) => True
  | .acquire .. => True
  | _ => False

/-- Keeps the ledger. A strict one allows the use of a swapchain that was handed over only if its
replacement failed. -/
def keeper (calm strict : Prop) : Watch interface Ledger where
  see := Ledger.see
  allows g c := strict → g.Distinct → c.Employs → (g.Reuses c ↔ g.Bereft)
  trusts _ c a := calm → c.Calm a
  halts := True

variable {calm strict : Prop} {g : Ledger}

instance : (keeper calm strict).Deaf := ⟨fun _ _ => rfl⟩

theorem see_aside {c : Call} {a : c.Answer} (hc : c.Aside) : g.see (.asked c a) = g := by
  unfold Ledger.see
  split
  · rename_i heq
    cases heq
    exact hc.elim
  · rename_i heq
    cases heq
    exact hc.elim
  · rename_i heq
    cases heq
    exact hc.elim
  · rename_i heq
    cases heq
    exact hc.elim
  · rfl

theorem not_employs_of_aside {c : Call} (hc : c.Aside) : ¬ c.Employs := by
  intro he
  unfold Call.Employs at he
  split at he
  · exact hc
  · exact hc
  · exact he

theorem keeper_aside {α : Type} {post : α → Unit → Prop} {p : Program α}
    (h : p.Keeps (aside calm) post ()) :
    p.Keeps (keeper calm strict) (fun a g' => post a () ∧ g' = g) g := by
  refine h.aside id ?_ (fun _ _ _ ht => ht) (fun _ _ hc => see_aside hc)
  intro c hc _ _ he
  exact absurd he (not_employs_of_aside hc)

theorem attempt_aside {α σ : Type} {ok : α → σ → Unit → Prop} {err : Error → σ → Unit → Prop}
    {t : Attempt interface σ α} {s : σ} (h : t.Keeps (aside calm) ok err s ()) :
    t.Keeps (keeper calm strict) (fun a s g' => ok a s () ∧ g' = g)
      (fun e s g' => err e s () ∧ g' = g) s g := by
  apply Program.Keeps.mono (keeper_aside h)
  rintro ⟨e | a, s⟩ g' hr
  · exact hr
  · exact hr

theorem destroy_aside {kind : Kind} (hk : kind ≠ .swapchain) (on : Option Object)
    (h : Option (Handle kind)) : (Call.destroy kind on h).Aside := by
  cases kind with
  | swapchain => exact absurd rfl hk
  | _ => trivial

theorem destroyOn_aside {parent kind : Kind} (on : Handle parent)
    (handle : Option (Handle kind)) (hk : kind ≠ .swapchain) :
    (destroyOn on handle).Keeps (aside calm) (fun _ _ => True) () :=
  ask_beside _ (destroy_aside hk _ handle)

theorem destroyAll_aside {α : Type} {parent kind : Kind} (on : Handle parent)
    (handle : α → Option (Handle kind)) (hk : kind ≠ .swapchain) (xs : List α) :
    (xs.forM fun x => destroyOn on (handle x)).Keeps (aside calm) (fun _ _ => True) () :=
  destroyAll_beside on handle xs fun x _ => destroy_aside hk _ (handle x)

namespace Swapchain

theorem release_keeps (ctx : Context) (sc : Swapchain) :
    (sc.release ctx).Keeps (keeper calm strict) (fun _ g' => g' = g.destroy sc.handle) g := by
  have hwait : (ask (.waitIdle ctx.device)).Keeps (aside calm) (fun _ _ => True) () :=
    ask_keeps _ trivial (fun _ _ => trivial)
  apply Program.Keeps.andThen (keeper_aside hwait)
  intro _ _ hr
  obtain ⟨-, rfl⟩ := hr
  apply Program.keeps_andThen.mpr
    ((keeper_aside (destroyOn_aside _ sc.acquireFence (by decide))).mono ?_)
  intro _ _ hr
  obtain ⟨-, rfl⟩ := hr
  apply Program.Keeps.andThen (keeper_aside (destroyAll_aside _ id (by decide) _))
  intro _ _ hr
  obtain ⟨-, rfl⟩ := hr
  apply Program.Keeps.andThen (keeper_aside (destroyAll_aside _ some (by decide) _))
  intro _ _ hr
  obtain ⟨-, rfl⟩ := hr
  apply Program.Keeps.andThen (keeper_aside (destroyOn_aside _ sc.pool (by decide)))
  intro _ _ hr
  obtain ⟨-, rfl⟩ := hr
  apply Program.keeps_andThen.mpr ((keeper_aside
    (destroyAll_aside _ (fun t : SwapchainTexture => some t.view) (by decide) _)).mono ?_)
  intro _ _ hr
  obtain ⟨-, rfl⟩ := hr
  apply ask_keeps _ _ (fun _ _ => rfl)
  intro _ _ he
  exact he.elim

/-- What a creation leaves in the ledger: a swapchain in the place of the old one, or nothing, or
the failure to put one there. -/
def Created (old : Option (Handle .swapchain)) (g : Ledger) :
    Except Error Swapchain → Ledger → Prop
  | .ok sc, g' =>
    g' = g.create old (some sc.handle) ∧ sc.held = none ∧ sc.stale = false ∧ sc.textures ≠ []
  | .error _, g' =>
    g' = g ∨ g' = g.create old none ∨ ∃ h, g' = (g.create old (some h)).destroy h

theorem create_keeps (ctx : Context) (surface : Handle .surface) (desc : SwapchainDesc)
    (old : Option (Handle .swapchain))
    (hallow : ∀ device request, request.old = old →
      (keeper calm strict).allows g (.create (.swapchain device request))) :
    (create ctx surface desc old).Keeps (keeper calm strict) (Created old g) g := by
  have hnegotiate : (Terms.negotiate ctx surface desc).Keeps (keeper calm strict)
      (fun _ _ g' => True ∧ g' = g) (fun _ _ g' => True ∧ g' = g) () g :=
    attempt_aside (attempt_within_aside (fun _ hc => hc.aside)
      (Terms.negotiate_keeps ctx surface desc))
  have hbuild : ∀ terms handle, (build ctx terms desc).Keeps (keeper calm strict)
      (fun _ sc g' => Created old g (.ok sc) g') (fun _ sc g' => g' = g.create old (some sc.handle))
      (bare handle terms.extent) (g.create old (some handle)) := by
    intro terms handle
    apply (attempt_aside (attempt_within_aside (fun _ hc => hc.aside)
      (build_keeps ctx terms desc (bare_fresh handle terms.extent)))).mono
    · rintro _ sc _ ⟨⟨⟨rfl, hheld, hstale⟩, htextures⟩, rfl⟩
      exact ⟨rfl, hheld, hstale, htextures⟩
    · rintro _ sc _ ⟨⟨rfl, -, -⟩, rfl⟩
      rfl
  apply (create_phases (P := fun g' => g' = g)
    (Q := fun handle g' => g' = g.create old (some handle))
    (R := fun sc g' => g' = g.create old (some sc.handle))
    (S := fun sc => Created old g (.ok sc))
    (E := fun g' => g' = g ∨ g' = g.create old none ∨ ∃ h, g' = (g.create old (some h)).destroy h)
    ctx surface desc ?_ ?_ ?_ ?_).mono
  · rintro (e | sc) g' h
    · exact h
    · exact h
  · exact hnegotiate.mono (fun _ _ _ hr => hr.2) (fun _ _ _ hr => Or.inl hr.2)
  · rintro terms _ rfl
    apply ask_keeps _ (hallow _ _ rfl)
    rintro (code | handle) -
    · exact Or.inr (Or.inl rfl)
    · rfl
  · rintro terms handle _ rfl
    exact hbuild terms handle
  · rintro sc _ rfl
    apply (release_keeps ctx sc).mono
    rintro _ _ rfl
    exact Or.inr (Or.inr ⟨sc.handle, rfl⟩)

/-- An image was handed out that lies inside. -/
def Took (sc : Swapchain) (g : Ledger) (index : Nat) (sc' : Swapchain) (g' : Ledger) : Prop :=
  sc.stale = false ∧ index < sc.textures.length ∧ sc'.handle = sc.handle ∧
    sc'.textures = sc.textures ∧ sc'.held = some index ∧ g' = g.handOut sc.handle index

/-- No image was handed out, or one that was lost at once. -/
def Missed (sc : Swapchain) (g : Ledger) (_ : Error) (sc' : Swapchain) (g' : Ledger) : Prop :=
  sc'.handle = sc.handle ∧ sc'.textures = sc.textures ∧ sc'.held = sc.held ∧
    (sc'.stale = sc.stale ∧ g' = g ∨
      sc.stale = false ∧ sc'.stale = true ∧ ∃ index, g' = g.handOut sc.handle index)

theorem take_keeps (ctx : Context) (index : Nat) (sc : Swapchain) (hstale : sc.stale = false) :
    (take ctx index).Keeps (keeper calm strict) (sc.Took g) (sc.Missed g) sc
      (g.handOut sc.handle index) := by
  apply Program.keeps_andThen.mpr
    (Program.Keeps.mono (attempt_aside (prepare_keeps ctx index sc)) ?_)
  rintro ⟨e | ⟨⟩, sc'⟩ g' ⟨hs, rfl⟩
  · exact ⟨hs.1, hs.2.1, hs.2.2.1, Or.inr ⟨hstale, rfl, _, rfl⟩⟩
  · exact ⟨hstale, hs.2, hs.1.1, hs.1.2.1, rfl, rfl⟩

theorem acquire_keeps (ctx : Context) (sc : Swapchain)
    (hallow : ∀ fence, (keeper calm strict).allows g (.acquire ctx.device sc.handle fence)) :
    (acquire ctx).Keeps (keeper calm strict) (sc.Took g) (sc.Missed g) sc g := by
  rw [acquire, Attempt.keeps_bind, Attempt.keeps_get]
  split
  · simp only [Attempt.keeps_bind, Attempt.keeps_step, notice, Program.keeps_log,
      Attempt.keeps_fail]
    exact ⟨rfl, rfl, rfl, Or.inl ⟨rfl, rfl⟩⟩
  · rename_i hstale
    rw [Bool.not_eq_true] at hstale
    rw [Attempt.keeps_bind]
    apply attempt_keeps
    apply ask_keeps _ (hallow _)
    intro answer _
    cases answer with
    | error code =>
      intro _ _
      exact ⟨rfl, rfl, rfl, Or.inl ⟨rfl, rfl⟩⟩
    | ok image =>
      have htake : (take ctx image.index).Keeps (keeper calm strict) (sc.Took g) (sc.Missed g) sc
          (g.handOut sc.handle image.index) := take_keeps ctx image.index sc hstale
      dsimp only
      split
      · simp only [Attempt.keeps_bind, Attempt.keeps_step, notice, Program.keeps_log]
        exact htake
      · exact htake

/-- An image was queued for presentation. -/
def Queued (sc : Swapchain) (g : Ledger) (index : Nat) (sc' : Swapchain) (g' : Ledger) : Prop :=
  sc.held = some index ∧ sc'.handle = sc.handle ∧ sc'.textures = sc.textures ∧
    sc'.held = none ∧ g' = g.takeBack sc.handle index

/-- A presentation that failed before the image was queued changes nothing. -/
theorem present_keeps (ctx : Context) (index : Nat) (sc : Swapchain) :
    (present ctx index).Keeps (keeper calm strict)
      (fun _ sc' g' => sc.Queued g index sc' g')
      (fun e sc' g' => sc.Alike sc' ∧ g' = g ∧ (calm → e ≠ .outOfDateSurface) ∨
        sc.Queued g index sc' g' ∧ e = .outOfDateSurface)
      sc g := by
  rw [present, Attempt.keeps_bind, Attempt.keeps_get]
  split
  · rw [Attempt.keeps_bind, Attempt.keeps_step]
    apply refuse_keeps _ _
    exact Or.inl ⟨Alike.refl sc, rfl, by simp⟩
  · rename_i hheld
    rw [not_not] at hheld
    rw [Attempt.keeps_bind, Attempt.keeps_step]
    apply Program.keeps_fetch _ (fun _ => trivial)
    intro semaphore _
    rw [Attempt.keeps_bind, Attempt.keeps_step]
    apply Program.keeps_fetch _ (fun _ => trivial)
    intro buffer _
    have hfence : (onPresentFence index (submit ctx buffer (some semaphore))).Keeps (aside calm)
        (fun _ sc' _ => sc.Alike sc')
        (fun e sc' _ => sc.Alike sc' ∧ (calm → e ≠ .outOfDateSurface)) sc () := by
      apply onPresentFence_keeps trivial
      intro _ _
      apply (submit_keeps ctx buffer (some semaphore)).mono
      · intro _ _ _ _
        exact ⟨rfl, rfl, rfl, rfl⟩
      · intro _ _ _ he
        exact ⟨⟨rfl, rfl, rfl, rfl⟩, he⟩
    rw [Attempt.keeps_bind]
    apply (attempt_aside hfence).mono
    · intro heq sc' g' hr
      cases heq
      obtain ⟨hs, rfl⟩ := hr
      rw [Attempt.keeps_bind, Attempt.keeps_step]
      apply ask_keeps _ (fun _ _ he => he.elim)
      intro result _
      apply (conclude_keeps (P := fun sc' => sc.Queued g' index sc' (g'.takeBack sc.handle index))
        index result fun _ _ => ⟨hheld, hs.1, hs.2.1, rfl, rfl⟩).mono
      · rintro _ _ _ ⟨hq, rfl⟩
        exact hq
      · rintro _ _ _ ⟨hq, rfl, rfl⟩
        exact Or.inr ⟨hq, rfl⟩
    · intro e sc' g' hr
      obtain ⟨⟨hs, he⟩, rfl⟩ := hr
      exact Or.inl ⟨hs, rfl, he⟩

end Swapchain

namespace WindowSurface

def handle? (ws : WindowSurface) : Option (Handle .swapchain) := ws.swapchain.map (·.handle)

theorem handle?_eq {ws : WindowSurface} {sc : Swapchain} (hs : ws.swapchain = some sc) :
    ws.handle? = some sc.handle := by
  simp [handle?, hs]

def Cleared (ws : WindowSurface) (g : Ledger) : Ledger → Prop := fun g' =>
  g' = match ws.handle? with
    | some h => g.destroy h
    | none => g

section

variable {ws : WindowSurface} {g g' : Ledger}

theorem Cleared.mem_destroyed (hg : ws.Cleared g g') (h : Handle .swapchain) :
    h ∈ g'.destroyed ↔ h ∈ g.destroyed ∨ ws.handle? = some h := by
  rw [hg]
  split
  · rename_i old hold
    simp [Ledger.destroy, hold, eq_comm]
  · rename_i hold
    simp [hold]

theorem Cleared.created (hg : ws.Cleared g g') : g'.created = g.created := by
  rw [hg]
  split <;> rfl

theorem Cleared.replaced (hg : ws.Cleared g g') : g'.replaced = g.replaced := by
  rw [hg]
  split <;> rfl

theorem Cleared.owned (hg : ws.Cleared g g') (h : Handle .swapchain) :
    g'.owned h = if ws.handle? = some h then [] else g.owned h := by
  rw [hg]
  split
  · rename_i old hold
    by_cases hne : h = old
    · simp [Ledger.destroy, hold, hne]
    · have hold' : ¬ ws.handle? = some h := by
        rw [hold, Option.some.injEq]
        exact fun heq => hne heq.symm
      simp [Ledger.destroy, hne, hold']
  · rename_i hold
    simp [hold]

theorem releaseSwapchain_keeps (ws : WindowSurface) :
    ws.releaseSwapchain.Keeps (keeper calm strict) (fun _ => ws.Cleared g) g := by
  unfold releaseSwapchain Cleared handle?
  cases hs : ws.swapchain with
  | none => rfl
  | some sc => exact Swapchain.release_keeps ws.context sc

end

/-- A surface on a new window surface, through a list of operations. -/
def life (ctx : Context) (surface : Handle .surface) (device : String) (ops : List Surface.Op) :
    Program (Except Error (List Surface.Reply × Surface) × WindowSurface) :=
  (Surface.life device ops).servedBy serve ⟨ctx, surface, none⟩

end WindowSurface

/-- A driver that refuses to replace a swapchain, and grants everything else. -/
def stubborn : (c : Call) → Unit → c.Answer × Unit
  | .create (.swapchain _ request), u =>
    (if request.old.isSome then .error .outOfHostMemory else .ok ⟨0⟩, u)
  | .create _, u => (.ok ⟨0⟩, u)
  | .destroy .., u => ((), u)
  | .gpus _, u => (.ok [⟨0⟩], u)
  | .gpuProperties _, u => (⟨[], GpuProperties.discrete⟩, u)
  | .queueFamilies _, u => ([⟨1⟩], u)
  | .surfaceSupport .., u => (.ok true, u)
  | .capabilities .., u => (.ok Scene.defaultCapabilities, u)
  | .surfaceFormats .., u => (.ok [⟨.ofFormat .bgra8Srgb, .srgbNonlinear⟩], u)
  | .presentModes .., u => (.ok [], u)
  | .queue _ family, u => (⟨family⟩, u)
  | .waitIdle _, u => (.ok (), u)
  | .swapchainImages .., u => (.ok [⟨0⟩], u)
  | .waitForFence .., u => (.ok (), u)
  | .resetFence .., u => (.ok (), u)
  | .allocate _ _ count, u => (.ok (List.replicate count ⟨0⟩), u)
  | .beginCommands _, u => (.ok (), u)
  | .barrier .., u => ((), u)
  | .endCommands _, u => (.ok (), u)
  | .submit .., u => (.ok (), u)
  | .acquire .., u => (.ok ⟨0, false⟩, u)
  | .present .., u => (.ok false, u)

theorem stubborn_calm (c : Call) (u : Unit) : c.Calm (stubborn c u).1 := by
  cases c with
  | create what => cases what <;> simp [Call.Calm, stubborn]
  | _ => simp [Call.Calm, stubborn]

/-- A driver that grants everything, and never hands out a handle twice. -/
def generous (c : Call) (next : Nat) : c.Answer × Nat :=
  match c with
  | .create _ => (.ok ⟨next⟩, next + 1)
  | c => ((stubborn c ()).1, next)

/-- A context whose one queue family does everything. -/
def Context.plain : Context := ⟨⟨0⟩, ⟨0⟩, ⟨0⟩, 0, ⟨0⟩, 0, ⟨0⟩, none⟩

end Presentation.Vulkan
