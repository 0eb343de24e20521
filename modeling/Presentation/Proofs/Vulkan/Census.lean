import Mathlib.Algebra.Order.Group.Multiset
import Mathlib.Tactic.Abel
import Presentation.Proofs.Vulkan.Aside

/-!
# The census of objects

The creations and destructions of a run tell which objects are live. A call
may use live objects only. When an object is destroyed, whatever was made on it
should be gone: what is still live of the kinds below its own is spared, and
has to belong to somebody else.
-/

set_option autoImplicit false

namespace Presentation.Vulkan

/-- The kinds of objects that have to be gone before an object that they belong to. -/
def Kind.below : Kind → List Kind
  | .inst => [.messenger, .device, .surface, .swapchain, .view, .fence, .semaphore, .pool]
  | .device => [.surface, .swapchain, .view, .fence, .semaphore, .pool]
  | .surface => [.swapchain, .view, .fence, .semaphore, .pool]
  | .swapchain => [.view, .fence, .semaphore, .pool]
  | _ => []

theorem Kind.not_below_self (kind : Kind) : kind ∉ kind.below := by
  cases kind <;> decide

def below (kind : Kind) (objects : Multiset Object) : Multiset Object :=
  objects.filter fun o => o.kind ∈ kind.below

/-- The object of a handle that may be null. -/
def part {kind : Kind} : Option (Handle kind) → Multiset Object
  | some h => {h.object}
  | none => 0

def parts {kind : Kind} (handles : List (Option (Handle kind))) : Multiset Object :=
  (handles.map part).sum

/-- The objects on which something is created. -/
def Creation.uses : Creation → Multiset Object
  | .inst _ => 0
  | .messenger on .. => {on.object}
  | .surface on _ => {on.object}
  | .device on .. => {on.object}
  | .swapchain on request => {on.object} + {request.surface.object} + part request.old
  | .view on .. => {on.object}
  | .fence on _ => {on.object}
  | .semaphore on => {on.object}
  | .pool on _ => {on.object}

/-- The objects that a call passes. -/
def Call.uses : Call → Multiset Object
  | .create what => what.uses
  | .destroy _ on handle => ↑on.toList + part handle
  | .gpus on => {on.object}
  | .gpuProperties _ => 0
  | .queueFamilies _ => 0
  | .surfaceSupport _ _ surface => {surface.object}
  | .capabilities _ surface => {surface.object}
  | .surfaceFormats _ surface => {surface.object}
  | .presentModes _ surface => {surface.object}
  | .queue device _ => {device.object}
  | .waitIdle device => {device.object}
  | .swapchainImages device swapchain => {device.object} + {swapchain.object}
  | .waitForFence device fence => {device.object} + part fence
  | .resetFence device fence => {device.object} + part fence
  | .allocate device pool _ => {device.object} + {pool.object}
  | .beginCommands _ => 0
  | .barrier .. => 0
  | .endCommands _ => 0
  | .submit _ _ signal fence => part signal + {fence.object}
  | .acquire device swapchain fence => {device.object} + {swapchain.object} + part fence
  | .present _ wait swapchain _ => {wait.object} + {swapchain.object}

structure Census where
  live : Multiset Object
  /-- What was live of the kinds below an object when that was destroyed. -/
  spared : Multiset Object

namespace Census

def see (c : Census) : Event interface → Census
  | .asked (.create _) (.ok h) => { c with live := h.object ::ₘ c.live }
  | .asked (.destroy kind _ (some h)) _ =>
    ⟨c.live.erase h.object, c.spared ∪ below kind c.live⟩
  | _ => c

/-- What is live, and a bound for what was spared. -/
def Books (c : Census) (objects spared : Multiset Object) : Prop :=
  c.live = objects ∧ c.spared ≤ spared

end Census

/-- Takes the census. Every object that is passed has to be live. -/
def census : Watch interface Census where
  see := Census.see
  allows c call := ∀ o ∈ call.uses, o ∈ c.live
  trusts _ _ _ := True
  halts := True

instance : census.Deaf := ⟨fun _ _ => rfl⟩

section

variable {kind parent : Kind} {c : Census} {objects frame spared : Multiset Object}

@[simp] theorem part_some (h : Handle kind) : part (some h) = {h.object} := rfl

@[simp] theorem part_none : part (none : Option (Handle kind)) = 0 := rfl

@[simp] theorem parts_nil : parts ([] : List (Option (Handle kind))) = 0 := rfl

@[simp] theorem parts_cons (h : Option (Handle kind)) (hs : List (Option (Handle kind))) :
    parts (h :: hs) = part h + parts hs := by
  simp [parts]

@[simp] theorem parts_append (hs hs' : List (Option (Handle kind))) :
    parts (hs ++ hs') = parts hs + parts hs' := by
  simp [parts]

theorem part_le_parts {hs : List (Option (Handle kind))} {h : Option (Handle kind)}
    (hmem : h ∈ hs) : part h ≤ parts hs := by
  induction hs with
  | nil => cases hmem
  | cons x xs ih =>
    rw [parts_cons]
    rcases List.mem_cons.mp hmem with rfl | hmem
    · exact Multiset.le_add_right _ _
    · exact (ih hmem).trans (Multiset.le_add_left _ _)

theorem parts_set {hs : List (Option (Handle kind))} {i : Nat} {h : Option (Handle kind)}
    (hi : hs[i]? = some h) :
    ∃ rest, parts hs = part h + rest ∧ ∀ h', parts (hs.set i h') = part h' + rest := by
  induction hs generalizing i with
  | nil => simp at hi
  | cons x xs ih =>
    cases i with
    | zero =>
      rw [List.getElem?_cons_zero, Option.some.injEq] at hi
      subst hi
      exact ⟨parts xs, by simp, by simp⟩
    | succ i =>
      rw [List.getElem?_cons_succ] at hi
      obtain ⟨rest, hbefore, hafter⟩ := ih hi
      refine ⟨part x + rest, ?_, ?_⟩
      · rw [parts_cons, hbefore]
        abel
      · intro h'
        rw [List.set_cons_succ, parts_cons, hafter]
        abel

@[simp] theorem below_zero (k : Kind) : below k 0 = 0 := rfl

@[simp] theorem below_add (k : Kind) (m m' : Multiset Object) :
    below k (m + m') = below k m + below k m' := Multiset.filter_add _ _ _

theorem below_le (k : Kind) (m : Multiset Object) : below k m ≤ m := Multiset.filter_le _ _

theorem below_part {k : Kind} (hk : kind ∉ k.below) (h : Option (Handle kind)) :
    below k (part h) = 0 := by
  cases h with
  | none => rfl
  | some x =>
    rw [below, part_some, Multiset.filter_singleton]
    exact if_neg hk

/-- Calls that make nothing and end nothing. -/
def Call.Quiet : Call → Prop
  | .create _ => False
  | .destroy .. => False
  | _ => True

theorem see_quiet {call : Call} {a : call.Answer} (hq : call.Quiet) :
    c.see (.asked call a) = c := by
  unfold Census.see
  split
  · rename_i heq
    cases heq
    exact hq.elim
  · rename_i heq
    cases heq
    exact hq.elim
  · rfl

theorem ask_books (call : Call) (hq : call.Quiet) (h : c.Books objects spared)
    (huses : ∀ o ∈ call.uses, o ∈ objects) :
    (ask call).Keeps census (fun _ c' => c'.Books objects spared) c := by
  apply ask_keeps
  · intro o ho
    rw [h.1]
    exact huses o ho
  · intro a _
    have hsee : census.see c (.asked call a) = c := see_quiet hq
    rw [hsee]
    exact h

/-- A creation adds what it makes to what is live. -/
def Made (objects spared : Multiset Object) : Except Code (Handle kind) → Census → Prop
  | .ok made, c => c.Books (part (some made) + objects) spared
  | .error _, c => c.Books objects spared

theorem create_books (what : Creation) (h : c.Books objects spared)
    (huses : ∀ o ∈ what.uses, o ∈ objects) :
    (ask (.create what)).Keeps census (Made objects spared) c := by
  apply ask_keeps
  · intro o ho
    rw [h.1]
    exact huses o ho
  · intro answer _
    cases answer with
    | error code =>
      exact h
    | ok made =>
      refine ⟨?_, h.2⟩
      show made.object ::ₘ c.live = part (some made) + objects
      rw [h.1, part_some, Multiset.singleton_add]

/-- What goes is no longer live, and what is below it and still live is spared. -/
theorem destroy_books (on : Option Object) (handle : Option (Handle kind))
    (h : c.Books (part handle + frame) spared)
    (hon : ∀ o, on = some o → o ∈ part handle + frame) :
    (ask (.destroy kind on handle)).Keeps census
      (fun _ c' => c'.Books frame (spared ∪ below kind frame)) c := by
  have huses : ∀ o ∈ (Call.destroy kind on handle).uses, o ∈ c.live := by
    intro o ho
    rw [h.1]
    rw [Call.uses, Multiset.mem_add] at ho
    rcases ho with ho | ho
    · rw [Multiset.mem_coe, Option.mem_toList] at ho
      exact hon o ho
    · exact Multiset.mem_add.mpr (Or.inl ho)
  apply ask_keeps _ huses
  intro _ _
  cases handle with
  | none =>
    refine ⟨?_, h.2.trans Multiset.le_union_left⟩
    rw [part_none, zero_add] at h
    exact h.1
  | some x =>
    have hspared : below kind c.live = below kind frame := by
      rw [h.1, below_add, below_part kind.not_below_self, zero_add]
    constructor
    · show c.live.erase x.object = frame
      rw [h.1, part_some, Multiset.singleton_add, Multiset.erase_cons_head]
    · show c.spared ∪ below kind c.live ≤ spared ∪ below kind frame
      rw [hspared]
      exact Multiset.union_le_union_right h.2 _

/-- Nothing is spared by the end of an object on which nothing is made. -/
theorem destroyOn_books (on : Handle parent) (handle : Option (Handle kind))
    (hleaf : kind.below = []) (h : c.Books (part handle + frame) spared)
    (hon : on.object ∈ frame) :
    (destroyOn on handle).Keeps census (fun _ c' => c'.Books frame spared) c := by
  have hnone : below kind frame = 0 := by simp [below, hleaf]
  have hon' : ∀ o, some on.object = some o → o ∈ part handle + frame := by
    intro o ho
    rw [← Option.some.inj ho]
    exact Multiset.mem_add.mpr (Or.inr hon)
  apply Program.Keeps.mono (destroy_books _ handle h hon')
  intro _ c' h'
  rw [hnone, Multiset.union_zero] at h'
  exact h'

theorem destroyAll_books {α : Type} (on : Handle parent) (handle : α → Option (Handle kind))
    (hleaf : kind.below = []) (xs : List α) (h : c.Books (parts (xs.map handle) + frame) spared)
    (hon : on.object ∈ frame) :
    (xs.forM fun x => destroyOn on (handle x)).Keeps census
      (fun _ c' => c'.Books frame spared) c := by
  induction xs generalizing c with
  | nil =>
    rw [List.map_nil, parts_nil, zero_add] at h
    exact h
  | cons x xs ih =>
    rw [List.map_cons, parts_cons, add_assoc] at h
    have hon' : on.object ∈ parts (xs.map handle) + frame :=
      Multiset.mem_add.mpr (Or.inr hon)
    apply Program.Keeps.andThen (destroyOn_books on (handle x) hleaf h hon')
    intro _ c' h'
    exact ih h'

end

def Context.objects (ctx : Context) : Multiset Object :=
  {ctx.inst.object} + {ctx.device.object} + part ctx.messenger

/-- What a swapchain has: its handle, a view for each image, and what synchronises them. -/
def Swapchain.objects (sc : Swapchain) : Multiset Object :=
  {sc.handle.object} + parts (sc.textures.map fun t => some t.view) + part sc.acquireFence +
    parts sc.generalFences + parts sc.presentFences +
    parts (sc.presentSemaphores.map some) + part sc.pool

def WindowSurface.objects (ws : WindowSurface) : Multiset Object :=
  {ws.surface.object} + match ws.swapchain with
    | some sc => sc.objects
    | none => 0

end Presentation.Vulkan
