import Presentation.Proofs.Native.Stage
import Presentation.Proofs.Surface.Protocol
import Presentation.Proofs.Vulkan.Ledger
import Presentation.Proofs.Vulkan.Offer
import Presentation.Proofs.Vulkan.Service

/-!
# Inside the bounds

No list is read behind its end, no number is clamped to an empty range, and none is
divided by zero. On a simulated window this holds in every state, whatever faults
are set. On a Vulkan surface it holds of every life with a driver that allocates as
many command buffers as it is asked for, since its swapchains stay complete.
-/

set_option autoImplicit false

namespace Presentation

/-- Why a computation with numbers cannot go on. -/
inductive Panic where
  | emptyRange
  | zeroDivisor
  deriving DecidableEq

/-- The point of a range that is closest to a number. There has to be one. -/
def clampChecked {α : Type} [LE α] [DecidableLE α] [Max α] [Min α] (low high n : α) :
    Except Panic α :=
  if low ≤ high then .ok (max low (min n high)) else .error .emptyRange

def modChecked (n d : Nat) : Except Panic Nat :=
  if d = 0 then .error .zeroDivisor else .ok (n % d)

theorem clampChecked_eq {α : Type} [LE α] [DecidableLE α] [Max α] [Min α] {low high : α}
    (h : low ≤ high) (n : α) : clampChecked low high n = .ok (max low (min n high)) := if_pos h

theorem modChecked_eq {d : Nat} (h : d ≠ 0) (n : Nat) : modChecked n d = .ok (n % d) := if_neg h

namespace Native.Simulated

def configureChecked (n : Simulated) (desc : SwapchainDesc) :
    Except Panic (Except Error Unit × Simulated) :=
  let n := { n with configures := n.configures + 1 }
  if n.faults.nextConfigure then
    .ok (.error (.backendError "mock configure failure"),
      { n with faults := { n.faults with nextConfigure := false } })
  else if n.faults.emptySwapchain then
    .ok (.error (.backendError "mock swapchain has no images"), n)
  else do
    let count ← clampChecked minImages maxImages desc.imageCount.toNat
    let images := (List.range count).map fun image =>
      ⟨image, ⟨desc.width, desc.height, desc.format, desc.usage, 1⟩⟩
    return (.ok (), { n with images, next := 0, outstanding := none, desc := some desc })

def acquireChecked (n : Simulated) : Except Panic (Except Error Nat × Simulated) :=
  if n.images.isEmpty then .ok (.error (.backendError "mock acquire without swapchain"), n)
  else if n.outstanding.isSome then
    .ok (.error (.backendError "mock image already outstanding"), n)
  else if n.faults.outOfDateOnAcquire then .ok (.error .outOfDateSurface, n)
  else
    match n.faults.acquire, n.faults.strayIndex with
    | some e, _ => .ok (.error e, { n with faults := { n.faults with acquire := none } })
    | none, some index =>
      .ok (.ok index, { n with faults := { n.faults with strayIndex := none } }.handOut index)
    | none, none => do
      let next ← modChecked (n.next + 1) n.images.length
      return (.ok n.next, { n with next }.handOut n.next)

/-- The answers of a simulated surface, with every number checked. -/
def answerChecked : (c : Call) → Simulated → Except Panic (c.Answer × Simulated)
  | .configure desc, n => n.configureChecked desc
  | .acquire, n => n.acquireChecked
  | c, n => .ok (answer c n)

theorem configureChecked_eq (n : Simulated) (desc : SwapchainDesc) :
    n.configureChecked desc = .ok (n.configure desc) := by
  have hcount := clampChecked_eq (show minImages ≤ maxImages by decide) desc.imageCount.toNat
  simp only [configureChecked, configure, hcount]
  split
  · rfl
  · split
    · rfl
    · rfl

theorem acquireChecked_eq (n : Simulated) : n.acquireChecked = .ok n.acquire := by
  simp only [acquireChecked, acquire]
  split
  · rfl
  · rename_i hne
    have hlength : n.images.length ≠ 0 := by
      rwa [List.isEmpty_iff, ← List.length_eq_zero_iff] at hne
    simp only [modChecked_eq hlength]
    split
    · rfl
    · split
      · rfl
      · cases n.faults.acquire with
        | some e => rfl
        | none =>
          cases n.faults.strayIndex with
          | some index => rfl
          | none => rfl

/-- In no state a simulated surface panics. -/
theorem answerChecked_eq (c : Call) (n : Simulated) : answerChecked c n = .ok (answer c n) := by
  cases c with
  | configure desc => exact configureChecked_eq n desc
  | acquire => exact acquireChecked_eq n
  | _ => rfl

end Native.Simulated

namespace Vulkan

/-- The size of a swapchain, with every number checked. -/
def chooseExtentChecked (caps : Capabilities) (width height : UInt32) : Except Panic Extent := do
  let width ← clampChecked caps.minExtent.width (max caps.maxExtent.width caps.minExtent.width)
    width
  let height ← clampChecked caps.minExtent.height
    (max caps.maxExtent.height caps.minExtent.height) height
  return ⟨width, height⟩

theorem le_lifted (low high : UInt32) : low ≤ max high low := by
  rw [UInt32.le_iff_toNat_le, toNat_max]
  exact Nat.le_max_right _ _

theorem chooseExtentChecked_eq (caps : Capabilities) (width height : UInt32) :
    chooseExtentChecked caps width height = .ok (chooseExtent caps width height) := by
  simp only [chooseExtentChecked, clampChecked_eq (le_lifted _ _)]
  rfl

variable {σ α : Type}

/-- Whenever command buffers are allocated in a run, they are as many as were asked for. -/
def Sufficient (run : Run interface σ α) : Prop := ∀ c a, .asked c a ∈ run.events → c.Full a

theorem Sufficient.ends {post : α → List (Event interface) → Prop} {p : Program α}
    {answer : (c : Call) → σ → c.Answer × σ} {driver : σ}
    (hrun : Sufficient (p.run answer driver)) (h : p.Keeps (supply True) post []) :
    ∃ a es, (p.run answer driver).outcome = .ok a ∧ post a es := by
  obtain ⟨-, hend, hhalt⟩ := h.run answer driver
    (fun _ c a hn _ => hrun c a (List.mem_of_getElem? hn))
  cases houtcome : (p.run answer driver).outcome with
  | error reason => exact absurd trivial (hhalt reason houtcome)
  | ok a => exact ⟨a, _, rfl, hend a houtcome⟩

theorem Swapchain.create_complete (ctx : Context) (surface : Handle .surface)
    (desc : SwapchainDesc) (old : Option (Handle .swapchain)) :
    (create ctx surface desc old).Keeps (supply True)
      (fun made _ => ∀ sc, made = .ok sc → sc.Complete) [] := by
  apply (create_takes ctx surface desc old).mono
  rintro (e | sc) es hmade
  · rintro _ ⟨⟩
  · rintro _ ⟨⟩
    exact hmade.2.complete trivial

/-- Whatever is asked of a window surface is served without a halt, and leaves its swapchain
complete. -/
theorem WindowSurface.served_whole {p : Native.Program α} {post : α → Native.Standing → Prop}
    (h : p.Keeps Native.protocol post .initial) (ctx : Context) (surface : Handle .surface) :
    (p.servedBy serve ⟨ctx, surface, none⟩).Keeps (supply True) (fun r _ => r.2.Whole True)
      [] := by
  have hnone : Whole True ⟨ctx, surface, none⟩ := by
    rintro sc ⟨⟩
  have hserve : ∀ c (ws : WindowSurface) es st, ws.Whole True → Native.protocol.allows st c →
      (serve c ws).Keeps (supply True)
        (fun r _ => Native.protocol.trusts st c r.1 ∧ r.2.Whole True) es := by
    intro c ws es st hwhole _
    apply (serve_takes hwhole c).mono
    intro r es' hr
    exact ⟨trivial, hr.1⟩
  apply (h.servedBy (R := fun ws _ _ => ws.Whole True) False.elim hserve hnone).mono
  rintro r es ⟨st, hwhole, -⟩
  exact hwhole

/-- A life, whole or not, comes to its end, and its swapchain is complete. -/
theorem WindowSurface.life_complete (answer : (c : Call) → σ → c.Answer × σ) (driver : σ)
    (ctx : Context) (surface : Handle .surface) (device : String) (ops : List Surface.Op)
    (h : Sufficient ((life ctx surface device ops).run answer driver)) :
    ∃ result ws, ((life ctx surface device ops).run answer driver).outcome = .ok (result, ws) ∧
      ∀ sc, ws.swapchain = some sc → sc.Complete := by
  obtain ⟨⟨result, ws⟩, es, houtcome, hwhole⟩ :=
    h.ends (served_whole (Surface.life_keeps device ops) ctx surface)
  exact ⟨result, ws, houtcome, fun sc hsc => hwhole sc hsc trivial⟩

end Vulkan

open Native (Simulated)
open Vulkan

/-- No list is read behind its end, no range that a number is clamped to is empty, and no divisor
is zero: on a simulated window in any state, and on a Vulkan surface with any driver that allocates
as many command buffers as it is asked for. Its swapchains are complete. -/
theorem nothing_out_of_bounds :
    (∀ c n, Simulated.answerChecked c n = .ok (Simulated.answer c n)) ∧
    (∀ (st : Simulated.Stage) moves,
      (st.play moves).1.map (·.op) = moves.filterMap Simulated.Move.op?) ∧
    (∀ device ops n, ∃ replies,
      ((Surface.wholeLife device ops).run Simulated.answer n).outcome = .ok replies) ∧
    (∀ caps width height,
      chooseExtentChecked caps width height = .ok (chooseExtent caps width height)) ∧
    ∀ (σ : Type) (answer : (c : Call) → σ → c.Answer × σ) (driver : σ) ctx surface,
      (∀ desc old, Sufficient ((Swapchain.create ctx surface desc old).run answer driver) →
        ∃ made, ((Swapchain.create ctx surface desc old).run answer driver).outcome = .ok made ∧
          ∀ sc, made = .ok sc → sc.Complete) ∧
      (∀ device ops, Sufficient ((WindowSurface.life ctx surface device ops).run answer driver) →
        ∃ result ws,
          ((WindowSurface.life ctx surface device ops).run answer driver).outcome =
            .ok (result, ws) ∧
          ∀ sc, ws.swapchain = some sc → sc.Complete) ∧
      ∀ device ops,
        Sufficient (((Surface.wholeLife device ops).servedBy WindowSurface.serve
          ⟨ctx, surface, none⟩).run answer driver) →
        ∃ result, (((Surface.wholeLife device ops).servedBy WindowSurface.serve
          ⟨ctx, surface, none⟩).run answer driver).outcome = .ok result := by
  refine ⟨Simulated.answerChecked_eq, Simulated.Stage.play_ops, ?_, chooseExtentChecked_eq, ?_⟩
  · intro device ops n
    obtain ⟨-, -, hhalt⟩ := (Surface.wholeLife_keeps device ops).run Simulated.answer n
      (fun _ _ _ _ => trivial)
    cases houtcome : ((Surface.wholeLife device ops).run Simulated.answer n).outcome with
    | error reason => exact (hhalt reason houtcome).elim
    | ok replies => exact ⟨replies, rfl⟩
  · intro σ answer driver ctx surface
    refine ⟨?_, ?_, ?_⟩
    · intro desc old hrun
      obtain ⟨made, -, hmade⟩ := hrun.ends (Swapchain.create_complete ctx surface desc old)
      exact ⟨made, hmade⟩
    · exact WindowSurface.life_complete answer driver ctx surface
    · intro device ops hrun
      obtain ⟨result, -, houtcome, -⟩ :=
        hrun.ends (WindowSurface.served_whole (Surface.wholeLife_keeps device ops) ctx surface)
      exact ⟨result, houtcome⟩

/-- A frame is begun, and the image that is held is one of those that there are. -/
theorem nothing_out_of_bounds_acquired : ∃ result ws sc,
    ((WindowSurface.life .plain ⟨0⟩ "gpu" [.configure (.ofSize 4 4), .acquire]).run stubborn
      ()).outcome = .ok (result, ws) ∧
    ws.swapchain = some sc ∧ sc.held = some 0 ∧ sc.Complete := by
  have hfull : Sufficient
      ((WindowSurface.life .plain ⟨0⟩ "gpu" [.configure (.ofSize 4 4), .acquire]).run stubborn
        ()) := by
    intro c a hmem
    obtain ⟨u, rfl⟩ := Program.answer_of_mem hmem
    cases c with
    | allocate device pool count => exact List.length_replicate
    | _ => trivial
  obtain ⟨result, ws, houtcome, hcomplete⟩ :=
    (nothing_out_of_bounds.2.2.2.2 Unit stubborn () .plain ⟨0⟩).2.1 "gpu"
      [.configure (.ofSize 4 4), .acquire] hfull
  cases houtcome
  exact ⟨_, _, _, rfl, rfl, rfl, hcomplete _ rfl⟩

end Presentation
