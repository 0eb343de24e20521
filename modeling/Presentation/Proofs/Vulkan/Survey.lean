import Presentation.Proofs.Vulkan.Aside
import Presentation.Vulkan.Selection

/-!
# Surveying the hardware

To choose a physical device only questions are asked: which devices there are,
what they are, what queue families they have, and which of these can present to
the surface at hand. If the answers are those of some hardware, what is found is
a function of it.
-/

set_option autoImplicit false

namespace Presentation.Vulkan

/-- The questions that a choice of physical device for a surface asks. -/
def Call.Surveys (inst : Handle .inst) (surface : Handle .surface) : Call → Prop
  | .gpus i => i = inst
  | .gpuProperties _ => True
  | .queueFamilies _ => True
  | .surfaceSupport _ _ s => s = surface
  | _ => False

/-- What a driver has to tell of physical devices: which there are, or why they cannot be listed,
and of each its properties, its queue families, and whether these can present to a surface. -/
structure Hardware where
  gpus : Except Code (List Gpu)
  properties : Gpu → GpuProperties
  families : Gpu → List QueueFlags
  support : Gpu → Nat → Except Code Bool

/-- The driver tells of some hardware. -/
def Call.Tells (hw : Hardware) : (c : Call) → c.Answer → Prop
  | .gpus _, answer => answer = hw.gpus
  | .gpuProperties gpu, answer => answer = hw.properties gpu
  | .queueFamilies gpu, answer => answer = hw.families gpu
  | .surfaceSupport gpu family _, answer => answer = hw.support gpu family
  | _, _ => True

namespace Hardware

variable (hw : Hardware)

/-- A family whose query fails counts as one that cannot present. -/
def presents (gpu : Gpu) (family : Nat) : Bool := (hw.support gpu family).toOption.getD false

/-- The presenting family that goes with a graphics family, if there is one. -/
def partner (gpu : Gpu) (graphics : Nat) : Option Nat :=
  if hw.presents gpu graphics then some graphics
  else (List.range (hw.families gpu).length).find? (hw.presents gpu)

/-- What a physical device would be used as, if it can be used. -/
def candidate (gpu : Gpu) : Option Candidate :=
  ((hw.families gpu).findIdx? (·.hasGraphics)).bind fun graphics =>
    (hw.partner gpu graphics).map fun present =>
      ⟨⟨gpu, graphics, present, (hw.properties gpu).nameText⟩,
        (hw.properties gpu).type = GpuProperties.discrete⟩

/-- Which of some physical devices is chosen. -/
def best (gpus : List Gpu) : Option Candidate := preferred (gpus.filterMap hw.candidate)

/-- What a choice comes to: the selection, or the reason why there is none. -/
def choice : Except Notice Selection :=
  match hw.gpus with
  | .error code => .error (.gpusFailed code)
  | .ok gpus =>
    match hw.best gpus with
    | none => .error .noGpu
    | some best => .ok best.selection

end Hardware

/-- Questions about the hardware only. If it is known, the driver is trusted to tell of it. -/
def surveying (inst : Handle .inst) (surface : Handle .surface) (known : Option Hardware) :
    Watch interface Unit where
  see _ _ := ()
  allows _ c := c.Surveys inst surface
  trusts _ c a := ∀ hw ∈ known, c.Tells hw a
  halts := False

variable {inst : Handle .inst} {surface : Handle .surface} {known : Option Hardware}

instance : (surveying inst surface known).Deaf := ⟨fun _ _ => rfl⟩

theorem canPresent_surveys (gpu : Gpu) (family : Nat) :
    (canPresent gpu surface family).Keeps (surveying inst surface known)
      (fun able _ => ∀ hw ∈ known, able = hw.presents gpu family) () := by
  apply Program.keeps_andThen.mpr
  apply ask_keeps (.surfaceSupport gpu family surface) rfl
  intro answer htold hw hknown
  rw [htold hw hknown]
  rfl

theorem findPresentFamily_surveys (gpu : Gpu) (families : List Nat) :
    (findPresentFamily gpu surface families).Keeps (surveying inst surface known)
      (fun found _ => ∀ hw ∈ known, found = families.find? (hw.presents gpu)) () := by
  induction families with
  | nil => exact fun _ _ => rfl
  | cons family rest ih =>
    apply Program.Keeps.andThen (canPresent_surveys gpu family)
    intro able _ hable
    split
    · rename_i hyes
      intro hw hknown
      rw [List.find?_cons_of_pos ((hable hw hknown).symm.trans hyes)]
    · rename_i hno
      apply ih.mono
      intro found _ hfound hw hknown
      rw [hable hw hknown] at hno
      rw [hfound hw hknown, List.find?_cons_of_neg hno]

theorem choosePresentFamily_surveys (gpu : Gpu) (graphics : Nat) {families : Nat}
    (hfamilies : ∀ hw ∈ known, families = (hw.families gpu).length) :
    (choosePresentFamily gpu surface graphics families).Keeps (surveying inst surface known)
      (fun found _ => ∀ hw ∈ known, found = hw.partner gpu graphics) () := by
  apply Program.Keeps.andThen (canPresent_surveys gpu graphics)
  intro able _ hable
  split
  · rename_i hyes
    intro hw hknown
    rw [Hardware.partner, if_pos ((hable hw hknown).symm.trans hyes)]
  · rename_i hno
    apply (findPresentFamily_surveys gpu _).mono
    intro found _ hfound hw hknown
    rw [hable hw hknown] at hno
    rw [hfound hw hknown, hfamilies hw hknown, Hardware.partner, if_neg hno]

theorem candidate_surveys (gpu : Gpu) :
    (candidate surface gpu).Keeps (surveying inst surface known)
      (fun found _ => ∀ hw ∈ known, found = hw.candidate gpu) () := by
  apply Program.keeps_andThen.mpr
  apply ask_keeps (.gpuProperties gpu) trivial
  intro properties hproperties
  apply Program.keeps_andThen.mpr
  apply ask_keeps (.queueFamilies gpu) trivial
  intro families hfamilies
  split
  · rename_i hnone
    intro hw hknown
    rw [hfamilies hw hknown] at hnone
    rw [Hardware.candidate, hnone]
    rfl
  · rename_i graphics hgraphics
    apply Program.Keeps.andThen
      (choosePresentFamily_surveys gpu graphics fun hw hknown => congrArg _ (hfamilies hw hknown))
    intro present _ hpresent
    have hcandidate : ∀ hw ∈ known, hw.candidate gpu = present.map fun present =>
        ⟨⟨gpu, graphics, present, properties.nameText⟩,
          properties.type = GpuProperties.discrete⟩ := by
      intro hw hknown
      rw [hfamilies hw hknown] at hgraphics
      rw [Hardware.candidate, hgraphics, hpresent hw hknown, hproperties hw hknown]
      rfl
    cases present with
    | none => exact fun hw hknown => (hcandidate hw hknown).symm
    | some present => exact fun hw hknown => (hcandidate hw hknown).symm

theorem candidates_surveys (gpus : List Gpu) :
    (candidates surface gpus).Keeps (surveying inst surface known)
      (fun found _ => ∀ hw ∈ known, found = gpus.filterMap hw.candidate) () := by
  induction gpus with
  | nil => exact fun _ _ => rfl
  | cons gpu rest ih =>
    apply Program.Keeps.andThen (candidate_surveys gpu)
    intro first _ hfirst
    apply Program.Keeps.andThen ih
    intro others _ hothers hw hknown
    rw [hfirst hw hknown, hothers hw hknown, List.filterMap_cons]
    cases hw.candidate gpu with
    | none => rfl
    | some c => rfl

/-- A choice asks questions only, and comes to an end. It is a function of the hardware that is
told of. -/
theorem selectFor_surveys :
    (selectFor inst surface).Keeps (surveying inst surface known)
      (fun result _ => (∀ e, result = .error e → ∃ reason, e = .construction reason) ∧
        (∀ hw ∈ known, result = hw.choice.mapError fun n => .construction n.text)) () := by
  apply Program.keeps_andThen.mpr
  apply ask_keeps (.gpus inst) rfl
  rintro (code | gpus) hgpus
  · apply Program.keeps_andThen.mpr
    apply refuse_keeps
    constructor
    · rintro _ ⟨⟩
      exact ⟨_, rfl⟩
    · intro hw hknown
      rw [Hardware.choice, ← hgpus hw hknown]
      rfl
  · apply Program.Keeps.andThen (candidates_surveys gpus)
    intro all _ hall
    have hchoice : ∀ hw ∈ known, hw.choice = match preferred all with
        | none => .error .noGpu
        | some best => .ok best.selection := by
      intro hw hknown
      rw [Hardware.choice, ← hgpus hw hknown]
      dsimp only
      rw [Hardware.best, hall hw hknown]
    split
    · rename_i hnone
      apply Program.keeps_andThen.mpr
      apply refuse_keeps
      constructor
      · rintro _ ⟨⟩
        exact ⟨_, rfl⟩
      · intro hw hknown
        rw [hchoice hw hknown, hnone]
        rfl
    · rename_i best hbest
      constructor
      · rintro _ ⟨⟩
      · intro hw hknown
        rw [hchoice hw hknown, hbest]
        rfl

/-- Whatever the driver tells, a survey asks questions only. -/
theorem surveying_strictly {α : Type} {post : α → Unit → Prop} {p : Program α}
    (h : p.Keeps (surveying inst surface none) post ()) :
    p.Keeps (strictly (Call.Surveys inst surface)) post () := by
  have hstrictly := h.aside (w := strictly (Call.Surveys inst surface)) (g := ()) id
    (fun _ hc => hc) (fun _ _ _ _ => nofun) (fun _ _ _ => rfl)
  exact hstrictly.mono fun _ _ hpost => hpost.1

theorem selectFor_strictly (inst : Handle .inst) (surface : Handle .surface) :
    (selectFor inst surface).Keeps (strictly (Call.Surveys inst surface))
      (fun result _ => ∀ e, result = .error e → ∃ reason, e = .construction reason) () :=
  (surveying_strictly selectFor_surveys).mono fun _ _ hresult => hresult.1

end Presentation.Vulkan
