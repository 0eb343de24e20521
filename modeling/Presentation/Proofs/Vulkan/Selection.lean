import Mathlib.Order.Bounds.Basic
import Presentation.Proofs.Vulkan.Ledger
import Presentation.Proofs.Vulkan.Offer
import Presentation.Proofs.Vulkan.Survey

/-!
# Which physical device is chosen

A physical device qualifies if it has a family for graphics and one that can
present. The first discrete one that qualifies is chosen, or else the first that
qualifies; its families are the first there are, and the same one for both if
that can be. The surface that was made to find out is gone afterwards.
-/

set_option autoImplicit false

namespace Presentation.Vulkan

namespace Hardware

variable (hw : Hardware)

/-- The families of a physical device that do graphics. -/
def graphicsFamilies (gpu : Gpu) : Set Nat :=
  {i | ∃ flags, (hw.families gpu)[i]? = some flags ∧ flags.hasGraphics = true}

/-- The families of a physical device that can present to the surface. -/
def presentFamilies (gpu : Gpu) : Set Nat :=
  {i | i < (hw.families gpu).length ∧ hw.support gpu i = .ok true}

def Qualifies (gpu : Gpu) : Prop :=
  (hw.graphicsFamilies gpu).Nonempty ∧ (hw.presentFamilies gpu).Nonempty

def Discrete (gpu : Gpu) : Prop := (hw.properties gpu).type = GpuProperties.discrete

/-- A physical device is used with the right families. -/
structure Fits (s : Selection) : Prop where
  graphics : IsLeast (hw.graphicsFamilies s.gpu) s.graphicsFamily
  shared : s.graphicsFamily ∈ hw.presentFamilies s.gpu → s.presentFamily = s.graphicsFamily
  apart : s.graphicsFamily ∉ hw.presentFamilies s.gpu →
    IsLeast (hw.presentFamilies s.gpu) s.presentFamily
  name : s.name = (hw.properties s.gpu).nameText

/-- The choice among some physical devices. -/
structure Chooses (gpus : List Gpu) (best : Selection) : Prop where
  fits : hw.Fits best
  gpu : First (fun gpu => hw.Qualifies gpu ∧ hw.Discrete gpu) gpus best.gpu ∨
    (∀ gpu ∈ gpus, ¬ (hw.Qualifies gpu ∧ hw.Discrete gpu)) ∧ First hw.Qualifies gpus best.gpu

/-- What a choice comes to. -/
structure Settles (result : Except Error Selection) : Prop where
  fails : (∃ e, result = .error e) ↔ (∃ code, hw.gpus = .error code) ∨
    ∃ gpus, hw.gpus = .ok gpus ∧ ∀ gpu ∈ gpus, ¬ hw.Qualifies gpu
  construction : ∀ e, result = .error e → ∃ reason, e = .construction reason
  chooses : ∀ best, result = .ok best → ∃ gpus, hw.gpus = .ok gpus ∧ hw.Chooses gpus best

variable {hw} {gpu : Gpu} {gpus : List Gpu} {graphics present family : Nat} {c : Candidate}

theorem presents_iff : hw.presents gpu family = true ↔ hw.support gpu family = .ok true := by
  unfold presents
  cases hw.support gpu family with
  | error code => exact iff_of_false nofun nofun
  | ok able =>
    constructor
    · rintro (rfl : able = true)
      rfl
    · intro h
      exact Except.ok.inj h

theorem isLeast_graphics (h : (hw.families gpu).findIdx? (·.hasGraphics) = some graphics) :
    IsLeast (hw.graphicsFamilies gpu) graphics := by
  obtain ⟨hlt, hflags, hfirst⟩ := List.findIdx?_eq_some_iff_getElem.mp h
  refine ⟨⟨_, List.getElem?_eq_getElem hlt, hflags⟩, ?_⟩
  rintro i ⟨flags, hi, hgraphics⟩
  obtain ⟨hlt', rfl⟩ := List.getElem?_eq_some_iff.mp hi
  by_contra hbefore
  exact hfirst i (Nat.lt_of_not_le hbefore) hgraphics

theorem graphicsFamilies_nonempty_iff :
    (hw.graphicsFamilies gpu).Nonempty ↔
      ∃ graphics, (hw.families gpu).findIdx? (·.hasGraphics) = some graphics := by
  constructor
  · rintro ⟨i, flags, hi, hgraphics⟩
    cases hfound : (hw.families gpu).findIdx? (·.hasGraphics) with
    | none =>
      have hnone := List.findIdx?_eq_none_iff.mp hfound flags (List.mem_of_getElem? hi)
      cases hgraphics.symm.trans hnone
    | some graphics => exact ⟨graphics, rfl⟩
  · rintro ⟨graphics, h⟩
    exact ⟨graphics, (isLeast_graphics h).1⟩

theorem partner_shared (h : graphics ∈ hw.presentFamilies gpu) :
    hw.partner gpu graphics = some graphics := if_pos (presents_iff.mpr h.2)

theorem partner_apart (hfamily : graphics < (hw.families gpu).length)
    (h : graphics ∉ hw.presentFamilies gpu) : hw.partner gpu graphics =
      (List.range (hw.families gpu).length).find? (hw.presents gpu) :=
  if_neg fun hpresents => h ⟨hfamily, presents_iff.mp hpresents⟩

theorem isLeast_present
    (h : (List.range (hw.families gpu).length).find? (hw.presents gpu) = some present) :
    IsLeast (hw.presentFamilies gpu) present := by
  obtain ⟨hpresents, hmem, hfirst⟩ := List.find?_range_eq_some.mp h
  refine ⟨⟨List.mem_range.mp hmem, presents_iff.mp hpresents⟩, ?_⟩
  rintro i ⟨-, hi⟩
  by_contra hbefore
  have hnot := hfirst i (Nat.lt_of_not_le hbefore)
  rw [presents_iff.mpr hi] at hnot
  cases hnot

theorem partner_isSome_iff (hfamily : graphics < (hw.families gpu).length) :
    (∃ present, hw.partner gpu graphics = some present) ↔ (hw.presentFamilies gpu).Nonempty := by
  by_cases hshared : graphics ∈ hw.presentFamilies gpu
  · exact iff_of_true ⟨graphics, partner_shared hshared⟩ ⟨graphics, hshared⟩
  · rw [partner_apart hfamily hshared]
    constructor
    · rintro ⟨present, h⟩
      exact ⟨present, (isLeast_present h).1⟩
    · rintro ⟨i, hlt, hi⟩
      rw [← Option.isSome_iff_exists, List.find?_isSome]
      exact ⟨i, List.mem_range.mpr hlt, presents_iff.mpr hi⟩

theorem lt_of_graphics (h : graphics ∈ hw.graphicsFamilies gpu) :
    graphics < (hw.families gpu).length := by
  obtain ⟨flags, hflags, -⟩ := h
  exact (List.getElem?_eq_some_iff.mp hflags).1

theorem candidate_fits (h : hw.candidate gpu = some c) :
    c.selection.gpu = gpu ∧ hw.Fits c.selection ∧ (c.discrete = true ↔ hw.Discrete gpu) := by
  obtain ⟨graphics, hgraphics, h⟩ := Option.bind_eq_some_iff.mp h
  obtain ⟨present, hpresent, rfl⟩ := Option.map_eq_some_iff.mp h
  have hleast := isLeast_graphics hgraphics
  refine ⟨rfl, ⟨hleast, ?_, ?_, rfl⟩, decide_eq_true_iff⟩
  · intro hshared
    rw [partner_shared hshared] at hpresent
    exact (Option.some.inj hpresent).symm
  · intro hapart
    rw [partner_apart (lt_of_graphics hleast.1) hapart] at hpresent
    exact isLeast_present hpresent

theorem qualifies_iff : hw.Qualifies gpu ↔ ∃ c, hw.candidate gpu = some c := by
  constructor
  · rintro ⟨hgraphics, hpresent⟩
    obtain ⟨graphics, hfound⟩ := graphicsFamilies_nonempty_iff.mp hgraphics
    obtain ⟨present, hpartner⟩ :=
      (partner_isSome_iff (lt_of_graphics (isLeast_graphics hfound).1)).mpr hpresent
    exact ⟨_, by rw [candidate, hfound, Option.bind_some, hpartner, Option.map_some]⟩
  · rintro ⟨c, h⟩
    obtain ⟨graphics, hgraphics, h⟩ := Option.bind_eq_some_iff.mp h
    obtain ⟨present, hpresent, -⟩ := Option.map_eq_some_iff.mp h
    have hleast := isLeast_graphics hgraphics
    exact ⟨⟨graphics, hleast.1⟩,
      (partner_isSome_iff (lt_of_graphics hleast.1)).mp ⟨present, hpresent⟩⟩

theorem not_qualifies_iff : ¬ hw.Qualifies gpu ↔ hw.candidate gpu = none := by
  rw [qualifies_iff, not_exists, Option.eq_none_iff_forall_ne_some]

theorem any_discrete_iff : (hw.candidate gpu).any (·.discrete) = true ↔
    hw.Qualifies gpu ∧ hw.Discrete gpu := by
  cases h : hw.candidate gpu with
  | none => exact iff_of_false nofun fun hboth => not_qualifies_iff.mpr h hboth.1
  | some c =>
    rw [Option.any_some, (candidate_fits h).2.2]
    exact (and_iff_right (qualifies_iff.mpr ⟨c, h⟩)).symm

/-- The first discrete candidate is that of the first discrete device that qualifies. -/
theorem first_discrete (h : (gpus.filterMap hw.candidate).find? (·.discrete) = some c) :
    ∃ gpu, hw.candidate gpu = some c ∧
      First (fun gpu => hw.Qualifies gpu ∧ hw.Discrete gpu) gpus gpu := by
  rw [List.find?_filterMap] at h
  obtain ⟨gpu, hgpu, hc⟩ := Option.bind_eq_some_iff.mp h
  obtain ⟨hany, before, after, hsplit, hbefore⟩ := List.find?_eq_some_iff_append.mp hgpu
  refine ⟨gpu, hc, before, after, hsplit, any_discrete_iff.mp hany, ?_⟩
  intro g hg hboth
  have hnot := hbefore g hg
  rw [any_discrete_iff.mpr hboth] at hnot
  cases hnot

theorem no_discrete (h : (gpus.filterMap hw.candidate).find? (·.discrete) = none) :
    ∀ gpu ∈ gpus, ¬ (hw.Qualifies gpu ∧ hw.Discrete gpu) := by
  rintro gpu hgpu ⟨hqualifies, hdiscrete⟩
  obtain ⟨c, hc⟩ := qualifies_iff.mp hqualifies
  have hmem : c ∈ gpus.filterMap hw.candidate := List.mem_filterMap.mpr ⟨gpu, hgpu, hc⟩
  exact List.find?_eq_none.mp h c hmem ((candidate_fits hc).2.2.mpr hdiscrete)

/-- The first candidate is that of the first device that qualifies. -/
theorem first_candidate (h : (gpus.filterMap hw.candidate).head? = some c) :
    ∃ gpu, hw.candidate gpu = some c ∧ First hw.Qualifies gpus gpu := by
  rw [List.head?_filterMap] at h
  obtain ⟨before, gpu, after, hsplit, hc, hbefore⟩ := List.findSome?_eq_some_iff.mp h
  exact ⟨gpu, hc, before, after, hsplit, qualifies_iff.mpr ⟨c, hc⟩,
    fun g hg => not_qualifies_iff.mpr (hbefore g hg)⟩

theorem best_chooses (h : hw.best gpus = some c) : hw.Chooses gpus c.selection := by
  have hchooses : ∀ gpu, hw.candidate gpu = some c →
      (First (fun gpu => hw.Qualifies gpu ∧ hw.Discrete gpu) gpus gpu ∨
        (∀ gpu ∈ gpus, ¬ (hw.Qualifies gpu ∧ hw.Discrete gpu)) ∧ First hw.Qualifies gpus gpu) →
      hw.Chooses gpus c.selection := by
    intro gpu hc hfirst
    obtain ⟨rfl, hfits, -⟩ := candidate_fits hc
    exact ⟨hfits, hfirst⟩
  rcases Option.or_eq_some_iff.mp h with hdiscrete | ⟨hnone, hhead⟩
  · obtain ⟨gpu, hc, hfirst⟩ := first_discrete hdiscrete
    exact hchooses gpu hc (Or.inl hfirst)
  · obtain ⟨gpu, hc, hfirst⟩ := first_candidate hhead
    exact hchooses gpu hc (Or.inr ⟨no_discrete hnone, hfirst⟩)

theorem best_eq_none_iff : hw.best gpus = none ↔ ∀ gpu ∈ gpus, ¬ hw.Qualifies gpu := by
  rw [best, preferred, Option.or_eq_none_iff, List.head?_eq_none_iff, List.filterMap_eq_nil_iff]
  simp only [not_qualifies_iff]
  constructor
  · exact And.right
  · intro h
    rw [List.filterMap_eq_nil_iff.mpr h]
    exact ⟨rfl, h⟩

theorem choice_settles (hw : Hardware) :
    hw.Settles (hw.choice.mapError fun n => .construction n.text) := by
  cases hgpus : hw.gpus with
  | error code =>
    simp only [choice, hgpus, Except.mapError]
    refine ⟨iff_of_true ⟨_, rfl⟩ (Or.inl ⟨code, hgpus⟩), ?_, ?_⟩
    · rintro _ ⟨⟩
      exact ⟨_, rfl⟩
    · rintro _ ⟨⟩
  | ok gpus =>
    cases hbest : hw.best gpus with
    | none =>
      simp only [choice, hgpus, hbest, Except.mapError]
      refine ⟨iff_of_true ⟨_, rfl⟩ (Or.inr ⟨gpus, hgpus, best_eq_none_iff.mp hbest⟩), ?_, ?_⟩
      · rintro _ ⟨⟩
        exact ⟨_, rfl⟩
      · rintro _ ⟨⟩
    | some c =>
      simp only [choice, hgpus, hbest, Except.mapError]
      refine ⟨iff_of_false ?_ ?_, ?_, ?_⟩
      · rintro ⟨_, ⟨⟩⟩
      · rintro (⟨code, hcode⟩ | ⟨_, hlist, hnone⟩)
        · cases hgpus.symm.trans hcode
        · cases hgpus.symm.trans hlist
          cases hbest.symm.trans (best_eq_none_iff.mpr hnone)
      · rintro _ ⟨⟩
      · rintro _ ⟨⟩
        exact ⟨gpus, hgpus, best_chooses hbest⟩

end Hardware

/-- A surface is made or destroyed. -/
def HandlesSurface : Event interface → Prop
  | .asked (.create (.surface ..)) (.ok _) => True
  | .asked (.destroy .surface _ _) _ => True
  | _ => False

variable {σ : Type}

/-- What comes of the request for a surface for a window. There is none if the handles do not allow
one. -/
def surfaceFor (answer : (c : Call) → σ → c.Answer × σ) (inst : Handle .inst)
    (handle : WindowHandle) (driver : σ) : Except Code (Handle .surface) := do
  let platform ← handle.platform
  (answer (.create (.surface inst platform)) driver).1

/-- How a choice for a window goes: the surface for it cannot be created and the error says so, or
it is created, the choice is made with it, and it is destroyed. -/
inductive Passes (answer : (c : Call) → σ → c.Answer × σ) (inst : Handle .inst)
    (handle : WindowHandle) (driver : σ) (run : Run interface σ (Except Error Selection)) : Prop
  | unmade (code : Code) : surfaceFor answer inst handle driver = .error code →
      run.outcome = .ok (.error (.construction (Notice.surfaceFailed code).text)) →
      (∀ e ∈ run.events, ¬ HandlesSurface e) → Passes answer inst handle driver run
  | gone (platform : Platform) (surface : Handle .surface) (driver' : σ) :
      surfaceFor answer inst handle driver = .ok surface →
      run.outcome = ((selectFor inst surface).run answer driver').outcome →
      (∀ e ∈ ((selectFor inst surface).run answer driver').events, ¬ HandlesSurface e) →
      run.events = .asked (.create (.surface inst platform)) (.ok surface) ::
        ((selectFor inst surface).run answer driver').events ++
        [.asked (.destroy .surface (some inst.object) (some surface)) ()] →
      Passes answer inst handle driver run

theorem Call.Surveys.not_handlesSurface {inst : Handle .inst} {surface : Handle .surface}
    {c : Call} (h : c.Surveys inst surface) (a : c.Answer) :
    ¬ HandlesSurface (.asked c a) := by
  cases c with
  | create => exact h.elim
  | destroy => exact h.elim
  | _ => exact id

/-- No choice makes or destroys a surface of its own, and each comes to an end. -/
theorem selectFor_run (answer : (c : Call) → σ → c.Answer × σ) (driver : σ) (inst : Handle .inst)
    (surface : Handle .surface) :
    (∃ result, ((selectFor inst surface).run answer driver).outcome = .ok result) ∧
      ∀ e ∈ ((selectFor inst surface).run answer driver).events, ¬ HandlesSurface e := by
  obtain ⟨hallows, -, hhalts⟩ := (selectFor_strictly inst surface).run answer driver
    (fun _ _ _ _ => trivial)
  constructor
  · cases houtcome : ((selectFor inst surface).run answer driver).outcome with
    | ok result => exact ⟨result, rfl⟩
    | error reason => exact (hhalts reason houtcome).elim
  · rintro (entry | ⟨c, a⟩) hmem
    · exact id
    · obtain ⟨n, hn⟩ := List.mem_iff_getElem?.mp hmem
      have hsurveys : c.Surveys inst surface := hallows n c a hn
      exact hsurveys.not_handlesSurface a

/-- What a choice for a window is once a surface has been asked for. -/
def choose (inst : Handle .inst) : Except Code (Handle .surface) → Program (Except Error Selection)
  | .error code => do return .error (← refuse .construction (.surfaceFailed code))
  | .ok surface => do
    let result ← selectFor inst surface
    destroyOn inst (some surface)
    return result

theorem select_eq_choose (inst : Handle .inst) (handle : WindowHandle) :
    select inst handle = createWindowSurface inst handle >>= choose inst := by
  refine congrArg (createWindowSurface inst handle >>= ·) (funext fun result => ?_)
  cases result with
  | error code => rfl
  | ok surface => rfl

theorem choose_passes {answer : (c : Call) → σ → c.Answer × σ} {inst : Handle .inst}
    {handle : WindowHandle} {driver : σ} (driver' : σ) (platform : Platform)
    {made : Except Code (Handle .surface)} (hmade : surfaceFor answer inst handle driver = made) :
    Passes answer inst handle driver { (choose inst made).run answer driver' with
      events := .asked (.create (.surface inst platform)) made ::
        ((choose inst made).run answer driver').events } := by
  cases made with
  | error code =>
    refine .unmade code hmade rfl (List.forall_mem_cons.mpr ⟨id, ?_⟩)
    exact List.forall_mem_singleton.mpr id
  | ok surface =>
    obtain ⟨⟨result, houtcome⟩, hquiet⟩ := selectFor_run answer driver' inst surface
    have hrun : (choose inst (.ok surface)).run answer driver' = _ :=
      Program.run_bind answer (selectFor inst surface)
        (fun result => destroyOn inst (some surface) >>= fun _ => pure result) driver'
    rw [hrun]
    refine .gone platform surface driver' hmade ?_ hquiet ?_
    · rw [Run.andThen, houtcome]
      rfl
    · rw [Run.andThen, houtcome]
      rfl

theorem select_passes (answer : (c : Call) → σ → c.Answer × σ) (inst : Handle .inst)
    (handle : WindowHandle) (driver : σ) :
    Passes answer inst handle driver ((select inst handle).run answer driver) := by
  rw [select_eq_choose]
  unfold createWindowSurface
  split
  · rename_i code hcode
    have hnone : surfaceFor answer inst handle driver = .error code := by
      rw [surfaceFor, hcode]
      rfl
    exact .unmade code hnone rfl (List.forall_mem_singleton.mpr id)
  · rename_i platform hplatform
    have hasked : surfaceFor answer inst handle driver =
        (answer (.create (.surface inst platform)) driver).1 := by
      rw [surfaceFor, hplatform]
      rfl
    exact choose_passes _ platform hasked

/-- Among the physical devices that a driver tells of, the right one is chosen for a surface, and
the choice fails only if they cannot be listed or none qualifies. To choose for a window, a surface
is made for the purpose and is gone afterwards. -/
theorem right_gpu_selected (answer : (c : Call) → σ → c.Answer × σ) (inst : Handle .inst)
    (surface : Handle .surface) (driver : σ) (hw : Hardware)
    (htells : ∀ c a, .asked c a ∈ ((selectFor inst surface).run answer driver).events →
      c.Tells hw a) :
    (∃ result, ((selectFor inst surface).run answer driver).outcome = .ok result ∧
      hw.Settles result) ∧
    ∀ handle driver,
      Passes answer inst handle driver ((select inst handle).run answer driver) := by
  refine ⟨?_, select_passes answer inst⟩
  have hsurveys : (selectFor inst surface).Keeps (surveying inst surface (some hw)) _ () :=
    selectFor_surveys
  obtain ⟨-, hresult, hhalts⟩ := hsurveys.run answer driver (by
    rintro n c a hn _ ⟨⟩
    exact htells c a (List.mem_of_getElem? hn))
  cases houtcome : ((selectFor inst surface).run answer driver).outcome with
  | error reason => exact (hhalts reason houtcome).elim
  | ok result =>
    have hchoice := (hresult result houtcome).2 hw rfl
    exact ⟨result, rfl, hchoice ▸ hw.choice_settles⟩

/-- A driver of some hardware. -/
def Hardware.answer (hw : Hardware) : (c : Call) → Unit → c.Answer × Unit
  | .gpus _, u => (hw.gpus, u)
  | .gpuProperties gpu, u => (hw.properties gpu, u)
  | .queueFamilies gpu, u => (hw.families gpu, u)
  | .surfaceSupport gpu family _, u => (hw.support gpu family, u)
  | c, u => stubborn c u

theorem Hardware.answer_tells (hw : Hardware) (c : Call) (u : Unit) :
    c.Tells hw (hw.answer c u).1 := by
  cases c with
  | gpus => rfl
  | gpuProperties => rfl
  | queueFamilies => rfl
  | surfaceSupport => rfl
  | _ => trivial

/-- An integrated device that qualifies, then a discrete one that cannot present, then two discrete
ones with different families for graphics and presentation. -/
def workstation : Hardware where
  gpus := .ok [⟨0⟩, ⟨1⟩, ⟨2⟩, ⟨3⟩]
  properties gpu := ⟨[], if gpu = ⟨0⟩ then 1 else GpuProperties.discrete⟩
  families gpu := if gpu = ⟨0⟩ then [⟨1⟩] else [⟨2⟩, ⟨2⟩, ⟨3⟩]
  support gpu family :=
    if gpu = ⟨1⟩ then .error .outOfHostMemory
    else if gpu = ⟨0⟩ then .ok true
    else if family = 0 then .error .surfaceLost
    else .ok (family = 1)

/-- A discrete device comes before an integrated one, and the first that qualifies before a
second. -/
theorem right_gpu_selected_discrete : ∃ best,
    ((selectFor ⟨0⟩ ⟨1⟩).run workstation.answer ()).outcome = .ok (.ok best) ∧
      best.gpu = ⟨2⟩ ∧ best.graphicsFamily = 2 ∧ best.presentFamily = 1 ∧
      workstation.Chooses [⟨0⟩, ⟨1⟩, ⟨2⟩, ⟨3⟩] best := by
  obtain ⟨⟨result, houtcome, hsettles⟩, -⟩ :=
    right_gpu_selected workstation.answer ⟨0⟩ ⟨1⟩ () workstation (by
      intro c a hmem
      obtain ⟨u, rfl⟩ := Program.answer_of_mem hmem
      exact workstation.answer_tells c u)
  have hrun : ((selectFor ⟨0⟩ ⟨1⟩).run workstation.answer ()).outcome =
      .ok (.ok ⟨⟨2⟩, 2, 1, "Unknown GPU"⟩) := by
    decide +kernel
  obtain rfl : result = .ok ⟨⟨2⟩, 2, 1, "Unknown GPU"⟩ := Except.ok.inj (houtcome.symm.trans hrun)
  obtain ⟨gpus, hgpus, hchooses⟩ := hsettles.chooses _ rfl
  obtain rfl : [⟨0⟩, ⟨1⟩, ⟨2⟩, ⟨3⟩] = gpus := Except.ok.inj hgpus
  exact ⟨_, hrun, rfl, rfl, rfl, hchooses⟩

end Presentation.Vulkan
