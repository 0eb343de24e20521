import Presentation.Proofs.Vulkan.Explanation
import Presentation.Proofs.Vulkan.Ledger
import Presentation.Proofs.Vulkan.Offer

/-!
# Sound negotiation

A configuration that fits what a surface was reported to support leads to a
request that fits what the driver reports, as long as that stays the same. There
is none only while the surface has no area. That a format is not offered is
never heard of.
-/

set_option autoImplicit false

namespace Presentation.Vulkan

/-- What a driver reports about a surface. -/
structure Offer where
  capabilities : Capabilities
  formats : List SurfaceFormat
  modes : List ModeCode

namespace Offer

/-- The snapshot that the surface layer makes of an offer. -/
def info (offer : Offer) : SurfaceInfo := surfaceInfo offer.formats offer.capabilities.usage

/-- The questions about a surface, answered by the offer. -/
def inquiry (offer : Offer) (gpu : Gpu) (surface : Handle .surface) : List (Event interface) :=
  [.asked (.capabilities gpu surface) (.ok offer.capabilities),
    .asked (.surfaceFormats gpu surface) (.ok offer.formats),
    .asked (.presentModes gpu surface) (.ok offer.modes)]

end Offer

/-- The driver sticks to an offer. -/
def Call.Reports (offer : Offer) : (c : Call) → c.Answer → Prop
  | .capabilities .., answer => answer = .ok offer.capabilities
  | .surfaceFormats .., answer => answer = .ok offer.formats
  | .presentModes .., answer => answer = .ok offer.modes
  | _, _ => True

/-- A request for a swapchain that keeps to an offer. -/
structure SwapchainRequest.Suits (request : SwapchainRequest) (offer : Offer)
    (desc : SwapchainDesc) : Prop where
  width : Within offer.capabilities.minExtent.width offer.capabilities.maxExtent.width
    request.extent.width
  height : Within offer.capabilities.minExtent.height offer.capabilities.maxExtent.height
    request.extent.height
  minImages : offer.capabilities.Admits request.minImages
  /-- A number of images that is supported is asked for as it was wished for. -/
  minImages_eq : offer.capabilities.Admits desc.imageCount → request.minImages = desc.imageCount
  format : request.format = .ofFormat desc.format
  offered : ⟨request.format, request.colorSpace⟩ ∈ offer.formats
  srgb : ⟨request.format, .srgbNonlinear⟩ ∈ offer.formats → request.colorSpace = .srgbNonlinear
  used : request.usage.bits ≠ 0
  usage : offer.capabilities.usage.contains request.usage = true
  transform : request.transform = offer.capabilities.transform
  alpha : request.alpha ∈ alphaModes ∧
    offer.capabilities.alpha &&& request.alpha = request.alpha
  mode : request.mode = .ofMode .fifo ∨ request.mode ∈ offer.modes
  paced : desc.vsync = true → request.mode = .ofMode .fifo

namespace Notice

/-- A text that does not say that a format is not offered. -/
def Other (text : String) : Prop := ∀ format, text ≠ (formatNotOffered format).text

instance : DecidablePred Other := fun text =>
  decidable_of_iff (∀ format ∈ Format.all, text ≠ (formatNotOffered format).text)
    ⟨fun h format => h format format.mem_all, fun h format _ => h format⟩

theorem Begins.append {first second : Char} {text : String} (h : Begins first second text)
    (rest : String) : Begins first second (text ++ rest) := by
  have hlength := congrArg List.length h
  rw [List.length_take, List.length_cons, List.length_singleton] at hlength
  have hle : 2 ≤ text.toList.length := by omega
  rw [Begins, String.toList_append, List.take_append_of_le_length hle]
  exact h

theorem begins_formatNotOffered (format : Format) :
    Begins 'S' 'u' (formatNotOffered format).text := by
  have hbegins : Begins 'S' 'u' "Surface does not offer format " := by decide +kernel
  exact hbegins.append format.name

theorem other_of_begins {first second : Char} {text : String} (h : Begins first second text)
    (hne : [first, second] ≠ ['S', 'u']) : Other text := by
  rintro format rfl
  exact hne (h.symm.trans (begins_formatNotOffered format))

theorem other_callFailed {function : String} (h : Begins 'v' 'k' function) (code : Code) :
    Other (callFailed function code).text :=
  other_of_begins ((h.append _).append code.name) (by decide)

theorem other_noImages : Other noImages.text := by
  have hbegins : Begins 'v' 'k' "vkGetSwapchainImagesKHR returned no images" := by decide +kernel
  exact other_of_begins hbegins (by decide)

theorem other_swapchainCreated (extent : Extent) (format : FormatCode) (space : ColorSpace)
    (mode : ModeCode) (images : Nat) (hint : UInt32) :
    Other (swapchainCreated extent format space mode images hint).text := by
  have hbegins : Begins 'S' 'w' "Swapchain created: " := by decide +kernel
  have htext : (swapchainCreated extent format space mode images hint).text =
      "Swapchain created: " ++ toString extent.width.toNat ++ "x" ++
        toString extent.height.toNat ++ " " ++ format.name ++ " " ++ space.name ++ " " ++
        mode.name ++ ", " ++ toString images ++ " images (hint " ++ toString hint.toNat ++ ")" :=
    rfl
  refine other_of_begins (?_ : Begins 'S' 'w' _) (by decide)
  rw [htext]
  repeat apply Begins.append
  exact hbegins

/-- An error that does not report a format as not offered. -/
def OtherError (e : Error) : Prop :=
  ∀ format, e ≠ .backendError (formatNotOffered format).text

theorem otherError_backendError {text : String} (h : Other text) :
    OtherError (.backendError text) := fun format heq => h format (Error.backendError.inj heq)

end Notice

open Notice (Other OtherError)

/-- An entry that reports a format as not offered. -/
def saysNotOffered : Event interface → Bool
  | .noted e => !decide (Other e.message)
  | .asked _ _ => false

theorem saysNotOffered_noted {n : Notice} (h : Other n.text) :
    saysNotOffered (.noted n.entry) = false := by
  have hother : Other n.entry.message := h
  simp [saysNotOffered, hother]

theorem refuse_other {n : Notice} {toError : String → Error} (h : Other n.text)
    (herror : OtherError (toError n.text)) : (refuse toError n : Program Error).Marks
      saysNotOffered (fun e told => told = [] ∧ OtherError e) [] :=
  (Program.silent_log (saysNotOffered_noted h)).andThen fun _ => ⟨rfl, herror⟩

/-- A call that fails, and a swapchain without images, are reported in other words. -/
theorem other_fair : Fair saysNotOffered fun e told => told = [] ∧ OtherError e where
  asked c _ a := rfl
  created extent format space mode images hint :=
    saysNotOffered_noted (Notice.other_swapchainCreated extent format space mode images hint)
  failed function hname code := by
    have hother := Notice.other_callFailed hname code
    unfold callFailure
    split
    · exact ⟨rfl, by simp [OtherError]⟩
    · split
      · exact refuse_other hother (by simp [OtherError])
      · split
        · exact refuse_other hother (by simp [OtherError])
        · exact refuse_other hother (Notice.otherError_backendError hother)
  empty := refuse_other Notice.other_noImages
    (Notice.otherError_backendError Notice.other_noImages)

section Negotiation

variable {offer : Offer} {config : SurfaceConfig} {desc : SwapchainDesc}

namespace Offer

/-- A watch that remembers all of a run with a driver that sticks to an offer. -/
def record (offer : Offer) : Watch interface (List (Event interface)) where
  see es e := es ++ [e]
  allows _ _ := True
  trusts _ c answer := c.Reports offer answer
  halts := False

theorem record_after (offer : Offer) (es events : List (Event interface)) :
    offer.record.after es events = es ++ events := by
  have hsome : offer.record.after es events = es ++ events.filterMap some :=
    Watch.after_gathering (fun _ _ => rfl) es events
  rw [hsome, List.filterMap_some]

end Offer

namespace Terms

/-- The request for a configuration that fits an offer suits that offer. -/
theorem request_suits (ctx : Context) (surface : Handle .surface) (old : Option (Handle .swapchain))
    {space : ColorSpace} (hlawful : offer.capabilities.Lawful) (hfits : config.Fits offer.info)
    (hdesc : desc = config.request offer.info)
    (hspace : chooseColorSpace offer.formats (.ofFormat desc.format) = some space) :
    (request ⟨.ofFormat desc.format, space,
      chooseExtent offer.capabilities desc.width desc.height,
      chooseImageCount offer.capabilities desc.imageCount,
      choosePresentMode desc.vsync offer.modes, offer.capabilities⟩
        ctx surface desc old).Suits offer desc where
  width := clampLifted_within hlawful.width
  height := clampLifted_within hlawful.height
  minImages := hlawful.admits_chooseImageCount desc.imageCount
  minImages_eq := Capabilities.chooseImageCount_eq
  format := rfl
  offered := chooseColorSpace_mem hspace
  srgb := chooseColorSpace_srgb hspace
  used := ImageUsage.ofUsage_bits_ne_zero desc.usage
  usage := by
    subst hdesc
    exact ImageUsage.contains_ofUsage hlawful.color hfits.contains_resolvedUsage
  transform := rfl
  alpha := hlawful.chooseAlpha_mem
  mode := choosePresentMode_mem desc.vsync
  paced := by
    intro hvsync
    show choosePresentMode desc.vsync offer.modes = .ofMode .fifo
    rw [hvsync]
    rfl

theorem negotiate_suits (ctx : Context) (surface : Handle .surface)
    (old : Option (Handle .swapchain)) (hlawful : offer.capabilities.Lawful)
    (hdesc : config.validate offer.info = .ok desc) :
    (negotiate ctx surface desc).Keeps offer.record
      (fun terms _ es => ¬ offer.capabilities.Closed ∧ es = offer.inquiry ctx.gpu surface ∧
        (terms.request ctx surface desc old).Suits offer desc)
      (fun e _ es => offer.capabilities.Closed ∧ e = .outOfDateSurface ∧
        es = offer.inquiry ctx.gpu surface ++ [.noted Notice.zeroExtent.entry]) () [] := by
  obtain ⟨hfits, hdesc⟩ := SurfaceConfig.validate_eq_ok_iff.mp hdesc
  have hformat : desc.format ∈ knownFormats offer.formats := hdesc ▸ hfits.format
  have hwidth : desc.width ≠ 0 := hdesc ▸ hfits.width
  have hheight : desc.height ≠ 0 := hdesc ▸ hfits.height
  obtain ⟨space, hoffered⟩ := exists_of_mem_knownFormats hformat
  obtain ⟨chosen, hchosen⟩ := exists_chooseColorSpace hoffered
  have hclosed := hlawful.chooseExtent_eq_zero_iff hwidth hheight
  unfold negotiate
  refine Attempt.keeps_bind.mpr (Attempt.keeps_expectOr.mpr ⟨trivial, ?_⟩)
  rintro _ rfl
  refine Attempt.keeps_bind.mpr (Attempt.keeps_expectOr.mpr ⟨trivial, ?_⟩)
  rintro _ rfl
  refine Attempt.keeps_bind.mpr (Attempt.keeps_expectOr.mpr ⟨trivial, ?_⟩)
  rintro _ rfl
  dsimp only
  rw [hchosen]
  dsimp only
  split
  · rename_i hzero
    exact ⟨hclosed.mp hzero, rfl, rfl⟩
  · rename_i harea
    exact ⟨fun h => harea (hclosed.mpr h), rfl,
      request_suits ctx surface old hlawful hfits hdesc hchosen⟩

end Terms

/-- How the creation of a swapchain goes on from a negotiation: without area it ends there, and
otherwise the first thing created is a swapchain, and what is said afterwards is not that a format
is missing. -/
theorem Swapchain.create_negotiates {σ : Type} (answer : (c : Call) → σ → c.Answer × σ) (peer : σ)
    (ctx : Context) (surface : Handle .surface) (old : Option (Handle .swapchain))
    (hlawful : offer.capabilities.Lawful) (hdesc : config.validate offer.info = .ok desc)
    (hreports : ∀ c a, .asked c a ∈
      ((create ctx surface desc old).run answer peer).events → c.Reports offer a) :
    let run := (create ctx surface desc old).run answer peer
    (offer.capabilities.Closed ∧ run.outcome = .ok (.error .outOfDateSurface) ∧
      run.events = offer.inquiry ctx.gpu surface ++ [.noted Notice.zeroExtent.entry]) ∨
    (¬ offer.capabilities.Closed ∧ ∃ request a rest, run.events = offer.inquiry ctx.gpu surface ++
        .asked (.create (.swapchain ctx.device request)) a :: rest ∧
      request.Suits offer desc ∧ (∀ e, .noted e ∈ rest → Other e.message) ∧
      ∀ e, run.outcome = .ok (.error e) → OtherError e) := by
  intro run
  have hrun : run = (create ctx surface desc old).run answer peer := rfl
  have htrusts : offer.record.Trusts [] run.events :=
    fun n c a hn => hreports c a (List.mem_of_getElem? hn)
  rw [create_eq] at hrun
  rw [hrun] at htrusts
  obtain ⟨⟨result, ⟨⟩⟩, es, peer', hpost, houtcome, hevents⟩ :=
    (Terms.negotiate_suits ctx surface old hlawful hdesc).run_andThen id _ answer peer htrusts
  rw [← hrun] at houtcome hevents
  rw [Offer.record_after, List.nil_append] at hpost
  match result with
  | .error e =>
    obtain ⟨hclosed, rfl, rfl⟩ := hpost
    exact Or.inl ⟨hclosed, houtcome, hevents.trans (List.append_nil _)⟩
  | .ok terms =>
    obtain ⟨hopen, rfl, hsuits⟩ := hpost
    obtain ⟨hend, hhalt⟩ := (make_explains other_fair ctx desc terms
      (terms.request ctx surface desc old)).run answer peer'
    rw [List.nil_append] at hend hhalt
    have hsilent : ((make ctx desc terms (terms.request ctx surface desc old)).run answer
        peer').events.filter saysNotOffered = [] := by
      cases hmade : ((make ctx desc terms (terms.request ctx surface desc old)).run answer
          peer').outcome with
      | error reason => exact hhalt reason hmade
      | ok made =>
        have hexplained := hend made hmade
        cases made with
        | error e => exact hexplained.1
        | ok sc => exact hexplained
    refine Or.inr ⟨hopen, _, _, _, hevents, hsuits, ?_, ?_⟩
    · intro e he
      have hquiet := List.filter_eq_nil_iff.mp hsilent _ (List.mem_cons_of_mem _ he)
      simpa [saysNotOffered] using hquiet
    · exact fun e hfailed => (hend _ (houtcome.symm.trans hfailed)).2

/-- Negotiation is sound: a configuration that fits what a surface was reported to support is
turned away before a creation exactly while the surface has no area. Otherwise a swapchain is
asked for that suits what the driver reports, and a missing format is not heard of. -/
theorem negotiation_sound {σ : Type} (answer : (c : Call) → σ → c.Answer × σ) (peer : σ)
    (ctx : Context) (surface : Handle .surface) (old : Option (Handle .swapchain))
    (hlawful : offer.capabilities.Lawful) (hdesc : config.validate offer.info = .ok desc)
    (hreports : ∀ c a, .asked c a ∈
      ((Swapchain.create ctx surface desc old).run answer peer).events → c.Reports offer a) :
    let run := (Swapchain.create ctx surface desc old).run answer peer
    ((run.outcome = .ok (.error .outOfDateSurface) ∧
      ∀ what a, .asked (.create what) a ∉ run.events) ↔ offer.capabilities.Closed) ∧
    (¬ offer.capabilities.Closed →
      (∃ request a rest, run.events = offer.inquiry ctx.gpu surface ++
        .asked (.create (.swapchain ctx.device request)) a :: rest ∧ request.Suits offer desc) ∧
      ∀ format, .noted (Notice.formatNotOffered format).entry ∉ run.events ∧
        run.outcome ≠ .ok (.error (.backendError (Notice.formatNotOffered format).text))) := by
  intro run
  rcases Swapchain.create_negotiates answer peer ctx surface old hlawful hdesc hreports with
    ⟨hclosed, houtcome, hevents⟩ | ⟨hopen, request, a, rest, hevents, hsuits, hsaid, hend⟩
  · have hnone : ∀ what a, .asked (.create what) a ∉ run.events := by
      intro what a hmem
      rw [hevents] at hmem
      simp [Offer.inquiry] at hmem
    exact ⟨iff_of_true ⟨houtcome, hnone⟩ hclosed, fun hopen => absurd hclosed hopen⟩
  · have hcreated : .asked (.create (.swapchain ctx.device request)) a ∈ run.events := by
      rw [hevents]
      exact List.mem_append_right _ List.mem_cons_self
    constructor
    · exact iff_of_false (fun hnone => hnone.2 _ a hcreated) hopen
    · intro _
      refine ⟨⟨request, a, rest, hevents, hsuits⟩, ?_⟩
      intro format
      constructor
      · intro hmem
        rw [hevents] at hmem
        have hlater : .noted (Notice.formatNotOffered format).entry ∈ rest := by
          simpa [Offer.inquiry] using hmem
        exact hsaid _ hlater format rfl
      · exact fun hfailed => hend _ hfailed format rfl

/-- What `stubborn` offers. -/
def Offer.stubborn : Offer :=
  ⟨Scene.defaultCapabilities, [⟨.ofFormat .bgra8Srgb, .srgbNonlinear⟩], []⟩

theorem Offer.stubborn_lawful : Offer.stubborn.capabilities.Lawful where
  width := by decide
  height := by decide
  count := by decide
  color := by decide
  alpha := ⟨1, by decide⟩

theorem stubborn_reports (c : Call) (u : Unit) :
    c.Reports .stubborn (Vulkan.stubborn c u).1 := by
  cases c with
  | capabilities => rfl
  | surfaceFormats => rfl
  | presentModes => rfl
  | _ => trivial

/-- A driver that has one format is asked for a swapchain in it. -/
theorem negotiation_sound_stubborn : ∃ request a rest,
    ((Swapchain.create .plain ⟨0⟩ ⟨.bgra8Srgb, .renderTarget, 4, 4, 3, true⟩ none).run
      stubborn ()).events = Offer.stubborn.inquiry ⟨0⟩ ⟨0⟩ ++
        .asked (.create (.swapchain ⟨0⟩ request)) a :: rest ∧
    request.Suits .stubborn ⟨.bgra8Srgb, .renderTarget, 4, 4, 3, true⟩ := by
  have hdesc : SurfaceConfig.validate ⟨.undefined, .renderTarget, 4, 4, 3, true⟩
      Offer.stubborn.info = .ok ⟨.bgra8Srgb, .renderTarget, 4, 4, 3, true⟩ := rfl
  have hsound := negotiation_sound stubborn () .plain ⟨0⟩ none Offer.stubborn_lawful hdesc
  have hreports : ∀ c a, .asked c a ∈ ((Swapchain.create .plain ⟨0⟩
      ⟨.bgra8Srgb, .renderTarget, 4, 4, 3, true⟩ none).run stubborn ()).events →
        c.Reports .stubborn a := by
    intro c a h
    obtain ⟨u, rfl⟩ := Program.answer_of_mem h
    exact stubborn_reports c u
  have hopen : ¬ Offer.stubborn.capabilities.Closed := not_or.mpr (by decide)
  exact ((hsound hreports).2 hopen).1

end Negotiation

end Presentation.Vulkan
