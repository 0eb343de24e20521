import Mathlib.Data.List.Induction
import Presentation.Proofs.Surface.Validation
import Presentation.Proofs.Vulkan.Offer

/-!
# The snapshot of an offer

An offer lists formats in any order, more than once, and some that the surface
layer does not have. A snapshot has each of the others once, in the order in
which they first appear, and prefers one of them if there is one.
-/

set_option autoImplicit false

namespace Presentation.Vulkan

/-- The place of the first entry for a format, or the end of the offer. -/
def place (offered : List SurfaceFormat) (f : Format) : Nat :=
  offered.findIdx (·.format = .ofFormat f)

/-- Which of some formats is preferred. -/
inductive Prefers (formats : List Format) : Format → Prop
  | srgb {f : Format} : First (·.isSrgb = true) formats f → Prefers formats f
  | first {f : Format} : (∀ g ∈ formats, g.isSrgb = false) → formats.head? = some f →
      Prefers formats f
  | nothing : formats = [] → Prefers formats .undefined

section Formats

variable {offered : List SurfaceFormat} {o : SurfaceFormat} {f g : Format}

theorem mem_knownFormats_iff :
    f ∈ knownFormats offered ↔ f ≠ .undefined ∧ ∃ o ∈ offered, o.format = .ofFormat f := by
  rw [mem_knownFormats]
  simp only [FormatCode.format?_eq_some_iff]
  constructor
  · rintro ⟨o, hmem, hf, hformat⟩
    exact ⟨hf, o, hmem, hformat⟩
  · rintro ⟨hf, o, hmem, hformat⟩
    exact ⟨o, hmem, hf, hformat⟩

/-- One more entry adds its format at the end, if there is one and it is new. -/
theorem knownFormats_snoc (offered : List SurfaceFormat) (o : SurfaceFormat) :
    knownFormats (offered ++ [o]) = knownFormats offered ∨
      ∃ f, o.format.format? = some f ∧ f ∉ knownFormats offered ∧
        knownFormats (offered ++ [o]) = knownFormats offered ++ [f] := by
  unfold knownFormats
  rw [List.filterMap_append, List.foldl_append]
  generalize (offered.filterMap (·.format.format?)).foldl
    (fun known f => if f ∈ known then known else known ++ [f]) [] = known
  cases hformat : o.format.format? with
  | none => exact Or.inl (by rw [List.filterMap_cons, hformat]; rfl)
  | some f =>
    rw [List.filterMap_cons, hformat]
    by_cases hknown : f ∈ known
    · exact Or.inl (if_pos hknown)
    · exact Or.inr ⟨f, rfl, hknown, if_neg hknown⟩

theorem place_lt (h : f ∈ knownFormats offered) : place offered f < offered.length := by
  obtain ⟨-, o, hmem, hformat⟩ := mem_knownFormats_iff.mp h
  exact List.findIdx_lt_length.mpr ⟨o, hmem, decide_eq_true hformat⟩

theorem length_le_place (hf : f ≠ .undefined) (h : f ∉ knownFormats offered) :
    offered.length ≤ place offered f := by
  by_contra hlt
  obtain ⟨o, hmem, hformat⟩ := List.findIdx_lt_length.mp (Nat.lt_of_not_le hlt)
  exact h (mem_knownFormats_iff.mpr ⟨hf, o, hmem, of_decide_eq_true hformat⟩)

/-- The place of a known format does not depend on what else is offered after it. -/
theorem place_snoc (h : f ∈ knownFormats offered) :
    place (offered ++ [o]) f = place offered f := by
  rw [place, List.findIdx_append]
  exact if_pos (place_lt h)

theorem length_le_place_snoc (hf : f ≠ .undefined) (h : f ∉ knownFormats offered) :
    offered.length ≤ place (offered ++ [o]) f := by
  have hbefore : offered.findIdx (·.format = .ofFormat f) ≥ offered.length := length_le_place hf h
  rw [place, List.findIdx_append, if_neg (Nat.not_lt_of_le hbefore)]
  exact Nat.le_add_left _ _

theorem knownFormats_ordered (offered : List SurfaceFormat) :
    (knownFormats offered).Pairwise fun f g => place offered f < place offered g := by
  -- by the last entry: the places of the formats before it stay where they are
  induction offered using List.reverseRecOn with
  | nil => exact List.Pairwise.nil
  | append_singleton offered o ih =>
    have hkept : (knownFormats offered).Pairwise fun f g =>
        place (offered ++ [o]) f < place (offered ++ [o]) g := by
      apply ih.imp_of_mem
      intro f g hf hg hlt
      rwa [place_snoc hf, place_snoc hg]
    rcases knownFormats_snoc offered o with hsame | ⟨f, hformat, hnew, hmore⟩
    · rwa [hsame]
    · rw [hmore, List.pairwise_append]
      refine ⟨hkept, List.pairwise_singleton _ f, ?_⟩
      intro g hg f' hf'
      obtain rfl := List.mem_singleton.mp hf'
      have hf := (FormatCode.format?_eq_some_iff.mp hformat).1
      rw [place_snoc hg]
      exact Nat.lt_of_lt_of_le (place_lt hg) (length_le_place_snoc hf hnew)

theorem knownFormats_nodup (offered : List SurfaceFormat) : (knownFormats offered).Nodup := by
  apply (knownFormats_ordered offered).imp
  rintro f g hlt rfl
  exact Nat.lt_irrefl _ hlt

theorem surfaceInfo_prefers (offered : List SurfaceFormat) (usage : ImageUsage) :
    Prefers (surfaceInfo offered usage).formats (surfaceInfo offered usage).preferredFormat := by
  unfold surfaceInfo
  dsimp only
  generalize knownFormats offered = formats
  cases hfound : formats.find? (·.isSrgb) with
  | some f =>
    obtain ⟨hsrgb, before, after, hsplit, hbefore⟩ := List.find?_eq_some_iff_append.mp hfound
    refine .srgb ⟨before, after, hsplit, hsrgb, ?_⟩
    intro g hg hyes
    have hnot := hbefore g hg
    rw [hyes] at hnot
    cases hnot
  | none =>
    cases formats with
    | nil => exact .nothing rfl
    | cons f rest =>
      refine .first ?_ rfl
      intro g hg
      exact Bool.not_eq_true _ ▸ List.find?_eq_none.mp hfound g hg

/-- There is a preference exactly if there is something to prefer. -/
theorem Prefers.mem_iff {formats : List Format} (h : Prefers formats f) :
    f ∈ formats ↔ formats ≠ [] := by
  refine ⟨List.ne_nil_of_mem, fun hsome => ?_⟩
  cases h with
  | srgb hfirst => exact hfirst.mem
  | first hnone hhead => exact List.mem_of_head? hhead
  | nothing hnil => exact absurd hnil hsome

end Formats

namespace ImageUsage

variable {word : ImageUsage} {bit : Nat}

theorem mem_foldl (asked : List (Usage × ImageUsage)) (start : Usage) :
    bit ∈ asked.foldl (fun usage flag => usage.union flag.1) start ↔
      bit ∈ start ∨ ∃ flag ∈ asked, bit ∈ flag.1 := by
  induction asked generalizing start with
  | nil => simp
  | cons flag asked ih =>
    rw [List.foldl_cons, ih, Usage.mem_union, or_assoc]
    simp only [List.mem_cons, exists_eq_or_imp]

theorem mem_usage : bit ∈ word.usage ↔
    bit ∈ Usage.present ∨ ∃ flag ∈ flags, word.contains flag.2 = true ∧ bit ∈ flag.1 := by
  rw [usage, mem_foldl]
  simp only [List.mem_filter, and_assoc]

theorem mem_all_of_mem_usage (h : bit ∈ word.usage) : bit ∈ Usage.all := by
  have hpresent : Usage.all.contains .present = true := by decide
  have hflags : ∀ flag ∈ flags, Usage.all.contains flag.1 = true := by decide
  rcases mem_usage.mp h with hbit | ⟨flag, hflag, -, hbit⟩
  · exact Usage.contains_iff.mp hpresent bit hbit
  · exact Usage.contains_iff.mp (hflags flag hflag) bit hbit

end ImageUsage

section Default

variable {width height : UInt32} {info : SurfaceInfo}

/-- With a usage to present, a default configuration with an area lacks nothing but a format. -/
theorem ofSize_fits_iff (hwidth : width ≠ 0) (hheight : height ≠ 0)
    (hpresent : ∀ bit ∈ Usage.present, bit ∈ info.supportedUsage) :
    (SurfaceConfig.ofSize width height).Fits info ↔ info.preferredFormat ∈ info.formats := by
  have hnone : ∀ bit, bit ∉ (SurfaceConfig.ofSize width height).usage := by
    intro bit hbit
    cases (Nat.zero_testBit bit).symm.trans hbit
  have hbit : 5 ∈ Usage.present := Usage.mem_iff.mpr (by decide)
  rw [SurfaceConfig.fits_iff]
  constructor
  · rintro ⟨-, -, -, hformat, -⟩
    exact hformat
  · intro hformat
    have hcount : (SurfaceConfig.ofSize width height).imageCount ≠ 0 := nofun
    exact ⟨hwidth, hheight, hcount, hformat, fun bit hbit => absurd hbit (hnone bit),
      Or.inr ⟨5, hpresent 5 hbit, Or.inr hbit⟩⟩

end Default

/-- The snapshot of an offer lists each format that has an entry once, in the order of the first
ones, prefers one of them if there is one, supports presentation and no flag without a name, and
lets a default configuration with an area through if there is any format. -/
theorem snapshot_faithful (offered : List SurfaceFormat) (usage : ImageUsage) :
    let info := surfaceInfo offered usage
    info.formats.Nodup ∧ .undefined ∉ info.formats ∧
    (∀ f ≠ .undefined, f ∈ info.formats ↔ ∃ o ∈ offered, o.format = .ofFormat f) ∧
    (info.formats.Pairwise fun f g => place offered f < place offered g) ∧
    Prefers info.formats info.preferredFormat ∧
    (∀ bit ∈ Usage.present, bit ∈ info.supportedUsage) ∧
    (∀ bit ∈ info.supportedUsage, bit ∈ Usage.all) ∧
    ∀ width height, width ≠ 0 → height ≠ 0 →
      ((∃ desc, (SurfaceConfig.ofSize width height).validate info = .ok desc) ↔
        info.formats ≠ []) := by
  intro info
  have hprefers : Prefers info.formats info.preferredFormat := surfaceInfo_prefers offered usage
  have hpresent : ∀ bit ∈ Usage.present, bit ∈ info.supportedUsage :=
    fun bit hbit => ImageUsage.mem_usage.mpr (Or.inl hbit)
  refine ⟨knownFormats_nodup offered, ?_, ?_, knownFormats_ordered offered, hprefers, hpresent,
    fun bit => ImageUsage.mem_all_of_mem_usage, ?_⟩
  · intro hmem
    exact (mem_knownFormats_iff.mp hmem).1 rfl
  · intro f hf
    exact mem_knownFormats_iff.trans (and_iff_right hf)
  · intro width height hwidth hheight
    rw [← hprefers.mem_iff, ← ofSize_fits_iff hwidth hheight hpresent]
    constructor
    · rintro ⟨desc, h⟩
      exact (SurfaceConfig.validate_eq_ok_iff.mp h).1
    · intro h
      exact ⟨_, SurfaceConfig.validate_eq_ok_iff.mpr ⟨h, rfl⟩⟩

/-- An offer with an unknown format first and an sRGB format after another, both in two colour
spaces. -/
def assortedOffer : List SurfaceFormat :=
  [⟨⟨1000054000⟩, .srgbNonlinear⟩, ⟨.ofFormat .rgba8Unorm, ⟨1000104002⟩⟩,
    ⟨.ofFormat .bgra8Srgb, .srgbNonlinear⟩, ⟨.ofFormat .rgba8Unorm, .srgbNonlinear⟩,
    ⟨.ofFormat .undefined, .srgbNonlinear⟩, ⟨.ofFormat .bgra8Srgb, ⟨1000104002⟩⟩]

theorem snapshot_faithful_assorted :
    (surfaceInfo assortedOffer ⟨0⟩).formats = [.rgba8Unorm, .bgra8Srgb] ∧
    .rgba8Srgb ∉ (surfaceInfo assortedOffer ⟨0⟩).formats ∧
    ∃ desc, (SurfaceConfig.ofSize 1 1).validate (surfaceInfo assortedOffer ⟨0⟩) = .ok desc := by
  obtain ⟨-, -, hlisted, -, -, -, -, hvalid⟩ := snapshot_faithful assortedOffer ⟨0⟩
  refine ⟨by decide, ?_, ?_⟩
  · rw [hlisted _ (by decide)]
    decide
  · exact (hvalid 1 1 (by decide) (by decide)).mpr (by decide)

end Presentation.Vulkan
