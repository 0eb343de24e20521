import Presentation.Proofs.Surface.Settlement
import Presentation.Vulkan.Negotiation

/-!
# Choosing within an offer

What a surface reports is an offer, and each open choice of a swapchain is made
within it: a format that the surface layer was shown has an entry, a usage that
it was told of has the flags, and a number is moved into its range only if it
lies outside.
-/

set_option autoImplicit false

namespace Presentation.Vulkan

/-- The first of a list of which something holds. -/
def First {α : Type} (p : α → Prop) (xs : List α) (x : α) : Prop :=
  ∃ before after, xs = before ++ x :: after ∧ p x ∧ ∀ y ∈ before, ¬ p y

theorem First.mem {α : Type} {p : α → Prop} {xs : List α} {x : α} (h : First p xs x) : x ∈ xs := by
  obtain ⟨before, after, rfl, -, -⟩ := h
  exact List.mem_append_right before List.mem_cons_self

namespace FormatCode

variable {code : FormatCode} {f : Format}

theorem format?_eq_some (h : code.format? = some f) : code = ofFormat f := by
  have hfound := List.find?_some h
  exact (of_decide_eq_true hfound).symm

theorem format?_ofFormat (h : f ≠ .undefined) : (ofFormat f).format? = some f := by
  cases f with
  | undefined => exact absurd rfl h
  | _ => decide

/-- The surface layer has every format but the undefined one. -/
theorem format?_eq_some_iff : code.format? = some f ↔ f ≠ .undefined ∧ code = ofFormat f := by
  constructor
  · intro h
    refine ⟨?_, format?_eq_some h⟩
    have hmem := List.mem_of_find?_eq_some h
    exact of_decide_eq_true (List.mem_filter.mp hmem).2
  · rintro ⟨hf, rfl⟩
    exact format?_ofFormat hf

end FormatCode

section Formats

variable {offered : List SurfaceFormat} {f : Format} {code : FormatCode} {space : ColorSpace}

theorem mem_collect (found known : List Format) :
    f ∈ found.foldl (fun known f => if f ∈ known then known else known ++ [f]) known ↔
      f ∈ known ∨ f ∈ found := by
  induction found generalizing known with
  | nil => simp
  | cons g found ih =>
    rw [List.foldl_cons, ih, List.mem_cons]
    split
    · rename_i hg
      constructor
      · rintro (h | h)
        · exact Or.inl h
        · exact Or.inr (Or.inr h)
      · rintro (h | rfl | h)
        · exact Or.inl h
        · exact Or.inl hg
        · exact Or.inr h
    · rw [List.mem_append, List.mem_singleton, or_assoc]

theorem mem_knownFormats :
    f ∈ knownFormats offered ↔ ∃ o ∈ offered, o.format.format? = some f := by
  rw [knownFormats, mem_collect, List.mem_filterMap]
  simp

/-- A format that the surface layer knows of has an entry in the offer. -/
theorem exists_of_mem_knownFormats (h : f ∈ knownFormats offered) :
    ∃ space, ⟨.ofFormat f, space⟩ ∈ offered := by
  obtain ⟨⟨code, space⟩, hmem, hcode⟩ := mem_knownFormats.mp h
  have hcode' : code = .ofFormat f := FormatCode.format?_eq_some hcode
  exact ⟨space, hcode' ▸ hmem⟩

theorem mem_spaces :
    space ∈ (offered.filter (·.format = code)).map (·.colorSpace) ↔ ⟨code, space⟩ ∈ offered := by
  simp only [List.mem_map, List.mem_filter, decide_eq_true_eq]
  constructor
  · rintro ⟨⟨code', space'⟩, ⟨hmem, rfl⟩, rfl⟩
    exact hmem
  · intro hmem
    exact ⟨_, ⟨hmem, rfl⟩, rfl⟩

theorem chooseColorSpace_mem (h : chooseColorSpace offered code = some space) :
    ⟨code, space⟩ ∈ offered := by
  rw [← mem_spaces]
  rcases Option.or_eq_some_iff.mp h with hfound | ⟨-, hhead⟩
  · exact List.mem_of_find?_eq_some hfound
  · exact List.mem_of_head? hhead

theorem exists_chooseColorSpace (h : ⟨code, space⟩ ∈ offered) :
    ∃ chosen, chooseColorSpace offered code = some chosen := by
  rw [← mem_spaces] at h
  cases hspaces : (offered.filter (·.format = code)).map (·.colorSpace) with
  | nil =>
    rw [hspaces] at h
    cases h
  | cons first rest =>
    cases hfound : (first :: rest).find? (· = ColorSpace.srgbNonlinear) with
    | none => exact ⟨first, by simp [chooseColorSpace, hspaces, hfound]⟩
    | some chosen => exact ⟨chosen, by simp [chooseColorSpace, hspaces, hfound]⟩

theorem chooseColorSpace_srgb (h : chooseColorSpace offered code = some space)
    (hsrgb : ⟨code, .srgbNonlinear⟩ ∈ offered) : space = .srgbNonlinear := by
  rw [← mem_spaces] at hsrgb
  rcases Option.or_eq_some_iff.mp h with hfound | ⟨hnone, -⟩
  · have hchosen := List.find?_some hfound
    exact of_decide_eq_true hchosen
  · have hnot := List.find?_eq_none.mp hnone _ hsrgb
    simp at hnot

end Formats

namespace ImageUsage

variable {word : ImageUsage} {usage : Usage}

theorem contains_union {a b : ImageUsage} (ha : word.contains a = true)
    (hb : word.contains b = true) : word.contains (a.union b) = true := by
  have ha' : word.bits &&& a.bits = a.bits := beq_iff_eq.mp ha
  have hb' : word.bits &&& b.bits = b.bits := beq_iff_eq.mp hb
  apply beq_iff_eq.mpr
  show word.bits &&& (a.bits ||| b.bits) = a.bits ||| b.bits
  rw [← UInt32.toBitVec_inj] at ha' hb' ⊢
  simp only [UInt32.toBitVec_and, UInt32.toBitVec_or] at ha' hb' ⊢
  rw [BitVec.and_or_distrib_left, ha', hb']

theorem contains_foldl (asked : List (Usage × ImageUsage)) {start : ImageUsage}
    (hstart : word.contains start = true) (h : ∀ flag ∈ asked, word.contains flag.2 = true) :
    word.contains (asked.foldl (fun word flag => word.union flag.2) start) = true := by
  induction asked generalizing start with
  | nil => exact hstart
  | cons flag asked ih =>
    apply ih
    · exact contains_union hstart (h flag List.mem_cons_self)
    · exact fun flag hflag => h flag (List.mem_cons_of_mem _ hflag)

/-- The surface layer is told of a flag exactly if it is supported. -/
theorem contains_usage {flag : Usage × ImageUsage} (h : flag ∈ flags) :
    word.usage.contains flag.1 = word.contains flag.2 := by
  simp only [flags, List.mem_cons, List.not_mem_nil, or_false] at h
  -- each flag has a bit of its own, so what the others are does not matter
  rcases h with rfl | rfl | rfl | rfl | rfl <;>
  · simp only [usage, flags, List.filter]
    generalize word.contains sampled = a
    generalize word.contains storage = b
    generalize word.contains colorAttachment = c
    generalize word.contains transferSource = d
    generalize word.contains transferDestination = e
    revert a b c d e
    decide

/-- A usage that the surface layer was told of has its flags supported. -/
theorem contains_ofUsage (hcolor : word.contains colorAttachment = true)
    (h : word.usage.contains usage = true) : word.contains (ofUsage usage) = true := by
  unfold ofUsage
  dsimp only
  split
  · exact hcolor
  · apply contains_foldl
    · exact beq_iff_eq.mpr UInt32.and_zero
    · intro flag hflag
      obtain ⟨hmem, hasked⟩ := List.mem_filter.mp hflag
      rw [← contains_usage hmem]
      exact Usage.contains_trans h hasked

theorem ofUsage_bits_ne_zero (usage : Usage) : (ofUsage usage).bits ≠ 0 := by
  unfold ofUsage
  dsimp only
  split
  · decide
  · assumption

end ImageUsage

section Pacing

variable {available : List ModeCode}

theorem ModeCode.mode?_eq_some {code : ModeCode} {mode : PresentMode}
    (h : code.mode? = some mode) : ofMode mode = code := by
  have hfound := List.find?_some h
  exact of_decide_eq_true hfound

/-- First in, first out needs no offer; any other mode is one that is offered. -/
theorem choosePresentMode_mem (vsync : Bool) :
    choosePresentMode vsync available = .ofMode .fifo ∨
      choosePresentMode vsync available ∈ available := by
  unfold choosePresentMode PresentMode.select
  cases vsync with
  | true => exact Or.inl rfl
  | false =>
    cases hfound : [PresentMode.mailbox, .immediate].find?
        ((available.filterMap (·.mode?)).contains ·) with
    | none => exact Or.inl (by simp)
    | some mode =>
      have hoffered := List.find?_some hfound
      obtain ⟨code, hcode, hmode⟩ := List.mem_filterMap.mp (List.contains_iff_mem.mp hoffered)
      exact Or.inr (by simpa [ModeCode.mode?_eq_some hmode] using hcode)

end Pacing

section Ranges

variable {low high n : UInt32}

theorem toNat_max (a b : UInt32) : (max a b).toNat = max a.toNat b.toNat := by
  rw [show max a b = if a ≤ b then b else a from rfl]
  split
  · rename_i h
    rw [UInt32.le_iff_toNat_le] at h
    omega
  · rename_i h
    rw [UInt32.le_iff_toNat_le] at h
    omega

theorem toNat_min (a b : UInt32) : (min a b).toNat = min a.toNat b.toNat := by
  rw [show min a b = if a ≤ b then a else b from rfl]
  split
  · rename_i h
    rw [UInt32.le_iff_toNat_le] at h
    omega
  · rename_i h
    rw [UInt32.le_iff_toNat_le] at h
    omega

theorem toNat_clampLifted (low high n : UInt32) :
    (clampLifted low high n).toNat =
      max low.toNat (min n.toNat (max high.toNat low.toNat)) := by
  rw [clampLifted, clamp, toNat_max, toNat_min, toNat_max]

/-- Within a range that is not empty. -/
def Within (low high n : UInt32) : Prop := low ≤ n ∧ n ≤ high

theorem clampLifted_within (h : low ≤ high) : Within low high (clampLifted low high n) := by
  simp only [Within, UInt32.le_iff_toNat_le, toNat_clampLifted] at h ⊢
  omega

/-- A number that is not zero is clamped to zero only by a range that holds nothing else. -/
theorem clampLifted_eq_zero_iff (h : low ≤ high) (hn : n ≠ 0) :
    clampLifted low high n = 0 ↔ high = 0 := by
  simp only [ne_eq, ← UInt32.toNat_inj, toNat_clampLifted, UInt32.toNat_zero,
    UInt32.le_iff_toNat_le] at h hn ⊢
  omega

end Ranges

namespace Capabilities

variable {caps : Capabilities} {n : UInt32}

/-- A number of images that the surface supports. -/
def Admits (caps : Capabilities) (n : UInt32) : Prop :=
  caps.minCount ≤ n ∧ (caps.maxCount = 0 ∨ n ≤ caps.maxCount)

/-- What Vulkan guarantees of the capabilities of a surface. -/
structure Lawful (caps : Capabilities) : Prop where
  width : caps.minExtent.width ≤ caps.maxExtent.width
  height : caps.minExtent.height ≤ caps.maxExtent.height
  count : caps.maxCount = 0 ∨ caps.minCount ≤ caps.maxCount
  color : caps.usage.contains .colorAttachment = true
  alpha : ∃ mode ∈ alphaModes, caps.alpha &&& mode = mode

theorem toNat_chooseImageCount (caps : Capabilities) (n : UInt32) :
    (chooseImageCount caps n).toNat =
      if caps.maxCount = 0 then max n.toNat caps.minCount.toNat
      else min (max n.toNat caps.minCount.toNat) caps.maxCount.toNat := by
  unfold chooseImageCount
  dsimp only
  split
  · exact toNat_max _ _
  · rw [toNat_min, toNat_max]

theorem Lawful.admits_chooseImageCount (h : caps.Lawful) (n : UInt32) :
    caps.Admits (chooseImageCount caps n) := by
  have hcount := h.count
  simp only [Admits, UInt32.le_iff_toNat_le, toNat_chooseImageCount] at hcount ⊢
  split
  · rename_i hzero
    exact ⟨by omega, Or.inl hzero⟩
  · rename_i hlimit
    have hle := hcount.resolve_left hlimit
    exact ⟨by omega, Or.inr (by omega)⟩

theorem chooseImageCount_eq (h : caps.Admits n) : chooseImageCount caps n = n := by
  obtain ⟨hlow, hhigh⟩ := h
  rw [UInt32.le_iff_toNat_le] at hlow hhigh
  rw [← UInt32.toNat_inj, toNat_chooseImageCount]
  split
  · omega
  · rename_i hlimit
    have hle := hhigh.resolve_left hlimit
    omega

theorem Lawful.chooseAlpha_mem (h : caps.Lawful) :
    chooseAlpha caps ∈ alphaModes ∧ caps.alpha &&& chooseAlpha caps = chooseAlpha caps := by
  obtain ⟨mode, hmem, hmode⟩ := h.alpha
  unfold chooseAlpha
  cases hfound : alphaModes.find? fun mode => caps.alpha &&& mode == mode with
  | none =>
    have hnot := List.find?_eq_none.mp hfound mode hmem
    simp [hmode] at hnot
  | some chosen =>
    have hsupported := List.find?_some hfound
    exact ⟨List.mem_of_find?_eq_some hfound, beq_iff_eq.mp hsupported⟩

/-- The surface has no area, whatever is asked for. -/
def Closed (caps : Capabilities) : Prop := caps.maxExtent.width = 0 ∨ caps.maxExtent.height = 0

theorem Lawful.chooseExtent_eq_zero_iff (h : caps.Lawful) {width height : UInt32}
    (hwidth : width ≠ 0) (hheight : height ≠ 0) :
    (chooseExtent caps width height).width = 0 ∨ (chooseExtent caps width height).height = 0 ↔
      caps.Closed :=
  or_congr (clampLifted_eq_zero_iff h.width hwidth) (clampLifted_eq_zero_iff h.height hheight)

end Capabilities

end Presentation.Vulkan
