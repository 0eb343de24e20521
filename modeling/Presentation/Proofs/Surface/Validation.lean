import Presentation.Proofs.Surface.Settlement

/-!
# Validation

Usages are sets of bits, whatever the bits mean. In these terms a configuration
is valid for a snapshot if it has an area and images, its format is listed once
resolved, it asks for no bit that is not supported, and there is a bit to ask
for. Nothing is left open in the request, so the wish for exactly what is
requested is valid too and comes to the same request.
-/

set_option autoImplicit false

namespace Presentation

namespace Usage

/-- The bits that are set in a usage. -/
instance : Membership Nat Usage := ⟨fun u bit => u.bits.toNat.testBit bit = true⟩

theorem mem_iff {bit : Nat} {u : Usage} : bit ∈ u ↔ u.bits.toNat.testBit bit = true := Iff.rfl

theorem mem_inter {bit : Nat} {a b : Usage} : bit ∈ a.inter b ↔ bit ∈ a ∧ bit ∈ b := by
  rw [mem_iff, inter, UInt32.toNat_and, Nat.testBit_and, Bool.and_eq_true]
  rfl

theorem mem_union {bit : Nat} {a b : Usage} : bit ∈ a.union b ↔ bit ∈ a ∨ bit ∈ b := by
  rw [mem_iff, union, UInt32.toNat_or, Nat.testBit_or, Bool.or_eq_true]
  rfl

theorem eq_of_mem_iff {a b : Usage} (h : ∀ bit, bit ∈ a ↔ bit ∈ b) : a = b := by
  have hbits : a.bits.toNat = b.bits.toNat :=
    Nat.eq_of_testBit_eq fun bit => Bool.eq_iff_iff.mpr (h bit)
  cases a
  cases b
  exact congrArg Usage.mk (UInt32.toNat.inj hbits)

theorem contains_iff {a b : Usage} : a.contains b = true ↔ ∀ bit ∈ b, bit ∈ a := by
  have hinter : a.contains b = true ↔ a.inter b = b := by
    rw [contains, beq_iff_eq, inter]
    exact ⟨fun h => congrArg Usage.mk h, fun h => congrArg Usage.bits h⟩
  rw [hinter]
  constructor
  · intro h bit hbit
    rw [← h] at hbit
    exact (mem_inter.mp hbit).1
  · intro h
    apply eq_of_mem_iff
    intro bit
    rw [mem_inter]
    exact ⟨fun hbit => hbit.2, fun hbit => ⟨h bit hbit, hbit⟩⟩

theorem isEmpty_eq_false_iff {u : Usage} : u.isEmpty = false ↔ ∃ bit, bit ∈ u := by
  rw [isEmpty, beq_eq_false_iff_ne]
  constructor
  · intro h
    have hbits : u.bits.toNat ≠ 0 := fun hzero => h (UInt32.toNat.inj hzero)
    obtain ⟨bit, hbit⟩ := Nat.exists_testBit_of_ne_zero hbits
    exact ⟨bit, hbit⟩
  · rintro ⟨bit, hbit⟩ hzero
    rw [mem_iff, hzero] at hbit
    simp at hbit

end Usage

/-- The wish for exactly what is requested. -/
def SwapchainDesc.config (d : SwapchainDesc) : SurfaceConfig :=
  ⟨d.format, d.usage, d.width, d.height, d.imageCount, d.vsync⟩

namespace SurfaceConfig

variable {c : SurfaceConfig} {info : SurfaceInfo}

/-- There is a usage to ask for if there is one wished for, or a default one is supported. -/
theorem resolvedUsage_isEmpty_iff :
    (c.resolvedUsage info).isEmpty = false ↔ (∃ bit, bit ∈ c.usage) ∨
      ∃ bit ∈ info.supportedUsage, bit ∈ Usage.renderTarget ∨ bit ∈ Usage.present := by
  unfold resolvedUsage
  split
  next h =>
    have hnone : ¬ ∃ bit, bit ∈ c.usage := by simp [← Usage.isEmpty_eq_false_iff, h]
    simp only [Usage.isEmpty_eq_false_iff, Usage.mem_inter, Usage.mem_union, hnone, false_or]
    exact exists_congr fun bit => and_comm
  next h =>
    have hsome : ∃ bit, bit ∈ c.usage := by
      simpa [← Usage.isEmpty_eq_false_iff] using h
    simp only [Usage.isEmpty_eq_false_iff, hsome, true_or]

theorem fits_iff (c : SurfaceConfig) (info : SurfaceInfo) : c.Fits info ↔
    c.width ≠ 0 ∧ c.height ≠ 0 ∧ c.imageCount ≠ 0 ∧ c.resolvedFormat info ∈ info.formats ∧
      (∀ bit ∈ c.usage, bit ∈ info.supportedUsage) ∧
      ((∃ bit, bit ∈ c.usage) ∨
        ∃ bit ∈ info.supportedUsage, bit ∈ Usage.renderTarget ∨ bit ∈ Usage.present) := by
  rw [← Usage.contains_iff, ← resolvedUsage_isEmpty_iff]
  constructor
  · intro h
    exact ⟨h.width, h.height, h.imageCount, h.format, h.usage, h.used⟩
  · rintro ⟨hwidth, hheight, hcount, hformat, husage, hused⟩
    exact ⟨hwidth, hheight, hcount, hformat, husage, hused⟩

theorem validate_error {e : Error} (h : c.validate info = .error e) :
    ∃ reason, e = .invalidConfig reason := by
  unfold validate at h
  cases hsettle : c.settle info with
  | error misfit =>
    rw [hsettle] at h
    cases h
    exact ⟨misfit.reason, rfl⟩
  | ok desc =>
    rw [hsettle] at h
    cases h

/-- A format stays open if neither side has settled it. -/
theorem resolvedFormat_eq_undefined_iff :
    c.resolvedFormat info = .undefined ↔
      c.format = .undefined ∧ info.preferredFormat = .undefined := by
  unfold resolvedFormat
  by_cases hopen : c.format = .undefined
  · simp only [hopen, if_true, true_and]
  · simp only [hopen, if_false, false_and]

theorem resolvedFormat_request :
    (c.request info).config.resolvedFormat info = c.resolvedFormat info := by
  by_cases hopen : c.resolvedFormat info = .undefined
  · -- an open format is resolved once more, to a preference that is open as well
    obtain ⟨-, hpreferred⟩ := resolvedFormat_eq_undefined_iff.mp hopen
    rw [hopen]
    exact resolvedFormat_eq_undefined_iff.mpr ⟨hopen, hpreferred⟩
  · exact if_neg hopen

theorem Fits.resolvedUsage_request (h : c.Fits info) :
    (c.request info).config.resolvedUsage info = c.resolvedUsage info := by
  have hused : (c.request info).config.usage.isEmpty = false := h.used
  rw [resolvedUsage, hused]
  rfl

theorem Fits.request_config (h : c.Fits info) : (c.request info).config.Fits info where
  width := h.width
  height := h.height
  imageCount := h.imageCount
  format := by
    rw [resolvedFormat_request]
    exact h.format
  usage := h.contains_resolvedUsage
  used := by
    rw [h.resolvedUsage_request]
    exact h.used

theorem Fits.request_request (h : c.Fits info) :
    (c.request info).config.request info = c.request info := by
  rw [request, resolvedFormat_request, h.resolvedUsage_request]
  rfl

/-- Which configurations are valid for a snapshot, what the request for one is, and that it is
the request for itself. -/
theorem validation_settles (c : SurfaceConfig) (info : SurfaceInfo) :
    let format := if c.format = .undefined then info.preferredFormat else c.format
    ((∃ desc, c.validate info = .ok desc) ↔
      c.width ≠ 0 ∧ c.height ≠ 0 ∧ c.imageCount ≠ 0 ∧ format ∈ info.formats ∧
        (∀ bit ∈ c.usage, bit ∈ info.supportedUsage) ∧
        ((∃ bit, bit ∈ c.usage) ∨
          ∃ bit ∈ info.supportedUsage, bit ∈ Usage.renderTarget ∨ bit ∈ Usage.present)) ∧
    (∀ e, c.validate info = .error e → ∃ reason, e = .invalidConfig reason) ∧
    ∀ desc, c.validate info = .ok desc →
      desc.format = format ∧
      (∃ bit, bit ∈ desc.usage) ∧ (∀ bit ∈ desc.usage, bit ∈ info.supportedUsage) ∧
      ((∃ bit, bit ∈ c.usage) → desc.usage = c.usage) ∧
      desc.width = c.width ∧ desc.height = c.height ∧ desc.imageCount = c.imageCount ∧
      desc.vsync = c.vsync ∧
      desc.config.validate info = .ok desc := by
  intro format
  refine ⟨?_, fun e => validate_error, ?_⟩
  · refine Iff.trans ?_ (fits_iff c info)
    constructor
    · rintro ⟨desc, h⟩
      exact (validate_eq_ok_iff.mp h).1
    · intro h
      exact ⟨c.request info, validate_eq_ok_iff.mpr ⟨h, rfl⟩⟩
  · intro desc h
    obtain ⟨hfits, rfl⟩ := validate_eq_ok_iff.mp h
    have hkept : (∃ bit, bit ∈ c.usage) → c.resolvedUsage info = c.usage := by
      intro hused
      rw [resolvedUsage, Usage.isEmpty_eq_false_iff.mpr hused]
      rfl
    exact ⟨rfl, Usage.isEmpty_eq_false_iff.mp hfits.used,
      Usage.contains_iff.mp hfits.contains_resolvedUsage, hkept, rfl, rfl, rfl, rfl,
      validate_eq_ok_iff.mpr ⟨hfits.request_config, hfits.request_request.symm⟩⟩

end SurfaceConfig

end Presentation
