import Presentation.Surface.Config

/-!
# What settles a configuration

A configuration is settled exactly if its size and image count are not zero and
its format and usage, once resolved, can be had and are not nothing. The request
has the resolved format and usage and the rest as it was wished for.
-/

set_option autoImplicit false

namespace Presentation

namespace Usage

theorem contains_inter_right (a b : Usage) : a.contains (b.inter a) = true := by
  have hsub : a.bits &&& (b.bits &&& a.bits) = b.bits &&& a.bits := by
    rw [UInt32.and_comm b.bits, ← UInt32.and_assoc, UInt32.and_self]
  exact beq_iff_eq.mpr hsub

theorem contains_trans {a b c : Usage} (hab : a.contains b = true) (hbc : b.contains c = true) :
    a.contains c = true := by
  have hab' : a.bits &&& b.bits = b.bits := beq_iff_eq.mp hab
  have hbc' : b.bits &&& c.bits = c.bits := beq_iff_eq.mp hbc
  have hac : a.bits &&& c.bits = c.bits := by
    rw [← hbc', ← UInt32.and_assoc, hab']
  exact beq_iff_eq.mpr hac

end Usage

namespace SurfaceConfig

variable {c : SurfaceConfig} {info : SurfaceInfo} {desc : SwapchainDesc}

/-- What there has to be to a configuration for a snapshot. -/
structure Fits (c : SurfaceConfig) (info : SurfaceInfo) : Prop where
  width : c.width ≠ 0
  height : c.height ≠ 0
  imageCount : c.imageCount ≠ 0
  format : c.resolvedFormat info ∈ info.formats
  usage : info.supportedUsage.contains c.usage = true
  used : (c.resolvedUsage info).isEmpty = false

/-- The request that a configuration comes to. -/
def request (c : SurfaceConfig) (info : SurfaceInfo) : SwapchainDesc :=
  ⟨c.resolvedFormat info, c.resolvedUsage info, c.width, c.height, c.imageCount, c.vsync⟩

theorem Fits.settle_eq (h : c.Fits info) : c.settle info = .ok (c.request info) := by
  simp [settle, request, h.width, h.height, h.imageCount, h.format, h.usage, h.used]

theorem fits_of_settle (h : c.settle info = .ok desc) : c.Fits info := by
  unfold settle at h
  dsimp only at h
  split at h
  · cases h
  rename_i harea
  split at h
  · cases h
  rename_i hcount
  split at h
  · cases h
  rename_i hformat
  split at h
  · cases h
  rename_i husage
  split at h
  · cases h
  rename_i hused
  obtain ⟨hwidth, hheight⟩ := not_or.mp harea
  exact ⟨hwidth, hheight, hcount, Decidable.not_not.mp hformat, by simpa using husage,
    by simpa using hused⟩

theorem settle_eq_ok_iff : c.settle info = .ok desc ↔ c.Fits info ∧ desc = c.request info := by
  constructor
  · intro h
    have hfits := fits_of_settle h
    rw [hfits.settle_eq] at h
    cases h
    exact ⟨hfits, rfl⟩
  · rintro ⟨hfits, rfl⟩
    exact hfits.settle_eq

theorem validate_eq_ok_iff : c.validate info = .ok desc ↔ c.Fits info ∧ desc = c.request info := by
  rw [← settle_eq_ok_iff, validate]
  cases c.settle info with
  | error misfit => exact ⟨nofun, nofun⟩
  | ok desc' =>
    constructor
    · intro h
      rw [Except.ok.inj h]
    · intro h
      rw [Except.ok.inj h]
      rfl

/-- Usage is resolved within what is supported. -/
theorem Fits.contains_resolvedUsage (h : c.Fits info) :
    info.supportedUsage.contains (c.resolvedUsage info) = true := by
  unfold resolvedUsage
  split
  · exact Usage.contains_inter_right _ _
  · exact h.usage

end SurfaceConfig

end Presentation
