import Presentation.Proofs.Surface.Account
import Presentation.Proofs.Surface.Validation

/-!
# What a request leaves open

A request always has a usage. Its format is settled as well, unless the window
prefers an undefined format and lists it among those that it supports: then a
wish for the preferred format is granted as it is, and the native surface is
asked for an undefined format.
-/

set_option autoImplicit false

namespace Presentation

/-- A snapshot of a window that leaves the format open. -/
structure SurfaceInfo.Vague (info : SurfaceInfo) : Prop where
  preferred : info.preferredFormat = .undefined
  listed : .undefined ∈ info.formats

namespace SurfaceConfig

variable {c : SurfaceConfig} {info : SurfaceInfo} {desc : SwapchainDesc}

theorem exists_mem_usage_of_validate (h : c.validate info = .ok desc) :
    ∃ bit, bit ∈ desc.usage := by
  obtain ⟨hfits, rfl⟩ := validate_eq_ok_iff.mp h
  exact Usage.isEmpty_eq_false_iff.mp hfits.used

theorem format_eq_undefined_iff (h : c.validate info = .ok desc) :
    desc.format = .undefined ↔ c.format = .undefined ∧ info.preferredFormat = .undefined := by
  obtain ⟨-, rfl⟩ := validate_eq_ok_iff.mp h
  exact resolvedFormat_eq_undefined_iff

theorem vague_of_validate (h : c.validate info = .ok desc) (hopen : desc.format = .undefined) :
    info.Vague := by
  obtain ⟨hfits, rfl⟩ := validate_eq_ok_iff.mp h
  refine ⟨(resolvedFormat_eq_undefined_iff.mp hopen).2, ?_⟩
  have hlisted := hfits.format
  rwa [show c.resolvedFormat info = .undefined from hopen] at hlisted

/-- The wish for all that a window supports, in the format that it prefers. -/
def everything (info : SurfaceInfo) : SurfaceConfig :=
  (ofSize 1 1).choose (.usage info.supportedUsage)

theorem resolvedFormat_everything (h : info.Vague) :
    (everything info).resolvedFormat info = .undefined :=
  resolvedFormat_eq_undefined_iff.mpr ⟨rfl, h.preferred⟩

theorem fits_everything (h : info.Vague) (hused : ∃ bit, bit ∈ info.supportedUsage) :
    (everything info).Fits info := by
  have hformat : (everything info).resolvedFormat info ∈ info.formats := by
    rw [resolvedFormat_everything h]
    exact h.listed
  have harea : (1 : UInt32) ≠ 0 := by decide
  have hcount : (3 : UInt32) ≠ 0 := by decide
  exact (fits_iff _ info).mpr
    ⟨harea, harea, hcount, hformat, fun _ hbit => hbit, Or.inl hused⟩

theorem exists_open_request_iff (info : SurfaceInfo) :
    (∃ c desc, validate c info = .ok desc ∧ desc.format = .undefined) ↔
      info.Vague ∧ ∃ bit, bit ∈ info.supportedUsage := by
  constructor
  · rintro ⟨c, desc, h, hopen⟩
    refine ⟨vague_of_validate h hopen, ?_⟩
    obtain ⟨bit, hbit⟩ := exists_mem_usage_of_validate h
    obtain ⟨hfits, rfl⟩ := validate_eq_ok_iff.mp h
    exact ⟨bit, Usage.contains_iff.mp hfits.contains_resolvedUsage bit hbit⟩
  · rintro ⟨hvague, hused⟩
    exact ⟨everything info, (everything info).request info,
      validate_eq_ok_iff.mpr ⟨fits_everything hvague hused, rfl⟩,
      resolvedFormat_everything hvague⟩

end SurfaceConfig

namespace Surface

open SurfaceConfig

/-- A request has a usage, and leaves the format open exactly if neither the wish nor the window
has settled it. With any native surface, whatever operations are performed, no configuration
without a usage is asked for, and none of an undefined format but of a window that was last
reported to prefer that and to support it. -/
theorem request_open_iff_window_vague {σ : Type}
    (answer : (c : Native.Call) → σ → c.Answer × σ) (native : σ) (device : String)
    (ops : List Op) :
    (∀ (c : SurfaceConfig) info desc, c.validate info = .ok desc →
      (∃ bit, bit ∈ desc.usage) ∧ (desc.format = .undefined ↔
        c.format = .undefined ∧ info.preferredFormat = .undefined)) ∧
    (∀ info, (∃ (c : SurfaceConfig) (desc : SwapchainDesc), c.validate info = .ok desc ∧
      desc.format = .undefined) ↔ info.Vague ∧ ∃ bit, bit ∈ info.supportedUsage) ∧
    let calls := Watch.calls ((life device ops).run answer native).events
    ∀ (n : Nat) desc reply, calls[n]? = some (.asked (.configure desc) reply) →
      (∃ bit, bit ∈ desc.usage) ∧ (desc.format = .undefined →
        ∃ info, Native.reported (calls.take n) = some info ∧ info.Vague) := by
  refine ⟨fun c info desc h => ⟨exists_mem_usage_of_validate h, format_eq_undefined_iff h⟩,
    exists_open_request_iff, ?_⟩
  intro calls n desc reply hn
  obtain ⟨hallows, -, -⟩ := (life_agrees device ops).run answer native (fun _ _ _ _ => trivial)
  obtain ⟨c, info, hinfo, hdesc⟩ := Watch.allows_calls hallows n hn desc rfl
  exact ⟨exists_mem_usage_of_validate hdesc,
    fun hopen => ⟨info, hinfo, vague_of_validate hdesc hopen⟩⟩

/-- An undefined format is requested of a window that prefers it and lists it. -/
theorem undefined_format_requested :
    let info : SurfaceInfo := ⟨.undefined, Usage.renderTarget.union .present, [.undefined]⟩
    let desc : SwapchainDesc := ⟨.undefined, Usage.renderTarget.union .present, 4, 4, 3, true⟩
    (SurfaceConfig.ofSize 4 4).validate info = .ok desc ∧ desc.format = .undefined ∧
      (Watch.calls ((life "gpu" [.configure (.ofSize 4 4)]).run Native.Simulated.answer
        (.ofInfo info)).events)[1]? = some (.asked (.configure desc) (.ok ())) :=
  ⟨by decide, rfl, rfl⟩

end Surface

end Presentation
