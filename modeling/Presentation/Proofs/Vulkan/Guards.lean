import Mathlib.Logic.Function.Basic
import Presentation.Proofs.Vulkan.Aside

/-!
# Fences and what they guard

The calls of a run and their answers tell how each fence stands, and whether a
command buffer that was submitted may still be executing: it may until the
fence of its submission was waited for. A fence that is given to a submission
or an acquisition has to be unsignaled, and a buffer that is submitted free.

What keeps a swapchain to that is an order of its fences and buffers. Each
fence has one place, each buffer is guarded by the fence in its own place, and
the acquire fence is ready unless the swapchain is stale.
-/

set_option autoImplicit false

namespace Presentation.Vulkan

/-- How a fence that is live stands. -/
inductive Signal where
  | unsignaled
  | signaled
  /-- Given to a submission or an acquisition that was not waited for. -/
  | pending
  deriving DecidableEq

/-- How a command buffer stands. -/
inductive Duty where
  | free
  /-- Submitted with a fence that was not waited for since. -/
  | under (fence : Handle .fence)
  /-- The fence of its submission is gone, so that it can no longer be waited for. -/
  | stranded
  deriving DecidableEq

structure Guards where
  fence : Handle .fence → Option Signal
  duty : CommandBuffer → Duty
  /-- The buffers that a pool gave out since it was created. -/
  allotted : Handle .pool → List CommandBuffer

namespace Guards

def initial : Guards := ⟨fun _ => none, fun _ => .free, fun _ => []⟩

def make (g : Guards) (f : Handle .fence) (s : Signal) : Guards :=
  { g with fence := Function.update g.fence f (some s) }

/-- A fence that is live changes. -/
def mark (g : Guards) (f : Handle .fence) (s : Signal) : Guards :=
  { g with fence := Function.update g.fence f ((g.fence f).map fun _ => s) }

def destroy (g : Guards) (f : Handle .fence) : Guards where
  fence := Function.update g.fence f none
  duty b := if g.duty b = .under f then .stranded else g.duty b
  allotted := g.allotted

/-- What was submitted with a fence has finished when the fence was waited for. -/
def relieve (g : Guards) (f : Handle .fence) : Guards :=
  { g.mark f .signaled with duty := fun b => if g.duty b = .under f then .free else g.duty b }

def engage (g : Guards) (b : CommandBuffer) (f : Handle .fence) : Guards :=
  { g.mark f .pending with duty := Function.update g.duty b (.under f) }

def openPool (g : Guards) (pool : Handle .pool) : Guards :=
  { g with allotted := Function.update g.allotted pool [] }

/-- Buffers that are given out are new ones. -/
def allot (g : Guards) (pool : Handle .pool) (bs : List CommandBuffer) : Guards where
  fence := g.fence
  duty b := if b ∈ bs then .free else g.duty b
  allotted := Function.update g.allotted pool (g.allotted pool ++ bs)

def see (g : Guards) : Event interface → Guards
  | .asked (.create (.fence _ signaled)) (.ok f) =>
    g.make f (if signaled then .signaled else .unsignaled)
  | .asked (.destroy .fence _ (some f)) _ => g.destroy f
  | .asked (.waitForFence _ (some f)) (.ok _) => g.relieve f
  | .asked (.resetFence _ (some f)) (.ok _) => g.mark f .unsignaled
  | .asked (.submit _ b _ f) (.ok _) => g.engage b f
  | .asked (.acquire _ _ (some f)) (.ok _) => g.mark f .pending
  | .asked (.create (.pool ..)) (.ok pool) => g.openPool pool
  | .asked (.allocate _ pool _) (.ok bs) => g.allot pool bs
  | _ => g

/-- What is given out is given out once: a fence when none with its handle is live, and different
buffers that the pool did not give out before. -/
def Distinct (g : Guards) : (c : Call) → c.Answer → Prop
  | .create (.fence ..), .ok f => g.fence f = none
  | .allocate _ pool _, .ok bs => bs.Nodup ∧ ∀ b ∈ bs, b ∉ g.allotted pool
  | _, _ => True

def Allows (g : Guards) : Call → Prop
  | .submit _ b _ f => g.fence f = some .unsignaled ∧ g.duty b = .free
  | .acquire _ _ fence => ∃ f, fence = some f ∧ g.fence f = some .unsignaled
  | _ => True

end Guards

/-- Keeps track of fences and buffers. -/
def guarding : Watch interface Guards where
  see := Guards.see
  allows := Guards.Allows
  trusts := Guards.Distinct
  halts := True

instance : guarding.Deaf := ⟨fun _ _ => rfl⟩

/-- The places that a swapchain has for fences. -/
inductive Post where
  | acquire
  | work (transition : Transition) (index : Nat)
  deriving DecidableEq

theorem Post.work_ne_acquire (t : Transition) (i : Nat) : Post.work t i ≠ .acquire := by
  intro h
  cases h

namespace Guards

variable {g g₀ g₁ : Guards} {ready ready' : Prop} {fence : Post → Option (Handle .fence)}
  {buffer : Transition → Nat → Option CommandBuffer} {p : Post} {f : Handle .fence} {s : Signal}

/-- Fences and buffers are in order. -/
structure Orderly (g : Guards) (ready : Prop) (fence : Post → Option (Handle .fence))
    (buffer : Transition → Nat → Option CommandBuffer) : Prop where
  live : ∀ p f, fence p = some f → g.fence f ≠ none
  apart : ∀ p q f, fence p = some f → fence q = some f → p = q
  single : ∀ t i t' i' b, buffer t i = some b → buffer t' i' = some b → t = t' ∧ i = i'
  guarded : ∀ t i b, buffer t i = some b →
    g.duty b = .free ∨ ∃ f, fence (.work t i) = some f ∧ g.duty b = .under f
  acquire : ready → ∃ f, fence .acquire = some f ∧ g.fence f = some .unsignaled

/-- Between two points, nothing befell the fences that were live at the first one, and buffers can
only have become free. -/
structure Spares (g₀ g : Guards) : Prop where
  fence : ∀ f, g₀.fence f ≠ none → g.fence f = g₀.fence f
  free : ∀ b, g₀.duty b = .free → g.duty b = .free
  under : ∀ b f, g₀.fence f ≠ none → g₀.duty b = .under f → g.duty b = .under f ∨ g.duty b = .free

theorem Spares.refl (g : Guards) : g.Spares g :=
  ⟨fun _ _ => rfl, fun _ => id, fun _ _ _ h => Or.inl h⟩

theorem Spares.trans (h : g₀.Spares g₁) (h' : g₁.Spares g) : g₀.Spares g where
  fence f hf := by
    have hsame := h.fence f hf
    rw [h'.fence f (hsame ▸ hf), hsame]
  free b hb := h'.free b (h.free b hb)
  under b f hf hb := by
    rcases h.under b f hf hb with hunder | hfree
    · exact h'.under b f (h.fence f hf ▸ hf) hunder
    · exact Or.inr (h'.free b hfree)

theorem Orderly.spared (h : g₀.Orderly ready fence buffer) (hs : g₀.Spares g) :
    g.Orderly ready fence buffer where
  live p f hp := by
    rw [hs.fence f (h.live p f hp)]
    exact h.live p f hp
  apart := h.apart
  single := h.single
  guarded t i b hb := by
    rcases h.guarded t i b hb with hfree | ⟨f, hf, hunder⟩
    · exact Or.inl (hs.free b hfree)
    · rcases hs.under b f (h.live _ f hf) hunder with hunder' | hfree
      · exact Or.inr ⟨f, hf, hunder'⟩
      · exact Or.inl hfree
  acquire hr := by
    obtain ⟨f, hf, hstands⟩ := h.acquire hr
    have hlive : g₀.fence f ≠ none := by simp [hstands]
    exact ⟨f, hf, (hs.fence f hlive).trans hstands⟩

theorem Orderly.weaken (h : g.Orderly ready fence buffer) (hr : ready' → ready) :
    g.Orderly ready' fence buffer :=
  ⟨h.live, h.apart, h.single, h.guarded, fun h' => h.acquire (hr h')⟩

/-- Other buffers, all of them free. -/
theorem Orderly.equip (h : g.Orderly ready fence buffer)
    {buffer' : Transition → Nat → Option CommandBuffer}
    (hsingle : ∀ t i t' i' b, buffer' t i = some b → buffer' t' i' = some b → t = t' ∧ i = i')
    (hfree : ∀ t i b, buffer' t i = some b → g.duty b = .free) :
    g.Orderly ready fence buffer' :=
  ⟨h.live, h.apart, hsingle, fun t i b hb => Or.inl (hfree t i b hb), h.acquire⟩

theorem mark_ne {f' : Handle .fence} (hne : f' ≠ f) : (g.mark f s).fence f' = g.fence f' :=
  Function.update_of_ne hne _ _

theorem make_ne {f' : Handle .fence} (hne : f' ≠ f) : (g.make f s).fence f' = g.fence f' :=
  Function.update_of_ne hne _ _

theorem destroy_ne {f' : Handle .fence} (hne : f' ≠ f) : (g.destroy f).fence f' = g.fence f' :=
  Function.update_of_ne hne _ _

theorem mark_self (hf : g.fence f ≠ none) : (g.mark f s).fence f = some s := by
  obtain ⟨s', hs'⟩ := Option.ne_none_iff_exists'.mp hf
  simp [mark, hs']

theorem mark_live {f' : Handle .fence} (hf : g.fence f' ≠ none) : (g.mark f s).fence f' ≠ none := by
  by_cases heq : f' = f
  · subst heq
    simp [mark_self hf]
  · rwa [mark_ne heq]

/-- The fence of a place changes. If it is the acquire fence, that decides whether it is ready. -/
theorem Orderly.mark (h : g.Orderly ready fence buffer) (hp : fence p = some f) (s : Signal)
    (hr : ready' → p = .acquire ∧ s = .unsignaled ∨ p ≠ .acquire ∧ ready) :
    (g.mark f s).Orderly ready' fence buffer where
  live q f' hq := mark_live (h.live q f' hq)
  apart := h.apart
  single := h.single
  guarded := h.guarded
  acquire hr' := by
    rcases hr hr' with ⟨rfl, rfl⟩ | ⟨hne, hready⟩
    · exact ⟨f, hp, mark_self (h.live _ f hp)⟩
    · obtain ⟨f', hf', hstands⟩ := h.acquire hready
      have hother : f' ≠ f := by
        rintro rfl
        exact hne (h.apart p .acquire f' hp hf')
      exact ⟨f', hf', (mark_ne hother).trans hstands⟩

/-- Buffers stand differently. -/
theorem Orderly.withDuty (h : g.Orderly ready fence buffer) (duty : CommandBuffer → Duty)
    (hduty : ∀ t i b, buffer t i = some b →
      duty b = .free ∨ ∃ f, fence (.work t i) = some f ∧ duty b = .under f) :
    { g with duty }.Orderly ready fence buffer :=
  ⟨h.live, h.apart, h.single, hduty, h.acquire⟩

theorem Orderly.relieve (h : g.Orderly ready fence buffer) (hp : fence p = some f)
    (hr : ready' → p ≠ .acquire ∧ ready) : (g.relieve f).Orderly ready' fence buffer := by
  apply (h.mark hp .signaled fun hr' => Or.inr (hr hr')).withDuty
  intro t i b hb
  by_cases hunder : g.duty b = .under f
  · exact Or.inl (if_pos hunder)
  · rw [if_neg hunder]
    exact h.guarded t i b hb

theorem Orderly.engage {t : Transition} {i : Nat} {b : CommandBuffer}
    (h : g.Orderly ready fence buffer) (hp : fence (.work t i) = some f)
    (hb : buffer t i = some b) : (g.engage b f).Orderly ready fence buffer := by
  apply (h.mark hp .pending fun hr => Or.inr ⟨Post.work_ne_acquire t i, hr⟩).withDuty
  intro t' i' b' hb'
  by_cases heq : b' = b
  · subst heq
    obtain ⟨rfl, rfl⟩ := h.single _ _ _ _ _ hb hb'
    exact Or.inr ⟨f, hp, Function.update_self _ _ _⟩
  · rw [Function.update_of_ne heq]
    exact h.guarded t' i' b' hb'

theorem update_some {q : Post} {f' : Handle .fence}
    (hq : Function.update fence p (some f) q = some f') :
    q = p ∧ f' = f ∨ q ≠ p ∧ fence q = some f' := by
  by_cases hqp : q = p
  · subst hqp
    rw [Function.update_self, Option.some.injEq] at hq
    exact Or.inl ⟨rfl, hq.symm⟩
  · rw [Function.update_of_ne hqp] at hq
    exact Or.inr ⟨hqp, hq⟩

theorem spares_make (hf : g.fence f = none) (s : Signal) : g.Spares (g.make f s) where
  fence f' hf' := by
    have hne : f' ≠ f := by
      rintro rfl
      exact hf' hf
    exact make_ne hne
  free _ := id
  under _ _ _ := Or.inl

theorem Spares.destroy (h : g₀.Spares g) (hf : g₀.fence f = none) : g₀.Spares (g.destroy f) where
  fence f' hf' := by
    have hne : f' ≠ f := by
      rintro rfl
      exact hf' hf
    exact (destroy_ne hne).trans (h.fence f' hf')
  free b hb := by simp [Guards.destroy, h.free b hb]
  under b f' hf' hb := by
    have hne : f' ≠ f := by
      rintro rfl
      exact hf' hf
    rcases h.under b f' hf' hb with hunder | hfree
    · exact Or.inl (by simp [Guards.destroy, hunder, hne])
    · exact Or.inr (by simp [Guards.destroy, hfree])

theorem spares_openPool (pool : Handle .pool) : g.Spares (g.openPool pool) :=
  ⟨fun _ _ => rfl, fun _ => id, fun _ _ _ => Or.inl⟩

theorem spares_allot (pool : Handle .pool) (bs : List CommandBuffer) :
    g.Spares (g.allot pool bs) where
  fence _ _ := rfl
  free b hb := by simp [allot, hb]
  under b f _ hb := by
    by_cases hmem : b ∈ bs
    · exact Or.inr (if_pos hmem)
    · exact Or.inl ((if_neg hmem).trans hb)

/-- A fence that has no place gets one where there was none. -/
theorem Orderly.fill (h : g.Orderly ready fence buffer) (hp : fence p = none)
    (hf : ∀ q, fence q ≠ some f) (hs : g.fence f = some s)
    (hr : ready' → p = .acquire ∧ s = .unsignaled ∨ p ≠ .acquire ∧ ready) :
    g.Orderly ready' (Function.update fence p (some f)) buffer where
  live q f' hq := by
    rcases update_some hq with ⟨-, rfl⟩ | ⟨-, hq⟩
    · simp [hs]
    · exact h.live q f' hq
  apart q q' f' hq hq' := by
    rcases update_some hq with ⟨hqp, rfl⟩ | ⟨-, hold⟩
    · rcases update_some hq' with ⟨hqp', -⟩ | ⟨-, hold'⟩
      · exact hqp.trans hqp'.symm
      · exact absurd hold' (hf q')
    · rcases update_some hq' with ⟨-, rfl⟩ | ⟨-, hold'⟩
      · exact absurd hold (hf q)
      · exact h.apart q q' f' hold hold'
  single := h.single
  guarded t i b hb := by
    rcases h.guarded t i b hb with hfree | ⟨f', hf', hunder⟩
    · exact Or.inl hfree
    · have hne : Post.work t i ≠ p := by
        rintro rfl
        rw [hp] at hf'
        cases hf'
      exact Or.inr ⟨f', (Function.update_of_ne hne _ _).trans hf', hunder⟩
  acquire hr' := by
    rcases hr hr' with ⟨rfl, rfl⟩ | ⟨hne, hready⟩
    · exact ⟨f, Function.update_self _ _ _, hs⟩
    · obtain ⟨f', hf', hstands⟩ := h.acquire hready
      exact ⟨f', (Function.update_of_ne hne.symm _ _).trans hf', hstands⟩

theorem Orderly.make (h : g.Orderly ready fence buffer) (hp : fence p = none)
    (hf : g.fence f = none) (s : Signal)
    (hr : ready' → p = .acquire ∧ s = .unsignaled ∨ p ≠ .acquire ∧ ready) :
    (g.make f s).Orderly ready' (Function.update fence p (some f)) buffer := by
  apply (h.spared (spares_make hf s)).fill hp _ (Function.update_self _ _ _) hr
  intro q hq
  exact h.live q f hq hf

/-- A place becomes vacant whose fence guards nothing. -/
theorem Orderly.vacate {t : Transition} {i : Nat} (h : g.Orderly ready fence buffer)
    (hidle : ∀ b, buffer t i = some b → g.duty b = .free) :
    g.Orderly ready (Function.update fence (.work t i) none) buffer := by
  have hplace : ∀ {q f'}, Function.update fence (.work t i) none q = some f' →
      fence q = some f' := by
    intro q f' hq
    have hne : q ≠ .work t i := by
      rintro rfl
      simp at hq
    rwa [Function.update_of_ne hne] at hq
  refine ⟨fun q f' hq => h.live q f' (hplace hq), ?_, h.single, ?_, ?_⟩
  · intro q q' f' hq hq'
    exact h.apart q q' f' (hplace hq) (hplace hq')
  · intro t' i' b hb
    by_cases hsame : Post.work t' i' = .work t i
    · cases hsame
      exact Or.inl (hidle b hb)
    · rcases h.guarded t' i' b hb with hfree | ⟨f', hf', hunder⟩
      · exact Or.inl hfree
      · exact Or.inr ⟨f', (Function.update_of_ne hsame _ _).trans hf', hunder⟩
  · intro hr
    obtain ⟨f', hf', hstands⟩ := h.acquire hr
    exact ⟨f', (Function.update_of_ne (Post.work_ne_acquire t i).symm _ _).trans hf', hstands⟩

/-- A fence goes that has no place. -/
theorem Orderly.destroy (h : g.Orderly ready fence buffer) (hf : ∀ p, fence p ≠ some f) :
    (g.destroy f).Orderly ready fence buffer := by
  have hother : ∀ {q f'}, fence q = some f' → f' ≠ f := by
    rintro q f' hq rfl
    exact hf q hq
  refine ⟨?_, h.apart, h.single, ?_, ?_⟩
  · intro q f' hq
    rw [destroy_ne (hother hq)]
    exact h.live q f' hq
  · intro t i b hb
    rcases h.guarded t i b hb with hfree | ⟨f', hf', hunder⟩
    · exact Or.inl (by simp [Guards.destroy, hfree])
    · exact Or.inr ⟨f', hf', by simp [Guards.destroy, hunder, hother hf']⟩
  · intro hr
    obtain ⟨f', hf', hstands⟩ := h.acquire hr
    exact ⟨f', hf', (destroy_ne (hother hf')).trans hstands⟩

/-- A fence goes from its place, where it guards nothing. -/
theorem Orderly.discard {t : Transition} {i : Nat} (h : g.Orderly ready fence buffer)
    (hp : fence (.work t i) = some f) (hidle : ∀ b, buffer t i = some b → g.duty b = .free) :
    (g.destroy f).Orderly ready (Function.update fence (.work t i) none) buffer := by
  apply (h.vacate hidle).destroy
  intro q hq
  by_cases hsame : q = .work t i
  · subst hsame
    simp at hq
  · rw [Function.update_of_ne hsame] at hq
    exact hsame (h.apart q _ f hq hp)

end Guards

/-- A buffer is allocated or submitted. -/
def Renews (b : CommandBuffer) : Event interface → Prop
  | .asked (.submit _ b' _ _) (.ok _) => b' = b
  | .asked (.allocate ..) (.ok bs) => b ∈ bs
  | _ => False

instance (b : CommandBuffer) : DecidablePred (Renews b) := by
  intro e
  unfold Renews
  split
  · infer_instance
  · infer_instance
  · infer_instance

def Waits (f : Handle .fence) : Event interface → Prop
  | .asked (.waitForFence _ fence) (.ok _) => fence = some f
  | _ => False

def Ends (f : Handle .fence) : Event interface → Prop
  | .asked (.destroy .fence _ fence) _ => fence = some f
  | _ => False

/-- How the fences and buffers stand after some events, if there was none before. -/
def guards (events : List (Event interface)) : Guards := guarding.after .initial events

/-- No fence is given away that is in use, and no buffer is submitted again before its submission
was waited for. -/
structure Disciplined (events : List (Event interface)) : Prop where
  submits : ∀ (n : Nat) queue b signal f a,
    events[n]? = some (.asked (.submit queue b signal f) a) →
    (guards (events.take n)).fence f = some .unsignaled
  acquires : ∀ (n : Nat) device handle fence a,
    events[n]? = some (.asked (.acquire device handle fence) a) →
    ∃ f, fence = some f ∧ (guards (events.take n)).fence f = some .unsignaled
  waits : ∀ before queue b signal f u between queue' signal' f' a later,
    events = before ++ .asked (.submit queue b signal f) (.ok u) ::
      (between ++ .asked (.submit queue' b signal' f') a :: later) →
    (∀ e ∈ between, ¬ Renews b e) →
    ∃ first e rest, between = first ++ e :: rest ∧ Waits f e ∧ ∀ e' ∈ first, ¬ Ends f e'

section

variable {g : Guards} {b : CommandBuffer} {f : Handle .fence} {e : Event interface}
  {between events : List (Event interface)}

/-- What does not concern a buffer or the fence it is under leaves it as it stands. -/
theorem see_duty (he : ¬ Renews b e)
    (hfence : ∀ f, g.duty b = .under f → ¬ Waits f e ∧ ¬ Ends f e) :
    (g.see e).duty b = g.duty b := by
  unfold Guards.see
  split
  · rfl
  · rename_i f _
    have hother : g.duty b ≠ .under f := fun hunder => (hfence f hunder).2 rfl
    exact if_neg hother
  · rename_i f _
    have hother : g.duty b ≠ .under f := fun hunder => (hfence f hunder).1 rfl
    exact if_neg hother
  · rfl
  · rename_i b' _ _ _
    have hother : b ≠ b' := fun heq => he heq.symm
    exact Function.update_of_ne hother _ _
  · rfl
  · rfl
  · exact if_neg he
  · rfl

theorem see_ends (h : g.duty b = .under f) (hends : Ends f e) : (g.see e).duty b = .stranded := by
  unfold Ends at hends
  split at hends
  · subst hends
    exact if_pos h
  · exact hends.elim

theorem see_stranded (h : g.duty b = .stranded) (he : ¬ Renews b e) :
    (g.see e).duty b = .stranded := by
  rw [see_duty he, h]
  intro f hunder
  rw [h] at hunder
  cases hunder

theorem after_stranded (h : g.duty b = .stranded) (hbetween : ∀ e ∈ between, ¬ Renews b e) :
    (guarding.after g between).duty b = .stranded := by
  induction between generalizing g with
  | nil => exact h
  | cons e rest ih =>
    exact ih (see_stranded h (hbetween e (by simp))) fun e' he' => hbetween e' (by simp [he'])

/-- A buffer becomes free only when its fence was waited for, while that was still the same. -/
theorem waits_of_free (h : g.duty b = .under f) (hbetween : ∀ e ∈ between, ¬ Renews b e)
    (hfree : (guarding.after g between).duty b = .free) :
    ∃ first e rest, between = first ++ e :: rest ∧ Waits f e ∧ ∀ e' ∈ first, ¬ Ends f e' := by
  induction between generalizing g with
  | nil =>
    have hunder : g.duty b = .free := hfree
    rw [h] at hunder
    cases hunder
  | cons e rest ih =>
    have hrest : ∀ e' ∈ rest, ¬ Renews b e' := fun e' he' => hbetween e' (by simp [he'])
    by_cases hwaits : Waits f e
    · exact ⟨[], e, rest, rfl, hwaits, by simp⟩
    · -- If the fence went first, the buffer would be stranded and could not have become free.
      have hends : ¬ Ends f e := by
        intro hends
        have hlost : (guarding.after (g.see e) rest).duty b = .stranded :=
          after_stranded (see_ends h hends) hrest
        have hfound : (guarding.after (g.see e) rest).duty b = .free := hfree
        rw [hlost] at hfound
        cases hfound
      have hunder : (g.see e).duty b = .under f := by
        rw [see_duty (hbetween e (by simp)), h]
        intro f' hunder
        rw [h] at hunder
        cases hunder
        exact ⟨hwaits, hends⟩
      obtain ⟨first, e', rest', rfl, hwaits', hfirst⟩ := ih hunder hrest hfree
      refine ⟨e :: first, e', rest', rfl, hwaits', ?_⟩
      intro e'' he''
      rcases List.mem_cons.mp he'' with rfl | he''
      · exact hends
      · exact hfirst e'' he''

theorem disciplined_of_allows (h : guarding.Allows .initial events) : Disciplined events where
  submits n queue b signal f a hn := (h n _ a hn).1
  acquires n device handle fence a hn := h n _ a hn
  waits := by
    intro before queue b signal f u between queue' signal' f' a later heq hbetween
    obtain ⟨submitted, hsubmitted⟩ : ∃ submitted, submitted =
      before ++ [.asked (.submit queue b signal f) (.ok u)] := ⟨_, rfl⟩
    have hunder : (guards submitted).duty b = .under f := by
      rw [hsubmitted, guards, Watch.after_append]
      exact Function.update_self _ _ _
    have hsplit : events =
        submitted ++ between ++ .asked (.submit queue' b signal' f') a :: later := by
      simp [heq, hsubmitted]
    have hallowed := h (submitted ++ between).length (.submit queue' b signal' f') a
      (by simp [hsplit])
    rw [hsplit, List.take_left, Watch.after_append] at hallowed
    exact waits_of_free hunder hbetween hallowed.2

end

end Presentation.Vulkan
