import Presentation.Proofs.Surface.Act
import Presentation.Proofs.Surface.Likeness

/-!
# Runs of a surface in episodes

A run of a surface is a sequence of episodes, one for each operation. An image
that an episode hands to the application is of the pool that the last
configuration brought, so it is as the images of that pool were made.
-/

set_option autoImplicit false

namespace Presentation.Surface

/-- An operation as it went, and what happened meanwhile. -/
structure Episode (I : Interface) where
  op : Op
  before : Surface
  reply : Reply
  after : Surface
  events : List (Event I)

variable {I : Interface}

instance : DecidablePred Op.Minimises
  | .unconfigure => .isTrue trivial
  | .resize width height => inferInstanceAs (Decidable (width = 0 ∨ height = 0))
  | .configure _ | .acquire | .present | .refresh | .current => .isFalse id

namespace Episode

/-- What an application sees of two episodes is the same, but for generations. -/
structure Like (d : Int) (e e' : Episode I) : Prop where
  op : e.op = e'.op
  reply : e.reply.Like d e'.reply
  config : e.after.config = e'.after.config
  info : e.after.info = e'.after.info
  imageCount : e.after.imageCount = e'.after.imageCount
  currentImage : Option.Rel (SurfaceImage.Like d) e.after.currentImage e'.after.currentImage
  generation : (e'.after.generation : Int) = e.after.generation + d

theorem like_of_surfaces {d : Int} {e e' : Episode I} (hop : e.op = e'.op)
    (hreply : e.reply.Like d e'.reply) (h : e.after.Like d e'.after) : e.Like d e' :=
  ⟨hop, hreply, h.config, h.info, h.imageCount, h.currentImage, h.generation⟩

/-- A configuration that succeeded, and what it was of. -/
def Configures (e : Episode I) (desc : SwapchainDesc) : Prop :=
  e.reply = .unit (.ok ()) ∧ ∃ config, e.before.requested e.op = some config ∧
    config.validate e.before.info = .ok desc

/-- The application is handed an image. -/
def Shows (e : Episode I) (image : SurfaceImage) : Prop :=
  e.reply = .image (.ok image) ∨ e.reply = .current (some image)

/-- Each goes on with the surface that the one before has left. -/
def Linked : Surface → List (Episode I) → Prop
  | _, [] => True
  | s, e :: es => e.before = s ∧ Linked e.after es

/-- The last configuration that succeeded. -/
def Last (past : List (Episode I)) (e : Episode I) (desc : SwapchainDesc) : Prop :=
  ∃ before rest, past = before ++ e :: rest ∧ e.Configures desc ∧
    ∀ e' ∈ rest, ∀ desc', ¬ e'.Configures desc'

variable {made : Episode I → SwapchainDesc → TextureInfo → Prop} {e e' : Episode I}
  {es past : List (Episode I)} {s : Surface} {image : SurfaceImage} {desc : SwapchainDesc}

theorem last_append (hidle : ∀ desc, ¬ e'.Configures desc) :
    Last (past ++ [e']) e desc ↔ Last past e desc := by
  constructor
  · rintro ⟨before, rest, heq, hconfigures, hrest⟩
    rcases List.eq_nil_or_concat rest with rfl | ⟨rest, last, rfl⟩
    · obtain ⟨-, hlast⟩ := List.append_inj' heq rfl
      cases hlast
      exact absurd hconfigures (hidle desc)
    · rw [List.concat_eq_append, ← List.cons_append, ← List.append_assoc] at heq
      obtain ⟨rfl, -⟩ := List.append_inj' heq rfl
      exact ⟨before, rest, rfl, hconfigures, fun e he => hrest e (by simp [he])⟩
  · rintro ⟨before, rest, rfl, hconfigures, hrest⟩
    refine ⟨before, rest ++ [e'], by simp, hconfigures, ?_⟩
    intro e he
    rcases List.mem_append.mp he with he | he
    · exact hrest e he
    · cases List.mem_singleton.mp he
      exact hidle

/-- The swapchain that there was before is there no longer: a configuration succeeded, or the
surface was configured and is so no more. -/
def ends (e : Episode I) : Bool :=
  if e.op.Minimises then e.before.isConfigured
  else
    match e.reply with
    | .unit (.ok ()) => (e.before.requested e.op).isSome
    | _ => false

theorem ends_of_minimises (h : e.op.Minimises) : e.ends = e.before.isConfigured := if_pos h

theorem ends_of_requested {config : SurfaceConfig} (h : e.before.requested e.op = some config)
    (hreply : e.reply = .unit (.ok ())) : e.ends = true := by
  rw [ends, if_neg (not_minimises h), hreply, h]
  rfl

theorem not_ends (hop : ¬ e.op.Minimises)
    (h : e.reply = .unit (.ok ()) → e.before.requested e.op = none) : e.ends = false := by
  rw [ends, if_neg hop]
  split
  · rename_i hreply
    rw [h hreply]
    rfl
  · rfl

theorem not_configures (h : e.reply = .unit (.ok ()) → e.before.requested e.op = none)
    (desc : SwapchainDesc) : ¬ e.Configures desc := by
  rintro ⟨hreply, config, hrequested, -⟩
  cases (h hreply).symm.trans hrequested

/-- An episode is one of acting, and the images that a configuration brings are made for it. -/
def Sound (made : Episode I → SwapchainDesc → TextureInfo → Prop) (e : Episode I) : Prop :=
  ∃ calls, e.before.Acts e.op calls e.reply e.after ∧
    ∀ desc images info, calls = [.asked (.configure desc) (.ok ()), .asked .images images,
      .asked .queryInfo info] → ∀ texture ∈ images, made e desc texture.info

/-- The pool of a surface is what the last configuration has brought. -/
def Supplied (made : Episode I → SwapchainDesc → TextureInfo → Prop) (past : List (Episode I))
    (s : Surface) : Prop :=
  ∀ active, s.active = some active → active.pool.generation = s.generation ∧
    ∃ e desc, Last past e desc ∧ ∀ texture ∈ active.pool.images, made e desc texture.info

namespace Sound

theorem generation_lt (h : e.Sound made) (hconfigures : e.Configures desc) :
    e.before.generation < e.after.generation := by
  obtain ⟨calls, hacts, -⟩ := h
  obtain ⟨hreply, config, hrequested, -⟩ := hconfigures
  rcases hacts.brings_or_retains with ⟨_, _, images, info, -, -, -, -, hafter⟩ | ⟨hnone, -⟩
  · rw [hafter]
    cases info with
    | error error => exact Nat.lt_succ_self _
    | ok info => exact Nat.lt_succ_self _
  · cases (hnone hreply).symm.trans hrequested

theorem generation_le (h : e.Sound made) : e.before.generation ≤ e.after.generation := by
  obtain ⟨calls, hacts, hmade⟩ := h
  rcases hacts.brings_or_retains with ⟨_, _, _, _, hrequested, hdesc, -, hreply, -⟩ | ⟨-, hretains⟩
  · exact Nat.le_of_lt (generation_lt ⟨calls, hacts, hmade⟩ ⟨hreply, _, hrequested, hdesc⟩)
  · exact Nat.le_of_eq hretains.generation.symm

/-- Whatever goes on in an episode, the pool stays that of the last configuration. -/
theorem supplied (h : e.Sound made) (hsupplied : Supplied made past e.before) :
    Supplied made (past ++ [e]) e.after := by
  obtain ⟨calls, hacts, hmade⟩ := h
  intro active hactive
  rcases hacts.brings_or_retains with
    ⟨config, desc, images, info, hrequested, hdesc, hcalls, hreply, hafter⟩ | ⟨hnone, hretains⟩
  · have hlast : Last (past ++ [e]) e desc :=
      ⟨past, [], rfl, ⟨hreply, config, hrequested, hdesc⟩, by simp⟩
    have hpool : active.pool = ⟨images, e.before.generation + 1⟩ ∧
        e.after.generation = e.before.generation + 1 := by
      rw [hafter] at hactive ⊢
      cases info with
      | error error =>
        cases hactive
        exact ⟨rfl, rfl⟩
      | ok info =>
        cases hactive
        exact ⟨rfl, rfl⟩
    rw [hpool.1, hpool.2]
    exact ⟨rfl, e, desc, hlast, hmade desc images info hcalls⟩
  · have hidle : ∀ desc, ¬ e.Configures desc := by
      rintro desc ⟨hreply, config, hrequested, -⟩
      cases (hnone hreply).symm.trans hrequested
    obtain ⟨old, hold, hpool⟩ := hretains.pool active hactive
    obtain ⟨hgeneration, e₀, desc, hlast, hinfo⟩ := hsupplied old hold
    rw [hpool, hretains.generation]
    exact ⟨hgeneration, e₀, desc, (last_append hidle).mpr hlast, hinfo⟩

end Sound

/-- What is shown to an application is true of its swapchain. -/
structure Truthful (made : Episode I → SwapchainDesc → TextureInfo → Prop)
    (es : List (Episode I)) : Prop where
  /-- An image is one of the current pool, and as the last configuration has made it. -/
  described : ∀ before e rest image, es = before ++ e :: rest → e.Shows image →
    image.index < e.after.imageCount ∧ image.generation = e.after.generation ∧
      ∃ e₀ desc, Last before e₀ desc ∧ made e₀ desc image.info
  /-- Images between which there was a configuration have different generations. -/
  apart : ∀ before e between e' rest image image',
    es = before ++ e :: (between ++ e' :: rest) → e.Shows image → e'.Shows image' →
      (∃ c ∈ between, ∃ desc, c.Configures desc) → image.generation < image'.generation

theorem truthful_nil : Truthful made [] := by
  constructor
  · intro before e rest image heq
    simp at heq
  · intro before e between e' rest image image' heq
    simp at heq

theorem Sound.described (h : e.Sound made) (hsupplied : Supplied made past e.before)
    (hshows : e.Shows image) :
    image.index < e.after.imageCount ∧ image.generation = e.after.generation ∧
      ∃ e₀ desc, Last past e₀ desc ∧ made e₀ desc image.info := by
  have hafter := h.supplied hsupplied
  obtain ⟨calls, hacts, -⟩ := h
  obtain ⟨active, texture, hactive, htexture, hgeneration, hinfo⟩ := hacts.contains hshows
  obtain ⟨hlt, heq⟩ := List.getElem?_eq_some_iff.mp htexture
  obtain ⟨hpool, e₀, desc, hlast, hmade⟩ := hafter active hactive
  have hidle : ∀ desc, ¬ e.Configures desc := by
    rintro desc ⟨hreply, -⟩
    rcases hshows with hshows | hshows <;> cases hreply.symm.trans hshows
  refine ⟨?_, hgeneration.trans hpool, e₀, desc, (last_append hidle).mp hlast, ?_⟩
  · rw [imageCount, hactive]
    exact hlt
  · rw [hinfo]
    exact hmade texture (List.mem_of_getElem? htexture)

theorem linked_append {s : Surface} {before rest : List (Episode I)}
    (h : Linked s (before ++ e :: rest)) : Linked e.after rest := by
  induction before generalizing s with
  | nil => exact h.2
  | cons _ before ih => exact ih h.2

/-- Generations never go back. -/
theorem generation_le_of_linked {rest : List (Episode I)}
    (hlinked : Linked s (es ++ e :: rest)) (hsound : ∀ e' ∈ es, e'.Sound made) :
    s.generation ≤ e.before.generation := by
  induction es generalizing s with
  | nil => exact Nat.le_of_eq (congrArg Surface.generation hlinked.1.symm)
  | cons e' es ih =>
    obtain ⟨rfl, hlinked⟩ := hlinked
    have hfirst := (hsound e' List.mem_cons_self).generation_le
    exact Nat.le_trans hfirst (ih hlinked fun e he => hsound e (List.mem_cons_of_mem _ he))

theorem supplied_of_linked {before rest : List (Episode I)}
    (hlinked : Linked s (before ++ e :: rest)) (hsound : ∀ e' ∈ before, e'.Sound made)
    (hsupplied : Supplied made past s) : Supplied made (past ++ before) e.before := by
  induction before generalizing s past with
  | nil =>
    rw [List.append_nil]
    exact hlinked.1 ▸ hsupplied
  | cons e' before ih =>
    obtain ⟨rfl, hlinked⟩ := hlinked
    have hnext := (hsound e' List.mem_cons_self).supplied hsupplied
    have hrest := ih hlinked (fun e he => hsound e (List.mem_cons_of_mem _ he)) hnext
    rwa [List.append_assoc] at hrest

/-- A run from an unconfigured surface on, each episode of which is sound, is truthful. -/
theorem truthful_of_linked (hlinked : Linked s es) (hs : s.active = none)
    (hsound : ∀ e ∈ es, e.Sound made) : Truthful made es := by
  have hnone : Supplied made [] s := by
    intro active hactive
    cases hs.symm.trans hactive
  have hdescribed : ∀ before e rest image, es = before ++ e :: rest → e.Shows image →
      image.index < e.after.imageCount ∧ image.generation = e.after.generation ∧
        ∃ e₀ desc, Last before e₀ desc ∧ made e₀ desc image.info := by
    rintro before e rest image rfl hshows
    have hsupplied := supplied_of_linked hlinked (fun e he => hsound e (by simp [he])) hnone
    exact (hsound e (by simp)).described hsupplied hshows
  refine ⟨hdescribed, ?_⟩
  rintro before e between e' rest image image' rfl hshows hshows' ⟨c, hc, desc, hconfigures⟩
  obtain ⟨first, second, rfl⟩ := List.append_of_mem hc
  have hgeneration := (hdescribed before e _ image rfl hshows).2.1
  have hgeneration' := (hdescribed (before ++ e :: (first ++ c :: second)) e' rest image'
    (by simp) hshows').2.1
  have hafter : Linked e.after (first ++ c :: (second ++ e' :: rest)) := by
    have hlinked' := linked_append hlinked
    rwa [List.append_assoc] at hlinked'
  have hle : e.after.generation ≤ c.before.generation :=
    generation_le_of_linked hafter fun e he => hsound e (by simp [he])
  have hlt : c.before.generation < c.after.generation :=
    (hsound c (by simp)).generation_lt hconfigures
  have hle' : c.after.generation ≤ e'.before.generation :=
    generation_le_of_linked (linked_append hafter) fun e he => hsound e (by simp [he])
  have hle'' : e'.before.generation ≤ e'.after.generation := (hsound e' (by simp)).generation_le
  omega

end Episode

end Presentation.Surface
