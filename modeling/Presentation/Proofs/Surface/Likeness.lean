import Presentation.Proofs.Likeness
import Presentation.Surface.Command

/-!
# Surfaces that differ in their generations

Two surfaces are alike if nothing tells them apart but a constant between their
generations. Operations keep them alike, and their replies are alike.
-/

set_option autoImplicit false

namespace Presentation

variable {d : Int}

structure SurfaceImage.Like (d : Int) (i j : SurfaceImage) : Prop where
  index : i.index = j.index
  generation : (j.generation : Int) = i.generation + d
  info : i.info = j.info

structure ActiveConfig.Like (d : Int) (a b : ActiveConfig) : Prop where
  config : a.config = b.config
  images : a.pool.images = b.pool.images
  generation : (b.pool.generation : Int) = a.pool.generation + d
  acquired : a.acquired = b.acquired
  stale : a.stale = b.stale

namespace Surface

structure Like (d : Int) (s t : Surface) : Prop where
  info : s.info = t.info
  active : Option.Rel (ActiveConfig.Like d) s.active t.active
  lastConfig : s.lastConfig = t.lastConfig
  generation : (t.generation : Int) = s.generation + d

/-- Equal, or images that differ in their generations. -/
def LikeImages (d : Int) : Except Error SurfaceImage → Except Error SurfaceImage → Prop
  | .ok i, .ok j => i.Like d j
  | .error e, .error e' => e = e'
  | _, _ => False

def Reply.Like (d : Int) : Reply → Reply → Prop
  | .unit r, .unit r' => r = r'
  | .image r, .image r' => LikeImages d r r'
  | .info r, .info r' => r = r'
  | .current i, .current j => Option.Rel (SurfaceImage.Like d) i j
  | _, _ => False

/-- Outcomes with results and surfaces that are alike. -/
def LikeOutcome {α : Type} (d : Int) (R : Except Error α → Except Error α → Prop)
    (r r' : Outcome α) : Prop := R r.1 r'.1 ∧ r.2.Like d r'.2

variable {s t : Surface}

namespace Like

/-- Both are unconfigured, or both are configured alike. -/
theorem actives (h : s.Like d t) : s.active = none ∧ t.active = none ∨
    ∃ a b, s.active = some a ∧ t.active = some b ∧ a.Like d b := by
  have hactive := h.active
  cases hs : s.active with
  | none =>
    cases ht : t.active with
    | none => exact Or.inl ⟨rfl, rfl⟩
    | some b =>
      rw [hs, ht] at hactive
      cases hactive
  | some a =>
    cases ht : t.active with
    | none =>
      rw [hs, ht] at hactive
      cases hactive
    | some b =>
      rw [hs, ht] at hactive
      cases hactive with
      | some hab => exact Or.inr ⟨a, b, rfl, rfl, hab⟩

theorem config (h : s.Like d t) : s.config = t.config := by
  rcases h.actives with ⟨hs, ht⟩ | ⟨a, b, hs, ht, hab⟩
  · rw [Surface.config, Surface.config, hs, ht]
  · rw [Surface.config, Surface.config, hs, ht]
    exact congrArg some hab.config

theorem isConfigured (h : s.Like d t) : s.isConfigured = t.isConfigured := by
  rcases h.actives with ⟨hs, ht⟩ | ⟨a, b, hs, ht, hab⟩
  · rw [Surface.isConfigured, Surface.isConfigured, hs, ht]
  · rw [Surface.isConfigured, Surface.isConfigured, hs, ht]
    rfl

theorem acquired (h : s.Like d t) : s.acquired = t.acquired := by
  rcases h.actives with ⟨hs, ht⟩ | ⟨a, b, hs, ht, hab⟩
  · rw [Surface.acquired, Surface.acquired, hs, ht]
  · rw [Surface.acquired, Surface.acquired, hs, ht]
    exact hab.acquired

theorem imageCount (h : s.Like d t) : s.imageCount = t.imageCount := by
  rcases h.actives with ⟨hs, ht⟩ | ⟨a, b, hs, ht, hab⟩
  · rw [Surface.imageCount, Surface.imageCount, hs, ht]
  · rw [Surface.imageCount, Surface.imageCount, hs, ht]
    exact congrArg List.length hab.images

theorem currentImage (h : s.Like d t) :
    Option.Rel (SurfaceImage.Like d) s.currentImage t.currentImage := by
  unfold Surface.currentImage
  rcases h.actives with ⟨hs, ht⟩ | ⟨a, b, hs, ht, hab⟩
  · rw [hs, ht]
    exact .none
  · simp only [hs, ht, Option.bind_eq_bind, Option.bind_some, hab.acquired, hab.images]
    cases b.acquired with
    | none => exact .none
    | some index =>
      simp only [Option.bind_some]
      cases b.pool.images[index]? with
      | none => exact .none
      | some texture => exact .some ⟨rfl, hab.generation, rfl⟩

theorem withActive (h : s.Like d t) {a b : Option ActiveConfig}
    (hab : Option.Rel (ActiveConfig.Like d) a b) :
    { s with active := a }.Like d { t with active := b } :=
  ⟨h.info, hab, h.lastConfig, h.generation⟩

theorem withInfo (h : s.Like d t) (info : SurfaceInfo) :
    { s with info }.Like d { t with info } := ⟨rfl, h.active, h.lastConfig, h.generation⟩

theorem released (h : s.Like d t) : s.released.Like d t.released := by
  apply h.withActive
  rcases h.actives with ⟨hs, ht⟩ | ⟨a, b, hs, ht, hab⟩
  · rw [hs, ht]
    exact .none
  · rw [hs, ht]
    exact .some ⟨hab.config, hab.images, hab.generation, rfl, hab.stale⟩

end Like

/-- A configuration leaves nothing of what surfaces had but their snapshots and generations. -/
theorem like_adopt (hinfo : s.info = t.info)
    (hgeneration : (t.generation : Int) = s.generation + d) (config : SurfaceConfig)
    (images : List Texture) : (s.adopt config images).Like d (t.adopt config images) := by
  have hnext : ((t.generation + 1 : Nat) : Int) = (s.generation + 1 : Nat) + d := by omega
  exact ⟨hinfo, .some ⟨rfl, rfl, hnext, rfl, rfl⟩, rfl, hnext⟩

theorem refreshAfterTransition_alike (h : s.Like d t) :
    s.refreshAfterTransition.Alike (Like d) t.refreshAfterTransition := by
  apply (Program.alike_call _).andThen
  rintro (e | info) _ rfl
  · exact (Program.alike_log _ _).andThen fun _ _ _ => .done h
  · exact .done (h.withInfo info)

theorem configure_alike (h : s.Like d t) (config : SurfaceConfig) :
    (s.configure config).Alike (LikeOutcome d Eq) (t.configure config) := by
  unfold configure
  rw [h.info]
  cases config.validate t.info with
  | error e => exact (Program.alike_log _ _).andThen fun _ _ _ => .done ⟨rfl, h⟩
  | ok desc =>
    apply Program.alike_logIf
    apply (Program.alike_call _).andThen
    rintro (e | done) _ rfl
    · exact .done ⟨rfl, h⟩
    · apply (Program.alike_call _).andThen
      rintro images _ rfl
      apply Program.alike_logIf
      apply Program.alike_logIf
      apply (Program.alike_log _ _).andThen
      intro _ _ _
      apply (refreshAfterTransition_alike
        (like_adopt h.info h.generation config images)).andThen
      intro s t h
      exact .done ⟨rfl, h⟩

theorem unconfigure_alike (h : s.Like d t) : s.unconfigure.Alike (Like d) t.unconfigure := by
  unfold unconfigure
  rw [h.isConfigured]
  split
  · apply Program.alike_logIf
    apply (Program.alike_call _).andThen
    intro _ _ _
    apply (refreshAfterTransition_alike (h.withActive .none)).andThen
    intro s t h
    exact (Program.alike_log _ _).andThen fun _ _ _ => .done h
  · exact .done h

theorem resize_alike (h : s.Like d t) (width height : UInt32) :
    (s.resize width height).Alike (LikeOutcome d Eq) (t.resize width height) := by
  unfold resize
  split
  · apply (unconfigure_alike h).andThen
    intro s t h
    exact .done ⟨rfl, h⟩
  · rw [h.config, h.lastConfig]
    split
    · exact .done ⟨rfl, h⟩
    · exact configure_alike h _

theorem acquireNextImage_alike (h : s.Like d t) :
    s.acquireNextImage.Alike (LikeOutcome d (LikeImages d)) t.acquireNextImage := by
  unfold acquireNextImage
  rcases h.actives with ⟨hs, ht⟩ | ⟨a, b, hs, ht, hab⟩
  · rw [hs, ht]
    exact (Program.alike_log _ _).andThen fun _ _ _ => .done ⟨rfl, h⟩
  · rw [hs, ht]
    simp only [hab.acquired, hab.stale]
    cases b.acquired with
    | some held => exact (Program.alike_log _ _).andThen fun _ _ _ => .done ⟨rfl, h⟩
    | none =>
      dsimp only
      split
      · exact (Program.alike_log _ _).andThen fun _ _ _ => .done ⟨rfl, h⟩
      · apply (Program.alike_call _).andThen
        rintro (e | index) _ rfl
        · cases e with
          | _ => exact (Program.alike_log _ _).andThen fun _ _ _ => .done ⟨rfl, h⟩
        · simp only [hab.images]
          cases b.pool.images[index]? with
          | none =>
            apply (Program.alike_log _ _).andThen
            intro _ _ _
            exact .done ⟨rfl, h.withActive
              (.some ⟨hab.config, hab.images, hab.generation, rfl, rfl⟩)⟩
          | some texture =>
            apply (Program.alike_log _ _).andThen
            intro _ _ _
            exact .done ⟨⟨rfl, hab.generation, rfl⟩, h.withActive
              (.some ⟨hab.config, hab.images, hab.generation, rfl, rfl⟩)⟩

theorem present_alike (h : s.Like d t) :
    s.present.Alike (LikeOutcome d Eq) t.present := by
  unfold present
  rw [h.acquired]
  cases t.acquired with
  | none => exact (Program.alike_log _ _).andThen fun _ _ _ => .done ⟨rfl, h⟩
  | some index =>
    apply (Program.alike_call _).andThen
    rintro (e | done) _ rfl
    · cases e with
      | outOfDateSurface =>
        exact (Program.alike_log _ _).andThen fun _ _ _ => .done ⟨rfl, h.released⟩
      | _ => exact (Program.alike_log _ _).andThen fun _ _ _ => .done ⟨rfl, h⟩
    · exact (Program.alike_log _ _).andThen fun _ _ _ => .done ⟨rfl, h.released⟩

theorem refreshInfo_alike (h : s.Like d t) :
    s.refreshInfo.Alike (LikeOutcome d Eq) t.refreshInfo := by
  apply (Program.alike_call _).andThen
  rintro (e | info) _ rfl
  · exact .done ⟨rfl, h⟩
  · exact .done ⟨rfl, h.withInfo info⟩

/-- Surfaces that are alike perform alike. -/
theorem perform_alike (h : s.Like d t) (op : Op) :
    (s.perform op).Alike (fun r r' => r.1.Like d r'.1 ∧ r.2.Like d r'.2) (t.perform op) := by
  cases op with
  | configure config =>
    exact (configure_alike h config).andThen fun _ _ hr => .done hr
  | resize width height =>
    exact (resize_alike h width height).andThen fun _ _ hr => .done hr
  | unconfigure =>
    exact (unconfigure_alike h).andThen fun _ _ hr => .done ⟨rfl, hr⟩
  | acquire =>
    exact (acquireNextImage_alike h).andThen fun _ _ hr => .done hr
  | present =>
    exact (present_alike h).andThen fun _ _ hr => .done hr
  | refresh =>
    exact (refreshInfo_alike h).andThen fun _ _ hr => .done hr
  | current => exact .done ⟨h.currentImage, h⟩

end Surface

end Presentation
