import Presentation.Proofs.Native.Stage
import Presentation.Proofs.Vulkan.Negotiation

/-!
# Where images come from

The textures of a swapchain are described by the request that it was created
for, with the size that was chosen under the capabilities read for it. So every
image that an application is handed is described by the last configuration that
succeeded, on a simulated window as on a Vulkan surface.
-/

set_option autoImplicit false

namespace Presentation.Vulkan

open Surface (Op Episode)

variable {σ : Type}

def capabilities? : Event interface → Option Capabilities
  | .asked (.capabilities ..) (.ok caps) => some caps
  | _ => none

/-- The capabilities that were read first. -/
def firstCapabilities (events : List (Event interface)) : Option Capabilities :=
  events.findSome? capabilities?

/-- A watch for the capabilities that are read first. -/
def reader : Watch interface (Option Capabilities) where
  see known e := known.or (capabilities? e)
  allows _ _ := True
  trusts _ _ _ := True
  halts := True

instance : reader.Deaf := ⟨fun _ _ => Option.or_none⟩

theorem reader_after (known : Option Capabilities) (events : List (Event interface)) :
    reader.after known events = known.or (firstCapabilities events) := by
  induction events generalizing known with
  | nil => exact Option.or_none.symm
  | cons e events ih =>
    have hrest : reader.after known (e :: events) =
        (known.or (capabilities? e)).or (firstCapabilities events) := ih _
    rw [hrest, Option.or_assoc, firstCapabilities, firstCapabilities, List.findSome?_cons]
    cases capabilities? e with
    | none => rfl
    | some caps => rfl

/-- What was read first stays what was read first. -/
theorem reader_stable {α : Type} (p : Program α) (known : Option Capabilities) :
    p.Keeps reader (fun _ known' => ∀ caps, known = some caps → known' = some caps) known := by
  apply Program.keeps_stable (P := fun known' => ∀ caps, known = some caps → known' = some caps)
    (fun _ _ => trivial) trivial
  · intro known' e h caps hcaps
    rw [h caps hcaps]
    rfl
  · exact fun _ hcaps => hcaps

/-- The description of the textures of a swapchain. -/
def describe (extent : Extent) (desc : SwapchainDesc) : TextureInfo :=
  ⟨extent.width, extent.height, desc.format, desc.usage, 1⟩

namespace Swapchain

variable {handle : Handle .swapchain} {extent : Extent} {desc : SwapchainDesc} {sc sc' : Swapchain}

/-- A swapchain with a size, with textures as a request describes them. -/
structure Described (handle : Handle .swapchain) (extent : Extent) (desc : SwapchainDesc)
    (sc : Swapchain) : Prop where
  fresh : sc.Fresh handle
  extent_eq : sc.extent = extent
  textures : ∀ texture ∈ sc.textures, texture.info = describe extent desc

theorem addTexture_described (ctx : Context) (format : FormatCode) (image : Image)
    (h : sc.Described handle extent desc) :
    (addTexture ctx format desc image).Keeps (building handle False)
      (fun _ sc _ => sc.Described handle extent desc)
      (fun _ sc _ => sc.Described handle extent desc) sc () := by
  rw [addTexture, Attempt.keeps_bind]
  apply attempt_beside (fun _ => h)
  · exact ask_beside _ trivial
  intro view
  refine ⟨h.fresh, h.extent_eq, ?_⟩
  intro texture htexture
  rcases List.mem_append.mp htexture with htexture | htexture
  · exact h.textures texture htexture
  · rw [List.mem_singleton.mp htexture, ← h.extent_eq]
    rfl

theorem addTextures_described (ctx : Context) (format : FormatCode)
    (h : sc.Described handle extent desc) :
    (addTextures ctx format desc).Keeps (building handle False)
      (fun _ sc _ => sc.Described handle extent desc)
      (fun _ sc _ => sc.Described handle extent desc) sc () := by
  rw [addTextures, Attempt.keeps_bind, Attempt.keeps_get, Attempt.keeps_bind]
  apply attempt_beside (fun _ => h)
  · exact ask_beside _ h.fresh.1
  intro images
  exact Attempt.keeps_forEach images
    (fun image _ sc _ hs => addTexture_described ctx format image hs) h

theorem build_described (ctx : Context) (terms : Terms) (h : sc.Described handle extent desc) :
    (build ctx terms desc).Keeps (building handle False)
      (fun _ sc _ => ∀ texture ∈ sc.textures, texture.info = describe extent desc)
      (fun _ _ _ => True) sc () := by
  rw [build, Attempt.keeps_bind]
  apply (addTextures_described ctx terms.format h).mono _ (fun _ _ _ _ => trivial)
  intro _ sc _ h
  simp only [Attempt.keeps_bind, Attempt.keeps_get]
  split
  · simp only [Attempt.keeps_bind, Attempt.keeps_step]
    exact refuse_keeps _ _ trivial
  · simp only [Attempt.keeps_bind]
    apply (addSync_keeps ctx sc).mono _ (fun _ _ _ _ => trivial)
    intro _ sc' _ hs
    apply (addCommands_keeps ctx sc').mono _ (fun _ _ _ _ => trivial)
    intro _ sc'' _ hc
    simp only [Attempt.keeps_step, notice, Program.keeps_log]
    rw [hc.2.1, hs.2.1]
    exact h.textures

/-- A result that, if it is a swapchain, has textures as they were asked for. -/
def Follows (desc : SwapchainDesc) (r : Except Error Swapchain) (known : Option Capabilities) :
    Prop :=
  ∀ sc, r = .ok sc → ∃ caps, known = some caps ∧
    ∀ texture ∈ sc.textures, texture.info = describe (chooseExtent caps desc.width desc.height) desc

theorem make_follows (ctx : Context) (terms : Terms) (request : SwapchainRequest)
    {caps : Capabilities} (hextent : terms.extent = chooseExtent caps desc.width desc.height) :
    (make ctx desc terms request).Keeps reader (Follows desc) (some caps) := by
  have hasked : (ask (.create (.swapchain ctx.device request))).Keeps reader
      (fun _ known => known = some caps) (some caps) :=
    ask_keeps _ trivial fun _ _ => rfl
  unfold make
  apply Program.Keeps.andThen hasked
  rintro (code | handle) _ rfl
  · apply Program.Keeps.andThen (reader_stable _ (some caps))
    rintro e _ _ _ ⟨⟩
  · have hbare : (bare handle terms.extent).Described handle terms.extent desc :=
      ⟨bare_fresh handle terms.extent, rfl, by simp [bare]⟩
    have hbears : reader.Bears (Call.Builds handle) fun known => known = some caps := by
      rintro c _ _ rfl
      exact ⟨trivial, fun _ _ => rfl⟩
    apply Program.Keeps.andThen
      (attempt_bears hbears trivial (build_described ctx terms hbare) rfl)
    rintro ⟨e | ⟨⟨⟩⟩, sc⟩ known hbuilt
    · obtain ⟨-, rfl⟩ := hbuilt
      apply Program.Keeps.andThen (reader_stable _ (some caps))
      rintro _ _ _ _ ⟨⟩
    · obtain ⟨htextures, rfl⟩ := hbuilt
      rintro _ ⟨⟩
      exact ⟨caps, rfl, hextent ▸ htextures⟩

theorem negotiate_reads (ctx : Context) (surface : Handle .surface) (desc : SwapchainDesc) :
    (Terms.negotiate ctx surface desc).Keeps reader
      (fun terms _ known => ∃ caps, known = some caps ∧
        terms.extent = chooseExtent caps desc.width desc.height)
      (fun _ _ _ => True) () none := by
  unfold Terms.negotiate
  refine Attempt.keeps_bind.mpr (attempt_keeps (ask_keeps _ trivial ?_))
  rintro (code | caps) -
  · exact fun _ _ => trivial
  · refine Attempt.keeps_bind.mpr (attempt_keeps (ask_keeps _ trivial ?_))
    rintro (code | formats) -
    · exact fun _ _ => trivial
    · refine Attempt.keeps_bind.mpr (attempt_keeps (ask_keeps _ trivial ?_))
      rintro (code | modes) -
      · exact fun _ _ => trivial
      · dsimp only
        split
        · rw [Attempt.keeps_bind, Attempt.keeps_step]
          exact refuse_keeps _ _ trivial
        · split
          · simp only [Attempt.keeps_bind, Attempt.keeps_step, notice, Program.keeps_log]
            trivial
          · exact ⟨caps, rfl, rfl⟩

theorem create_follows (ctx : Context) (surface : Handle .surface) (desc : SwapchainDesc)
    (old : Option (Handle .swapchain)) :
    (create ctx surface desc old).Keeps reader (Follows desc) none := by
  rw [create_eq]
  apply Program.Keeps.andThen (negotiate_reads ctx surface desc)
  rintro ⟨e | terms, ⟨⟩⟩ known hsettled
  · rintro _ ⟨⟩
  · obtain ⟨caps, rfl, hextent⟩ := hsettled
    exact make_follows ctx terms _ hextent

end Swapchain

/-- Textures are described by a request, with the size for the capabilities that were read. -/
def Describes (desc : SwapchainDesc) (known : Option Capabilities) (textures : List Texture) :
    Prop :=
  ∃ caps, known = some caps ∧ ∀ texture ∈ textures,
    texture.info = describe (chooseExtent caps desc.width desc.height) desc

theorem Describes.mono {desc : SwapchainDesc} {known known' : Option Capabilities}
    {textures : List Texture} (h : Describes desc known textures)
    (hknown : ∀ caps, known = some caps → known' = some caps) : Describes desc known' textures := by
  obtain ⟨caps, hcaps, htextures⟩ := h
  exact ⟨caps, hknown caps hcaps, htextures⟩

namespace WindowSurface

theorem configure_describes (ws : WindowSurface) (desc : SwapchainDesc) :
    (ws.configure desc).Keeps reader
      (fun r known => r.1 = .ok () → Describes desc known r.2.textures) none := by
  apply Program.Keeps.andThen (Swapchain.create_follows _ _ _ _)
  rintro (e | sc) known hfollows
  · rintro ⟨⟩
  · obtain ⟨caps, rfl, htextures⟩ := hfollows sc rfl
    apply Program.Keeps.andThen (reader_stable _ (some caps))
    intro _ known hknown _
    refine ⟨caps, hknown caps rfl, ?_⟩
    intro texture htexture
    obtain ⟨t, ht, rfl⟩ := List.mem_map.mp htexture
    exact htextures t ht

/-- How far an operation has come: nothing was called, or if its first call was for a
configuration that succeeded, there are textures as they were asked for, and such were read. -/
structure Midway (ws : WindowSurface) (known : Option Capabilities)
    (calls : List (Event Native.interface)) : Prop where
  start : calls = [] → known = none
  configured : ∀ desc rest, calls = .asked (.configure desc) (.ok ()) :: rest →
    Describes desc known ws.textures ∧
      ∀ images, .asked Native.Call.images images ∈ rest → Describes desc known images

theorem Midway.of_other {ws : WindowSurface} {known : Option Capabilities}
    {e : Event Native.interface} (h : ∀ desc, e ≠ .asked (.configure desc) (.ok ())) :
    ws.Midway known [e] := by
  constructor
  · rintro ⟨⟩
  · rintro desc rest heq
    cases heq
    exact absurd rfl (h desc)

/-- Any first call of an operation is served so. -/
theorem serve_first (ws : WindowSurface) (c : Native.Call) :
    (serve c ws).Keeps reader (fun r known => r.2.Midway known [.asked c r.1]) none := by
  have hother : ∀ {c : Native.Call}, (∀ desc, c ≠ .configure desc) → (serve c ws).Keeps reader
      (fun r known => r.2.Midway known [.asked c r.1]) none := by
    intro c hc
    apply Program.Keeps.mono (Program.keeps_stable (P := fun _ => True) (fun _ _ => trivial) trivial
      (fun _ _ _ => trivial) _ trivial)
    intro r known _
    apply Midway.of_other
    exact fun desc heq => hc desc (Event.asked.inj heq).1
  cases c with
  | configure desc =>
    apply (configure_describes ws desc).mono
    rintro ⟨result, ws'⟩ known h
    constructor
    · rintro ⟨⟩
    · rintro desc' rest heq
      cases heq
      exact ⟨h rfl, by simp⟩
  | _ => exact hother (by simp)

/-- What is read afterwards leaves it so. -/
theorem serve_reads (ws : WindowSurface) {known : Option Capabilities}
    {first : Event Native.interface} {calls : List (Event Native.interface)} {c : Native.Call}
    (hc : c.Reads) (h : ws.Midway known (first :: calls)) :
    (serve c ws).Keeps reader
      (fun r known => r.2.Midway known (first :: calls ++ [.asked c r.1])) known := by
  cases c with
  | queryInfo =>
    apply Program.Keeps.andThen (reader_stable _ known)
    intro info known' hknown
    constructor
    · rintro ⟨⟩
    · rintro desc rest ⟨⟩
      obtain ⟨htextures, himages⟩ := h.configured desc calls rfl
      refine ⟨htextures.mono hknown, ?_⟩
      intro images himage
      rcases List.mem_append.mp himage with himage | himage
      · exact (himages images himage).mono hknown
      · cases List.mem_singleton.mp himage
  | images =>
    constructor
    · rintro ⟨⟩
    · rintro desc rest ⟨⟩
      obtain ⟨htextures, himages⟩ := h.configured desc calls rfl
      refine ⟨htextures, ?_⟩
      intro images himage
      rcases List.mem_append.mp himage with himage | himage
      · exact himages images himage
      · cases List.mem_singleton.mp himage
        exact htextures
  | _ => exact hc.elim

/-- An operation acts as it can, and the images that it brings are described by what it asked
for. -/
theorem perform_describes (ws : WindowSurface) (s : Surface) (op : Op) :
    ((s.perform op).servedBy serve ws).Keeps reader
      (fun r known => ∃ calls, r.2.Midway known calls ∧ s.Acts op calls r.1.1 r.1.2) none := by
  have hserve : ∀ c (ws : WindowSurface) known calls, ws.Midway known calls →
      (s.calling op).allows calls c → (serve c ws).Keeps reader (fun r known =>
        (s.calling op).trusts calls c r.1 ∧
          r.2.Midway known ((s.calling op).see calls (.asked c r.1))) known := by
    intro c ws known calls hmidway hcall
    cases calls with
    | nil =>
      cases hmidway.start rfl
      apply (serve_first ws c).mono
      exact fun _ _ h => ⟨trivial, h⟩
    | cons first calls =>
      apply (serve_reads ws hcall hmidway).mono
      exact fun _ _ h => ⟨trivial, h⟩
  apply (Surface.perform_acts s op).servedBy (R := Midway) False.elim hserve
  exact ⟨fun _ => rfl, by rintro _ _ ⟨⟩⟩

/-- A texture is described by a configuration, with the size for the capabilities that were read
for it. -/
def Made (e : Episode interface) (desc : SwapchainDesc) (info : TextureInfo) : Prop :=
  ∃ caps, firstCapabilities e.events = some caps ∧
    info = describe (chooseExtent caps desc.width desc.height) desc

/-- The episodes of a surface on a window surface. There are none after one that halts. -/
def play (answer : (c : Call) → σ → c.Answer × σ) :
    Surface → WindowSurface → σ → List Op → List (Episode interface)
  | _, _, _, [] => []
  | s, ws, driver, op :: ops =>
    let run := ((s.perform op).servedBy serve ws).run answer driver
    match run.outcome with
    | .ok ((reply, s'), ws') =>
      ⟨op, s, reply, s', run.events⟩ :: play answer s' ws' run.peer ops
    | .error _ => []

/-- The episodes of a life, from the creation of the surface on. -/
def story (answer : (c : Call) → σ → c.Answer × σ) (driver : σ) (ctx : Context)
    (surface : Handle .surface) (device : String) (ops : List Op) : List (Episode interface) :=
  let run := ((Surface.attach device).servedBy serve ⟨ctx, surface, none⟩).run answer driver
  match run.outcome with
  | .ok (.ok s, ws) => play answer s ws run.peer ops
  | _ => []

theorem play_linked (answer : (c : Call) → σ → c.Answer × σ) (s : Surface) (ws : WindowSurface)
    (driver : σ) (ops : List Op) : Episode.Linked s (play answer s ws driver ops) ∧
      ∀ e ∈ play answer s ws driver ops, e.Sound Made := by
  induction ops generalizing s ws driver with
  | nil => exact ⟨trivial, by simp [play]⟩
  | cons op ops ih =>
    simp only [play]
    split
    · rename_i reply s' ws' houtcome
      obtain ⟨-, hend, -⟩ := (perform_describes ws s op).run answer driver
        (fun _ _ _ _ => trivial)
      obtain ⟨calls, hmidway, hacts⟩ := hend _ houtcome
      obtain ⟨hlinked, hsound⟩ := ih s' ws' _
      refine ⟨⟨rfl, hlinked⟩, ?_⟩
      intro e he
      rcases List.mem_cons.mp he with rfl | he
      · refine ⟨calls, hacts, ?_⟩
        rintro desc images info rfl texture htexture
        obtain ⟨caps, hcaps, htextures⟩ :=
          (hmidway.configured desc _ rfl).2 images List.mem_cons_self
        rw [reader_after, Option.none_or] at hcaps
        exact ⟨caps, hcaps, htextures texture htexture⟩
      · exact hsound e he
    · exact ⟨trivial, by simp⟩

/-- Episodes reply as the operations of a life do. -/
theorem play_replies (answer : (c : Call) → σ → c.Answer × σ) {s s' : Surface}
    {ws ws' : WindowSurface} {driver : σ} {ops : List Op} {replies : List Surface.Reply}
    (h : (((s.performAll ops).servedBy serve ws).run answer driver).outcome =
      .ok ((replies, s'), ws')) :
    (play answer s ws driver ops).map (·.reply) = replies := by
  induction ops generalizing s ws driver replies with
  | nil =>
    cases h
    rfl
  | cons op ops ih =>
    rw [Surface.performAll, Program.servedBy_andThen] at h
    obtain ⟨⟨⟨reply, t⟩, wt⟩, hperform, hrest, -⟩ := Program.run_bind_ok h
    rw [Program.servedBy_andThen] at hrest
    obtain ⟨⟨⟨replies, t'⟩, wt'⟩, hall, hdone, -⟩ := Program.run_bind_ok hrest
    cases hdone
    simp only [play, hperform, List.map_cons, ih hall]

/-- A life is told in episodes. -/
theorem story_replies (answer : (c : Call) → σ → c.Answer × σ) {driver : σ} {ctx : Context}
    {surface : Handle .surface} {device : String} {ops : List Op} {s : Surface}
    {ws : WindowSurface} {replies : List Surface.Reply}
    (h : ((life ctx surface device ops).run answer driver).outcome =
      .ok (.ok (replies, s), ws)) :
    (story answer driver ctx surface device ops).map (·.reply) = replies := by
  rw [life, Surface.life, Program.servedBy_andThen] at h
  obtain ⟨⟨e | t, wt⟩, hattach, hrest, -⟩ := Program.run_bind_ok h
  · cases hrest
  · dsimp only at hrest
    rw [Program.servedBy_andThen] at hrest
    obtain ⟨⟨⟨replies, t'⟩, wt'⟩, hreplies, hdone, -⟩ := Program.run_bind_ok hrest
    cases hdone
    simp only [story, hattach, play_replies answer hreplies]

theorem attach_unconfigured (ws : WindowSurface) (device : String) :
    ((Surface.attach device).servedBy serve ws).Keeps reader
      (fun r _ => ∀ s, r.1 = .ok s → s.active = none) none := by
  have hserve : ∀ (c : Native.Call) (ws : WindowSurface) known calls, True →
      Surface.heedless.allows calls c → (serve c ws).Keeps reader
        (fun r _ => Surface.heedless.trusts calls c r.1 ∧ True) known := fun _ _ _ _ _ _ =>
    Program.keeps_stable (P := fun _ => True ∧ True) (fun _ _ => trivial) trivial
      (fun _ _ h => h) _ ⟨trivial, trivial⟩
  apply ((Surface.attach_unconfigured device).servedBy (R := fun _ _ _ => True) False.elim hserve
    trivial).mono
  rintro r known ⟨-, -, h⟩
  exact h

/-- What an application is shown on a Vulkan surface is true, whatever the driver answers. -/
theorem story_truthful (answer : (c : Call) → σ → c.Answer × σ) (driver : σ) (ctx : Context)
    (surface : Handle .surface) (device : String) (ops : List Op) :
    Episode.Truthful Made (story answer driver ctx surface device ops) := by
  unfold story
  dsimp only
  split
  · rename_i s ws houtcome
    obtain ⟨-, hend, -⟩ := (attach_unconfigured ⟨ctx, surface, none⟩ device).run answer driver
      (fun _ _ _ _ => trivial)
    have hnone := hend _ houtcome
    obtain ⟨hlinked, hsound⟩ := play_linked answer s ws
      (((Surface.attach device).servedBy serve ⟨ctx, surface, none⟩).run answer driver).peer ops
    exact Episode.truthful_of_linked hlinked (hnone s rfl) hsound
  · exact Episode.truthful_nil

end WindowSurface

/-- Every image that is handed to an application describes the swapchain it belongs to, on a
simulated window with any faults and on a Vulkan surface with any driver. -/
theorem images_describe_swapchain :
    (∀ device n moves, Episode.Truthful Native.Simulated.Made
      (Native.Simulated.Stage.story device n moves)) ∧
    ∀ (σ : Type) (answer : (c : Call) → σ → c.Answer × σ) (driver : σ) ctx surface device ops,
      Episode.Truthful WindowSurface.Made
        (WindowSurface.story answer driver ctx surface device ops) :=
  ⟨Native.Simulated.Stage.story_truthful, fun _ => WindowSurface.story_truthful⟩

/-- A driver refuses to replace a swapchain, and its images are still described by what it was
created for. -/
theorem images_describe_kept_swapchain : ∃ before e image,
    WindowSurface.story stubborn () .plain ⟨0⟩ "gpu"
      [.configure (.ofSize 4 4), .configure (.ofSize 5 5), .acquire] = before ++ [e] ∧
    e.Shows image ∧ image.info.width = 4 ∧
    ∃ e₀ desc, Episode.Last before e₀ desc ∧ WindowSurface.Made e₀ desc image.info := by
  have htruthful := images_describe_swapchain.2 Unit stubborn () .plain ⟨0⟩ "gpu"
    [.configure (.ofSize 4 4), .configure (.ofSize 5 5), .acquire]
  exact ⟨[_, _], _, _, rfl, Or.inl rfl, rfl, (htruthful.described _ _ [] _ rfl (Or.inl rfl)).2.2⟩

end Presentation.Vulkan
