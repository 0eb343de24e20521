import Presentation.Proofs.Watch
import Presentation.Vulkan.WindowSurface

/-!
# Calls beside the swapchain

Most of what the backend asks of a driver creates no swapchain and destroys
none, and hands out and takes back no image. The programs that make only such
calls are gathered here, with what they leave of the swapchain they work on.
-/

set_option autoImplicit false

namespace Presentation.Vulkan

/-- The calls that Vulkan does not let fail because the surface is out of date. -/
def Call.Calm : (c : Call) → c.Answer → Prop
  | .create (.fence ..), answer => answer ≠ .error .outOfDate
  | .waitForFence .., answer => answer ≠ .error .outOfDate
  | .resetFence .., answer => answer ≠ .error .outOfDate
  | .submit .., answer => answer ≠ .error .outOfDate
  | _, _ => True

def Call.Aside : Call → Prop
  | .create (.swapchain ..) => False
  | .destroy .swapchain .. => False
  | .acquire .. => False
  | .present .. => False
  | _ => True

/-- Questions about a surface. -/
def Call.Inquires : Call → Prop
  | .capabilities .. => True
  | .surfaceFormats .. => True
  | .presentModes .. => True
  | _ => False

/-- Calls that build up a swapchain with a handle. -/
def Call.Builds (handle : Handle .swapchain) : Call → Prop
  | .create (.view ..) => True
  | .create (.fence ..) => True
  | .create (.semaphore _) => True
  | .create (.pool ..) => True
  | .swapchainImages _ swapchain => swapchain = handle
  | .allocate .. => True
  | .beginCommands _ => True
  | .barrier .. => True
  | .endCommands _ => True
  | _ => False

/-- Calls that record a command buffer. -/
def Call.Records : Call → Prop
  | .beginCommands _ => True
  | .barrier .. => True
  | .endCommands _ => True
  | _ => False

/-- Calls that release a swapchain of a device. -/
def Call.Releases (device : Handle .device) (sc : Swapchain) : Call → Prop
  | .waitIdle _ => True
  | .destroy .view on _ => on = some device.object
  | .destroy .fence on fence => on = some device.object ∧
    fence ∈ sc.acquireFence :: (sc.generalFences ++ sc.presentFences)
  | .destroy .semaphore on _ => on = some device.object
  | .destroy .pool on _ => on = some device.object
  | .destroy .swapchain on handle => on = some device.object ∧ handle = some sc.handle
  | _ => False

/-- Some calls only. -/
def within (calls : Call → Prop) (calm : Prop) : Watch interface Unit where
  see _ _ := ()
  allows _ := calls
  trusts _ c a := calm → c.Calm a
  halts := True

/-- Some calls only, and no halt. -/
def strictly (calls : Call → Prop) : Watch interface Unit where
  see _ _ := ()
  allows _ := calls
  trusts _ _ _ := True
  halts := False

abbrev building (handle : Handle .swapchain) (calm : Prop) : Watch interface Unit :=
  within (Call.Builds handle) calm

def aside (calm : Prop) : Watch interface Unit where
  see _ _ := ()
  allows _ := Call.Aside
  trusts _ c a := calm → c.Calm a
  halts := True

theorem Call.Inquires.aside {c : Call} (h : c.Inquires) : c.Aside := by
  cases c with
  | capabilities => trivial
  | surfaceFormats => trivial
  | presentModes => trivial
  | _ => exact h.elim

theorem Call.Records.builds {c : Call} (h : c.Records) (handle : Handle .swapchain) :
    c.Builds handle := by
  cases c with
  | beginCommands => trivial
  | barrier => trivial
  | endCommands => trivial
  | _ => exact h.elim

theorem Call.Builds.aside {handle : Handle .swapchain} {c : Call} (h : c.Builds handle) :
    c.Aside := by
  cases c with
  | create what =>
    cases what with
    | swapchain => exact h.elim
    | _ => trivial
  | swapchainImages => trivial
  | allocate => trivial
  | beginCommands => trivial
  | barrier => trivial
  | endCommands => trivial
  | _ => exact h.elim

variable {α β σ γ : Type} {calls : Call → Prop} {calm : Prop}

instance : (within calls calm).Deaf := ⟨fun _ _ => rfl⟩

instance : (aside calm).Deaf := ⟨fun _ _ => rfl⟩

instance : (strictly calls).Deaf := ⟨fun _ _ => rfl⟩

theorem within_aside {post : α → Unit → Prop} {p : Program α}
    (hcalls : ∀ c, calls c → c.Aside) (h : p.Keeps (within calls calm) post ()) :
    p.Keeps (aside calm) post () := by
  have hboth := h.aside (w := aside calm) id hcalls (fun _ _ _ ha => ha) (fun _ _ _ => rfl)
  exact hboth.mono fun _ _ hpost => hpost.1

/-- A program that makes calls of some kind only keeps whatever such calls keep. -/
theorem within_bears {w : Watch interface γ} [w.Deaf] {P : γ → Prop} {g : γ}
    {post : α → Unit → Prop} {p : Program α} (hw : w.Bears calls P) (hhalts : w.halts)
    (h : p.Keeps (within calls False) post ()) (hP : P g) :
    p.Keeps w (fun a g' => post a () ∧ P g') g := by
  apply h.amid (fun _ => hhalts) _ hP
  intro c g hc hg
  obtain ⟨hallowed, hafter⟩ := hw c g hc hg
  exact ⟨hallowed, fun a ha => ⟨False.elim, hafter a ha⟩⟩

theorem attempt_bears {w : Watch interface γ} [w.Deaf] {P : γ → Prop} {g : γ} {s : σ}
    {ok : β → σ → Unit → Prop} {err : Error → σ → Unit → Prop} {t : Attempt interface σ β}
    (hw : w.Bears calls P) (hhalts : w.halts) (h : t.Keeps (within calls False) ok err s ())
    (hP : P g) :
    t.Keeps w (fun b s g' => ok b s () ∧ P g') (fun e s g' => err e s () ∧ P g') s g := by
  apply Program.Keeps.mono (within_bears hw hhalts h hP)
  rintro ⟨e | b, s⟩ g' h
  · exact h
  · exact h

theorem strictly_bears {w : Watch interface γ} [w.Deaf] {P : γ → Prop} {g : γ}
    {post : α → Unit → Prop} {p : Program α} (hw : w.Bears calls P)
    (h : p.Keeps (strictly calls) post ()) (hP : P g) :
    p.Keeps w (fun a g' => post a () ∧ P g') g := by
  apply h.amid False.elim _ hP
  intro c g hc hg
  obtain ⟨hallowed, hafter⟩ := hw c g hc hg
  exact ⟨hallowed, fun a ha => ⟨trivial, hafter a ha⟩⟩

theorem strictly_mono {calls' : Call → Prop} {post : α → Unit → Prop} {p : Program α}
    (h : p.Keeps (strictly calls) post ()) (himp : ∀ c, calls c → calls' c) :
    p.Keeps (strictly calls') post () := by
  have hbears : (strictly calls').Bears calls fun _ => True :=
    fun c _ hc _ => ⟨himp c hc, fun _ _ => trivial⟩
  exact (strictly_bears hbears h trivial).mono fun _ _ hpost => hpost.1

theorem attempt_strictly_bears {w : Watch interface γ} [w.Deaf] {P : γ → Prop} {g : γ} {s : σ}
    {ok : β → σ → Unit → Prop}
    {err : Error → σ → Unit → Prop} {t : Attempt interface σ β} (hw : w.Bears calls P)
    (h : t.Keeps (strictly calls) ok err s ()) (hP : P g) :
    t.Keeps w (fun b s g' => ok b s () ∧ P g') (fun e s g' => err e s () ∧ P g') s g := by
  apply Program.Keeps.mono (strictly_bears hw h hP)
  rintro ⟨e | b, s⟩ g' h
  · exact h
  · exact h

theorem strictly_within {post : α → Unit → Prop} {p : Program α}
    (h : p.Keeps (strictly calls) post ()) : p.Keeps (within calls calm) post () := by
  have hbears : (within calls calm).Bears calls fun _ => True :=
    fun _ _ hc _ => ⟨hc, fun _ _ => trivial⟩
  exact (strictly_bears hbears h trivial).mono fun _ _ hpost => hpost.1

theorem attempt_within_aside {ok : β → σ → Unit → Prop} {err : Error → σ → Unit → Prop}
    {t : Attempt interface σ β} {s : σ} (hcalls : ∀ c, calls c → c.Aside)
    (h : t.Keeps (within calls calm) ok err s ()) : t.Keeps (aside calm) ok err s () :=
  within_aside hcalls h

section

variable {w : Watch interface γ} {g : γ}

theorem ask_keeps (c : Call) {post : c.Answer → γ → Prop} (hc : w.allows g c)
    (h : ∀ a, w.trusts g c a → post a (w.see g (.asked c a))) : (ask c).Keeps w post g :=
  ⟨hc, h⟩

theorem refuse_keeps [w.Deaf] {post : Error → γ → Prop} (toError : String → Error) (n : Notice)
    (h : post (toError n.text) g) : (refuse toError n : Program Error).Keeps w post g := by
  simp only [refuse, notice, Program.keeps_andThen, Program.keeps_log, Program.keeps_pure]
  exact h

/-- The error of a failed call is out of date exactly if the code is. -/
theorem callFailure_keeps [w.Deaf] {post : Error → γ → Prop} (function : String) (code : Code)
    (h : ∀ e, (e = .outOfDateSurface ↔ code = .outOfDate) → post e g) :
    (callFailure function code : Program Error).Keeps w post g := by
  unfold callFailure
  split
  · rename_i hcode
    exact h _ (by simp [hcode])
  · rename_i hcode
    split
    · exact refuse_keeps _ _ (h _ (by simp [hcode]))
    · split
      · exact refuse_keeps _ _ (h _ (by simp [hcode]))
      · exact refuse_keeps _ _ (h _ (by simp [hcode]))

theorem attempt_keeps [w.Deaf] {s : σ} {ok : β → σ → γ → Prop} {err : Error → σ → γ → Prop}
    {function : String} {p : Program (Except Code β)}
    (h : p.Keeps w (fun r g => match r with
      | .ok b => ok b s g
      | .error code => ∀ e, (e = .outOfDateSurface ↔ code = .outOfDate) → err e s g) g) :
    (attempt function p).Keeps w ok err s g := by
  rw [attempt, Attempt.keeps_expectOr]
  apply h.mono
  intro r g hr
  match r with
  | .ok b => exact hr
  | .error code => exact callFailure_keeps function code hr

end

theorem ask_beside {w : Watch interface Unit} (c : Call) (hc : w.allows () c) :
    (ask c).Keeps w (fun _ _ => True) () :=
  ask_keeps c hc fun _ _ => trivial

/-- An attempt beside the swapchain, where it does not matter which error it ends with. -/
theorem attempt_beside {w : Watch interface Unit} [w.Deaf] {s : σ} {ok : β → σ → Unit → Prop}
    {err : Error → σ → Unit → Prop} {function : String} {p : Program (Except Code β)}
    (herr : ∀ e, err e s ()) (hp : p.Keeps w (fun _ _ => True) ())
    (hok : ∀ b, ok b s ()) : (attempt function p).Keeps w ok err s () := by
  apply attempt_keeps
  apply Program.Keeps.mono hp
  intro answer _ _
  cases answer with
  | error code => exact fun e _ => herr e
  | ok b => exact hok b

theorem destroyAll_beside {w : Watch interface Unit} {parent kind : Kind} (on : Handle parent)
    (handle : α → Option (Handle kind)) (xs : List α)
    (hw : ∀ x ∈ xs, w.allows () (.destroy kind (some on.object) (handle x))) :
    (xs.forM fun x => destroyOn on (handle x)).Keeps w (fun _ _ => True) () := by
  apply Program.keeps_forM xs _ trivial
  intro x hx _ _
  exact ask_beside _ (hw x hx)

namespace Swapchain

/-- A swapchain with a handle of which no image was handed out yet. -/
def Fresh (handle : Handle .swapchain) (sc : Swapchain) : Prop :=
  sc.handle = handle ∧ sc.held = none ∧ sc.stale = false

/-- The same swapchain, with the same images in the same hands. -/
def Alike (sc sc' : Swapchain) : Prop :=
  sc'.handle = sc.handle ∧ sc'.textures = sc.textures ∧ sc'.held = sc.held ∧
    sc'.stale = sc.stale

theorem Alike.refl (sc : Swapchain) : sc.Alike sc := ⟨rfl, rfl, rfl, rfl⟩

/-- The command buffers of both transitions. -/
def buffers (sc : Swapchain) : List CommandBuffer := sc.toGeneral ++ sc.toPresent

variable {handle : Handle .swapchain} {sc sc' : Swapchain}

theorem Fresh.alike (h : sc.Fresh handle) (hs : sc.Alike sc') : sc'.Fresh handle :=
  ⟨hs.1.trans h.1, hs.2.2.1.trans h.2.1, hs.2.2.2.trans h.2.2⟩

theorem addTexture_keeps (ctx : Context) (format : FormatCode) (desc : SwapchainDesc)
    (image : Image) (h : sc.Fresh handle) :
    (addTexture ctx format desc image).Keeps (building handle calm) (fun _ sc _ => sc.Fresh handle)
      (fun _ sc _ => sc.Fresh handle) sc () := by
  rw [addTexture, Attempt.keeps_bind]
  apply attempt_beside (fun _ => h)
  · exact ask_beside _ trivial
  intro view
  exact h

theorem addTextures_keeps (ctx : Context) (format : FormatCode) (desc : SwapchainDesc)
    (h : sc.Fresh handle) :
    (addTextures ctx format desc).Keeps (building handle calm) (fun _ sc _ => sc.Fresh handle)
      (fun _ sc _ => sc.Fresh handle) sc () := by
  rw [addTextures, Attempt.keeps_bind, Attempt.keeps_get, Attempt.keeps_bind]
  apply attempt_beside (fun _ => h)
  · exact ask_beside _ h.1
  intro images
  exact Attempt.keeps_forEach images
    (fun image _ sc _ hs => addTexture_keeps ctx format desc image hs) h

theorem newFence_keeps (ctx : Context) (signaled : Bool) {s : σ}
    (hcalls : calls (.create (.fence ctx.device signaled))) :
    (newFence ctx signaled).Keeps (within calls calm) (fun _ s' _ => s' = s)
      (fun e s' _ => s' = s ∧ (calm → e ≠ .outOfDateSurface)) s () := by
  apply attempt_keeps
  apply ask_keeps _ hcalls
  intro answer hcalm
  cases answer with
  | error code =>
    intro e he
    constructor
    · rfl
    · intro hc heq
      exact hcalm hc (congrArg Except.error (he.mp heq))
  | ok fence =>
    rfl

theorem addImageSync_keeps (ctx : Context) (h : sc.Alike sc') :
    (addImageSync ctx).Keeps (building handle calm) (fun _ sc' _ => sc.Alike sc')
      (fun _ sc' _ => sc.Alike sc') sc' () := by
  rw [addImageSync, Attempt.keeps_bind]
  apply (newFence_keeps ctx true trivial).mono _ (fun _ _ _ he => he.1 ▸ h)
  intro fence _ _ heq
  subst heq
  rw [Attempt.keeps_bind, Attempt.keeps_update, Attempt.keeps_bind]
  apply (newFence_keeps ctx true trivial).mono _ (fun _ _ _ he => he.1 ▸ h)
  intro fence' _ _ heq
  subst heq
  rw [Attempt.keeps_bind, Attempt.keeps_update, Attempt.keeps_bind]
  apply attempt_beside (fun _ => h)
  · exact ask_beside _ trivial
  intro semaphore
  exact h

theorem addSync_keeps (ctx : Context) (sc : Swapchain) :
    (addSync ctx).Keeps (building handle calm) (fun _ sc' _ => sc.Alike sc')
      (fun _ sc' _ => sc.Alike sc') sc () := by
  rw [addSync, Attempt.keeps_bind]
  apply (newFence_keeps ctx false trivial).mono _ (fun _ _ _ he => he.1 ▸ Alike.refl sc)
  intro fence _ _ heq
  subst heq
  rw [Attempt.keeps_bind, Attempt.keeps_update, Attempt.keeps_bind, Attempt.keeps_get]
  apply Attempt.keeps_times _ (fun _ _ hs => addImageSync_keeps ctx hs)
  exact ⟨rfl, rfl, rfl, rfl⟩

theorem record_strictly (buffer : CommandBuffer) (image : Image) (transition : Transition) :
    (record buffer image transition).Keeps (strictly Call.Records) (fun _ sc' _ => sc' = sc)
      (fun _ sc' _ => sc' = sc) sc () := by
  rw [record, Attempt.keeps_bind]
  apply attempt_beside (by intro _; rfl) (ask_beside _ trivial)
  intro _
  rw [Attempt.keeps_bind, Attempt.keeps_step]
  apply ask_keeps _ trivial
  intro _ _
  apply attempt_beside (by intro _; rfl) (ask_beside _ trivial)
  intro _
  rfl

theorem record_within (buffer : CommandBuffer) (image : Image) (transition : Transition) :
    (record buffer image transition).Keeps (within Call.Records calm) (fun _ sc' _ => sc' = sc)
      (fun _ sc' _ => sc' = sc) sc () :=
  strictly_within (record_strictly buffer image transition)

/-- Recording leaves the swapchain alone. -/
theorem recordImage_within (image : Image × Nat) :
    (recordImage image).Keeps (within Call.Records calm) (fun _ sc' _ => sc' = sc)
      (fun _ sc' _ => sc' = sc) sc () := by
  rw [recordImage, Attempt.keeps_bind, Attempt.keeps_get, Attempt.keeps_bind, Attempt.keeps_step]
  apply Program.keeps_fetch _ (fun _ => trivial)
  intro buffer _
  rw [Attempt.keeps_bind]
  apply (record_within buffer image.1 .toGeneral).mono _ (fun _ _ _ he => he)
  rintro _ sc _ rfl
  rw [Attempt.keeps_bind, Attempt.keeps_step]
  apply Program.keeps_fetch _ (fun _ => trivial)
  intro buffer _
  exact record_within buffer image.1 .toPresent

/-- What the calls of recording keep is kept while all images are recorded. -/
theorem recordImages_keeps {w : Watch interface γ} [w.Deaf] {P : Swapchain → γ → Prop} {g : γ}
    (images : List (Image × Nat)) (hw : ∀ sc, w.Bears Call.Records (P sc)) (hhalts : w.halts)
    (h : P sc g) :
    (Attempt.forEach recordImage images).Keeps w (fun _ => P) (fun _ => P) sc g := by
  apply Attempt.keeps_forEach images _ h
  intro image _ sc g h
  apply (attempt_bears (hw sc) hhalts (recordImage_within image) h).mono
  · rintro _ _ _ ⟨rfl, h⟩
    exact h
  · rintro _ _ _ ⟨rfl, h⟩
    exact h

theorem addCommands_keeps (ctx : Context) (sc : Swapchain) :
    (addCommands ctx).Keeps (building handle calm) (fun _ sc' _ => sc.Alike sc')
      (fun _ sc' _ => sc.Alike sc') sc () := by
  rw [addCommands, Attempt.keeps_bind]
  apply attempt_beside (fun _ => Alike.refl sc)
  · exact ask_beside _ trivial
  intro pool
  simp only [Attempt.keeps_bind, Attempt.keeps_update, Attempt.keeps_get]
  apply attempt_beside (fun _ => ⟨rfl, rfl, rfl, rfl⟩)
  · exact ask_beside _ trivial
  intro general
  apply attempt_beside (fun _ => ⟨rfl, rfl, rfl, rfl⟩)
  · exact ask_beside _ trivial
  intro present
  apply recordImages_keeps (P := fun sc' _ => sc.Alike sc')
  · intro _ c _ hc h
    exact ⟨hc.builds handle, fun _ _ => h⟩
  · trivial
  · exact ⟨rfl, rfl, rfl, rfl⟩

/-- A swapchain that is built has images, and all of them are with the driver. -/
theorem build_keeps (ctx : Context) (terms : Terms) (desc : SwapchainDesc)
    (h : sc.Fresh handle) :
    (build ctx terms desc).Keeps (building handle calm)
      (fun _ sc _ => sc.Fresh handle ∧ sc.textures ≠ [])
      (fun _ sc _ => sc.Fresh handle) sc () := by
  rw [build, Attempt.keeps_bind]
  apply (addTextures_keeps ctx terms.format desc h).mono _ (fun _ _ _ he => he)
  intro _ sc _ h
  simp only [Attempt.keeps_bind, Attempt.keeps_get]
  split
  · simp only [Attempt.keeps_bind, Attempt.keeps_step]
    exact refuse_keeps _ _ h
  · rename_i hne
    rw [List.isEmpty_iff] at hne
    simp only [Attempt.keeps_bind]
    apply (addSync_keeps ctx sc).mono _ (fun _ _ _ hs => h.alike hs)
    intro _ sc' _ hs
    apply (addCommands_keeps ctx sc').mono _ (fun _ _ _ hc => (h.alike hs).alike hc)
    intro _ sc'' _ hc
    simp only [Attempt.keeps_step, notice, Program.keeps_log]
    constructor
    · exact (h.alike hs).alike hc
    · rw [hc.2.1, hs.2.1]
      exact hne

/-- A fence is made ready and a transition submitted: either way the error is none that an
out-of-date surface has, if the driver is calm. -/
theorem readyFence_keeps (ctx : Context) {slot : Option (Handle .fence)} :
    (readyFence ctx).Keeps (aside calm) (fun _ _ _ => True)
      (fun e _ _ => calm → e ≠ .outOfDateSurface) slot () := by
  rw [readyFence, Attempt.keeps_bind, Attempt.keeps_get]
  cases slot with
  | none =>
    rw [Attempt.keeps_bind]
    exact Attempt.Keeps.mono
      (attempt_within_aside (fun _ hc => hc) (newFence_keeps ctx false trivial))
      (fun _ _ _ _ => trivial) (fun _ _ _ he => he.2)
  | some fence =>
    rw [Attempt.keeps_bind]
    apply attempt_keeps
    apply ask_keeps _ trivial
    intro answer hcalm
    cases answer with
    | error code =>
      intro e he hc heq
      exact hcalm hc (congrArg Except.error (he.mp heq))
    | ok done =>
      simp only [Attempt.keeps_bind]
      apply attempt_keeps
      apply ask_keeps _ trivial
      intro answer hcalm
      cases answer with
      | error code =>
        intro e he hc heq
        exact hcalm hc (congrArg Except.error (he.mp heq))
      | ok done =>
        trivial

theorem submit_keeps (ctx : Context) (buffer : CommandBuffer)
    (signal : Option (Handle .semaphore)) {slot : Option (Handle .fence)} :
    (submit ctx buffer signal).Keeps (aside calm) (fun _ _ _ => True)
      (fun e _ _ => calm → e ≠ .outOfDateSurface) slot () := by
  rw [submit, Attempt.keeps_bind]
  apply (readyFence_keeps ctx).mono _ (fun _ _ _ he => he)
  intro fence slot _ _
  rw [Attempt.keeps_bind, Attempt.keeps_step]
  apply ask_keeps _ trivial
  intro answer hcalm
  cases answer with
  | error code =>
    simp only [Attempt.keeps_bind, Attempt.keeps_step, Attempt.keeps_update]
    apply ask_keeps _ trivial
    intro _ _
    apply callFailure_keeps _ code
    intro e he hc heq
    exact hcalm hc (congrArg Except.error (he.mp heq))
  | ok done =>
    trivial

def onFence (fences : List (Option (Handle .fence)))
    (put : List (Option (Handle .fence)) → Swapchain) (index : Nat)
    (t : Attempt interface (Option (Handle .fence)) Unit) :
    Program (Except Error Unit × Swapchain) := do
  let slot ← .fetch fences index
  let (result, slot) ← t slot
  return (result, put (fences.set index slot))

theorem onGeneralFence_eq (index : Nat) (t : Attempt interface (Option (Handle .fence)) Unit)
    (sc : Swapchain) : onGeneralFence index t sc =
      onFence sc.generalFences (fun fences => { sc with generalFences := fences }) index t := rfl

theorem onPresentFence_eq (index : Nat) (t : Attempt interface (Option (Handle .fence)) Unit)
    (sc : Swapchain) : onPresentFence index t sc =
      onFence sc.presentFences (fun fences => { sc with presentFences := fences }) index t := rfl

section

variable {w : Watch interface γ} {g : γ} {ok : Swapchain → γ → Prop}
  {err : Error → Swapchain → γ → Prop} {index : Nat}
  {t : Attempt interface (Option (Handle .fence)) Unit}

/-- Work on one fence leaves the other parts of a swapchain as they are. -/
theorem onFence_keeps {fences : List (Option (Handle .fence))}
    {put : List (Option (Handle .fence)) → Swapchain} (hhalts : w.halts)
    (ht : ∀ slot, fences[index]? = some slot →
      t.Keeps w (fun _ slot' => ok (put (fences.set index slot')))
        (fun e slot' => err e (put (fences.set index slot'))) slot g) :
    (onFence fences put index t).Keeps w (Attempt.Ends (fun _ => ok) err) g := by
  apply Program.keeps_andThen.mpr
  apply Program.keeps_fetch _ (fun _ => hhalts)
  intro slot hslot
  apply Program.Keeps.andThen (ht slot hslot)
  rintro ⟨e | done, slot'⟩ g h
  · exact h
  · exact h

theorem onGeneralFence_keeps (hhalts : w.halts)
    (ht : ∀ slot, sc.generalFences[index]? = some slot →
      t.Keeps w
        (fun _ slot' => ok { sc with generalFences := sc.generalFences.set index slot' })
        (fun e slot' => err e { sc with generalFences := sc.generalFences.set index slot' })
        slot g) :
    (onGeneralFence index t).Keeps w (fun _ => ok) err sc g := by
  rw [Attempt.Keeps, onGeneralFence_eq]
  exact onFence_keeps hhalts ht

theorem onPresentFence_keeps (hhalts : w.halts)
    (ht : ∀ slot, sc.presentFences[index]? = some slot →
      t.Keeps w
        (fun _ slot' => ok { sc with presentFences := sc.presentFences.set index slot' })
        (fun e slot' => err e { sc with presentFences := sc.presentFences.set index slot' })
        slot g) :
    (onPresentFence index t).Keeps w (fun _ => ok) err sc g := by
  rw [Attempt.Keeps, onPresentFence_eq]
  exact onFence_keeps hhalts ht

end

theorem prepare_keeps (ctx : Context) (index : Nat) (sc : Swapchain) :
    (prepare ctx index).Keeps (aside calm)
      (fun _ sc' _ => sc.Alike sc' ∧ index < sc.textures.length)
      (fun _ sc' _ => sc.Alike sc') sc () := by
  rw [prepare, Attempt.keeps_bind, Attempt.keeps_get, Attempt.keeps_bind]
  apply attempt_beside (fun _ => Alike.refl sc)
  · exact ask_beside _ trivial
  intro _
  simp only [Attempt.keeps_bind]
  apply attempt_beside (fun _ => Alike.refl sc)
  · exact ask_beside _ trivial
  intro _
  split
  · rename_i hlt
    rw [Attempt.keeps_bind, Attempt.keeps_step]
    apply Program.keeps_fetch _ (fun _ => trivial)
    intro buffer _
    have hfence : (onGeneralFence index (submit ctx buffer none)).Keeps (aside calm)
        (fun _ sc' _ => sc.Alike sc')
        (fun e sc' _ => sc.Alike sc' ∧ (calm → e ≠ .outOfDateSurface)) sc () := by
      apply onGeneralFence_keeps trivial
      intro _ _
      apply (submit_keeps ctx buffer none).mono
      · intro _ _ _ _
        exact ⟨rfl, rfl, rfl, rfl⟩
      · intro _ _ _ he
        exact ⟨⟨rfl, rfl, rfl, rfl⟩, he⟩
    apply hfence.mono
    · intro _ _ _ hs
      exact ⟨hs, hlt⟩
    · intro _ _ _ hs
      exact hs.1
  · rw [Attempt.keeps_bind, Attempt.keeps_step]
    exact refuse_keeps _ _ (Alike.refl sc)

/-- However a presentation ends, the image is no longer held, and a failure says out of date. -/
theorem conclude_keeps {w : Watch interface γ} [w.Deaf] {g : γ} {P : Swapchain → Prop}
    (index : Nat) (result : Except Code Bool)
    (h : ∀ stale, (stale = false → sc.stale = false) → P { sc with held := none, stale }) :
    (conclude index result).Keeps w (fun _ sc' g' => P sc' ∧ g' = g)
      (fun e sc' g' => P sc' ∧ g' = g ∧ e = .outOfDateSurface) sc g := by
  cases result with
  | error code =>
    simp only [conclude, Attempt.keeps_bind, Attempt.keeps_update]
    split
    · simp only [Attempt.keeps_bind, Attempt.keeps_update, Attempt.keeps_step, notice,
        Program.keeps_log, Attempt.keeps_fail]
      exact ⟨h true (by simp), trivial, trivial⟩
    · exact ⟨h sc.stale id, rfl, rfl⟩
  | ok suboptimal =>
    simp only [conclude, Attempt.keeps_bind, Attempt.keeps_update]
    split
    · simp only [Attempt.keeps_step, notice, Program.keeps_log]
      exact ⟨h sc.stale id, trivial⟩
    · exact ⟨h sc.stale id, rfl⟩

end Swapchain

theorem Terms.negotiate_strictly (ctx : Context) (surface : Handle .surface)
    (desc : SwapchainDesc) :
    (negotiate ctx surface desc).Keeps (strictly Call.Inquires) (fun _ _ _ => True)
      (fun _ _ _ => True) () () := by
  rw [negotiate, Attempt.keeps_bind]
  apply attempt_beside (fun _ => trivial) (ask_beside _ trivial)
  intro capabilities
  rw [Attempt.keeps_bind]
  apply attempt_beside (fun _ => trivial) (ask_beside _ trivial)
  intro formats
  rw [Attempt.keeps_bind]
  apply attempt_beside (fun _ => trivial) (ask_beside _ trivial)
  intro modes
  dsimp only
  split
  · rw [Attempt.keeps_bind, Attempt.keeps_step]
    exact refuse_keeps _ _ trivial
  · split
    · simp only [Attempt.keeps_bind, Attempt.keeps_step, notice, Program.keeps_log]
      trivial
    · trivial

theorem Terms.negotiate_keeps (ctx : Context) (surface : Handle .surface)
    (desc : SwapchainDesc) :
    (negotiate ctx surface desc).Keeps (within Call.Inquires calm) (fun _ _ _ => True)
      (fun _ _ _ => True) () () :=
  strictly_within (negotiate_strictly ctx surface desc)

namespace Swapchain

theorem release_strictly (ctx : Context) (sc : Swapchain) :
    (sc.release ctx).Keeps (strictly (Call.Releases ctx.device sc)) (fun _ _ => True) () := by
  apply Program.Keeps.andThen (ask_beside _ trivial)
  intro _ _ _
  have hfirst : (Call.destroy .fence (some ctx.device.object) sc.acquireFence).Releases
      ctx.device sc := ⟨rfl, List.mem_cons_self⟩
  apply Program.Keeps.andThen (ask_beside _ hfirst)
  intro _ _ _
  have hfences : ∀ fence ∈ sc.generalFences ++ sc.presentFences,
      (Call.destroy .fence (some ctx.device.object) fence).Releases ctx.device sc :=
    fun fence hfence => ⟨rfl, List.mem_cons_of_mem _ hfence⟩
  apply Program.Keeps.andThen (destroyAll_beside _ id _ hfences)
  intro _ _ _
  apply Program.Keeps.andThen (destroyAll_beside _ some _ (by intro _ _; rfl))
  intro _ _ _
  apply Program.Keeps.andThen (ask_beside _ rfl)
  intro _ _ _
  apply Program.Keeps.andThen (destroyAll_beside _
    (fun t : SwapchainTexture => some t.view) _ (by intro _ _; rfl))
  intro _ _ _
  exact ask_beside _ ⟨rfl, rfl⟩

theorem release_within (ctx : Context) (sc : Swapchain) :
    (sc.release ctx).Keeps (within (Call.Releases ctx.device sc) calm) (fun _ _ => True) () :=
  strictly_within (release_strictly ctx sc)

/-- What holds of a result, by whether it is one. -/
def Either {ε : Type} (ok : α → γ → Prop) (err : γ → Prop) : Except ε α → γ → Prop
  | .ok a => ok a
  | .error _ => err

/-- A new swapchain is negotiated, created and built. One that is not finished is released. -/
theorem create_phases {w : Watch interface γ} [w.Deaf] {g : γ} {P E : γ → Prop}
    {Q : Handle .swapchain → γ → Prop} {R S : Swapchain → γ → Prop}
    {old : Option (Handle .swapchain)} (ctx : Context) (surface : Handle .surface)
    (desc : SwapchainDesc)
    (hnegotiate : (Terms.negotiate ctx surface desc).Keeps w (fun _ _ => P) (fun _ _ => E) () g)
    (hcreate : ∀ (terms : Terms) g, P g →
      (ask (.create (.swapchain ctx.device (terms.request ctx surface desc old)))).Keeps w
        (Either Q E) g)
    (hbuild : ∀ terms handle g, Q handle g →
      (build ctx terms desc).Keeps w (fun _ => S) (fun _ => R) (bare handle terms.extent) g)
    (hrelease : ∀ sc g, R sc g → (sc.release ctx).Keeps w (fun _ => E) g) :
    (create ctx surface desc old).Keeps w
      (Either S E) g := by
  apply Program.Keeps.andThen hnegotiate
  rintro ⟨e | terms, _⟩ g h
  · exact h
  apply Program.Keeps.andThen (hcreate terms g h)
  rintro (code | handle) g h
  · apply Program.keeps_andThen.mpr
    apply callFailure_keeps _ code
    intro _ _
    exact h
  apply Program.Keeps.andThen (hbuild terms handle g h)
  rintro ⟨e | ⟨⟩, sc⟩ g h
  · apply Program.Keeps.andThen (hrelease sc g h)
    intro _ g h
    exact h
  · exact h

theorem bare_fresh (handle : Handle .swapchain) (extent : Extent) :
    (bare handle extent).Fresh handle := ⟨rfl, rfl, rfl⟩

/-- The phases of a creation where all that matters of a phase is which calls it makes. -/
theorem create_bears {w : Watch interface γ} [w.Deaf] {g : γ} {P E : γ → Prop}
    {Q R : Handle .swapchain → γ → Prop} {old : Option (Handle .swapchain)} (ctx : Context)
    (surface : Handle .surface) (desc : SwapchainDesc) (hhalts : w.halts)
    (hinquire : w.Bears Call.Inquires P) (hunmade : ∀ g, P g → E g)
    (hcreate : ∀ request g, request.old = old → P g →
      (ask (.create (.swapchain ctx.device request))).Keeps w
        (Either Q E) g)
    (hbuild : ∀ handle, w.Bears (Call.Builds handle) (Q handle))
    (hturn : ∀ handle g, Q handle g → R handle g)
    (hrelease : ∀ sc, w.Bears (Call.Releases ctx.device sc) (R sc.handle))
    (hended : ∀ handle g, R handle g → E g) (h : P g) :
    (create ctx surface desc old).Keeps w
      (Either (fun sc g => sc.Fresh sc.handle ∧ sc.textures ≠ [] ∧ Q sc.handle g) E) g := by
  apply create_phases (P := P) (Q := Q) (R := fun sc => R sc.handle)
    (S := fun sc g => sc.Fresh sc.handle ∧ sc.textures ≠ [] ∧ Q sc.handle g) ctx surface desc
  · apply (attempt_bears hinquire hhalts (Terms.negotiate_keeps ctx surface desc) h).mono
    · intro _ _ _ h
      exact h.2
    · intro _ _ g h
      exact hunmade g h.2
  · intro terms g h
    exact hcreate (terms.request ctx surface desc old) g rfl h
  · intro terms handle g h
    apply (attempt_bears (hbuild handle) hhalts
      (build_keeps ctx terms desc (bare_fresh handle terms.extent)) h).mono
    · rintro _ sc g ⟨⟨⟨rfl, hheld, hstale⟩, htextures⟩, h⟩
      exact ⟨⟨rfl, hheld, hstale⟩, htextures, h⟩
    · rintro _ sc g ⟨⟨rfl, -, -⟩, h⟩
      exact hturn sc.handle g h
  · intro sc g h
    apply (within_bears (hrelease sc) hhalts (release_within ctx sc) h).mono
    intro _ g hr
    exact hended sc.handle g hr.2

end Swapchain

namespace WindowSurface

theorem queryInfo_strictly (ws : WindowSurface) :
    ws.queryInfo.Keeps (strictly Call.Inquires) (fun _ _ => True) () := by
  apply Program.keeps_andThen.mpr
  apply ask_keeps _ trivial
  intro answer _
  cases answer with
  | error code =>
    exact Program.keeps_andThen.mpr (refuse_keeps _ _ trivial)
  | ok capabilities =>
    apply Program.keeps_andThen.mpr
    apply ask_keeps _ trivial
    intro answer _
    cases answer with
    | error code =>
      exact Program.keeps_andThen.mpr (refuse_keeps _ _ trivial)
    | ok formats =>
      trivial

theorem queryInfo_keeps (ws : WindowSurface) :
    ws.queryInfo.Keeps (within Call.Inquires calm) (fun _ _ => True) () :=
  strictly_within (queryInfo_strictly ws)

end WindowSurface

end Presentation.Vulkan
