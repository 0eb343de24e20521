import Presentation.Proofs.Surface.Transition

/-!
# What an operation can do

For each operation of a surface: the calls that it can make, the answers that it
can get to them, and what becomes of the surface. What is proved of a surface by
way of its operations is proved by going through these cases.
-/

set_option autoImplicit false

namespace Presentation.Surface

/-- The configuration that an operation asks for. -/
def requested (s : Surface) : Op → Option SurfaceConfig
  | .configure config => some config
  | .resize width height =>
    if width = 0 ∨ height = 0 then none
    else (s.config <|> s.lastConfig).map (·.withSize width height)
  | _ => none

/-- An operation that is to leave the surface unconfigured. -/
def Op.Minimises : Op → Prop
  | .unconfigure => True
  | .resize width height => width = 0 ∨ height = 0
  | _ => False

/-- The surface after an answer to the question what it supports. -/
def informed (s : Surface) : Except Error SurfaceInfo → Surface
  | .ok info => { s with info }
  | .error _ => s

@[simp] theorem informed_active (s : Surface) (info : Except Error SurfaceInfo) :
    (s.informed info).active = s.active := by
  cases info with
  | error e => rfl
  | ok info => rfl

@[simp] theorem informed_config (s : Surface) (info : Except Error SurfaceInfo) :
    (s.informed info).config = s.config := by
  rw [config, config, informed_active]

@[simp] theorem informed_lastConfig (s : Surface) (info : Except Error SurfaceInfo) :
    (s.informed info).lastConfig = s.lastConfig := by
  cases info with
  | error e => rfl
  | ok info => rfl

/-- If what a surface is configured as is what it remembers, a resize starts from that. -/
theorem config_orElse_lastConfig {s : Surface}
    (h : ∀ config, s.config = some config → s.lastConfig = some config) :
    (s.config <|> s.lastConfig) = s.lastConfig := by
  cases hconfig : s.config with
  | none => rfl
  | some config => exact (h config hconfig).symm

inductive Acts (s : Surface) : Op → List (Event Native.interface) → Reply → Surface → Prop
  | configured {op : Op} {config : SurfaceConfig} {desc : SwapchainDesc} (images : List Texture)
      (info : Except Error SurfaceInfo) : s.requested op = some config →
      config.validate s.info = .ok desc →
      s.Acts op [.asked (.configure desc) (.ok ()), .asked .images images, .asked .queryInfo info]
        (.unit (.ok ())) ((s.adopt config images).informed info)
  | refused {op : Op} {config : SurfaceConfig} {desc : SwapchainDesc} (e : Error) :
      s.requested op = some config → config.validate s.info = .ok desc →
      s.Acts op [.asked (.configure desc) (.error e)] (.unit (.error e)) s
  | rejected {op : Op} {config : SurfaceConfig} {e : Error} : s.requested op = some config →
      config.validate s.info = .error e → s.Acts op [] (.unit (.error e)) s
  | unprecedented {width height : UInt32} : ¬ (width = 0 ∨ height = 0) →
      s.requested (.resize width height) = none →
      s.Acts (.resize width height) [] (.unit (.error .notConfigured)) s
  | minimised {op : Op} (info : Except Error SurfaceInfo) : op.Minimises →
      s.isConfigured = true →
      s.Acts op [.asked .unconfigure (), .asked .queryInfo info] (.unit (.ok ()))
        ({ s with active := none }.informed info)
  | idle {op : Op} : op.Minimises → s.active = none → s.Acts op [] (.unit (.ok ())) s
  | acquired {active : ActiveConfig} {index : Nat} {texture : Texture} : s.active = some active →
      active.acquired = none → active.stale = false →
      active.pool.images[index]? = some texture →
      s.Acts .acquire [.asked .acquire (.ok index)]
        (.image (.ok ⟨index, active.pool.generation, texture.info⟩))
        { s with active := some { active with acquired := some index } }
  | strayed {active : ActiveConfig} {index : Nat} : s.active = some active →
      active.acquired = none → active.pool.images[index]? = none →
      s.Acts .acquire [.asked .acquire (.ok index)] (.image (.error .outOfDateSurface))
        { s with active := some { active with stale := true } }
  | missed (e : Error) : s.Acts .acquire [.asked .acquire (.error e)] (.image (.error e)) s
  | barred (e : Error) : s.Acts .acquire [] (.image (.error e)) s
  | presented {index : Nat} {answer : Except Error Unit} : s.acquired = some index →
      answer = .ok () ∨ answer = .error .outOfDateSurface →
      s.Acts .present [.asked (.present index) answer] (.unit answer) s.released
  | kept {index : Nat} {e : Error} : s.acquired = some index → e ≠ .outOfDateSurface →
      s.Acts .present [.asked (.present index) (.error e)] (.unit (.error e)) s
  | emptyHanded : s.acquired = none → s.Acts .present [] (.unit (.error .notAcquired)) s
  | refreshed (info : Except Error SurfaceInfo) :
      s.Acts .refresh [.asked .queryInfo info] (.info info) (s.informed info)
  | looked : s.Acts .current [] (.current s.currentImage) s

/-- A call that an operation can make after others. What is asked of a configuration comes first,
and is settled by the snapshot that there is. -/
def MayCall (s : Surface) (op : Op) : List (Event Native.interface) → Native.Call → Prop
  | [], .configure desc => ∃ config, s.requested op = some config ∧
      config.validate s.info = .ok desc
  | [], _ => True
  | _ :: _, call => call.Reads

/-- The calls of one operation. -/
def calling (s : Surface) (op : Op) : Watch Native.interface (List (Event Native.interface)) :=
  Watch.tape (s.MayCall op) (fun _ _ => True) False

variable {s : Surface} {op : Op}

instance : (s.calling op).Deaf := ⟨fun es _ => List.append_nil es⟩

theorem refreshAfterTransition_acts (s' : Surface) (e : Event Native.interface)
    (es : List (Event Native.interface)) :
    s'.refreshAfterTransition.Keeps (s.calling op)
      (fun r calls => ∃ info, calls = e :: es ++ [.asked .queryInfo info] ∧
        r = s'.informed info) (e :: es) := by
  simp only [refreshAfterTransition, Native.queryInfo, Program.keeps_andThen, Program.call,
    Program.keeps_ask, Program.keeps_done]
  refine ⟨trivial, ?_⟩
  intro answer _
  cases answer with
  | error error =>
    simp only [notice, Program.keeps_andThen, Program.keeps_log, Program.keeps_pure]
    exact ⟨.error error, rfl, rfl⟩
  | ok info =>
    exact ⟨.ok info, rfl, rfl⟩

theorem configure_acts {config : SurfaceConfig} (h : s.requested op = some config) :
    (s.configure config).Keeps (s.calling op) (fun r calls => s.Acts op calls (.unit r.1) r.2)
      [] := by
  unfold configure
  split
  · rename_i hrejected
    simp only [notice, Program.keeps_andThen, Program.keeps_log, Program.keeps_pure]
    exact .rejected h hrejected
  · rename_i desc hdesc
    simp only [notice, Program.keeps_logIf, Program.keeps_andThen, Native.configure, Program.call,
      Program.keeps_ask, Program.keeps_done]
    refine ⟨⟨config, h, hdesc⟩, ?_⟩
    intro answer _
    cases answer with
    | error e => exact .refused e h hdesc
    | ok done =>
      simp only [Native.images, Program.keeps_logIf, Program.keeps_andThen, Program.call,
        Program.keeps_ask, Program.keeps_done, Program.keeps_log, Program.keeps_pure]
      refine ⟨trivial, ?_⟩
      intro images _
      apply (refreshAfterTransition_acts _ _ _).mono
      rintro _ _ ⟨info, rfl, rfl⟩
      exact .configured images info h hdesc

theorem unconfigure_acts (h : op.Minimises) :
    s.unconfigure.Keeps (s.calling op) (fun s' calls => s.Acts op calls (.unit (.ok ())) s')
      [] := by
  unfold unconfigure
  split
  · rename_i hconfigured
    simp only [notice, Program.keeps_logIf, Program.keeps_andThen, Native.unconfigure,
      Program.call, Program.keeps_ask, Program.keeps_done, Program.keeps_log, Program.keeps_pure]
    refine ⟨trivial, ?_⟩
    intro _ _
    apply (refreshAfterTransition_acts _ _ _).mono
    rintro _ _ ⟨info, rfl, rfl⟩
    exact .minimised info h hconfigured
  · rename_i hidle
    exact .idle h (by simpa [isConfigured] using hidle)

theorem resize_acts (width height : UInt32) :
    (s.resize width height).Keeps (s.calling (.resize width height))
      (fun r calls => s.Acts (.resize width height) calls (.unit r.1) r.2) [] := by
  unfold resize
  split
  · rename_i hempty
    simp only [Program.keeps_andThen, Program.keeps_pure]
    exact unconfigure_acts hempty
  · rename_i harea
    split
    · rename_i hnone
      exact .unprecedented harea (by simp only [requested, if_neg harea, hnone, Option.map_none])
    · rename_i base hbase
      exact configure_acts (by simp only [requested, if_neg harea, hbase, Option.map_some])

theorem acquireNextImage_acts :
    s.acquireNextImage.Keeps (s.calling .acquire)
      (fun r calls => s.Acts .acquire calls (.image r.1) r.2) [] := by
  unfold acquireNextImage
  split
  · simp only [notice, Program.keeps_andThen, Program.keeps_log, Program.keeps_pure]
    exact .barred _
  · rename_i active hactive
    split
    · simp only [notice, Program.keeps_andThen, Program.keeps_log, Program.keeps_pure]
      exact .barred _
    · rename_i hfree
      split
      · simp only [notice, Program.keeps_andThen, Program.keeps_log, Program.keeps_pure]
        exact .barred _
      · rename_i hstale
        rw [Bool.not_eq_true] at hstale
        simp only [Native.acquire, Program.keeps_andThen, Program.call, Program.keeps_ask,
          Program.keeps_done]
        refine ⟨trivial, ?_⟩
        intro answer _
        cases answer with
        | error e =>
          cases e with
          | _ => exact .missed _
        | ok index =>
          dsimp only
          split
          · rename_i hstray
            simp only [notice, Program.keeps_andThen, Program.keeps_log, Program.keeps_pure]
            exact .strayed hactive hfree hstray
          · rename_i texture htexture
            simp only [notice, Program.keeps_andThen, Program.keeps_log, Program.keeps_pure]
            exact .acquired hactive hfree hstale htexture

theorem present_acts :
    s.present.Keeps (s.calling .present) (fun r calls => s.Acts .present calls (.unit r.1) r.2)
      [] := by
  unfold present
  split
  · rename_i hnone
    simp only [notice, Program.keeps_andThen, Program.keeps_log, Program.keeps_pure]
    exact .emptyHanded hnone
  · rename_i index hindex
    simp only [Native.present, Program.keeps_andThen, Program.call, Program.keeps_ask,
      Program.keeps_done]
    refine ⟨trivial, ?_⟩
    intro answer _
    cases answer with
    | ok done => exact .presented hindex (Or.inl rfl)
    | error e =>
      cases e with
      | outOfDateSurface => exact .presented hindex (Or.inr rfl)
      | _ => exact .kept hindex (by simp)

theorem refreshInfo_acts :
    s.refreshInfo.Keeps (s.calling .refresh) (fun r calls => s.Acts .refresh calls (.info r.1) r.2)
      [] := by
  simp only [refreshInfo, Native.queryInfo, Program.keeps_andThen, Program.call,
    Program.keeps_ask, Program.keeps_done]
  refine ⟨trivial, ?_⟩
  intro answer _
  cases answer with
  | error e => exact .refreshed (.error e)
  | ok info => exact .refreshed (.ok info)

/-- Every operation acts in one of these ways, and never halts. -/
theorem perform_acts (s : Surface) (op : Op) :
    (s.perform op).Keeps (s.calling op) (fun r calls => s.Acts op calls r.1 r.2) [] := by
  cases op with
  | configure config =>
    simp only [perform, Program.keeps_andThen, Program.keeps_pure]
    exact configure_acts rfl
  | resize width height =>
    simp only [perform, Program.keeps_andThen, Program.keeps_pure]
    exact resize_acts width height
  | unconfigure =>
    simp only [perform, Program.keeps_andThen, Program.keeps_pure]
    exact unconfigure_acts trivial
  | acquire =>
    simp only [perform, Program.keeps_andThen, Program.keeps_pure]
    exact acquireNextImage_acts
  | present =>
    simp only [perform, Program.keeps_andThen, Program.keeps_pure]
    exact present_acts
  | refresh =>
    simp only [perform, Program.keeps_andThen, Program.keeps_pure]
    exact refreshInfo_acts
  | current => exact .looked

/-- A surface with the pool that there was, or with none. -/
structure Retains (s s' : Surface) : Prop where
  generation : s'.generation = s.generation
  pool : ∀ active', s'.active = some active' →
    ∃ active, s.active = some active ∧ active'.pool = active.pool

namespace Retains

variable {s s' : Surface}

theorem refl (s : Surface) : s.Retains s := ⟨rfl, fun active hactive => ⟨active, hactive, rfl⟩⟩

theorem informed (h : s.Retains s') (info : Except Error SurfaceInfo) :
    s.Retains (s'.informed info) := by
  cases info with
  | error e => exact h
  | ok info => exact ⟨h.generation, h.pool⟩

theorem withActive {active active' : ActiveConfig} (hs : s.active = some active)
    (hpool : active'.pool = active.pool) : s.Retains { s with active := some active' } := by
  refine ⟨rfl, ?_⟩
  rintro _ ⟨⟩
  exact ⟨active, hs, hpool⟩

end Retains

theorem requested_of_minimises (h : op.Minimises) : s.requested op = none := by
  cases op with
  | unconfigure => rfl
  | resize width height => exact if_pos h
  | _ => exact h.elim

theorem not_minimises {config : SurfaceConfig} (h : s.requested op = some config) :
    ¬ op.Minimises := by
  intro hop
  cases (requested_of_minimises hop).symm.trans h

section

variable {calls : List (Event Native.interface)} {reply : Reply} {s' : Surface}
  {image : SurfaceImage}

/-- A configuration succeeds and brings a pool, or the one that there was is retained. -/
theorem Acts.brings_or_retains (h : s.Acts op calls reply s') :
    (∃ config desc images info, s.requested op = some config ∧
      config.validate s.info = .ok desc ∧
      calls = [.asked (.configure desc) (.ok ()), .asked .images images, .asked .queryInfo info] ∧
      reply = .unit (.ok ()) ∧ s' = (s.adopt config images).informed info) ∨
    (reply = .unit (.ok ()) → s.requested op = none) ∧ s.Retains s' := by
  cases h with
  | configured images info hrequested hdesc =>
    exact Or.inl ⟨_, _, images, info, hrequested, hdesc, rfl, rfl, rfl⟩
  | refused e hrequested hdesc => exact Or.inr ⟨by simp, .refl s⟩
  | rejected hrequested herror => exact Or.inr ⟨by simp, .refl s⟩
  | unprecedented harea hnone => exact Or.inr ⟨by simp, .refl s⟩
  | minimised info hop hconfigured =>
    have hretains : s.Retains { s with active := none } := ⟨rfl, by rintro _ ⟨⟩⟩
    exact Or.inr ⟨fun _ => requested_of_minimises hop, hretains.informed info⟩
  | idle hop hactive => exact Or.inr ⟨fun _ => requested_of_minimises hop, .refl s⟩
  | acquired hactive hfree hstale htexture => exact Or.inr ⟨by simp, .withActive hactive rfl⟩
  | strayed hactive hfree hstray => exact Or.inr ⟨by simp, .withActive hactive rfl⟩
  | missed e => exact Or.inr ⟨by simp, .refl s⟩
  | barred e => exact Or.inr ⟨by simp, .refl s⟩
  | presented hindex hanswer =>
    obtain ⟨active, hactive, -⟩ := Option.bind_eq_some_iff.mp hindex
    have hretains : s.Retains s.released := by
      rw [released, hactive]
      exact .withActive hactive rfl
    exact Or.inr ⟨fun _ => rfl, hretains⟩
  | kept hindex hne => exact Or.inr ⟨by simp, .refl s⟩
  | emptyHanded hfree => exact Or.inr ⟨by simp, .refl s⟩
  | refreshed info => exact Or.inr ⟨by simp, (Retains.refl s).informed info⟩
  | looked => exact Or.inr ⟨by simp, .refl s⟩

/-- An image as it lies in a pool. -/
def Contains (s : Surface) (image : SurfaceImage) : Prop :=
  ∃ active texture, s.active = some active ∧ active.pool.images[image.index]? = some texture ∧
    image.generation = active.pool.generation ∧ image.info = texture.info

theorem contains_currentImage (h : s.currentImage = some image) : s.Contains image := by
  obtain ⟨active, hactive, h⟩ := Option.bind_eq_some_iff.mp h
  obtain ⟨index, hindex, h⟩ := Option.bind_eq_some_iff.mp h
  obtain ⟨texture, htexture, h⟩ := Option.bind_eq_some_iff.mp h
  cases h
  exact ⟨active, texture, hactive, htexture, rfl, rfl⟩

/-- An image that an operation hands to the application lies in the pool. -/
theorem Acts.contains (h : s.Acts op calls reply s')
    (himage : reply = .image (.ok image) ∨ reply = .current (some image)) : s'.Contains image := by
  cases h with
  | acquired hactive hfree hstale htexture =>
    rcases himage with himage | himage
    · cases himage
      exact ⟨_, _, rfl, htexture, rfl, rfl⟩
    · cases himage
  | looked =>
    rcases himage with himage | himage
    · cases himage
    · exact contains_currentImage (Reply.current.inj himage)
  | _ => rcases himage with himage | himage <;> cases himage

end

/-- With any native surface, an operation ends in one of these ways. -/
theorem perform_run {σ : Type} (answer : (c : Native.Call) → σ → c.Answer × σ) (native : σ)
    (s : Surface) (op : Op) :
    ∃ reply s', ((s.perform op).run answer native).outcome = .ok (reply, s') ∧
      s.Acts op (Watch.calls ((s.perform op).run answer native).events) reply s' := by
  obtain ⟨-, hend, hhalt⟩ := (perform_acts s op).run answer native (fun _ _ _ _ => trivial)
  cases h : ((s.perform op).run answer native).outcome with
  | error reason => exact (hhalt reason h).elim
  | ok r =>
    have hacts := hend r h
    rw [calling, Watch.tape_after, List.nil_append] at hacts
    exact ⟨r.1, r.2, rfl, hacts⟩

/-- A watch that follows nothing, under which no program may halt. -/
def heedless : Watch Native.interface Unit where
  see _ _ := ()
  allows _ _ := True
  trusts _ _ _ := True
  halts := False

instance : heedless.Deaf := ⟨fun _ _ => rfl⟩

/-- A surface that was just made knows what the window supports, and nothing else. -/
theorem attach_new (device : String) :
    (attach device).Keeps heedless
      (fun r _ => ∀ s, r = .ok s → ∃ info, s = ⟨device, info, none, none, 0⟩) () := by
  simp only [attach, Native.queryInfo, Program.keeps_andThen, Program.call, Program.keeps_ask,
    Program.keeps_done]
  refine ⟨trivial, ?_⟩
  rintro (e | info) -
  · simp only [notice, Program.keeps_andThen, Program.keeps_log, Program.keeps_pure]
    rintro s ⟨⟩
  · dsimp only
    split
    · simp only [notice, Program.keeps_andThen, Program.keeps_log, Program.keeps_pure]
      rintro s ⟨⟩
    · simp only [notice, Program.keeps_andThen, Program.keeps_log, Program.keeps_pure]
      rintro s ⟨⟩
      exact ⟨info, rfl⟩

theorem attach_unconfigured (device : String) :
    (attach device).Keeps heedless (fun r _ => ∀ s, r = .ok s → s.active = none) () := by
  apply (attach_new device).mono
  intro r _ hnew s hs
  obtain ⟨info, rfl⟩ := hnew s hs
  rfl

end Presentation.Surface
