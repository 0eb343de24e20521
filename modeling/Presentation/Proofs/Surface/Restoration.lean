import Presentation.Native.Simulated
import Presentation.Proofs.Surface.Act

/-!
# Restoring a surface

A surface that is minimised remembers what it was configured as, for when its
window has an area again. What it remembers is what the last operation that
succeeded in configuring it has installed: a surface that is configured is
configured as that, and neither failures nor further minimising make it forget.
-/

set_option autoImplicit false

namespace Presentation.Surface

/-- A step of a session that has installed a configuration. -/
def Installs : Op × Reply → Prop
  | (.configure _, .unit (.ok ())) => True
  | (.resize width height, .unit (.ok ())) => ¬ (width = 0 ∨ height = 0)
  | _ => False

/-- What was installed last, given the steps so far, the latest first. -/
inductive Installed : List (Op × Reply) → SurfaceConfig → Prop
  | configured {past : List (Op × Reply)} (config : SurfaceConfig) :
      Installed ((.configure config, .unit (.ok ())) :: past) config
  | resized {past : List (Op × Reply)} {config : SurfaceConfig} {width height : UInt32} :
      Installed past config → ¬ (width = 0 ∨ height = 0) →
      Installed ((.resize width height, .unit (.ok ())) :: past) (config.withSize width height)
  | kept {past : List (Op × Reply)} {config : SurfaceConfig} {step : Op × Reply} :
      Installed past config → ¬ Installs step → Installed (step :: past) config

variable {past before : List (Op × Reply)} {config : SurfaceConfig} {step : Op × Reply}
  {s s' : Surface} {op : Op} {calls : List (Event Native.interface)} {reply : Reply}

theorem Installed.append (h : Installed before config) (hpast : ∀ step ∈ past, ¬ Installs step) :
    Installed (past ++ before) config := by
  induction past with
  | nil => exact h
  | cons step past ih =>
    exact (ih fun step hstep => hpast step (List.mem_cons_of_mem _ hstep)).kept
      (hpast step List.mem_cons_self)

theorem Installed.exists_installs (h : Installed past config) : ∃ step ∈ past, Installs step := by
  induction h with
  | configured config => exact ⟨_, List.mem_cons_self, trivial⟩
  | resized h harea ih => exact ⟨_, List.mem_cons_self, harea⟩
  | kept h hstep ih =>
    obtain ⟨step, hmem, hinstalls⟩ := ih
    exact ⟨step, List.mem_cons_of_mem _ hmem, hinstalls⟩

theorem installed_of_not_installs (h : ¬ Installs step) :
    Installed (step :: past) config ↔ Installed past config := by
  constructor
  · rintro (_ | ⟨-, harea⟩ | ⟨hpast, -⟩)
    · exact absurd trivial h
    · exact absurd harea h
    · exact hpast
  · intro hpast
    exact hpast.kept h

theorem not_installs_error (op : Op) (e : Error) : ¬ Installs (op, .unit (.error e)) := by
  cases op <;> exact id

theorem not_installs_of_minimises (h : op.Minimises) : ¬ Installs (op, .unit (.ok ())) := by
  cases op with
  | unconfigure => exact id
  | resize width height => exact not_not_intro h
  | _ => exact h.elim

theorem config_withActive {active active' : ActiveConfig} (hs : s.active = some active)
    (hconfig : active'.config = active.config) :
    { s with active := some active' }.config = s.config := by
  rw [config, config, hs]
  exact congrArg some hconfig

theorem config_released (s : Surface) : s.released.config = s.config := by
  rw [config, config, released, Option.map_map]
  rfl

/-- A step installs what was asked for, or neither configures the surface nor makes it forget. -/
theorem Acts.installs_or_keeps (h : s.Acts op calls reply s') :
    (∃ config, s.requested op = some config ∧ reply = .unit (.ok ()) ∧
      s'.config = some config ∧ s'.lastConfig = some config) ∨
    ¬ Installs (op, reply) ∧ s'.lastConfig = s.lastConfig ∧
      (s'.config = s.config ∨ s'.config = none) := by
  cases h with
  | configured images info hrequested hdesc =>
    exact Or.inl ⟨_, hrequested, rfl, informed_config _ info, informed_lastConfig _ info⟩
  | refused e hrequested hdesc => exact Or.inr ⟨not_installs_error op e, rfl, Or.inl rfl⟩
  | rejected hrequested herror => exact Or.inr ⟨not_installs_error op _, rfl, Or.inl rfl⟩
  | unprecedented harea hnone => exact Or.inr ⟨not_installs_error _ _, rfl, Or.inl rfl⟩
  | minimised info hop hconfigured =>
    exact Or.inr ⟨not_installs_of_minimises hop, informed_lastConfig _ info,
      Or.inr (informed_config _ info)⟩
  | idle hop hactive => exact Or.inr ⟨not_installs_of_minimises hop, rfl, Or.inl rfl⟩
  | acquired hactive hfree hstale htexture =>
    exact Or.inr ⟨id, rfl, Or.inl (config_withActive hactive rfl)⟩
  | strayed hactive hfree hstray =>
    exact Or.inr ⟨id, rfl, Or.inl (config_withActive hactive rfl)⟩
  | missed e => exact Or.inr ⟨id, rfl, Or.inl rfl⟩
  | barred e => exact Or.inr ⟨id, rfl, Or.inl rfl⟩
  | presented hindex hanswer => exact Or.inr ⟨id, rfl, Or.inl (config_released s)⟩
  | kept hindex hne => exact Or.inr ⟨id, rfl, Or.inl rfl⟩
  | emptyHanded hnone => exact Or.inr ⟨id, rfl, Or.inl rfl⟩
  | refreshed info =>
    exact Or.inr ⟨id, informed_lastConfig s info, Or.inl (informed_config s info)⟩
  | looked => exact Or.inr ⟨id, rfl, Or.inl rfl⟩

/-- What a surface remembers of the steps so far, the latest first. -/
structure Recalls (s : Surface) (past : List (Op × Reply)) : Prop where
  last : ∀ config, s.lastConfig = some config ↔ Installed past config
  current : ∀ config, s.config = some config → s.lastConfig = some config
  ever : (∃ step ∈ past, Installs step) → ∃ config, Installed past config
  /-- Right after an installation the surface is configured. -/
  latest : ∀ step before, past = step :: before → Installs step → s.config = s.lastConfig

namespace Recalls

theorem new (device : String) (info : SurfaceInfo) :
    Recalls ⟨device, info, none, none, 0⟩ [] where
  last := by
    intro config
    constructor
    · rintro ⟨⟩
    · rintro ⟨⟩
  current := by rintro _ ⟨⟩
  ever := by
    rintro ⟨step, hstep, -⟩
    cases hstep
  latest := by rintro _ _ ⟨⟩

/-- What is requested and granted is what is installed. -/
theorem installed_iff (h : s.Recalls past) (hstep : Installs (op, .unit (.ok ()))) :
    Installed ((op, .unit (.ok ())) :: past) config ↔ s.requested op = some config := by
  constructor
  · intro hinstalled
    cases hinstalled with
    | configured => rfl
    | resized hpast harea =>
      rw [requested, if_neg harea, config_orElse_lastConfig h.current, (h.last _).mpr hpast,
        Option.map_some]
    | kept hpast hnot => exact absurd hstep hnot
  · intro hrequested
    cases op with
    | configure config' =>
      cases hrequested
      exact .configured config
    | resize width height =>
      rw [requested, if_neg hstep, config_orElse_lastConfig h.current] at hrequested
      obtain ⟨base, hbase, rfl⟩ := Option.map_eq_some_iff.mp hrequested
      exact ((h.last base).mp hbase).resized hstep
    | _ => exact hstep.elim

end Recalls

theorem installs_of_requested (h : s.requested op = some config) :
    Installs (op, .unit (.ok ())) := by
  cases op with
  | configure => trivial
  | resize width height =>
    intro harea
    rw [requested, if_pos harea] at h
    cases h
  | _ => cases h

/-- Every way of acting is remembered. -/
theorem Acts.recalls (hacts : s.Acts op calls reply s') (h : s.Recalls past) :
    s'.Recalls ((op, reply) :: past) := by
  rcases hacts.installs_or_keeps with ⟨config, hrequested, rfl, hconfig, hlast⟩ |
    ⟨hstep, hlast, hconfig⟩
  · have hstep := installs_of_requested hrequested
    -- both places now hold what was requested, and what was remembered before no longer counts
    exact {
      last := by
        intro config'
        rw [h.installed_iff hstep, hlast, hrequested]
      current := by
        intro config' hsome
        rw [hlast, ← hconfig, hsome]
      ever := fun _ => ⟨config, (h.installed_iff hstep).mpr hrequested⟩
      latest := fun _ _ _ _ => hconfig.trans hlast.symm }
  · exact {
      last := by
        intro config
        rw [hlast, h.last, installed_of_not_installs hstep]
      current := by
        intro config hsome
        rw [hlast]
        rcases hconfig with hconfig | hconfig
        · exact h.current config (hconfig ▸ hsome)
        · cases hconfig.symm.trans hsome
      ever := by
        rintro ⟨step, hmem, hinstalls⟩
        rcases List.mem_cons.mp hmem with rfl | hmem
        · exact absurd hinstalls hstep
        · obtain ⟨config, hinstalled⟩ := h.ever ⟨step, hmem, hinstalls⟩
          exact ⟨config, hinstalled.kept hstep⟩
      latest := by
        rintro _ _ ⟨⟩ hinstalls
        exact absurd hinstalls hstep }

section

variable {σ : Type} {answer : (c : Native.Call) → σ → c.Answer × σ} {native : σ} {ops : List Op}
  {replies : List Reply}

theorem performAll_recalls (h : s.Recalls past)
    (hrun : ((s.performAll ops).run answer native).outcome = .ok (replies, s')) :
    replies.length = ops.length ∧ s'.Recalls ((ops.zip replies).reverse ++ past) := by
  induction ops generalizing s native past replies with
  | nil =>
    cases hrun
    exact ⟨rfl, h⟩
  | cons op ops ih =>
    obtain ⟨⟨reply, t⟩, hperform, hrest, -⟩ := Program.run_bind_ok hrun
    obtain ⟨⟨rest, t'⟩, hall, hdone, -⟩ := Program.run_bind_ok hrest
    cases hdone
    obtain ⟨reply', t', houtcome, hacts⟩ := perform_run answer native s op
    cases houtcome.symm.trans hperform
    obtain ⟨hlength, hrecalls⟩ := ih (hacts.recalls h) hall
    rw [List.zip_cons_cons, List.reverse_cons, List.append_assoc]
    exact ⟨congrArg (· + 1) hlength, hrecalls⟩

theorem life_recalls {device : String}
    (hrun : ((life device ops).run answer native).outcome = .ok (.ok (replies, s))) :
    replies.length = ops.length ∧ s.Recalls (ops.zip replies).reverse := by
  obtain ⟨made, hattach, hrest, -⟩ := Program.run_bind_ok hrun
  cases made with
  | error e => cases hrest
  | ok s₀ =>
    obtain ⟨⟨rest, t⟩, hall, hdone, -⟩ := Program.run_bind_ok hrest
    cases hdone
    obtain ⟨-, hnew, -⟩ := (attach_new device).run answer native (fun _ _ _ _ => trivial)
    obtain ⟨info, rfl⟩ := hnew _ hattach s₀ rfl
    obtain ⟨hlength, hrecalls⟩ := performAll_recalls (Recalls.new device info) hall
    rw [List.append_nil] at hrecalls
    exact ⟨hlength, hrecalls⟩

end

section

variable {width height : UInt32}

theorem resize_empty (h : width = 0 ∨ height = 0) :
    s.resize width height = (do let s ← s.unconfigure; return (.ok (), s)) := if_pos h

theorem unconfigure_idle (h : s.active = none) : s.unconfigure = pure s := by
  rw [unconfigure, isConfigured, h]
  rfl

/-- A window without an area is never a reason to fail. -/
theorem resize_empty_run {σ : Type} (answer : (c : Native.Call) → σ → c.Answer × σ) (native : σ)
    (s : Surface) (h : width = 0 ∨ height = 0) :
    ∃ s', ((s.resize width height).run answer native).outcome = .ok (.ok (), s') := by
  have hkeeps : (s.resize width height).Keeps (s.calling .unconfigure)
      (fun r _ => r.1 = .ok ()) [] := by
    have hop : Op.unconfigure.Minimises := trivial
    rw [resize_empty h]
    exact (unconfigure_acts hop).andThen fun _ _ _ => rfl
  obtain ⟨-, hend, hhalt⟩ := hkeeps.run answer native (fun _ _ _ _ => trivial)
  cases houtcome : ((s.resize width height).run answer native).outcome with
  | error reason => exact (hhalt reason houtcome).elim
  | ok r =>
    obtain ⟨result, s'⟩ := r
    have hok : result = .ok () := hend _ houtcome
    exact ⟨s', by rw [hok]⟩

theorem Recalls.resize_never (h : s.Recalls past) (harea : ¬ (width = 0 ∨ height = 0))
    (hpast : ∀ step ∈ past, ¬ Installs step) :
    s.resize width height = pure (.error .notConfigured, s) := by
  have hlast : s.lastConfig = none := by
    rw [Option.eq_none_iff_forall_ne_some]
    intro config hconfig
    obtain ⟨step, hmem, hstep⟩ := ((h.last config).mp hconfig).exists_installs
    exact hpast step hmem hstep
  rw [resize, if_neg harea, config_orElse_lastConfig h.current, hlast]

theorem Recalls.resize_installed (h : s.Recalls past) (harea : ¬ (width = 0 ∨ height = 0))
    (hconfig : Installed past config) :
    s.resize width height = s.configure (config.withSize width height) := by
  rw [resize, if_neg harea, config_orElse_lastConfig h.current, (h.last config).mpr hconfig]

/-- A surface whose latest step has restored it is what it was, in another size. -/
theorem Recalls.restored (h : s.Recalls ((.resize width height, .unit (.ok ())) :: past))
    (harea : ¬ (width = 0 ∨ height = 0)) (hconfig : Installed past config) :
    s.config = some (config.withSize width height) := by
  rw [h.latest _ _ rfl harea]
  exact (h.last _).mpr (hconfig.resized harea)

end

/-- Whatever a native surface answers, a resize to no area is the end of the configuration, and
any other one configures the surface as it was last configured with success, in the new size,
whatever came in between. If it never was, the resize fails without a call. -/
theorem resize_restores_last_success {σ : Type}
    (answer : (c : Native.Call) → σ → c.Answer × σ) (native : σ) (device : String)
    (ops : List Op) {replies : List Reply} {s : Surface}
    (hrun : ((life device ops).run answer native).outcome = .ok (.ok (replies, s))) :
    let past := (ops.zip replies).reverse
    replies.length = ops.length ∧
    (∀ width height, width = 0 ∨ height = 0 →
      s.resize width height = (do let s ← s.unconfigure; return (.ok (), s)) ∧
      (s.config = none → s.resize width height = pure (.ok (), s)) ∧
      ∀ {τ : Type} (answer' : (c : Native.Call) → τ → c.Answer × τ) (native' : τ),
        ∃ s', ((s.resize width height).run answer' native').outcome = .ok (.ok (), s')) ∧
    (∀ width height, ¬ (width = 0 ∨ height = 0) →
      ((∀ step ∈ past, ¬ Installs step) →
        s.resize width height = pure (.error .notConfigured, s)) ∧
      ((∃ step ∈ past, Installs step) → ∃ config, Installed past config ∧
        s.resize width height = s.configure (config.withSize width height))) ∧
    (∀ config, s.lastConfig = some config ↔ Installed past config) ∧
    (∀ config, s.config = some config → Installed past config) ∧
    ∀ width height since before config, ¬ (width = 0 ∨ height = 0) →
      past = (.resize width height, .unit (.ok ())) :: since ++ before →
      (∀ step ∈ since, ¬ Installs step) → Installed before config →
      s.config = some (config.withSize width height) := by
  intro past
  obtain ⟨hlength, hrecalls⟩ := life_recalls hrun
  refine ⟨hlength, ?_, ?_, hrecalls.last, ?_, ?_⟩
  · intro width height hempty
    refine ⟨resize_empty hempty, ?_,
      fun answer' native' => resize_empty_run answer' native' s hempty⟩
    intro hnone
    rw [resize_empty hempty, unconfigure_idle (Option.map_eq_none_iff.mp hnone)]
    rfl
  · intro width height harea
    refine ⟨hrecalls.resize_never harea, ?_⟩
    intro hever
    obtain ⟨config, hconfig⟩ := hrecalls.ever hever
    exact ⟨config, hconfig, hrecalls.resize_installed harea hconfig⟩
  · intro config hconfig
    exact (hrecalls.last config).mp (hrecalls.current config hconfig)
  · intro width height since before config harea hpast hsince hbefore
    have hrecalls' : s.Recalls past := hrecalls
    rw [hpast] at hrecalls'
    exact hrecalls'.restored harea (hbefore.append hsince)

/-- A native surface that answers one request after the other as it is told. -/
def answerInTurn : (c : Native.Call) → List (Except Error Unit) →
    c.Answer × List (Except Error Unit)
  | .queryInfo, turns => (.ok Native.Simulated.defaultInfo, turns)
  | .configure _, turns => (turns.headD (.ok ()), turns.tail)
  | .unconfigure, turns => ((), turns)
  | .images, turns => ([], turns)
  | .acquire, turns => (.error .outOfDateSurface, turns)
  | .present _, turns => (.ok (), turns)

/-- A window is minimised and fails twice to be restored before it is. -/
theorem resize_restores_after_failures : ∃ replies s,
    ((life "gpu" [.configure ((SurfaceConfig.ofSize 640 480).choose (.format .rgba8Unorm)),
      .resize 0 0, .resize 800 600, .resize 320 200, .resize 320 200]).run answerInTurn
        [.ok (), .error (.backendError "device lost"), .error .outOfDateSurface,
          .ok ()]).outcome = .ok (.ok (replies, s)) ∧
    replies = [.unit (.ok ()), .unit (.ok ()), .unit (.error (.backendError "device lost")),
      .unit (.error .outOfDateSurface), .unit (.ok ())] ∧
    s.config = some ((SurfaceConfig.ofSize 320 200).choose (.format .rgba8Unorm)) := by
  refine ⟨_, _, rfl, rfl, ?_⟩
  obtain ⟨-, -, -, -, -, hrestored⟩ := resize_restores_last_success answerInTurn
    [.ok (), .error (.backendError "device lost"), .error .outOfDateSurface, .ok ()] "gpu"
    [.configure ((SurfaceConfig.ofSize 640 480).choose (.format .rgba8Unorm)), .resize 0 0,
      .resize 800 600, .resize 320 200, .resize 320 200] rfl
  have hsince : ∀ step ∈ [((.resize 320 200, .unit (.error .outOfDateSurface)) : Op × Reply),
      (.resize 800 600, .unit (.error (.backendError "device lost"))),
      (.resize 0 0, .unit (.ok ()))], ¬ Installs step := by
    simp [Installs]
  exact hrestored 320 200 _ _ _ (by decide) rfl hsince (.configured _)

end Presentation.Surface
