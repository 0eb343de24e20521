import Presentation.Native.Simulated
import Presentation.Proofs.Surface.Act
import Presentation.Proofs.Surface.Protocol

/-!
# What a surface knows

An application can keep an account of its surface from the replies that it gets,
and a native surface one from its calls. The surface agrees with both,
whatever is answered: with the application about its configuration and the image
that is held, with the native surface about generations, the pool and the snapshot.
-/

set_option autoImplicit false

namespace Presentation

namespace Native

/-- Whether a configuration succeeded. -/
def accepts : Event interface → Bool
  | .asked (.configure _) (.ok ()) => true
  | _ => false

/-- The number of configurations that succeeded. -/
def accepted (calls : List (Event interface)) : Nat := calls.countP accepts

def hear (known : Option SurfaceInfo) : Event interface → Option SurfaceInfo
  | .asked .queryInfo (.ok info) => some info
  | _ => known

/-- What was last reported to be supported. -/
def reported (calls : List (Event interface)) : Option SurfaceInfo := calls.foldl hear none

/-- A pool has the images that were read right after the last configuration, which was of what a
config came to for what was reported by then. -/
def Furnishes (calls : List (Event interface)) (config : SurfaceConfig) (images : List Texture) :
    Prop :=
  ∃ before desc rest info, calls = before ++
      .asked (.configure desc) (.ok ()) :: .asked .images images :: rest ∧
    (∀ e ∈ rest, ¬ Replaces e) ∧ reported before = some info ∧ config.validate info = .ok desc

/-- A configuration is only asked for as a config comes to it, for what was last reported. -/
def Warrants (calls : List (Event interface)) (call : Call) : Prop :=
  ∀ desc, call = .configure desc →
    ∃ (config : SurfaceConfig) (info : SurfaceInfo), reported calls = some info ∧
      config.validate info = .ok desc

/-- What changes nothing in the account of a native surface. -/
def Idle (e : Event interface) : Prop :=
  accepts e = false ∧ (∀ known, hear known e = known) ∧ ¬ Replaces e

variable {calls more : List (Event interface)} {config : SurfaceConfig} {images : List Texture}

theorem accepted_append (calls more : List (Event interface)) :
    accepted (calls ++ more) = accepted calls + accepted more := List.countP_append

theorem reported_append (calls more : List (Event interface)) :
    reported (calls ++ more) = more.foldl hear (reported calls) := List.foldl_append

theorem Furnishes.append (h : Furnishes calls config images) (hmore : ∀ e ∈ more, ¬ Replaces e) :
    Furnishes (calls ++ more) config images := by
  obtain ⟨before, desc, rest, info, rfl, hrest, hinfo, hdesc⟩ := h
  refine ⟨before, desc, rest ++ more, info, by simp, ?_, hinfo, hdesc⟩
  intro e he
  rcases List.mem_append.mp he with he | he
  · exact hrest e he
  · exact hmore e he

end Native

open Native (accepted reported Furnishes Warrants Idle Replaces)

namespace Surface

/-- What an application can tell of its surface. -/
structure Account where
  config : Option SurfaceConfig
  /-- The last configuration that succeeded. -/
  last : Option SurfaceConfig
  /-- The image that was handed out and not given back. -/
  held : Option SurfaceImage

namespace Account

def initial : Account := ⟨none, none, none⟩

def adopt (config : Option SurfaceConfig) : Account := ⟨config, config, none⟩

def minimise (account : Account) : Account := { account with config := none, held := none }

/-- What an operation and its reply tell. -/
def see (account : Account) : Op → Reply → Account
  | .configure config, .unit (.ok ()) => adopt (some config)
  | .resize width height, .unit (.ok ()) =>
    if width = 0 ∨ height = 0 then account.minimise
    else adopt (account.last.map (·.withSize width height))
  | .unconfigure, _ => account.minimise
  | .acquire, .image (.ok image) => { account with held := some image }
  | .present, .unit (.ok ()) => { account with held := none }
  | .present, .unit (.error .outOfDateSurface) => { account with held := none }
  | _, _ => account

def after (account : Account) (past : List (Op × Reply)) : Account :=
  past.foldl (fun account step => account.see step.1 step.2) account

end Account

/-- A surface agrees with the account of its application and that of its native surface. -/
structure Agrees (s : Surface) (account : Account) (calls : List (Event Native.interface)) :
    Prop where
  generation : s.generation = accepted calls
  info : reported calls = some s.info
  config : s.config = account.config
  lastConfig : s.lastConfig = account.last
  remembered : ∀ config, s.config = some config → s.lastConfig = some config
  pool : ∀ active, s.active = some active → active.pool.generation = s.generation ∧
    Furnishes calls active.config active.pool.images
  held : ∀ active index, s.active = some active → active.acquired = some index →
    index < active.pool.images.length ∧ active.stale = false
  current : s.currentImage = account.held
  /-- There is a current image exactly if one is held. -/
  isAcquired : s.currentImage.isSome = s.isAcquired

variable {s s' : Surface} {account : Account} {calls done : List (Event Native.interface)}
  {op : Op} {reply : Reply}

theorem currentImage_hold (s : Surface) (stale : Bool) {active : ActiveConfig} {index : Nat}
    (hlt : index < active.pool.images.length) :
    { s with active := some { active with acquired := some index, stale } }.currentImage =
      some ⟨index, active.pool.generation, active.pool.images[index].info⟩ := by
  simp [currentImage, hlt]

theorem released_eq {active : ActiveConfig} (hs : s.active = some active) :
    s.released = { s with active := some { active with acquired := none } } := by
  rw [released, hs]
  rfl

namespace Agrees

theorem idle (h : s.Agrees account calls) (hdone : ∀ e ∈ done, Idle e) :
    s.Agrees account (calls ++ done) where
  generation := by
    have hnone : accepted done = 0 := List.countP_eq_zero.mpr fun e he => by simp [(hdone e he).1]
    rw [Native.accepted_append, hnone, h.generation, Nat.add_zero]
  info := by
    rw [Native.reported_append, h.info]
    clear h
    induction done with
    | nil => rfl
    | cons e done ih =>
      rw [List.foldl_cons, (hdone e List.mem_cons_self).2.1]
      exact ih fun e he => hdone e (List.mem_cons_of_mem _ he)
  config := h.config
  lastConfig := h.lastConfig
  remembered := h.remembered
  pool active hactive := by
    obtain ⟨hgeneration, hfurnishes⟩ := h.pool active hactive
    exact ⟨hgeneration, hfurnishes.append fun e he => (hdone e he).2.2⟩
  held := h.held
  current := h.current
  isAcquired := h.isAcquired

theorem informed (h : s.Agrees account calls) (info : Except Error SurfaceInfo) :
    (s.informed info).Agrees account (calls ++ [.asked .queryInfo info]) := by
  cases info with
  | error e =>
    apply h.idle
    intro e' he
    rw [List.mem_singleton.mp he]
    exact ⟨rfl, fun _ => rfl, id⟩
  | ok info =>
    exact {
      generation := by
        rw [Native.accepted_append]
        exact h.generation
      info := by
        rw [Native.reported_append]
        rfl
      config := h.config
      lastConfig := h.lastConfig
      remembered := h.remembered
      pool := by
        intro active hactive
        obtain ⟨hgeneration, hfurnishes⟩ := h.pool active hactive
        refine ⟨hgeneration, hfurnishes.append ?_⟩
        intro e he
        rw [List.mem_singleton.mp he]
        exact id
      held := h.held
      current := h.current
      isAcquired := h.isAcquired }

theorem adopt (h : s.Agrees account calls) {config : SurfaceConfig} {desc : SwapchainDesc}
    (hdesc : config.validate s.info = .ok desc) (images : List Texture) :
    (s.adopt config images).Agrees (.adopt (some config))
      (calls ++ [.asked (.configure desc) (.ok ()), .asked .images images]) where
  generation := by
    rw [Native.accepted_append, ← h.generation]
    rfl
  info := by
    rw [Native.reported_append]
    exact h.info
  config := rfl
  lastConfig := rfl
  remembered _ hconfig := hconfig
  pool := by
    rintro _ ⟨⟩
    exact ⟨rfl, calls, desc, [], s.info, rfl, by simp, h.info, hdesc⟩
  held := by
    rintro _ _ ⟨⟩ ⟨⟩
  current := rfl
  isAcquired := rfl

theorem minimise (h : s.Agrees account calls) :
    { s with active := none }.Agrees account.minimise
      (calls ++ [Event.asked Native.Call.unconfigure ()]) where
  generation := by
    rw [Native.accepted_append]
    exact h.generation
  info := by
    rw [Native.reported_append]
    exact h.info
  config := rfl
  lastConfig := h.lastConfig
  remembered := by
    rintro _ ⟨⟩
  pool := by
    rintro _ ⟨⟩
  held := by
    rintro _ _ ⟨⟩
  current := rfl
  isAcquired := rfl

/-- Another image is held, or none. -/
theorem hold (h : s.Agrees account calls) {active : ActiveConfig} (hs : s.active = some active)
    {acquired : Option Nat} {stale : Bool} {image : Option SurfaceImage}
    (hin : ∀ index, acquired = some index →
      index < active.pool.images.length ∧ stale = false)
    (himage : { s with active := some { active with acquired, stale } }.currentImage = image) :
    { s with active := some { active with acquired, stale } }.Agrees
      { account with held := image } calls where
  generation := h.generation
  info := h.info
  config := by
    rw [← h.config, Surface.config, Surface.config, hs]
    rfl
  lastConfig := h.lastConfig
  remembered := by
    intro config hconfig
    apply h.remembered
    rw [Surface.config, hs]
    exact hconfig
  pool := by
    rintro _ ⟨⟩
    exact h.pool active hs
  held := by
    rintro _ index ⟨⟩ hindex
    exact hin index hindex
  current := himage
  isAcquired := by
    cases acquired with
    | none => rfl
    | some index =>
      rw [currentImage_hold s stale (hin index rfl).1]
      rfl

theorem held_none (h : s.Agrees account calls) (hs : s.acquired = none) :
    { account with held := none } = account := by
  have hcurrent : account.held = none := by
    have hacquired := h.isAcquired
    rw [Surface.isAcquired, hs, h.current] at hacquired
    exact Option.isNone_iff_eq_none.mp (Option.isSome_eq_false_iff.mp hacquired)
  cases account
  cases hcurrent
  rfl

theorem minimise_eq (h : s.Agrees account calls) (hs : s.active = none) :
    account.minimise = account := by
  have hconfig : account.config = none := by
    rw [← h.config, Surface.config, hs]
    rfl
  have hheld : account.held = none := by
    rw [← h.current, currentImage, hs]
    rfl
  cases account
  cases hconfig
  cases hheld
  rfl

end Agrees

/-- A configuration that succeeds is told of alike, whichever operation asked for it. -/
theorem see_requested (h : s.Agrees account calls) {config : SurfaceConfig}
    (hrequested : s.requested op = some config) :
    account.see op (.unit (.ok ())) = .adopt (some config) := by
  cases op with
  | configure => exact congrArg Account.adopt hrequested
  | resize width height =>
    simp only [requested] at hrequested
    split at hrequested
    · cases hrequested
    · rename_i harea
      rw [config_orElse_lastConfig h.remembered, h.lastConfig] at hrequested
      simp only [Account.see, if_neg harea, hrequested]
  | _ => cases hrequested

theorem see_minimises (h : op.Minimises) :
    account.see op (.unit (.ok ())) = account.minimise := by
  cases op with
  | unconfigure => rfl
  | resize width height => exact if_pos h
  | _ => exact h.elim

theorem see_refused {config : SurfaceConfig} (h : s.requested op = some config) (e : Error) :
    account.see op (.unit (.error e)) = account := by
  cases op with
  | configure => rfl
  | resize => rfl
  | _ => cases h

/-- Every way of acting keeps a surface in agreement. -/
theorem Acts.agrees (hacts : s.Acts op done reply s') (h : s.Agrees account calls) :
    s'.Agrees (account.see op reply) (calls ++ done) := by
  have hidle : ∀ e : Event Native.interface, Idle e → s.Agrees account (calls ++ [e]) :=
    fun e he => h.idle fun e' he' => List.mem_singleton.mp he' ▸ he
  have hnothing : s.Agrees account (calls ++ []) := (List.append_nil calls).symm ▸ h
  cases hacts with
  | configured images info hrequested hdesc =>
    rw [see_requested h hrequested]
    have hinformed := (h.adopt hdesc images).informed info
    rwa [List.append_assoc] at hinformed
  | refused e hrequested hdesc =>
    rw [see_refused hrequested]
    exact hidle _ ⟨rfl, fun _ => rfl, id⟩
  | rejected hrequested herror =>
    rw [see_refused hrequested]
    exact hnothing
  | unprecedented harea hnone => exact hnothing
  | minimised info hop hconfigured =>
    rw [see_minimises hop]
    have hinformed := h.minimise.informed info
    rwa [List.append_assoc] at hinformed
  | idle hop hactive =>
    rw [see_minimises hop, h.minimise_eq hactive]
    exact hnothing
  | acquired hactive hfree hstale htexture =>
    obtain ⟨hlt, rfl⟩ := List.getElem?_eq_some_iff.mp htexture
    apply (hidle _ ⟨rfl, fun _ => rfl, id⟩).hold hactive
    · rintro _ ⟨⟩
      exact ⟨hlt, hstale⟩
    · exact currentImage_hold s _ hlt
  | @strayed active index hactive hfree hstray =>
    have hnone : s.acquired = none := by
      rw [Surface.acquired, hactive]
      exact hfree
    rw [← h.held_none hnone]
    apply (hidle (.asked .acquire (.ok index)) ⟨rfl, fun _ => rfl, id⟩).hold hactive
    · rw [hfree]
      rintro _ ⟨⟩
    · simp [currentImage, hfree]
  | missed e => exact hidle _ ⟨rfl, fun _ => rfl, id⟩
  | barred e => exact hnothing
  | @presented index answer hindex hanswer =>
    obtain ⟨active, hactive, hacquired⟩ := Option.bind_eq_some_iff.mp hindex
    have hfree : (s.released).Agrees { account with held := none }
        (calls ++ [.asked (.present index) answer]) := by
      rw [released_eq hactive]
      apply Agrees.hold _ hactive
      · rintro _ ⟨⟩
      · rfl
      · rcases hanswer with rfl | rfl
        · exact hidle _ ⟨rfl, fun _ => rfl, id⟩
        · exact hidle _ ⟨rfl, fun _ => rfl, id⟩
    rcases hanswer with rfl | rfl
    · exact hfree
    · exact hfree
  | kept hindex hne =>
    rename_i e
    cases e with
    | outOfDateSurface => exact absurd rfl hne
    | _ => exact hidle _ ⟨rfl, fun _ => rfl, id⟩
  | emptyHanded hnone => exact hnothing
  | refreshed info => exact h.informed info
  | looked => exact hnothing

/-- A surface calls as its operations do, each configuration being warranted. -/
def warranted : Watch Native.interface (List (Event Native.interface)) :=
  Watch.tape Warrants (fun _ _ => True) False

instance : warranted.Deaf := ⟨fun es _ => List.append_nil es⟩

theorem perform_agrees (h : s.Agrees account calls) (op : Op) :
    (s.perform op).Keeps warranted (fun r calls => r.2.Agrees (account.see op r.1) calls)
      calls := by
  have hwarrants : ∀ es call, s.MayCall op es call → Warrants (calls ++ es) call := by
    rintro (_ | ⟨e, es⟩) _ hcall desc rfl
    · obtain ⟨config, -, hdesc⟩ := hcall
      exact ⟨config, s.info, (List.append_nil calls).symm ▸ h.info, hdesc⟩
    · exact hcall.elim
  have hperform := (perform_acts s op).onTape hwarrants
  rw [List.append_nil] at hperform
  apply hperform.mono
  rintro r _ ⟨done, rfl, hacts⟩
  exact hacts.agrees h

theorem performAll_agrees (h : s.Agrees account calls) (ops : List Op) :
    (s.performAll ops).Keeps warranted (fun r calls => r.1.length = ops.length ∧
      r.2.Agrees (account.after (ops.zip r.1)) calls) calls := by
  induction ops generalizing s account calls with
  | nil => exact ⟨rfl, h⟩
  | cons op ops ih =>
    simp only [performAll, Program.keeps_andThen, Program.keeps_pure]
    apply (perform_agrees h op).mono
    intro r calls hr
    apply (ih hr).mono
    rintro r' calls' ⟨hlength, hagrees⟩
    exact ⟨congrArg (· + 1) hlength, hagrees⟩

theorem life_agrees (device : String) (ops : List Op) :
    (life device ops).Keeps warranted (fun r calls => ∀ replies s, r = .ok (replies, s) →
      replies.length = ops.length ∧ s.Agrees (Account.initial.after (ops.zip replies)) calls)
      [] := by
  simp only [life, attach, Native.queryInfo, Program.keeps_andThen, Program.call,
    Program.keeps_ask, Program.keeps_done]
  constructor
  · rintro desc ⟨⟩
  intro answer _
  cases answer with
  | error e =>
    rintro replies s ⟨⟩
  | ok info =>
    dsimp only
    split
    · rintro replies s ⟨⟩
    · simp only [notice, Program.keeps_andThen, Program.keeps_log, Program.keeps_pure]
      have hnew : Agrees ⟨device, info, none, none, 0⟩ .initial
          [.asked Native.Call.queryInfo (.ok info)] := {
        generation := rfl
        info := rfl
        config := rfl
        lastConfig := rfl
        remembered := by rintro _ ⟨⟩
        pool := by rintro _ ⟨⟩
        held := by rintro _ _ ⟨⟩
        current := rfl
        isAcquired := rfl }
      apply (performAll_agrees hnew ops).mono
      rintro r calls hr _ _ ⟨⟩
      exact hr

variable {σ : Type}

/-- Whatever a native surface answers, it is asked only for what a config comes to for what it
last reported, and a surface agrees after any operations with the account that its application
and that its native surface can keep of it. -/
theorem surface_agrees_with_accounts (answer : (c : Native.Call) → σ → c.Answer × σ) (native : σ)
    (device : String) (ops : List Op) :
    let run := (life device ops).run answer native
    (∀ (n : Nat) call reply, (Watch.calls run.events)[n]? = some (.asked call reply) →
      Warrants ((Watch.calls run.events).take n) call) ∧
    ∀ replies s, run.outcome = .ok (.ok (replies, s)) → replies.length = ops.length ∧
      s.Agrees (Account.initial.after (ops.zip replies)) (Watch.calls run.events) := by
  intro run
  obtain ⟨hallows, hend, -⟩ := (life_agrees device ops).run answer native
    (fun _ _ _ _ => trivial)
  constructor
  · intro n call reply hn
    exact Watch.allows_calls hallows n hn
  · intro replies s houtcome
    have hagrees := hend _ houtcome replies s rfl
    rwa [warranted, Watch.tape_after, List.nil_append] at hagrees

/-- A configuration that is rejected does not take away the image that is held. -/
theorem surface_agrees_while_holding : ∃ replies s image,
    ((life "gpu" [.configure (.ofSize 4 4), .acquire, .configure (.ofSize 0 0), .current]).run
      Native.Simulated.answer (.ofInfo Native.Simulated.defaultInfo)).outcome =
        .ok (.ok (replies, s)) ∧
    replies[3]? = some (.current (some image)) ∧ s.generation = 1 ∧
    s.Agrees ⟨some (.ofSize 4 4), some (.ofSize 4 4), some image⟩
      (Watch.calls ((life "gpu" [.configure (.ofSize 4 4), .acquire, .configure (.ofSize 0 0),
        .current]).run Native.Simulated.answer
          (.ofInfo Native.Simulated.defaultInfo)).events) := by
  obtain ⟨-, hagrees⟩ := surface_agrees_with_accounts Native.Simulated.answer
    (.ofInfo Native.Simulated.defaultInfo) "gpu"
    [.configure (.ofSize 4 4), .acquire, .configure (.ofSize 0 0), .current]
  exact ⟨_, _, _, rfl, rfl, rfl, (hagrees _ _ rfl).2⟩

end Surface

end Presentation
