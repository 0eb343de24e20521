import Mathlib.Data.List.Perm.Basic
import Mathlib.Data.Multiset.AddSub
import Mathlib.Data.Multiset.ZeroCons
import Presentation.Proofs.Vulkan.Ledger
import Presentation.Proofs.Vulkan.Survey
import Presentation.Vulkan.Device

/-!
# Forwarding of validation messages

Devices come and go in one process, and share the one switch for forwarding. It
is set by the last call for a messenger, of whichever device: on by a request for
one, even if that is refused, and off by the end of one, even if others are live.
So forwarding does what it is for as long as neither of these happens.
-/

set_option autoImplicit false

namespace Presentation.Vulkan

/-- What a call for a messenger came to. -/
inductive Turn where
  | made
  | refused
  | destroyed
  deriving DecidableEq

/-- The switch after a call for a messenger, if no message is to end the process. -/
def Turn.forwarding : Turn → Option Forwarding
  | made | refused => some ⟨false⟩
  | destroyed => none

/-- What the calls for messengers tell. -/
structure Board where
  /-- Those that were made and not destroyed. -/
  live : Multiset (Handle .messenger)
  /-- What the last call came to. Before the first it is as if one had been destroyed. -/
  last : Turn

namespace Board

def initial : Board := ⟨0, .destroyed⟩

def see (b : Board) : Event interface → Board
  | .asked (.create (.messenger ..)) (.ok m) => ⟨m ::ₘ b.live, .made⟩
  | .asked (.create (.messenger ..)) (.error _) => { b with last := .refused }
  | .asked (.destroy .messenger _ (some m)) _ => ⟨b.live.erase m, .destroyed⟩
  | _ => b

end Board

def board (events : List (Event interface)) : Board := events.foldl Board.see .initial

/-- No call for a messenger. -/
def Call.Apart : Call → Prop
  | .create (.messenger ..) => False
  | .destroy .messenger _ _ => False
  | _ => True

/-- A watch for the calls for messengers. -/
def boarding : Watch interface Board where
  see := Board.see
  allows _ _ := True
  trusts _ _ _ := True
  halts := False

instance : boarding.Deaf := ⟨fun _ _ => rfl⟩

variable {α : Type} {b : Board} {events : List (Event interface)}

theorem Board.see_apart {c : Call} (hc : c.Apart) (a : c.Answer) : b.see (.asked c a) = b := by
  cases c with
  | create what =>
    cases what with
    | messenger => exact hc.elim
    | _ => rfl
  | destroy kind on handle =>
    cases kind with
    | messenger => exact hc.elim
    | _ => rfl
  | _ => rfl

theorem ask_apart (c : Call) (hc : c.Apart) :
    (ask c).Keeps boarding (fun _ b' => b' = b) b :=
  ask_keeps c trivial fun a _ => Board.see_apart hc a

/-- What makes no call for a messenger changes nothing. -/
theorem apart_boards {post : α → Unit → Prop} {p : Program α}
    (h : p.Keeps (strictly Call.Apart) post ()) :
    p.Keeps boarding (fun a b' => post a () ∧ b' = b) b := by
  apply strictly_bears (P := fun b' => b' = b) _ h rfl
  rintro c _ hc rfl
  exact ⟨trivial, fun a _ => Board.see_apart hc a⟩

section Selection

theorem createWindowSurface_apart (inst : Handle .inst) (handle : WindowHandle) :
    (createWindowSurface inst handle).Keeps (strictly Call.Apart) (fun _ _ => True) () := by
  unfold createWindowSurface
  split
  · trivial
  · exact ask_beside _ trivial

theorem selectFor_apart (inst : Handle .inst) (surface : Handle .surface) :
    (selectFor inst surface).Keeps (strictly Call.Apart) (fun _ _ => True) () := by
  apply (strictly_mono (selectFor_strictly inst surface) ?_).mono fun _ _ _ => trivial
  intro c hc
  cases c with
  | create => exact hc.elim
  | destroy => exact hc.elim
  | _ => trivial

theorem select_apart (inst : Handle .inst) (handle : WindowHandle) :
    (select inst handle).Keeps (strictly Call.Apart) (fun _ _ => True) () := by
  apply Program.Keeps.andThen (createWindowSurface_apart inst handle)
  rintro (code | surface) _ _
  · exact Program.keeps_andThen.mpr (refuse_keeps _ _ trivial)
  · apply Program.Keeps.andThen (selectFor_apart inst surface)
    intro result _ _
    exact Program.keeps_andThen.mpr (ask_beside _ trivial)

end Selection

theorem Context.releaseInstance_boards (inst : Handle .inst) (m : Handle .messenger) :
    (Context.releaseInstance inst (some m)).Keeps boarding
      (fun forwarding b' => forwarding = none ∧
        b' = ⟨b.live.erase m, .destroyed⟩) b := by
  apply Program.Keeps.andThen (ask_keeps _ trivial fun _ _ => rfl)
  rintro _ _ rfl
  exact Program.keeps_andThen.mpr (ask_keeps _ trivial fun _ _ => ⟨rfl, rfl⟩)

theorem Context.release_boards {ctx : Context} {m : Handle .messenger}
    (h : ctx.messenger = some m) :
    ctx.release.Keeps boarding
      (fun forwarding b' => forwarding = none ∧
        b' = ⟨b.live.erase m, .destroyed⟩) b := by
  apply Program.Keeps.andThen (ask_apart (.waitIdle ctx.device) trivial)
  rintro _ _ rfl
  apply Program.Keeps.andThen (ask_apart (.destroy .device none (some ctx.device)) trivial)
  rintro _ _ rfl
  rw [h]
  exact releaseInstance_boards ctx.inst m

namespace Device

def messenger (device : Device) : Option (Handle .messenger) := device.context.messenger

/-- What a creation comes to: the switch, and what the calls for messengers tell afterwards. -/
inductive Course (b : Board) (forwarding : Option Forwarding) :
    Except Error Device → Option Forwarding → Board → Prop
  | failed (e : Error) : Course b forwarding (.error e) forwarding b
  | refused (e : Error) : Course b forwarding (.error e) (some ⟨false⟩) { b with last := .refused }
  | withdrawn (e : Error) : Course b forwarding (.error e) none { b with last := .destroyed }
  | installed (device : Device) (m : Handle .messenger) : device.messenger = some m →
      Course b forwarding (.ok device) (some ⟨false⟩) ⟨m ::ₘ b.live, .made⟩

variable {host : Host} {config : DeviceConfig}

theorem prerequisites_apart (host : Host) (handle : WindowHandle) (config : DeviceConfig) :
    (prerequisites host handle config).Keeps (strictly Call.Apart) (fun _ _ => True) () := by
  unfold prerequisites
  split
  · exact Program.keeps_andThen.mpr (refuse_keeps _ _ trivial)
  · split
    · exact Program.keeps_andThen.mpr (refuse_keeps _ _ trivial)
    · split
      · exact Program.keeps_andThen.mpr (refuse_keeps _ _ trivial)
      · simp only [notice, Program.keeps_logIf, Program.keeps_pure]

theorem createOn_boards (inst : Handle .inst) (m : Handle .messenger) (handle : WindowHandle)
    (validation : Bool) (forwarding : Option Forwarding) :
    (createOn inst (some m) handle validation (some ⟨false⟩)).Keeps boarding
      (fun r b' => Course b forwarding r.1 r.2 b') ⟨m ::ₘ b.live, .made⟩ := by
  have hwithdrawn : ∀ e : Error, (Context.releaseInstance inst (some m)).Keeps boarding
      (fun forwarding' b' => Course b forwarding (.error e) forwarding' b')
      ⟨m ::ₘ b.live, .made⟩ := by
    intro e
    apply (Context.releaseInstance_boards inst m).mono
    rintro _ _ ⟨rfl, rfl⟩
    have hcourse : Course b forwarding (.error e) none { b with last := .destroyed } :=
      .withdrawn e
    rwa [Multiset.erase_cons_head]
  apply Program.Keeps.andThen (apart_boards (select_apart inst handle))
  rintro (e | selection) _ ⟨-, rfl⟩
  · exact Program.keeps_andThen.mpr (hwithdrawn e)
  · apply Program.Keeps.andThen (ask_keeps _ trivial fun _ _ => rfl)
    rintro (code | device) _ rfl
    · simp only [notice, Program.keeps_andThen, Program.keeps_log]
      exact hwithdrawn (deviceError code)
    · simp only [notice, openContext, Program.keeps_andThen, Program.keeps_log, Program.keeps_pure]
      apply ask_keeps _ trivial
      intro graphics _
      apply ask_keeps _ trivial
      intro present _
      exact .installed _ m rfl

/-- A creation with validation takes one of these courses. -/
theorem create_boards (window : Window) (forwarding : Option Forwarding)
    (hvalidation : (config.validation && host.validation) = true)
    (hbreak : config.breakOnValidationError = false) :
    (create host window config forwarding).Keeps boarding
      (fun r b' => Course b forwarding r.1 r.2 b') b := by
  unfold create
  split
  · exact .failed _
  · rename_i handle _
    apply Program.Keeps.andThen (apart_boards (prerequisites_apart host handle config))
    rintro (e | extensions) _ ⟨-, rfl⟩
    · exact .failed e
    · dsimp only
      rw [hvalidation]
      apply Program.Keeps.andThen (ask_keeps _ trivial fun _ _ => rfl)
      rintro (code | inst) _ rfl
      · simp only [notice, Program.keeps_andThen, Program.keeps_log]
        exact .failed _
      · simp only [createMessenger, if_true, Program.keeps_andThen]
        apply ask_keeps _ trivial
        rw [hbreak]
        rintro (code | m) -
        · simp only [Program.keeps_andThen]
          apply refuse_keeps
          exact Program.keeps_andThen.mpr (ask_keeps _ trivial fun _ _ => .refused _)
        · exact createOn_boards inst m handle true forwarding

end Device

/-- The devices of a process, with their one switch. -/
structure Fleet where
  forwarding : Option Forwarding
  devices : List Device

namespace Fleet

inductive Change where
  | create (host : Host) (window : Window) (config : DeviceConfig)
  /-- The end of one of the devices, by its place among them. -/
  | drop (index : Nat)

/-- A device is made with validation, and no message is to end the process. -/
def Change.Validated : Change → Prop
  | create host _ config =>
    (config.validation && host.validation) = true ∧ config.breakOnValidationError = false
  | drop _ => True

def initial : Fleet := ⟨none, []⟩

def change (fleet : Fleet) : Change → Program Fleet
  | .create host window config => do
    let (result, forwarding) ← Device.create host window config fleet.forwarding
    return ⟨forwarding, fleet.devices ++ result.toOption.toList⟩
  | .drop index =>
    match fleet.devices[index]? with
    | none => return fleet
    | some device => return ⟨← device.context.release, fleet.devices.eraseIdx index⟩

def changeAll : Fleet → List Change → Program Fleet
  | fleet, [] => return fleet
  | fleet, c :: changes => do (← fleet.change c).changeAll changes

/-- The messengers of the devices that there are. -/
def messengers (fleet : Fleet) : List (Handle .messenger) :=
  fleet.devices.filterMap Device.messenger

/-- How a fleet stands to what the calls for messengers tell. -/
structure Tuned (b : Board) (fleet : Fleet) : Prop where
  equipped : ∀ device ∈ fleet.devices, device.messenger.isSome = true
  live : b.live = fleet.messengers
  switch : fleet.forwarding = b.last.forwarding
  made : b.last = .made → fleet.messengers ≠ []

variable {fleet : Fleet}

theorem tuned_initial : Tuned .initial initial := by
  refine ⟨?_, rfl, rfl, ?_⟩
  · rintro device ⟨⟩
  · rintro ⟨⟩

/-- A device that ends leaves the others with their messengers, and the switch off. -/
theorem Tuned.drop (h : Tuned b fleet) {index : Nat} {device : Device} {m : Handle .messenger}
    (hdevice : fleet.devices[index]? = some device) (hm : device.messenger = some m) :
    Tuned ⟨b.live.erase m, .destroyed⟩ ⟨none, fleet.devices.eraseIdx index⟩ := by
  refine ⟨?_, ?_, rfl, ?_⟩
  · intro device' hdevice'
    exact h.equipped device' (List.mem_of_mem_eraseIdx hdevice')
  · obtain ⟨hlt, rfl⟩ := List.getElem?_eq_some_iff.mp hdevice
    have hperm : fleet.messengers.Perm
        (m :: (fleet.devices.eraseIdx index).filterMap Device.messenger) := by
      have hfirst := (List.getElem_cons_eraseIdx_perm hlt).symm.filterMap Device.messenger
      rwa [List.filterMap_cons_some hm] at hfirst
    have hlive : b.live = m ::ₘ ↑((fleet.devices.eraseIdx index).filterMap Device.messenger) :=
      h.live.trans (Multiset.coe_eq_coe.mpr hperm)
    rw [hlive, Multiset.erase_cons_head]
    rfl
  · rintro ⟨⟩

/-- A creation that fails leaves the devices as they were. -/
theorem Tuned.fail (h : Tuned b fleet) (e : Error) (turn : Turn) (hturn : turn ≠ .made) :
    Tuned { b with last := turn } ⟨turn.forwarding,
      fleet.devices ++ (Except.error e : Except Error Device).toOption.toList⟩ := by
  have hdevices : fleet.devices ++ (Except.error e : Except Error Device).toOption.toList =
      fleet.devices := List.append_nil _
  rw [hdevices]
  exact ⟨h.equipped, h.live, rfl, fun hmade => absurd hmade hturn⟩

/-- Whichever course a creation takes, the switch follows. -/
theorem Tuned.create (h : Tuned b fleet) {result : Except Error Device}
    {forwarding : Option Forwarding} {b' : Board}
    (hcourse : Device.Course b fleet.forwarding result forwarding b') :
    Tuned b' ⟨forwarding, fleet.devices ++ result.toOption.toList⟩ := by
  cases hcourse with
  | failed e => simpa [Except.toOption] using h
  | refused e => exact h.fail e .refused (by decide)
  | withdrawn e => exact h.fail e .destroyed (by decide)
  | installed device m hm =>
    have hlast : messengers ⟨some ⟨false⟩, fleet.devices ++ [device]⟩ =
        fleet.messengers ++ [m] := by
      rw [messengers, List.filterMap_append, List.filterMap_cons_some hm]
      rfl
    refine ⟨?_, ?_, rfl, ?_⟩
    · intro device' hdevice'
      rcases List.mem_append.mp hdevice' with hdevice' | hdevice'
      · exact h.equipped device' hdevice'
      · cases List.mem_singleton.mp hdevice'
        rw [hm]
        rfl
    · have hperm : (m :: fleet.messengers).Perm (fleet.messengers ++ [m]) :=
        (List.perm_append_singleton m fleet.messengers).symm
      change m ::ₘ b.live = ↑(messengers ⟨some ⟨false⟩, fleet.devices ++ [device]⟩)
      rw [hlast, h.live]
      exact Multiset.coe_eq_coe.mpr hperm
    · intro _
      change messengers ⟨some ⟨false⟩, fleet.devices ++ [device]⟩ ≠ []
      rw [hlast]
      exact List.append_ne_nil_of_right_ne_nil _ (List.cons_ne_nil m [])

theorem change_tuned (h : Tuned b fleet) {c : Change} (hc : c.Validated) :
    (fleet.change c).Keeps boarding (fun fleet' b' => Tuned b' fleet') b := by
  cases c with
  | create host window config =>
    apply Program.Keeps.andThen (Device.create_boards window fleet.forwarding hc.1 hc.2)
    rintro ⟨result, forwarding⟩ b' hcourse
    exact h.create hcourse
  | drop index =>
    simp only [Fleet.change]
    split
    · exact h
    · rename_i device hdevice
      obtain ⟨m, hm⟩ := Option.isSome_iff_exists.mp
        (h.equipped device (List.mem_of_getElem? hdevice))
      apply Program.Keeps.andThen (Context.release_boards hm)
      rintro _ _ ⟨rfl, rfl⟩
      exact h.drop hdevice hm

theorem changeAll_tuned (h : Tuned b fleet) {changes : List Change}
    (hchanges : ∀ c ∈ changes, c.Validated) :
    (fleet.changeAll changes).Keeps boarding (fun fleet' b' => Tuned b' fleet') b := by
  induction changes generalizing fleet b with
  | nil => exact h
  | cons c changes ih =>
    apply Program.Keeps.andThen (change_tuned h (hchanges c List.mem_cons_self))
    intro fleet' b' h'
    exact ih h' fun c' hc' => hchanges c' (List.mem_cons_of_mem c hc')

end Fleet

namespace Message

/-- The log entry that a message becomes. -/
def entry (m : Message) (data : MessageData) : Log.Entry :=
  .report m.logSeverity logSource (MessageData.line m.typeName data)

/-- While forwarding is on, a message is logged once. -/
theorem report_on {m : Message} {data : MessageData} (hdata : m.data = some data) :
    m.report (some ⟨false⟩) = .note (m.entry data) (.done false) := by
  obtain ⟨severity, type, data⟩ := m
  cases hdata
  rfl

theorem report_off (m : Message) : m.report none = .done false := rfl

end Message

namespace Fleet

/-- What forwarding is for: there is none while no messenger is live, and while one is, each
message is logged once. -/
structure Forwards (fleet : Fleet) : Prop where
  silent : fleet.messengers = [] → fleet.forwarding = none
  heard : fleet.messengers ≠ [] → ∀ (m : Message) data, m.data = some data →
    m.report fleet.forwarding = .note (m.entry data) (.done false)

variable {fleet : Fleet}

theorem Tuned.logged (h : Tuned b fleet) (hlast : b.last ≠ .destroyed) (m : Message)
    {data : MessageData} (hdata : m.data = some data) :
    m.report fleet.forwarding = .note (m.entry data) (.done false) := by
  rw [h.switch]
  cases hturn : b.last with
  | made => exact Message.report_on hdata
  | refused => exact Message.report_on hdata
  | destroyed => exact absurd hturn hlast

theorem Tuned.muted (h : Tuned b fleet) (hlast : b.last = .destroyed) (m : Message) :
    m.report fleet.forwarding = .done false := by
  rw [h.switch, hlast]
  exact m.report_off

/-- With no messenger live the switch should be off, and it is unless a request left it on. -/
theorem Tuned.forwards_idle_iff (h : Tuned b fleet) (hnone : fleet.messengers = []) :
    fleet.Forwards ↔ b.last ≠ .refused := by
  constructor
  · intro hforwards hrefused
    have hoff := hforwards.silent hnone
    rw [h.switch, hrefused] at hoff
    cases hoff
  · intro hlast
    refine ⟨fun _ => ?_, fun hsome => absurd hnone hsome⟩
    rw [h.switch]
    cases hturn : b.last with
    | made => exact absurd hnone (h.made hturn)
    | refused => exact absurd hturn hlast
    | destroyed => rfl

/-- With a messenger live the switch should be on, and it is unless the end of one put it off. -/
theorem Tuned.forwards_busy_iff (h : Tuned b fleet) (hsome : fleet.messengers ≠ []) :
    fleet.Forwards ↔ b.last ≠ .destroyed := by
  constructor
  · intro hforwards hdestroyed
    have hlogged := hforwards.heard hsome ⟨errorFlag, generalFlag, some ⟨none, none⟩⟩ _ rfl
    rw [h.muted hdestroyed] at hlogged
    cases hlogged
  · intro hlast
    exact ⟨fun hnone => absurd hnone hsome, fun _ m _ hdata => h.logged hlast m hdata⟩

/-- How the devices of a process stand to their one switch, by the events of a run. -/
structure Follows (events : List (Event interface)) (fleet : Fleet) : Prop where
  /-- The messengers that are live are those of the devices. -/
  live : (board events).live = fleet.messengers
  /-- The switch is as the last call for a messenger has left it, of whichever device. -/
  switch : fleet.forwarding = (board events).last.forwarding
  /-- After a request for a messenger, be it granted or refused, each message is logged once. -/
  logged : (board events).last ≠ .destroyed → ∀ (m : Message) data, m.data = some data →
    m.report fleet.forwarding = .note (m.entry data) (.done false)
  /-- After the end of a messenger no message is logged. -/
  muted : (board events).last = .destroyed → ∀ m : Message,
    m.report fleet.forwarding = .done false
  /-- With no messenger live, forwarding does what it is for unless the last call was a request
  that was refused. -/
  idle_iff : fleet.messengers = [] → (fleet.Forwards ↔ (board events).last ≠ .refused)
  /-- With a messenger live, it does so unless the last call was the end of another. -/
  busy_iff : fleet.messengers ≠ [] → (fleet.Forwards ↔ (board events).last ≠ .destroyed)

theorem Tuned.follows (h : Tuned (board events) fleet) : Follows events fleet where
  live := h.live
  switch := h.switch
  logged := fun hlast m _ hdata => h.logged hlast m hdata
  muted := h.muted
  idle_iff := h.forwards_idle_iff
  busy_iff := h.forwards_busy_iff

end Fleet

variable {σ : Type}

/-- Devices that are made with validation and end, in whatever order, share one switch, which is
as the last call for a messenger has left it. So forwarding does what it is for except after a
request that was refused while no messenger is live, and after the end of a messenger while another
one is. -/
theorem forwards_iff_last_call_fits (answer : (c : Call) → σ → c.Answer × σ) (driver : σ)
    (changes : List Fleet.Change) (hchanges : ∀ c ∈ changes, c.Validated) :
    ∃ fleet, ((Fleet.initial.changeAll changes).run answer driver).outcome = .ok fleet ∧
      fleet.Follows ((Fleet.initial.changeAll changes).run answer driver).events := by
  obtain ⟨-, hend, hhalt⟩ := (Fleet.changeAll_tuned Fleet.tuned_initial hchanges).run answer
    driver (fun _ _ _ _ => trivial)
  cases houtcome : ((Fleet.initial.changeAll changes).run answer driver).outcome with
  | error reason => exact (hhalt reason houtcome).elim
  | ok fleet => exact ⟨fleet, rfl, Fleet.Tuned.follows (hend fleet houtcome)⟩

/-- A device is made that is told every message. -/
def Fleet.Change.listening : Change :=
  .create ⟨.ok (), true⟩ ⟨.ok .wayland, .ok .wayland⟩
    { DeviceConfig.default with debugSeverity := .all }

/-- Whether something ends well, and how, can be tried out. -/
instance decidableEndsWell {ε α : Type} (r : Except ε α) (P : α → Prop) [DecidablePred P] :
    Decidable (∃ a, r = .ok a ∧ P a) :=
  match r with
  | .error _ => .isFalse (by rintro ⟨a, h, -⟩; cases h)
  | .ok a => decidable_of_iff (P a) ⟨fun h => ⟨a, rfl, h⟩, fun ⟨_, h, ha⟩ => Except.ok.inj h ▸ ha⟩

/-- A device that was muted by the end of another one is heard again when a third is made. -/
theorem forwards_again : ∃ fleet,
    ((Fleet.initial.changeAll [.listening, .listening, .drop 1, .listening]).run generous
      0).outcome = .ok fleet ∧ fleet.messengers = [⟨1⟩, ⟨9⟩] ∧ fleet.Forwards := by
  have hchanges : ∀ c ∈ [Fleet.Change.listening, .listening, .drop 1, .listening],
      c.Validated := by
    simp [Fleet.Change.listening, Fleet.Change.Validated, DeviceConfig.default]
  obtain ⟨fleet, houtcome, hfollows⟩ := forwards_iff_last_call_fits generous 0
    [.listening, .listening, .drop 1, .listening] hchanges
  obtain ⟨fleet', houtcome', hlive⟩ : ∃ fleet, ((Fleet.initial.changeAll
      [.listening, .listening, .drop 1, .listening]).run generous 0).outcome = .ok fleet ∧
      fleet.messengers = [⟨1⟩, ⟨9⟩] := by
    decide +kernel
  obtain rfl : fleet = fleet' := Except.ok.inj (houtcome.symm.trans houtcome')
  have hlast : (board ((Fleet.initial.changeAll [.listening, .listening, .drop 1,
      .listening]).run generous 0).events).last = .made := by
    decide +kernel
  refine ⟨fleet, houtcome, hlive, (hfollows.busy_iff (by simp [hlive])).mpr ?_⟩
  rw [hlast]
  decide

/-- A driver that grants everything but messengers. -/
def denying : (c : Call) → Unit → c.Answer × Unit
  | .create (.messenger ..), u => (.error .initializationFailed, u)
  | c, u => stubborn c u

/-- The end of one device mutes another one, and a messenger that is refused leaves forwarding on
while there is none. -/
theorem forwarding_strays :
    (∃ fleet, ((Fleet.initial.changeAll [.listening, .listening, .drop 1]).run generous
      0).outcome = .ok fleet ∧ fleet.messengers = [⟨1⟩] ∧
        (∀ m : Message, m.report fleet.forwarding = .done false) ∧ ¬ fleet.Forwards) ∧
    ∃ fleet, ((Fleet.initial.changeAll [.listening]).run denying ()).outcome = .ok fleet ∧
      fleet.messengers = [] ∧ fleet.forwarding = some ⟨false⟩ ∧ ¬ fleet.Forwards := by
  constructor
  · obtain ⟨fleet, houtcome, hlive, hoff⟩ : ∃ fleet, ((Fleet.initial.changeAll
        [.listening, .listening, .drop 1]).run generous 0).outcome = .ok fleet ∧
        fleet.messengers = [⟨1⟩] ∧ fleet.forwarding = none := by
      decide +kernel
    have hmute : ∀ m : Message, m.report fleet.forwarding = .done false :=
      fun m => hoff ▸ m.report_off
    refine ⟨fleet, houtcome, hlive, hmute, ?_⟩
    intro hforwards
    have hlogged := hforwards.heard (by simp [hlive])
      ⟨errorFlag, generalFlag, some ⟨none, none⟩⟩ _ rfl
    rw [hmute] at hlogged
    cases hlogged
  · obtain ⟨fleet, houtcome, hnone, hon⟩ : ∃ fleet, ((Fleet.initial.changeAll [.listening]).run
        denying ()).outcome = .ok fleet ∧ fleet.messengers = [] ∧
        fleet.forwarding = some ⟨false⟩ := by
      decide +kernel
    refine ⟨fleet, houtcome, hnone, hon, ?_⟩
    intro hforwards
    have hoff := hforwards.silent hnone
    rw [hon] at hoff
    cases hoff

end Presentation.Vulkan
