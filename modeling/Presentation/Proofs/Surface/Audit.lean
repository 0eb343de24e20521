import Presentation.Log.Hub
import Presentation.Native.Simulated
import Presentation.Proofs.Log.Routing
import Presentation.Proofs.Surface.Failure
import Presentation.Proofs.Surface.Sign

/-!
# The log as an audit trail

Whoever reads the entries of a surface, and no others, knows in which state it
is. Each call of the frame loop leaves one entry, by whose severity it can be
told how the call ended; and the signs say what became of the surface, since
an operation writes one where it changes the state and nowhere else. The native
surface may log what it likes in between, under another source.
-/

set_option autoImplicit false

namespace Presentation

namespace Program

variable {I : Interface} {σ α : Type} (answer : (c : I.Call) → σ → I.Answer c × σ)
  (voice : I.Call → σ → List Log.Entry)

/-- All that is logged in a run, by the program and by its peer, who has something to say to
each call. -/
def heard : Program I α → σ → List Log.Entry
  | done _, _ => []
  | note e p, s => e :: p.heard s
  | ask c k, s => voice c s ++ (k (answer c s).1).heard (answer c s).2
  | halt _, _ => []

variable {voice} in
/-- Where nothing that the peer says is kept, what is kept is the program's. -/
theorem heard_filter {keep : Log.Entry → Bool}
    (hvoice : ∀ c s, ∀ e ∈ voice c s, keep e = false) (p : Program I α) (s : σ) :
    (p.heard answer voice s).filter keep = (p.run answer s).entries.filter keep := by
  induction p generalizing s with
  | done a => rfl
  | note e p ih =>
    have hentries : ((note e p).run answer s).entries = e :: (p.run answer s).entries := rfl
    rw [heard, hentries, List.filter_cons, List.filter_cons, ih]
  | ask c k ih =>
    have hsilent : (voice c s).filter keep = [] := by
      apply List.filter_eq_nil_iff.mpr
      intro e he
      simp [hvoice c s e he]
    have hentries : ((ask c k).run answer s).entries =
        ((k (answer c s).1).run answer (answer c s).2).entries := rfl
    rw [heard, List.filter_append, hsilent, List.nil_append, hentries, ih]
  | halt r => rfl

end Program

open Log (latest)
open Native (handedOut)

namespace Surface

/-- The entries of surfaces in what a hub lets through. -/
def audit (hub : Log.Hub) (log : List Log.Entry) : List Log.Entry :=
  (hub.accepted log).filter fun e => e.source = logSource

/-- Whether an entry tells that the surface is configured, or that it is not. Only news does. -/
def configures? (e : Log.Entry) : Option Bool :=
  if e.severity = .info then (Sign.of? e.message).bind Sign.configures? else none

/-- Whether an entry tells that an image is held, or that none is. -/
def holds? (e : Log.Entry) : Option Bool := (Sign.of? e.message).map Sign.holds

/-- How severe the entry of a call of the frame loop is, by the error that the call ends with.
A surface that is out of date is a warning, unless the native surface has handed out an index
outside of the pool. -/
def grade (s : Surface) (out : List Nat) : Option Error → Log.Severity
  | none => .trace
  | some .outOfDateSurface => if out.any fun index => s.imageCount ≤ index then .error else .warn
  | some _ => .error

section Frame

/-- A watch that remembers all of a run. -/
def record : Watch Native.interface (List (Event Native.interface)) where
  see es e := es ++ [e]
  allows _ _ := True
  trusts _ _ _ := True
  halts := False

theorem record_after (es events : List (Event Native.interface)) :
    record.after es events = es ++ events := by
  have hsome : record.after es events = es ++ events.filterMap some :=
    Watch.after_gathering (fun _ _ => rfl) es events
  rw [hsome, List.filterMap_some]

/-- One notice was logged, as severe as the way a call has ended demands. -/
def Reports (s : Surface) (reply : Reply) (es : List (Event Native.interface)) : Prop :=
  ∃ n : Notice, es.filterMap Event.entry? = [n.entry] ∧
    n.severity = s.grade (handedOut es) reply.error?

variable {s : Surface}

theorem acquireNextImage_reports :
    s.acquireNextImage.Keeps record (fun r es => s.Reports (.image r.1) es) [] := by
  unfold acquireNextImage
  split
  · exact ⟨.acquireUnconfigured, rfl, rfl⟩
  · rename_i active hs
    split
    · rename_i held _
      exact ⟨.acquireWhileHeld held, rfl, rfl⟩
    · split
      · exact ⟨.poolStale, rfl, rfl⟩
      · simp only [Native.acquire, Program.keeps_andThen, Program.call, Program.keeps_ask,
          Program.keeps_done]
        refine ⟨trivial, ?_⟩
        intro answer _
        cases answer with
        | error e =>
          cases e with
          | outOfDateSurface => exact ⟨.acquireOutOfDate, rfl, rfl⟩
          | _ => exact ⟨.acquireFailed _, rfl, rfl⟩
        | ok index =>
          dsimp only
          split
          · rename_i hnone
            have hstray : s.imageCount ≤ index := by
              simpa [imageCount, hs] using List.getElem?_eq_none_iff.mp hnone
            have hgrade : s.grade [index] (some .outOfDateSurface) = .error := by
              simp [grade, hstray]
            exact ⟨.strayImage index active.pool.images.length, rfl, hgrade.symm⟩
          · exact ⟨.acquired index active.pool.generation, rfl, rfl⟩

theorem present_reports :
    s.present.Keeps record (fun r es => s.Reports (.unit r.1) es) [] := by
  unfold present
  split
  · exact ⟨.presentWithoutImage, rfl, rfl⟩
  · rename_i index _
    simp only [Native.present, Program.keeps_andThen, Program.call, Program.keeps_ask,
      Program.keeps_done]
    refine ⟨trivial, ?_⟩
    intro answer _
    cases answer with
    | ok done => exact ⟨.presented index, rfl, rfl⟩
    | error e =>
      cases e with
      | outOfDateSurface => exact ⟨.presentOutOfDate, rfl, rfl⟩
      | _ => exact ⟨.presentFailed index _, rfl, rfl⟩

theorem perform_reports {op : Op} (hop : op = .acquire ∨ op = .present) :
    (s.perform op).Keeps record (fun r es => s.Reports r.1 es) [] := by
  rcases hop with rfl | rfl
  · simp only [perform, Program.keeps_andThen, Program.keeps_pure]
    apply acquireNextImage_reports.mono
    rintro ⟨_ | _, s'⟩ es h
    · exact h
    · exact h
  · simp only [perform, Program.keeps_andThen, Program.keeps_pure]
    apply present_reports.mono
    rintro ⟨_ | _, s'⟩ es h
    · exact h
    · exact h

end Frame

/-- What a reader of the log knows of a surface. -/
structure Reading where
  configured : Bool
  held : Bool

namespace Reading

/-- The reading after a sign, if there is one. -/
def turn (g : Reading) : Option Sign → Reading
  | none => g
  | some sign => ⟨sign.configures?.getD g.configured, sign.holds⟩

def read (g : Reading) (e : Log.Entry) : Reading :=
  if e.source = logSource then ⟨(configures? e).getD g.configured, (holds? e).getD g.held⟩ else g

/-- A notice is read as the sign that it is. -/
theorem read_entry (g : Reading) (n : Notice) : g.read n.entry = g.turn n.sign? := by
  have hsource : n.entry.source = logSource := rfl
  have hholds : holds? n.entry = n.sign?.map Sign.holds :=
    congrArg (Option.map Sign.holds) n.reads_text.sign
  have hconfigures : configures? n.entry =
      if n.severity = .info then n.sign?.bind Sign.configures? else none :=
    congrArg (fun sign? : Option Sign =>
      if n.severity = .info then sign?.bind Sign.configures? else none) n.reads_text.sign
  rw [read, if_pos hsource, hholds, hconfigures]
  -- both signs of a transition are news, so the severity passes over neither of them
  cases n with
  | _ => rfl

end Reading

/-- A watch that reads what is logged, and sees nothing else of a run. -/
def reader : Watch Native.interface Reading where
  see
    | g, .noted e => g.read e
    | g, .asked _ _ => g
  allows _ _ := True
  trusts _ _ _ := True
  halts := False

theorem reader_after (g : Reading) (events : List (Event Native.interface)) :
    reader.after g events =
      let trail := (events.filterMap Event.entry?).filter fun e => e.source = logSource
      ⟨latest configures? g.configured trail, latest holds? g.held trail⟩ := by
  induction events generalizing g with
  | nil => rfl
  | cons event rest ih =>
    have hrest : reader.after g (event :: rest) = reader.after (reader.see g event) rest := rfl
    rw [hrest, ih]
    cases event with
    | asked c a => rfl
    | noted e =>
      have hsee : reader.see g (.noted e) = g.read e := rfl
      have hentries : (Event.noted e :: rest).filterMap Event.entry? =
          e :: rest.filterMap Event.entry? := rfl
      rw [hsee, hentries, Reading.read]
      by_cases hsource : e.source = logSource
      · simp only [hsource, if_true, decide_true, List.filter_cons_of_pos, Log.latest_cons]
      · simp only [hsource, if_false, decide_false, Bool.false_eq_true, not_false_eq_true,
          List.filter_cons_of_neg]

section Replay

variable {s : Surface} {g : Reading} {α : Type}

/-- What there is to know of a surface. -/
def reading (s : Surface) : Reading := ⟨s.isConfigured, s.isAcquired⟩

theorem reading_of_active {active : ActiveConfig} (hs : s.active = some active) :
    s.reading = ⟨true, active.acquired.isSome⟩ := by
  simp [reading, isConfigured, isAcquired, acquired, hs]

theorem reading_released : s.released.reading = ⟨s.isConfigured, false⟩ := by
  cases h : s.active with
  | none => simp [released, reading, isConfigured, isAcquired, acquired, h]
  | some active => simp [released, reading, isConfigured, isAcquired, acquired, h]

theorem keeps_notice {post : Unit → Reading → Prop} (n : Notice) :
    (notice n : Native.Program Unit).Keeps reader post g ↔ post () (g.turn n.sign?) := by
  rw [← g.read_entry n]
  rfl

theorem keeps_noticeIf {post : α → Reading → Prop} {b : Prop} [Decidable b] (n : Notice)
    (f : Unit → Native.Program α) :
    (if b then notice n >>= f else f ()).Keeps reader post g ↔
      (f ()).Keeps reader post (if b then g.turn n.sign? else g) := by
  split
  · rw [Program.keeps_andThen, keeps_notice]
  · rfl

theorem refreshAfterTransition_read :
    s.refreshAfterTransition.Keeps reader
      (fun s' g' => s'.reading = s.reading ∧ g' = g) g := by
  simp only [refreshAfterTransition, Native.queryInfo, Program.keeps_andThen, Program.call,
    Program.keeps_ask, Program.keeps_done]
  refine ⟨trivial, ?_⟩
  intro answer _
  cases answer with
  | error e =>
    simp only [Program.keeps_andThen, keeps_notice, Program.keeps_pure]
    exact ⟨trivial, rfl⟩
  | ok info => exact ⟨rfl, rfl⟩

theorem configure_read (config : SurfaceConfig) :
    (s.configure config).Keeps reader (fun r g => g = r.2.reading) s.reading := by
  unfold configure
  split
  · simp only [Program.keeps_andThen, keeps_notice, Program.keeps_pure]
    rfl
  · simp only [keeps_noticeIf, Notice.sign?, Reading.turn, ite_self, Program.keeps_andThen,
      Native.configure, Program.call, Program.keeps_ask, Program.keeps_done]
    refine ⟨trivial, ?_⟩
    intro answer _
    cases answer with
    | error e => rfl
    | ok done =>
      simp only [keeps_noticeIf, Notice.sign?, Reading.turn, ite_self, Program.keeps_andThen,
        Native.images, Program.call, Program.keeps_ask, Program.keeps_done, keeps_notice,
        Program.keeps_pure]
      refine ⟨trivial, ?_⟩
      intro images _
      apply refreshAfterTransition_read.mono
      rintro s' _ ⟨hs', rfl⟩
      rw [hs']
      rfl

theorem unconfigure_read :
    s.unconfigure.Keeps reader (fun s' g => g = s'.reading) s.reading := by
  unfold unconfigure
  split
  · simp only [keeps_noticeIf, Notice.sign?, Reading.turn, ite_self, Program.keeps_andThen,
      Native.unconfigure, Program.call, Program.keeps_ask, Program.keeps_done,
      Program.keeps_pure]
    refine ⟨trivial, ?_⟩
    intro _ _
    apply refreshAfterTransition_read.mono
    rintro s' _ ⟨hs', rfl⟩
    rw [keeps_notice, hs']
    rfl
  · rfl

theorem resize_read (width height : UInt32) :
    (s.resize width height).Keeps reader (fun r g => g = r.2.reading) s.reading := by
  unfold resize
  split
  · simp only [Program.keeps_andThen, Program.keeps_pure]
    exact unconfigure_read
  · split
    · rfl
    · exact configure_read _

theorem acquireNextImage_read :
    s.acquireNextImage.Keeps reader (fun r g => g = r.2.reading) s.reading := by
  unfold acquireNextImage
  split
  · simp only [Program.keeps_andThen, keeps_notice, Program.keeps_pure]
    rfl
  · rename_i active hs
    have hactive := reading_of_active hs
    split
    · simp only [Program.keeps_andThen, keeps_notice, Program.keeps_pure]
      rfl
    · split
      · simp only [Program.keeps_andThen, keeps_notice, Program.keeps_pure]
        rfl
      · simp only [Native.acquire, Program.keeps_andThen, Program.call, Program.keeps_ask,
          Program.keeps_done]
        refine ⟨trivial, ?_⟩
        intro answer _
        cases answer with
        | error e =>
          cases e with
          | _ =>
            simp only [Program.keeps_andThen, keeps_notice, Program.keeps_pure]
            rfl
        | ok index =>
          dsimp only
          split
          · simp only [Program.keeps_andThen, keeps_notice, Program.keeps_pure]
            rw [hactive, reading_of_active rfl]
            rfl
          · simp only [Program.keeps_andThen, keeps_notice, Program.keeps_pure]
            rw [hactive, reading_of_active rfl]
            rfl

theorem present_read :
    s.present.Keeps reader (fun r g => g = r.2.reading) s.reading := by
  unfold present
  split
  · simp only [Program.keeps_andThen, keeps_notice, Program.keeps_pure]
    rfl
  · simp only [Native.present, Program.keeps_andThen, Program.call, Program.keeps_ask,
      Program.keeps_done]
    refine ⟨trivial, ?_⟩
    intro answer _
    cases answer with
    | ok done =>
      simp only [Program.keeps_andThen, keeps_notice, Program.keeps_pure]
      exact reading_released.symm
    | error e =>
      cases e with
      | outOfDateSurface =>
        simp only [Program.keeps_andThen, keeps_notice, Program.keeps_pure]
        exact reading_released.symm
      | _ =>
        simp only [Program.keeps_andThen, keeps_notice, Program.keeps_pure]
        rfl

theorem refreshInfo_read :
    s.refreshInfo.Keeps reader (fun r g => g = r.2.reading) s.reading := by
  simp only [refreshInfo, Native.queryInfo, Program.keeps_andThen, Program.call,
    Program.keeps_ask, Program.keeps_done]
  refine ⟨trivial, ?_⟩
  intro answer _
  cases answer with
  | error e => rfl
  | ok info => rfl

/-- An operation logs what it makes of the state. -/
theorem perform_read (op : Op) :
    (s.perform op).Keeps reader (fun r g => g = r.2.reading) s.reading := by
  cases op with
  | configure config =>
    simp only [perform, Program.keeps_andThen, Program.keeps_pure]
    exact configure_read config
  | resize width height =>
    simp only [perform, Program.keeps_andThen, Program.keeps_pure]
    exact resize_read width height
  | unconfigure =>
    simp only [perform, Program.keeps_andThen, Program.keeps_pure]
    exact unconfigure_read
  | acquire =>
    simp only [perform, Program.keeps_andThen, Program.keeps_pure]
    exact acquireNextImage_read
  | present =>
    simp only [perform, Program.keeps_andThen, Program.keeps_pure]
    exact present_read
  | refresh =>
    simp only [perform, Program.keeps_andThen, Program.keeps_pure]
    exact refreshInfo_read
  | current => rfl

theorem performAll_read (ops : List Op) :
    (s.performAll ops).Keeps reader (fun r g => g = r.2.reading) s.reading := by
  induction ops generalizing s with
  | nil => rfl
  | cons op ops ih =>
    simp only [performAll, Program.keeps_andThen, Program.keeps_pure]
    apply (perform_read op).mono
    rintro ⟨reply, s'⟩ _ rfl
    exact ih

theorem attach_read (device : String) :
    (attach device).Keeps reader (fun r g => ∀ s, r = .ok s → g = s.reading) ⟨false, false⟩ := by
  simp only [attach, Native.queryInfo, Program.keeps_andThen, Program.call, Program.keeps_ask,
    Program.keeps_done]
  refine ⟨trivial, ?_⟩
  intro answer _
  cases answer with
  | error e =>
    simp only [Program.keeps_andThen, keeps_notice, Program.keeps_pure]
    rintro s ⟨⟩
  | ok info =>
    dsimp only
    split
    · simp only [Program.keeps_andThen, keeps_notice, Program.keeps_pure]
      rintro s ⟨⟩
    · simp only [Program.keeps_andThen, keeps_notice, Program.keeps_pure]
      rintro s ⟨⟩
      rfl

theorem life_read (device : String) (ops : List Op) :
    (life device ops).Keeps reader (fun r g => ∀ replies s, r = .ok (replies, s) → g = s.reading)
      ⟨false, false⟩ := by
  simp only [life, Program.keeps_andThen]
  apply (attach_read device).mono
  rintro (e | s) g hs
  · rintro replies s ⟨⟩
  · simp only [Program.keeps_andThen, Program.keeps_pure]
    rw [hs s rfl]
    apply (performAll_read ops).mono
    rintro ⟨replies, s'⟩ g hg _ _ ⟨⟩
    exact hg

end Replay

section

variable {σ : Type} (answer : (c : Native.Call) → σ → c.Answer × σ)

/-- The audit trail of a run is what the program itself has logged under the source. -/
theorem audit_heard {α : Type} {voice : Native.Call → σ → List Log.Entry} {hub : Log.Hub}
    (hhub : hub.minimum = .trace) (hvoice : ∀ c native, ∀ e ∈ voice c native, e.source ≠ logSource)
    (p : Native.Program α) (native : σ) :
    audit hub (p.heard answer voice native) =
      (p.run answer native).entries.filter fun e => e.source = logSource := by
  rw [audit, Log.Hub.accepted_of_trace hhub]
  apply p.heard_filter answer
  intro c native e he
  exact decide_eq_false (hvoice c native e he)

theorem perform_audit (s : Surface) {op : Op} (hop : op = .acquire ∨ op = .present) (native : σ) :
    ∃ reply s' e, ((s.perform op).run answer native).outcome = .ok (reply, s') ∧
      ((s.perform op).run answer native).entries.filter (fun e => e.source = logSource) = [e] ∧
      e.severity = s.grade (handedOut ((s.perform op).run answer native).events) reply.error? := by
  obtain ⟨-, hend, hhalt⟩ := (perform_reports hop).run answer native (fun _ _ _ _ => trivial)
  cases h : ((s.perform op).run answer native).outcome with
  | error reason => exact (hhalt reason h).elim
  | ok r =>
    obtain ⟨n, hentries, hgrade⟩ := hend r h
    rw [record_after, List.nil_append] at hentries hgrade
    refine ⟨r.1, r.2, n.entry, rfl, ?_, hgrade⟩
    rw [Run.entries, hentries]
    rfl

/-- The log of a surface is an audit trail, whatever its native surface answers, and whatever
that logs under another source. Each call of the frame loop leaves one entry, as severe as the
way the call has ended demands. In a life from creation on, the surface is configured if the
last entry to say whether it is says so, and an image is held if the last entry to say whether
one is says so. -/
theorem log_is_audit_trail (voice : Native.Call → σ → List Log.Entry) (hub : Log.Hub)
    (hhub : hub.minimum = .trace)
    (hvoice : ∀ c native, ∀ e ∈ voice c native, e.source ≠ logSource) :
    (∀ (s : Surface) (op : Op) native, op = .acquire ∨ op = .present →
      ∃ reply s' e, ((s.perform op).run answer native).outcome = .ok (reply, s') ∧
        audit hub ((s.perform op).heard answer voice native) = [e] ∧
        e.severity =
          s.grade (handedOut ((s.perform op).run answer native).events) reply.error?) ∧
    ∀ device ops native, ∃ result, ((life device ops).run answer native).outcome = .ok result ∧
      ∀ replies s, result = .ok (replies, s) →
        let trail := audit hub ((life device ops).heard answer voice native)
        s.isConfigured = latest configures? false trail ∧
          s.isAcquired = latest holds? false trail := by
  constructor
  · intro s op native hop
    rw [audit_heard answer hhub hvoice]
    exact perform_audit answer s hop native
  · intro device ops native
    obtain ⟨-, hend, hhalt⟩ := (life_read device ops).run answer native (fun _ _ _ _ => trivial)
    cases h : ((life device ops).run answer native).outcome with
    | error reason => exact (hhalt reason h).elim
    | ok result =>
      refine ⟨result, rfl, ?_⟩
      intro replies s hs
      have hreading := hend result h replies s hs
      rw [reader_after] at hreading
      rw [audit_heard answer hhub hvoice]
      exact ⟨(congrArg Reading.configured hreading).symm, (congrArg Reading.held hreading).symm⟩

end

theorem log_is_audit_trail_chatty :
    let native := Native.Simulated.ofInfo Native.Simulated.defaultInfo
    let voice : Native.Call → Native.Simulated → List Log.Entry :=
      fun _ _ => [.report .info "galaxy3d::vulkan" "Configured by the driver"]
    let hub : Log.Hub := ⟨.console, .trace⟩
    let s : Surface := ⟨"mock", Native.Simulated.defaultInfo, none, none, 0⟩
    let trail := audit hub ((life "mock" [.configure (.ofSize 4 4), .acquire]).heard
      Native.Simulated.answer voice native)
    hub.minimum = .trace ∧ (∀ c native, ∀ e ∈ voice c native, e.source ≠ logSource) ∧
      (∃ e, audit hub ((s.perform .acquire).heard Native.Simulated.answer voice native) = [e] ∧
        e.severity = .error) ∧
      latest configures? false trail = true ∧ latest holds? false trail = true := by
  intro native voice hub s trail
  have hvoice : ∀ c native, ∀ e ∈ voice c native, e.source ≠ logSource := by
    intro c native e he
    rw [List.mem_singleton.mp he]
    decide
  obtain ⟨hcalls, hlives⟩ := log_is_audit_trail Native.Simulated.answer voice hub rfl hvoice
  refine ⟨rfl, hvoice, ?_, ?_⟩
  · obtain ⟨reply, s', e, houtcome, haudit, hgrade⟩ := hcalls s .acquire native (Or.inl rfl)
    cases houtcome
    exact ⟨e, haudit, hgrade⟩
  · obtain ⟨result, houtcome, htrail⟩ :=
      hlives "mock" [.configure (.ofSize 4 4), .acquire] native
    have hends : (((life "mock" [.configure (.ofSize 4 4), .acquire]).run
        Native.Simulated.answer native).outcome.toOption.bind Except.toOption).map
          (fun r => (r.2.isConfigured, r.2.isAcquired)) = some (true, true) := by
      decide +kernel
    rw [houtcome] at hends
    cases result with
    | error e => cases hends
    | ok r =>
      obtain ⟨hconfigured, hheld⟩ := htrail r.1 r.2 rfl
      have hstate : (r.2.isConfigured, r.2.isAcquired) = (true, true) := Option.some.inj hends
      rw [Prod.mk.injEq] at hstate
      exact ⟨hconfigured.symm.trans hstate.1, hheld.symm.trans hstate.2⟩

end Surface

end Presentation
