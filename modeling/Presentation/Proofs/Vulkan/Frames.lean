import Presentation.Proofs.Surface.Transition
import Presentation.Proofs.Vulkan.Possession
import Presentation.Proofs.Vulkan.SwapchainFrames

/-!
# Complete frames

Whatever fails on the way, what reaches the presentation queue is a complete
frame: each of its steps was taken once, in order, and the queue waits for the
semaphore that the last of them signals. The queueing follows that step at
once, so no semaphore is signalled twice before it is waited for.
-/

set_option autoImplicit false

namespace Presentation.Vulkan

open Native (Standing protocol transition)

variable {α σ : Type} {gate : Gate} {es es' es'' : List (Event interface)} {c : Call}

/-- No semaphore is signalled a second time before a presentation waits for it. -/
def Spaced (calls : List (Event interface)) : Prop :=
  ∀ (m n : Nat) semaphore queue queue' buffer buffer' guard guard' a, m < n →
    calls[m]? = some (.asked (.submit queue buffer (some semaphore) guard) (.ok ())) →
    calls[n]? = some (.asked (.submit queue' buffer' (some semaphore) guard') a) →
    ∃ k presentQueue handle index b, m < k ∧ k < n ∧
      calls[k]? = some (.asked (.present presentQueue semaphore handle index) b)

theorem spaced_of_allows {events : List (Event interface)}
    (h : (frames gate).Allows [] events) : Spaced (Watch.calls events) := by
  intro m n semaphore queue queue' buffer buffer' guard guard' a hmn hm hn
  have hlt : n < (Watch.calls events).length := (List.getElem?_eq_some_iff.mp hn).1
  -- the call after the first submission waits for its signal, so it is not the second
  obtain ⟨e, he⟩ : ∃ e, (Watch.calls events)[m + 1]? = some e :=
    ⟨_, List.getElem?_eq_getElem (by omega)⟩
  obtain ⟨c, b, rfl⟩ : ∃ c b, e = .asked c b := by
    have hasked := (List.mem_filter.mp (List.mem_of_getElem? he)).2
    cases e with
    | noted entry => cases hasked
    | asked c b => exact ⟨c, b, rfl⟩
  have hsignalled : Signalled semaphore ((Watch.calls events).take (m + 1)) := by
    refine ⟨(Watch.calls events).take m, buffer, _, ?_, queue, buffer, guard, rfl, rfl⟩
    rw [List.take_add_one, hm]
    rfl
  have hawaits : c.Awaits semaphore := (Watch.allows_calls h (m + 1) he).1 semaphore hsignalled
  cases c with
  | present presentQueue wait handle index =>
    have hwait : wait = semaphore := hawaits
    subst hwait
    have hne : m + 1 ≠ n := by
      rintro rfl
      rw [he] at hn
      cases hn
    exact ⟨m + 1, presentQueue, handle, index, b, by omega, by omega, he⟩
  | _ => exact hawaits.elim

namespace WindowSurface

/-- The image that is held, if any, has its frame begun. -/
def Poised (ws : WindowSurface) (es : List (Event interface)) : Prop :=
  Quiet es ∧ ∀ sc, ws.swapchain = some sc → sc.Poised es

/-- The same swapchain to make frames on. -/
def Shares (ws ws' : WindowSurface) : Prop :=
  ∀ sc', ws'.swapchain = some sc' → ∃ sc, ws.swapchain = some sc ∧ sc.Shares sc'

variable {ws ws' ws'' : WindowSurface} {st : Standing} {s : Surface}

theorem Shares.refl (ws : WindowSurface) : ws.Shares ws :=
  fun sc hs => ⟨sc, hs, Swapchain.Shares.refl sc⟩

theorem Shares.trans (h : ws.Shares ws') (h' : ws'.Shares ws'') : ws.Shares ws'' := by
  intro sc'' hs
  obtain ⟨sc', hs', hlater⟩ := h' sc'' hs
  obtain ⟨sc, hs, hsooner⟩ := h sc' hs'
  exact ⟨sc, hs, hlater.1.trans hsooner.1, hlater.2.trans hsooner.2, hlater.3.trans hsooner.3,
    hlater.4.trans hsooner.4, hlater.5.trans hsooner.5⟩

theorem poised_none (hq : Quiet es) (hs : ws.swapchain = none) : ws.Poised es := by
  refine ⟨hq, ?_⟩
  intro sc hs'
  rw [hs] at hs'
  cases hs'

theorem Poised.still (h : ws.Poised es) (hstill : Still es es') : ws.Poised es' :=
  ⟨hstill.1, fun sc hs => (h.2 sc hs).still hstill⟩

/-- What a call leaves behind: image and frame in step, and the swapchain, if it is still there. -/
def Passed (ws : WindowSurface) (c : Native.Call) (ws' : WindowSurface)
    (es : List (Event interface)) : Prop :=
  ws'.Poised es ∧ (c.transits = false → ws.Shares ws')

theorem releaseSwapchain_still (ws : WindowSurface) (h : Quiet es) :
    ws.releaseSwapchain.Keeps (frames gate) (fun _ => Still es) es := by
  unfold releaseSwapchain
  split
  · exact Swapchain.release_still ws.context _ h
  · exact Still.refl h

theorem configure_frames (h : ws.Poised es) (desc : SwapchainDesc) :
    (ws.configure desc).Keeps (frames gate) (fun r => ws.Passed (.configure desc) r.2) es := by
  apply Program.Keeps.andThen (Swapchain.create_still ws.context ws.surface desc _ h.1)
  rintro (e | sc) es' ⟨hstill, hheld⟩
  · exact ⟨h.still hstill, by simp [Native.Call.transits]⟩
  · apply Program.Keeps.andThen (releaseSwapchain_still ws hstill.1)
    intro _ es'' hgone
    refine ⟨⟨hgone.1, ?_⟩, by simp [Native.Call.transits]⟩
    rintro _ ⟨⟩
    exact Swapchain.poised_of_none hgone.1 (hheld sc rfl)

theorem unconfigure_frames (h : ws.Poised es) :
    ws.unconfigure.Keeps (frames gate) (fun ws' => ws.Passed .unconfigure ws') es := by
  unfold unconfigure
  split
  · apply Program.Keeps.andThen (releaseSwapchain_still ws h.1)
    intro _ es' hstill
    simp only [notice, Program.keeps_andThen, Program.keeps_log, Program.keeps_pure]
    exact ⟨poised_none hstill.1 rfl, by simp [Native.Call.transits]⟩
  · exact ⟨poised_none h.1 rfl, by simp [Native.Call.transits]⟩

theorem onSwapchain_frames {c : Native.Call} {t : Context → Swapchain.Build α} (h : ws.Poised es)
    (ht : ∀ sc, ws.swapchain = some sc → (t ws.context).Keeps (frames gate)
      (fun _ sc' es' => sc.Shares sc' ∧ sc'.Poised es')
      (fun _ sc' es' => sc.Shares sc' ∧ sc'.Poised es') sc es) :
    (ws.onSwapchain t).Keeps (frames gate) (fun r => ws.Passed c r.2) es := by
  unfold onSwapchain
  split
  · exact ⟨h, fun _ => Shares.refl ws⟩
  · rename_i sc hs
    apply Program.Keeps.andThen (ht sc hs)
    rintro ⟨result, sc'⟩ es' hr
    have hdone : sc.Shares sc' ∧ sc'.Poised es' := by
      cases result with
      | error e => exact hr
      | ok a => exact hr
    refine ⟨⟨hdone.2.1, ?_⟩, ?_⟩
    · rintro _ ⟨⟩
      exact hdone.2
    · rintro _ _ ⟨⟩
      exact ⟨sc, hs, hdone.1⟩

/-- The frame that a presentation completes is one of the swapchain. -/
def Completes (ws : WindowSurface) : Gate := fun es wait handle index =>
  ∃ sc, ws.swapchain = some sc ∧ handle = sc.handle ∧ sc.Frame index wait es

/-- Whatever completes a frame of the swapchain passes a gate. -/
def Admitted (ws : WindowSurface) (gate : Gate) : Prop :=
  ∀ es wait handle index, ws.Completes es wait handle index → gate es wait handle index

theorem serve_frames (h : ws.Poised es) (c : Native.Call)
    (hheld : c = .acquire → ∀ sc, ws.swapchain = some sc → sc.held = none)
    (hgate : ¬ c.Reads → ws.Admitted gate) :
    (serve c ws).Keeps (frames gate) (fun r => ws.Passed c r.2) es := by
  cases c with
  | queryInfo =>
    have hbears : (frames gate).Bears Call.Inquires (Still es) :=
      fun c es' hc => idles_bears es c es' hc.idles
    apply Program.Keeps.andThen
      (within_bears hbears trivial (queryInfo_keeps ws) (Still.refl h.1))
    intro info es' hr
    exact ⟨h.still hr.2, fun _ => Shares.refl ws⟩
  | configure desc => exact configure_frames h desc
  | unconfigure =>
    apply Program.Keeps.andThen (unconfigure_frames h)
    intro ws' es' hr
    exact hr
  | images => exact ⟨h, fun _ => Shares.refl ws⟩
  | acquire =>
    apply onSwapchain_frames h
    intro sc hs
    exact Swapchain.acquire_frames ws.context sc h.1 (hheld rfl sc hs)
  | present index =>
    apply onSwapchain_frames (t := (Swapchain.present · index)) h
    intro sc hs
    apply Swapchain.present_frames ws.context index sc (h.2 sc hs)
    intro wait es' hframe
    exact hgate id es' wait sc.handle index ⟨sc, hs, rfl, hframe⟩

/-- A window surface that the surface layer has right, with its frames in step. -/
def InStep (ws : WindowSurface) (es : List (Event interface)) (st : Standing) : Prop :=
  (∃ g, ws.Follows g st) ∧ ws.Poised es

theorem InStep.held (h : ws.InStep es st) (c : Native.Call) (hc : st.Allows c) :
    c = .acquire → ∀ sc, ws.swapchain = some sc → sc.held = none := by
  rintro rfl sc hs
  obtain ⟨⟨g, hfollows⟩, -⟩ := h
  obtain ⟨sc', hs', hout⟩ := hfollows.mirrors.swapchain hc.1
  rw [hs] at hs'
  cases hs'
  rw [hc.2] at hout
  exact Option.toList_eq_nil_iff.mp hout.symm

/-- Each call that the native protocol allows is served in step. -/
theorem serve_inStep (h : ws.InStep es st) (c : Native.Call) (hc : st.Allows c)
    (hgate : ¬ c.Reads → ws.Admitted gate) :
    (serve c ws).Keeps (frames gate)
      (fun r es' => r.2.InStep es' (st.see (.asked c r.1)) ∧ (c.transits = false → ws.Shares r.2))
      es := by
  have hheld := h.held c hc
  obtain ⟨⟨g, hfollows⟩, hpoised⟩ := h
  have hboth := (serve_frames hpoised c hheld hgate).alongside (serve_keeps hfollows c hc)
    fun _ _ _ _ hcalm _ => hcalm
  apply hboth.mono
  rintro r es' ⟨⟨hpassed, hshares⟩, g', hfollows'⟩
  exact ⟨⟨⟨g', hfollows'⟩, hpassed⟩, hshares⟩

theorem Shares.admitted (h : ws.Shares ws') : ws'.Admitted ws.Completes := by
  rintro es wait handle index ⟨sc', hs', rfl, hframe⟩
  obtain ⟨sc, hs, hshares⟩ := h sc' hs'
  obtain ⟨begun, presentable, hes, hbegun, hwait, hsubmits⟩ := hframe
  refine ⟨sc, hs, hshares.handle, begun, presentable, hes, ?_, ?_, ?_⟩
  · exact hbegun.congr ⟨hshares.1.symm, hshares.2.symm, hshares.3.symm, hshares.4.symm,
      hshares.5.symm⟩
  · rw [← hshares.presentSemaphores]
    exact hwait
  · rw [← hshares.toPresent]
    exact hsubmits

/-- A life leaves its frames in step. Nothing matters at the gate. -/
theorem life_inStep (ctx : Context) (surface : Handle .surface) (device : String)
    (ops : List Surface.Op) :
    (life ctx surface device ops).Keeps (frames fun _ _ _ _ => True)
      (fun r es => ∀ replies s, r.1 = .ok (replies, s) → ∃ st, r.2.InStep es st ∧ s.Knows st)
      [] := by
  have hserve : ∀ c ws es st, InStep ws es st → protocol.allows st c →
      (serve c ws).Keeps (frames fun _ _ _ _ => True)
        (fun r es' => protocol.trusts st c r.1 ∧ r.2.InStep es' (protocol.see st (.asked c r.1)))
        es := by
    intro c ws es st h hc
    apply (serve_inStep h c hc fun _ _ _ _ _ _ => trivial).mono
    intro _ _ hr
    exact ⟨trivial, hr.1⟩
  have hstart : InStep ⟨ctx, surface, none⟩ [] .initial :=
    ⟨⟨.empty, follows_initial ctx surface⟩, poised_none quiet_nil rfl⟩
  apply (Program.Keeps.servedBy False.elim hserve (Surface.life_keeps device ops) hstart).mono
  rintro ⟨result, ws⟩ es ⟨st, hin, hs⟩ replies s heq
  subst heq
  exact ⟨st, hin, hs⟩

/-- An operation presents on the swapchain that there was before it. -/
theorem perform_frames (h : ws.InStep es st) (hs : s.Knows st) (op : Surface.Op) :
    ((s.perform op).servedBy serve ws).Keeps (frames ws.Completes) (fun _ _ => True) es := by
  have hserve : ∀ c ws' es' d, InStep ws' es' d.1 ∧ (d.2 = false → ws.Shares ws') →
      (protocol.both transition).allows d c →
      (serve c ws').Keeps (frames ws.Completes)
        (fun r es'' => (protocol.both transition).trusts d c r.1 ∧
          InStep r.2 es'' ((protocol.both transition).see d (.asked c r.1)).1 ∧
          (((protocol.both transition).see d (.asked c r.1)).2 = false → ws.Shares r.2)) es' := by
    rintro c ws' es' ⟨st', past⟩ ⟨hin, hshares⟩ ⟨hc, hlast⟩
    have hgate : ¬ c.Reads → ws'.Admitted ws.Completes := by
      intro hdoes
      have hpast : past = false := by
        by_contra hpast
        exact hdoes (hlast (Bool.not_eq_false past ▸ hpast))
      exact (hshares hpast).admitted
    apply (serve_inStep hin c hc hgate).mono
    rintro ⟨a, ws''⟩ es'' ⟨hin', hmore⟩
    refine ⟨⟨trivial, trivial⟩, hin', ?_⟩
    intro hpast
    obtain ⟨hbefore, hstays⟩ := Bool.or_eq_false_iff.mp hpast
    exact (hshares hbefore).trans (hmore hstays)
  have hprogram := (Surface.perform_keeps hs op).both (Surface.perform_transits (s := s) op)
  have hhalts : (protocol.both transition).halts → (frames ws.Completes).halts := fun _ => trivial
  apply (Program.Keeps.servedBy hhalts hserve hprogram ⟨h, fun _ => Shares.refl ws⟩).mono
  intro _ _ _
  trivial

/-- With a driver that never reports an out-of-date surface where Vulkan has no such answer,
whatever a surface does after any operations: each image that it queues for presentation completes
a frame of the swapchain, and over all that was called no semaphore is signalled again before it is
waited for. -/
theorem presents_complete_frames (answer : (c : Call) → σ → c.Answer × σ) (driver : σ)
    (ctx : Context) (surface : Handle .surface) (device : String) (ops : List Surface.Op)
    (replies : List Surface.Reply) (s : Surface) (ws : WindowSurface) (op : Surface.Op) :
    let lived := (life ctx surface device ops).run answer driver
    let run := ((s.perform op).servedBy serve ws).run answer lived.peer
    lived.outcome = .ok (.ok (replies, s), ws) →
    (∀ c a, .asked c a ∈ lived.events ++ run.events → c.Calm a) →
    (∀ (n : Nat) queue wait handle index a,
      run.events[n]? = some (.asked (.present queue wait handle index) a) →
      ∃ sc, ws.swapchain = some sc ∧ handle = sc.handle ∧
        sc.Frame index wait (Watch.calls (lived.events ++ run.events.take n))) ∧
    Spaced (Watch.calls (lived.events ++ run.events)) := by
  intro lived run hend hcalm
  obtain ⟨hlived, hafter, -⟩ := (life_inStep ctx surface device ops).run answer driver
    fun n c a hn => hcalm c a (List.mem_append_left _ (List.mem_of_getElem? hn))
  obtain ⟨st, hin, hs⟩ := hafter _ hend replies s rfl
  have htape : (frames fun _ _ _ _ => True).after [] lived.events = Watch.calls lived.events :=
    Watch.tape_after
  rw [htape] at hin
  obtain ⟨hrun, -, -⟩ := (perform_frames hin hs op).run answer lived.peer
    fun n c a hn => hcalm c a (List.mem_append_right _ (List.mem_of_getElem? hn))
  constructor
  · intro n queue wait handle index a hn
    have hframe := (hrun n _ a hn).2 queue wait handle index rfl
    rw [frames, Watch.tape_after, ← Watch.calls_append] at hframe
    exact hframe
  · have hboth : (frames fun _ _ _ _ => True).Allows [] (lived.events ++ run.events) := by
      apply Watch.allows_append hlived
      rw [htape]
      intro n c a hn
      exact ⟨(hrun n c a hn).1, fun _ _ _ _ _ => trivial⟩
    exact spaced_of_allows hboth

/-- An image that was acquired is presented. -/
theorem presents_first_frame : ∃ replies s ws sc queue wait a,
    ((life .plain ⟨0⟩ "gpu" [.configure (.ofSize 4 4), .acquire]).run stubborn ()).outcome =
      .ok (.ok (replies, s), ws) ∧
    (((s.perform .present).servedBy serve ws).run stubborn ()).events[3]? =
      some (.asked (.present queue wait sc.handle 0) a) ∧
    ws.swapchain = some sc ∧
    sc.Frame 0 wait (Watch.calls
      (((life .plain ⟨0⟩ "gpu" [.configure (.ofSize 4 4), .acquire]).run stubborn ()).events ++
        (((s.perform .present).servedBy serve ws).run stubborn ()).events.take 3)) := by
  have hcalm : ∀ (s : Surface) ws c a, .asked c a ∈
      ((life .plain ⟨0⟩ "gpu" [.configure (.ofSize 4 4), .acquire]).run stubborn ()).events ++
        (((s.perform .present).servedBy serve ws).run stubborn ()).events → c.Calm a := by
    intro s ws c a h
    rcases List.mem_append.mp h with h | h
    · obtain ⟨u, rfl⟩ := Program.answer_of_mem h
      exact stubborn_calm c u
    · obtain ⟨u, rfl⟩ := Program.answer_of_mem h
      exact stubborn_calm c u
  refine ⟨_, _, _, _, _, _, _, rfl, rfl, rfl, ?_⟩
  obtain ⟨sc, hs, -, hframe⟩ := (presents_complete_frames stubborn () .plain ⟨0⟩ "gpu"
    [.configure (.ofSize 4 4), .acquire] _ _ _ .present rfl (hcalm _ _)).1 3 _ _ _ _ _ rfl
  cases hs
  exact hframe

end WindowSurface

end Presentation.Vulkan
