import Presentation.Proofs.Vulkan.Explanation
import Presentation.Vulkan.WindowSurface

/-!
# Alarms

A failure raises one alarm, an error entry in the words of the error that is made
of it. That a surface is out of date, or not configured, is no failure, and left
for the caller to report. A presentation that the driver denies is a failure all
the same, although the surface is only said to be out of date for it.
-/

set_option autoImplicit false

namespace Presentation.Vulkan

/-- An error that an alarm is raised for. -/
def Loud (e : Error) : Prop := e ≠ .outOfDateSurface ∧ e ≠ .notConfigured

def isAlarm (entry : Log.Entry) : Bool := entry.severity = .error && entry.source = logSource

def alarms (events : List (Event interface)) : List Log.Entry :=
  (events.filterMap Event.entry?).filter isAlarm

/-- The driver did not show an image, and not because the surface is out of date. -/
def denies : (c : Call) → c.Answer → Bool
  | .present .., .error code => code ≠ .outOfDate
  | _, _ => false

def alarming : Event interface → Bool
  | .noted entry => isAlarm entry
  | .asked c a => denies c a

/-- What is heard when there is an error. -/
inductive Account (presents : Prop) : Error → List (Event interface) → Prop
  | quiet {e : Error} : ¬ Loud e → Account presents e []
  | loud {e : Error} {n : Notice} : Loud e → n.severity = .error →
      (∀ m, e = .backendError m ∨ e = .unsupportedSurface m → m = n.text) →
      Account presents e [.noted n.entry]
  | denied {queue : Queue} {wait : Handle .semaphore} {swapchain : Handle .swapchain}
      {index : Nat} {code : Code} {n : Notice} : presents → code ≠ .outOfDate →
      n.severity = .error → Account presents .outOfDateSurface
        [.asked (.present queue wait swapchain index) (.error code), .noted n.entry]

/-- Errors that are made of a text are loud, and say what the text says if it is for the
application. -/
def Faithful (toError : String → Error) : Prop :=
  ∀ text, Loud (toError text) ∧
    ∀ m, toError text = .backendError m ∨ toError text = .unsupportedSurface m → m = text

theorem faithful_construction : Faithful .construction := by
  simp [Faithful, Loud]

theorem faithful_backendError : Faithful .backendError := by
  simp [Faithful, Loud, eq_comm]

theorem faithful_unsupportedSurface : Faithful .unsupportedSurface := by
  simp [Faithful, Loud, eq_comm]

theorem faithful_outOfMemory : Faithful fun _ => .outOfMemory := by
  simp [Faithful, Loud]

variable {σ α : Type} {presents : Prop} {n : Notice}

theorem isAlarm_entry : isAlarm n.entry = true ↔ n.severity = .error := by
  have hsource : n.entry.source = logSource := rfl
  rw [isAlarm, Bool.and_eq_true, decide_eq_true_iff, decide_eq_true_iff]
  exact and_iff_left hsource

theorem notice_silent (hn : n.severity ≠ .error) :
    (notice n : Program Unit).Silent alarming := by
  apply Program.silent_log
  exact Bool.eq_false_iff.mpr fun halarm => hn (isAlarm_entry.mp halarm)

theorem notice_alarms (hn : n.severity = .error) :
    (notice n : Program Unit).Marks alarming (fun _ told => told = [.noted n.entry]) [] := by
  show [Event.noted n.entry].filter alarming = [.noted n.entry]
  exact List.filter_cons_of_pos (isAlarm_entry.mpr hn)

theorem refuse_accounts {toError : String → Error} (hn : n.severity = .error)
    (h : Faithful toError) :
    (refuse toError n : Program Error).Marks alarming (Account presents) [] := by
  apply (notice_alarms hn).andThen
  rintro _ _ rfl
  exact .loud (h n.text).1 hn (h n.text).2

/-- A failure that is made of a notice. -/
theorem refuse_explained {β : Type} {toError : String → Error} {fail : Error → β}
    {error? : β → Option Error} (hn : n.severity = .error) (h : Faithful toError)
    (hfail : ∀ e, error? (fail e) = some e) :
    (refuse toError n >>= fun e => pure (fail e) : Program β).Marks alarming
      (fun r => Explained (Account presents) (error? r)) [] := by
  apply (refuse_accounts hn h).andThen
  intro e told htold
  show Explained (Account presents) (error? (fail e)) told
  rw [hfail e]
  exact htold

theorem callFailure_accounts (function : String) (code : Code) :
    (callFailure function code : Program Error).Marks alarming (Account presents) [] := by
  unfold callFailure
  split
  · exact .quiet fun h => h.1 rfl
  · split
    · exact refuse_accounts rfl faithful_unsupportedSurface
    · split
      · exact refuse_accounts rfl faithful_outOfMemory
      · exact refuse_accounts rfl faithful_backendError

theorem alarm_fair (presents : Prop) : Fair alarming (Account presents) where
  asked c hc a := by
    cases c with
    | present => exact absurd trivial hc
    | _ => rfl
  created _ _ _ _ _ _ := rfl
  failed function _ := callFailure_accounts function
  empty := refuse_accounts rfl faithful_backendError

theorem ask_calm (c : Call) (hc : ¬ c.Presents) : (ask c).Silent alarming :=
  ask_silent (alarm_fair False) c hc

theorem attempt_accounts {p : Program (Except Code α)} (function : String)
    (hp : p.Silent alarming) :
    (attempt function p : Attempt interface σ α).Explains alarming (Account presents) :=
  Attempt.explains_expectOr hp (callFailure_accounts function)

namespace Terms

theorem negotiate_explains (ctx : Context) (surface : Handle .surface) (desc : SwapchainDesc) :
    (negotiate ctx surface desc).Explains alarming (Account presents) := by
  apply (attempt_accounts _ (ask_calm _ id)).andThen
  intro capabilities
  apply (attempt_accounts _ (ask_calm _ id)).andThen
  intro formats
  apply (attempt_accounts _ (ask_calm _ id)).andThen
  intro modes
  dsimp only
  split
  · exact Attempt.explains_step_fail (refuse_accounts rfl faithful_backendError)
  · split
    · apply (Attempt.explains_aside (notice_silent (by decide))).andThen
      intro _
      exact Attempt.explains_fail (.quiet fun h => h.1 rfl)
    · exact Attempt.explains_succeed _

end Terms

namespace Swapchain

theorem create_explains (ctx : Context) (surface : Handle .surface) (desc : SwapchainDesc)
    (old : Option (Handle .swapchain)) : (create ctx surface desc old).Marks alarming
      (fun r => Explained (Account presents) (failure? r)) [] := by
  rw [create_eq]
  apply (Terms.negotiate_explains ctx surface desc ()).andThen
  rintro ⟨e | terms, ⟨⟩⟩ told htold
  · exact htold
  · obtain rfl : told = [] := htold
    exact make_explains (alarm_fair presents) ctx desc terms _

theorem readyFence_explains (ctx : Context) :
    (readyFence ctx).Explains alarming (Account presents) := by
  apply Attempt.explains_get.andThen
  rintro (_ | fence)
  · apply (newFence_explains (alarm_fair presents) ctx false).andThen
    intro fence
    apply (Attempt.explains_update _).andThen
    intro _
    exact Attempt.explains_succeed _
  · apply (attempt_accounts _ (ask_calm _ id)).andThen
    intro _
    apply (attempt_accounts _ (ask_calm _ id)).andThen
    intro _
    exact Attempt.explains_succeed _

theorem submit_explains (ctx : Context) (buffer : CommandBuffer)
    (signal : Option (Handle .semaphore)) :
    (submit ctx buffer signal).Explains alarming (Account presents) := by
  apply (readyFence_explains ctx).andThen
  intro fence
  apply (Attempt.explains_aside (ask_calm _ id)).andThen
  rintro (code | ⟨⟨⟩⟩)
  · apply (Attempt.explains_aside (ask_calm _ id)).andThen
    intro _
    apply (Attempt.explains_update _).andThen
    intro _
    exact Attempt.explains_step_fail (callFailure_accounts _ code)
  · exact Attempt.explains_succeed _

variable {t : Attempt interface (Option (Handle .fence)) Unit}

theorem onGeneralFence_explains (index : Nat) (ht : t.Explains alarming (Account presents)) :
    (onGeneralFence index t).Explains alarming (Account presents) := by
  intro sc
  apply (Program.marks_fetch sc.generalFences index).andThen
  rintro slot _ rfl
  apply (ht slot).andThen
  exact fun _ _ htold => htold

theorem onPresentFence_explains (index : Nat) (ht : t.Explains alarming (Account presents)) :
    (onPresentFence index t).Explains alarming (Account presents) := by
  intro sc
  apply (Program.marks_fetch sc.presentFences index).andThen
  rintro slot _ rfl
  apply (ht slot).andThen
  exact fun _ _ htold => htold

theorem prepare_explains (ctx : Context) (index : Nat) :
    (prepare ctx index).Explains alarming (Account presents) := by
  apply Attempt.explains_get.andThen
  intro sc
  apply (attempt_accounts _ (ask_calm _ id)).andThen
  intro _
  apply (attempt_accounts _ (ask_calm _ id)).andThen
  intro _
  split
  · apply (Attempt.explains_step (Program.marks_fetch _ _)).andThen
    intro buffer
    exact onGeneralFence_explains index (submit_explains ctx buffer none)
  · exact Attempt.explains_step_fail (refuse_accounts rfl faithful_backendError)

theorem take_explains (ctx : Context) (index : Nat) :
    (take ctx index).Explains alarming (Account presents) := by
  intro sc
  apply (prepare_explains ctx index sc).andThen
  rintro ⟨e | ⟨⟨⟩⟩, sc⟩ told htold
  · exact htold
  · exact htold

theorem acquire_explains (ctx : Context) :
    (acquire ctx).Explains alarming (Account presents) := by
  have htake : ∀ index, (take ctx index).Explains alarming (Account presents) :=
    take_explains ctx
  apply Attempt.explains_get.andThen
  intro sc
  split
  · apply (Attempt.explains_aside (notice_silent (by decide))).andThen
    intro _
    exact Attempt.explains_fail (.quiet fun h => h.1 rfl)
  · apply (attempt_accounts _ (ask_calm _ id)).andThen
    intro image
    split
    · apply (Attempt.explains_aside (notice_silent fun h => by cases h)).andThen
      exact fun _ => htake _
    · exact htake _

theorem conclude_ok_explains (index : Nat) (suboptimal : Bool) :
    (conclude index (.ok suboptimal)).Explains alarming (Account presents) := by
  apply (Attempt.explains_update _).andThen
  intro _
  split
  · exact Attempt.explains_aside (notice_silent fun h => by cases h)
  · exact Attempt.explains_succeed _

/-- A presentation that is denied is heard of where it is concluded. -/
theorem conclude_denied {index : Nat} {code : Code} {told : List (Event interface)}
    (hcode : code ≠ .outOfDate) (sc : Swapchain) : (conclude index (.error code) sc).Marks alarming
      (fun r told' => failure? r.1 = some .outOfDateSurface ∧
        told' = told ++ [.noted (Notice.presentFailed code).entry]) told := by
  have hrun : conclude index (.error code) sc = .note (Notice.presentFailed code).entry
      (.done (.error .outOfDateSurface, { sc with held := none, stale := true })) := by
    simp only [conclude, ne_eq, hcode, not_false_eq_true, if_true]
    rfl
  rw [hrun]
  exact ⟨rfl, rfl⟩

theorem conclude_explains (queue : Queue) (wait : Handle .semaphore)
    (swapchain : Handle .swapchain) (index : Nat) (hpresents : presents) :
    (Attempt.step (ask (.present queue wait swapchain index)) >>= conclude index :
      Build Unit).Explains alarming (Account presents) := by
  have hasked : (ask (.present queue wait swapchain index)).Marks alarming
      (fun a told => told = [Event.asked (Call.present queue wait swapchain index) a].filter
        alarming) [] := fun a => rfl
  apply Attempt.explains_step_andThen hasked
  rintro (code | suboptimal) _ rfl sc
  · by_cases hcode : code = .outOfDate
    · -- this denial is not marked, and its error is quiet
      subst hcode
      exact .quiet fun h => h.1 rfl
    · have hdenied : [Event.asked (I := interface) (.present queue wait swapchain index)
          (.error code)].filter alarming =
            [.asked (.present queue wait swapchain index) (.error code)] :=
        List.filter_cons_of_pos (decide_eq_true hcode)
      rw [hdenied]
      apply (conclude_denied hcode sc).mono
      rintro r _ ⟨herror, rfl⟩
      rw [herror]
      exact .denied hpresents hcode rfl
  · exact conclude_ok_explains index suboptimal sc

theorem present_explains (ctx : Context) (index : Nat) (hpresents : presents) :
    (present ctx index).Explains alarming (Account presents) := by
  apply Attempt.explains_get.andThen
  intro sc
  split
  · exact Attempt.explains_step_fail (refuse_accounts rfl faithful_backendError)
  · apply (Attempt.explains_step (Program.marks_fetch _ _)).andThen
    intro semaphore
    apply (Attempt.explains_step (Program.marks_fetch _ _)).andThen
    intro buffer
    apply (onPresentFence_explains index (submit_explains ctx buffer _)).andThen
    intro _
    exact conclude_explains _ _ _ index hpresents

end Swapchain

namespace WindowSurface

theorem queryInfo_explains (ws : WindowSurface) : ws.queryInfo.Marks alarming
    (fun r => Explained (Account presents) (failure? r)) [] := by
  apply (ask_calm _ id).andThen
  rintro (code | capabilities)
  · exact refuse_explained rfl faithful_unsupportedSurface fun _ => rfl
  · apply (ask_calm _ id).andThen
    rintro (code | formats)
    · exact refuse_explained rfl faithful_unsupportedSurface fun _ => rfl
    · exact rfl

theorem releaseSwapchain_silent (ws : WindowSurface) :
    ws.releaseSwapchain.Silent alarming := by
  unfold releaseSwapchain
  split
  · exact Swapchain.release_silent (alarm_fair False) _ _
  · exact Program.silent_pure _

theorem configure_explains (ws : WindowSurface) (desc : SwapchainDesc) :
    (ws.configure desc).Marks alarming (fun r => Explained (Account presents) (failure? r.1))
      [] := by
  apply (Swapchain.create_explains ws.context ws.surface desc _).andThen
  rintro (e | sc) told htold
  · exact htold
  · exact ws.releaseSwapchain_silent.andThen fun _ => htold

theorem unconfigure_silent (ws : WindowSurface) : ws.unconfigure.Silent alarming := by
  unfold unconfigure
  split
  · apply ws.releaseSwapchain_silent.bind
    intro _
    apply (notice_silent (by decide)).bind
    exact fun _ => Program.silent_pure _
  · exact Program.silent_pure _

theorem onSwapchain_explains {t : Context → Swapchain.Build α} (ws : WindowSurface)
    (ht : ∀ ctx, (t ctx).Explains alarming (Account presents)) : (ws.onSwapchain t).Marks alarming
      (fun r => Explained (Account presents) (failure? r.1)) [] := by
  unfold onSwapchain
  split
  · exact .quiet fun h => h.2 rfl
  · apply (ht ws.context _).andThen
    exact fun _ _ htold => htold

end WindowSurface

end Presentation.Vulkan
