import Presentation.Proofs.Watch
import Presentation.Surface.Command

/-!
# Operations that fail

An operation that fails leaves its surface as it was, whatever the native
surface answered on the way. There are two exceptions. A presentation that is
out of date has consumed the image that was held, and an acquisition that was
given an index outside of the pool has found the pool not to match. Each of
them changes one field, and nothing else fails with that effect.
-/

set_option autoImplicit false

namespace Presentation

namespace Native

def handedOut? : Event interface → Option Nat
  | .asked .acquire (.ok index) => some index
  | _ => none

/-- The indices that a native surface handed out, in order. -/
def handedOut (events : List (Event interface)) : List Nat := events.filterMap handedOut?

def handOuts : Watch interface (List Nat) where
  see out e := out ++ (handedOut? e).toList
  allows _ _ := True
  trusts _ _ _ := True
  halts := False

instance : handOuts.Deaf := ⟨fun out _ => List.append_nil out⟩

theorem handOuts_after (out : List Nat) (events : List (Event interface)) :
    handOuts.after out events = out ++ handedOut events :=
  Watch.after_gathering (fun _ _ => rfl) out events

end Native

open Native (handOuts handedOut)

namespace Surface

/-- An image was held, and no longer is. -/
def Consumes (s s' : Surface) : Prop :=
  ∃ active index, s.active = some active ∧ active.acquired = some index ∧
    s' = { s with active := some { active with acquired := none } }

/-- The pool was not known not to match, and now is. -/
def Mismatches (s s' : Surface) : Prop :=
  ∃ active, s.active = some active ∧ active.stale = false ∧
    s' = { s with active := some { active with stale := true } }

/-- The one index that was handed out lies outside of the pool. -/
def Strays (s : Surface) (out : List Nat) : Prop :=
  ∃ active index, s.active = some active ∧ out = [index] ∧ active.pool.images.length ≤ index

/-- How an operation that failed leaves a surface, given the indices that were handed out in it. -/
def FailsTo (s : Surface) (op : Op) (out : List Nat) (e : Error) (s' : Surface) : Prop :=
  op = .present ∧ e = .outOfDateSurface ∧ s.Consumes s' ∨
  op = .acquire ∧ e = .outOfDateSurface ∧ s.Strays out ∧ s.Mismatches s' ∨
  ¬ (op = .present ∧ e = .outOfDateSurface) ∧ ¬ (op = .acquire ∧ s.Strays out) ∧ s' = s

variable {s : Surface} {out : List Nat}

/-- The reply says that all went well, or the surface is the same. -/
def Unmoved {α : Type} (s : Surface) (r : Outcome α) (_ : List Nat) : Prop :=
  ∀ e, r.1 = .error e → r.2 = s

theorem unmoved_ok {α : Type} (a : α) (s' : Surface) : s.Unmoved (.ok a, s') out := by
  intro e he
  cases he

theorem unmoved_error {α : Type} (e : Error) : s.Unmoved ((.error e, s) : Outcome α) out := by
  intro _ _
  rfl

theorem refreshAfterTransition_ends :
    s.refreshAfterTransition.Keeps handOuts (fun _ _ => True) out := by
  simp only [refreshAfterTransition, Native.queryInfo, Program.keeps_andThen, Program.call,
    Program.keeps_ask, Program.keeps_done]
  refine ⟨trivial, ?_⟩
  intro answer _
  cases answer with
  | error e =>
    simp only [notice, Program.keeps_andThen, Program.keeps_log, Program.keeps_pure]
  | ok info => trivial

theorem configure_fails (config : SurfaceConfig) :
    (s.configure config).Keeps handOuts s.Unmoved out := by
  unfold configure
  split
  · rename_i e _
    simp only [notice, Program.keeps_andThen, Program.keeps_log, Program.keeps_pure]
    exact unmoved_error e
  · simp only [notice, Program.keeps_logIf, Program.keeps_andThen, Native.configure, Program.call,
      Program.keeps_ask, Program.keeps_done]
    refine ⟨trivial, ?_⟩
    intro answer _
    cases answer with
    | error e => exact unmoved_error e
    | ok done =>
      simp only [Native.images, Program.keeps_logIf, Program.keeps_andThen, Program.call,
        Program.keeps_ask, Program.keeps_done, Program.keeps_log, Program.keeps_pure]
      refine ⟨trivial, ?_⟩
      intro images _
      exact refreshAfterTransition_ends.mono fun s' _ _ => unmoved_ok () s'

theorem unconfigure_ends : s.unconfigure.Keeps handOuts (fun _ _ => True) out := by
  unfold unconfigure
  split
  · simp only [notice, Program.keeps_logIf, Program.keeps_andThen, Native.unconfigure,
      Program.call, Program.keeps_ask, Program.keeps_done, Program.keeps_log, Program.keeps_pure]
    refine ⟨trivial, ?_⟩
    intro _ _
    exact refreshAfterTransition_ends
  · trivial

theorem resize_fails (width height : UInt32) :
    (s.resize width height).Keeps handOuts s.Unmoved out := by
  unfold resize
  split
  · simp only [Program.keeps_andThen, Program.keeps_pure]
    exact unconfigure_ends.mono fun s' _ _ => unmoved_ok () s'
  · split
    · exact unmoved_error .notConfigured
    · exact configure_fails _

theorem refreshInfo_fails : s.refreshInfo.Keeps handOuts s.Unmoved out := by
  simp only [refreshInfo, Native.queryInfo, Program.keeps_andThen, Program.call,
    Program.keeps_ask, Program.keeps_done]
  refine ⟨trivial, ?_⟩
  intro answer _
  cases answer with
  | error e => exact unmoved_error e
  | ok info => exact unmoved_ok info _

theorem not_strays_nil : ¬ s.Strays [] := by
  rintro ⟨_, _, _, hout, _⟩
  cases hout

theorem failsTo_acquire_self (h : ¬ s.Strays out) (e : Error) : s.FailsTo .acquire out e s := by
  have hop : ¬ (Op.acquire = .present ∧ e = .outOfDateSurface) := by
    rintro ⟨hop, _⟩
    cases hop
  exact Or.inr (Or.inr ⟨hop, fun hstray => h hstray.2, rfl⟩)

theorem acquireNextImage_fails :
    s.acquireNextImage.Keeps handOuts
      (fun r out => ∀ e, r.1 = .error e → s.FailsTo .acquire out e r.2) [] := by
  have hself : ∀ e e' : Error, (.error e : Except Error SurfaceImage) = .error e' →
      s.FailsTo .acquire [] e' s := fun _ e' _ => failsTo_acquire_self not_strays_nil e'
  unfold acquireNextImage
  split
  · simp only [notice, Program.keeps_andThen, Program.keeps_log, Program.keeps_pure]
    exact hself _
  · rename_i active hs
    split
    · simp only [notice, Program.keeps_andThen, Program.keeps_log, Program.keeps_pure]
      exact hself _
    · split
      · simp only [notice, Program.keeps_andThen, Program.keeps_log, Program.keeps_pure]
        exact hself _
      · rename_i hstale
        simp only [Native.acquire, Program.keeps_andThen, Program.call, Program.keeps_ask,
          Program.keeps_done]
        refine ⟨trivial, ?_⟩
        intro answer _
        cases answer with
        | error e =>
          cases e with
          | _ => exact hself _
        | ok index =>
          dsimp only
          split
          · rename_i hnone
            have hout : s.Strays [index] :=
              ⟨active, index, hs, rfl, List.getElem?_eq_none_iff.mp hnone⟩
            have hfresh : active.stale = false := by simpa using hstale
            simp only [notice, Program.keeps_andThen, Program.keeps_log, Program.keeps_pure]
            intro e he
            cases he
            exact Or.inr (Or.inl ⟨rfl, rfl, hout, active, hs, hfresh, rfl⟩)
          · simp only [notice, Program.keeps_andThen, Program.keeps_log, Program.keeps_pure]
            intro e he
            cases he

theorem failsTo_present_self {e : Error} (he : e ≠ .outOfDateSurface) :
    s.FailsTo .present out e s := by
  have hop : ¬ (Op.present = .acquire ∧ s.Strays out) := by
    rintro ⟨hop, _⟩
    cases hop
  exact Or.inr (Or.inr ⟨fun h => he h.2, hop, rfl⟩)

theorem present_fails :
    s.present.Keeps handOuts (fun r out => ∀ e, r.1 = .error e → s.FailsTo .present out e r.2)
      out := by
  unfold present
  split
  · simp only [notice, Program.keeps_andThen, Program.keeps_log, Program.keeps_pure]
    intro e he
    cases he
    exact failsTo_present_self (by simp)
  · rename_i index hs
    simp only [Native.present, Program.keeps_andThen, Program.call, Program.keeps_ask,
      Program.keeps_done]
    refine ⟨trivial, ?_⟩
    intro answer _
    cases answer with
    | ok done =>
      simp only [notice, Program.keeps_andThen, Program.keeps_log, Program.keeps_pure]
      intro e he
      cases he
    | error e =>
      cases e with
      | outOfDateSurface =>
        obtain ⟨active, ha, hi⟩ := Option.bind_eq_some_iff.mp hs
        simp only [notice, Program.keeps_andThen, Program.keeps_log, Program.keeps_pure]
        intro e he
        cases he
        have hreleased : s.released =
            { s with active := some { active with acquired := none } } := by
          simp [released, ha]
        exact Or.inl ⟨rfl, rfl, active, index, ha, hi, hreleased⟩
      | _ =>
        intro e he
        cases he
        exact failsTo_present_self (by simp)

theorem perform_fails (op : Op) :
    (s.perform op).Keeps handOuts
      (fun r out => ∀ e, r.1.error? = some e → s.FailsTo op out e r.2) [] := by
  -- What fails without a change does so in neither of the two exceptional ways.
  have hself : ∀ {op : Op} {out : List Nat} {e : Error} {s' : Surface}, op ≠ .present →
      op ≠ .acquire → s' = s → s.FailsTo op out e s' := by
    intro op out e s' hpresent hacquire hs
    exact Or.inr (Or.inr ⟨fun h => hpresent h.1, fun h => hacquire h.1, hs⟩)
  cases op with
  | configure config =>
    simp only [perform, Program.keeps_andThen, Program.keeps_pure]
    apply (configure_fails config).mono
    rintro ⟨e | ⟨⟩, s'⟩ out h e' he
    · exact hself (by simp) (by simp) (h e rfl)
    · cases he
  | resize width height =>
    simp only [perform, Program.keeps_andThen, Program.keeps_pure]
    apply (resize_fails width height).mono
    rintro ⟨e | ⟨⟩, s'⟩ out h e' he
    · exact hself (by simp) (by simp) (h e rfl)
    · cases he
  | unconfigure =>
    simp only [perform, Program.keeps_andThen, Program.keeps_pure]
    apply unconfigure_ends.mono
    intro s' out _ e he
    cases he
  | acquire =>
    simp only [perform, Program.keeps_andThen, Program.keeps_pure]
    apply acquireNextImage_fails.mono
    rintro ⟨e | image, s'⟩ out h e' he
    · cases he
      exact h e rfl
    · cases he
  | present =>
    simp only [perform, Program.keeps_andThen, Program.keeps_pure]
    apply present_fails.mono
    rintro ⟨e | ⟨⟩, s'⟩ out h e' he
    · cases he
      exact h e rfl
    · cases he
  | refresh =>
    simp only [perform, Program.keeps_andThen, Program.keeps_pure]
    apply refreshInfo_fails.mono
    rintro ⟨e | info, s'⟩ out h e' he
    · exact hself (by simp) (by simp) (h e rfl)
    · cases he
  | current =>
    intro e he
    cases he

variable {σ : Type}

/-- Every operation ends with a reply. If that is an error, the surface is as it was before, but
for the image that an out-of-date presentation consumed and for the pool that an index outside of
it has shown not to match. -/
theorem failed_operation_keeps_surface (answer : (c : Native.Call) → σ → c.Answer × σ) (native : σ)
    (s : Surface) (op : Op) :
    ∃ reply s', ((s.perform op).run answer native).outcome = .ok (reply, s') ∧
      ∀ e, reply.error? = some e →
        s.FailsTo op (handedOut ((s.perform op).run answer native).events) e s' := by
  obtain ⟨-, hend, hhalt⟩ := (perform_fails op).run answer native (fun _ _ _ _ => trivial)
  cases h : ((s.perform op).run answer native).outcome with
  | error reason => exact (hhalt reason h).elim
  | ok r =>
    refine ⟨r.1, r.2, rfl, ?_⟩
    have hfails := hend r h
    rwa [Native.handOuts_after, List.nil_append] at hfails

end Surface

end Presentation
