import Mathlib.Data.List.Induction
import Presentation.Proofs.Watch
import Presentation.Surface.Command

/-!
# The native protocol

What a surface may ask of its native surface depends on how the two stand:
whether there is a swapchain, which images it has, and which of them were
handed out and not taken back. The standing is told from the calls and their
answers alone. Whatever a native surface answers, a surface never acquires
while an image is out, presents only the image that is out, and never one of a
swapchain that was replaced or given up.
-/

set_option autoImplicit false

namespace Presentation

namespace Native

/-- How a native surface stands to its surface. -/
structure Standing where
  /-- A configuration succeeded, and nothing was given up since. -/
  ready : Bool
  /-- The images of that configuration, once they were read. -/
  pool : Option (List Texture)
  /-- The indices handed out since then and not taken back. -/
  out : List Nat
  deriving DecidableEq

namespace Standing

def initial : Standing := ⟨false, none, []⟩

def see (st : Standing) : Event interface → Standing
  | .asked (.configure _) (.ok ()) => ⟨true, none, []⟩
  | .asked .unconfigure () => initial
  | .asked .images images => { st with pool := some images }
  | .asked .acquire (.ok index) => { st with out := st.out ++ [index] }
  | .asked (.present index) (.ok ()) => { st with out := st.out.erase index }
  | .asked (.present index) (.error .outOfDateSurface) => { st with out := st.out.erase index }
  | _ => st

def Allows (st : Standing) : Call → Prop
  | .images => st.ready = true ∧ st.pool = none
  | .acquire => st.ready = true ∧ st.out = []
  | .present index =>
    st.ready = true ∧ st.out = [index] ∧ ∃ pool, st.pool = some pool ∧ index < pool.length
  | _ => True

end Standing

def standing (events : List (Event interface)) : Standing :=
  events.foldl Standing.see .initial

/-- Ends the swapchain there was: a configuration that succeeds, or its end. -/
def Replaces : Event interface → Prop
  | .asked (.configure _) (.ok ()) => True
  | .asked .unconfigure () => True
  | _ => False

def protocol : Watch interface Standing where
  see := Standing.see
  allows := Standing.Allows
  trusts _ _ _ := True
  halts := False

instance : protocol.Deaf := ⟨fun _ _ => rfl⟩

theorem mem_out_see {st : Standing} {e : Event interface} {index : Nat}
    (h : index ∈ (st.see e).out) :
    ¬ Replaces e ∧ (index ∈ st.out ∨ e = .asked .acquire (.ok index)) := by
  unfold Standing.see at h
  split at h
  · simp at h
  · simp [Standing.initial] at h
  · exact ⟨id, Or.inl h⟩
  · rename_i i
    rw [List.mem_append, List.mem_singleton] at h
    rcases h with h | rfl
    · exact ⟨id, Or.inl h⟩
    · exact ⟨id, Or.inr rfl⟩
  · exact ⟨id, Or.inl (List.mem_of_mem_erase h)⟩
  · exact ⟨id, Or.inl (List.mem_of_mem_erase h)⟩
  · rename_i hconf hunc _ _ _ _
    refine ⟨?_, Or.inl h⟩
    intro he
    unfold Replaces at he
    split at he
    · exact hconf _ rfl
    · exact hunc rfl
    · exact he

/-- An index that is out was handed out, and its swapchain has not been replaced since. -/
theorem mem_out {events : List (Event interface)} {index : Nat}
    (h : index ∈ (standing events).out) :
    ∃ m : Nat, events[m]? = some (.asked Call.acquire (.ok index)) ∧
      ∀ (k : Nat) e, m < k → events[k]? = some e → ¬ Replaces e := by
  induction events using List.reverseRecOn with
  | nil => simp [standing, Standing.initial] at h
  | append_singleton es e ih =>
    rw [standing, List.foldl_append] at h
    obtain ⟨he, h | hhere⟩ := mem_out_see h
    · obtain ⟨m, hm, hlast⟩ := ih h
      have hlt : m < es.length := (List.getElem?_eq_some_iff.mp hm).1
      refine ⟨m, ?_, ?_⟩
      · rw [List.getElem?_append_left hlt]
        exact hm
      · intro k f hk hf
        by_cases hke : k < es.length
        · rw [List.getElem?_append_left hke] at hf
          exact hlast k f hk hf
        · rw [List.getElem?_append_right (by omega), List.getElem?_singleton] at hf
          split at hf
          · cases hf
            exact he
          · cases hf
    · refine ⟨es.length, by simp [hhere], ?_⟩
      intro k f hk hf
      have hnone : (es ++ [e])[k]? = none := by
        rw [List.getElem?_eq_none_iff]
        simp
        omega
      rw [hnone] at hf
      cases hf

end Native

open Native (Standing protocol)

/-- The image that is out is the one that is held. A stale pool has no images at all, or an
image is out that is not in it. -/
def ActiveConfig.Accounts (a : ActiveConfig) (out : List Nat) : Prop :=
  match a.acquired with
  | some index => out = [index] ∧ index < a.pool.images.length ∧ a.stale = false
  | none =>
    if a.stale then
      out = [] ∧ a.pool.images = [] ∨ ∃ index, out = [index] ∧ a.pool.images.length ≤ index
    else out = [] ∧ a.pool.images ≠ []

namespace Surface

/-- What a surface remembers of its native surface is how the two stand. -/
def Knows (s : Surface) (st : Standing) : Prop :=
  match s.active with
  | none => st = .initial
  | some a => st.ready = true ∧ st.pool = some a.pool.images ∧ a.Accounts st.out

variable {s : Surface} {st : Standing}

theorem knows_some {a : ActiveConfig} (hs : s.active = some a) (h : s.Knows st) :
    st.ready = true ∧ st.pool = some a.pool.images ∧ a.Accounts st.out := by
  unfold Knows at h
  rw [hs] at h
  exact h

theorem refreshAfterTransition_keeps (h : s.Knows st) :
    s.refreshAfterTransition.Keeps protocol Knows st := by
  simp only [refreshAfterTransition, Native.queryInfo, Program.keeps_andThen, Program.call,
    Program.keeps_ask, Program.keeps_done]
  refine ⟨trivial, ?_⟩
  intro answer _
  cases answer with
  | error e =>
    simp only [notice, Program.keeps_andThen, Program.keeps_log, Program.keeps_pure]
    exact h
  | ok info =>
    exact h

theorem knows_adopt (config : SurfaceConfig) (images : List Texture) :
    (s.adopt config images).Knows ⟨true, some images, []⟩ := by
  refine ⟨rfl, rfl, ?_⟩
  simp only [ActiveConfig.Accounts]
  cases images with
  | nil => simp
  | cons x xs => simp

theorem configure_keeps (h : s.Knows st) (config : SurfaceConfig) :
    (s.configure config).Keeps protocol (fun r => r.2.Knows) st := by
  unfold configure
  split
  · simp only [notice, Program.keeps_andThen, Program.keeps_log, Program.keeps_pure]
    exact h
  · simp only [notice, Program.keeps_logIf, Program.keeps_andThen, Native.configure, Program.call,
      Program.keeps_ask, Program.keeps_done]
    refine ⟨trivial, ?_⟩
    intro answer _
    cases answer with
    | error e =>
      exact h
    | ok done =>
      simp only [Native.images, Program.keeps_logIf, Program.keeps_andThen, Program.call,
        Program.keeps_ask, Program.keeps_done, Program.keeps_log, Program.keeps_pure]
      constructor
      · exact ⟨rfl, rfl⟩
      · intro images _
        exact refreshAfterTransition_keeps (knows_adopt config images)

theorem unconfigure_keeps (h : s.Knows st) :
    s.unconfigure.Keeps protocol Knows st := by
  unfold unconfigure
  split
  · simp only [notice, Program.keeps_logIf, Program.keeps_andThen, Native.unconfigure, Program.call,
      Program.keeps_ask, Program.keeps_done, Program.keeps_log, Program.keeps_pure]
    constructor
    · trivial
    · intro _ _
      exact refreshAfterTransition_keeps rfl
  · exact h

theorem resize_keeps (h : s.Knows st) (width height : UInt32) :
    (s.resize width height).Keeps protocol (fun r => r.2.Knows) st := by
  unfold resize
  split
  · simp only [Program.keeps_andThen, Program.keeps_pure]
    exact unconfigure_keeps h
  · split
    · exact h
    · exact configure_keeps h _

theorem acquireNextImage_keeps (h : s.Knows st) :
    s.acquireNextImage.Keeps protocol (fun r => r.2.Knows) st := by
  unfold acquireNextImage
  split
  · simp only [notice, Program.keeps_andThen, Program.keeps_log, Program.keeps_pure]
    exact h
  · rename_i active hs
    obtain ⟨hready, hpool, hout⟩ := knows_some hs h
    split
    · simp only [notice, Program.keeps_andThen, Program.keeps_log, Program.keeps_pure]
      exact h
    · rename_i hidle
      simp only [ActiveConfig.Accounts, hidle] at hout
      split
      · simp only [notice, Program.keeps_andThen, Program.keeps_log, Program.keeps_pure]
        exact h
      · rename_i hstale
        rw [if_neg hstale] at hout
        simp only [Native.acquire, Program.keeps_andThen, Program.call, Program.keeps_ask,
          Program.keeps_done]
        refine ⟨⟨hready, hout.1⟩, ?_⟩
        intro answer _
        cases answer with
        | error e =>
          -- a failure of any kind takes no image
          cases e with
          | _ => exact h
        | ok index =>
          have hsee : protocol.see st (.asked .acquire (.ok index)) =
              { st with out := [index] } := by
            simp [protocol, Standing.see, hout.1]
          rw [hsee]
          dsimp only
          split
          · rename_i hnone
            simp only [notice, Program.keeps_andThen, Program.keeps_log, Program.keeps_pure]
            refine ⟨hready, hpool, ?_⟩
            rw [List.getElem?_eq_none_iff] at hnone
            simp only [ActiveConfig.Accounts, hidle, if_true]
            exact Or.inr ⟨index, rfl, hnone⟩
          · rename_i texture hsome
            simp only [notice, Program.keeps_andThen, Program.keeps_log, Program.keeps_pure]
            refine ⟨hready, hpool, rfl, ?_, by simpa using hstale⟩
            exact (List.getElem?_eq_some_iff.mp hsome).1

theorem knows_released {index : Nat} (hs : s.acquired = some index) (h : s.Knows st) :
    s.released.Knows { st with out := st.out.erase index } := by
  obtain ⟨active, ha, hi⟩ := Option.bind_eq_some_iff.mp hs
  obtain ⟨hready, hpool, hout⟩ := knows_some ha h
  simp only [ActiveConfig.Accounts, hi] at hout
  obtain ⟨hst, hlt, hstale⟩ := hout
  have hne : active.pool.images ≠ [] := by
    intro hnil
    simp [hnil] at hlt
  simp only [released, Knows, ha, Option.map_some]
  refine ⟨hready, hpool, ?_⟩
  simp [ActiveConfig.Accounts, hstale, hst, hne]

theorem present_keeps (h : s.Knows st) :
    s.present.Keeps protocol (fun r => r.2.Knows) st := by
  unfold present
  split
  · simp only [notice, Program.keeps_andThen, Program.keeps_log, Program.keeps_pure]
    exact h
  · rename_i index hs
    obtain ⟨active, ha, hi⟩ := Option.bind_eq_some_iff.mp hs
    obtain ⟨hready, hpool, hout⟩ := knows_some ha h
    simp only [ActiveConfig.Accounts, hi] at hout
    simp only [Native.present, Program.keeps_andThen, Program.call, Program.keeps_ask,
      Program.keeps_done]
    refine ⟨⟨hready, hout.1, _, hpool, hout.2.1⟩, ?_⟩
    intro answer _
    cases answer with
    | error e =>
      cases e with
      | outOfDateSurface => exact knows_released hs h
      | _ => exact h
    | ok done =>
      exact knows_released hs h

theorem refreshInfo_keeps (h : s.Knows st) :
    s.refreshInfo.Keeps protocol (fun r => r.2.Knows) st := by
  simp only [refreshInfo, Native.queryInfo, Program.keeps_andThen, Program.call,
    Program.keeps_ask, Program.keeps_done]
  constructor
  · trivial
  · rintro (e | info) - <;> exact h

theorem perform_keeps (h : s.Knows st) (op : Op) :
    (s.perform op).Keeps protocol (fun r => r.2.Knows) st := by
  cases op with
  | configure config =>
    simp only [perform, Program.keeps_andThen, Program.keeps_pure]
    exact configure_keeps h config
  | resize width height =>
    simp only [perform, Program.keeps_andThen, Program.keeps_pure]
    exact resize_keeps h width height
  | unconfigure =>
    simp only [perform, Program.keeps_andThen, Program.keeps_pure]
    exact unconfigure_keeps h
  | acquire =>
    simp only [perform, Program.keeps_andThen, Program.keeps_pure]
    exact acquireNextImage_keeps h
  | present =>
    simp only [perform, Program.keeps_andThen, Program.keeps_pure]
    exact present_keeps h
  | refresh =>
    simp only [perform, Program.keeps_andThen, Program.keeps_pure]
    exact refreshInfo_keeps h
  | current => exact h

theorem performAll_keeps (h : s.Knows st) (ops : List Op) :
    (s.performAll ops).Keeps protocol (fun r => r.2.Knows) st := by
  induction ops generalizing s st with
  | nil => exact h
  | cons op ops ih =>
    simp only [performAll, Program.keeps_andThen, Program.keeps_pure]
    apply Program.Keeps.mono (perform_keeps h op)
    intro r st hr
    exact ih hr

def Known : Except Error (List Reply × Surface) → Standing → Prop
  | .error _, _ => True
  | .ok (_, s), st => s.Knows st

theorem life_keeps (device : String) (ops : List Op) :
    (life device ops).Keeps protocol Known .initial := by
  simp only [life, attach, Native.queryInfo, Program.keeps_andThen, Program.call,
    Program.keeps_ask, Program.keeps_done]
  refine ⟨trivial, ?_⟩
  intro answer _
  cases answer with
  | error e =>
    exact trivial
  | ok info =>
    dsimp only
    split
    · exact trivial
    · simp only [notice, Program.keeps_andThen, Program.keeps_log, Program.keeps_pure]
      have hnew : Knows ⟨device, info, none, none, 0⟩ .initial := rfl
      exact performAll_keeps hnew ops

theorem wholeLife_keeps (device : String) (ops : List Op) :
    (wholeLife device ops).Keeps protocol (fun _ _ => True) .initial := by
  simp only [wholeLife, Program.keeps_andThen]
  apply Program.Keeps.mono (life_keeps device ops)
  rintro (e | ⟨replies, s⟩) st -
  · exact trivial
  · simp only [close, notice, Program.keeps_logIf, Program.keeps_andThen, Native.unconfigure,
      Program.call, Program.keeps_ask, Program.keeps_done, Program.keeps_pure]
    exact ⟨trivial, fun _ _ => trivial⟩

end Surface

namespace Native

/-- The native protocol, as the events of a run show it. -/
structure Obeyed (events : List (Event interface)) : Prop where
  /-- There is a swapchain, and no image of it is out. -/
  acquire : ∀ (n : Nat) answer, events[n]? = some (.asked Call.acquire answer) →
    (standing (events.take n)).ready = true ∧ (standing (events.take n)).out = []
  /-- The image is the only one that is out, and lies in the pool. -/
  present : ∀ (n index : Nat) answer, events[n]? = some (.asked (Call.present index) answer) →
    (standing (events.take n)).ready = true ∧ (standing (events.take n)).out = [index] ∧
      ∃ pool, (standing (events.take n)).pool = some pool ∧ index < pool.length
  /-- The image was handed out by the swapchain that there still is. -/
  current : ∀ (n index : Nat) answer, events[n]? = some (.asked (Call.present index) answer) →
    ∃ m < n, events[m]? = some (.asked Call.acquire (.ok index)) ∧
      ∀ (k : Nat) e, m < k → k < n → events[k]? = some e → ¬ Replaces e
  /-- The images are read once for each swapchain. -/
  images : ∀ (n : Nat) answer, events[n]? = some (.asked Call.images answer) →
    (standing (events.take n)).ready = true ∧ (standing (events.take n)).pool = none

theorem obeyed_of_allows {events : List (Event interface)}
    (h : protocol.Allows .initial events) : Obeyed events where
  acquire n answer hn := h n _ answer hn
  present n index answer hn := h n _ answer hn
  images n answer hn := h n _ answer hn
  current n index answer hn := by
    have hout : (standing (events.take n)).out = [index] := (h n _ answer hn).2.1
    have hindex : index ∈ (standing (events.take n)).out := by simp [hout]
    obtain ⟨m, hm, hlast⟩ := mem_out hindex
    have hmn : m < n := by
      have hlt := (List.getElem?_eq_some_iff.mp hm).1
      rw [List.length_take] at hlt
      omega
    rw [List.getElem?_take_of_lt hmn] at hm
    refine ⟨m, hmn, hm, ?_⟩
    intro k e hmk hkn he
    apply hlast k e hmk
    rw [List.getElem?_take_of_lt hkn]
    exact he

end Native

namespace Surface

variable {σ : Type}

theorem close_last (s : Surface) (answer : (c : Native.Call) → σ → c.Answer × σ) (native : σ) :
    ∃ before, (s.close.run answer native).events =
      before ++ [.asked Native.Call.unconfigure ()] := by
  simp only [close]
  split
  · exact ⟨[.noted Notice.droppedWhileHeld.entry], rfl⟩
  · exact ⟨[], rfl⟩

/-- Giving up a surface ends with its native swapchain being given up. -/
theorem wholeLife_last (answer : (c : Native.Call) → σ → c.Answer × σ) (native : σ)
    (device : String) (ops : List Op) (replies : List Reply)
    (h : ((wholeLife device ops).run answer native).outcome = .ok (.ok replies)) :
    ∃ before, ((wholeLife device ops).run answer native).events =
      before ++ [.asked Native.Call.unconfigure ()] := by
  unfold wholeLife at h ⊢
  obtain ⟨lived, -, hclose, hevents⟩ := Program.run_bind_ok h
  rw [hevents]
  match lived with
  | .error e => cases hclose
  | .ok (replies', s) =>
    obtain ⟨-, -, -, hlast⟩ := Program.run_bind_ok hclose
    obtain ⟨before, hbefore⟩ := close_last s answer ((life device ops).run answer native).peer
    refine ⟨((life device ops).run answer native).events ++ before, ?_⟩
    rw [List.append_assoc, ← hbefore]
    apply congrArg _ (hlast.trans _)
    exact List.append_nil _

/-- Whatever the native surface answers, a surface obeys the native protocol, and its end is
the last thing that the native surface hears of it. -/
theorem native_protocol_obeyed (answer : (c : Native.Call) → σ → c.Answer × σ) (native : σ)
    (device : String) (ops : List Op) :
    Native.Obeyed ((life device ops).run answer native).events ∧
    Native.Obeyed ((wholeLife device ops).run answer native).events ∧
    ∀ replies, ((wholeLife device ops).run answer native).outcome = .ok (.ok replies) →
      ∃ before, ((wholeLife device ops).run answer native).events =
        before ++ [.asked Native.Call.unconfigure ()] := by
  have htrust : ∀ events, protocol.Trusts .initial events := fun _ _ _ _ _ => trivial
  refine ⟨?_, ?_, wholeLife_last answer native device ops⟩
  · exact Native.obeyed_of_allows ((life_keeps device ops).run answer native (htrust _)).1
  · exact Native.obeyed_of_allows ((wholeLife_keeps device ops).run answer native (htrust _)).1

end Surface

end Presentation
