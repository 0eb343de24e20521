import Presentation.Proofs.Vulkan.Census

/-!
# Lifetimes

What the census has counted, told by the events alone: which objects were
created and which destroyed, which of them are live, and what was still live
of the kinds below an object when that was destroyed.
-/

set_option autoImplicit false

namespace Presentation.Vulkan

variable {c : Census} {e : Event interface} {before events : List (Event interface)}

def madeBy : Event interface → Multiset Object
  | .asked (.create _) (.ok h) => {h.object}
  | _ => 0

def endedBy : Event interface → Multiset Object
  | .asked (.destroy _ _ handle) _ => part handle
  | _ => 0

/-- The objects that were created, each as often as that happened. -/
def created (events : List (Event interface)) : Multiset Object := (events.map madeBy).sum

/-- The objects that were destroyed, each as often as that happened. -/
def destroyed (events : List (Event interface)) : Multiset Object := (events.map endedBy).sum

/-- The objects that are live after some events, if there was none before. -/
def live (events : List (Event interface)) : Multiset Object := (census.after ⟨0, 0⟩ events).live

/-- Every call passes objects only that are live at the time. -/
def PassesLive (events : List (Event interface)) : Prop :=
  ∀ (n : Nat) call a, events[n]? = some (.asked call a) → ∀ o ∈ call.uses, o ∈ live (events.take n)

/-- An operation that leaves a state with some objects, by its events and those before it. -/
structure Accounts (before events : List (Event interface)) (objects : Multiset Object) :
    Prop where
  /-- What is live is what the state has. -/
  live_eq : live (before ++ events) = objects
  /-- What was ever created was destroyed once, or the state has it. -/
  created_eq : created (before ++ events) = destroyed (before ++ events) + objects
  /-- When an object is destroyed, what was made on it is gone: if anything is live of the kinds
  below it, that stays, and the state has it. -/
  spares : ∀ (n : Nat) kind on handle a,
    events[n]? = some (.asked (.destroy kind on (some handle)) a) →
      below kind (live (before ++ events.take n)) ≤ objects

theorem created_append : created (before ++ events) = created before + created events := by
  simp [created]

theorem destroyed_append :
    destroyed (before ++ events) = destroyed before + destroyed events := by
  simp [destroyed]

namespace Census

theorem see_live (spared : Multiset Object) : (c.see e).live = (see ⟨c.live, spared⟩ e).live := by
  unfold see
  split
  · rfl
  · rfl
  · rfl

theorem after_live (spared : Multiset Object) :
    (census.after c events).live = (census.after ⟨c.live, spared⟩ events).live := by
  induction events generalizing c spared with
  | nil => rfl
  | cons e rest ih =>
    show (census.after (c.see e) rest).live = (census.after (see ⟨c.live, spared⟩ e) rest).live
    rw [ih 0, see_live spared, ← ih 0]

theorem see_spared : c.spared ≤ (c.see e).spared := by
  unfold see
  split
  · exact le_rfl
  · exact Multiset.le_union_left
  · exact le_rfl

theorem after_spared : c.spared ≤ (census.after c events).spared := by
  induction events generalizing c with
  | nil => exact le_rfl
  | cons e rest ih => exact see_spared.trans ih

theorem below_spared {n : Nat} {kind : Kind} {on : Option Object} {handle : Handle kind} {a : Unit}
    (hn : events[n]? = some (.asked (.destroy kind on (some handle)) a)) :
    below kind (census.after c (events.take n)).live ≤ (census.after c events).spared := by
  induction events generalizing c n with
  | nil => simp at hn
  | cons e rest ih =>
    cases n with
    | zero =>
      rw [List.getElem?_cons_zero, Option.some.injEq] at hn
      have hseen : below kind c.live ≤ (c.see e).spared := by
        rw [hn]
        exact Multiset.le_union_right
      exact hseen.trans after_spared
    | succ n => exact ih hn

/-- Where the census allows an event, what it makes and what it ends balance. -/
theorem see_balance (h : ∀ call a, e = .asked call a → census.allows c call) :
    c.live + madeBy e = endedBy e + (c.see e).live := by
  cases e with
  | noted entry => exact add_comm c.live 0
  | asked call a =>
    have hlive : ∀ o ∈ call.uses, o ∈ c.live := h call a rfl
    cases call with
    | create what =>
      cases a with
      | error code => exact add_comm c.live 0
      | ok made =>
        show c.live + {made.object} = 0 + made.object ::ₘ c.live
        rw [zero_add, add_comm, Multiset.singleton_add]
    | destroy kind on handle =>
      cases handle with
      | none => exact add_comm c.live 0
      | some handle =>
        have hmem : handle.object ∈ c.live := by
          apply hlive
          simp [Call.uses]
        show c.live + 0 = {handle.object} + c.live.erase handle.object
        rw [add_zero, Multiset.singleton_add, Multiset.cons_erase hmem]
    | _ => exact add_comm c.live 0

theorem after_balance (h : census.Allows c events) :
    c.live + created events = destroyed events + (census.after c events).live := by
  induction events generalizing c with
  | nil => exact add_comm _ _
  | cons e rest ih =>
    have hhead : ∀ call a, e = .asked call a → census.allows c call := by
      intro call a he
      exact h 0 call a (congrArg some he)
    have htail : census.Allows (c.see e) rest := by
      intro n call a hn
      exact h (n + 1) call a hn
    calc c.live + created (e :: rest)
        = c.live + madeBy e + created rest := by
          simp only [created, List.map_cons, List.sum_cons, add_assoc]
      _ = endedBy e + ((c.see e).live + created rest) := by
          rw [see_balance hhead, add_assoc]
      _ = destroyed (e :: rest) + (census.after c (e :: rest)).live := by
          rw [ih htail]
          simp only [destroyed, List.map_cons, List.sum_cons, add_assoc]
          rfl

end Census

theorem accounts_of_books {objects : Multiset Object} (hbefore : census.Allows ⟨0, 0⟩ before)
    (hevents : census.Allows ⟨live before, 0⟩ events)
    (h : (census.after ⟨live before, 0⟩ events).Books objects objects) :
    Accounts before events objects where
  live_eq := by
    rw [live, Watch.after_append, Census.after_live 0]
    exact h.1
  created_eq := by
    have hfirst : 0 + created before = destroyed before + live before :=
      Census.after_balance hbefore
    have hsecond := Census.after_balance hevents
    rw [h.1] at hsecond
    calc created (before ++ events)
        = 0 + created before + created events := by rw [created_append, zero_add]
      _ = destroyed before + (live before + created events) := by rw [hfirst, add_assoc]
      _ = destroyed (before ++ events) + objects := by
          rw [hsecond, destroyed_append, add_assoc]
  spares := by
    intro n kind on handle a hn
    apply le_trans _ h.2
    rw [live, Watch.after_append, Census.after_live 0]
    exact Census.below_spared hn

end Presentation.Vulkan
