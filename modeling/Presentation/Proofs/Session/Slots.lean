import Mathlib.Algebra.BigOperators.Group.List.Basic
import Presentation.Session.Slots

/-!
# Sums over slots

A name has one place at most. So what all slots come to is what one of them
holds, and what the others come to.
-/

set_option autoImplicit false

namespace Presentation.Session.Slots

variable {α β : Type} {slots : Slots α} {name : String} {a : α} {e : String × α}

/-- No name twice. -/
def Single (slots : Slots α) : Prop := (slots.entries.map (·.1)).Nodup

def total [AddCommMonoid β] (f : α → β) (slots : Slots α) : β :=
  (slots.entries.map fun e => f e.2).sum

theorem mem_erase : e ∈ (slots.erase name).entries ↔ e ∈ slots.entries ∧ e.1 ≠ name := by
  simp [erase]

theorem erase_single (h : slots.Single) : (slots.erase name).Single := by
  apply List.Nodup.sublist _ h
  exact List.filter_sublist.map _

theorem insert_perm :
    (slots.insert name a).entries.Perm ((name, a) :: (slots.erase name).entries) := by
  apply List.perm_middle.trans
  rw [List.takeWhile_append_dropWhile]

theorem mem_insert : e ∈ (slots.insert name a).entries ↔
    e = (name, a) ∨ e ∈ (slots.erase name).entries := by
  rw [insert_perm.mem_iff, List.mem_cons]

theorem insert_single (h : slots.Single) : (slots.insert name a).Single := by
  have hperm : ((slots.insert name a).entries.map (·.1)).Perm
      (name :: (slots.erase name).entries.map (·.1)) := insert_perm.map _
  apply hperm.nodup_iff.mpr
  apply List.nodup_cons.mpr
  constructor
  · intro hmem
    obtain ⟨e, he, hname⟩ := List.mem_map.mp hmem
    exact (mem_erase.mp he).2 hname
  · exact erase_single h

theorem total_insert [AddCommMonoid β] (f : α → β) :
    (slots.insert name a).total f = f a + (slots.erase name).total f := by
  have hperm : ((slots.insert name a).entries.map fun e => f e.2).Perm
      (((name, a) :: (slots.erase name).entries).map fun e => f e.2) := insert_perm.map _
  rw [total, hperm.sum_eq, List.map_cons, List.sum_cons, total]

theorem mem_of_get? (h : slots.get? name = some a) : (name, a) ∈ slots.entries := by
  obtain ⟨before, after, hentries, -⟩ := List.lookup_eq_some_iff.mp h
  simp [hentries]

theorem erase_of_get?_none (h : slots.get? name = none) : slots.erase name = slots := by
  have hall : slots.entries.filter (·.1 ≠ name) = slots.entries := by
    apply List.filter_eq_self.mpr
    intro e he
    have hne : (name != e.1) = true := List.lookup_eq_none_iff.mp h e he
    apply decide_eq_true
    intro hname
    exact bne_iff_ne.mp hne hname.symm
  rw [erase, hall]

/-- With the names single, erasing one erases what was found there and nothing else. -/
theorem total_of_get? [AddCommMonoid β] (f : α → β) (hs : slots.Single)
    (h : slots.get? name = some a) : slots.total f = f a + (slots.erase name).total f := by
  obtain ⟨before, after, hentries, -⟩ := List.lookup_eq_some_iff.mp h
  rw [Single, hentries, List.map_append, List.map_cons] at hs
  have hother : ∀ e ∈ before ++ after, e.1 ≠ name := by
    intro e he hname
    have hnot := (List.nodup_cons.mp (List.perm_middle.nodup_iff.mp hs)).1
    apply hnot
    rw [← List.map_append]
    exact List.mem_map.mpr ⟨e, he, hname⟩
  have herase : (slots.erase name).entries = before ++ after := by
    have hkeep : (before ++ after).filter (·.1 ≠ name) = before ++ after := by
      apply List.filter_eq_self.mpr
      intro e he
      simpa using hother e he
    rw [erase, hentries, List.filter_append, List.filter_cons, ← hkeep, List.filter_append]
    simp
  rw [total, total, herase, hentries]
  simp only [List.map_append, List.map_cons, List.sum_append, List.sum_cons]
  rw [add_left_comm]

end Presentation.Session.Slots
