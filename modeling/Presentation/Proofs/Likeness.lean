import Presentation.Program

/-!
# Programs that call alike

Two programs are alike if, given the same answers, they make the same calls and
end in related ways. What they log does not matter, nor how often. With peers that
answer alike they run alike.
-/

set_option autoImplicit false

namespace Presentation.Program

variable {I : Interface} {α β α' β' σ τ : Type}

inductive Alike (R : α → β → Prop) : Program I α → Program I β → Prop
  | done {a : α} {b : β} : R a b → Alike R (.done a) (.done b)
  | noteLeft (e : Log.Entry) {p : Program I α} {q : Program I β} :
      Alike R p q → Alike R (.note e p) q
  | noteRight (e : Log.Entry) {p : Program I α} {q : Program I β} :
      Alike R p q → Alike R p (.note e q)
  | ask (c : I.Call) {k : I.Answer c → Program I α} {l : I.Answer c → Program I β} :
      (∀ a, Alike R (k a) (l a)) → Alike R (.ask c k) (.ask c l)

variable {R : α → β → Prop} {R' : α' → β' → Prop} {p : Program I α} {q : Program I β}

theorem Alike.andThen {f : α → Program I α'} {g : β → Program I β'} (h : p.Alike R q)
    (hf : ∀ a b, R a b → (f a).Alike R' (g b)) : (p >>= f).Alike R' (q >>= g) := by
  induction h with
  | done hab => exact hf _ _ hab
  | noteLeft e _ ih => exact .noteLeft e ih
  | noteRight e _ ih => exact .noteRight e ih
  | ask c _ ih => exact .ask c ih

theorem alike_call (c : I.Call) : (call c).Alike Eq (call c) := .ask c fun _ => .done rfl

theorem alike_log (e e' : Log.Entry) :
    (log e : Program I Unit).Alike (fun _ _ => True) (log e') :=
  .noteLeft e (.noteRight e' (.done trivial))

/-- Entries that are logged on conditions do not matter. -/
theorem alike_logIf {b b' : Prop} [Decidable b] [Decidable b'] (e e' : Log.Entry)
    {f : Unit → Program I α} {g : Unit → Program I β} (h : (f ()).Alike R (g ())) :
    (if b then log e >>= f else f ()).Alike R (if b' then log e' >>= g else g ()) := by
  by_cases hb : b
  · by_cases hb' : b'
    · rw [if_pos hb, if_pos hb']
      exact .noteLeft e (.noteRight e' h)
    · rw [if_pos hb, if_neg hb']
      exact .noteLeft e h
  · by_cases hb' : b'
    · rw [if_neg hb, if_pos hb']
      exact .noteRight e' h
    · rw [if_neg hb, if_neg hb']
      exact h

/-- Programs that are alike run alike, and neither halts. -/
theorem Alike.run {S : σ → τ → Prop} {answer : (c : I.Call) → σ → I.Answer c × σ}
    {answer' : (c : I.Call) → τ → I.Answer c × τ}
    (hanswer : ∀ c s t, S s t → (answer c s).1 = (answer' c t).1 ∧
      S (answer c s).2 (answer' c t).2)
    (h : p.Alike R q) {s : σ} {t : τ} (hS : S s t) :
    ∃ a b, (p.run answer s).outcome = .ok a ∧ (q.run answer' t).outcome = .ok b ∧ R a b ∧
      S (p.run answer s).peer (q.run answer' t).peer := by
  induction h generalizing s t with
  | done hab => exact ⟨_, _, rfl, rfl, hab, hS⟩
  | noteLeft e _ ih => exact ih hS
  | noteRight e _ ih => exact ih hS
  | ask c _ ih =>
    obtain ⟨heq, hS'⟩ := hanswer c s t hS
    cases hreply : answer' c t with
    | mk reply t' =>
      rw [hreply] at heq hS'
      cases heq
      simp only [Program.run, hreply]
      exact ih _ hS'

end Presentation.Program
