import Presentation.Attempt

/-!
# Marked events

Of what happens in a run some events are marked. Whatever is answered to a
program, the marked ones are such as its end says, and a halt comes before any
of them. An attempt explains its failures if it marks nothing as long as it
succeeds, and what accounts for the error if it fails.
-/

set_option autoImplicit false

namespace Presentation

variable {I : Interface} {α β ε σ : Type} {mark : Event I → Bool}

namespace Program

variable {Q : α → List (Event I) → Prop} {post : β → List (Event I) → Prop} {told : List (Event I)}

/-- Whatever is answered, the end goes with the marked events, of which some were told before. -/
def Marks (mark : Event I → Bool) (post : α → List (Event I) → Prop) :
    Program I α → List (Event I) → Prop
  | done a, told => post a told
  | note e p, told => p.Marks mark post (told ++ [Event.noted e].filter mark)
  | ask c k, told => ∀ a, (k a).Marks mark post (told ++ [Event.asked c a].filter mark)
  | halt _, told => told = []

/-- No event is marked, and there is no halt. -/
def Silent (mark : Event I → Bool) (p : Program I α) : Prop :=
  ∀ told, p.Marks mark (fun _ told' => told' = told) told

theorem marks_bind {p : Program I α} {f : α → Program I β} :
    (p.bind f).Marks mark post told ↔
      p.Marks mark (fun a told => (f a).Marks mark post told) told := by
  induction p generalizing told with
  | done a => rfl
  | note e p ih => exact ih
  | ask c k ih => exact forall_congr' fun a => ih a
  | halt r => rfl

theorem Marks.mono {Q' : α → List (Event I) → Prop} {p : Program I α} (h : p.Marks mark Q told)
    (himp : ∀ a told, Q a told → Q' a told) : p.Marks mark Q' told := by
  induction p generalizing told with
  | done a => exact himp a told h
  | note e p ih => exact ih h
  | ask c k ih => exact fun a => ih a (h a)
  | halt r => exact h

theorem Marks.andThen {p : Program I α} {f : α → Program I β} (hp : p.Marks mark Q told)
    (hf : ∀ a told, Q a told → (f a).Marks mark post told) : (p >>= f).Marks mark post told :=
  marks_bind.mpr (hp.mono hf)

theorem Silent.andThen {p : Program I α} {f : α → Program I β} (hp : p.Silent mark)
    (hf : ∀ a, (f a).Marks mark post told) : (p >>= f).Marks mark post told := by
  apply Marks.andThen (hp told)
  rintro a _ rfl
  exact hf a

theorem Silent.bind {p : Program I α} {f : α → Program I β} (hp : p.Silent mark)
    (hf : ∀ a, (f a).Silent mark) : (p >>= f).Silent mark :=
  fun told => hp.andThen fun a => hf a told

theorem silent_pure (a : α) : (pure a : Program I α).Silent mark := fun _ => rfl

theorem silent_log {e : Log.Entry} (h : mark (.noted e) = false) :
    (log e : Program I Unit).Silent mark := by
  intro told
  show told ++ [Event.noted e].filter mark = told
  rw [List.filter_cons_of_neg (by simp [h]), List.filter_nil, List.append_nil]

theorem silent_call {c : I.Call} (h : ∀ a, mark (.asked c a) = false) :
    (call c).Silent mark := by
  intro told a
  show told ++ [Event.asked c a].filter mark = told
  rw [List.filter_cons_of_neg (by simp [h a]), List.filter_nil, List.append_nil]

theorem silent_forM {f : β → Program I PUnit} (xs : List β) (hf : ∀ x, (f x).Silent mark) :
    (xs.forM f).Silent mark := by
  induction xs with
  | nil => exact silent_pure _
  | cons x xs ih => exact (hf x).bind fun _ => ih

theorem marks_fetch (xs : List α) (index : Nat) :
    (fetch xs index : Program I α).Marks mark (fun _ told => told = []) [] := by
  unfold fetch
  split
  · rfl
  · rfl

/-- What a program marks is what is marked in its runs. -/
theorem Marks.run {p : Program I α} (h : p.Marks mark Q told)
    (answer : (c : I.Call) → σ → I.Answer c × σ) (s : σ) :
    (∀ a, (p.run answer s).outcome = .ok a → Q a (told ++ (p.run answer s).events.filter mark)) ∧
      ∀ r, (p.run answer s).outcome = .error r →
        told ++ (p.run answer s).events.filter mark = [] := by
  induction p generalizing s told with
  | done a =>
    constructor
    · rintro _ ⟨⟩
      rwa [run, List.filter_nil, List.append_nil]
    · rintro _ ⟨⟩
  | note e p ih =>
    have hrest := ih h s
    rw [List.append_assoc, ← List.filter_append] at hrest
    exact hrest
  | ask c k ih =>
    have hrest := ih (answer c s).1 (h (answer c s).1) (answer c s).2
    rw [List.append_assoc, ← List.filter_append] at hrest
    exact hrest
  | halt r =>
    constructor
    · rintro _ ⟨⟩
    · rintro _ ⟨⟩
      rwa [run, List.filter_nil, List.append_nil]

end Program

def failure? : Except Error α → Option Error
  | .ok _ => none
  | .error e => some e

/-- Nothing is marked unless there is an error, and then what accounts for it. -/
def Explained (account : Error → List (Event I) → Prop) : Option Error → List (Event I) → Prop
  | none, told => told = []
  | some e, told => account e told

namespace Attempt

variable {account : Error → List (Event I) → Prop}

/-- Whatever state it is made on, an attempt that succeeds marks nothing, and one that fails marks
what accounts for the error. -/
def Explains (mark : Event I → Bool) (account : Error → List (Event I) → Prop)
    (t : Attempt I σ α) : Prop :=
  ∀ s, (t s).Marks mark (fun r => Explained account (failure? r.1)) []

theorem explains_succeed (a : α) : (succeed a : Attempt I σ α).Explains mark account :=
  fun _ => rfl

theorem explains_get : (get : Attempt I σ σ).Explains mark account := fun _ => rfl

theorem explains_update (f : σ → σ) : (update f : Attempt I σ Unit).Explains mark account :=
  fun _ => rfl

theorem explains_fail {e : Error} (h : account e []) :
    (fail e : Attempt I σ α).Explains mark account := fun _ => h

theorem Explains.andThen {t : Attempt I σ α} {f : α → Attempt I σ β}
    (ht : t.Explains mark account) (hf : ∀ a, (f a).Explains mark account) :
    (t >>= f).Explains mark account := by
  intro s
  apply Program.marks_bind.mpr
  apply (ht s).mono
  rintro ⟨e | a, s⟩ told htold
  · exact htold
  · obtain rfl : told = [] := htold
    exact hf a s

theorem explains_step {p : Program I α} (h : p.Marks mark (fun _ told => told = []) []) :
    (step p : Attempt I σ α).Explains mark account := by
  intro s
  apply Program.marks_bind.mpr
  exact h

theorem explains_aside {p : Program I α} (h : p.Silent mark) :
    (step p : Attempt I σ α).Explains mark account := explains_step (h [])

/-- What a step has marked is known to what follows it. -/
theorem explains_step_andThen {Q : β → List (Event I) → Prop} {p : Program I β}
    {f : β → Attempt I σ α} (hp : p.Marks mark Q [])
    (hf : ∀ b told, Q b told → ∀ s,
      (f b s).Marks mark (fun r => Explained account (failure? r.1)) told) :
    (step p >>= f).Explains mark account := by
  intro s
  apply Program.marks_bind.mpr
  apply Program.marks_bind.mpr
  exact hp.mono fun b told htold => hf b told htold s

/-- A failure with an error that was worked out. -/
theorem explains_step_fail {p : Program I Error} (h : p.Marks mark account []) :
    (step p >>= fail : Attempt I σ α).Explains mark account :=
  explains_step_andThen h fun _ _ htold _ => htold

theorem explains_forEach {f : β → Attempt I σ Unit} (hf : ∀ x, (f x).Explains mark account)
    (xs : List β) : (forEach f xs).Explains mark account := by
  induction xs with
  | nil => exact explains_succeed ()
  | cons x xs ih => exact (hf x).andThen fun _ => ih

theorem explains_times {t : Attempt I σ Unit} (ht : t.Explains mark account) (n : Nat) :
    (times t n).Explains mark account := by
  induction n with
  | zero => exact explains_succeed ()
  | succ n ih => exact ht.andThen fun _ => ih

theorem explains_expectOr {explain : ε → Program I Error} {p : Program I (Except ε α)}
    (hp : p.Silent mark) (h : ∀ e, (explain e).Marks mark account []) :
    (expectOr explain p : Attempt I σ α).Explains mark account := by
  intro s
  apply Program.marks_bind.mpr
  apply (hp []).mono
  rintro (e | a) _ rfl
  · exact Program.marks_bind.mpr (h e)
  · rfl

end Attempt

end Presentation
