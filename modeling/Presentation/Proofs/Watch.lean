import Presentation.Attempt

/-!
# Watching programs

A watch follows the events of a run with a state of its own. In each state it
allows some calls, and trusts some answers to be given to them. A program
keeps to a watch if, whatever trusted answers it gets, it makes allowed calls
only and ends as promised. This is a property of the program, proved along its
text; `Program.Keeps.run` carries it over to the events of a run with any peer.
-/

set_option autoImplicit false

namespace Presentation

structure Watch (I : Interface) (γ : Type) where
  see : γ → Event I → γ
  allows : γ → I.Call → Prop
  trusts : γ → (c : I.Call) → I.Answer c → Prop
  /-- Whether a program may halt. -/
  halts : Prop

namespace Watch

variable {I : Interface} {γ : Type}

def after (w : Watch I γ) (g : γ) (events : List (Event I)) : γ := events.foldl w.see g

def Trusts (w : Watch I γ) (g : γ) (events : List (Event I)) : Prop :=
  ∀ (n : Nat) c a, events[n]? = some (.asked c a) → w.trusts (w.after g (events.take n)) c a

def Allows (w : Watch I γ) (g : γ) (events : List (Event I)) : Prop :=
  ∀ (n : Nat) c a, events[n]? = some (.asked c a) → w.allows (w.after g (events.take n)) c

theorem after_append (w : Watch I γ) (g : γ) (es fs : List (Event I)) :
    w.after g (es ++ fs) = w.after (w.after g es) fs := List.foldl_append

/-- A watch that adds what it picks of each event has picked it of all events in the end. -/
theorem after_gathering {β : Type} {w : Watch I (List β)} {pick : Event I → Option β}
    (h : ∀ picked e, w.see picked e = picked ++ (pick e).toList) (picked : List β)
    (events : List (Event I)) : w.after picked events = picked ++ events.filterMap pick := by
  induction events generalizing picked with
  | nil => exact (List.append_nil picked).symm
  | cons e rest ih =>
    have hrest : w.after picked (e :: rest) = w.see picked e ++ rest.filterMap pick := ih _
    rw [hrest, h, List.append_assoc, List.filterMap_cons]
    cases pick e with
    | none => rfl
    | some b => rfl

theorem trusts_tail {w : Watch I γ} {g : γ} {e : Event I} {es : List (Event I)}
    (h : w.Trusts g (e :: es)) : w.Trusts (w.see g e) es := by
  intro n c a hn
  exact h (n + 1) c a hn

theorem allows_nil (w : Watch I γ) (g : γ) : w.Allows g [] := by
  intro n c a hn
  simp at hn

theorem allows_noted {w : Watch I γ} {g : γ} {e : Log.Entry} {es : List (Event I)}
    (h : w.Allows (w.see g (.noted e)) es) : w.Allows g (.noted e :: es) := by
  intro n c a hn
  cases n with
  | zero => simp at hn
  | succ n => exact h n c a hn

theorem allows_asked {w : Watch I γ} {g : γ} {c : I.Call} {a : I.Answer c}
    {es : List (Event I)} (hc : w.allows g c) (h : w.Allows (w.see g (.asked c a)) es) :
    w.Allows g (.asked c a :: es) := by
  intro n c' a' hn
  cases n with
  | zero =>
    simp only [List.getElem?_cons_zero, Option.some.injEq, Event.asked.injEq] at hn
    obtain ⟨rfl, -⟩ := hn
    exact hc
  | succ n => exact h n c' a' hn

theorem allows_append {w : Watch I γ} {g : γ} {es fs : List (Event I)} (h : w.Allows g es)
    (h' : w.Allows (w.after g es) fs) : w.Allows g (es ++ fs) := by
  intro n c a hn
  by_cases hlt : n < es.length
  · rw [List.getElem?_append_left hlt] at hn
    rw [List.take_append_of_le_length (Nat.le_of_lt hlt)]
    exact h n c a hn
  · rw [Nat.not_lt] at hlt
    rw [List.getElem?_append_right hlt] at hn
    have htake : (es ++ fs).take n = es ++ fs.take (n - es.length) := by
      rw [List.take_append, List.take_of_length_le hlt]
    rw [htake, after_append]
    exact h' _ c a hn

/-- Two watches at once. -/
def both {δ : Type} (w : Watch I γ) (v : Watch I δ) : Watch I (γ × δ) where
  see g e := (w.see g.1 e, v.see g.2 e)
  allows g c := w.allows g.1 c ∧ v.allows g.2 c
  trusts g c a := w.trusts g.1 c a ∧ v.trusts g.2 c a
  halts := w.halts ∧ v.halts

/-- Calls of some kind are allowed wherever something holds, and it holds after them. -/
def Bears (w : Watch I γ) (calls : I.Call → Prop) (P : γ → Prop) : Prop :=
  ∀ c g, calls c → P g → w.allows g c ∧ ∀ a, w.trusts g c a → P (w.see g (.asked c a))

/-- A watch that pays no attention to what is logged. -/
class Deaf (w : Watch I γ) : Prop where
  see_noted : ∀ g e, w.see g (.noted e) = g

/-- The calls among some events. -/
def calls (events : List (Event I)) : List (Event I) := events.filter fun e => e.entry?.isNone

instance {δ : Type} {w : Watch I γ} {v : Watch I δ} [w.Deaf] [v.Deaf] : (w.both v).Deaf :=
  ⟨fun g e => Prod.ext (Deaf.see_noted g.1 e) (Deaf.see_noted g.2 e)⟩

/-- A watch that remembers every call, and allows the next by what was called before. -/
def tape (allows : List (Event I) → I.Call → Prop) (trusts : (c : I.Call) → I.Answer c → Prop)
    (halts : Prop) : Watch I (List (Event I)) where
  see es e := es ++ calls [e]
  allows := allows
  trusts _ := trusts
  halts := halts

section

variable {allows : List (Event I) → I.Call → Prop} {trusts : (c : I.Call) → I.Answer c → Prop}
  {halts : Prop} {c : I.Call} {a : I.Answer c} {es events : List (Event I)}

instance : (tape allows trusts halts).Deaf := ⟨fun es _ => List.append_nil es⟩

@[simp] theorem mem_calls : .asked c a ∈ calls events ↔ .asked c a ∈ events := by
  simp [calls, Event.entry?]

theorem calls_append (es events : List (Event I)) :
    calls (es ++ events) = calls es ++ calls events := List.filter_append es events

theorem tape_after : (tape allows trusts halts).after es events = es ++ calls events := by
  induction events generalizing es with
  | nil => exact (List.append_nil es).symm
  | cons e rest ih =>
    have hcons : calls (e :: rest) = calls [e] ++ calls rest := calls_append [e] rest
    have hstep : (tape allows trusts halts).after es (e :: rest) = es ++ calls [e] ++ calls rest :=
      ih
    rw [hstep, hcons, List.append_assoc]

/-- What is allowed on the tape, by position among the calls. -/
theorem allows_calls (h : (tape allows trusts halts).Allows es events) (n : Nat)
    (hn : (calls events)[n]? = some (.asked c a)) : allows (es ++ (calls events).take n) c := by
  induction events generalizing es n with
  | nil => cases hn
  | cons e rest ih =>
    cases e with
    | noted entry =>
      have hrest : (tape allows trusts halts).Allows (es ++ []) rest := by
        intro n c a hn
        exact h (n + 1) c a hn
      rw [List.append_nil] at hrest
      exact ih hrest n hn
    | asked c' a' =>
      cases n with
      | zero =>
        cases hn
        have hfirst := h 0 c a rfl
        rwa [← List.append_nil es] at hfirst
      | succ n =>
        have hrest : (tape allows trusts halts).Allows (es ++ [.asked c' a']) rest := by
          intro n c a hn
          exact h (n + 1) c a hn
        have htail := ih hrest n hn
        rwa [List.append_assoc] at htail

end

end Watch

namespace Program

variable {I J : Interface} {α β σ γ δ : Type} {w : Watch I γ} {g : γ}

def Keeps (w : Watch I γ) (post : α → γ → Prop) : Program I α → γ → Prop
  | done a, g => post a g
  | note e p, g => p.Keeps w post (w.see g (.noted e))
  | ask c k, g => w.allows g c ∧ ∀ a, w.trusts g c a → (k a).Keeps w post (w.see g (.asked c a))
  | halt _, _ => w.halts

@[simp] theorem keeps_done {post : α → γ → Prop} (a : α) :
    (done a : Program I α).Keeps w post g ↔ post a g := Iff.rfl

@[simp] theorem keeps_pure {post : α → γ → Prop} (a : α) :
    (pure a : Program I α).Keeps w post g ↔ post a g := Iff.rfl

@[simp] theorem keeps_halt {post : α → γ → Prop} (r : Halt) :
    (halt r : Program I α).Keeps w post g ↔ w.halts := Iff.rfl

@[simp] theorem keeps_note {post : α → γ → Prop} (e : Log.Entry) (p : Program I α) :
    (note e p).Keeps w post g ↔ p.Keeps w post (w.see g (.noted e)) := Iff.rfl

@[simp] theorem keeps_log [w.Deaf] {post : Unit → γ → Prop} (e : Log.Entry) :
    (log e : Program I Unit).Keeps w post g ↔ post () g := by
  rw [log, keeps_note, Watch.Deaf.see_noted, keeps_done]

@[simp] theorem keeps_ask {post : α → γ → Prop} {c : I.Call} {k : I.Answer c → Program I α} :
    (ask c k).Keeps w post g ↔
      w.allows g c ∧ ∀ a, w.trusts g c a → (k a).Keeps w post (w.see g (.asked c a)) := Iff.rfl

theorem keeps_fetch {post : α → γ → Prop} {xs : List α} {index : Nat}
    (hx : ∀ x, xs[index]? = some x → post x g) (hh : xs[index]? = none → w.halts) :
    (fetch xs index : Program I α).Keeps w post g := by
  unfold fetch
  split
  · rename_i x h
    exact hx x h
  · rename_i h
    exact hh h

theorem keeps_bind {post : β → γ → Prop} {p : Program I α} {f : α → Program I β} :
    (p.bind f).Keeps w post g ↔ p.Keeps w (fun a g => (f a).Keeps w post g) g := by
  induction p generalizing g with
  | done a => rfl
  | note e p ih => exact ih
  | ask c k ih =>
    simp only [Program.bind, Keeps]
    exact and_congr_right fun _ => forall_congr' fun a => imp_congr_right fun _ => ih a
  | halt r => rfl

@[simp] theorem keeps_andThen {post : β → γ → Prop} {p : Program I α} {f : α → Program I β} :
    (p >>= f).Keeps w post g ↔ p.Keeps w (fun a g => (f a).Keeps w post g) g := keeps_bind

/-- An entry that is logged on a condition does not matter to a deaf watch. -/
theorem keeps_logIf [w.Deaf] {post : α → γ → Prop} {b : Prop} [Decidable b] (e : Log.Entry)
    (f : Unit → Program I α) :
    (if b then log e >>= f else f ()).Keeps w post g ↔ (f ()).Keeps w post g := by
  split
  · rw [keeps_andThen, keeps_log]
  · rfl

theorem Keeps.mono {post post' : α → γ → Prop} {p : Program I α} (h : p.Keeps w post g)
    (himp : ∀ a g, post a g → post' a g) : p.Keeps w post' g := by
  induction p generalizing g with
  | done a => exact himp a g h
  | note e p ih => exact ih h
  | ask c k ih => exact ⟨h.1, fun a ha => ih a (h.2 a ha)⟩
  | halt r => exact h

/-- Two programs in a row, with what holds between them. -/
theorem Keeps.andThen {mid : α → γ → Prop} {post : β → γ → Prop} {p : Program I α}
    {f : α → Program I β} (hp : p.Keeps w mid g)
    (hf : ∀ a g, mid a g → (f a).Keeps w post g) : (p >>= f).Keeps w post g :=
  keeps_andThen.mpr (hp.mono hf)

theorem keeps_congr {post post' : α → γ → Prop} {p : Program I α}
    (himp : ∀ a g, post a g ↔ post' a g) : p.Keeps w post g ↔ p.Keeps w post' g :=
  ⟨fun h => h.mono fun a g => (himp a g).mp, fun h => h.mono fun a g => (himp a g).mpr⟩

theorem Keeps.and {post post' : α → γ → Prop} {p : Program I α} (h : p.Keeps w post g)
    (h' : p.Keeps w post' g) : p.Keeps w (fun a g => post a g ∧ post' a g) g := by
  induction p generalizing g with
  | done a => exact ⟨h, h'⟩
  | note e p ih => exact ih h h'
  | ask c k ih => exact ⟨h.1, fun a ha => ih a (h.2 a ha) (h'.2 a ha)⟩
  | halt r => exact h

theorem servedBy_andThen (serve : (c : J.Call) → σ → Program I (J.Answer c × σ)) (p : Program J α)
    (f : α → Program J β) (s : σ) : (p >>= f).servedBy serve s =
      p.servedBy serve s >>= fun r => (f r.1).servedBy serve r.2 := servedBy_bind serve p f s

/-- A program whose calls are answered by a server keeps to a watch over the server's calls, if
it keeps to one over its own that the server is able to follow. -/
theorem Keeps.servedBy {v : Watch J δ} {serve : (c : J.Call) → σ → Program I (J.Answer c × σ)}
    {R : σ → γ → δ → Prop} [w.Deaf] [v.Deaf] (hhalts : v.halts → w.halts)
    (hserve : ∀ c s g d, R s g d → v.allows d c → (serve c s).Keeps w
      (fun r g => v.trusts d c r.1 ∧ R r.2 g (v.see d (.asked c r.1))) g)
    {p : Program J α} {post : α → δ → Prop} {s : σ} {d : δ} (h : p.Keeps v post d)
    (hR : R s g d) :
    (p.servedBy serve s).Keeps w (fun r g => ∃ d, R r.2 g d ∧ post r.1 d) g := by
  induction p generalizing s g d with
  | done a => exact ⟨d, hR, h⟩
  | note e p ih =>
    rw [keeps_note, Watch.Deaf.see_noted] at h
    rw [Program.servedBy, keeps_note, Watch.Deaf.see_noted]
    exact ih h hR
  | ask c k ih =>
    rw [Program.servedBy, keeps_bind]
    apply Program.Keeps.mono (hserve c s g d hR h.1)
    intro r g' hr
    exact ih r.1 (h.2 r.1 hr.1) hr.2
  | halt r => exact hhalts h

theorem keeps_forM {P : γ → Prop} {f : β → Program I PUnit} (xs : List β)
    (hf : ∀ x ∈ xs, ∀ g, P g → (f x).Keeps w (fun _ => P) g) (h : P g) :
    (xs.forM f).Keeps w (fun _ => P) g := by
  induction xs generalizing g with
  | nil => exact h
  | cons x xs ih =>
    apply Program.Keeps.andThen (hf x (by simp) g h)
    intro _ g hg
    exact ih (fun y hy => hf y (by simp [hy])) hg

/-- Under a watch that forbids nothing, every program keeps what every event keeps. -/
theorem keeps_stable {P : γ → Prop} (hallows : ∀ g c, w.allows g c) (hhalts : w.halts)
    (hsee : ∀ g e, P g → P (w.see g e)) (p : Program I α) (h : P g) :
    p.Keeps w (fun _ => P) g := by
  induction p generalizing g with
  | done a => exact h
  | note e p ih => exact ih (hsee g (.noted e) h)
  | ask c k ih => exact ⟨hallows g c, fun a _ => ih a (hsee g (.asked c a) h)⟩
  | halt r => exact hhalts

/-- A program that makes only calls of some kind keeps whatever such calls keep. -/
theorem Keeps.amid {u : Watch I Unit} [w.Deaf] {post : α → Unit → Prop} {P : γ → Prop}
    {p : Program I α} (h : p.Keeps u post ()) (hhalts : u.halts → w.halts)
    (hstep : ∀ c g, u.allows () c → P g → w.allows g c ∧
      ∀ a, w.trusts g c a → u.trusts () c a ∧ P (w.see g (.asked c a)))
    (hP : P g) : p.Keeps w (fun a g' => post a () ∧ P g') g := by
  induction p generalizing g with
  | done a => exact ⟨h, hP⟩
  | note e p ih =>
    rw [keeps_note, Watch.Deaf.see_noted]
    exact ih h hP
  | ask c k ih =>
    obtain ⟨hallowed, hanswer⟩ := hstep c g h.1 hP
    refine ⟨hallowed, ?_⟩
    intro a ha
    obtain ⟨htrusted, hP'⟩ := hanswer a ha
    exact ih a (h.2 a htrusted) hP'
  | halt r => exact hhalts h

/-- A program that makes only calls to which a watch pays no attention leaves its state alone. -/
theorem Keeps.aside {u : Watch I Unit} [w.Deaf] {post : α → Unit → Prop} {p : Program I α}
    (h : p.Keeps u post ()) (hhalts : u.halts → w.halts)
    (hallows : ∀ c, u.allows () c → w.allows g c)
    (htrusts : ∀ c a, u.allows () c → w.trusts g c a → u.trusts () c a)
    (hsee : ∀ c a, u.allows () c → w.see g (.asked c a) = g) :
    p.Keeps w (fun a g' => post a () ∧ g' = g) g := by
  apply Keeps.amid (P := fun g' => g' = g) h hhalts _ rfl
  rintro c _ hc rfl
  exact ⟨hallows c hc, fun a ha => ⟨htrusts c a hc ha, hsee c a hc⟩⟩

/-- What a program keeps to another watch for it keeps under this one as well, if this one trusts
no other answers. -/
theorem Keeps.alongside {v : Watch I δ} {d : δ} {post : α → γ → Prop} {post' : α → δ → Prop}
    {p : Program I α} (h : p.Keeps w post g) (h' : p.Keeps v post' d)
    (htrusts : ∀ g d c a, w.trusts g c a → v.trusts d c a) :
    p.Keeps w (fun a g => post a g ∧ ∃ d, post' a d) g := by
  induction p generalizing g d with
  | done a => exact ⟨h, d, h'⟩
  | note e p ih => exact ih h h'
  | ask c k ih => exact ⟨h.1, fun a ha => ih a (h.2 a ha) (h'.2 a (htrusts g d c a ha))⟩
  | halt r => exact h

theorem Keeps.both {v : Watch I δ} {d : δ} {post : α → γ → Prop} {post' : α → δ → Prop}
    {p : Program I α} (h : p.Keeps w post g) (h' : p.Keeps v post' d) :
    p.Keeps (w.both v) (fun a g => post a g.1 ∧ post' a g.2) (g, d) := by
  induction p generalizing g d with
  | done a => exact ⟨h, h'⟩
  | note e p ih => exact ih h h'
  | ask c k ih => exact ⟨⟨h.1, h'.1⟩, fun a ha => ih a (h.2 a ha.1) (h'.2 a ha.2)⟩
  | halt r => exact ⟨h, h'⟩

/-- What a program keeps to holds of each of its runs with a peer whose answers are trusted. -/
theorem Keeps.run {post : α → γ → Prop} {p : Program I α} (h : p.Keeps w post g)
    (answer : (c : I.Call) → σ → I.Answer c × σ) (s : σ)
    (ht : w.Trusts g (p.run answer s).events) :
    w.Allows g (p.run answer s).events ∧
      (∀ a, (p.run answer s).outcome = .ok a → post a (w.after g (p.run answer s).events)) ∧
      (∀ r, (p.run answer s).outcome = .error r → w.halts) := by
  induction p generalizing g s with
  | done a =>
    refine ⟨w.allows_nil g, ?_, ?_⟩
    · intro b hb
      cases hb
      exact h
    · intro r hr
      cases hr
  | note e p ih =>
    obtain ⟨ha, hp, hh⟩ := ih h s (Watch.trusts_tail ht)
    exact ⟨Watch.allows_noted ha, hp, hh⟩
  | ask c k ih =>
    have hc := ht 0 c (answer c s).1 rfl
    obtain ⟨ha, hp, hh⟩ := ih _ (h.2 _ hc) (answer c s).2 (Watch.trusts_tail ht)
    exact ⟨Watch.allows_asked h.1 ha, hp, hh⟩
  | halt r =>
    refine ⟨w.allows_nil g, ?_, ?_⟩
    · intro b hb
      cases hb
    · intro _ _
      exact h

/-- A program that keeps to an empty tape keeps to one with calls on it, as if they were not. -/
theorem Keeps.onTape {allows allows' : List (Event I) → I.Call → Prop}
    {trusts : (c : I.Call) → I.Answer c → Prop} {halts : Prop} {before calls : List (Event I)}
    {post : α → List (Event I) → Prop} {p : Program I α}
    (h : p.Keeps (Watch.tape allows trusts halts) post calls)
    (hallows : ∀ es c, allows es c → allows' (before ++ es) c) :
    p.Keeps (Watch.tape allows' trusts halts)
      (fun a es => ∃ calls, es = before ++ calls ∧ post a calls) (before ++ calls) := by
  induction p generalizing calls with
  | done a => exact ⟨calls, rfl, h⟩
  | note e p ih =>
    rw [keeps_note, Watch.Deaf.see_noted] at h ⊢
    exact ih h
  | ask c k ih =>
    refine ⟨hallows calls c h.1, ?_⟩
    intro a ha
    have hsee : (Watch.tape allows' trusts halts).see (before ++ calls) (.asked c a) =
        before ++ (Watch.tape allows trusts halts).see calls (.asked c a) := List.append_assoc ..
    rw [hsee]
    exact ih a (h.2 a ha)
  | halt r => exact h

/-- What a program that may not halt keeps to, as seen by what comes after it. -/
theorem Keeps.run_andThen {post : α → γ → Prop} {p : Program I α} (h : p.Keeps w post g)
    (hhalts : ¬ w.halts) (f : α → Program I β) (answer : (c : I.Call) → σ → I.Answer c × σ) (s : σ)
    (ht : w.Trusts g ((p >>= f).run answer s).events) :
    ∃ a es s', post a (w.after g es) ∧ ((p >>= f).run answer s).outcome =
      ((f a).run answer s').outcome ∧
      ((p >>= f).run answer s).events = es ++ ((f a).run answer s').events := by
  induction p generalizing g s with
  | done a => exact ⟨a, [], s, h, rfl, rfl⟩
  | note e p ih =>
    obtain ⟨a, es, s', hpost, houtcome, hevents⟩ := ih h s (Watch.trusts_tail ht)
    exact ⟨a, .noted e :: es, s', hpost, houtcome, congrArg (Event.noted e :: ·) hevents⟩
  | ask c k ih =>
    have hc := ht 0 c (answer c s).1 rfl
    obtain ⟨a, es, s', hpost, houtcome, hevents⟩ :=
      ih _ (h.2 _ hc) (answer c s).2 (Watch.trusts_tail ht)
    exact ⟨a, .asked c _ :: es, s', hpost, houtcome,
      congrArg (Event.asked c (answer c s).1 :: ·) hevents⟩
  | halt r => exact absurd h hhalts

/-- Calls that a peer answers as they were answered, going from one state to another. -/
def Replays (answer : (c : I.Call) → σ → I.Answer c × σ) : List (Event I) → σ → σ → Prop
  | [], s, t => t = s
  | .noted _ :: es, s, t => Replays answer es s t
  | .asked c a :: es, s, t => a = (answer c s).1 ∧ Replays answer es (answer c s).2 t

theorem run_replays (answer : (c : I.Call) → σ → I.Answer c × σ) (p : Program I α) (s : σ) :
    Replays answer (Watch.calls (p.run answer s).events) s (p.run answer s).peer := by
  induction p generalizing s with
  | done a => rfl
  | note e p ih => exact ih s
  | ask c k ih => exact ⟨rfl, ih _ _⟩
  | halt r => rfl

end Program

namespace Attempt

variable {I : Interface} {α β ε σ γ : Type} {w : Watch I γ} {s : σ} {g : γ}

/-- What holds of the end of an attempt, by whether it succeeded. -/
def Ends (ok : α → σ → γ → Prop) (err : Error → σ → γ → Prop) : Except Error α × σ → γ → Prop
  | (.ok a, s), g => ok a s g
  | (.error e, s), g => err e s g

def Keeps (w : Watch I γ) (ok : α → σ → γ → Prop) (err : Error → σ → γ → Prop)
    (t : Attempt I σ α) (s : σ) (g : γ) : Prop :=
  (t s).Keeps w (Ends ok err) g

variable {ok : β → σ → γ → Prop} {err : Error → σ → γ → Prop}

theorem keeps_then {t : Attempt I σ α} {f : α → Attempt I σ β} :
    (andThen t f).Keeps w ok err s g ↔
      t.Keeps w (fun a s g => (f a).Keeps w ok err s g) err s g := by
  apply Program.keeps_bind.trans (Program.keeps_congr _)
  intro r g
  match r with
  | (.ok a, s) => rfl
  | (.error e, s) => rfl

@[simp] theorem keeps_bind {t : Attempt I σ α} {f : α → Attempt I σ β} :
    (t >>= f).Keeps w ok err s g ↔
      t.Keeps w (fun a s g => (f a).Keeps w ok err s g) err s g := keeps_then

@[simp] theorem keeps_succeed {b : β} :
    (succeed b : Attempt I σ β).Keeps w ok err s g ↔ ok b s g := Iff.rfl

@[simp] theorem keeps_pure {b : β} :
    (pure b : Attempt I σ β).Keeps w ok err s g ↔ ok b s g := Iff.rfl

@[simp] theorem keeps_fail {e : Error} :
    (fail e : Attempt I σ β).Keeps w ok err s g ↔ err e s g := Iff.rfl

@[simp] theorem keeps_get {ok : σ → σ → γ → Prop} :
    (get : Attempt I σ σ).Keeps w ok err s g ↔ ok s s g := Iff.rfl

@[simp] theorem keeps_update {ok : Unit → σ → γ → Prop} {f : σ → σ} :
    (update f : Attempt I σ Unit).Keeps w ok err s g ↔ ok () (f s) g := Iff.rfl

@[simp] theorem keeps_step {p : Program I β} :
    (step p : Attempt I σ β).Keeps w ok err s g ↔ p.Keeps w (fun b g => ok b s g) g :=
  Program.keeps_bind

theorem keeps_expectOr {explain : ε → Program I Error} {p : Program I (Except ε β)} :
    (expectOr explain p : Attempt I σ β).Keeps w ok err s g ↔
      p.Keeps w (fun r g => match r with
        | .ok b => ok b s g
        | .error e => (explain e).Keeps w (fun e g => err e s g) g) g := by
  apply Program.keeps_bind.trans (Program.keeps_congr _)
  intro r g
  match r with
  | .ok b => rfl
  | .error e => exact Program.keeps_bind

theorem Keeps.mono {t : Attempt I σ β} {ok' : β → σ → γ → Prop} {err' : Error → σ → γ → Prop}
    (h : t.Keeps w ok err s g) (hok : ∀ b s g, ok b s g → ok' b s g)
    (herr : ∀ e s g, err e s g → err' e s g) : t.Keeps w ok' err' s g := by
  apply Program.Keeps.mono h
  intro r g hr
  match r with
  | (.ok b, s) => exact hok b s g hr
  | (.error e, s) => exact herr e s g hr

theorem keeps_forEach {P : σ → γ → Prop} {f : α → Attempt I σ Unit} (xs : List α)
    (hf : ∀ x ∈ xs, ∀ s g, P s g → (f x).Keeps w (fun _ => P) (fun _ => P) s g)
    (h : P s g) : (forEach f xs).Keeps w (fun _ => P) (fun _ => P) s g := by
  induction xs generalizing s g with
  | nil => exact h
  | cons x xs ih =>
    rw [forEach, keeps_then]
    apply (hf x (by simp) s g h).mono
    · intro _ s g hs
      exact ih (fun y hy => hf y (by simp [hy])) hs
    · intro _ s g hs
      exact hs

theorem keeps_times {P : σ → γ → Prop} {t : Attempt I σ Unit} (n : Nat)
    (ht : ∀ s g, P s g → t.Keeps w (fun _ => P) (fun _ => P) s g)
    (h : P s g) : (times t n).Keeps w (fun _ => P) (fun _ => P) s g := by
  induction n generalizing s g with
  | zero => exact h
  | succ n ih =>
    rw [times, keeps_then]
    apply (ht s g h).mono
    · intro _ s g hs
      exact ih hs
    · intro _ s g hs
      exact hs

theorem keeps_times_counted {P : Nat → σ → γ → Prop} {E : σ → γ → Prop} {t : Attempt I σ Unit}
    (n : Nat) (ht : ∀ k s g, P k s g → t.Keeps w (fun _ => P (k + 1)) (fun _ => E) s g)
    (h : P 0 s g) : (times t n).Keeps w (fun _ => P n) (fun _ => E) s g := by
  induction n generalizing s g P with
  | zero => exact h
  | succ n ih =>
    rw [times, keeps_then]
    apply (ht 0 s g h).mono
    · intro _ s g hs
      exact ih (P := fun k => P (k + 1)) (fun k => ht (k + 1)) hs
    · intro _ s g hs
      exact hs

end Attempt

end Presentation
