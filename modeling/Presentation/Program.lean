import Presentation.Error
import Presentation.Log.Entry

/-!
# Programs over an interface

A program asks the other side of an interface, one call at a time, and goes on
with whatever is answered; on the way it writes log entries. It is a tree with
one branch for each possible answer, so a statement about all its branches
holds whatever the other side does. Entries are written without an answer:
nothing a program does can depend on what becomes of them.
-/

set_option autoImplicit false

namespace Presentation

/-- What can be asked across a boundary, and the type of each answer. -/
structure Interface where
  Call : Type
  Answer : Call → Type

abbrev Interface.silent : Interface := ⟨Empty, Empty.elim⟩

/-- Why a program cannot go on. -/
inductive Halt where
  /-- A list was read behind its end. -/
  | beyondEnd (index length : Nat)
  /-- The process is given up on purpose. -/
  | aborted
  deriving DecidableEq

inductive Program (I : Interface) (α : Type) where
  | done (value : α)
  | note (entry : Log.Entry) (rest : Program I α)
  | ask (call : I.Call) (resume : I.Answer call → Program I α)
  | halt (reason : Halt)

namespace Program

variable {I J : Interface} {σ α β : Type}

def bind : Program I α → (α → Program I β) → Program I β
  | done a, f => f a
  | note e p, f => note e (p.bind f)
  | ask c k, f => ask c fun a => (k a).bind f
  | halt r, _ => halt r

instance : Monad (Program I) where
  pure := done
  bind := bind

theorem bind_done (p : Program I α) : p.bind done = p := by
  induction p with
  | done a => rfl
  | note e p ih => exact congrArg (note e) ih
  | ask c k ih => exact congrArg (ask c) (funext ih)
  | halt r => rfl

theorem bind_assoc {γ : Type} (p : Program I α) (f : α → Program I β) (g : β → Program I γ) :
    (p.bind f).bind g = p.bind fun a => (f a).bind g := by
  induction p with
  | done a => rfl
  | note e p ih => exact congrArg (note e) ih
  | ask c k ih => exact congrArg (ask c) (funext ih)
  | halt r => rfl

instance : LawfulMonad (Program I) :=
  LawfulMonad.mk' (Program I)
    bind_done
    (fun _ _ => rfl)
    (fun p f g => bind_assoc p f g)

def call (c : I.Call) : Program I (I.Answer c) := ask c done

def log (e : Log.Entry) : Program I Unit := note e (done ())

/-- The element of a list at an index that is known to lie inside. -/
def fetch (xs : List α) (index : Nat) : Program I α :=
  match xs[index]? with
  | some x => done x
  | none => halt (.beyondEnd index xs.length)

/-- Logs a failure of the backend and gives the error with the same message. -/
def backendFailure (source message : String) : Program I Error :=
  note (.report .error source message) (done (.backendError message))

/-- Runs a program over `J` on a server for `J` that is itself a program over `I` with a state
of its own. -/
def servedBy (serve : (c : J.Call) → σ → Program I (J.Answer c × σ)) :
    Program J α → σ → Program I (α × σ)
  | done a, s => done (a, s)
  | note e p, s => note e (p.servedBy serve s)
  | ask c k, s => (serve c s).bind fun (a, s') => (k a).servedBy serve s'
  | halt r, _ => halt r

theorem servedBy_bind (serve : (c : J.Call) → σ → Program I (J.Answer c × σ)) (p : Program J α)
    (f : α → Program J β) (s : σ) :
    (p.bind f).servedBy serve s =
      (p.servedBy serve s).bind fun r => (f r.1).servedBy serve r.2 := by
  induction p generalizing s with
  | done a => rfl
  | note e p ih => exact congrArg (note e) (ih s)
  | ask c k ih =>
    simp only [Program.bind, servedBy, bind_assoc]
    exact congrArg _ (funext fun r => ih r.1 r.2)
  | halt r => rfl

end Program

inductive Event (I : Interface) where
  | noted (entry : Log.Entry)
  | asked (call : I.Call) (answer : I.Answer call)

namespace Event

variable {I : Interface}

def entry? : Event I → Option Log.Entry
  | noted e => some e
  | asked _ _ => none

end Event

/-- A finished run: how it ended, the state its peer is left in, and what happened in order. -/
structure Run (I : Interface) (σ α : Type) where
  outcome : Except Halt α
  peer : σ
  events : List (Event I)

def Program.run {I : Interface} {σ α : Type}
    (answer : (c : I.Call) → σ → I.Answer c × σ) : Program I α → σ → Run I σ α
  | .done a, s => ⟨.ok a, s, []⟩
  | .note e p, s =>
    let r := p.run answer s
    { r with events := .noted e :: r.events }
  | .ask c k, s =>
    let (a, s') := answer c s
    let r := (k a).run answer s'
    { r with events := .asked c a :: r.events }
  | .halt h, s => ⟨.error h, s, []⟩

/-- What a run comes to when another one goes on from where it ended. A halt is final. -/
def Run.andThen {I : Interface} {σ α β : Type} (r : Run I σ α) (next : α → σ → Run I σ β) :
    Run I σ β :=
  match r.outcome with
  | .ok a =>
    let r' := next a r.peer
    { r' with events := r.events ++ r'.events }
  | .error h => ⟨.error h, r.peer, r.events⟩

theorem Program.run_bind {I : Interface} {σ α β : Type}
    (answer : (c : I.Call) → σ → I.Answer c × σ) (p : Program I α) (f : α → Program I β) (s : σ) :
    (p.bind f).run answer s = (p.run answer s).andThen fun a s' => (f a).run answer s' := by
  induction p generalizing s with
  | done a => rfl
  | note e p ih =>
    simp only [Program.bind, Program.run, ih, Run.andThen]
    split <;> rfl
  | ask c k ih =>
    simp only [Program.bind, Program.run, ih, Run.andThen]
    split <;> rfl
  | halt r => rfl

/-- A run of two programs in a row that comes to a value is a run of the first, and one of the
second from where that one ended. -/
theorem Program.run_bind_ok {I : Interface} {σ α β : Type}
    {answer : (c : I.Call) → σ → I.Answer c × σ} {p : Program I α} {f : α → Program I β} {s : σ}
    {b : β} (h : ((p >>= f).run answer s).outcome = .ok b) :
    ∃ a, (p.run answer s).outcome = .ok a ∧
      ((f a).run answer (p.run answer s).peer).outcome = .ok b ∧
      ((p >>= f).run answer s).events =
        (p.run answer s).events ++ ((f a).run answer (p.run answer s).peer).events := by
  have hbind : (p >>= f).run answer s = _ := run_bind answer p f s
  rw [hbind] at h ⊢
  simp only [Run.andThen] at h ⊢
  split at h
  · rename_i a ha
    exact ⟨a, ha, h, rfl⟩
  · cases h

/-- Every answer in a run is one that its peer gives. -/
theorem Program.answer_of_mem {I : Interface} {σ α : Type}
    {answer : (c : I.Call) → σ → I.Answer c × σ} {p : Program I α} {s : σ} {c : I.Call}
    {a : I.Answer c} (h : .asked c a ∈ (p.run answer s).events) : ∃ s, a = (answer c s).1 := by
  induction p generalizing s with
  | done a => simp [Program.run] at h
  | note e p ih =>
    simp only [Program.run, List.mem_cons, reduceCtorEq, false_or] at h
    exact ih h
  | ask c' k ih =>
    simp only [Program.run, List.mem_cons] at h
    rcases h with h | h
    · cases h
      exact ⟨s, rfl⟩
    · exact ih _ h
  | halt r => simp [Program.run] at h

def Run.entries {I : Interface} {σ α : Type} (r : Run I σ α) : List Log.Entry :=
  r.events.filterMap Event.entry?

def Run.calls {I : Interface} {σ α : Type} (r : Run I σ α) : List (Event I) :=
  r.events.filter fun e => e.entry?.isNone

end Presentation
