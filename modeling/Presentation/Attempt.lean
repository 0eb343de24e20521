import Presentation.Program

/-!
# Attempts

An attempt is a program that works on a state and may fail on the way. A
failure ends the attempt but not the state: whoever made the attempt gets the
state as it was when it failed, and can clean up.
-/

set_option autoImplicit false

namespace Presentation

def Attempt (I : Interface) (σ α : Type) : Type := σ → Program I (Except Error α × σ)

namespace Attempt

variable {I : Interface} {σ α β : Type}

def succeed (a : α) : Attempt I σ α := fun s => .done (.ok a, s)

def fail (e : Error) : Attempt I σ α := fun s => .done (.error e, s)

def andThen (t : Attempt I σ α) (f : α → Attempt I σ β) : Attempt I σ β := fun s =>
  (t s).bind fun
    | (.ok a, s) => f a s
    | (.error e, s) => .done (.error e, s)

instance : Monad (Attempt I σ) where
  pure := succeed
  bind := andThen

def get : Attempt I σ σ := fun s => .done (.ok s, s)

def update (f : σ → σ) : Attempt I σ Unit := fun s => .done (.ok (), f s)

def step (p : Program I α) : Attempt I σ α := fun s => p.bind fun a => .done (.ok a, s)

/-- A program whose answer is an error of its own kind, put into words by another program. -/
def expectOr {ε : Type} (explain : ε → Program I Error) (p : Program I (Except ε α)) :
    Attempt I σ α := fun s =>
  p.bind fun
    | .ok a => .done (.ok a, s)
    | .error e => (explain e).bind fun e => .done (.error e, s)

def forEach (f : β → Attempt I σ Unit) : List β → Attempt I σ Unit
  | [] => succeed ()
  | b :: bs => andThen (f b) fun _ => forEach f bs

def times (t : Attempt I σ Unit) : Nat → Attempt I σ Unit
  | 0 => succeed ()
  | n + 1 => andThen t fun _ => times t n

end Attempt

end Presentation
