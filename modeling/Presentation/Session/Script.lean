/-!
# Scripts

A session that is played command by command, with a row kept for each.
-/

set_option autoImplicit false

namespace Presentation.Session

variable {σ γ ρ : Type}

/-- Plays each command from where the one before it has led. -/
def playAll (step : σ → γ → ρ × σ) : σ → List γ → List ρ × σ
  | s, [] => ([], s)
  | s, c :: rest =>
    let (row, s) := step s c
    let (rows, s) := playAll step s rest
    (row :: rows, s)

theorem playAll_length (step : σ → γ → ρ × σ) (s : σ) (commands : List γ) :
    (playAll step s commands).1.length = commands.length := by
  induction commands generalizing s with
  | nil => rfl
  | cons c rest ih => exact congrArg (· + 1) (ih _)

end Presentation.Session
