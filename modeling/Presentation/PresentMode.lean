/-!
# Present modes

How queued images reach the screen. First in, first out is always available;
the others are asked for only when the application does without vertical
synchronisation.
-/

set_option autoImplicit false

namespace Presentation

inductive PresentMode where
  | fifo
  | mailbox
  | immediate
  deriving DecidableEq, Inhabited

namespace PresentMode

def all : List PresentMode := [fifo, mailbox, immediate]

def name : PresentMode → String
  | fifo => "Fifo"
  | mailbox => "Mailbox"
  | immediate => "Immediate"

def ofName? (text : String) : Option PresentMode := all.find? (·.name == text)

/-- The mode for a policy among the supported ones: with vertical synchronisation `fifo`,
without it the first of `mailbox` and `immediate` that is supported. -/
def select (vsync : Bool) (supported : List PresentMode) : PresentMode :=
  if vsync then fifo else ([mailbox, immediate].find? (supported.contains ·)).getD fifo

end PresentMode

end Presentation
