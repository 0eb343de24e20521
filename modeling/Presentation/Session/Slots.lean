/-!
# Slots

Named places, kept in the order of their names.
-/

set_option autoImplicit false

namespace Presentation.Session

structure Slots (α : Type) where
  entries : List (String × α)

namespace Slots

variable {α : Type}

def empty : Slots α := ⟨[]⟩

def get? (slots : Slots α) (name : String) : Option α := slots.entries.lookup name

def erase (slots : Slots α) (name : String) : Slots α :=
  ⟨slots.entries.filter (·.1 ≠ name)⟩

/-- Puts a value in its place, instead of what may be there. -/
def insert (slots : Slots α) (name : String) (a : α) : Slots α :=
  let others := (slots.erase name).entries
  ⟨others.takeWhile (·.1 < name) ++ (name, a) :: others.dropWhile (·.1 < name)⟩

def isEmpty (slots : Slots α) : Bool := slots.entries.isEmpty

end Slots

end Presentation.Session
