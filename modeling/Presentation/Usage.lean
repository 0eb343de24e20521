import Presentation.Text.Inspect

/-!
# Texture usage

A usage is a word of flags. Six bits have names; the others are carried along
unchanged, so that a usage read from outside is never silently altered.
-/

set_option autoImplicit false

namespace Presentation

structure Usage where
  bits : UInt32
  deriving DecidableEq, Inhabited

namespace Usage

def none : Usage := ⟨0⟩
def shaderResource : Usage := ⟨1⟩
def unorderedAccess : Usage := ⟨2⟩
def renderTarget : Usage := ⟨4⟩
def copySource : Usage := ⟨8⟩
def copyDestination : Usage := ⟨16⟩
def present : Usage := ⟨32⟩

/-- The named flags, lowest bit first. -/
def flags : List (String × Usage) :=
  [("SHADER_RESOURCE", shaderResource), ("UNORDERED_ACCESS", unorderedAccess),
    ("RENDER_TARGET", renderTarget), ("COPY_SOURCE", copySource),
    ("COPY_DESTINATION", copyDestination), ("PRESENT", present)]

/-- The usage with exactly the six named flags. -/
def all : Usage := ⟨63⟩

def union (a b : Usage) : Usage := ⟨a.bits ||| b.bits⟩
def inter (a b : Usage) : Usage := ⟨a.bits &&& b.bits⟩
def diff (a b : Usage) : Usage := ⟨a.bits &&& ~~~ b.bits⟩
def symmDiff (a b : Usage) : Usage := ⟨a.bits ^^^ b.bits⟩

def isEmpty (a : Usage) : Bool := a.bits == 0

/-- Every bit of `b` is set in `a`. -/
def contains (a b : Usage) : Bool := a.bits &&& b.bits == b.bits

/-- Some bit is set in both. -/
def intersects (a b : Usage) : Bool := !(a.inter b).isEmpty

def isAll (a : Usage) : Bool := a.contains all

/-- The named flags of a word; unknown bits are cleared. -/
def truncate (bits : UInt32) : Usage := inter ⟨bits⟩ all

/-- The named flags that are not in `a`. -/
def complement (a : Usage) : Usage := truncate (~~~ a.bits)

/-- A word as a usage, if it has no unknown bit. -/
def ofBits? (bits : UInt32) : Option Usage :=
  if truncate bits = ⟨bits⟩ then some ⟨bits⟩ else Option.none

/-- Names of the flags set in `a`, lowest bit first. -/
def names (a : Usage) : List String :=
  (flags.filter fun (_, flag) => a.contains flag).map (·.1)

/-- Inspection text: the names in bit order, then what remains in hexadecimal. -/
def inspect (a : Usage) : String :=
  let rest := a.diff all
  let words := a.names ++ if rest.isEmpty then [] else ["0x" ++ Text.hexDigits rest.bits.toNat]
  "TextureUsage(" ++ (if words.isEmpty then "0x0" else " | ".intercalate words) ++ ")"

end Usage

end Presentation
