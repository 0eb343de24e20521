import Presentation.Calendar.Timestamp
import Presentation.Log.Entry

/-!
# Log lines

An entry as a line of text, plain or coloured. Colour is put on by an escape
sequence in front of a text and taken off by a reset behind it. A reset inside
the text would end the colour early, so the sequence is put on again after
each.
-/

set_option autoImplicit false

namespace Presentation.Log

/-- Whether log lines carry escape sequences for colour. -/
inductive Palette where
  | plain
  | coloured
  deriving DecidableEq

def escape (code : String) : List Char := '\x1b' :: '[' :: code.toList ++ ['m']

def reset : List Char := escape "0"

/-- Puts `style` after every reset in a text. -/
def restyle (style : List Char) : List Char → List Char
  | '\x1b' :: '[' :: '0' :: 'm' :: rest => reset ++ style ++ restyle style rest
  | c :: rest => c :: restyle style rest
  | [] => []

def Palette.paint (palette : Palette) (code text : String) : String :=
  match palette with
  | .plain => text
  | .coloured =>
    String.ofList (escape code ++ restyle (escape code) text.toList ++ reset)

/-- Escape codes of the severities: grey, cyan, green, yellow, and bold red. -/
def Severity.colour : Severity → String
  | .trace => "90"
  | .debug => "36"
  | .info => "32"
  | .warn => "33"
  | .error => "1;31"

/-- Sources are bright blue. -/
def sourceColour : String := "94"

def Location.text (l : Location) : String :=
  " (" ++ l.file ++ ":" ++ toString l.line.toNat ++ ")"

/-- The line of an entry under a stamp that stands for its time. -/
def Entry.line (palette : Palette) (stamp : String) (e : Entry) : String :=
  "[" ++ stamp ++ "] [" ++ palette.paint e.severity.colour e.severity.label ++ "] [" ++
    palette.paint sourceColour e.source ++ "] " ++ e.message ++
    (e.location.map Location.text).getD ""

theorem toList_line (palette : Palette) (stamp : String) (e : Entry) :
    (e.line palette stamp).toList =
      '[' :: stamp.toList ++ ']' :: ' ' :: '[' ::
        ((palette.paint e.severity.colour e.severity.label).toList ++ ']' :: ' ' :: '[' ::
          ((palette.paint sourceColour e.source).toList ++ ']' :: ' ' ::
            (e.message ++ (e.location.map Location.text).getD "").toList)) := by
  simp [Entry.line]

/-- The line of an entry logged at a moment. -/
def Entry.lineAt (palette : Palette) (time : Calendar.Timestamp) (e : Entry) : String :=
  e.line palette time.text

end Presentation.Log
