import Presentation.Text.Plain

/-!
# Inspection text

Values that are shown for diagnosis have one notation: records as
`Name { field: value }`, lists and tuples in brackets, strings in quotes with
everything that is not plain escaped.
-/

set_option autoImplicit false

namespace Presentation.Text

def hexDigits (n : Nat) : String := String.ofList (Nat.toDigits 16 n)

/-- A character inside quotes. A quote, a backslash and the four common controls
have short escapes; any other character that is not plain is written by its code point. -/
def quoteChar (c : Char) : List Char :=
  match c with
  | '"' => ['\\', '"']
  | '\\' => ['\\', '\\']
  | '\n' => ['\\', 'n']
  | '\r' => ['\\', 'r']
  | '\t' => ['\\', 't']
  | '\x00' => ['\\', '0']
  | c => if isPlain c then [c] else ['\\', 'u', '\x7b'] ++ Nat.toDigits 16 c.toNat ++ ['\x7d']

def quoted (s : String) : String :=
  String.ofList ('"' :: s.toList.flatMap quoteChar ++ ['"'])

def commaSeparated (items : List String) : String := ", ".intercalate items

def list (items : List String) : String := "[" ++ commaSeparated items ++ "]"

def tuple (items : List String) : String := "(" ++ commaSeparated items ++ ")"

def record (name : String) (fields : List (String × String)) : String :=
  name ++ " \x7b " ++ commaSeparated (fields.map fun (field, value) => field ++ ": " ++ value) ++
    " \x7d"

def bool (b : Bool) : String := if b then "true" else "false"

def option : Option String → String
  | none => "None"
  | some value => "Some(" ++ value ++ ")"

end Presentation.Text
