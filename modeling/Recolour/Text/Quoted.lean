import Recolour.Text.Digits
import Recolour.Text.Hidden

/-!
# Quoted text

Messages show a piece of the input between double quotes, on one line and with nothing
hidden: a quote and a backslash get a backslash before them, the common controls have their
letter, and every other hidden character is written by its code point.
-/

namespace Recolour.Text

/-- The written form of one character between quotes. -/
def quoteChar (c : Char) : List Char :=
  match c with
  | '"' => ['\\', '"']
  | '\\' => ['\\', '\\']
  | '\n' => ['\\', 'n']
  | '\r' => ['\\', 'r']
  | '\t' => ['\\', 't']
  | '\x00' => ['\\', '0']
  | c => if isHidden c then "\\u\x7b".toList ++ hexadecimal c.toNat ++ ['\x7d'] else [c]

/-- A text between double quotes. -/
def quoted (s : String) : String :=
  String.ofList ('"' :: s.toList.flatMap quoteChar ++ ['"'])

end Recolour.Text
