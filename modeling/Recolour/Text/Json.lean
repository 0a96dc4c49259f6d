import Recolour.Text.Digits

/-!
# JSON text

Values are written as JSON over several lines, each level two spaces further right.
-/

namespace Recolour.Json

/-- A number below 65536 in four hexadecimal digits. -/
def fourDigits (n : Nat) : List Char :=
  [n / 4096 % 16, n / 256 % 16, n / 16 % 16, n % 16].map Text.hexDigit

/-- The written form of one character of a string. -/
def stringChar (c : Char) : List Char :=
  match c with
  | '"' => ['\\', '"']
  | '\\' => ['\\', '\\']
  | '\n' => ['\\', 'n']
  | '\r' => ['\\', 'r']
  | '\t' => ['\\', 't']
  | '\x08' => ['\\', 'b']
  | '\x0c' => ['\\', 'f']
  | c => if c.toNat < 32 then '\\' :: 'u' :: fourDigits c.toNat else [c]

/-- A string. -/
def string (s : String) : String :=
  String.ofList ('"' :: s.toList.flatMap stringChar ++ ['"'])

/-- The spaces before a line of a level. -/
def indent (level : Nat) : String :=
  String.ofList (List.replicate (2 * level) ' ')

/-- Written items between two marks, each on its own lines; the marks belong to `level`. -/
def enclosed (opening closing : String) (level : Nat) (items : List String) : String :=
  if items.isEmpty then opening ++ closing
  else
    opening ++ "\n" ++ ",\n".intercalate (items.map (indent (level + 1) ++ ·)) ++ "\n"
      ++ indent level ++ closing

/-- A list of written values. -/
def list (level : Nat) (values : List String) : String :=
  enclosed "[" "]" level values

/-- An object of names and written values. -/
def object (level : Nat) (fields : List (String × String)) : String :=
  enclosed "\x7b" "\x7d" level (fields.map fun (name, value) => string name ++ ": " ++ value)

end Recolour.Json
