/-!
# Digits

Numerals are read with ASCII digits, of any length, in a base up to sixteen.
-/

namespace Recolour.Text

/-- The value of an ASCII digit, small or capital letters standing for ten to fifteen. -/
def hexDigit? (c : Char) : Option Nat :=
  let n := c.toNat
  if 48 ≤ n && n ≤ 57 then some (n - 48)
  else if 97 ≤ n && n ≤ 102 then some (n - 87)
  else if 65 ≤ n && n ≤ 70 then some (n - 55)
  else none

/-- The value of a digit of the given base. -/
def digit? (base : Nat) (c : Char) : Option Nat :=
  (hexDigit? c).filter (· < base)

/-- The character is a digit of the given base. -/
def isDigitOf (base : Nat) (c : Char) : Bool :=
  (digit? base c).isSome

/-- The number a list of digits denotes, the first digit weighing most. -/
def numeral (base : Nat) (cs : List Char) : Nat :=
  cs.foldl (fun n c => n * base + (digit? base c).getD 0) 0

/-- A decimal numeral: one digit or more. -/
def decimal? (cs : List Char) : Option Nat :=
  if !cs.isEmpty && cs.all (isDigitOf 10) then some (numeral 10 cs) else none

/-- A decimal numeral up to 255, with at most one plus sign before it. -/
def byte? (cs : List Char) : Option UInt8 :=
  let digits := match cs with
    | '+' :: rest => rest
    | _ => cs
  (decimal? digits).bind fun n => if n ≤ 255 then some (UInt8.ofNat n) else none

/-- The small digit of a value below sixteen. -/
def hexDigit (n : Nat) : Char :=
  Char.ofNat (if n < 10 then 48 + n else 87 + n)

/-- The hexadecimal numeral of a number, in small digits and without leading zeros. -/
def hexadecimal (n : Nat) : List Char :=
  Nat.toDigits 16 n

end Recolour.Text
