import Recolour.Channel
import Recolour.Misreading
import Recolour.Text.Blank
import Recolour.Text.Digits

/-!
# Reading channels

A channel token is an optional operator, an optional base mark `0x` and a body: a question
mark, a hash with a letter, or digits with an optional percent sign.  Blanks around the token
do not count.  The digits are hexadecimal after the mark and decimal without it, and their
value is at most 255.
-/

namespace Recolour.Channel

/-- The operator a token starts with, the longest one, and the rest of the token. -/
def splitOperator : List Char → Operator × List Char
  | '+' :: rest => (.add, rest)
  | '-' :: rest => (.sub, rest)
  | '<' :: '=' :: rest => (.lessEq, rest)
  | '<' :: rest => (.less, rest)
  | '>' :: '=' :: rest => (.greaterEq, rest)
  | '>' :: rest => (.greater, rest)
  | rest => (.none, rest)

/-- The base of the digits and what follows the base mark. -/
def splitBase : List Char → Nat × List Char
  | '0' :: 'x' :: rest => (16, rest)
  | '0' :: 'X' :: rest => (16, rest)
  | rest => (10, rest)

/-- The digits of a body, and whether a percent sign follows them. -/
def splitPercent (body : List Char) : List Char × Bool :=
  if body.getLast? = some '%' then (body.dropLast, true) else (body, false)

/-- The letter of a body that has the form of a reference: a hash and one ASCII character. -/
def referenceLetter? : List Char → Option Char
  | ['#', c] => if c.toNat < 128 then some c else none
  | _ => none

/-- The number with the given operator whose value `body` spells in the given base. -/
def readNumber (token : List Char) (operator : Operator) (base : Nat) (body : List Char) :
    Except Misreading Channel :=
  let (digits, percentage) := splitPercent body
  if digits.isEmpty || !digits.all (Text.isDigitOf base) then
    .error (.badChannel (String.ofList token))
  else if 255 < Text.numeral base digits then
    .error (.outOfRange (String.ofList token))
  else
    .ok (.number ⟨operator, UInt8.ofNat (Text.numeral base digits), percentage⟩)

/-- The channel a token without blanks around it spells. -/
def ofToken (token : List Char) : Except Misreading Channel :=
  let (operator, rest) := splitOperator token
  let (base, body) := splitBase rest
  if body.isEmpty then .error (.emptyChannel (String.ofList token))
  else if body = ['?'] then .ok .wildcard
  else
    match referenceLetter? body with
    | some c =>
      match Reference.ofLetter? c with
      | some reference => .ok (.named reference)
      | none => .error (.unknownReference (String.ofList body))
    | none => readNumber token operator base body

/-- The channel a text spells. -/
def ofChars (text : List Char) : Except Misreading Channel :=
  ofToken (Text.trim text)

/-- The channel a text spells. -/
def parse (text : String) : Except Misreading Channel :=
  ofChars text.toList

end Recolour.Channel
