/-!
# Letter case

Names, keys and extensions are compared by their ASCII letters without regard to case; all
other characters stand for themselves.
-/

namespace Recolour.Text

/-- A text with its ASCII capital letters made small. -/
def foldCase (s : String) : String :=
  String.ofList (s.toList.map Char.toLower)

/-- The two texts differ at most in the case of ASCII letters. -/
def sameFolded (s t : String) : Bool :=
  foldCase s == foldCase t

end Recolour.Text
