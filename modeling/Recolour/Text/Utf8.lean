/-!
# UTF-8

Files and streams are lists of bytes; `decode` reads such a list as text when it is valid
UTF-8, and `encode` is its inverse.
-/

namespace Recolour.Utf8

/-- The text a list of bytes encodes, if it is valid UTF-8. -/
def decode (bytes : List UInt8) : Option (List Char) :=
  (String.fromUTF8? ⟨bytes.toArray⟩).map String.toList

/-- The encoding of a text. -/
def encode (cs : List Char) : List UInt8 :=
  cs.flatMap String.utf8EncodeChar

/-- The number of bytes of the encoding of a text. -/
def size (cs : List Char) : Nat :=
  (encode cs).length

theorem size_nil :
  size [] = 0
  := rfl

theorem size_cons (c : Char) (cs : List Char) :
  size (c :: cs) = c.utf8Size + size cs
  := by
  rw [size, encode, List.flatMap_cons, List.length_append, String.length_utf8EncodeChar]
  rfl

end Recolour.Utf8
