/-!
# What encoders write

An encoder writes a file from its first byte on.  It may stop before the end, with an error, and
then what it wrote before stays written.
-/

namespace Recolour

/-- What an encoder has written when it is done. -/
structure Written (ε : Type) where
  bytes : List UInt8
  /-- The error that made the encoder stop before the end, if one did. -/
  error? : Option ε
  deriving DecidableEq

namespace Written

variable {ε ε' : Type}

/-- A file written to its end. -/
def whole (bytes : List UInt8) : Written ε := ⟨bytes, none⟩

/-- The encoder stops before the first byte. -/
def refused (error : ε) : Written ε := ⟨[], some error⟩

/-- The same bytes, with the error in other words. -/
def mapError (f : ε → ε') (written : Written ε) : Written ε' :=
  ⟨written.bytes, written.error?.map f⟩

/-- How the encoder ended. -/
def outcome (written : Written ε) : Except ε Unit :=
  match written.error? with
  | none => .ok ()
  | some error => .error error

end Written

end Recolour
