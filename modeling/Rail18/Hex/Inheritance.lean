import Rail18.CompileError
import Rail18.Hex.Reading
import Rail18.Hex.Writing
import Rail18.Json.Merge

/-! # Inheritance

A hex that copies another is laid over it as JSON: both are written, the one is merged over the
other, and the outcome is read again. What a hex declares is therefore what it writes. -/

namespace Rail18

def Hex.merge (base overlay : Hex) : Except CompileError Hex :=
  ((base.toValue.merge overlay.toValue).read Hex.read).mapError .unreadable

end Rail18
