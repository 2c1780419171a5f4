/-! # Malformed definitions

The causes for which a definition that could be read cannot be compiled, and their wording. -/

namespace Rail18

/-- Why a definition cannot be compiled. Fields are named by their path. -/
inductive Malformed where
  | noTitle
  | noVariation (selected defined : Nat)
  | noHexes (selected : Nat)
  | notLimited (field : String)
  | notNumber (field found : String)
  | notQuantity (field found : String)
deriving DecidableEq, Repr

namespace Malformed

def field : Malformed → String
  | noTitle => "info.title"
  | noVariation .. => "map"
  | noHexes selected => s!"map[{selected}].hexes"
  | notLimited field => field
  | notNumber field _ => field
  | notQuantity field _ => field

def reason : Malformed → String
  | noTitle => "game has no title"
  | noVariation selected defined => s!"variation {selected} requested but only {defined} defined"
  | noHexes _ => "map declares no hexes"
  | notLimited _ => "unlimited value not allowed here"
  | notNumber _ found => s!"expected a number, found '{found}'"
  | notQuantity _ found => s!"expected a quantity, found '{found}'"

def message (m : Malformed) : String := s!"malformed definition: {m.field}: {m.reason}"

end Malformed

end Rail18
