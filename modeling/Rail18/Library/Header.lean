import Rail18.Game.Reading

/-! # Headers

The part of a definition that is read while a library is searched: nothing but the title. -/

namespace Rail18

open Json (Fields Fault Reader Record)

inductive HeaderInfoField where
  | title
deriving DecidableEq

instance : Fields HeaderInfoField where
  Entry
    | .title => Option String
  order := [.title]
  name
    | .title => "title"
  read
    | .title => .option .text

/-- The title in the information of a header. -/
def readHeaderInfo : Reader (Option String) := Reader.record fun record : Record HeaderInfoField =>
  .ok (record .title).join

inductive HeaderField where
  | info
deriving DecidableEq

instance : Fields HeaderField where
  Entry
    | .info => Option (Option String)
  order := [.info]
  name
    | .info => "info"
  read
    | .info => .option readHeaderInfo

def readHeader : Reader (Option String) := Reader.record fun record : Record HeaderField =>
  .ok (record .info).join.join

end Rail18
