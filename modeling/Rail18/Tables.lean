import Rail18.Dict

/-! # Tables

The vocabulary that compilation consults: aliases of colors and terrain, the colors of tiles in the
order of their upgrades, the swatches of company colors, and what stands for "unlimited". -/

namespace Rail18

structure Tables where
  colorAliases : Dict String String
  terrainAliases : Dict String String
  tileColors : List String
  companyColors : Dict String String
  unlimitedBank : Int64
  unlimitedQuantity : UInt32

namespace Tables

def standard : Tables where
  colorAliases := .ofList [("water", "blue"), ("offboard", "red"), ("plain", "white")]
  terrainAliases := .ofList [("river", "water"), ("stream", "water")]
  tileColors := ["yellow", "green", "brown", "gray"]
  companyColors := .ofList
    [("black", "#37383a"), ("blue", "#0189d1"), ("brightGreen", "#76a042"), ("brown", "#7b352a"),
     ("gold", "#e09001"), ("gray", "#9a9a9d"), ("green", "#237333"), ("lavender", "#baa4cb"),
     ("lightBlue", "#37b2e2"), ("lightBrown", "#b58168"), ("lime", "#bdbd00"),
     ("natural", "#fbf4de"), ("navy", "#004d95"), ("orange", "#f48221"),
     ("pink", "rgb(193,60,125)"), ("red", "#d81e3e"), ("turquoise", "#00a99e"),
     ("violet", "#7f528b"), ("white", "#ffffff"), ("yellow", "#f8c200")]
  unlimitedBank := 99999
  unlimitedQuantity := 20

/-- The terrain that a declared kind is drawn as. -/
def terrain (tables : Tables) (kind : String) : String :=
  (tables.terrainAliases.get? kind).getD kind

/-- The tile colors up to the ceiling; none when it is not a tile color. -/
def colorsThrough (tables : Tables) (ceiling : String) : List String :=
  match tables.tileColors.findIdx? (· = ceiling) with
  | some index => tables.tileColors.take (index + 1)
  | none => []

end Tables

end Rail18
