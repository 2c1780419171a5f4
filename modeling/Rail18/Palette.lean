import Rail18.Event
import Rail18.Hex.Basic
import Rail18.Tables
import Rail18.Text.Case

/-! # Palette

Which bucket of the palette a color belongs to, and the bucket's names. -/

namespace Rail18

/-- The color of a hex that declares none. -/
def defaultColor : String := "white"

namespace Tables

/-- The bucket of a color: what it is an alias of, or the color itself. -/
def bucket (tables : Tables) (color : String) : String :=
  (tables.colorAliases.get? color).getD color

/-- A color of tiles or one that aliases stand for. -/
def isBucket (tables : Tables) (color : String) : Bool :=
  tables.tileColors.contains color || tables.colorAliases.values.contains color

/-- A color that passes through though nothing is known of it. -/
def isStrange (tables : Tables) (color : String) : Bool :=
  (tables.colorAliases.get? color).isNone && !tables.isBucket color

/-- The mention of a color that nothing is known of. -/
def colorEvents (tables : Tables) (color : String) : List Event :=
  if tables.isStrange color then
    [{ level := .debug, message := "passing through unknown color", details := [("token", color)] }]
  else []

end Tables

def Hex.declaredColor (h : Hex) : String := h.color.getD defaultColor

def Hex.bucket (tables : Tables) (h : Hex) : String := tables.bucket h.declaredColor

def withoutSlashes (s : String) : String := .ofList (s.toList.filter (· ≠ '/'))

def colorSymbol (color : String) : String := Text.lower (withoutSlashes color)

def colorModule (color : String) : String := Text.upper (withoutSlashes color)

end Rail18
