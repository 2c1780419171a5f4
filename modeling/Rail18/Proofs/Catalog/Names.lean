import Mathlib.Data.List.Nodup
import Mathlib.Data.Set.Function
import Rail18.Proofs.Catalog.Groups
import Rail18.Proofs.Text.Case
import Rail18.Proofs.Text.Joined

/-!
# The names of a catalog's groups

Colors that the vocabulary does not know pass through as they are, while the name and the symbol of a group
leave slashes and case out. Groups are told apart by them as far as their colors differ in anything else.
-/

namespace Rail18

/-! ### Names of a color -/

/-- The symbol of the color is a word. -/
def IsWord (color : String) : Prop := ' ' ∉ color.toList ∧ ∃ c ∈ color.toList, c ≠ '/'

theorem mem_withoutSlashes {c : Char} {color : String} :
    c ∈ (withoutSlashes color).toList ↔ c ∈ color.toList ∧ c ≠ '/' := by
  rw [withoutSlashes, String.toList_ofList, List.mem_filter, decide_eq_true_iff]

theorem space_mem_colorSymbol {color : String} : ' ' ∈ (colorSymbol color).toList ↔ ' ' ∈ color.toList := by
  rw [colorSymbol, Text.lower, String.toList_ofList, Text.lowerChars, Text.space_mem_lowerAfter,
    mem_withoutSlashes]
  exact and_iff_left (by decide)

theorem colorSymbol_eq_empty_iff {color : String} :
    colorSymbol color = "" ↔ ∀ c ∈ color.toList, c = '/' := by
  rw [← String.toList_eq_nil_iff, colorSymbol, Text.lower, String.toList_ofList, Text.lowerChars,
    Text.lowerAfter_eq_nil_iff, List.eq_nil_iff_forall_not_mem]
  simp only [mem_withoutSlashes, not_and, not_not]

theorem isWord_iff {color : String} :
    IsWord color ↔ ' ' ∉ (colorSymbol color).toList ∧ colorSymbol color ≠ "" := by
  rw [IsWord, space_mem_colorSymbol, Ne, colorSymbol_eq_empty_iff]
  simp only [not_forall, exists_prop]

/-- What names and symbols leave of a color that is written in ASCII. -/
def foldedColor (color : String) : String := (withoutSlashes color).toLower

section Ascii

variable {a b : String}

theorem isAscii_withoutSlashes (ha : Text.IsAscii a.toList) : Text.IsAscii (withoutSlashes a).toList :=
  fun c hc => ha c (mem_withoutSlashes.mp hc).1

theorem colorSymbol_eq_iff_of_ascii (ha : Text.IsAscii a.toList) (hb : Text.IsAscii b.toList) :
    colorSymbol a = colorSymbol b ↔ foldedColor a = foldedColor b := by
  rw [colorSymbol, colorSymbol, Text.lower_of_ascii (isAscii_withoutSlashes ha),
    Text.lower_of_ascii (isAscii_withoutSlashes hb)]
  rfl

theorem colorModule_eq_iff_of_ascii (ha : Text.IsAscii a.toList) (hb : Text.IsAscii b.toList) :
    colorModule a = colorModule b ↔ foldedColor a = foldedColor b := by
  rw [colorModule, colorModule, Text.upper_of_ascii (isAscii_withoutSlashes ha),
    Text.upper_of_ascii (isAscii_withoutSlashes hb), Text.toUpper_eq_iff_toLower_eq]
  rfl

end Ascii

/-! ### Names of the groups -/

/-- How far the groups of a compiled catalog are told apart by their names and by the words of its
symbols. -/
structure CompiledCatalog.Named (tables : Tables) (catalog : Catalog) (compiled : CompiledCatalog) :
    Prop where
  names : compiled.colors.map CatalogColor.name = (catalog.buckets tables).map colorModule
  names_nodup_iff : (compiled.colors.map CatalogColor.name).Nodup ↔
    Set.InjOn colorModule {color | color ∈ catalog.buckets tables}
  words_iff : (Text.words compiled.symbols = (catalog.buckets tables).map colorSymbol ∧
      ∀ color ∈ catalog.buckets tables, colorSymbol color ≠ "") ↔
    ∀ color ∈ catalog.buckets tables, IsWord color
  symbols_nodup_iff : ((catalog.buckets tables).map colorSymbol).Nodup ↔
    Set.InjOn colorSymbol {color | color ∈ catalog.buckets tables}
  ascii : (∀ color ∈ catalog.buckets tables, Text.IsAscii color.toList) →
    ((compiled.colors.map CatalogColor.name).Nodup ↔
      Set.InjOn foldedColor {color | color ∈ catalog.buckets tables}) ∧
    (((catalog.buckets tables).map colorSymbol).Nodup ↔
      Set.InjOn foldedColor {color | color ∈ catalog.buckets tables})
  empty : catalog.entries = [] → compiled.colors = [] ∧ compiled.symbols = ""

namespace Catalog

variable {tables : Tables} {layout : Layout} {catalog : Catalog}

theorem names_compile :
    (catalog.compile tables layout).colors.map CatalogColor.name =
      (catalog.buckets tables).map colorModule := by
  rw [colors_compile, List.map_map]
  rfl

theorem nodup_map_buckets_iff {name : String → String} :
    ((catalog.buckets tables).map name).Nodup ↔
      Set.InjOn name {color | color ∈ catalog.buckets tables} :=
  List.nodup_map_iff_inj_on (nodup_eraseDups _)

theorem words_symbols_iff :
    (Text.words (catalog.compile tables layout).symbols = (catalog.buckets tables).map colorSymbol ∧
        ∀ color ∈ catalog.buckets tables, colorSymbol color ≠ "") ↔
      ∀ color ∈ catalog.buckets tables, IsWord color := by
  have hwords := @Text.words_intercalate_iff ((catalog.buckets tables).map colorSymbol)
  rw [List.forall_mem_map, List.forall_mem_map] at hwords
  rw [symbols_compile, hwords]
  exact forall₂_congr fun color _ => isWord_iff.symm

theorem injOn_congr_of_ascii {name : String → String}
    (hname : ∀ {a b : String}, Text.IsAscii a.toList → Text.IsAscii b.toList →
      (name a = name b ↔ foldedColor a = foldedColor b))
    {colors : List String} (hascii : ∀ color ∈ colors, Text.IsAscii color.toList) :
    Set.InjOn name {color | color ∈ colors} ↔ Set.InjOn foldedColor {color | color ∈ colors} := by
  constructor
  · intro h a ha b hb hsame
    exact h ha hb ((hname (hascii a ha) (hascii b hb)).mpr hsame)
  · intro h a ha b hb hsame
    exact h ha hb ((hname (hascii a ha) (hascii b hb)).mp hsame)

/-- Two groups have one name exactly if the module names of their colors are the same, and the symbols are
read back in the order of the groups exactly if all colors are words. Among colors in ASCII names and
symbols are each told apart exactly if the colors differ in more than slashes and case. -/
theorem compile_named (tables : Tables) (layout : Layout) (catalog : Catalog) :
    CompiledCatalog.Named tables catalog (catalog.compile tables layout) where
  names := names_compile
  names_nodup_iff := by rw [names_compile, nodup_map_buckets_iff]
  words_iff := words_symbols_iff
  symbols_nodup_iff := nodup_map_buckets_iff
  ascii := by
    intro hascii
    rw [names_compile, nodup_map_buckets_iff, nodup_map_buckets_iff]
    exact ⟨injOn_congr_of_ascii colorModule_eq_iff_of_ascii hascii,
      injOn_congr_of_ascii colorSymbol_eq_iff_of_ascii hascii⟩
  empty := by
    intro hempty
    have hbuckets : catalog.buckets tables = [] := by rw [buckets, hempty]; rfl
    rw [colors_compile, symbols_compile, hbuckets]
    exact ⟨rfl, rfl⟩

def clashing : Catalog :=
  .ofList [("1", { color := some "yellow/green" }), ("2", { color := some "yellowgreen" }),
    ("3", { color := some "light blue" }), ("4", { color := some "/" })]

/-- Slashes and spaces make two colors one name, one color two words and another none. -/
theorem not_told_apart_clashing :
    ¬ ((clashing.compile .standard .pointy).colors.map CatalogColor.name).Nodup ∧
      (Text.words (clashing.compile .standard .pointy).symbols).length ≠
        (clashing.compile .standard .pointy).colors.length ∧
      "" ∈ Text.words (clashing.compile .standard .pointy).symbols ∧
      ¬ (Text.words (clashing.compile .standard .pointy).symbols).Nodup := by
  have hnames : (clashing.compile .standard .pointy).colors.map CatalogColor.name =
      ["YELLOWGREEN", "YELLOWGREEN", "LIGHT BLUE", ""] := by
    decide +kernel
  have hwords : Text.words (clashing.compile .standard .pointy).symbols =
      ["yellowgreen", "yellowgreen", "light", "blue", ""] := by
    decide +kernel
  rw [← List.length_map CatalogColor.name, hnames, hwords]
  decide

/-! ### The colors of the vocabulary -/

def standardColors : List String := ["yellow", "green", "brown", "gray", "red", "white", "blue"]

theorem mem_standardColors {color : String} (h : Tables.standard.isBucket color) :
    color ∈ standardColors := by
  have hvalues : Tables.standard.colorAliases.values = ["red", "white", "blue"] := by decide +kernel
  have htiles : Tables.standard.tileColors = ["yellow", "green", "brown", "gray"] := rfl
  rw [Tables.isBucket, hvalues, htiles, Bool.or_eq_true, List.contains_iff_mem, List.contains_iff_mem,
    ← List.mem_append] at h
  exact h

/-- The groups of a catalog are told apart if the standard vocabulary knows all colors. -/
theorem compile_standard (hknown : ∀ color ∈ catalog.buckets .standard, Tables.standard.isBucket color) :
    ((catalog.compile .standard layout).colors.map CatalogColor.name).Nodup ∧
      Text.words (catalog.compile .standard layout).symbols =
        (catalog.buckets .standard).map colorSymbol ∧
      ((catalog.buckets .standard).map colorSymbol).Nodup := by
  have hsubset : {color | color ∈ catalog.buckets .standard} ⊆ {color | color ∈ standardColors} :=
    fun color hcolor => mem_standardColors (hknown color hcolor)
  -- A color of the vocabulary is its own symbol, and that of its module name.
  have hsymbols : ∀ color ∈ standardColors, colorSymbol color = color := by decide +kernel
  have hmodules : ∀ color ∈ standardColors, colorSymbol (colorModule color) = color := by decide +kernel
  have hword : ∀ color ∈ standardColors, IsWord color := by
    have hplain : ∀ color ∈ standardColors, ' ' ∉ color.toList ∧ color ≠ "" := by decide +kernel
    intro color hcolor
    rw [isWord_iff, hsymbols color hcolor]
    exact hplain color hcolor
  refine ⟨?_, ?_, ?_⟩
  · rw [names_compile, nodup_map_buckets_iff]
    exact (Set.LeftInvOn.injOn hmodules).mono hsubset
  · exact (words_symbols_iff.mpr fun color hcolor => hword color (hsubset hcolor)).1
  · have hinverse : Set.LeftInvOn id colorSymbol {color | color ∈ standardColors} := hsymbols
    exact nodup_map_buckets_iff.mpr (hinverse.injOn.mono hsubset)

end Catalog

end Rail18
