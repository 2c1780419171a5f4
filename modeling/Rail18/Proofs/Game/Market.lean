import Rail18.Game.MarketRows
import Rail18.Game.Reading
import Rail18.Proofs.Json.Accepting
import Rail18.Proofs.Word

/-!
# Stock markets as they are written

A market is an array of lines of cells, or else one line of cells. Which of the two it is shows at its
first item, since no cell is an array; the rows that are made of it have the lengths of its lines, and are
empty where a line is null and nowhere else.
-/

namespace Rail18

open Json (Fields MayHold NamedApart Reader Record Value)

namespace Json.Reader

variable {room : Nat} {value : Value}

theorem int64_accepts : int64.Accepts room value ↔
    ∃ number, value = .integer number ∧ -2 ^ 63 ≤ number ∧ number < 2 ^ 63 := by
  simp only [int64, integer_accepts, exists_and_left, Word.exists_int64?_iff]

theorem uint64_accepts : uint64.Accepts room value ↔
    ∃ number, value = .integer number ∧ 0 ≤ number ∧ number < 2 ^ 64 := by
  simp only [uint64, integer_accepts, exists_and_left, Word.exists_uint64?_iff]

end Json.Reader

/-! ### Cells -/

/-- An amount is written as an integer of 64 bits or as a text. -/
def IsAmount (value : Value) : Prop :=
  (∃ number, value = .integer number ∧ -2 ^ 63 ≤ number ∧ number < 2 ^ 63) ∨
    ∃ written, value = .string written

/-- A market cell, where so many containers may be opened: an integer of 64 bits, a text, or an object with
the details of the cell. Other members of the object may hold anything. -/
inductive IsMarketCell (room : Nat) : Value → Prop
  | number {number : Int} : -2 ^ 63 ≤ number → number < 2 ^ 63 → IsMarketCell room (.integer number)
  | text (written : String) : IsMarketCell room (.string written)
  | detailed {members : List (String × Value)} : (Value.object members).depth ≤ room →
      MayHold members "value" (fun value => value = .null ∨ IsAmount value) →
      MayHold members "label" (fun value => value = .null ∨ ∃ written, value = .string written) →
      MayHold members "par" (fun value => ∃ flag, value = .bool flag) →
      MayHold members "legend" (fun value => value = .null ∨
        ∃ number, value = .integer number ∧ 0 ≤ number ∧ number < 2 ^ 64) →
      IsMarketCell room (.object members)

/-- A line of a market: every item is null or a cell. -/
def IsMarketLine (room : Nat) (values : List Value) : Prop :=
  ∀ value ∈ values, value = .null ∨ IsMarketCell room value

/-- A grid of a market: every item is an array that is a line. -/
def IsMarketGrid (room : Nat) (items : List Value) : Prop :=
  ∀ value ∈ items, ∃ values, value = .array values ∧ IsMarketLine room values

section Accepting

variable {room : Nat} {value : Value}

theorem Amount.read_accepts : Amount.read.Accepts room value ↔ IsAmount value := by
  have hforms : (∃ read ∈ [.map number .int64, .map text .text], Reader.Accepts read room value) ↔
      IsAmount value := by
    simp [Reader.map_accepts, Reader.int64_accepts, Reader.text_accepts, IsAmount]
  rw [Amount.read, Reader.oneOf_accepts, hforms]
  refine and_iff_right_of_imp ?_
  rintro (⟨number, rfl, -⟩ | ⟨written, rfl⟩)
  · exact Nat.zero_le room
  · exact Nat.zero_le room

instance : NamedApart CellField where
  field?_name field := by cases field <;> decide

theorem MarketCell.readDetailed_accepts {members : List (String × Value)} :
    readDetailed.Accepts (room + 1) (.object members) ↔
      MayHold members "value" (fun value => value = .null ∨ IsAmount value) ∧
      MayHold members "label" (fun value => value = .null ∨ ∃ written, value = .string written) ∧
      MayHold members "par" (fun value => ∃ flag, value = .bool flag) ∧
      MayHold members "legend" (fun value => value = .null ∨
        ∃ number, value = .integer number ∧ 0 ≤ number ∧ number < 2 ^ 64) := by
  rw [readDetailed, Reader.object_accepts fun record => ⟨_, rfl⟩]
  simp only [← @Amount.read_accepts room, ← @Reader.text_accepts room, ← @Reader.bool_accepts room,
    ← @Reader.uint64_accepts room, ← Reader.option_accepts]
  constructor
  · intro h
    exact ⟨h .value, h .label, h .par, h .legend⟩
  · rintro ⟨hvalue, hlabel, hpar, hlegend⟩ field
    cases field with
    | value => exact hvalue
    | label => exact hlabel
    | par => exact hpar
    | legend => exact hlegend

theorem IsMarketCell.depth_le (h : IsMarketCell room value) : value.depth ≤ room := by
  cases h with
  | number | text => exact Nat.zero_le room
  | detailed hdepth => exact hdepth

theorem MarketCell.read_accepts : MarketCell.read.Accepts room value ↔ IsMarketCell room value := by
  have hforms : (∃ read ∈ [.map number .int64, .map text .text, readDetailed],
      Reader.Accepts read room value) ↔ Reader.int64.Accepts room value ∨ Reader.text.Accepts room value ∨
        readDetailed.Accepts room value := by
    simp [Reader.map_accepts]
  rw [MarketCell.read, Reader.oneOf_accepts, hforms, Reader.int64_accepts, Reader.text_accepts]
  constructor
  · rintro ⟨hdepth, ⟨number, rfl, hlow, hhigh⟩ | ⟨written, rfl⟩ | hdetailed⟩
    · exact .number hlow hhigh
    · exact .text written
    · obtain ⟨members, room, rfl, rfl⟩ : ∃ members less, value = .object members ∧ room = less + 1 := by
        obtain ⟨cell, hdetailed⟩ := hdetailed
        cases value with
        | object members =>
            cases room with
            | zero => cases hdetailed
            | succ less => exact ⟨members, less, rfl, rfl⟩
        | _ => cases room <;> cases hdetailed
      obtain ⟨hvalue, hlabel, hpar, hlegend⟩ := readDetailed_accepts.mp hdetailed
      exact .detailed hdepth hvalue hlabel hpar hlegend
  · intro h
    refine ⟨h.depth_le, ?_⟩
    cases h with
    | number hlow hhigh => exact .inl ⟨_, rfl, hlow, hhigh⟩
    | text written => exact .inr (.inl ⟨written, rfl⟩)
    | detailed hdepth hvalue hlabel hpar hlegend =>
        obtain ⟨less, rfl⟩ := Nat.exists_eq_add_of_lt (Nat.lt_of_lt_of_le (Nat.succ_pos _) hdepth)
        rw [Nat.zero_add]
        exact .inr (.inr (readDetailed_accepts.mpr ⟨hvalue, hlabel, hpar, hlegend⟩))

theorem MarketCell.option_read_accepts :
    (Reader.option MarketCell.read).Accepts room value ↔ value = .null ∨ IsMarketCell room value := by
  rw [Reader.option_accepts, read_accepts]

theorem readLine_accepts :
    (Reader.list (.option MarketCell.read)).Accepts (room + 1) value ↔
      ∃ values, value = .array values ∧ IsMarketLine room values := by
  have harray (values : List Value) : (Reader.list (.option MarketCell.read)).Accepts (room + 1) (.array values) ↔
      IsMarketLine room values := by
    rw [Reader.list_accepts]
    exact forall₂_congr fun value _ => MarketCell.option_read_accepts
  constructor
  · intro h
    obtain ⟨values, rfl⟩ := Reader.eq_array_of_list_accepts h
    exact ⟨values, rfl, (harray values).mp h⟩
  · rintro ⟨values, rfl, hline⟩
    exact (harray values).mpr hline

theorem IsMarketLine.depth_le {values : List Value} (h : IsMarketLine room values) :
    (Value.array values).depth ≤ room + 1 := by
  rw [Value.depth, Nat.add_le_add_iff_right, Json.itemsDepth_le]
  intro value hvalue
  obtain rfl | hcell := h value hvalue
  · exact Nat.zero_le room
  · exact hcell.depth_le

theorem IsMarketGrid.depth_le {items : List Value} (h : IsMarketGrid room items) :
    (Value.array items).depth ≤ room + 2 := by
  rw [Value.depth, Nat.add_le_add_iff_right, Json.itemsDepth_le]
  intro value hvalue
  obtain ⟨values, rfl, hline⟩ := h value hvalue
  exact hline.depth_le

theorem Market.read_accepts {items : List Value} :
    Market.read.Accepts (room + 2) (.array items) ↔
      IsMarketGrid room items ∨ IsMarketLine (room + 1) items := by
  have hgrid : (Reader.list (.list (.option MarketCell.read))).Accepts (room + 2) (.array items) ↔
      IsMarketGrid room items := by
    rw [Reader.list_accepts]
    exact forall₂_congr fun value _ => readLine_accepts
  have hrow : (Reader.list (.option MarketCell.read)).Accepts (room + 2) (.array items) ↔
      IsMarketLine (room + 1) items := by
    rw [readLine_accepts]
    simp
  have hforms : (∃ read ∈ [.map grid (.list (.list (.option MarketCell.read))),
      .map row (.list (.option MarketCell.read))], Reader.Accepts read (room + 2) (.array items)) ↔
      IsMarketGrid room items ∨ IsMarketLine (room + 1) items := by
    simp [Reader.map_accepts, hgrid, hrow]
  rw [Market.read, Reader.oneOf_accepts, hforms]
  exact and_iff_right_of_imp fun h => h.elim IsMarketGrid.depth_le IsMarketLine.depth_le

end Accepting

/-! ### Rows -/

/-- A row shows a line of a market: a cell is missing where the line has null, and elsewhere it is what is
to be shown of the cell that is read there. -/
structure MarketRow.Shows (row : MarketRow) (values : List Value) : Prop where
  length_eq : row.cells.length = values.length
  empty_iff : ∀ index : Nat, row.cells[index]? = some none ↔ values[index]? = some .null
  hasEmpty_iff : row.hasEmpty = true ↔ .null ∈ values
  shown : ∀ (index : Nat) value, values[index]? = some value → value ≠ .null →
    ∃ room cell, MarketCell.read room value.node = .ok cell ∧ row.cells[index]? = some (some cell.shown)

section Rows

variable {room : Nat} {values : List Value} {cells : List (Option MarketCell)}

theorem getElem?_of_forall₂ {α β : Type} {R : α → β → Prop} {items : List α} {others : List β}
    (h : List.Forall₂ R items others) (index : Nat) :
    (items[index]? = none ∧ others[index]? = none) ∨
      ∃ item other, items[index]? = some item ∧ others[index]? = some other ∧ R item other := by
  induction h generalizing index with
  | nil => exact .inl ⟨rfl, rfl⟩
  | cons hfirst _ ih =>
      cases index with
      | zero => exact .inr ⟨_, _, rfl, rfl, hfirst⟩
      | succ index => exact ih index

theorem cell_of_read {value : Value} {cell : Option MarketCell}
    (h : Reader.option MarketCell.read room value.node = .ok cell) :
    (value = .null ∧ cell = none) ∨
      (value ≠ .null ∧ ∃ present, MarketCell.read room value.node = .ok present ∧ cell = some present) := by
  by_cases hnull : value = .null
  · subst hnull
    exact .inl ⟨rfl, (Except.ok.inj h).symm⟩
  · rw [Reader.option_of_ne_null _ _ (Reader.node_ne_null hnull)] at h
    obtain ⟨present, hpresent, rfl⟩ := map_eq_ok.mp h
    exact .inr ⟨hnull, present, hpresent, rfl⟩

theorem MarketRow.shows_of_read
    (h : List.Forall₂ (fun value cell => Reader.option MarketCell.read room value.node = .ok cell) values
      cells) :
    Shows ⟨cells.map (·.map MarketCell.shown)⟩ values := by
  have hcell (index : Nat) := getElem?_of_forall₂ h index
  have hempty (index : Nat) :
      (cells.map (·.map MarketCell.shown))[index]? = some none ↔ values[index]? = some .null := by
    rw [List.getElem?_map]
    obtain ⟨hline, hcells⟩ | ⟨value, cell, hline, hcells, hread⟩ := hcell index
    · simp [hline, hcells]
    · obtain ⟨rfl, rfl⟩ | ⟨hnull, present, -, rfl⟩ := cell_of_read hread
      · simp [hline, hcells]
      · simp [hline, hcells, hnull]
  refine ⟨?_, hempty, ?_, ?_⟩
  · rw [List.length_map, h.length_eq]
  · rw [hasEmpty, List.any_eq_true, List.mem_iff_getElem?]
    simp only [← hempty, ← List.mem_iff_getElem?, Option.isNone_iff_eq_none, exists_eq_right]
  · intro index value hvalue hnull
    obtain ⟨hline, -⟩ | ⟨found, cell, hline, hcells, hread⟩ := hcell index
    · cases hline.symm.trans hvalue
    · obtain rfl := Option.some.inj (hline.symm.trans hvalue)
      obtain ⟨rfl, -⟩ | ⟨-, present, hpresent, rfl⟩ := cell_of_read hread
      · exact absurd rfl hnull
      · exact ⟨room, present, hpresent, by rw [List.getElem?_map, hcells]; rfl⟩

/-- The rows that a market has show what it is written as: a row for each item if the first item is an
array, and otherwise one row for all items. -/
structure ShowsMarket (rows : List MarketRow) (items : List Value) : Prop where
  grid : (∃ values rest, items = .array values :: rest) →
    List.Forall₂ (fun value row => ∃ values, value = .array values ∧ row.Shows values) items rows
  row : (¬ ∃ values rest, items = .array values :: rest) → ∃ row, rows = [row] ∧ row.Shows items

/-- The rows to show of a market. -/
def Market.rows (market : Market) : List MarketRow :=
  market.declaredRows.map fun cells => ⟨cells.map (·.map MarketCell.shown)⟩

theorem Market.showsMarket_of_grid {items : List Value} {rows : List (List (Option MarketCell))}
    (h : Reader.list (.list (.option MarketCell.read)) (room + 2) (Value.array items).node = .ok rows) :
    ShowsMarket (grid rows).rows items := by
  have hlines := Reader.list_eq_ok.mp h
  cases hlines with
  | nil =>
      have hempty : MarketRow.Shows ⟨[]⟩ [] := @MarketRow.shows_of_read room [] [] .nil
      exact ⟨nofun, fun _ => ⟨⟨[]⟩, rfl, hempty⟩⟩
  | @cons value cells rest others hfirst hrest =>
      obtain ⟨values, rfl⟩ := Reader.eq_array_of_list_accepts ⟨_, hfirst⟩
      refine ⟨fun _ => ?_, fun hnone => absurd ⟨values, rest, rfl⟩ hnone⟩
      refine List.forall₂_map_right_iff.mpr (List.Forall₂.imp ?_ (.cons hfirst hrest))
      intro value cells hcells
      obtain ⟨values, rfl⟩ := Reader.eq_array_of_list_accepts ⟨_, hcells⟩
      exact ⟨values, rfl, MarketRow.shows_of_read (Reader.list_eq_ok.mp hcells)⟩

theorem Market.showsMarket_of_row {items : List Value} {cells : List (Option MarketCell)}
    (h : Reader.list (.option MarketCell.read) (room + 1) (Value.array items).node = .ok cells) :
    ShowsMarket (row cells).rows items := by
  have hcells := Reader.list_eq_ok.mp h
  refine ⟨?_, fun _ => ⟨_, rfl, MarketRow.shows_of_read hcells⟩⟩
  rintro ⟨values, rest, rfl⟩
  obtain ⟨cell, others, hcell, -⟩ := List.forall₂_cons_left_iff.mp hcells
  obtain hnull | hcell := MarketCell.option_read_accepts.mp ⟨cell, hcell⟩
  · cases hnull
  · cases hcell

theorem Market.showsMarket_of_read {items : List Value} {market : Market}
    (h : Market.read (room + 2) (Value.array items).node = .ok market) : ShowsMarket market.rows items := by
  obtain ⟨-, hfirst⟩ := Reader.oneOf_eq_ok.mp h
  obtain hgrid | ⟨-, hrest⟩ := Reader.firstOf_cons_eq_some.mp hfirst
  · obtain ⟨rows, hrows, rfl⟩ := map_eq_ok.mp hgrid
    exact showsMarket_of_grid hrows
  · obtain hrow | ⟨-, hnone⟩ := Reader.firstOf_cons_eq_some.mp hrest
    · obtain ⟨cells, hcells, rfl⟩ := map_eq_ok.mp hrow
      exact showsMarket_of_row hcells
    · cases hnone

end Rows

/-! ### The market of a game -/

instance : NamedApart StockField where
  field?_name field := by cases field; decide

instance : NamedApart GameField where
  field?_name field := by cases field <;> decide

/-- A game with its market among other members. -/
def marketDocument (before after stockBefore stockAfter : List (String × Value)) (market : List Value) :
    Value :=
  .object (before ++ ("stock", .object (stockBefore ++ ("market", .array market) :: stockAfter)) :: after)

section Document

variable {before after stockBefore stockAfter : List (String × Value)}

theorem marketRows_of_market {game : Game} {market : Market} (h : game.market = some market) :
    game.marketRows = market.rows := by
  rw [Game.marketRows, Game.declaredRows, h]
  rfl

theorem readStock_accepts_exchange {items others : List Value} {room : Nat}
    (h : Market.readStock.Accepts (room + 1)
      (.object (stockBefore ++ ("market", .array others) :: stockAfter))) :
    Market.readStock.Accepts (room + 1) (.object (stockBefore ++ ("market", .array items) :: stockAfter)) ↔
      Market.read.Accepts room (.array items) :=
  (Reader.record_accepts_exchange (fun _ => ⟨_, rfl⟩) StockField.market h).trans
    (Reader.option_accepts.trans (or_iff_right nofun))

theorem gameRead_accepts_exchange {value other : Value} {room : Nat} (hvalue : value ≠ .null)
    (h : Game.read.Accepts (room + 1) (.object (before ++ ("stock", other) :: after))) :
    Game.read.Accepts (room + 1) (.object (before ++ ("stock", value) :: after)) ↔
      Market.readStock.Accepts room value :=
  (Reader.record_accepts_exchange (fun _ => ⟨_, rfl⟩) GameField.stock h).trans
    (Reader.option_accepts.trans (or_iff_right hvalue))

/-- A game that can be read with one market can be read with any other that can be read. -/
theorem exists_read_marketDocument_iff {items others : List Value}
    (h : Game.read.Accepts Json.maxDepth (marketDocument before after stockBefore stockAfter others)) :
    Game.read.Accepts Json.maxDepth (marketDocument before after stockBefore stockAfter items) ↔
      IsMarketGrid (Json.maxDepth - 4) items ∨ IsMarketLine (Json.maxDepth - 3) items := by
  have hstock : Market.readStock.Accepts (Json.maxDepth - 1)
      (.object (stockBefore ++ ("market", .array others) :: stockAfter)) :=
    (gameRead_accepts_exchange Value.noConfusion h).mp h
  calc Game.read.Accepts Json.maxDepth (marketDocument before after stockBefore stockAfter items)
      ↔ Market.readStock.Accepts (Json.maxDepth - 1)
          (.object (stockBefore ++ ("market", .array items) :: stockAfter)) :=
        gameRead_accepts_exchange Value.noConfusion h
    _ ↔ Market.read.Accepts (Json.maxDepth - 2) (.array items) := readStock_accepts_exchange hstock
    _ ↔ IsMarketGrid (Json.maxDepth - 4) items ∨ IsMarketLine (Json.maxDepth - 3) items :=
        Market.read_accepts

theorem read_market_of_marketDocument {items : List Value} {game : Game}
    (h : Value.read Game.read (marketDocument before after stockBefore stockAfter items) = .ok game) :
    ∃ market, game.market = some market ∧
      Market.read (Json.maxDepth - 2) (Value.array items).node = .ok market := by
  obtain ⟨record, hgame, stock, hstock, hrecord⟩ := Reader.record_object_middle GameField.stock h
  obtain ⟨found, hfound, rfl⟩ := map_eq_ok.mp hstock
  obtain ⟨inner, hinner, entry, hentry, hmarket⟩ := Reader.record_object_middle StockField.market hfound
  obtain ⟨market, hread, rfl⟩ := map_eq_ok.mp hentry
  refine ⟨market, ?_, hread⟩
  obtain rfl := Except.ok.inj hgame
  obtain rfl := Except.ok.inj hinner
  change (record GameField.stock).join.join = some market
  rw [hrecord]
  change (inner StockField.market).join = some market
  rw [hmarket]
  rfl

/-- With an array as its market, a game can be read exactly if the rest of it can be, which is the game with
an empty market, and the array is a grid or a line of a market. The rows of the market then show the
array. -/
theorem read_market_iff (before after stockBefore stockAfter : List (String × Value)) (items : List Value) :
    ((∃ game, Value.read Game.read (marketDocument before after stockBefore stockAfter items) = .ok game) ↔
      (∃ game, Value.read Game.read (marketDocument before after stockBefore stockAfter []) = .ok game) ∧
        (IsMarketGrid (Json.maxDepth - 4) items ∨ IsMarketLine (Json.maxDepth - 3) items)) ∧
    ∀ game, Value.read Game.read (marketDocument before after stockBefore stockAfter items) = .ok game →
      ShowsMarket game.marketRows items := by
  refine ⟨⟨fun h => ?_, fun ⟨hrest, hmarket⟩ => ?_⟩, fun game hgame => ?_⟩
  · have hempty : IsMarketGrid (Json.maxDepth - 4) [] := nofun
    exact ⟨(exists_read_marketDocument_iff h).mpr (.inl hempty), (exists_read_marketDocument_iff h).mp h⟩
  · exact (exists_read_marketDocument_iff hrest).mpr hmarket
  · obtain ⟨market, hmarket, hread⟩ := read_market_of_marketDocument hgame
    rw [marketRows_of_market hmarket]
    exact @Market.showsMarket_of_read (Json.maxDepth - 4) items market hread

/-- A game with a market whose first line has a hole, and whose second line is empty. -/
example : ∃ game, Value.read Game.read (marketDocument [("bank", .integer 12000)] [] [] []
    [.array [.integer 60, .null, .object [("label", .string "")]], .array []]) = .ok game ∧
    game.marketRows.map (·.cells) = [[some "60", none, some ""], []] :=
  ⟨_, rfl, rfl⟩

end Document

end Rail18
