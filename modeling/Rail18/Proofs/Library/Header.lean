import Rail18.Library.Basic
import Rail18.Proofs.Json.Narrowing

/-!
# What a search sees of a game

A search reads the header of a definition only, and a game that can be read whole is listed with its
title, with one exception. A game and its information may be written as arrays of their fields, and a
header has one field where a game has fifteen: a header that is an array of more than one item cannot be
read, nor can one whose information is such an array. A game that is written so is not found.
-/

namespace Rail18

open Json (Document Fields Heads Node Record Value)
open Json.Reader

/-! ### A game is read from end to end -/

theorem playerField_thorough : Record.Thorough PlayerField
  | .number => (integer_plain _).thorough
  | .bank | .certLimit | .capital => (oneOf_thorough _).option

theorem companyField_thorough : Record.Thorough CompanyField
  | .abbreviation => text_plain.thorough
  | .name | .color => text_plain.thorough.option
  | .logo => value_thorough.option
  | .minor => bool_plain.thorough
  | .tokens | .shares => (oneOf_thorough _).option
  | .floatPercent => (integer_plain _).thorough.option

theorem privateField_thorough : Record.Thorough PrivateField
  | .name => text_plain.thorough
  | .price | .revenue => value_thorough.option
  | .description => text_plain.thorough.option
  | .minPlayers => (integer_plain _).thorough.option

theorem trainField_thorough : Record.Thorough TrainField
  | .name => text_plain.thorough
  | .distance | .rustsOn | .availableOn => value_thorough.option
  | .price => (integer_plain _).thorough.option
  | .quantity => (oneOf_thorough _).option
  | .discount => value_thorough.dict

theorem phaseField_thorough : Record.Thorough PhaseField
  | .name | .train | .tiles => text_plain.thorough.option
  | .on | .limit | .rounds => value_thorough.option

theorem stockField_thorough : Record.Thorough StockField
  | .market => (oneOf_thorough _).option

theorem infoField_thorough : Record.Thorough InfoField
  | .title | .currency | .orientation | .capitalization => text_plain.thorough.option
  | .mustSellInBlocks => bool_plain.thorough.option

theorem gameField_thorough : Record.Thorough GameField
  | .info => (record_thorough infoField_thorough _).option
  | .bank | .certLimit | .capital | .boards => (oneOf_thorough _).option
  | .players => (record_thorough playerField_thorough _).list
  | .tiles => (oneOf_thorough _).dict
  | .companies => (record_thorough companyField_thorough _).list
  | .privates => (record_thorough privateField_thorough _).list
  | .trains => (record_thorough trainField_thorough _).list
  | .phases => (record_thorough phaseField_thorough _).list
  | .stock => (record_thorough stockField_thorough _).option
  | .tokenTypes | .shareTypes => value_thorough.list.dict
  | .floatPercent => (integer_plain _).thorough.option

/-! ### The header of a game -/

theorem heads_title : Heads InfoField.title HeaderInfoField.title where
  first := ⟨_, rfl, by decide⟩
  sole := rfl
  name := rfl

theorem heads_info : Heads GameField.info HeaderField.info where
  first := ⟨_, rfl, by decide⟩
  sole := rfl
  name := rfl

theorem headerInfo_narrows : Narrows GameInfo.read readHeaderInfo GameInfo.title Node.isLong := by
  have hfield : Narrows (Fields.read InfoField.title) (Fields.read HeaderInfoField.title) id
    fun _ => false := narrows_self (.option .text)
  have h : Narrows GameInfo.read readHeaderInfo GameInfo.title fun node =>
      node.isLong || (node.first? "title").any fun _ => false := by
    refine Narrows.record heads_title infoField_thorough hfield fun record info hinfo less hless => ?_
    obtain rfl := Except.ok.inj hinfo
    change Except.ok (less .title).join = Except.ok (record .title).join
    rw [hless, Option.map_id]
    rfl
  simpa using h

/-- A game that a search does not find, though it can be read: it is written as an array with more than
its information, or its information is written as an array with more than the title. -/
def Json.Node.outgrowsHeader (node : Node) : Bool :=
  node.isLong || (node.first? "info").any Node.isLong

theorem header_narrows :
    Narrows Game.read readHeader (fun game => game.info.bind GameInfo.title) Node.outgrowsHeader := by
  refine Narrows.record heads_info gameField_thorough (headerInfo_narrows.option rfl) ?_
  intro record game hgame less hless
  obtain rfl := Except.ok.inj hgame
  change Except.ok (less .info).join.join = Except.ok ((record .info).join.bind GameInfo.title)
  rw [hless]
  cases record .info with
  | none => rfl
  | some info => cases info <;> rfl

theorem header_of_game {document : Document} {game : Game}
    (h : document.read Game.read = .ok game) :
    document.read readHeader =
      if document.root.outgrowsHeader then .error .malformed
      else .ok (game.info.bind GameInfo.title) := by
  obtain ⟨read, hread, htrailing⟩ := bind_eq_ok.mp h
  have hheader := header_narrows _ _ _ hread
  cases hall : document.trailing with
  | true =>
      rw [hall, if_pos rfl] at htrailing
      cases htrailing
  | false =>
      rw [hall, if_neg Bool.false_ne_true] at htrailing
      obtain rfl := Except.ok.inj htrailing
      rw [Document.read, hheader, hall]
      cases document.root.outgrowsHeader <;> rfl

/-- A game that is written as an array: its information, and then its bank. -/
def arrayForm : String := "[\x7b\"title\":\"18B\"\x7d,7000]"

theorem parse_arrayForm : Json.parse arrayForm =
    ⟨(Value.array [.object [("title", .string "18B")], .integer 7000]).node, false⟩ :=
  Json.parse_of_value (by simp only [arrayForm, String.reduceToList]; rfl) rfl

theorem read_arrayForm : (Json.parse arrayForm).read Game.read =
    .ok { info := some { title := some "18B" }, bank := some (.number 7000) } := by
  rw [parse_arrayForm]
  rfl

/-- The game in array form can be read, but its header cannot. -/
theorem header_of_arrayForm :
    (∃ game, (Json.parse arrayForm).read Game.read = .ok game ∧
      game.info.bind GameInfo.title = some "18B") ∧
    (Json.parse arrayForm).read readHeader = .error .malformed := by
  have hheader : (Json.parse arrayForm).read readHeader = .error .malformed := by
    rw [parse_arrayForm]
    rfl
  exact ⟨⟨_, read_arrayForm, rfl⟩, hheader⟩

/-! ### Games that are found -/

theorem headerTitle_of_game {disk : Disk} {path text : String} {game : Game}
    (htext : disk.text? path = some text) (hgame : (Json.parse text).read Game.read = .ok game) :
    headerTitle disk path =
      if (Json.parse text).root.outgrowsHeader then .error .unsound
      else .ok (game.info.bind GameInfo.title) := by
  rw [headerTitle_of_text htext, header_of_game hgame]
  cases (Json.parse text).root.outgrowsHeader <;> rfl

theorem mem_discover {disk : Disk} {root : String} {found : List GameEntry}
    (hroot : disk.isDirectory root = true) (h : discover disk root = .ok found) {entry : GameEntry} :
    entry ∈ found ↔ (entry.id, entry.path) ∈ definitionFiles disk root ∧
      headerTitle disk entry.path = .ok entry.title := by
  have hfound : (definitionFiles disk root).filterMap (gameIn? disk) = found := by
    simp only [discover, hroot, Bool.not_true, Bool.false_eq_true, if_false] at h
    split at h
    · exact Except.ok.inj h
    · cases h
  rw [← hfound, List.mem_filterMap]
  constructor
  · rintro ⟨⟨id, path⟩, hfile, hentry⟩
    cases htitle : headerTitle disk path with
    | error unfit => simp [gameIn?, htitle] at hentry
    | ok title =>
        simp only [gameIn?, htitle, Option.some.injEq] at hentry
        subst hentry
        exact ⟨hfile, htitle⟩
  · rintro ⟨hfile, htitle⟩
    exact ⟨_, hfile, by rw [gameIn?, htitle]⟩

/-- A text that is read as a game is read as a header too, with the same title, unless it outgrows the
header; then the header cannot be read. So wherever the text stands in a file that is searched, the game
is listed under its title, unless it outgrows the header; then the file is not listed. -/
theorem discover_of_game (text : String) (game : Game)
    (hgame : (Json.parse text).read Game.read = .ok game) :
    ((Json.parse text).read readHeader =
      if (Json.parse text).root.outgrowsHeader then .error .malformed
      else .ok (game.info.bind GameInfo.title)) ∧
    ∀ disk root found id path, disk.isDirectory root = true → discover disk root = .ok found →
      (id, path) ∈ definitionFiles disk root → disk.text? path = some text →
      ((∃ entry ∈ found, entry.path = path) ↔ (Json.parse text).root.outgrowsHeader = false) ∧
      ((Json.parse text).root.outgrowsHeader = false →
        ⟨id, game.info.bind GameInfo.title, path⟩ ∈ found) := by
  refine ⟨header_of_game hgame, ?_⟩
  intro disk root found id path hroot hfound hfile htext
  have htitle := headerTitle_of_game htext hgame
  have hlisted (houtgrows : (Json.parse text).root.outgrowsHeader = false) :
      ⟨id, game.info.bind GameInfo.title, path⟩ ∈ found := by
    rw [houtgrows] at htitle
    exact (mem_discover hroot hfound).mpr ⟨hfile, htitle⟩
  refine ⟨⟨?_, fun houtgrows => ⟨_, hlisted houtgrows, rfl⟩⟩, hlisted⟩
  rintro ⟨entry, hentry, rfl⟩
  have hread := ((mem_discover hroot hfound).mp hentry).2
  cases houtgrows : (Json.parse text).root.outgrowsHeader with
  | false => rfl
  | true =>
      rw [houtgrows, hread] at htitle
      cases htitle

/-- A game that is written as an object. -/
def objectForm : String := "\x7b\"info\":\x7b\"title\":\"18A\"\x7d,\"bank\":7000\x7d"

theorem parse_objectForm : Json.parse objectForm =
    ⟨(Value.object [("info", .object [("title", .string "18A")]), ("bank", .integer 7000)]).node, false⟩ :=
  Json.parse_of_value (by simp only [objectForm, String.reduceToList]; rfl) rfl

theorem read_objectForm : (Json.parse objectForm).read Game.read =
    .ok { info := some { title := some "18A" }, bank := some (.number 7000) } := by
  rw [parse_objectForm]
  rfl

/-- A games directory with a game in either form. -/
def bothForms : Disk where
  entries := .ofList [(["games"], .directory),
    (["games", "a.json"], .file objectForm.toUTF8),
    (["games", "b.json"], .file arrayForm.toUTF8)]

theorem definitionFiles_bothForms :
    definitionFiles bothForms "games" = [("a", "games/a.json"), ("b", "games/b.json")] := by rfl

theorem discover_of_game_bothForms :
    ∃ found, discover bothForms "games" = .ok found ∧
      ⟨"a", some "18A", "games/a.json"⟩ ∈ found ∧ ¬ ∃ entry ∈ found, entry.path = "games/b.json" := by
  have hroot : bothForms.isDirectory "games" = true := by rfl
  obtain ⟨found, hfound⟩ : ∃ found, discover bothForms "games" = .ok found := by
    rw [discover, hroot]
    exact ⟨_, rfl⟩
  have hobject : (Json.parse objectForm).root.outgrowsHeader = false := by
    rw [parse_objectForm]
    rfl
  have harray : (Json.parse arrayForm).root.outgrowsHeader = true := by
    rw [parse_arrayForm]
    rfl
  obtain ⟨-, hwhole⟩ := discover_of_game objectForm _ read_objectForm
  obtain ⟨-, hlisted⟩ := hwhole bothForms "games" found "a" "games/a.json" hroot hfound
    (by simp [definitionFiles_bothForms]) (by rfl)
  obtain ⟨-, hwhole⟩ := discover_of_game arrayForm _ read_arrayForm
  obtain ⟨hiff, -⟩ := hwhole bothForms "games" found "b" "games/b.json" hroot hfound
    (by simp [definitionFiles_bothForms]) (by rfl)
  refine ⟨found, hfound, hlisted hobject, fun hentry => ?_⟩
  rw [hiff, harray] at hentry
  cases hentry

end Rail18
