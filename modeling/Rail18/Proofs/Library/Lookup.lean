import Mathlib.Data.List.Find
import Rail18.Proofs.Library.Session

/-!
# Which game goes by a name

A library is asked for a game by a name, and takes the first of its games that has the name as its id or
as its title, in whatever case. A game that is asked for by its own id is found where no game before it
has that id as its title; where one has, that one is taken.
-/

namespace Rail18

theorem needle_of_trim_eq {name : String} (h : Text.trim name.toList = name.toList) :
    needle name = Text.lower name := by
  rw [needle, h]
  rfl

namespace GameEntry

/-- Whether the title of a game is a name, in whatever case. -/
def isTitled (name : String) (entry : GameEntry) : Bool :=
  entry.title.any fun title => Text.lower title = Text.lower name

theorem goesBy_eq {name : String} (h : Text.trim name.toList = name.toList) (entry : GameEntry) :
    entry.goesBy name = (decide (Text.lower entry.id = Text.lower name) || entry.isTitled name) := by
  rw [goesBy, fits, needle_of_trim_eq h, isTitled]
  cases entry.title <;> rfl

end GameEntry

section OwnId

variable {found before after : List GameEntry} {entry : GameEntry}

theorem id_ne_of_mem_before (hids : (found.map fun game => Text.lower game.id).Nodup)
    (hentry : found = before ++ entry :: after) {earlier : GameEntry} (hearlier : earlier ∈ before) :
    Text.lower earlier.id ≠ Text.lower entry.id := by
  rw [hentry, List.map_append, List.map_cons, List.nodup_append] at hids
  obtain ⟨-, -, hapart⟩ := hids
  exact hapart _ (List.mem_map_of_mem hearlier) _ List.mem_cons_self

/-- Of the games before one, only those with its id as their title go by that id. -/
theorem find?_goesBy_before (hids : (found.map fun game => Text.lower game.id).Nodup)
    (hentry : found = before ++ entry :: after)
    (hends : Text.trim entry.id.toList = entry.id.toList) :
    before.find? (·.goesBy entry.id) = before.find? (·.isTitled entry.id) := by
  apply List.find?_congr
  intro earlier hearlier
  have hid := id_ne_of_mem_before hids hentry hearlier
  rw [GameEntry.goesBy_eq hends, decide_eq_false hid, Bool.false_or]

theorem find?_goesBy_own_id (hids : (found.map fun game => Text.lower game.id).Nodup)
    (hentry : found = before ++ entry :: after)
    (hends : Text.trim entry.id.toList = entry.id.toList) :
    found.find? (·.goesBy entry.id) =
      some ((before.find? (·.isTitled entry.id)).getD entry) := by
  have hown : entry.goesBy entry.id = true := by
    rw [GameEntry.goesBy_eq hends, decide_eq_true rfl, Bool.true_or]
  calc found.find? (·.goesBy entry.id)
      = (before.find? (·.goesBy entry.id)).or ((entry :: after).find? (·.goesBy entry.id)) := by
        rw [hentry, List.find?_append]
    _ = (before.find? (·.isTitled entry.id)).or (some entry) := by
        rw [find?_goesBy_before hids hentry hends, List.find?_cons_of_pos hown]
    _ = some ((before.find? (·.isTitled entry.id)).getD entry) := Option.or_some

theorem selected_eq_iff (hids : (found.map fun game => Text.lower game.id).Nodup)
    (hentry : found = before ++ entry :: after) :
    (before.find? (·.isTitled entry.id)).getD entry = entry ↔
      ∀ earlier ∈ before, earlier.isTitled entry.id = false := by
  cases htitled : before.find? (·.isTitled entry.id) with
  | none =>
      have hnone := List.find?_eq_none.mp htitled
      simpa using hnone
  | some earlier =>
      have hearlier : earlier ∈ before := List.mem_of_find?_eq_some htitled
      have htitle : earlier.isTitled entry.id = true := List.find?_some htitled
      have hid := id_ne_of_mem_before hids hentry hearlier
      constructor
      · intro hsame
        rw [Option.getD_some] at hsame
        rw [hsame] at hid
        exact absurd rfl hid
      · intro hnone
        rw [hnone earlier hearlier] at htitle
        cases htitle

end OwnId

/-- A library whose games have different ids, in whatever case, is asked for one of them by its own id,
which has no blanks at its ends. It takes the first game that has this id as its title, if there is one
before, and otherwise the game itself, and reads the file of the game that it takes. -/
theorem game_of_own_id {disk : Disk} {library : Library} {found before after : List GameEntry}
    {entry : GameEntry} (hgames : library.games disk = .ok found)
    (hids : (found.map fun game => Text.lower game.id).Nodup)
    (hentry : found = before ++ entry :: after)
    (hends : Text.trim entry.id.toList = entry.id.toList) :
    let selected := (before.find? (·.isTitled entry.id)).getD entry
    found.find? (·.goesBy entry.id) = some selected ∧
      library.game disk entry.id = Library.readGame disk selected.path ∧
      (selected = entry ↔ ∀ earlier ∈ before, earlier.isTitled entry.id = false) := by
  intro selected
  have hselected : found.find? (·.goesBy entry.id) = some selected :=
    find?_goesBy_own_id hids hentry hends
  have hsession : (⟨disk, library⟩ : Session).games = .ok found := hgames
  obtain ⟨-, -, hgame⟩ := Session.answersFrom hsession
  have hread := hgame entry.id
  rw [hselected] at hread
  exact ⟨hselected, hread, selected_eq_iff hids hentry⟩

/-- The text of a game with the title that another has as its id. -/
def namesakeText : String := "\x7b\"info\":\x7b\"title\":\"B\"\x7d\x7d"

def namedText : String := "\x7b\"info\":\x7b\"title\":\"18B\"\x7d\x7d"

/-- What stands in the text of a game with a title and nothing else. -/
def titledDocument (title : String) : Json.Document where
  root := (Json.Value.object [("info", .object [("title", .string title)])]).node
  trailing := false

theorem parse_namesakeText : Json.parse namesakeText = titledDocument "B" :=
  Json.parse_of_value (by simp only [namesakeText, String.reduceToList]; rfl) rfl

theorem parse_namedText : Json.parse namedText = titledDocument "18B" :=
  Json.parse_of_value (by simp only [namedText, String.reduceToList]; rfl) rfl

/-- A games directory with the two games, of which the second has the id. -/
def namesakes : Disk where
  entries := .ofList [(["games"], .directory),
    (["games", "a.json"], .file namesakeText.toUTF8),
    (["games", "b.json"], .file namedText.toUTF8)]

def namesakeLibrary : Library where
  gamesRoot := "games"
  tilesPath := "tiles.json"

def namesakeEntries : List GameEntry :=
  [⟨"a", some "B", "games/a.json"⟩, ⟨"b", some "18B", "games/b.json"⟩]

theorem text_namesake : namesakes.text? "games/a.json" = some namesakeText := by rfl

theorem text_named : namesakes.text? "games/b.json" = some namedText := by rfl

theorem headerTitle_namesake : headerTitle namesakes "games/a.json" = .ok (some "B") := by
  have hread : (Json.parse namesakeText).read readHeader = .ok (some "B") := by
    rw [parse_namesakeText]
    rfl
  rw [headerTitle_of_text text_namesake, hread]
  rfl

theorem headerTitle_named : headerTitle namesakes "games/b.json" = .ok (some "18B") := by
  have hread : (Json.parse namedText).read readHeader = .ok (some "18B") := by
    rw [parse_namedText]
    rfl
  rw [headerTitle_of_text text_named, hread]
  rfl

theorem games_namesakes : namesakeLibrary.games namesakes = .ok namesakeEntries := by
  have hfiles : definitionFiles namesakes "games" = [("a", "games/a.json"), ("b", "games/b.json")] := by rfl
  have hroot : namesakes.isDirectory "games" = true := by rfl
  have hlisted : isListed namesakes "games" = true := by rfl
  simp [namesakeLibrary, Library.games, discover, hroot, hlisted, hfiles, gameIn?, headerTitle_namesake,
    headerTitle_named, namesakeEntries]

theorem lower_ids_namesakes :
    (namesakeEntries.map fun game => Text.lower game.id) = ["a", "b"] := by
  have hfirst : Text.lower "a" = "a" := by decide +kernel
  have hsecond : Text.lower "b" = "b" := by decide +kernel
  simp only [namesakeEntries, List.map_cons, List.map_nil, hfirst, hsecond]

theorem nodup_namesakes : (namesakeEntries.map fun game => Text.lower game.id).Nodup := by
  rw [lower_ids_namesakes]
  decide

theorem isTitled_namesake : GameEntry.isTitled "b" ⟨"a", some "B", "games/a.json"⟩ = true := by
  have hid : Text.lower "b" = "b" := by decide +kernel
  have htitle : Text.lower "B" = "b" := by decide +kernel
  simp only [GameEntry.isTitled, Option.any_some, hid, htitle, decide_true]

/-- The first game is read by its own id, and by the id of the second as well. -/
theorem game_of_own_id_namesakes :
    namesakeLibrary.game namesakes "a" = Library.readGame namesakes "games/a.json" ∧
      namesakeLibrary.game namesakes "b" = Library.readGame namesakes "games/a.json" := by
  have hfirstEnds : Text.trim "a".toList = "a".toList := by decide +kernel
  have hsecondEnds : Text.trim "b".toList = "b".toList := by decide +kernel
  have hnone : namesakeEntries =
      [] ++ ⟨"a", some "B", "games/a.json"⟩ :: [⟨"b", some "18B", "games/b.json"⟩] := rfl
  have hone : namesakeEntries =
      [⟨"a", some "B", "games/a.json"⟩] ++ ⟨"b", some "18B", "games/b.json"⟩ :: [] := rfl
  obtain ⟨-, hfirst, -⟩ := game_of_own_id games_namesakes nodup_namesakes hnone hfirstEnds
  obtain ⟨-, hsecond, -⟩ := game_of_own_id games_namesakes nodup_namesakes hone hsecondEnds
  rw [List.find?_cons_of_pos isTitled_namesake] at hsecond
  exact ⟨hfirst, hsecond⟩

/-- The second game is listed, but what is read by its id is the first. -/
theorem readGame_of_namesake :
    namesakeLibrary.games namesakes = .ok namesakeEntries ∧
      (namesakeEntries.map fun game => Text.lower game.id).Nodup ∧
      ⟨"b", some "18B", "games/b.json"⟩ ∈ namesakeEntries ∧
      namesakeEntries.find? (·.goesBy "b") = some ⟨"a", some "B", "games/a.json"⟩ ∧
      namesakeLibrary.game namesakes "b" = .ok { info := some { title := some "B" } } ∧
      Library.readGame namesakes "games/b.json" = .ok { info := some { title := some "18B" } } := by
  have hends : Text.trim "b".toList = "b".toList := by decide +kernel
  have hgoes : GameEntry.goesBy "b" ⟨"a", some "B", "games/a.json"⟩ = true := by
    rw [GameEntry.goesBy_eq hends, isTitled_namesake, Bool.or_true]
  have hselected : namesakeEntries.find? (·.goesBy "b") = some ⟨"a", some "B", "games/a.json"⟩ :=
    List.find?_cons_of_pos hgoes
  have hnamesake : (Json.parse namesakeText).read Game.read =
      .ok { info := some { title := some "B" } } := by
    rw [parse_namesakeText]
    rfl
  have hnamed : (Json.parse namedText).read Game.read =
      .ok { info := some { title := some "18B" } } := by
    rw [parse_namedText]
    rfl
  refine ⟨games_namesakes, nodup_namesakes, List.mem_cons_of_mem _ List.mem_cons_self, hselected, ?_,
    Library.readGame_eq_ok.mpr ⟨_, text_named, hnamed⟩⟩
  exact Library.game_eq_ok.mpr ⟨_, _, games_namesakes, hselected,
    Library.readGame_eq_ok.mpr ⟨_, text_namesake, hnamesake⟩⟩

end Rail18
