import Mathlib.Data.List.Induction
import Rail18.Library.Basic
import Rail18.Proofs.Outcome

/-!
# What a library remembers

A library is asked for something again and again while the disk changes under it. All that a step can do
to the library is listed once, in `Session.step_cases`: it is pointed elsewhere, or it stays as it is, or
it held nothing and now holds what a search has found. What holds along a whole run follows from this.
-/

namespace Rail18

/-- Whether an answer is taken from the games that are remembered. -/
def Library.Request.searches : Library.Request → Bool
  | .games | .gamesMatching _ | .game _ => true
  | .refresh .. | .tiles => false

/-- What happens next: the disk becomes another one, or the library is asked for something. -/
inductive Step where
  | change (disk : Disk)
  | ask (request : Library.Request)

/-- A step that does not point the library elsewhere. -/
def Step.Keeps : Step → Prop
  | .ask (.refresh ..) => False
  | _ => True

/-- A disk and the library that is asked about it. -/
structure Session where
  disk : Disk
  library : Library

namespace Session

def step (session : Session) : Step → Session
  | .change disk => { session with disk }
  | .ask request => { session with library := session.library.after session.disk request }

def run (session : Session) (steps : List Step) : Session := steps.foldl step session

/-- What the library answers when it is asked for all its games. -/
def games (session : Session) : Except LibraryError (List GameEntry) :=
  session.library.games session.disk

/-- All that is asked about games is answered from one list of them. What is in a game is read from the
disk as it is now. -/
def AnswersFrom (session : Session) (found : List GameEntry) : Prop :=
  session.games = .ok found ∧
    (∀ query, session.library.gamesMatching session.disk query =
      .ok (if needle query = "" then found else found.filter (·.mentions query))) ∧
    ∀ name, session.library.game session.disk name =
      match found.find? (·.goesBy name) with
      | some entry => Library.readGame session.disk entry.path
      | none => .error (.unknownGame name)

theorem run_append (session : Session) (early late : List Step) :
    session.run (early ++ late) = (session.run early).run late := List.foldl_append

theorem run_concat (session : Session) (steps : List Step) (step : Step) :
    session.run (steps ++ [step]) = (session.run steps).step step := session.run_append steps [step]

theorem games_of_found {session : Session} (h : session.library.found ≠ []) :
    session.games = .ok session.library.found := by
  simp [games, Library.games, h]

theorem games_of_nothing {session : Session} (h : session.library.found = []) :
    session.games = discover session.disk session.library.gamesRoot := by
  simp [games, Library.games, h]

theorem answersFrom {session : Session} {found : List GameEntry} (h : session.games = .ok found) :
    session.AnswersFrom found := by
  have hgames : session.library.games session.disk = .ok found := h
  refine ⟨h, fun query => ?_, fun name => ?_⟩
  · rw [Library.gamesMatching, hgames]
    rfl
  · rw [Library.game, hgames]
    rfl

/-- Asking for games remembers them if they can be found, and changes nothing otherwise. -/
theorem library_ask {session : Session} {request : Library.Request} (h : request.searches = true) :
    (session.step (.ask request)).library =
      match session.games with
      | .ok found => { session.library with found }
      | .error _ => session.library := by
  cases request with
  | games | gamesMatching | game => rfl
  | refresh | tiles => cases h

/-! ### One step -/

theorem step_cases (session : Session) (step : Step) :
    (¬ step.Keeps ∧ (session.step step).library.found = []) ∨
      (step.Keeps ∧ (session.step step).library = session.library) ∨
      ∃ request found, step = .ask request ∧ request.searches = true ∧ session.library.found = [] ∧
        discover session.disk session.library.gamesRoot = .ok found ∧
        (session.step step).library = { session.library with found } := by
  cases step with
  | change disk => exact .inr (.inl ⟨trivial, rfl⟩)
  | ask request =>
      by_cases hsearches : request.searches = true
      · have hkeeps : (Step.ask request).Keeps := by
          cases request with
          | refresh => cases hsearches
          | _ => trivial
        have hlibrary := session.library_ask hsearches
        by_cases hfound : session.library.found = []
        · cases hgames : session.games with
          | ok found =>
              rw [hgames] at hlibrary
              have hdiscover := (games_of_nothing hfound).symm.trans hgames
              exact .inr (.inr ⟨request, found, rfl, hsearches, hfound, hdiscover, hlibrary⟩)
          | error error =>
              rw [hgames] at hlibrary
              exact .inr (.inl ⟨hkeeps, hlibrary⟩)
        · rw [games_of_found hfound] at hlibrary
          exact .inr (.inl ⟨hkeeps, hlibrary⟩)
      · cases request with
        | refresh => exact .inl ⟨id, rfl⟩
        | tiles => exact .inr (.inl ⟨trivial, rfl⟩)
        | games | gamesMatching | game => exact absurd rfl hsearches

/-- A step that does not point a library elsewhere keeps its paths, and the games that it remembers. -/
theorem step_keeps {session : Session} {step : Step} (h : step.Keeps) :
    (session.step step).library.gamesRoot = session.library.gamesRoot ∧
      (session.step step).library.tilesPath = session.library.tilesPath ∧
      (session.library.found ≠ [] →
        (session.step step).library.found = session.library.found) := by
  obtain ⟨hnot, -⟩ | ⟨-, hsame⟩ | ⟨-, found, -, -, hnothing, -, hlibrary⟩ := session.step_cases step
  · exact absurd h hnot
  · simp [hsame]
  · rw [hlibrary]
    exact ⟨rfl, rfl, fun hfound => absurd hnothing hfound⟩

/-! ### Runs -/

theorem run_keeps {session : Session} {steps : List Step} (h : ∀ step ∈ steps, step.Keeps) :
    (session.run steps).library.gamesRoot = session.library.gamesRoot ∧
      (session.run steps).library.tilesPath = session.library.tilesPath ∧
      (session.library.found ≠ [] →
        (session.run steps).library.found = session.library.found) := by
  induction steps using List.reverseRecOn with
  | nil => exact ⟨rfl, rfl, fun _ => rfl⟩
  | append_singleton steps step ih =>
      obtain ⟨hgames, htiles, hfound⟩ := ih fun early hearly => h early (List.mem_append_left _ hearly)
      obtain ⟨hgames', htiles', hfound'⟩ :=
        (session.run steps).step_keeps (h step (List.mem_append_right _ List.mem_cons_self))
      rw [run_concat]
      refine ⟨hgames'.trans hgames, htiles'.trans htiles, fun hsome => ?_⟩
      have hsame := hfound hsome
      exact (hfound' (hsame ▸ hsome)).trans hsame

/-- What a library remembers is what one search of its present directory has found: a search that a
request made, since when the library has not been pointed elsewhere. -/
def FoundBySearch (start : Session) (steps : List Step) : Prop :=
  ∃ early request late, steps = early ++ .ask request :: late ∧ request.searches = true ∧
    (∀ step ∈ late, step.Keeps) ∧
    discover (start.run early).disk (start.run steps).library.gamesRoot =
      .ok (start.run steps).library.found

theorem FoundBySearch.concat {start : Session} {steps : List Step} {step : Step}
    (h : FoundBySearch start steps) (hkeeps : step.Keeps)
    (hlibrary : ((start.run steps).step step).library = (start.run steps).library) :
    FoundBySearch start (steps ++ [step]) := by
  obtain ⟨early, request, late, rfl, hsearches, hlate, hdiscover⟩ := h
  refine ⟨early, request, late ++ [step], by simp, hsearches, ?_, ?_⟩
  · intro next hnext
    obtain hnext | hnext := List.mem_append.mp hnext
    · exact hlate next hnext
    · exact List.mem_singleton.mp hnext ▸ hkeeps
  · rw [run_concat, hlibrary]
    exact hdiscover

theorem run_found {start : Session} (hnew : start.library.found = []) (steps : List Step) :
    (start.run steps).library.found = [] ∨ FoundBySearch start steps := by
  induction steps using List.reverseRecOn with
  | nil => exact .inl hnew
  | append_singleton steps step ih =>
      obtain ⟨-, hforgotten⟩ | ⟨hkeeps, hsame⟩ |
        ⟨request, found, rfl, hsearches, -, hdiscover, hlibrary⟩ := (start.run steps).step_cases step
      · rw [run_concat]
        exact .inl hforgotten
      · obtain hnothing | hfound := ih
        · rw [run_concat, hsame]
          exact .inl hnothing
        · exact .inr (hfound.concat hkeeps hsame)
      · refine .inr ⟨steps, request, [], rfl, hsearches, nofun, ?_⟩
        rw [run_concat, hlibrary]
        exact hdiscover

/-- A search that finds nothing, or that fails, is not remembered. -/
theorem step_of_nothing {session : Session} {step : Step} (hkeeps : step.Keeps)
    (h : ∀ games, session.games = .ok games → games = []) :
    (session.step step).library = session.library := by
  obtain ⟨hnot, -⟩ | ⟨-, hsame⟩ | ⟨-, found, -, -, hnothing, hdiscover, hlibrary⟩ :=
    session.step_cases step
  · exact absurd hkeeps hnot
  · exact hsame
  · have hempty : found = [] := h found ((games_of_nothing hnothing).trans hdiscover)
    rw [hlibrary, hempty, ← hnothing]

/-- Once a library has answered from some games, it remembers them until it is pointed elsewhere. -/
theorem found_after_ask {session : Session} {request : Library.Request} {found : List GameEntry}
    {later : List Step} (hsearches : request.searches = true) (hgames : session.games = .ok found)
    (hsome : found ≠ []) (hlater : ∀ step ∈ later, step.Keeps) :
    (session.run (.ask request :: later)).library.found = found := by
  have hfound : (session.step (.ask request)).library.found = found := by
    rw [library_ask hsearches, hgames]
  have hkept := (run_keeps hlater).2.2 (hfound ▸ hsome)
  exact hkept.trans hfound

end Session

/-! ### What is read anew -/

namespace Library

variable {disk : Disk} {library : Library}

theorem readGame_eq_ok {path : String} {game : Game} :
    readGame disk path = .ok game ↔
      ∃ text, disk.text? path = some text ∧ (Json.parse text).read Game.read = .ok game := by
  unfold readGame
  cases disk.text? path with
  | none => simp
  | some text => cases hread : (Json.parse text).read Game.read <;> simp [hread]

theorem readNamed_eq_ok {name : String} {games : List GameEntry} {game : Game} :
    readNamed disk name games = .ok game ↔
      ∃ entry, games.find? (·.goesBy name) = some entry ∧ readGame disk entry.path = .ok game := by
  unfold readNamed
  cases games.find? (·.goesBy name) <;> simp

theorem game_eq_ok {name : String} {game : Game} :
    library.game disk name = .ok game ↔
      ∃ found entry, library.games disk = .ok found ∧ found.find? (·.goesBy name) = some entry ∧
        readGame disk entry.path = .ok game := by
  unfold Library.game
  simp only [bind_eq_ok, readNamed_eq_ok]
  constructor
  · rintro ⟨found, hfound, entry, hentry, hgame⟩
    exact ⟨found, entry, hfound, hentry, hgame⟩
  · rintro ⟨found, entry, hfound, hentry, hgame⟩
    exact ⟨found, hfound, entry, hentry, hgame⟩

theorem tiles_eq_ok {catalog : Catalog} :
    library.tiles disk = .ok catalog ↔
      ∃ text, disk.text? library.tilesPath = some text ∧
        (Json.parse text).read Catalog.read = .ok catalog := by
  unfold Library.tiles
  cases disk.text? library.tilesPath with
  | none => simp
  | some text => cases hread : (Json.parse text).read Catalog.read <;> simp [hread]

end Library

/-- A library that has found nothing yet, at any moment of any run. What it remembers comes from one
search. Its paths stay as they are, and what it has once answered is answered again, whatever becomes of
the disk, until it is pointed elsewhere; a search without games leaves no trace. Only the list of games is
remembered: a game and the catalog are read from the disk as it is now. -/
theorem Session.run_remembers (start : Session) (hnew : start.library.found = [])
    (steps : List Step) :
    let now := start.run steps
    (now.library.found = [] ∨ FoundBySearch start steps) ∧
      (now.library.found = [] → now.games = discover now.disk now.library.gamesRoot) ∧
      (∀ later, (∀ step ∈ later, step.Keeps) →
        (now.run later).library.gamesRoot = now.library.gamesRoot ∧
          (now.run later).library.tilesPath = now.library.tilesPath) ∧
      (∀ request found later, request.searches = true → now.games = .ok found → found ≠ [] →
        (∀ step ∈ later, step.Keeps) → (now.run (.ask request :: later)).AnswersFrom found) ∧
      ((∀ found, now.games = .ok found → found = []) →
        ∀ step : Step, step.Keeps → (now.step step).library = now.library) ∧
      (∀ name game, now.library.game now.disk name = .ok game ↔
        ∃ found entry, now.games = .ok found ∧ found.find? (·.goesBy name) = some entry ∧
          ∃ text, now.disk.text? entry.path = some text ∧
            (Json.parse text).read Game.read = .ok game) ∧
      ∀ catalog, now.library.tiles now.disk = .ok catalog ↔
        ∃ text, now.disk.text? now.library.tilesPath = some text ∧
          (Json.parse text).read Catalog.read = .ok catalog := by
  intro now
  refine ⟨run_found hnew steps, games_of_nothing, fun later hlater => ?_,
    fun request found later hsearches hgames hsome hlater => ?_,
    fun hnone step hkeeps => step_of_nothing hkeeps hnone, fun name game => ?_,
    fun catalog => Library.tiles_eq_ok⟩
  · obtain ⟨hgames, htiles, -⟩ := @run_keeps now later hlater
    exact ⟨hgames, htiles⟩
  · have hfound := found_after_ask hsearches hgames hsome hlater
    apply answersFrom
    rw [games_of_found (by rwa [hfound]), hfound]
  · rw [Library.game_eq_ok]
    simp only [Library.readGame_eq_ok]
    rfl

/-- A games directory with one definition in it. -/
def shelf : Disk where
  entries := .ofList [(["games"], .directory), (["games", "a.json"], .file "{}".toUTF8)]

/-- The disk is emptied after the games have been asked for: the game is listed still, but cannot be
read. -/
theorem Session.run_remembers_emptied :
    let now := Session.run ⟨shelf, { gamesRoot := "games", tilesPath := "tiles.json" }⟩
      [.ask .games, .change {}]
    now.games = .ok [⟨"a", none, "games/a.json"⟩] ∧
      now.library.game now.disk "A" = .error (.unreadableGame "games/a.json") := by
  let start : Session := ⟨shelf, { gamesRoot := "games", tilesPath := "tiles.json" }⟩
  have hfound : discover shelf "games" = .ok [⟨"a", none, "games/a.json"⟩] := by rfl
  have hgames : start.games = .ok _ := (games_of_nothing rfl).trans hfound
  obtain ⟨-, -, -, hrepeated, -⟩ := Session.run_remembers start rfl []
  obtain ⟨hagain, -, hgame⟩ := hrepeated .games _ [.change {}] rfl hgames (by simp) (by simp [Step.Keeps])
  exact ⟨hagain, (hgame "A").trans (by rfl)⟩

end Rail18
