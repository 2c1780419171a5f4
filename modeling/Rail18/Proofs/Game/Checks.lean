import Mathlib.Data.List.TakeWhile
import Rail18.Proofs.Amount
import Rail18.Proofs.Game.Board
import Rail18.Proofs.Game.Compiled

/-!
# What keeps a game from compiling

A game has a list of fields to be checked, each looked at by itself. Compiling it goes through them in
order: the first fault is the failure, and without a fault there is a compiled game. That copies among
the hexes are followed through JSON adds no failure of its own, since laying one hex over another always
succeeds.
-/

namespace Rail18

/-- A field that has to be in order, with what is wrong with it, if anything is. -/
structure Check where
  field : String
  fault : Option Malformed

def faultOf {α : Type} : Except Malformed α → Option Malformed
  | .ok _ => none
  | .error cause => some cause

/-- A result is decided by checks: it fails with their first fault and succeeds if they have none. -/
structure Decided {ε α : Type} (fail : Malformed → ε) (checks : List Check) (result : Except ε α) :
    Prop where
  fails : ∀ cause, checks.findSome? Check.fault = some cause → result = .error (fail cause)
  succeeds : checks.findSome? Check.fault = none → ∃ value, result = .ok value

/-! ### The checks of a game -/

def Amount.check (unlimited : Option Int64) (field : String) (amount : Amount) : Check where
  field
  fault := faultOf (amount.resolve field unlimited)

def Count.check (tables : Tables) (field : String) (count : Count) : Check where
  field
  fault := faultOf (count.resolve field tables.unlimitedQuantity)

/-- What is declared for the whole game is checked, and otherwise what is declared for each number of
players. -/
def Term.checks (tables : Tables) (game : Game) (term : Term) : List Check :=
  match term.ofGame game with
  | some amount => [amount.check (term.unlimited tables) term.field]
  | none => game.players.filterMap fun player =>
      (term.ofPlayer player).map (Amount.check (term.unlimited tables) (term.playerField player))

/-- The check of a tile whose quantity is declared, whether the tile is broken or not. -/
def tileCheck (tables : Tables) (entry : String × Quantity) : Option Check :=
  entry.2.spec.quantity.map (Count.check tables (tileField entry.1))

def Train.check (tables : Tables) (train : Train) : Option Check :=
  train.quantity.map (Count.check tables train.quantityField)

namespace Game

def titleCheck (game : Game) : Check where
  field := "info.title"
  fault :=
    if (game.info.bind (·.title)).any fun title => title.toList.any (!Text.isBlank ·) then none
    else some .noTitle

/-- The map of a variation has to be there, and to declare hexes or to copy another map. -/
def boardChecks (variation : Nat) (game : Game) : List Check :=
  match game.boards with
  | none => []
  | some boards =>
    let selected := boards.selected variation
    match boards.list[selected]? with
    | none => [⟨"map", some (.noVariation selected boards.list.length)⟩]
    | some board =>
      [⟨s!"map[{selected}].hexes",
        if board.hexes.isNone && board.copy.isNone then some (.noHexes selected) else none⟩]

/-- All that is checked of a game: title, map, bank, certificate limit, capital, tiles by ascending id
and trains in their order. -/
def checks (tables : Tables) (variation : Nat) (game : Game) : List Check :=
  [[game.titleCheck], game.boardChecks variation, Term.bank.checks tables game,
    Term.certLimit.checks tables game, Term.capital.checks tables game,
    game.tiles.entries.filterMap (tileCheck tables), game.trains.filterMap (Train.check tables)].flatten

/-- A game is sound for a variation: the title is not blank, the map is there and has hexes, and every
amount and count that is needed is one. -/
structure Sound (tables : Tables) (variation : Nat) (game : Game) : Prop where
  title : ∃ title, game.info.bind (·.title) = some title ∧ ∃ c ∈ title.toList, Text.isBlank c = false
  map : ∀ boards, game.boards = some boards →
    ∃ board, boards.list[boards.selected variation]? = some board ∧
      (board.hexes ≠ none ∨ board.copy ≠ none)
  scalar : ∀ (term : Term) amount, term.ofGame game = some amount →
    ∃ value, amount.resolve term.field (term.unlimited tables) = .ok value
  players : ∀ term : Term, term.ofGame game = none → ∀ player ∈ game.players,
    ∀ amount, term.ofPlayer player = some amount →
      ∃ value, amount.resolve (term.playerField player) (term.unlimited tables) = .ok value
  tiles : ∀ id quantity, (id, quantity) ∈ game.tiles.entries →
    ∀ count, quantity.spec.quantity = some count →
      ∃ number, count.resolve (tileField id) tables.unlimitedQuantity = .ok number
  trains : ∀ train ∈ game.trains, ∀ count, train.quantity = some count →
    ∃ number, count.resolve train.quantityField tables.unlimitedQuantity = .ok number

end Game

/-! ### Faults -/

theorem faultOf_eq_none {α : Type} {result : Except Malformed α} :
    faultOf result = none ↔ ∃ value, result = .ok value := by
  cases result <;> simp [faultOf]

theorem faultOf_eq_some {α : Type} {result : Except Malformed α} {cause : Malformed} :
    faultOf result = some cause ↔ result = .error cause := by
  cases result <;> simp [faultOf]

/-! ### Decisions -/

namespace Decided

variable {ε α β : Type} {fail : Malformed → ε} {checks first rest : List Check}

theorem ok (value : α) : Decided fail [] (.ok value) where
  fails := by simp
  succeeds _ := ⟨value, rfl⟩

theorem bind {result : Except ε α} {next : α → Except ε β} (h : Decided fail first result)
    (hnext : ∀ value, Decided fail rest (next value)) :
    Decided fail (first ++ rest) (result >>= next) := by
  cases hfirst : first.findSome? Check.fault with
  | some cause =>
      have hresult := h.fails cause hfirst
      constructor
      · intro found hfound
        rw [List.findSome?_append, hfirst, Option.some_or] at hfound
        obtain rfl := Option.some.inj hfound
        rw [hresult]
        rfl
      · intro hnone
        rw [List.findSome?_append, hfirst] at hnone
        cases hnone
  | none =>
      obtain ⟨value, rfl⟩ := h.succeeds hfirst
      constructor
      · intro found hfound
        rw [List.findSome?_append, hfirst, Option.none_or] at hfound
        exact (hnext value).fails found hfound
      · intro hnone
        rw [List.findSome?_append, hfirst, Option.none_or] at hnone
        exact (hnext value).succeeds hnone

theorem map {result : Except ε α} (f : α → β) (h : Decided fail checks result) :
    Decided fail checks (result >>= fun value => .ok (f value)) := by
  rw [← List.append_nil checks]
  exact h.bind fun value => .ok (f value)

theorem orMalformed {result : Except Malformed α} (h : Decided id checks result) :
    Decided .malformed checks (orMalformed result) where
  fails cause hcause := by
    rw [h.fails cause hcause]
    rfl
  succeeds hnone := by
    obtain ⟨value, rfl⟩ := h.succeeds hnone
    exact ⟨value, rfl⟩

theorem ofResult (field : String) (result : Except Malformed α) :
    Decided id [⟨field, faultOf result⟩] result := by
  cases result with
  | ok value => exact ⟨by simp [faultOf], fun _ => ⟨value, rfl⟩⟩
  | error cause =>
      refine ⟨fun found hfound => ?_, by simp [faultOf]⟩
      obtain rfl : cause = found := by simpa [faultOf] using hfound
      rfl

theorem ofError (field : String) (cause : Malformed) :
    Decided fail [⟨field, some cause⟩] (.error (fail cause) : Except ε α) where
  fails found hfound := by
    obtain rfl : cause = found := by simpa using hfound
    rfl
  succeeds hnone := by simp at hnone

theorem eq_error_iff {result : Except Malformed α} (h : Decided id checks result) {cause : Malformed} :
    result = .error cause ↔ checks.findSome? Check.fault = some cause := by
  refine ⟨fun herror => ?_, h.fails cause⟩
  cases hfirst : checks.findSome? Check.fault with
  | none =>
      obtain ⟨value, hvalue⟩ := h.succeeds hfirst
      cases herror.symm.trans hvalue
  | some found => exact congrArg some (Except.error.inj ((h.fails found hfirst).symm.trans herror))

theorem ofSuccess (field : String) {result : Except ε α} (h : ∃ value, result = .ok value) :
    Decided fail [⟨field, none⟩] result where
  fails := by simp
  succeeds _ := h

end Decided

/-! ### Each part is decided by its checks -/

namespace Game

theorem title_decided (game : Game) : Decided id [game.titleCheck] game.title := by
  have hcheck : game.titleCheck = ⟨"info.title", faultOf game.title⟩ := by
    unfold Game.titleCheck Game.title
    cases game.info.bind (·.title) with
    | none => rfl
    | some title =>
        by_cases hblank : ∃ c ∈ title.toList, Text.isBlank c = false
        · have htrim : Text.trim title.toList ≠ [] := by
            simpa [Text.trim_eq_nil_iff] using hblank
          simp [htrim, faultOf, hblank]
        · have htrim : Text.trim title.toList = [] := by
            simpa [Text.trim_eq_nil_iff] using hblank
          simp [htrim, faultOf, hblank]
  rw [hcheck]
  exact .ofResult _ _

theorem resolveHexes_decided (game : Game) (variation : Nat) :
    Decided .malformed (game.boardChecks variation) (game.resolveHexes variation) := by
  unfold Game.boardChecks
  cases hboards : game.boards with
  | none =>
      rw [Game.resolveHexes, hboards]
      exact .ok []
  | some boards =>
      cases hboard : boards.list[boards.selected variation]? with
      | none =>
          have herror : game.resolveHexes variation =
              .error (.malformed (.noVariation (boards.selected variation) boards.list.length)) := by
            simp only [Game.resolveHexes, hboards, Boards.declared, hboard]
            rfl
          simp only [hboard, herror]
          exact .ofError _ _
      | some board =>
          simp only [hboard]
          by_cases hnothing : board.hexes = none ∧ board.copy = none
          · have herror : game.resolveHexes variation =
                .error (.malformed (.noHexes (boards.selected variation))) := by
              simp only [Game.resolveHexes, hboards, Boards.declared, hboard, Board.own, hnothing.1,
                hnothing.2]
              rfl
            simp only [hnothing.1, hnothing.2, herror]
            exact .ofError _ _
          · have hdeclares : (board.hexes.isNone && board.copy.isNone) = false := by
              cases hhexes : board.hexes with
              | some hexes => rfl
              | none =>
                  cases hcopy : board.copy with
                  | some copy => rfl
                  | none => exact absurd ⟨hhexes, hcopy⟩ hnothing
            -- Following the copies among the hexes does not fail, so there is nothing more to check.
            obtain ⟨resolved, hresolved, -⟩ := Game.exists_resolveHexes hboards hboard hnothing
            simp only [hdeclares]
            exact .ofSuccess _ ⟨resolved, hresolved⟩

end Game

theorem Term.table_decided (term : Term) (tables : Tables) (players : List Player)
    (settled : Dict UInt32 Int64) :
    Decided id (players.filterMap fun player =>
      (term.ofPlayer player).map (Amount.check (term.unlimited tables) (term.playerField player)))
      (term.table tables players settled) := by
  induction players generalizing settled with
  | nil => exact .ok settled
  | cons player rest ih =>
      rw [Term.table, List.filterMap_cons]
      cases term.ofPlayer player with
      | none => exact ih settled
      | some amount => exact (Decided.ofResult _ _).bind fun value => ih _

theorem Term.resolve_decided (term : Term) (tables : Tables) (game : Game) :
    Decided id (term.checks tables game) (term.resolve tables game) := by
  unfold Term.checks Term.resolve
  cases term.ofGame game with
  | some amount => exact (Decided.ofResult _ _).map PlayerValue.scalar
  | none => exact (term.table_decided tables game.players .empty).map PlayerValue.perPlayer

theorem filterMap_cons_eq {α β : Type} (f : α → Option β) (item : α) (rest : List α) :
    (item :: rest).filterMap f = (f item).toList ++ rest.filterMap f := by
  rw [List.filterMap_cons]
  cases f item <;> rfl

theorem tileQuantity_decided (tables : Tables) (catalog : Option Catalog) (entry : String × Quantity) :
    Decided id (tileCheck tables entry).toList (tileQuantity tables catalog entry.1 entry.2) := by
  have hresolve : Decided id (tileCheck tables entry).toList
      (entry.2.resolve (tileField entry.1) tables) := by
    unfold Quantity.resolve tileCheck
    cases entry.2.spec.quantity with
    | none => exact .ok 1
    | some count => exact .ofResult _ _
  rw [tileQuantity, ← List.append_nil (tileCheck tables entry).toList]
  -- The count is resolved before the tile may be left out, so neither flag makes a difference.
  refine hresolve.bind fun number => ?_
  dsimp only
  split
  · exact .ok none
  · exact .ok (some _)

theorem tileQuantities_decided (tables : Tables) (catalog : Option Catalog)
    (entries : List (String × Quantity)) :
    Decided id (entries.filterMap (tileCheck tables)) (tileQuantities tables catalog entries) := by
  induction entries with
  | nil => exact .ok []
  | cons entry rest ih =>
      rw [filterMap_cons_eq, tileQuantities]
      exact (tileQuantity_decided tables catalog entry).bind fun first => ih.map (first.toList ++ ·)

theorem compileTrains_decided (tables : Tables) (trains : List Train) :
    Decided id (trains.filterMap (Train.check tables)) (compileTrains tables trains) := by
  induction trains with
  | nil => exact .ok []
  | cons train rest ih =>
      have htrain : Decided id (train.check tables).toList (train.compile tables) := by
        have hnumber : Decided id (train.check tables).toList (train.number tables) := by
          unfold Train.number Train.check
          cases train.quantity with
          | none => exact .ok none
          | some count =>
              exact (Decided.ofResult train.quantityField (count.resolve _ _)).map some
        exact hnumber.map _
      rw [filterMap_cons_eq, compileTrains]
      exact htrain.bind fun first => ih.map (first :: ·)

theorem Game.compile_decided (tables : Tables) (catalog : Option Catalog) (game : Game)
    (variation : Nat) :
    Decided .malformed (game.checks tables variation) (game.compile tables catalog variation) := by
  rw [Game.compile]
  -- One step for each block of checks, in the order in which both are put together.
  refine game.title_decided.orMalformed.bind fun title => ?_
  refine (game.resolveHexes_decided variation).bind fun hexes => ?_
  refine (Term.bank.resolve_decided tables game).orMalformed.bind fun bank => ?_
  refine (Term.certLimit.resolve_decided tables game).orMalformed.bind fun certLimit => ?_
  refine (Term.capital.resolve_decided tables game).orMalformed.bind fun startingCash => ?_
  refine (tileQuantities_decided tables catalog game.tiles.entries).orMalformed.bind fun tiles => ?_
  exact (compileTrains_decided tables game.trains).orMalformed.bind fun trains => .ok _

/-! ### What the checks ask for -/

/-- A check names a fault by its own field. -/
def Check.NamesField (check : Check) : Prop := ∀ cause, check.fault = some cause → cause.field = check.field

theorem Amount.check_namesField (unlimited : Option Int64) (field : String) (amount : Amount) :
    (amount.check unlimited field).NamesField := fun _ hcause =>
  Amount.field_of_resolve (faultOf_eq_some.mp hcause)

theorem Count.check_namesField (tables : Tables) (field : String) (count : Count) :
    (count.check tables field).NamesField := fun _ hcause =>
  Count.field_of_resolve (faultOf_eq_some.mp hcause)

section Fields

variable {tables : Tables} {game : Game} {variation : Nat}

theorem Term.mem_checks {term : Term} {check : Check} :
    check ∈ term.checks tables game ↔
      (∃ amount, term.ofGame game = some amount ∧
        check = amount.check (term.unlimited tables) term.field) ∨
      (term.ofGame game = none ∧ ∃ player ∈ game.players, ∃ amount, term.ofPlayer player = some amount ∧
        check = amount.check (term.unlimited tables) (term.playerField player)) := by
  unfold Term.checks
  cases term.ofGame game with
  | some amount => simp
  | none => simp [eq_comm]

theorem mem_tileChecks {check : Check} :
    check ∈ game.tiles.entries.filterMap (tileCheck tables) ↔
      ∃ entry ∈ game.tiles.entries, ∃ count, entry.2.spec.quantity = some count ∧
        check = count.check tables (tileField entry.1) := by
  simp [tileCheck, eq_comm]

theorem mem_trainChecks {check : Check} :
    check ∈ game.trains.filterMap (Train.check tables) ↔
      ∃ train ∈ game.trains, ∃ count, train.quantity = some count ∧
        check = count.check tables train.quantityField := by
  simp [Train.check, eq_comm]

namespace Game

theorem mem_checks {check : Check} :
    check ∈ game.checks tables variation ↔
      check = game.titleCheck ∨ check ∈ game.boardChecks variation ∨
        (∃ term : Term, check ∈ term.checks tables game) ∨
        check ∈ game.tiles.entries.filterMap (tileCheck tables) ∨
        check ∈ game.trains.filterMap (Train.check tables) := by
  have hterms : (∃ term : Term, check ∈ term.checks tables game) ↔
      check ∈ Term.bank.checks tables game ∨ check ∈ Term.certLimit.checks tables game ∨
        check ∈ Term.capital.checks tables game := by
    constructor
    · rintro ⟨term, hterm⟩
      cases term with
      | bank => exact .inl hterm
      | certLimit => exact .inr (.inl hterm)
      | capital => exact .inr (.inr hterm)
    · rintro (hterm | hterm | hterm)
      · exact ⟨.bank, hterm⟩
      · exact ⟨.certLimit, hterm⟩
      · exact ⟨.capital, hterm⟩
  rw [hterms, Game.checks]
  simp only [List.flatten_cons, List.flatten_nil, List.append_nil, List.mem_append,
    List.mem_singleton, or_assoc]

theorem titleCheck_fault_eq_none :
    game.titleCheck.fault = none ↔
      ∃ title, game.info.bind (·.title) = some title ∧ ∃ c ∈ title.toList, Text.isBlank c = false := by
  unfold Game.titleCheck
  cases game.info.bind (·.title) with
  | none => simp
  | some title => simp

theorem boardChecks_fault_eq_none :
    (∀ check ∈ game.boardChecks variation, check.fault = none) ↔
      ∀ boards, game.boards = some boards →
        ∃ board, boards.list[boards.selected variation]? = some board ∧
          (board.hexes ≠ none ∨ board.copy ≠ none) := by
  unfold Game.boardChecks
  cases game.boards with
  | none => simp
  | some boards =>
      cases hboard : boards.list[boards.selected variation]? with
      | none => simp [hboard]
      | some board =>
          cases hhexes : board.hexes <;> cases hcopy : board.copy <;> simp [hboard, hhexes, hcopy]

theorem namesField_of_mem_checks {check : Check} (h : check ∈ game.checks tables variation) :
    check.NamesField := by
  rcases mem_checks.mp h with rfl | hboard | ⟨term, hterm⟩ | htile | htrain
  · intro cause hcause
    unfold Game.titleCheck at hcause
    split at hcause
    · cases hcause
    · cases hcause
      rfl
  · unfold Game.boardChecks at hboard
    split at hboard
    · cases hboard
    · dsimp only at hboard
      split at hboard
      · obtain rfl := List.mem_singleton.mp hboard
        rintro cause ⟨⟩
        rfl
      · obtain rfl := List.mem_singleton.mp hboard
        intro cause hcause
        dsimp only at hcause
        split at hcause
        · cases hcause
          rfl
        · cases hcause
  · rcases Term.mem_checks.mp hterm with ⟨amount, -, rfl⟩ | ⟨-, player, -, amount, -, rfl⟩
    · exact amount.check_namesField _ _
    · exact amount.check_namesField _ _
  · obtain ⟨entry, -, count, -, rfl⟩ := mem_tileChecks.mp htile
    exact count.check_namesField _ _
  · obtain ⟨train, -, count, -, rfl⟩ := mem_trainChecks.mp htrain
    exact count.check_namesField _ _

theorem sound_iff :
    game.Sound tables variation ↔ ∀ check ∈ game.checks tables variation, check.fault = none := by
  constructor
  · intro h check hcheck
    rcases mem_checks.mp hcheck with rfl | hboard | ⟨term, hterm⟩ | htile | htrained
    · exact titleCheck_fault_eq_none.mpr h.title
    · exact boardChecks_fault_eq_none.mpr h.map check hboard
    · rcases Term.mem_checks.mp hterm with ⟨amount, hamount, rfl⟩ |
        ⟨hscalar, player, hplayer, amount, hamount, rfl⟩
      · exact faultOf_eq_none.mpr (h.scalar term amount hamount)
      · exact faultOf_eq_none.mpr (h.players term hscalar player hplayer amount hamount)
    · obtain ⟨entry, hentry, count, hcount, rfl⟩ := mem_tileChecks.mp htile
      exact faultOf_eq_none.mpr (h.tiles entry.1 entry.2 hentry count hcount)
    · obtain ⟨train, htrain, count, hcount, rfl⟩ := mem_trainChecks.mp htrained
      exact faultOf_eq_none.mpr (h.trains train htrain count hcount)
  · intro h
    have hterm (term : Term) (check : Check) (hcheck : check ∈ term.checks tables game) :
        check.fault = none := h check (mem_checks.mpr (.inr (.inr (.inl ⟨term, hcheck⟩))))
    constructor
    · exact titleCheck_fault_eq_none.mp (h _ (mem_checks.mpr (.inl rfl)))
    · exact boardChecks_fault_eq_none.mp fun check hcheck => h check (mem_checks.mpr (.inr (.inl hcheck)))
    · intro term amount hamount
      exact faultOf_eq_none.mp (hterm term _ (Term.mem_checks.mpr (.inl ⟨amount, hamount, rfl⟩)))
    · intro term hscalar player hplayer amount hamount
      exact faultOf_eq_none.mp (hterm term _
        (Term.mem_checks.mpr (.inr ⟨hscalar, player, hplayer, amount, hamount, rfl⟩)))
    · intro id quantity hentry count hcount
      exact faultOf_eq_none.mp (h _ (mem_checks.mpr (.inr (.inr (.inr (.inl
        (mem_tileChecks.mpr ⟨(id, quantity), hentry, count, hcount, rfl⟩)))))))
    · intro train htrain count hcount
      exact faultOf_eq_none.mp (h _ (mem_checks.mpr (.inr (.inr (.inr (.inr
        (mem_trainChecks.mpr ⟨train, htrain, count, hcount, rfl⟩)))))))

end Game

end Fields

/-- A game compiles exactly if it is sound. Otherwise the definition is malformed, and the failure is the
fault of the first check that finds one, told under the field that is checked. -/
theorem Game.compile_outcome (tables : Tables) (catalog : Option Catalog) (game : Game)
    (variation : Nat) :
    ((∃ compiled, game.compile tables catalog variation = .ok compiled) ↔ game.Sound tables variation) ∧
      ∀ error, game.compile tables catalog variation = .error error ↔
        ∃ passed check rest cause, game.checks tables variation = passed ++ check :: rest ∧
          (∀ earlier ∈ passed, earlier.fault = none) ∧ check.fault = some cause ∧
          cause.field = check.field ∧ error = .malformed cause := by
  have hdecided := game.compile_decided tables catalog variation
  rw [Game.sound_iff, ← List.findSome?_eq_none_iff]
  cases hfault : (game.checks tables variation).findSome? Check.fault with
  | none =>
      obtain ⟨compiled, hcompiled⟩ := hdecided.succeeds hfault
      refine ⟨⟨fun _ => rfl, fun _ => ⟨compiled, hcompiled⟩⟩, fun error => ⟨fun herror => ?_, ?_⟩⟩
      · cases hcompiled.symm.trans herror
      · rintro ⟨passed, check, rest, cause, hchecks, -, hcause, -⟩
        rw [List.findSome?_eq_none_iff] at hfault
        have hnone := hfault check (by simp [hchecks])
        cases hnone.symm.trans hcause
  | some cause =>
      have hfails := hdecided.fails cause hfault
      refine ⟨⟨?_, fun h => by cases h⟩, fun error => ⟨fun herror => ?_, ?_⟩⟩
      · rintro ⟨compiled, hcompiled⟩
        cases hfails.symm.trans hcompiled
      · obtain ⟨passed, check, rest, hchecks, hcause, hpassed⟩ := List.findSome?_eq_some_iff.mp hfault
        have hmem : check ∈ game.checks tables variation := by simp [hchecks]
        refine ⟨passed, check, rest, cause, hchecks, hpassed, hcause,
          Game.namesField_of_mem_checks hmem cause hcause, ?_⟩
        exact Except.error.inj (herror.symm.trans hfails)
      · rintro ⟨passed, check, rest, other, hchecks, hpassed, hother, -, rfl⟩
        have hsame : (game.checks tables variation).findSome? Check.fault = some other :=
          List.findSome?_eq_some_iff.mpr ⟨passed, check, rest, hchecks, hother, hpassed⟩
        obtain rfl := Option.some.inj (hfault.symm.trans hsame)
        exact hfails

/-- A tile that is left out as broken fails a game all the same when its quantity is none. -/
example :
    ({ info := some { title := some "18Broken" }
       tiles := .ofList [("8", .detailed { quantity := some (.text "lots"), broken := true })] } :
        Game).compile .standard none 0 =
      .error (.malformed (.notQuantity "tiles.8" "lots")) := rfl

end Rail18
