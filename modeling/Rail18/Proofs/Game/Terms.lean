import Rail18.Proofs.Dict
import Rail18.Proofs.Game.Checks

/-!
# What the terms of a game resolve to

A term that is declared for the whole game is settled by that alone. Otherwise the entries for the numbers
of players are gone through in order: the first amount that does not resolve is the failure, and without
one there is a table in which each number of players has the value of the last entry that declares the term
for it.
-/

namespace Rail18

/-- An amount that is the infinity marker. -/
def Amount.IsUnlimited (amount : Amount) : Prop :=
  ∃ written, amount = .text written ∧ Text.Stripped Text.isBlank written.toList infinityMarker

theorem Amount.resolve_of_isUnlimited {amount : Amount} (h : amount.IsUnlimited) (field : String)
    (unlimited : Option Int64) :
    amount.resolve field unlimited =
      match unlimited with
      | some value => .ok value
      | none => .error (.notLimited field) := by
  obtain ⟨written, rfl, hstripped⟩ := h
  cases unlimited <;> simp only [resolve, hstripped.trim_eq, if_true]

namespace Term

variable {term : Term} {tables : Tables} {players : List Player} {player : Player} {amount : Amount}

/-- What is declared in an entry for a number of players resolves to a value. -/
def Gives (term : Term) (tables : Tables) (player : Player) (amount : Amount) (value : Int64) : Prop :=
  term.ofPlayer player = some amount ∧
    amount.resolve (term.playerField player) (term.unlimited tables) = .ok value

/-- What is declared in an entry for a number of players does not resolve. -/
def Breaks (term : Term) (tables : Tables) (player : Player) (cause : Malformed) : Prop :=
  ∃ amount, term.ofPlayer player = some amount ∧
    amount.resolve (term.playerField player) (term.unlimited tables) = .error cause

/-- The first entry of several whose amount does not resolve. -/
def BreaksFirst (term : Term) (tables : Tables) (players : List Player) (player : Player)
    (cause : Malformed) : Prop :=
  ∃ before after, players = before ++ player :: after ∧ term.Breaks tables player cause ∧
    ∀ earlier ∈ before, ∀ other, ¬ term.Breaks tables earlier other

/-- An entry that declares a term, with no entry after it that declares the term for its number of
players. -/
def DeclaredLast (term : Term) (players : List Player) (player : Player) (amount : Amount) : Prop :=
  term.ofPlayer player = some amount ∧ ∃ before after, players = before ++ player :: after ∧
    ∀ later ∈ after, later.number = player.number → term.ofPlayer later = none

/-! ### The first fault -/

theorem table_eq_error_iff {settled : Dict UInt32 Int64} {cause : Malformed} :
    term.table tables players settled = .error cause ↔
      ∃ player, term.BreaksFirst tables players player cause := by
  have hbreaks (player : Player) (cause : Malformed) : ((term.ofPlayer player).map
      (Amount.check (term.unlimited tables) (term.playerField player))).bind Check.fault = some cause ↔
        term.Breaks tables player cause := by
    rw [Option.bind_map, Option.bind_eq_some_iff]
    exact exists_congr fun amount => and_congr_right fun _ => faultOf_eq_some
  rw [(term.table_decided tables players settled).eq_error_iff, ← List.head?_filterMap,
    List.filterMap_filterMap, List.head?_filterMap, List.findSome?_eq_some_iff]
  simp only [Option.eq_none_iff_forall_ne_some, ne_eq, hbreaks]
  constructor
  · rintro ⟨before, player, after, hplayers, hcause, hbefore⟩
    exact ⟨player, before, after, hplayers, hcause, hbefore⟩
  · rintro ⟨player, before, after, hplayers, hcause, hbefore⟩
    exact ⟨before, player, after, hplayers, hcause, hbefore⟩

theorem exists_breaksFirst_iff :
    (∃ player cause, term.BreaksFirst tables players player cause) ↔
      ∃ player ∈ players, ∃ cause, term.Breaks tables player cause := by
  constructor
  · rintro ⟨player, cause, before, after, rfl, hbreaks, -⟩
    exact ⟨player, by simp, cause, hbreaks⟩
  · rintro ⟨player, hplayer, cause, hbreaks⟩
    induction players with
    | nil => cases hplayer
    | cons first rest ih =>
        by_cases hfirst : ∃ cause, term.Breaks tables first cause
        · obtain ⟨cause, hfirst⟩ := hfirst
          exact ⟨first, cause, [], rest, rfl, hfirst, nofun⟩
        · rcases List.mem_cons.mp hplayer with rfl | hplayer
          · exact absurd ⟨cause, hbreaks⟩ hfirst
          · obtain ⟨found, cause, before, after, rfl, hfound, hbefore⟩ := ih hplayer
            exact ⟨found, cause, first :: before, after, rfl, hfound,
              List.forall_mem_cons.mpr ⟨not_exists.mp hfirst, hbefore⟩⟩

theorem field_of_breaks {cause : Malformed} (h : term.Breaks tables player cause) :
    cause.field = s!"players[{player.number.toNat}].{term.field}" := by
  obtain ⟨amount, -, hcause⟩ := h
  exact Amount.field_of_resolve hcause

/-! ### The last entries -/

theorem declaredLast_cons {first : Player} (h : term.DeclaredLast (first :: players) player amount) :
    (player = first ∧ ∀ later ∈ players, later.number = first.number → term.ofPlayer later = none) ∨
      term.DeclaredLast players player amount := by
  obtain ⟨hdeclared, before, after, hplayers, hafter⟩ := h
  cases before with
  | nil =>
      obtain ⟨rfl, rfl⟩ := List.cons.inj hplayers
      exact .inl ⟨rfl, hafter⟩
  | cons other before =>
      obtain ⟨-, rfl⟩ := List.cons.inj hplayers
      exact .inr ⟨hdeclared, before, after, rfl, hafter⟩

theorem exists_declaredLast (hplayer : player ∈ players) (h : term.ofPlayer player = some amount) :
    ∃ last other, term.DeclaredLast players last other ∧ last.number = player.number := by
  induction players generalizing player amount with
  | nil => cases hplayer
  | cons first rest ih =>
      by_cases hlater : ∃ later ∈ rest, later.number = player.number ∧ term.ofPlayer later ≠ none
      · obtain ⟨later, hlater, hnumber, hdeclares⟩ := hlater
        obtain ⟨found, hfound⟩ := Option.ne_none_iff_exists'.mp hdeclares
        obtain ⟨last, other, ⟨hlast, before, after, rfl, hafter⟩, hsame⟩ := ih hlater hfound
        exact ⟨last, other, ⟨hlast, first :: before, after, rfl, hafter⟩, hsame.trans hnumber⟩
      · have hnone : ∀ later ∈ rest, later.number = player.number → term.ofPlayer later = none := by
          intro later hmem hnumber
          by_contra hdeclares
          exact hlater ⟨later, hmem, hnumber, hdeclares⟩
        rcases List.mem_cons.mp hplayer with rfl | hmem
        · exact ⟨player, amount, ⟨h, [], rest, rfl, hnone⟩, rfl⟩
        · cases h.symm.trans (hnone player hmem rfl)

/-- The first entry gives a value for its number, unless it does not declare the term; then come the others. -/
theorem table_cons_eq_ok {first : Player} {settled table : Dict UInt32 Int64} :
    term.table tables (first :: players) settled = .ok table ↔
      (term.ofPlayer first = none ∧ term.table tables players settled = .ok table) ∨
        ∃ amount value, term.Gives tables first amount value ∧
          term.table tables players (settled.insert first.number value) = .ok table := by
  rw [Term.table]
  cases hfirst : term.ofPlayer first with
  | none => simp [Gives, hfirst]
  | some amount =>
      simp only [Gives, hfirst, reduceCtorEq, false_and, false_or, Option.some.injEq, bind_eq_ok]
      constructor
      · rintro ⟨value, hvalue, htable⟩
        exact ⟨amount, value, ⟨rfl, hvalue⟩, htable⟩
      · rintro ⟨other, value, ⟨rfl, hvalue⟩, htable⟩
        exact ⟨value, hvalue, htable⟩

/-- A table that is made from entries on top of another: it has the value of the last entry that declares
the term for a number, and for a number without such an entry what was there before. -/
theorem get?_of_table {settled table : Dict UInt32 Int64}
    (h : term.table tables players settled = .ok table) :
    (∀ player amount, term.DeclaredLast players player amount →
      ∃ value, term.Gives tables player amount value ∧ table.get? player.number = some value) ∧
    ∀ number, (∀ player ∈ players, player.number = number → term.ofPlayer player = none) →
      table.get? number = settled.get? number := by
  induction players generalizing settled with
  | nil =>
      obtain rfl := Except.ok.inj h
      refine ⟨?_, fun _ _ => rfl⟩
      rintro player amount ⟨-, before, after, hplayers, -⟩
      simp at hplayers
  | cons first rest ih =>
      obtain ⟨hfirst, htable⟩ | ⟨amount, value, hgives, htable⟩ := table_cons_eq_ok.mp h
      · obtain ⟨hlast, hkept⟩ := ih htable
        refine ⟨fun player amount hdeclared => ?_, fun number hnone => ?_⟩
        · obtain ⟨rfl, -⟩ | hrest := declaredLast_cons hdeclared
          · cases hfirst.symm.trans hdeclared.1
          · exact hlast player amount hrest
        · exact hkept number fun player hplayer => hnone player (List.mem_cons_of_mem first hplayer)
      · obtain ⟨hlast, hkept⟩ := ih htable
        refine ⟨fun player other hdeclared => ?_, fun number hnone => ?_⟩
        · obtain ⟨rfl, hlater⟩ | hrest := declaredLast_cons hdeclared
          · obtain rfl := Option.some.inj (hgives.1.symm.trans hdeclared.1)
            exact ⟨value, hgives, (hkept _ hlater).trans Dict.get?_insert_self⟩
          · exact hlast player other hrest
        · have hne : number ≠ first.number := by
            rintro rfl
            cases hgives.1.symm.trans (hnone first List.mem_cons_self rfl)
          rw [hkept number fun player hplayer => hnone player (List.mem_cons_of_mem first hplayer),
            Dict.get?_insert_of_ne hne]

theorem contains_of_table {table : Dict UInt32 Int64}
    (h : term.table tables players .empty = .ok table) (number : UInt32) :
    table.contains number = true ↔
      ∃ player ∈ players, player.number = number ∧ ∃ amount, term.ofPlayer player = some amount := by
  obtain ⟨hlast, hkept⟩ := get?_of_table h
  constructor
  · intro hcontains
    by_contra hnone
    have hmissing : table.get? number = none := hkept number fun player hplayer hnumber =>
      Option.eq_none_iff_forall_ne_some.mpr fun amount hamount =>
        hnone ⟨player, hplayer, hnumber, amount, hamount⟩
    rw [Dict.contains, hmissing] at hcontains
    cases hcontains
  · rintro ⟨player, hplayer, rfl, amount, hamount⟩
    obtain ⟨last, other, hdeclared, hnumber⟩ := exists_declaredLast hplayer hamount
    obtain ⟨value, -, hvalue⟩ := hlast last other hdeclared
    rw [Dict.contains, ← hnumber, hvalue]
    rfl

/-- What a term of a game is resolved to. -/
structure Resolves (term : Term) (tables : Tables) (game : Game) (result : Except Malformed PlayerValue) :
    Prop where
  /-- What is declared for the whole game settles the term, whatever the entries for players hold. -/
  scalar : ∀ amount, term.ofGame game = some amount →
    result = (amount.resolve term.field (term.unlimited tables)).map .scalar
  fails_iff : term.ofGame game = none →
    ((∃ cause, result = .error cause) ↔
      ∃ player ∈ game.players, ∃ cause, term.Breaks tables player cause)
  error_iff : term.ofGame game = none → ∀ cause, result = .error cause ↔
    ∃ player, term.BreaksFirst tables game.players player cause ∧
      cause.field = s!"players[{player.number.toNat}].{term.field}"
  table : term.ofGame game = none → ∀ value, result = .ok value → ∃ table, value = .perPlayer table ∧
    (∀ number, table.contains number = true ↔ ∃ player ∈ game.players, player.number = number ∧
      ∃ amount, term.ofPlayer player = some amount) ∧
    ∀ player amount, term.DeclaredLast game.players player amount →
      ∃ value, term.Gives tables player amount value ∧ table.get? player.number = some value
  /-- The infinity marker is the unlimited bank for the bank, and a fault for the other terms. -/
  unlimited_scalar : ∀ amount : Amount, amount.IsUnlimited → term.ofGame game = some amount →
    result = if term = .bank then .ok (.scalar tables.unlimitedBank) else .error (.notLimited term.field)
  unlimited_player : ∀ player amount, amount.IsUnlimited → term.ofPlayer player = some amount →
    if term = .bank then term.Gives tables player amount tables.unlimitedBank
    else term.Breaks tables player (.notLimited (term.playerField player))

/-- A term is resolved by what is declared for the whole game, or else entry by entry. -/
theorem resolve_resolves (term : Term) (tables : Tables) (game : Game) :
    term.Resolves tables game (term.resolve tables game) := by
  have hscalar (amount : Amount) (hgame : term.ofGame game = some amount) : term.resolve tables game =
      (amount.resolve term.field (term.unlimited tables)).map .scalar := by
    simp only [Term.resolve, hgame]
    cases amount.resolve term.field (term.unlimited tables) <;> rfl
  have hplayers (hgame : term.ofGame game = none) : term.resolve tables game =
      (term.table tables game.players .empty).map .perPlayer := by
    simp only [Term.resolve, hgame]
    cases term.table tables game.players .empty <;> rfl
  have herror (hgame : term.ofGame game = none) (cause : Malformed) :
      term.resolve tables game = .error cause ↔
        ∃ player, term.BreaksFirst tables game.players player cause := by
    rw [hplayers hgame, ← @table_eq_error_iff term tables game.players .empty cause]
    cases term.table tables game.players .empty <;> simp [Except.map]
  constructor
  case scalar => exact hscalar
  case fails_iff =>
    intro hgame
    rw [← exists_breaksFirst_iff, exists_comm]
    exact exists_congr (herror hgame)
  case error_iff =>
    intro hgame cause
    rw [herror hgame]
    refine exists_congr fun player => (and_iff_left_of_imp ?_).symm
    rintro ⟨before, after, -, hbreaks, -⟩
    exact field_of_breaks hbreaks
  case table =>
    intro hgame value hvalue
    rw [hplayers hgame] at hvalue
    obtain ⟨table, htable, rfl⟩ := map_eq_ok.mp hvalue
    exact ⟨table, rfl, contains_of_table htable, (get?_of_table htable).1⟩
  case unlimited_scalar =>
    intro amount hamount hgame
    rw [hscalar amount hgame, Amount.resolve_of_isUnlimited hamount]
    cases term <;> rfl
  case unlimited_player =>
    intro player amount hamount hplayer
    have hresolve := Amount.resolve_of_isUnlimited hamount (term.playerField player) (term.unlimited tables)
    cases term with
    | bank => exact ⟨hplayer, hresolve⟩
    | certLimit | capital => exact ⟨amount, hplayer, hresolve⟩

/-- The first entry is at fault although the second declares the term for the same number. -/
example (tables : Tables) : Term.bank.resolve tables
    { players := [{ number := 3, bank := some (.text "lots") },
        { number := 3, bank := some (.number 12000) }] } =
      .error (.notNumber "players[3].bank" "lots") := by
  rfl

end Term

end Rail18
