import Rail18.CommandLine.Pattern
import Rail18.Text.Bytes
import Rail18.Text.Float
import Rail18.Text.Integer
import Rail18.Text.Split

/-! # Log filters

Directives between commas that say which events are logged. A directive is a level, or a target, a
span in brackets or both with an optional level after an equals sign. A span may name a field
between braces, with a value or a pattern for it after another equals sign.

Blanks at the ends of a directive are not read, but the places of its parts, found without the
blanks, are looked up in the directive as it was written. Blanks in front therefore shift every
part, and where a part then begins or ends inside a character the directive is torn. -/

namespace Rail18

/-- What one directive says. Levels are numbers: the greater, the more is logged. -/
structure Directive where
  target : Option String := none
  span : Option String := none
  field : Option String := none
  hasValue : Bool := false
  level : Nat
deriving DecidableEq, Repr

abbrev LogFilter := List Directive

namespace LogFilter

inductive Fault where
  | malformed
  | torn
deriving DecidableEq, Repr

/-- The level of errors alone, which are all that is logged without a directive. -/
def errorLevel : Nat := 1

def maxLevel : Nat := 5

def levelNames : List (List Char) :=
  ["off", "error", "warn", "info", "debug", "trace"].map String.toList

/-- The level that a text names, by its name in any case or by its number. -/
def level? (s : List Char) : Option Nat :=
  match (Text.natural? s).filter (· ≤ maxLevel) with
  | some level => some level
  | none => levelNames.idxOf? (s.map Char.toLower)

/-- The characters that a target may begin with. -/
def isTargetStart (c : Char) : Bool := c = '-' || c = ':' || c = '_' || Text.isAlphanumeric c

/-- The part of a directive at a place. -/
def part (directive : List Char) (start stop : Nat) : Except Fault (List Char) :=
  match Text.slice? directive start stop with
  | some part => .ok part
  | none => .error .torn

def lastPart (directive : List Char) (start : Nat) : Except Fault (List Char) :=
  part directive start (Text.byteCount directive)

/-- Adds a field to a directive. Its value is a number or a pattern; what follows a further equals
sign says nothing. -/
def withField (directive : Directive) (field : List Char) : Except Fault Directive :=
  match Text.splitAt '=' field with
  | name :: value :: _ =>
    if Text.isFloat value || Pattern.isUsable value then
      .ok { directive with field := some (.ofList name), hasValue := true }
    else .error .malformed
  | _ => .ok { directive with field := some (.ofList field) }

/-- Where in a directive a character stands, with the place at which the present part begins. -/
inductive Position where
  | beginning
  | target (start : Nat)
  | span (start : Nat)
  | field (start : Nat)
  | afterField
  | afterSpan
  | level (start : Nat)

/-- Reads one character of a directive at its place. -/
def step (written : List Char) (state : Directive × Position) (next : Nat × Char) :
    Except Fault (Directive × Position) :=
  let (directive, position) := state
  let (place, c) := next
  match position, c with
  | .beginning, '[' => .ok (directive, .span (place + 1))
  | .beginning, c => if isTargetStart c then .ok (directive, .target place) else .error .malformed
  | .target start, '=' => do
    let target ← part written start place
    return ({ directive with target := some (.ofList target) }, .level (place + 1))
  | .target start, '[' => do
    let target ← part written start place
    return ({ directive with target := some (.ofList target) }, .span (place + 1))
  | .span start, ']' => do
    let span ← part written start place
    return ({ directive with span := some (.ofList span) }, .afterSpan)
  | .span start, '{' => do
    let span ← part written start place
    let span := if span.isEmpty then none else some (String.ofList span)
    return ({ directive with span }, .field (place + 1))
  | .field start, '}' => do
    let field ← part written start place
    if field.isEmpty then throw .malformed
    return (← withField directive field, .afterField)
  | .afterField, ']' => .ok (directive, .afterSpan)
  | .afterField, _ => .error .malformed
  | .afterSpan, '=' => .ok (directive, .level (place + 1))
  | .afterSpan, _ => .error .malformed
  | position, _ => .ok (directive, position)

/-- What a directive says that ends at a position. A target by itself may be a level. -/
def finish (written : List Char) (directive : Directive) : Position → Except Fault Directive
  | .target start => do
    let text ← lastPart written start
    match level? text with
    | some level => return { directive with level }
    | none => return { directive with target := some (.ofList text) }
  | .level start => do
    let text ← lastPart written start
    if text.isEmpty then return directive
    match level? text with
    | some level => return { directive with level }
    | none => throw .malformed
  | .afterSpan => .ok directive
  | _ => .error .malformed

def directive (written : List Char) : Except Fault Directive := do
  let start : Directive × Position := ({ level := maxLevel }, .beginning)
  let (directive, position) ←
    (Text.withOffsets 0 (Text.trim written)).foldlM (step written) start
  finish written directive position

/-- Reads a filter. Empty directives say nothing; a filter without others lets errors through. -/
def parse (filter : String) : Except Fault LogFilter := do
  let directives ← ((Text.splitAt ',' filter.toList).filter (· ≠ [])).mapM directive
  return if directives.isEmpty then [{ level := errorLevel }] else directives

end LogFilter

namespace Directive

/-- Whether a directive speaks of events outside of spans. -/
def isStatic (directive : Directive) : Bool := directive.span.isNone && !directive.hasValue

/-- Whether a directive is about events of a target with some fields. -/
def covers (target : String) (fields : List String) (directive : Directive) : Bool :=
  directive.isStatic &&
    (directive.target.map fun start => start.toList.isPrefixOf target.toList).getD true &&
    (directive.field.map fields.contains).getD true

/-- How specific a directive is: by the length of its target, and then by its field. -/
def rank (directive : Directive) : Nat :=
  2 * ((directive.target.map fun target => target.length + 1).getD 0) +
    (if directive.field.isSome then 1 else 0)

/-- Whether a directive gives way to a later one. -/
def yields (directive later : Directive) : Bool :=
  directive.rank < later.rank ||
    (directive.rank = later.rank && directive.field.getD "" ≤ later.field.getD "")

end Directive

/-- The most specific of the directives that are about some events. -/
def LogFilter.directiveFor? (filter : LogFilter) (target : String) (fields : List String) :
    Option Directive :=
  (filter.filter (·.covers target fields)).foldl (fun best directive =>
    match best with
    | some best => some (if best.yields directive then directive else best)
    | none => some directive) none

/-- Whether events of a target with some fields are logged at a level. -/
def LogFilter.admits (filter : LogFilter) (target : String) (fields : List String) (level : Nat) :
    Bool :=
  match filter.directiveFor? target fields with
  | some directive => level ≤ directive.level
  | none => false

end Rail18
