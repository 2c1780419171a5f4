import Rail18.Text.Integer

/-! # Arguments

What the program is asked to do, by its arguments. Options may stand before or after the command
that they belong to; their values may be joined to them by an equals sign. -/

namespace Rail18

inductive Command where
  | tiles
  | game (name : String) (variation : Nat)
  | list (query : String)
deriving DecidableEq, Repr

/-- A command with the root of the data that overrides the settings. -/
structure Invocation where
  dataRoot : Option String
  command : Command
deriving DecidableEq, Repr

/-- What the arguments amount to. A request for help counts as misuse. -/
inductive Arguments where
  | invoke (invocation : Invocation)
  | version
  | misuse
deriving DecidableEq, Repr

namespace Arguments

def separator : String := "--"

/-- Whether an argument looks like an option; a lone dash does not. -/
def looksLikeOption (argument : String) : Bool :=
  argument.toList.head? = some '-' && argument ≠ "-"

/-- The value joined to an option, where the argument begins with the option's letters. -/
def joined? (option argument : String) : Option String :=
  let option := option.toList
  let argument := argument.toList
  if option.isPrefixOf argument then some (.ofList (argument.drop option.length)) else none

/-- A value of an option, from the argument after it. -/
def nextValue : List String → Option (String × List String)
  | value :: rest => if looksLikeOption value then none else some (value, rest)
  | [] => none

/-- The options and operands that follow a command. -/
structure Parts where
  dataRoot : Option String := none
  variation : Option String := none
  operands : List String := []

/-- Sets the root of the data, which may be given once and not be empty. -/
def Parts.setDataRoot (parts : Parts) (value : String) : Option Parts :=
  if parts.dataRoot.isSome || value = "" then none else some { parts with dataRoot := some value }

def Parts.setVariation (parts : Parts) (value : String) : Option Parts :=
  if parts.variation.isSome then none else some { parts with variation := some value }

def joinedVariation? (argument : String) : Option String :=
  match joined? "--variation=" argument with
  | some value => some value
  | none =>
    if argument = "-v" then none
    else
      match joined? "-v=" argument with
      | some value => some value
      | none => joined? "-v" argument

/-- Reads what follows a command; `takesVariation` tells whether it takes a variation. -/
def parts? (takesVariation : Bool) : Nat → List String → Parts → Option Parts
  | 0, _, _ => none
  | _, [], parts => some parts
  | fuel + 1, argument :: rest, parts =>
    if argument = separator then some { parts with operands := parts.operands ++ rest }
    else if !looksLikeOption argument then
      parts? takesVariation fuel rest { parts with operands := parts.operands ++ [argument] }
    else if argument = "--data-root" then do
      let (value, rest) ← nextValue rest
      parts? takesVariation fuel rest (← parts.setDataRoot value)
    else
      match joined? "--data-root=" argument with
      | some value => do parts? takesVariation fuel rest (← parts.setDataRoot value)
      | none =>
        if !takesVariation then none
        else if argument = "--variation" || argument = "-v" then do
          let (value, rest) ← nextValue rest
          parts? takesVariation fuel rest (← parts.setVariation value)
        else
          match joinedVariation? argument with
          | some value => do parts? takesVariation fuel rest (← parts.setVariation value)
          | none => none

/-- The variation that a text names; the first one when there is none. -/
def variation? : Option String → Option Nat
  | none => some 0
  | some text => do
    let value ← Text.natural? text.toList
    if value < UInt64.size then some value else none

/-- The command of a name with its parts. -/
def command? (name : String) (parts : Parts) : Option Command :=
  match name, parts.operands with
  | "tiles", [] => some .tiles
  | "game", [game] => (variation? parts.variation).map (.game game)
  | "list", [] => some (.list "")
  | "list", [query] => some (.list query)
  | _, _ => none

def invocation? (dataRoot : Option String) (name : String) (rest : List String) :
    Option Invocation := do
  let parts ← parts? (name = "game") (rest.length + 1) rest {}
  let command ← command? name parts
  return { dataRoot := parts.dataRoot.or dataRoot, command }

/-- Reads arguments after some that gave the root of the data. -/
def parseAfter : Nat → Option String → List String → Arguments
  | 0, _, _ => .misuse
  | _, _, [] => .misuse
  | fuel + 1, dataRoot, argument :: rest =>
    let set (value : String) (rest : List String) : Arguments :=
      if dataRoot.isSome || value = "" then .misuse else parseAfter fuel (some value) rest
    if argument = "--version" || (joined? "-V" argument).isSome then .version
    else if argument = "--data-root" then
      match nextValue rest with
      | some (value, rest) => set value rest
      | none => .misuse
    else
      match joined? "--data-root=" argument with
      | some value => set value rest
      | none =>
        if looksLikeOption argument then .misuse
        else
          match invocation? dataRoot argument rest with
          | some invocation => .invoke invocation
          | none => .misuse

def parse (arguments : List String) : Arguments :=
  parseAfter (arguments.length + 1) none arguments

end Arguments

end Rail18
