/-
  VisualNovel.Command.Arguments

  Reading the arguments of a command line, one after another from the left. The
  first thing that ends the reading counts: a wish for help or for the version,
  or a mistake. Flags may be written as words (`--assets x`, `--assets=x`) or as
  letters (`-a x`, `-ax`, `-a=x`, several in one argument). After `--` an argument
  is no flag. A flag with a value and the script flag stand at most once.
-/

import VisualNovel.Command.Help
import VisualNovel.NameMap

namespace VisualNovel.Command

/-- Why the reading of arguments ends early. -/
inductive Stop
  | help
  | version
  | misuse
  deriving DecidableEq, Repr

/-- What the arguments have said so far. -/
structure Collected where
  story : Option String := none
  assets : Option String := none
  saveDirectory : Option String := none
  script : Bool := false
  /-- The flag whose value comes next. -/
  pending : Option Flag := none
  /-- Whether `--` was met. -/
  escaped : Bool := false
  deriving DecidableEq, Repr

namespace Collected

/-- Fills a place that is still free with a text that is not empty. -/
def fill (place : Option String) (s : String) : Except Stop (Option String) :=
  if place = none ∧ s ≠ "" then .ok (some s) else .error .misuse

/-- Takes in the story. -/
def addStory (c : Collected) (s : String) : Except Stop Collected :=
  (fill c.story s).map fun story => { c with story }

/-- Takes in the value of a flag. -/
def addValue (c : Collected) (f : Flag) (s : String) : Except Stop Collected :=
  let c := { c with pending := none }
  match f with
  | .assets => (fill c.assets s).map fun assets => { c with assets }
  | .saveDirectory => (fill c.saveDirectory s).map fun saveDirectory => { c with saveDirectory }
  | _ => .error .misuse

/-- Takes in a flag without value. -/
def addFlag (c : Collected) (f : Flag) : Except Stop Collected :=
  match f with
  | .help => .error .help
  | .version => .error .version
  | .verbose => .ok c
  | .script => if c.script then .error .misuse else .ok { c with script := true }
  | _ => .error .misuse

/-- Takes in a flag written as a word: its name and what follows an equals sign. -/
def addWord (flags : List FlagSpec) (c : Collected) (cs : List Char) : Except Stop Collected :=
  let name := String.ofList (cs.takeWhile (· != '='))
  -- What is left starts with the equals sign, if there is one.
  match flags.find? fun f => f.long = name, cs.dropWhile (· != '=') with
  | none, _ => .error .misuse
  | some f, [] => if f.value = none then c.addFlag f.flag else .ok { c with pending := some f.flag }
  | some f, _ :: value => if f.value = none then .error .misuse else c.addValue f.flag (.ofList value)

/-- Takes in flags written as letters; one with a value takes the rest of them. -/
def addLetters (flags : List FlagSpec) (c : Collected) : List Char → Except Stop Collected
  | [] => .ok c
  | letter :: rest =>
    match flags.find? fun f => f.short = some letter with
    | none => .error .misuse
    | some f =>
      if f.value = none then (c.addFlag f.flag).bind fun c => c.addLetters flags rest
      else
        match rest with
        -- The last letter takes the next argument as its value.
        | [] => .ok { c with pending := some f.flag }
        | '=' :: value => c.addValue f.flag (.ofList value)
        | value => c.addValue f.flag (.ofList value)

/-- Takes in an argument that is written like a flag. -/
def addDashed (flags : List FlagSpec) (c : Collected) (cs : List Char) : Except Stop Collected :=
  -- A value that is written like a flag needs an equals sign.
  if c.pending ≠ none then .error .misuse
  else
    match cs with
    | ['-', '-'] => .ok { c with escaped := true }
    | '-' :: '-' :: name => c.addWord flags name
    | _ :: letters => c.addLetters flags letters
    | [] => .ok c

/-- Whether an argument is written like a flag; a lone dash is not. -/
def isDashed : List Char → Bool
  | '-' :: _ :: _ => true
  | _ => false

/-- Takes in an argument. -/
def add (flags : List FlagSpec) (c : Collected) (argument : String) : Except Stop Collected :=
  if !c.escaped && isDashed argument.toList then c.addDashed flags argument.toList
  else
    match c.pending with
    | some f => c.addValue f argument
    | none => c.addStory argument

/-- Takes in all arguments. -/
def addAll (flags : List FlagSpec) (c : Collected) : List String → Except Stop Collected
  | [] => if c.pending = none then .ok c else .error .misuse
  | argument :: rest => (c.add flags argument).bind fun c => c.addAll flags rest

/-- The request that a command's arguments make. -/
def request (c : Collected) (v : Verb) : Except Stop Request :=
  match c.story with
  | none => .error .misuse
  | some story =>
    let saveDirectory := c.saveDirectory.getD "."
    .ok (match v with
      | .play => .play story c.assets saveDirectory c.script
      | .check => .check story c.assets
      | .endings => .endings story saveDirectory)

end Collected

/-- What a command line asks for. -/
inductive Wish
  | run (r : Request)
  | print (page : Page)
  | misuse
  deriving DecidableEq, Repr

namespace Wish

/-- What is wished for when the reading ended early. -/
def ofStop (v : Option Verb) : Stop → Wish
  | .help => .print (match v with
    | none => .program
    | some v => .command v)
  | .version => .print (.version v)
  | .misuse => .misuse

/-- The wish of a command's arguments. -/
def ofVerb (v : Verb) (arguments : List String) : Wish :=
  match (Collected.addAll v.flags {} arguments).bind fun c => c.request v with
  | .ok r => .run r
  | .error stop => ofStop (some v) stop

/-- The wish of the help command. -/
def ofHelp : List String → Wish
  | [] => .print .program
  | [name] =>
    match NameMap.find? name Verb.named with
    | some v => .print (.command v)
    | none => if name = "help" then .print .helpCommand else .misuse
  | _ => .misuse

/-- The wish of a whole command line: common flags, then a command. -/
def ofArguments : List String → Wish
  | [] => .misuse
  | argument :: rest =>
    if argument = "--" then .misuse
    else if Collected.isDashed argument.toList then
      match Collected.addDashed commonFlags {} argument.toList with
      | .ok _ => ofArguments rest
      | .error stop => ofStop none stop
    else
      match NameMap.find? argument Verb.named with
      | some v => ofVerb v rest
      | none => if argument = "help" then ofHelp rest else .misuse

end Wish

end VisualNovel.Command
