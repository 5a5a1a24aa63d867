/-
  VisualNovel.Command.Help

  The pages that are printed on a wish: help pages, which say what a command is
  for, how it is called and what its parts are, each with a description in a
  second column, and version lines. What is typed as it stands is set off in bold.
-/

import VisualNovel.Command.Request
import VisualNovel.Text.Style

namespace VisualNovel.Command

open Text (Palette)

/-- What the program is called. -/
def programName : String := "vn"

/-- The program's version. -/
def programVersion : String := "0.1.0"

/-! ## Terms -/

/-- A piece of a term: typed as it stands, or a sign or a name for something else. -/
inductive Piece
  | typed (s : String)
  | sign (s : String)
  deriving DecidableEq, Repr

namespace Piece

def length : Piece → Nat
  | typed s => s.length
  | sign s => s.length

/-- A piece as it is printed. -/
def print (p : Palette) : Piece → String
  | typed s => p.paint .bold s
  | sign s => s

end Piece

/-- A part of a command line with its description. -/
structure HelpEntry where
  term : List Piece
  description : String
  deriving DecidableEq, Repr

/-- The width of an entry's term. -/
def HelpEntry.width (e : HelpEntry) : Nat :=
  (e.term.map Piece.length).foldl (· + ·) 0

/-- An entry with its description in a column. -/
def HelpEntry.line (p : Palette) (column : Nat) (e : HelpEntry) : String :=
  "  " ++ String.join (e.term.map (·.print p)) ++
    String.ofList (List.replicate (column - e.width) ' ') ++ "  " ++ e.description

/-- The lines of some entries below a title, the descriptions in one column. -/
def helpSection (p : Palette) (title : String) (entries : List HelpEntry) : List String :=
  let column := (entries.map HelpEntry.width).foldl max 0
  "" :: p.paint .title (title ++ ":") :: entries.map (·.line p column)

/-- How a flag is written in a help page. -/
def FlagSpec.term (f : FlagSpec) : List Piece :=
  let short := match f.short with
    | some c => [.typed ("-" ++ c.toString), .sign ", "]
    | none => [.sign "    "]
  let value := match f.value with
    | some name => " <" ++ name ++ ">"
    | none => if f.flag = .verbose then "..." else ""
  short ++ [.typed ("--" ++ f.long), .sign value]

/-- The section of some flags. -/
def flagSection (p : Palette) (flags : List FlagSpec) : List String :=
  helpSection p "Options" (flags.map fun f => ⟨f.term, f.description⟩)

/-- The first lines of a help page: what a command is for, and how it is called. -/
def helpHead (p : Palette) (about called parts : String) : List String :=
  [about, "", p.paint .title "Usage:" ++ " " ++ p.paint .bold called ++ " " ++ parts]

/-! ## Pages -/

/-- What the help command is for. -/
def helpAbout : String := "Print this message or the help of the given subcommand(s)"

/-- A page that is printed on a wish. -/
inductive Page
  | program
  | command (v : Verb)
  | helpCommand
  /-- The version of the program or of a command. -/
  | version (v : Option Verb)
  deriving DecidableEq, Repr

/-- The lines of a page. -/
def Page.lines (p : Palette) : Page → List String
  | .program =>
    helpHead p "Play and inspect branching visual novel stories" programName "[OPTIONS] <COMMAND>"
      ++ helpSection p "Commands"
        ((Verb.named.map fun e => ⟨[.typed e.1], e.2.about⟩) ++ [⟨[.typed "help"], helpAbout⟩])
      ++ flagSection p commonFlags
  | .command v =>
    helpHead p v.about (programName ++ " " ++ v.name) "[OPTIONS] <STORY>"
      ++ helpSection p "Arguments" [⟨[.sign "<STORY>"], "Twine story file (Twison JSON)"⟩]
      ++ flagSection p v.flags
  | .helpCommand =>
    helpHead p helpAbout (programName ++ " help") "[COMMAND]..."
      ++ helpSection p "Arguments" [⟨[.sign "[COMMAND]..."], "Print help for the subcommand(s)"⟩]
  | .version none => [programName ++ " " ++ programVersion]
  | .version (some v) => [programName ++ "-" ++ v.name ++ " " ++ programVersion]

end VisualNovel.Command
