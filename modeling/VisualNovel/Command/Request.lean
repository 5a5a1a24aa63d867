/-
  VisualNovel.Command.Request

  What the program can be asked to do: its commands, the flags that each of them
  has, and a request with all its values.
-/

namespace VisualNovel.Command

/-- The commands. -/
inductive Verb
  | play
  | check
  | endings
  deriving DecidableEq, Repr

/-- The flags of the program and its commands. -/
inductive Flag
  | assets
  | saveDirectory
  | script
  | verbose
  | help
  | version
  deriving DecidableEq, Repr

/-- How a flag is written and what it is for. -/
structure FlagSpec where
  flag : Flag
  short : Option Char
  long : String
  /-- What its value is called, if it has one. -/
  value : Option String
  description : String
  deriving DecidableEq, Repr

namespace Verb

def name : Verb → String
  | .play => "play"
  | .check => "check"
  | .endings => "endings"

/-- All commands by name. -/
def named : List (String × Verb) :=
  [play, check, endings].map fun v => (v.name, v)

def about : Verb → String
  | .play => "Play a story in the terminal"
  | .check => "Validate a story and report endings and unreachable passages"
  | .endings => "Show which endings have been reached"

end Verb

namespace FlagSpec

/-- The flag that names an asset manifest. -/
def assets (description : String) : FlagSpec :=
  ⟨.assets, some 'a', "assets", some "ASSETS", description⟩

def saveDirectory : FlagSpec :=
  ⟨.saveDirectory, some 's', "save-dir", some "SAVE_DIR",
    "Directory the endings ledger is saved in [default: .]"⟩

def script : FlagSpec :=
  ⟨.script, none, "script", none,
    "Read one command per line and wait for each to finish before the next"⟩

def verbose : FlagSpec :=
  ⟨.verbose, some 'v', "verbose", none, "More log output on stderr (-v info, -vv debug, -vvv trace)"⟩

def help : FlagSpec :=
  ⟨.help, some 'h', "help", none, "Print help"⟩

def version : FlagSpec :=
  ⟨.version, some 'V', "version", none, "Print version"⟩

end FlagSpec

/-- The flags that stand before a command. -/
def commonFlags : List FlagSpec :=
  [.verbose, .help, .version]

/-- The flags of a command. -/
def Verb.flags : Verb → List FlagSpec
  | .play =>
    [.assets "Asset manifest with backgrounds and animations", .verbose, .saveDirectory, .script,
      .help, .version]
  | .check => [.assets "Asset manifest to validate alongside the story", .verbose, .help, .version]
  | .endings => [.saveDirectory, .verbose, .help, .version]

/-- What the program is asked to do. -/
inductive Request
  | play (story : String) (assets : Option String) (saveDirectory : String) (script : Bool)
  | check (story : String) (assets : Option String)
  | endings (story saveDirectory : String)
  deriving DecidableEq, Repr

end VisualNovel.Command
