/-
  VisualNovel.Main

  The program on a real terminal and disk. The files that a request may read are
  read first; the library does the work; its changes are then made on the disk.
  At a keyboard a play goes on line by line, otherwise on the whole input at once.
-/

import Std.Time.DateTime.Timestamp
import VisualNovel.Command.Run
import VisualNovel.Store.Disk

namespace VisualNovel.Command

open Text (Palette)
open Time (Instant)

/-- The cause of an error of the system. -/
def causeOf : IO.Error → IoError
  | .noFileOrDirectory .. => .notFound
  | e => .other (toString e)

/-- The time of the clock. -/
def readClock : IO Instant := do
  let stamp ← Std.Time.Timestamp.now
  match Instant.ofNanoseconds? stamp.toNanosecondsSinceUnixEpoch.toInt with
  | some t => return t
  | none => throw (IO.userError "the clock shows no time")

/-- Whether to print in colours: as the surroundings demand, else if the output is a terminal. -/
def readPalette : IO Palette := do
  let forced ← IO.getEnv "CLICOLOR_FORCE"
  let refused ← IO.getEnv "NO_COLOR"
  let allowed ← IO.getEnv "CLICOLOR"
  if forced.any (· != "0") then return .colored
  else if refused.isSome || allowed == some "0" then return .plain
  else if ← (← IO.getStdout).isTty then return .colored
  else return .plain

/-- What reading a file gives. -/
def readPath (path : String) : IO (String × Except IoError String) := do
  try
    let bytes ← IO.FS.readBinFile path
    return (path, ((String.fromUTF8? bytes).map Except.ok).getD (.error .notText))
  catch e => return (path, .error (causeOf e))

/-- A disk with the files at some paths. -/
def readDisk (paths : List String) : IO Disk := do
  return { files := ← paths.mapM readPath }

/-- Makes a change on the real disk. -/
def applyChange : DiskChange → IO Unit
  | .makeDirectories path => IO.FS.createDirAll path
  | .writeText path text => IO.FS.writeFile path text
  | .rename path newPath => IO.FS.rename path newPath

/-- Makes changes in order; only a missing save directory is a failure of the command. -/
def applyChanges (changes : List DiskChange) : IO (Except Failure Unit) := do
  for c in changes do
    try applyChange c
    catch e =>
      match c with
      | .makeDirectories path => return .error (.noSaveDirectory path (causeOf e))
      | _ => return .ok ()
  return .ok ()

def printLines (lines : List String) : IO Unit := do
  for line in lines do IO.println line
  (← IO.getStdout).flush

/-- Reports a conclusion and gives its exit code. -/
def conclude (c : Conclusion) : IO UInt32 := do
  match c with
  | .success => pure ()
  | .failure e => IO.eprintln ("error: " ++ e.message)
  | .misuse => IO.eprintln (String.intercalate "\n" (Page.program.lines .plain))
  return c.exitCode.toUInt32

/-- Fulfils a request on the whole input at once. -/
def fulfil (r : Request) (around : Surroundings) : IO UInt32 := do
  let o := r.run (← readDisk r.paths) around
  match ← applyChanges o.volume.journal with
  | .error e => conclude (.failure e)
  | .ok () =>
    printLines o.output
    conclude o.conclusion

/-- Prints what is new on the terminal and makes the changes on the disk. -/
def catchUp (printed changed : Nat) (c : Player Disk) : IO (Nat × Nat) := do
  let _ ← applyChanges (c.store.volume.journal.drop changed)
  printLines (c.presenter.printed.drop printed)
  return (c.presenter.printed.length, c.store.volume.journal.length)

/-- Closes a play. -/
def finish (c : Player Disk) : IO UInt32 := do
  printLines c.closingLines
  conclude .success

/-- Goes on with a play at the keyboard, one line at a time. -/
partial def playLines (printed changed : Nat) (c : Player Disk) : IO UInt32 := do
  let line ← (← IO.getStdin).getLine
  if line.isEmpty then finish c
  else
    let (verdict, c) := c.handle Terminal.interpret line (← readClock)
    let (printed, changed) ← catchUp printed changed c
    match verdict with
    | .goesOn => playLines printed changed c
    | .changedScene => playLines printed changed c
    | .quits => finish c
    | .fails e => conclude (.failure (.play e))

/-- Plays at the keyboard. -/
def playAtKeyboard (r : Request) (palette : Palette) (story : String) (assets : Option String)
    (directory : String) : IO UInt32 := do
  match Player.setUp (← readDisk r.paths) palette story assets directory with
  | (.error e, _) => conclude (.failure e)
  | (.ok c, disk) =>
    match ← applyChanges disk.journal with
    | .error e => conclude (.failure e)
    | .ok () =>
      let (result, c) := c.begin (← readClock)
      let (printed, changed) ← catchUp 0 disk.journal.length c
      match result with
      | .error e => conclude (.failure e)
      | .ok () => playLines printed changed c

/-- The rest of an input. -/
partial def readAll (input : IO.FS.Stream) (before : ByteArray) : IO ByteArray := do
  let bytes ← input.read 65536
  if bytes.isEmpty then return before else readAll input (before ++ bytes)

end VisualNovel.Command

open VisualNovel Command in
/-- Runs the program. -/
def main (arguments : List String) : IO UInt32 := do
  match Wish.ofArguments arguments with
  | .misuse => conclude .misuse
  | .print page => printLines (page.lines (← readPalette)); conclude .success
  | .run request =>
    let palette ← readPalette
    let stdin ← IO.getStdin
    match request, ← stdin.isTty with
    | .play story assets directory _, true => playAtKeyboard request palette story assets directory
    | .play .., false =>
      let bytes ← readAll stdin .empty
      fulfil request { input := bytes.toList, palette, now := ← readClock }
    | _, _ => fulfil request { input := [], palette, now := ← readClock }
