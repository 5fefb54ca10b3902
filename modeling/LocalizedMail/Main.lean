import LocalizedMail.Calendar
import LocalizedMail.Log.Filter
import LocalizedMail.Program
import LocalizedMail.Smtp.Offline
import LocalizedMail.Text.Utf8

/-!
# The command line

The outer layer: it collects what a run meets, runs the program, and prints what comes of it.  A run
sees the variables of its process and the files of its working directory that settings and templates
may be in.  There is no way to a mail server from here.
-/

namespace LocalizedMail.CommandLine

/-- The variables that a block of zero-terminated assignments holds. -/
def environmentOf (block : String) : Table String String :=
  .ofList <| (Text.cut '\x00' block).filterMap fun assignment =>
    (cutAtEquals? assignment.toList).map fun v => (String.ofList v.1, String.ofList v.2)

/-- The variables of the process. -/
def readEnvironment : IO (Table String String) := do
  let bytes ← IO.FS.readBinFile "/proc/self/environ"
  return environmentOf (Text.decodeLossy bytes)

/-- The file or directory at a path, directories up to a depth. -/
def readNode (depth : Nat) (path : String) : IO FileTree := do
  let place := (← IO.currentDir) / path
  if ← place.isDir then
    match depth with
    | 0 => return .empty
    | depth + 1 =>
      let mut entries := []
      for entry in ← place.readDir do
        entries := (entry.fileName, ← readNode depth (path ++ "/" ++ entry.fileName)) :: entries
      return .directory entries.reverse
  else
    return .file (.bytes (← IO.FS.readBinFile place))

/-- A tree with what is at a path, if there is anything. -/
def addNode (tree : FileTree) (path : String) : IO FileTree := do
  if ← ((← IO.currentDir) / path).pathExists then
    let node ← readNode 16 path
    return (FileTree.putAt node (FileTree.steps path) (some tree)).getD tree
  else
    return tree

/-- The year in which the process runs. -/
def readYear : IO String := do
  let started ← ((← IO.currentDir) / "/proc/self").metadata
  return Calendar.yearOf started.modified.sec.toNat

/-- Everything that a run with these arguments meets. -/
def readSituation (arguments : List String) : IO Program.Situation := do
  let environment ← readEnvironment
  let disk ← addNode (← addNode .empty Settings.variableFile) "config"
  let disk ←
    match Settings.find disk environment with
    | .ok settings => addNode disk settings.templates.root
    | .error _ => pure disk
  return { arguments, environment, disk, server := fun _ => none, year := ← readYear }

end LocalizedMail.CommandLine

/-- Runs the program with its arguments. -/
def main (arguments : List String) : IO UInt32 := do
  let situation ← LocalizedMail.CommandLine.readSituation arguments
  let ending := LocalizedMail.Program.run .offline situation
  let filter := LocalizedMail.Log.Filter.ofVariable (situation.environment.get? "RUST_LOG")
  for line in LocalizedMail.Log.lines filter ending.events do
    IO.println (line.layOut (LocalizedMail.Log.formatOf ending.events))
  IO.print ending.output
  IO.eprint ending.complaint
  return ending.code.toUInt32
