import HidDescriptor.CommandLine.Run
import HidDescriptor.Program.Console
import HidDescriptor.TableFile.Document

/-!
# The program

Takes a run of the command line from the outside world and carries its results out again.

- `stamp`: a point in time as log records show it
- `observe`, `snapshot`: the files that a run may look at
- `main`: the program
-/

namespace HidDescriptor
namespace Program

/-! ## Time -/

/-- Year, month and day of a number of days since the first of January 1970. -/
def civil (days : Int) : Int × Int × Int :=
  let shifted := days + 719468
  let era := shifted / 146097
  let dayOfEra := shifted % 146097
  let yearOfEra := (dayOfEra - dayOfEra / 1460 + dayOfEra / 36524 - dayOfEra / 146096) / 365
  let dayOfYear := dayOfEra - (365 * yearOfEra + yearOfEra / 4 - yearOfEra / 100)
  let monthIndex := (5 * dayOfYear + 2) / 153
  let day := dayOfYear - (153 * monthIndex + 2) / 5 + 1
  let month := if monthIndex < 10 then monthIndex + 3 else monthIndex - 9
  (yearOfEra + era * 400 + (if month ≤ 2 then 1 else 0), month, day)

def padded (width : Nat) (n : Int) : String :=
  String.ofList (Numeral.padLeft width '0' (Numeral.decimal n).toList)

/-- A point in time, from the seconds since 1970 and the milliseconds after them. -/
def stamp (seconds milliseconds : Int) : String :=
  let (year, month, day) := civil (seconds / 86400)
  let rest := seconds % 86400
  padded 4 year ++ "-" ++ padded 2 month ++ "-" ++ padded 2 day ++ " " ++ padded 2 (rest / 3600) ++
    ":" ++ padded 2 (rest / 60 % 60) ++ ":" ++ padded 2 (rest % 60) ++ "," ++
    padded 3 milliseconds

/-- The present time, by the time stamp of a file made for the purpose. -/
def now : IO String := do
  let (_, path) ← IO.FS.createTempFile
  let modified := (← path.metadata).modified
  IO.FS.removeFile path
  return stamp modified.sec (modified.nsec.toNat / 1000000 : Nat)

/-! ## Files -/

def observePlace (tree : FileTree) (place : Place) : IO FileTree := do
  let path := (← IO.currentDir) / FileTree.pathOf place
  if ← path.isDir then return tree.put place .directory
  else if ← path.pathExists then
    return tree.put place (.file (← IO.FS.readBinFile path).toList)
  else return tree

def observe (tree : FileTree) (path : String) : IO FileTree := do
  let place := FileTree.normalised path
  let mut tree := tree
  for i in List.range place.length do
    tree ← observePlace tree (place.take (i + 1))
  return tree

def observeTables (tree : FileTree) (directory : String) : IO FileTree := do
  let mut tree ← observe tree directory
  for name in ["usage_pages.yml", "collections.yml", "flags.yml"] do
    tree ← observe tree (FileTree.join directory name)
  let usages := FileTree.join directory "usages"
  let path := (← IO.currentDir) / usages
  if ← path.isDir then
    for entry in ← path.readDir do
      tree ← observe tree (FileTree.join usages entry.fileName)
  return tree

/-- The files that a run with these options may look at. -/
def snapshot (options : CommandLine.Options) (directories : List String) : IO FileTree := do
  let mut tree := FileTree.empty
  for directory in directories do
    tree ← observeTables tree directory
  for path in [options.input, CommandLine.defaultOutput options.input] ++ options.output.toList ++
      options.log.toList do
    if (FileTree.checkPath path).isOk && !path.isEmpty && path != CommandLine.standardStream then
      tree ← observe tree path
      tree ← observe tree (FileTree.parentPath path)
  return tree

/-! ## Streams -/

/-- All bytes of a stream. -/
partial def readAll (stream : IO.FS.Stream) (read : ByteArray) : IO ByteArray := do
  let chunk ← stream.read 65536
  if chunk.isEmpty then return read else readAll stream (read ++ chunk)

def writeChanges (before after : FileTree) : IO Unit := do
  for (path, content) in FileTree.changes before after do
    let parent := FileTree.parentPath path
    if !parent.isEmpty then IO.FS.createDirAll parent
    IO.FS.writeBinFile path ⟨content.toArray⟩

def usage : String :=
  "usage: rdg [-h] [-o OUTPUT] [-f \x7bbinary,default,kernel\x7d] [-t TABLES] [-v] [--log LOG] input"

def execute (argv : List String) : IO UInt32 := do
  let stderr ← IO.getStderr
  let stdout ← IO.getStdout
  let tablePath ← IO.getEnv "RDG_TABLES"
  let (files, stdin) ←
    match CommandLine.Options.parse argv with
    | .error _ => pure (FileTree.empty, ByteArray.empty)
    | .ok options => do
        let files ← snapshot options (CommandLine.splitPaths tablePath ++ options.tables)
        let stdin ←
          if options.input = CommandLine.standardStream then readAll (← IO.getStdin) .empty
          else pure .empty
        pure (files, stdin)
  let time ← now
  let result := CommandLine.run TableFile.read
    ⟨argv, files, stdin.toList, .utf8, tablePath, fun _ => time⟩
  for line in result.log.flatMap consoleLines do
    stderr.putStrLn line
  writeChanges files result.files
  stdout.write ⟨result.stdout.toArray⟩
  stdout.flush
  match result.ending with
  | .status code => return code.toUInt32
  | .stopped .help =>
      stdout.putStrLn usage
      return 0
  | .stopped (.refused refusal) =>
      stderr.putStrLn usage
      stderr.putStrLn ("rdg: error: " ++ refusal.message)
      return 2
  | .fault fault =>
      stderr.putStrLn fault.message
      return 1

end Program
end HidDescriptor

def main (argv : List String) : IO UInt32 :=
  HidDescriptor.Program.execute argv
