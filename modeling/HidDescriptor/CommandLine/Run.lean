import HidDescriptor.CommandLine.Options
import HidDescriptor.CommandLine.Streams
import HidDescriptor.Log
import HidDescriptor.Table.Layers

/-!
# Runs of the command line

A run as a function: from the words of the command line, the files, the standard input and the
environment to an exit status, the standard output, the files afterwards and the log.

- `splitPaths`, `defaultOutput`, `Options.target`: the rules for paths
- `Invocation`, `Ending`, `Result`: what goes into a run and what comes out
- `World`: files, output and log while a run goes on
- `prepare`, `loadTables`, `compileInput`, `writeOutput`: the stages of a run
- `run`: the run
-/

namespace HidDescriptor
namespace CommandLine

/-! ## Paths -/

/-- The directories of a list parted by colons. -/
def splitPaths (value : Option String) : List String :=
  match value with
  | none => []
  | some text => ((text.toList.splitOn ':').filter (!·.isEmpty)).map String.ofList

/-- The path that stands for the standard streams. -/
def standardStream : String := "-"

def defaultOutput (input : String) : String :=
  if input = standardStream then standardStream else input ++ ".rdb"

namespace Options

/-- The path of the output: the one asked for, unless it is empty. -/
def target (options : Options) : String :=
  match options.output with
  | some path => if path.isEmpty then defaultOutput options.input else path
  | none => defaultOutput options.input

def logPath? (options : Options) : Option String :=
  options.log.filter fun path => !path.isEmpty

end Options

/-! ## Runs -/

structure Invocation where
  argv : List String
  files : FileTree
  stdin : List UInt8
  streams : Streams
  tablePath : Option String
  /-- The time of each log record, by the number of records before it. -/
  time : Nat → String

/-- The directories of the tables, those of the environment first. -/
def Invocation.directories (inv : Invocation) (options : Options) : List String :=
  splitPaths inv.tablePath ++ options.tables

inductive Ending
  | status (code : Nat)
  | stopped (stop : Stop)
  /-- A fault that is not reported but ends the run. -/
  | fault (fault : Fault)

/-- What a run leaves. -/
structure Result where
  ending : Ending
  verbose : Bool
  log : List Log.Entry
  stdout : List UInt8
  files : FileTree

def success : Nat := 0

def failure : Nat := 2

/-- Files, output and log while a run goes on. -/
structure World where
  verbose : Bool
  time : Nat → String
  logPlace : Option Place
  log : List Log.Entry
  stdout : List UInt8
  files : FileTree

namespace World

def ending (w : World) (ending : Ending) : Result :=
  ⟨ending, w.verbose, w.log, w.stdout, w.files⟩

def append (files : FileTree) (place : Place) (text : String) : FileTree :=
  match files.node? place with
  | some (.file content) => files.put place (.file (content ++ Text.Utf8.encode text.toList))
  | _ => files.put place (.file (Text.Utf8.encode text.toList))

/-- Reports a message. Details are reported in verbose runs only. -/
def report (w : World) (level : Log.Level) (origin : Log.Origin) (message : String) : World :=
  if level = .debug && !w.verbose then w
  else
    let entry : Log.Entry := ⟨level, origin, message⟩
    { w with
      log := w.log ++ [entry]
      files :=
        match w.logPlace with
        | none => w.files
        | some place => append w.files place (Log.fileRecord (w.time w.log.length) entry) }

def fail (w : World) (message : String) : Result :=
  (w.report .error .commandLine message).ending (.status failure)

def succeed (w : World) : Result :=
  (w.report .info .commandLine "Success").ending (.status success)

/-- Ends the run at a file that cannot be opened. A path that no file can have is not reported. -/
def stopAtFile (w : World) (fault : FileFault) (preamble : String) : Result :=
  match fault with
  | .nullCharacter => w.ending (.fault (.file fault))
  | fault => w.fail (preamble ++ fault.message)

/-- Ends a run that has nothing to write. Rejected sources, tables and inputs that cannot be read are
reported. -/
def stop (w : World) (options : Options) (fault : Fault) : Result :=
  let unreadable := "Could not read input file '" ++ options.input ++ "', error:\n"
  match fault with
  | .compile diagnostic => w.fail ("Error: " ++ diagnostic.text)
  | .table cause => w.fail ("Could not load the lookup tables, error:\n" ++ cause.message)
  | .file fault => w.stopAtFile fault unreadable
  | .undecodable message => w.fail (unreadable ++ message)
  | fault => w.ending (.fault fault)

end World

/-! ## Stages of a run -/

/-- Opens the log file, with the directories on the way to it. It is opened by its normalised
path. -/
def openLog (files : FileTree) (path : String) : FileTree × Except FileFault Place :=
  let directory := FileTree.parentPath path
  match if directory.isEmpty then (files, .ok ()) else files.makeDirectories directory with
  | (files, .error fault) => (files, .error fault)
  | (files, .ok ()) =>
      match files.writeTarget (FileTree.pathOf (FileTree.normalised path)) with
      | .error fault => (files, .error fault)
      | .ok place =>
          -- Records are appended, so what the file holds already is kept.
          match files.node? place with
          | some _ => (files, .ok place)
          | none => (files.put place (.file []), .ok place)

/-- The world in which a run loads its tables: the one with the log file open and its first record
written. A log file that cannot be opened ends the run. -/
def prepare (inv : Invocation) (options : Options) : Except Result World :=
  let w : World := ⟨options.verbose, inv.time, none, [], [], inv.files⟩
  match options.logPath? with
  | none => .ok w
  | some path =>
      match openLog inv.files path with
      | (files, .error fault) => .error ({ w with files }.ending (.fault (.file fault)))
      | (files, .ok place) =>
          .ok ({ w with files, logPlace := some place }.report .debug .log
            ("Writing log to '" ++ path ++ "'."))

def announce (w : World) (directory : String) : World :=
  w.report .info .tables ("Loading extra tables from '" ++ directory ++ "'.")

def loadTables (read : Table.Reader) (w : World) (directories : List String) :
    World × Except Fault Tables :=
  match Tables.loadFrom read World.files announce w .standard directories with
  | (w, .error fault) => (w, .error fault)
  | (w, .ok tables) =>
      (w.report .debug .tables
        ("Loaded " ++ Numeral.decimal tables.usagePages.size ++
          " usage pages, usage tables for: " ++ ", ".intercalate tables.usages.keys), .ok tables)

def inputOf (files : FileTree) (options : Options) (inv : Invocation) :
    Except FileFault (List UInt8 × Decoder) :=
  if options.input = standardStream then .ok (inv.stdin, inv.streams.decode)
  else (files.readFile options.input).map (·, Decoder.utf8)

/-- The report of a compiled item: its line, its bytes and its call. -/
def recordMessage (r : Record) : String :=
  let bytes :=
    match r.bytes with
    | .ok bytes => bytes
    | .error _ => []
  String.ofList (Numeral.padLeft 4 ' ' (Numeral.decimal r.line).toList) ++ ": " ++
    " ".intercalate (bytes.map fun b => Numeral.hexadecimal 2 b.toNat) ++ "  " ++ r.item.title ++
    " (" ++ ", ".intercalate r.args ++ ")"

/-- Compiles the lines of an input, which a fault may end. Items are reported as they are compiled,
whether or not the source is accepted in the end. -/
def compileInput (w : World) (tables : Tables) (lines : List String) (readFault : Option String) :
    World × Except Fault Descriptor :=
  let (session, fed) := (Session.start tables).feedAll 1 lines
  let w := session.records.foldl (fun w r => w.report .debug .compiler (recordMessage r)) w
  -- Lines are compiled as they are read: a rejected one keeps the fault behind it from being met.
  match fed, readFault with
  | .error fault, _ => (w, .error fault)
  | .ok (), some message => (w, .error (.undecodable message))
  | .ok (), none =>
      match session.finish.2 with
      | .error fault => (w, .error fault)
      | .ok descriptor =>
          (w.report .info .compiler
            ("Compiled " ++ Numeral.decimal descriptor.records.length ++ " items into " ++
              Numeral.decimal descriptor.size ++ " bytes."), .ok descriptor)

def loadAndCompile (read : Table.Reader) (w : World) (options : Options) (inv : Invocation) :
    World × Except Fault Descriptor :=
  match loadTables read w (inv.directories options) with
  | (w, .error fault) => (w, .error fault)
  | (w, .ok tables) =>
      match inputOf w.files options inv with
      | .error fault => (w, .error (.file fault))
      | .ok (bytes, decode) =>
          let (lines, readFault) := inputLines (decode bytes)
          compileInput w tables lines readFault

/-- The bytes that an output gets, and how its writing ends: the binary form is written at once, and
a listing line by line. -/
def written (encode : Encoder) (format : OutputFormat) (descriptor : Descriptor) :
    List UInt8 × Except Fault Unit :=
  match format with
  | .binary => (descriptor.data, .ok ())
  | .listing format => writePieces encode [] (Listing.linesFrom format 0 0 descriptor.records)

/-- Ends a run that has written its output, all of it or the part in front of a fault. -/
def World.conclude (w : World) : Except Fault Unit → Result
  | .ok () => w.succeed
  | .error fault => w.ending (.fault fault)

def writeOutput (w : World) (options : Options) (inv : Invocation) (descriptor : Descriptor) :
    Result :=
  if options.target = standardStream then
    let (bytes, result) := written inv.streams.encode options.format descriptor
    { w with stdout := w.stdout ++ bytes }.conclude result
  else
    match w.files.writeTarget options.target with
    | .error fault =>
        w.stopAtFile fault ("Cannot open output file '" ++ options.target ++ "', error:\n")
    | .ok place =>
        -- Opening the file empties it, so it holds what is written before a fault and no more.
        let (bytes, result) := written Encoder.utf8 options.format descriptor
        { w with files := w.files.put place (.file bytes) }.conclude result

/-- Runs a command line. Table files are read with the given reader. -/
def run (read : Table.Reader) (inv : Invocation) : Result :=
  match Options.parse inv.argv with
  | .error stop => ⟨.stopped stop, false, [], [], inv.files⟩
  | .ok options =>
      match prepare inv options with
      | .error result => result
      | .ok w =>
          match loadAndCompile read w options inv with
          | (w, .error fault) => w.stop options fault
          | (w, .ok descriptor) => writeOutput w options inv descriptor

end CommandLine
end HidDescriptor
