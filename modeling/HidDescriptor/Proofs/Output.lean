import HidDescriptor.CommandLine.Run
import HidDescriptor.Proofs.Layering
import HidDescriptor.Proofs.Listings
import HidDescriptor.Proofs.Places
import HidDescriptor.TableFile.Document

/-!
# The output of a run

A run of the command line writes its whole output or nothing, as long as the standard output can
write all characters. What it writes besides is its log.

- `Encoder.all`, `writePieces_cases`: texts that are written one behind the other
- `Options.IsTarget`, `Options.IsLog`, `Options.content`: where output and log go, and what is written
- `World.Spares`: worlds in which nothing but the log has been written
- `Abandoned`, `CutShort`, `Delivered`: what a run leaves that fails, that is stopped while it writes,
  and that succeeds
- `spares_loadAndCompile`, `loadAndCompile_eq_ok`, `writeOutput_cases`: the stages of a run
- `run_all_or_nothing`: whole runs
-/

namespace HidDescriptor

/-- A compiled descriptor has all lines of its listing. -/
theorem Listing.exists_lines {tables : Tables} {lines : List String} {d : Descriptor}
    (h : compileLines tables lines = .ok d) (format : Format) :
    ∃ texts : List String, linesFrom format 0 0 d.records = texts.map .ok := by
  have hemit : ∀ r ∈ d.records, r.payload.Emittable := fun r hr =>
    ((orderly_of_compileLines h).1.sound r hr).payload
  refine ⟨(rowsFrom format [] d.records).map fun row => String.ofList (row ++ ['\n']), ?_⟩
  rw [List.map_map]
  exact linesFrom_eq_rows format [] hemit

namespace CommandLine

/-! ## Texts in turn -/

def Encoder.all (encode : Encoder) (written : List String) :
    List String → Except Fault (List UInt8)
  | [] => .ok []
  | text :: rest =>
      match encode written text with
      | .error message => .error (.unencodable message)
      | .ok bytes => (Encoder.all encode (written ++ [text]) rest).map (bytes ++ ·)

/-- Texts are written whole, or up to the first one that has no bytes. -/
theorem writePieces_cases (encode : Encoder) (written texts : List String) :
    (∃ bytes, encode.all written texts = .ok bytes ∧
      writePieces encode written (texts.map .ok) = (bytes, .ok ())) ∨
    ∃ before text after bytes message, texts = before ++ text :: after ∧
      encode.all written before = .ok bytes ∧ encode (written ++ before) text = .error message ∧
      writePieces encode written (texts.map .ok) = (bytes, .error (.unencodable message)) := by
  -- The bytes of a text may depend on what was written before, as those of a mark at the start do.
  induction texts generalizing written with
  | nil =>
      exact Or.inl ⟨[], rfl, rfl⟩
  | cons text rest ih =>
      rw [List.map_cons, writePieces, Encoder.all]
      cases hfirst : encode written text with
      | error message =>
          exact Or.inr ⟨[], text, rest, [], message, rfl, rfl, by simpa using hfirst, rfl⟩
      | ok first =>
          rcases ih (written ++ [text]) with ⟨bytes, hall, hwrite⟩ |
            ⟨before, last, after, bytes, message, hrest, hall, hlast, hwrite⟩
          · refine Or.inl ⟨first ++ bytes, ?_, ?_⟩
            · simp only [hall, Except.map]
            · simp only [hwrite]
          · refine Or.inr ⟨text :: before, last, after, first ++ bytes, message, ?_, ?_, ?_, ?_⟩
            · rw [hrest, List.cons_append]
            · simp only [Encoder.all, hfirst, hall, Except.map]
            · simpa using hlast
            · simp only [hwrite]

/-- In UTF-8 a text has the same bytes whether it is written at once or in parts. -/
theorem Encoder.all_utf8 (written texts : List String) :
    Encoder.utf8.all written texts = .ok (Text.Utf8.encode (String.join texts).toList) := by
  induction texts generalizing written with
  | nil =>
      rfl
  | cons text rest ih =>
      have hfirst : Encoder.utf8 written text = .ok (Text.Utf8.encode text.toList) := rfl
      simp only [Encoder.all, hfirst, ih, Except.map]
      rw [String.join_cons, String.toList_append, Text.Utf8.encode, Text.Utf8.encode, Text.Utf8.encode,
        List.flatMap_append]

/-! ## Places of a run -/

namespace Options

/-- The place of the input, if it is a file. -/
def IsInput (options : Options) (place : Place) : Prop :=
  options.input ≠ standardStream ∧ place = FileTree.normalised options.input

/-- The place of the output, if it is a file. -/
def IsTarget (options : Options) (place : Place) : Prop :=
  options.target ≠ standardStream ∧ place = FileTree.normalised options.target

def IsLog (options : Options) (place : Place) : Prop :=
  ∃ path ∈ options.logPath?, place = FileTree.normalised path

def OnWayToLog (options : Options) (place : Place) : Prop :=
  ∃ path ∈ options.logPath?, ∃ p ∈ FileTree.ancestors (FileTree.parentPath path),
    place = FileTree.normalised p

def decoder (options : Options) (inv : Invocation) : Decoder :=
  if options.input = standardStream then inv.streams.decode else Decoder.utf8

/-- The content of the output for a descriptor: its bytes, or a listing of it. To the standard output
a listing is written line by line, in the encoding that this has. -/
def content (options : Options) (inv : Invocation) (d : Descriptor) : Except Fault (List UInt8) :=
  match options.format with
  | .binary => .ok d.data
  | .listing format =>
      if options.target = standardStream then
        (Listing.linesFrom format 0 0 d.records).mapM id >>= inv.streams.encode.all []
      else (Listing.print format d.records).map fun text => Text.Utf8.encode text.toList

end Options

/-! ## Worlds without output -/

variable {inv : Invocation} {options : Options}

/-- A world in which nothing has been written but the log. -/
structure World.Spares (inv : Invocation) (options : Options) (w : World) : Prop where
  stdout : w.stdout = []
  logPlace : ∀ place, w.logPlace = some place → options.IsLog place
  files : ∀ place, ¬ options.IsLog place →
    FileTree.KeptAt options.OnWayToLog inv.files w.files place

/-- What a failed run leaves: nothing but its log and the directories on the way to it. -/
structure Abandoned (inv : Invocation) (options : Options) (r : Result) : Prop where
  ending : r.ending = .status failure ∨ ∃ fault, r.ending = .fault fault
  stdout : r.stdout = []
  files : ∀ place, ¬ options.IsLog place →
    FileTree.KeptAt options.OnWayToLog inv.files r.files place

namespace World

theorem node?_append_of_ne {files : FileTree} {place q : Place} (h : q ≠ place) (text : String) :
    (append files place text).node? q = files.node? q := by
  unfold append
  split <;> exact FileTree.node?_put_of_ne h

/-- A report changes the log file at most. -/
theorem node?_report (w : World) (level : Log.Level) (origin : Log.Origin) (message : String)
    {place : Place} (h : w.logPlace ≠ some place) :
    (w.report level origin message).files.node? place = w.files.node? place := by
  unfold report
  split
  · rfl
  · simp only
    split
    · rfl
    next logPlace hlog =>
      refine node?_append_of_ne ?_ _
      rintro rfl
      exact h hlog

theorem stdout_report (w : World) (level : Log.Level) (origin : Log.Origin) (message : String) :
    (w.report level origin message).stdout = w.stdout := by
  unfold report
  split <;> rfl

theorem logPlace_report (w : World) (level : Log.Level) (origin : Log.Origin) (message : String) :
    (w.report level origin message).logPlace = w.logPlace := by
  unfold report
  split <;> rfl

/-- Without a log file, a report changes no file. -/
theorem files_report {w : World} (h : w.logPlace = none) (level : Log.Level) (origin : Log.Origin)
    (message : String) : (w.report level origin message).files = w.files := by
  unfold report
  split
  · rfl
  · simp [h]

namespace Spares

variable {w : World}

theorem report (h : w.Spares inv options) (level : Log.Level) (origin : Log.Origin)
    (message : String) : (w.report level origin message).Spares inv options := by
  refine ⟨?_, ?_, ?_⟩
  · rw [stdout_report, h.stdout]
  · rw [logPlace_report]
    exact h.logPlace
  · intro place hplace
    exact (h.files place hplace).congr
      (node?_report w level origin message fun hlog => hplace (h.logPlace place hlog))

theorem foldl_report {α : Type} (xs : List α) (h : w.Spares inv options) (level : Log.Level)
    (origin : Log.Origin) (message : α → String) :
    (xs.foldl (fun w x => w.report level origin (message x)) w).Spares inv options := by
  induction xs generalizing w with
  | nil =>
      exact h
  | cons x rest ih =>
      exact ih (h.report level origin (message x))

theorem abandoned_fault (h : w.Spares inv options) (fault : Fault) :
    Abandoned inv options (w.ending (.fault fault)) :=
  ⟨Or.inr ⟨fault, rfl⟩, h.stdout, h.files⟩

theorem abandoned_fail (h : w.Spares inv options) (message : String) :
    Abandoned inv options (w.fail message) := by
  have hreport := h.report .error .commandLine message
  exact ⟨Or.inl rfl, hreport.stdout, hreport.files⟩

theorem abandoned_stopAtFile (h : w.Spares inv options) (fault : FileFault) (preamble : String) :
    Abandoned inv options (w.stopAtFile fault preamble) := by
  unfold stopAtFile
  split
  · exact h.abandoned_fault _
  · exact h.abandoned_fail _

theorem abandoned_stop (h : w.Spares inv options) (fault : Fault) :
    Abandoned inv options (w.stop options fault) := by
  cases fault with
  | compile diagnostic =>
      exact h.abandoned_fail _
  | table cause =>
      exact h.abandoned_fail _
  | file fault =>
      exact h.abandoned_stopAtFile fault _
  | undecodable message =>
      exact h.abandoned_fail _
  | _ =>
      exact h.abandoned_fault _

end Spares
end World

/-! ## Opening the log -/

/-- Opening a log file changes its place and makes directories on the way to it. -/
theorem openLog_spec (files : FileTree) (path : String) :
    (∀ place, place ≠ FileTree.normalised path → FileTree.KeptAt
      (fun place => ∃ p ∈ FileTree.ancestors (FileTree.parentPath path),
        place = FileTree.normalised p) files (openLog files path).1 place) ∧
    ∀ place, (openLog files path).2 = .ok place → place = FileTree.normalised path := by
  have hkept (place : Place) : FileTree.KeptAt
      (fun place => ∃ p ∈ FileTree.ancestors (FileTree.parentPath path),
        place = FileTree.normalised p) files
      (if (FileTree.parentPath path).isEmpty then (files, .ok ())
        else files.makeDirectories (FileTree.parentPath path)).1 place := by
    split
    · exact .refl _ _ _
    · exact FileTree.keptAt_makeDirectories files _ place
  unfold openLog
  simp only
  split
  next made fault hmade =>
    rw [hmade] at hkept
    exact ⟨fun place _ => hkept place, fun place h => by cases h⟩
  next made hmade =>
    rw [hmade] at hkept
    split
    next fault _ =>
      exact ⟨fun place _ => hkept place, fun place h => by cases h⟩
    next opened hopened =>
      -- The file is opened by the path of its place, which leads there again.
      have hplace : opened = FileTree.normalised path := by
        rw [(FileTree.writeTarget_eq_ok hopened).1]
        exact FileTree.normalised_pathOf (FileTree.normal_normalised path)
      split
      · exact ⟨fun place _ => hkept place, fun place h => by cases h; exact hplace⟩
      · refine ⟨fun place hne => (hkept place).congr ?_, fun place h => by cases h; exact hplace⟩
        exact FileTree.node?_put_of_ne (hplace ▸ hne)

/-- What opening the log file does is allowed at all other places. -/
theorem keptAt_openLog {path : String} (hpath : path ∈ options.logPath?) (files : FileTree)
    {place : Place} (hplace : ¬ options.IsLog place) :
    FileTree.KeptAt options.OnWayToLog files (openLog files path).1 place := by
  have hne : place ≠ FileTree.normalised path := fun heq => hplace ⟨path, hpath, heq⟩
  exact ((openLog_spec files path).1 place hne).mono fun hdir => ⟨path, hpath, hdir⟩

theorem abandoned_of_prepare {r : Result} (h : prepare inv options = .error r) :
    Abandoned inv options r := by
  unfold prepare at h
  simp only at h
  split at h
  · cases h
  next path hpath =>
    have hkept {place : Place} (hplace : ¬ options.IsLog place) :=
      keptAt_openLog hpath inv.files hplace
    rcases hlog : openLog inv.files path with ⟨files, result⟩
    rw [hlog] at h hkept
    cases result with
    | error fault =>
        cases h
        exact ⟨Or.inr ⟨_, rfl⟩, rfl, fun place => hkept⟩
    | ok place =>
        cases h

theorem spares_of_prepare {w : World} (h : prepare inv options = .ok w) :
    w.Spares inv options := by
  unfold prepare at h
  simp only at h
  split at h
  · cases h
    refine ⟨rfl, ?_, fun place _ => .refl _ _ _⟩
    rintro place ⟨⟩
  next path hpath =>
    have hkept {place : Place} (hplace : ¬ options.IsLog place) :=
      keptAt_openLog hpath inv.files hplace
    have hplace := (openLog_spec inv.files path).2
    rcases hlog : openLog inv.files path with ⟨files, result⟩
    rw [hlog] at h hkept hplace
    cases result with
    | error fault =>
        cases h
    | ok opened =>
        cases h
        -- The log is open at its place, and its first record goes there.
        refine World.Spares.report ⟨rfl, ?_, fun place => hkept⟩ _ _ _
        rintro place hopened
        cases hopened
        exact ⟨path, hpath, hplace opened rfl⟩

theorem prepare_unlogged {w : World} (h : prepare inv options = .ok w)
    (hlog : options.logPath? = none) : w.logPlace = none ∧ w.files = inv.files := by
  unfold prepare at h
  rw [hlog] at h
  cases h
  exact ⟨rfl, rfl⟩

/-! ## Tables and input -/

variable {read : Table.Reader}

theorem loadTables_eq (read : Table.Reader) (w : World) (directories : List String) :
    (loadTables read w directories).2 =
      (Tables.loadFrom read World.files announce w .standard directories).2 := by
  unfold loadTables
  split
  next hload =>
    rw [hload]
  next hload =>
    rw [hload]

/-- Without a log file, the reports of a run leave the files alone, and its tables are those that the
files hold at first. -/
theorem loadTables_unlogged {w : World} (h : w.logPlace = none) (directories : List String) :
    (loadTables read w directories).2 = Tables.load read w.files .standard directories := by
  rw [loadTables_eq, Tables.load_eq]
  refine Tables.loadFrom_snd (P := fun w => w.logPlace = none) ?_ h
  intro w directory hnone
  exact ⟨(World.logPlace_report _ _ _ _).trans hnone, World.files_report hnone _ _ _⟩

theorem World.Spares.loadTables {w : World} (h : w.Spares inv options) (read : Table.Reader)
    (directories : List String) :
    (CommandLine.loadTables read w directories).1.Spares inv options := by
  have hloaded :
      (Tables.loadFrom read World.files announce w .standard directories).1.Spares inv options :=
    Tables.loadFrom_fst (P := World.Spares inv options)
      (fun w directory hspares => hspares.report _ _ _) h
  unfold CommandLine.loadTables
  split
  next hload =>
    rwa [hload] at hloaded
  next hload =>
    rw [hload] at hloaded
    exact hloaded.report _ _ _

theorem World.Spares.compileInput {w : World} (h : w.Spares inv options) (tables : Tables)
    (lines : List String) (readFault : Option String) :
    (CommandLine.compileInput w tables lines readFault).1.Spares inv options := by
  unfold CommandLine.compileInput
  rcases (Session.start tables).feedAll 1 lines with ⟨s, fed⟩
  -- The items so far are reported whether or not the source compiles.
  have htold := h.foldl_report s.records .debug .compiler recordMessage
  simp only
  split
  · exact htold
  · exact htold
  · split
    · exact htold
    · exact htold.report .info .compiler _

/-- Up to its output, a run writes nothing but its log. -/
theorem spares_loadAndCompile (read : Table.Reader) {w : World} (h : w.Spares inv options) :
    (loadAndCompile read w options inv).1.Spares inv options := by
  have hloaded := h.loadTables read (inv.directories options)
  unfold loadAndCompile
  split
  next hload =>
    rwa [hload] at hloaded
  next hload =>
    rw [hload] at hloaded
    split
    · exact hloaded
    · exact hloaded.compileInput _ _ _

/-- An input is compiled if it is decoded to its end and its lines compile. -/
theorem compileInput_eq_ok {w : World} {tables : Tables} {lines : List String}
    {readFault : Option String} {d : Descriptor}
    (h : (compileInput w tables lines readFault).2 = .ok d) :
    readFault = none ∧ compileLines tables lines = .ok d := by
  unfold compileInput at h
  unfold compileLines
  rcases hrun : (Session.start tables).feedAll 1 lines with ⟨s, fed⟩
  simp only [hrun] at h ⊢
  split at h
  · cases h
  · cases h
  · split at h
    · cases h
    next d' hfinish =>
      cases h
      exact ⟨rfl, hfinish⟩

/-- The source of a descriptor: the tables, the input and the lines it was compiled from. -/
structure Compiles (read : Table.Reader) (inv : Invocation) (options : Options) (tables : Tables)
    (bytes : List UInt8) (lines : List String) (d : Descriptor) : Prop where
  /-- Tables are loaded when the log file is open. -/
  loaded : ∃ w, prepare inv options = .ok w ∧
    (loadTables read w (inv.directories options)).2 = .ok tables
  unlogged : options.logPath? = none →
    Tables.load read inv.files .standard (inv.directories options) = .ok tables
  input : if options.input = standardStream then bytes = inv.stdin
    else inv.files.node? (FileTree.normalised options.input) = some (.file bytes)
  decoded : inputLines (options.decoder inv bytes) = (lines, none)
  compiled : compileLines tables lines = .ok d

/-- The input is read as it was before the run, since the log file is another one. -/
theorem inputOf_of_spares {w : World} (h : w.Spares inv options) {bytes : List UInt8}
    {decode : Decoder} (hapart : ∀ q, options.IsInput q → ¬ options.IsLog q)
    (hinput : inputOf w.files options inv = .ok (bytes, decode)) :
    (if options.input = standardStream then bytes = inv.stdin
      else inv.files.node? (FileTree.normalised options.input) = some (.file bytes)) ∧
    decode = options.decoder inv := by
  unfold inputOf at hinput
  unfold Options.decoder
  by_cases hstdin : options.input = standardStream
  · rw [if_pos hstdin] at hinput ⊢
    rw [if_pos hstdin]
    cases hinput
    exact ⟨rfl, rfl⟩
  · rw [if_neg hstdin] at hinput ⊢
    rw [if_neg hstdin]
    cases hfile : w.files.readFile options.input with
    | error fault =>
        rw [hfile] at hinput
        cases hinput
    | ok found =>
        rw [hfile] at hinput
        cases hinput
        exact ⟨(h.files _ (hapart _ ⟨hstdin, rfl⟩)).file (FileTree.readFile_eq_ok hfile), rfl⟩

theorem loadAndCompile_eq_ok {w : World} {d : Descriptor} (hw : prepare inv options = .ok w)
    (hapart : ∀ q, options.IsInput q → ¬ options.IsLog q)
    (h : (loadAndCompile read w options inv).2 = .ok d) :
    ∃ tables bytes lines, Compiles read inv options tables bytes lines d := by
  have hloaded := (spares_of_prepare hw).loadTables read (inv.directories options)
  unfold loadAndCompile at h
  split at h
  · cases h
  next w' tables hload =>
    have htables : (loadTables read w (inv.directories options)).2 = .ok tables := by
      rw [hload]
    rw [hload] at hloaded
    split at h
    · cases h
    next bytes decode hinput =>
      rcases inputOf_of_spares hloaded hapart hinput with ⟨hread, rfl⟩
      rcases hlines : inputLines (options.decoder inv bytes) with ⟨lines, readFault⟩
      rw [hlines] at h
      rcases compileInput_eq_ok h with ⟨rfl, hcompiled⟩
      refine ⟨tables, bytes, lines, ⟨w, hw, htables⟩, ?_, hread, hlines, hcompiled⟩
      intro hlog
      rcases prepare_unlogged hw hlog with ⟨hnone, hfiles⟩
      rw [← hfiles, ← loadTables_unlogged hnone, htables]

/-! ## Output -/

/-- What a successful run leaves: its output at its target, and its log. -/
structure Delivered (inv : Invocation) (options : Options) (content : List UInt8) (r : Result) :
    Prop where
  ending : r.ending = .status success
  stdout : r.stdout = if options.target = standardStream then content else []
  target : ∀ place, options.IsTarget place → r.files.node? place = some (.file content)
  files : ∀ place, ¬ options.IsLog place → ¬ options.IsTarget place →
    FileTree.KeptAt options.OnWayToLog inv.files r.files place

/-- What a run leaves that comes to a line of its listing for which the standard output has no bytes:
the lines in front of it, and its log. -/
structure CutShort (inv : Invocation) (options : Options) (d : Descriptor) (r : Result) : Prop where
  target : options.target = standardStream
  lines : ∃ format before text after message, options.format = .listing format ∧
    Listing.linesFrom format 0 0 d.records = (before ++ text :: after).map .ok ∧
    inv.streams.encode before text = .error message ∧
    inv.streams.encode.all [] before = .ok r.stdout ∧ r.ending = .fault (.unencodable message)
  files : ∀ place, ¬ options.IsLog place →
    FileTree.KeptAt options.OnWayToLog inv.files r.files place

theorem delivered_stdout {w : World} (h : w.Spares inv options) (content : List UInt8)
    (htarget : options.target = standardStream) :
    Delivered inv options content { w with stdout := w.stdout ++ content }.succeed := by
  have hno : ∀ place, ¬ options.IsTarget place := fun place hplace => hplace.1 htarget
  refine ⟨rfl, ?_, fun place hplace => absurd hplace (hno place), ?_⟩
  · rw [if_pos htarget, World.succeed, World.ending, World.stdout_report, h.stdout, List.nil_append]
  · intro place hplace _
    exact (h.files place hplace).congr (World.node?_report _ _ _ _ fun hlog =>
      hplace (h.logPlace place hlog))

theorem delivered_file {w : World} (h : w.Spares inv options) {content : List UInt8} {place : Place}
    (htarget : options.target ≠ standardStream)
    (hapart : ∀ q, options.IsTarget q → ¬ options.IsLog q)
    (hopen : w.files.writeTarget options.target = .ok place) :
    Delivered inv options content
      { w with files := w.files.put place (.file content) }.succeed := by
  rcases FileTree.writeTarget_eq_ok hopen with ⟨hplace, hnode⟩
  have hlog {q : Place} (hq : ¬ options.IsLog q) : w.logPlace ≠ some q :=
    fun hlog => hq (h.logPlace q hlog)
  refine ⟨rfl, ?_, ?_, ?_⟩
  · rw [if_neg htarget, World.succeed, World.ending, World.stdout_report, h.stdout]
  · rintro q ⟨hne, rfl⟩
    have hfile : (w.files.put place (.file content)).node? place = some (.file content) :=
      FileTree.node?_put_self (FileTree.isAbove_eq_false hnode)
    -- The report of success goes to the log, which is another file.
    rw [← hplace, ← hfile]
    exact World.node?_report _ _ _ _ (hlog (hapart place ⟨hne, hplace⟩))
  · intro q hq hother
    have hne : q ≠ place := fun hqp => hother ⟨htarget, hqp.trans hplace⟩
    have hput : (w.files.put place (.file content)).node? q = w.files.node? q :=
      FileTree.node?_put_of_ne hne
    refine (h.files q hq).congr ?_
    rw [← hput]
    exact World.node?_report _ _ _ _ (hlog hq)

section Compiled

variable {tables : Tables} {lines : List String} {d : Descriptor}

theorem mapM_id_map_ok (texts : List String) :
    ((texts.map .ok).mapM id : Except Fault (List String)) = .ok texts := by
  rw [List.mapM_map]
  exact (List.mapM_pure (m := Except Fault) (f := id)).trans (congrArg pure (List.map_id texts))

/-- A file gets its whole content. -/
theorem written_file (inv : Invocation) (hcompiled : compileLines tables lines = .ok d)
    (htarget : options.target ≠ standardStream) :
    ∃ content, options.content inv d = .ok content ∧
      written Encoder.utf8 options.format d = (content, .ok ()) := by
  unfold Options.content written
  cases options.format with
  | binary =>
      exact ⟨d.data, rfl, rfl⟩
  | listing format =>
      rcases Listing.exists_lines hcompiled format with ⟨texts, htexts⟩
      have hprint : Listing.print format d.records = .ok (String.join texts) := by
        rw [Listing.print, Listing.printFrom, htexts, mapM_id_map_ok]
        rfl
      refine ⟨Text.Utf8.encode (String.join texts).toList, ?_, ?_⟩
      · simp only [if_neg htarget, hprint, Except.map]
      · simp only [htexts]
        rcases writePieces_cases Encoder.utf8 [] texts with ⟨bytes, hall, hwrite⟩ |
          ⟨_, _, _, _, _, _, _, hfail, _⟩
        · rw [Encoder.all_utf8] at hall
          rw [hwrite, Except.ok.inj hall]
        · -- No text is without bytes in UTF-8.
          cases hfail

/-- The standard output gets its whole content, or the lines of it in front of one that it cannot
write. -/
theorem written_stdout (inv : Invocation) (hcompiled : compileLines tables lines = .ok d)
    (htarget : options.target = standardStream) :
    (∃ content, options.content inv d = .ok content ∧
      written inv.streams.encode options.format d = (content, .ok ())) ∨
    ∃ format before text after message bytes, options.format = .listing format ∧
      Listing.linesFrom format 0 0 d.records = (before ++ text :: after).map .ok ∧
      inv.streams.encode before text = .error message ∧
      inv.streams.encode.all [] before = .ok bytes ∧
      written inv.streams.encode options.format d = (bytes, .error (.unencodable message)) := by
  unfold Options.content written
  cases options.format with
  | binary =>
      exact Or.inl ⟨d.data, rfl, rfl⟩
  | listing format =>
      rcases Listing.exists_lines hcompiled format with ⟨texts, htexts⟩
      simp only [htexts, if_pos htarget, mapM_id_map_ok]
      rcases writePieces_cases inv.streams.encode [] texts with ⟨bytes, hall, hwrite⟩ |
        ⟨before, text, after, bytes, message, rfl, hall, hfail, hwrite⟩
      · exact Or.inl ⟨bytes, hall, hwrite⟩
      · exact Or.inr ⟨format, before, text, after, message, bytes, rfl, htexts, hfail, hall, hwrite⟩

theorem writeOutput_cases {w : World} (h : w.Spares inv options)
    (hcompiled : compileLines tables lines = .ok d)
    (hapart : ∀ q, options.IsTarget q → ¬ options.IsLog q) :
    Abandoned inv options (writeOutput w options inv d) ∨
      CutShort inv options d (writeOutput w options inv d) ∨
      ∃ content, options.content inv d = .ok content ∧
        Delivered inv options content (writeOutput w options inv d) := by
  unfold writeOutput
  by_cases htarget : options.target = standardStream
  · rw [if_pos htarget]
    rcases written_stdout inv hcompiled htarget with ⟨content, hcontent, hwritten⟩ |
      ⟨format, before, text, after, message, bytes, hformat, hlines, hfail, hall, hwritten⟩
    · rw [hwritten]
      exact Or.inr (Or.inr ⟨content, hcontent, delivered_stdout h content htarget⟩)
    · -- Nothing was on the standard output before, so the lines in front of the fault are all.
      rw [hwritten]
      have hstdout : w.stdout ++ bytes = bytes := by
        rw [h.stdout, List.nil_append]
      refine Or.inr (Or.inl ⟨htarget, ?_, h.files⟩)
      exact ⟨format, before, text, after, message, hformat, hlines, hfail,
        hall.trans (congrArg Except.ok hstdout.symm), rfl⟩
  · rw [if_neg htarget]
    cases hopen : w.files.writeTarget options.target with
    | error fault =>
        exact Or.inl (h.abandoned_stopAtFile fault _)
    | ok place =>
        rcases written_file inv hcompiled htarget with ⟨content, hcontent, hwritten⟩
        simp only [hwritten]
        exact Or.inr (Or.inr ⟨content, hcontent, delivered_file h htarget hapart hopen⟩)

end Compiled

/-! ## Runs -/

theorem run_cases (read : Table.Reader) (hargv : Options.parse inv.argv = .ok options)
    (hinput : ∀ q, options.IsInput q → ¬ options.IsLog q)
    (htarget : ∀ q, options.IsTarget q → ¬ options.IsLog q) :
    Abandoned inv options (run read inv) ∨
      ∃ tables bytes lines d, Compiles read inv options tables bytes lines d ∧
        (CutShort inv options d (run read inv) ∨
          ∃ content, options.content inv d = .ok content ∧
            Delivered inv options content (run read inv)) := by
  unfold run
  simp only [hargv]
  cases hw : prepare inv options with
  | error r =>
      exact Or.inl (abandoned_of_prepare hw)
  | ok start =>
      -- Up to the output, the files are those of the invocation but for the log.
      have hspares := spares_loadAndCompile read (spares_of_prepare hw)
      have hcompiles {d : Descriptor} (hd : (loadAndCompile read start options inv).2 = .ok d) :=
        loadAndCompile_eq_ok hw hinput hd
      simp only
      rcases hrun : loadAndCompile read start options inv with ⟨w, result⟩
      rw [hrun] at hspares hcompiles
      cases result with
      | error fault =>
          exact Or.inl (hspares.abandoned_stop fault)
      | ok d =>
          rcases hcompiles rfl with ⟨tables, bytes, lines, hsource⟩
          rcases writeOutput_cases hspares hsource.compiled htarget with hfailed | hwritten
          · exact Or.inl hfailed
          · exact Or.inr ⟨tables, bytes, lines, d, hsource, hwritten⟩

end CommandLine
end HidDescriptor
