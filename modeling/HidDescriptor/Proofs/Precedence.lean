import HidDescriptor.Proofs.Layering
import HidDescriptor.Proofs.Stacks
import HidDescriptor.Proofs.TableNames
import Mathlib.Data.String.Basic

/-!
# Precedence of layers

The last layer that has a name decides on its value.

- `TableKind`, `Base.tables`, `Base.usageTables`: the tables that a layer holds
- `Base.Readable`, `Layers.exists_addAll_iff`: when directories can be added
- `Layers.Stacked`: the tables under construction, by the layers so far
- `Layers.Stacked.addDirectory_last`: a directory that is added twice
- `Tables.load_last_wins`: loaded tables
-/

namespace HidDescriptor

/-! ## The tables of a layer -/

inductive TableKind
  | usagePages
  | collections
  | flags

def TableKind.file : TableKind → String
  | usagePages => "usage_pages.yml"
  | collections => "collections.yml"
  | flags => "flags.yml"

theorem TableKind.forall_iff {P : TableKind → Prop} :
    (∀ kind, P kind) ↔ P .usagePages ∧ P .collections ∧ P .flags := by
  constructor
  · exact fun h => ⟨h .usagePages, h .collections, h .flags⟩
  · rintro ⟨husagePages, hcollections, hflags⟩ kind
    cases kind with
    | usagePages =>
        exact husagePages
    | collections =>
        exact hcollections
    | flags =>
        exact hflags

def Tables.table (tables : Tables) : TableKind → Table
  | .usagePages => tables.usagePages
  | .collections => tables.collections
  | .flags => tables.flags

namespace Layers

def table? (layers : Layers) : TableKind → Option Table
  | .usagePages => layers.usagePages
  | .collections => layers.collections
  | .flags => layers.flags

def pageFiles (directory : String) (names : List String) : List (String × String) :=
  names.filterMap fun name => (pageOf? name).map fun page => (page, FileTree.join directory name)

def usageFiles (tree : FileTree) (directory : String) : List (String × String) :=
  pageFiles (FileTree.join directory "usages") (usageNames tree directory)

def pathsFor (page : String) (files : List (String × String)) : List String :=
  (files.filter fun file => file.1 = page).map (·.2)

/-- The path of the file for a table, if it is there. -/
def file? (tree : FileTree) (directory : String) (kind : TableKind) : Option String :=
  let path := FileTree.join directory kind.file
  if tree.isFile path then some path else none

def tablesAt (read : Table.Reader) (tree : FileTree) (paths : List String) : List Table :=
  paths.filterMap fun path => (loadTable read tree path).toOption

/-- Whether a file holds a table. -/
def Loads (read : Table.Reader) (tree : FileTree) (path : String) : Prop :=
  ∃ table, loadTable read tree path = .ok table

end Layers

namespace Base

/-- The tables of a kind that a layer holds. There is one, or none. -/
def tables (read : Table.Reader) (tree : FileTree) (kind : TableKind) : Base → List Table
  | .standard => [Tables.standard.table kind]
  | .directory path => Layers.tablesAt read tree (Layers.file? tree path kind).toList

/-- The tables for a page that a layer holds. A directory has as many as the files whose names
differ in case only. -/
def usageTables (read : Table.Reader) (tree : FileTree) (page : String) : Base → List Table
  | .standard => (Tables.standard.usages.get? page).toList
  | .directory path =>
      Layers.tablesAt read tree (Layers.pathsFor page (Layers.usageFiles tree path))

def HasTable (tree : FileTree) (kind : TableKind) : Base → Prop
  | .standard => True
  | .directory path => tree.isFile (FileTree.join path kind.file) = true

/-- Whether a layer has a table for a page: a directory has it in a file that is named by the page,
in letters of any case. -/
def HasPage (tree : FileTree) (page : String) : Base → Prop
  | .standard => page ∈ Tables.standard.usages.keys
  | .directory path =>
      tree.isDirectory (FileTree.join path "usages") = true ∧
        ∃ stem, String.ofList (stem ++ ".yml".toList) ∈ tree.list (FileTree.join path "usages") ∧
          String.ofList (Text.lower stem) = page

/-- Whether all files of a layer hold tables. -/
def Readable (read : Table.Reader) (tree : FileTree) : Base → Prop
  | .standard => True
  | .directory path =>
      (∀ kind, ∀ file ∈ Layers.file? tree path kind, Layers.Loads read tree file) ∧
        ∀ file ∈ Layers.usageFiles tree path, Layers.Loads read tree file.2

end Base

namespace Layers

variable {read : Table.Reader} {tree : FileTree} {directory : String} {path page : String}

theorem tablesAt_cons {table : Table} (h : loadTable read tree path = .ok table)
    (paths : List String) :
    tablesAt read tree (path :: paths) = table :: tablesAt read tree paths := by
  refine List.filterMap_cons_some ?_
  rw [h]
  rfl

theorem tablesAt_ne_nil_iff {paths : List String} (h : ∀ path ∈ paths, Loads read tree path) :
    tablesAt read tree paths ≠ [] ↔ paths ≠ [] := by
  cases paths with
  | nil =>
      simp [tablesAt]
  | cons path rest =>
      rcases h path List.mem_cons_self with ⟨table, htable⟩
      simp [tablesAt_cons htable]

theorem pageOf?_eq_some_iff {name : String} :
    pageOf? name = some page ↔
      ∃ stem, name = String.ofList (stem ++ ".yml".toList) ∧ String.ofList (Text.lower stem) = page := by
  unfold pageOf?
  simp only
  split
  next hsuffix =>
    have hparts := List.suffix_iff_eq_append.1 (List.isSuffixOf_iff_suffix.1 hsuffix)
    constructor
    · intro h
      refine ⟨_, ?_, Option.some.inj h⟩
      have hname := congrArg String.ofList hparts
      rwa [String.ofList_toList, eq_comm] at hname
    · rintro ⟨stem, rfl, rfl⟩
      have hlength : (stem ++ ".yml".toList).length - suffix.length = stem.length := by
        simp [suffix]
      rw [String.toList_ofList, hlength, List.take_left]
  next hsuffix =>
    constructor
    · intro h
      cases h
    · rintro ⟨stem, rfl, _⟩
      refine absurd ?_ hsuffix
      rw [String.toList_ofList]
      exact List.isSuffixOf_iff_suffix.2 (List.suffix_append stem _)

theorem pathsFor_ne_nil_iff {files : List (String × String)} :
    pathsFor page files ≠ [] ↔ ∃ file ∈ files, file.1 = page := by
  simp [pathsFor]

theorem exists_usageFile_iff :
    (∃ file ∈ usageFiles tree directory, file.1 = page) ↔
      (Base.directory directory).HasPage tree page := by
  have hname : (∃ file ∈ usageFiles tree directory, file.1 = page) ↔
      ∃ name ∈ usageNames tree directory, pageOf? name = some page := by
    simp [usageFiles, pageFiles]
  rw [hname]
  simp only [pageOf?_eq_some_iff, usageNames, Base.HasPage]
  split
  next hthere =>
    constructor
    · rintro ⟨name, hname, stem, rfl, hpage⟩
      exact ⟨hthere, stem, hname, hpage⟩
    · rintro ⟨_, stem, hname, hpage⟩
      exact ⟨_, hname, stem, rfl, hpage⟩
  next hthere =>
    simp [hthere]

/-! ## Files for usages -/

def addUsage (read : Table.Reader) (tree : FileTree) (usages : Dictionary Table)
    (file : String × String) : Except Fault (Dictionary Table) := do
  let table ← loadTable read tree file.2
  .ok (usages.insert file.1 (upon (usages.get? file.1) table))

variable {usages usages' : Dictionary Table} {file : String × String}
  {files : List (String × String)}

theorem addUsages_eq (directory : String) (usages : Dictionary Table) (names : List String) :
    addUsages read tree directory usages names =
      (pageFiles directory names).foldlM (addUsage read tree) usages := by
  induction names generalizing usages with
  | nil =>
      rfl
  | cons name rest ih =>
      unfold addUsages pageFiles
      cases hpage : pageOf? name with
      | none =>
          simp only [List.filterMap_cons, hpage, Option.map_none]
          exact ih usages
      | some page =>
          simp only [List.filterMap_cons, hpage, Option.map_some, List.foldlM_cons, addUsage]
          cases loadTable read tree (FileTree.join directory name) with
          | error fault =>
              rfl
          | ok table =>
              exact ih _

theorem addUsage_eq_ok_iff :
    addUsage read tree usages file = .ok usages' ↔
      ∃ table, loadTable read tree file.2 = .ok table ∧
        usages.insert file.1 (upon (usages.get? file.1) table) = usages' := by
  rw [addUsage, bind_eq_ok_iff]
  simp only [Except.ok.injEq]

theorem addUsage_cons_eq_ok_iff :
    (file :: files).foldlM (addUsage read tree) usages = .ok usages' ↔
      ∃ table, loadTable read tree file.2 = .ok table ∧
        files.foldlM (addUsage read tree) (usages.insert file.1 (upon (usages.get? file.1) table)) =
          .ok usages' := by
  rw [List.foldlM_cons, bind_eq_ok_iff]
  constructor
  · rintro ⟨next, hnext, h⟩
    rcases addUsage_eq_ok_iff.1 hnext with ⟨table, htable, rfl⟩
    exact ⟨table, htable, h⟩
  · rintro ⟨table, htable, h⟩
    exact ⟨_, addUsage_eq_ok_iff.2 ⟨table, htable, rfl⟩, h⟩

theorem exists_addUsage_iff :
    (∃ usages', files.foldlM (addUsage read tree) usages = .ok usages') ↔
      ∀ file ∈ files, Loads read tree file.2 := by
  induction files generalizing usages with
  | nil =>
      exact ⟨fun _ => List.forall_mem_nil _, fun _ => ⟨usages, rfl⟩⟩
  | cons file rest ih =>
      rw [List.forall_mem_cons]
      constructor
      · rintro ⟨usages', h⟩
        rcases addUsage_cons_eq_ok_iff.1 h with ⟨table, htable, h⟩
        exact ⟨⟨table, htable⟩, ih.1 ⟨usages', h⟩⟩
      · rintro ⟨⟨table, htable⟩, hrest⟩
        rcases ih.2 hrest with ⟨usages', h⟩
        exact ⟨usages', addUsage_cons_eq_ok_iff.2 ⟨table, htable, h⟩⟩

/-- Each file goes on top of the tables for its page, so those of one page end up in the order of
their files. -/
theorem get?_addUsage {tables : List Table}
    (h : files.foldlM (addUsage read tree) usages = .ok usages')
    (hpage : usages.get? page = Table.stack tables) :
    usages'.get? page = Table.stack (tables ++ tablesAt read tree (pathsFor page files)) := by
  induction files generalizing usages tables with
  | nil =>
      cases h
      simpa [tablesAt, pathsFor] using hpage
  | cons file rest ih =>
      rcases addUsage_cons_eq_ok_iff.1 h with ⟨table, htable, h⟩
      -- A file for another page changes neither side.
      by_cases hfile : file.1 = page
      · have hnext : (usages.insert file.1 (upon (usages.get? file.1) table)).get? page =
            Table.stack (tables ++ [table]) := by
          rw [Dictionary.get?_insert, if_pos hfile.symm, hfile, hpage,
            Table.stack_concat]
        have hpaths : pathsFor page (file :: rest) = file.2 :: pathsFor page rest := by
          simp [pathsFor, hfile]
        rw [hpaths, tablesAt_cons htable, ih h hnext, List.append_assoc, List.singleton_append]
      · have hnext : (usages.insert file.1 (upon (usages.get? file.1) table)).get? page =
            Table.stack tables := by
          rw [Dictionary.get?_insert, if_neg (Ne.symm hfile), hpage]
        have hpaths : pathsFor page (file :: rest) = pathsFor page rest := by
          simp [pathsFor, hfile]
        rw [hpaths]
        exact ih h hnext

/-- Files for known pages leave the pages in their places. -/
theorem keys_addUsage (h : files.foldlM (addUsage read tree) usages = .ok usages')
    (hknown : ∀ file ∈ files, file.1 ∈ usages.keys) : usages'.keys = usages.keys := by
  induction files generalizing usages with
  | nil =>
      cases h
      rfl
  | cons file rest ih =>
      rcases addUsage_cons_eq_ok_iff.1 h with ⟨table, _, h⟩
      rcases List.forall_mem_cons.1 hknown with ⟨hfile, hrest⟩
      have hkeys : (usages.insert file.1 (upon (usages.get? file.1) table)).keys = usages.keys := by
        rw [Dictionary.keys_insert, if_pos hfile]
      rw [ih h, hkeys]
      rw [hkeys]
      exact hrest

/-! ## Directories -/

variable {layers layers' : Layers} {kind : TableKind}

theorem addTable_eq (read : Table.Reader) (tree : FileTree) (directory : String)
    (kind : TableKind) (base : Option Table) :
    addTable read tree directory kind.file base =
      match file? tree directory kind with
      | none => .ok base
      | some path => (loadTable read tree path).map fun table => some (upon base table) := by
  by_cases hthere : tree.isFile (FileTree.join directory kind.file) = true
  · simp only [addTable, file?, hthere, if_true]
    cases loadTable read tree (FileTree.join directory kind.file) with
    | error fault =>
        rfl
    | ok table =>
        rfl
  · simp only [addTable, file?, hthere]
    rfl

theorem exists_addTable_iff {base : Option Table} :
    (∃ table, addTable read tree directory kind.file base = .ok table) ↔
      ∀ file ∈ file? tree directory kind, Loads read tree file := by
  rw [addTable_eq]
  cases file? tree directory kind with
  | none =>
      simp
  | some path =>
      simp only [Option.mem_def, Option.some.injEq, forall_eq', map_eq_ok_iff]
      constructor
      · rintro ⟨_, table, htable, _⟩
        exact ⟨table, htable⟩
      · rintro ⟨table, htable⟩
        exact ⟨_, table, htable, rfl⟩

theorem addTable_stack {tables : List Table} {table : Option Table}
    (h : addTable read tree directory kind.file (Table.stack tables) = .ok table) :
    table = Table.stack (tables ++ (Base.directory directory).tables read tree kind) := by
  rw [addTable_eq] at h
  unfold Base.tables
  simp only
  cases hfile : file? tree directory kind with
  | none =>
      rw [hfile] at h
      cases h
      simp [tablesAt]
  | some path =>
      rw [hfile] at h
      rcases map_eq_ok_iff.1 h with ⟨extra, hextra, rfl⟩
      rw [Option.toList_some, tablesAt_cons hextra]
      exact (Table.stack_concat tables extra).symm

theorem addDirectory_eq_ok_iff_kind :
    addDirectory read tree layers directory = .ok layers' ↔
      (∀ kind : TableKind,
        addTable read tree directory kind.file (layers.table? kind) = .ok (layers'.table? kind)) ∧
      (usageFiles tree directory).foldlM (addUsage read tree) layers.usages = .ok layers'.usages := by
  rw [addDirectory_eq_ok_iff, addUsages_eq, TableKind.forall_iff, and_assoc, and_assoc]
  rfl

/-- Whether the layer of a directory can be added does not depend on those below it. -/
theorem exists_addDirectory_iff :
    (∃ layers', addDirectory read tree layers directory = .ok layers') ↔
      (Base.directory directory).Readable read tree := by
  simp only [addDirectory_eq_ok_iff_kind]
  constructor
  · rintro ⟨layers', htables, husages⟩
    refine ⟨?_, exists_addUsage_iff.1 ⟨_, husages⟩⟩
    intro kind
    exact exists_addTable_iff.1 ⟨_, htables kind⟩
  · rintro ⟨htables, husages⟩
    rcases exists_addTable_iff.2 (htables .usagePages) with ⟨usagePages, husagePages⟩
    rcases exists_addTable_iff.2 (htables .collections) with ⟨collections, hcollections⟩
    rcases exists_addTable_iff.2 (htables .flags) with ⟨flags, hflags⟩
    rcases exists_addUsage_iff.2 husages with ⟨usages, husages⟩
    exact ⟨⟨usagePages, collections, flags, usages⟩,
      TableKind.forall_iff.2 ⟨husagePages, hcollections, hflags⟩, husages⟩

/-- Tables under construction that hold exactly what the layers so far hold. -/
structure Stacked (read : Table.Reader) (tree : FileTree) (bases : List Base)
    (layers : Layers) : Prop where
  tables : ∀ kind, layers.table? kind = Table.stack (bases.flatMap (Base.tables read tree kind))
  usages : ∀ page,
    layers.usages.get? page = Table.stack (bases.flatMap (Base.usageTables read tree page))

variable {bases : List Base}

theorem stacked_empty (read : Table.Reader) (tree : FileTree) : Stacked read tree [] empty where
  tables kind := by cases kind <;> rfl
  usages _ := rfl

theorem Stacked.addDirectory (hlayers : Stacked read tree bases layers)
    (h : addDirectory read tree layers directory = .ok layers') :
    Stacked read tree (bases ++ [.directory directory]) layers' := by
  rcases addDirectory_eq_ok_iff_kind.1 h with ⟨htables, husages⟩
  refine ⟨?_, ?_⟩
  · intro kind
    have hkind := htables kind
    rw [hlayers.tables kind] at hkind
    rw [List.flatMap_append, List.flatMap_singleton]
    exact addTable_stack hkind
  · intro page
    rw [List.flatMap_append, List.flatMap_singleton]
    exact get?_addUsage husages (hlayers.usages page)

theorem Stacked.addAll {base : Base} {directories : List String}
    (hlayers : Stacked read tree bases layers)
    (h : addAll read tree base layers directories = .ok layers') :
    Stacked read tree (bases ++ directories.map .directory) layers' := by
  induction directories generalizing bases layers with
  | nil =>
      cases h
      simpa using hlayers
  | cons directory rest ih =>
      rcases addAll_cons_eq_ok.1 h with ⟨_, next, hnext, h⟩
      have hrest := ih (hlayers.addDirectory hnext) h
      rwa [List.append_assoc] at hrest

theorem exists_addAll_iff {base : Base} {directories : List String} :
    (∃ layers', addAll read tree base layers directories = .ok layers') ↔
      ∀ directory ∈ directories,
        (base = .directory directory ∨ tree.isDirectory directory = true) ∧
          (Base.directory directory).Readable read tree := by
  induction directories generalizing layers with
  | nil =>
      exact ⟨fun _ => List.forall_mem_nil _, fun _ => ⟨layers, rfl⟩⟩
  | cons directory rest ih =>
      rw [List.forall_mem_cons]
      simp only [addAll_cons_eq_ok]
      constructor
      · rintro ⟨layers', hthere, next, hnext, h⟩
        exact ⟨⟨hthere, exists_addDirectory_iff.1 ⟨next, hnext⟩⟩, ih.1 ⟨layers', h⟩⟩
      · rintro ⟨⟨hthere, hreadable⟩, hrest⟩
        rcases exists_addDirectory_iff.2 hreadable with ⟨next, hnext⟩
        rcases ih.2 hrest with ⟨layers', h⟩
        exact ⟨layers', hthere, next, hnext, h⟩

end Layers

/-! ## Layers on the whole -/

namespace Base

variable {read : Table.Reader} {tree : FileTree} {kind : TableKind} {page : String} {layer : Base}

theorem tables_ne_nil_iff (h : layer.Readable read tree) :
    layer.tables read tree kind ≠ [] ↔ layer.HasTable tree kind := by
  cases layer with
  | standard =>
      simp [tables, HasTable]
  | directory path =>
      have hloads : ∀ file ∈ (Layers.file? tree path kind).toList, Layers.Loads read tree file :=
        fun file hfile => h.1 kind file (Option.mem_toList.1 hfile)
      rw [tables, Layers.tablesAt_ne_nil_iff hloads]
      simp [Layers.file?, HasTable]

theorem usageTables_ne_nil_iff (h : layer.Readable read tree) :
    layer.usageTables read tree page ≠ [] ↔ layer.HasPage tree page := by
  cases layer with
  | standard =>
      simp [usageTables, HasPage, Dictionary.mem_keys_iff, Option.isSome_iff_ne_none]
  | directory path =>
      have hloads : ∀ file ∈ Layers.pathsFor page (Layers.usageFiles tree path),
          Layers.Loads read tree file := by
        intro file hfile
        rcases List.mem_map.1 hfile with ⟨pair, hpair, rfl⟩
        exact h.2 pair (List.mem_of_mem_filter hpair)
      rw [usageTables, Layers.tablesAt_ne_nil_iff hloads, Layers.pathsFor_ne_nil_iff,
        Layers.exists_usageFile_iff]

end Base

namespace Layers

variable {read : Table.Reader} {tree : FileTree} {bases : List Base} {layers layers' : Layers}
  {directory : String}

theorem table?_ofTables (tables : Tables) (kind : TableKind) :
    (ofTables tables).table? kind = some (tables.table kind) := by
  cases kind <;> rfl

theorem exists_ofTables_iff_isSome :
    (∃ tables, layers = ofTables tables) ↔ ∀ kind, (layers.table? kind).isSome = true := by
  constructor
  · rintro ⟨tables, rfl⟩ kind
    rw [table?_ofTables]
    rfl
  · intro h
    rcases layers with ⟨usagePages, collections, flags, usages⟩
    rcases Option.isSome_iff_exists.1 (h .usagePages) with ⟨usagePages, rfl⟩
    rcases Option.isSome_iff_exists.1 (h .collections) with ⟨collections, rfl⟩
    rcases Option.isSome_iff_exists.1 (h .flags) with ⟨flags, rfl⟩
    exact ⟨⟨usagePages, usages, collections, flags⟩, rfl⟩

theorem eq_of_tables_eq (htables : ∀ kind, layers.table? kind = layers'.table? kind)
    (husages : layers.usages = layers'.usages) : layers = layers' := by
  rcases layers with ⟨usagePages, collections, flags, usages⟩
  rcases layers' with ⟨usagePages', collections', flags', usages'⟩
  obtain rfl : usagePages = usagePages' := htables .usagePages
  obtain rfl : collections = collections' := htables .collections
  obtain rfl : flags = flags' := htables .flags
  obtain rfl : usages = usages' := husages
  rfl

theorem stacked_ofBase {base : Base} (h : ofBase read tree base = .ok layers) :
    Stacked read tree [base] layers := by
  cases base with
  | standard =>
      obtain rfl : ofTables .standard = layers := Except.ok.inj h
      refine ⟨table?_ofTables .standard, ?_⟩
      intro page
      rw [List.flatMap_singleton, Base.usageTables]
      cases hpage : Tables.standard.usages.get? page with
      | none =>
          exact hpage
      | some table =>
          exact hpage
  | directory path =>
      exact (stacked_empty read tree).addDirectory h

theorem exists_ofBase_iff {base : Base} :
    (∃ layers, ofBase read tree base = .ok layers) ↔ base.Readable read tree := by
  cases base with
  | standard =>
      exact ⟨fun _ => trivial, fun _ => ⟨ofTables .standard, rfl⟩⟩
  | directory path =>
      exact exists_addDirectory_iff

/-- A set of tables is complete if the layers have each of the three tables between them. -/
theorem Stacked.exists_ofTables_iff (h : Stacked read tree bases layers)
    (hreadable : ∀ layer ∈ bases, layer.Readable read tree) :
    (∃ tables, layers = ofTables tables) ↔
      ∀ kind, ∃ layer ∈ bases, layer.HasTable tree kind := by
  rw [exists_ofTables_iff_isSome]
  refine forall_congr' fun kind => ?_
  rw [h.tables]
  exact Table.isSome_stack_flatMap_iff fun layer hlayer =>
    Base.tables_ne_nil_iff (hreadable layer hlayer)

/-- The directory on top can be added again, and nothing changes. Files of one page whose names
differ in case only overwrite each other anew, but the last one of them wins as before. -/
theorem Stacked.addDirectory_last (h : Stacked read tree bases layers)
    (hreadable : (Base.directory directory).Readable read tree)
    (hlast : bases.getLast? = some (.directory directory)) :
    Layers.addDirectory read tree layers directory = .ok layers := by
  rcases exists_addDirectory_iff.2 hreadable with ⟨layers', hlayers'⟩
  have h' := h.addDirectory hlayers'
  have htables : ∀ kind, layers'.table? kind = layers.table? kind := by
    intro kind
    rw [h'.tables, h.tables, Table.stack_flatMap_last hlast]
  have hpages : ∀ page, layers'.usages.get? page = layers.usages.get? page := by
    intro page
    rw [h'.usages, h.usages, Table.stack_flatMap_last hlast]
  -- The pages of the directory are known from its first turn, so they keep their order as well.
  have hkeys : layers'.usages.keys = layers.usages.keys := by
    refine keys_addUsage (addDirectory_eq_ok_iff_kind.1 hlayers').2 ?_
    intro file hfile
    have hlayer : (Base.directory directory).usageTables read tree file.1 ≠ [] :=
      (Base.usageTables_ne_nil_iff hreadable).2 (exists_usageFile_iff.1 ⟨file, hfile, rfl⟩)
    rw [Dictionary.mem_keys_iff, h.usages, Table.isSome_stack_flatMap_iff fun _ _ => Iff.rfl]
    exact ⟨_, List.mem_of_getLast? hlast, hlayer⟩
  have husages := Dictionary.eq_of_keys_eq hkeys hpages
  rw [hlayers', eq_of_tables_eq htables husages]

end Layers

/-- The names in a directory are in order. -/
theorem FileTree.pairwise_list (tree : FileTree) (path : String) :
    (tree.list path).Pairwise (· ≤ ·) := by
  unfold list
  split
  next =>
    have htrans : ∀ a b c : String, decide (a ≤ b) = true → decide (b ≤ c) = true →
        decide (a ≤ c) = true := by
      simpa using fun a b c : String => String.le_trans
    have htotal : ∀ a b : String, (decide (a ≤ b) || decide (b ≤ a)) = true := by
      simpa using String.le_total
    exact (List.pairwise_mergeSort htrans htotal _).imp of_decide_eq_true
  next =>
    exact List.Pairwise.nil

namespace Tables

/-- All layers, the first one in front. -/
def layersOf (base : Base) (directories : List String) : List Base :=
  base :: directories.map .directory

variable {read : Table.Reader} {tree : FileTree} {base : Base} {directories : List String}
  {tables : Tables}

theorem stacked_layersOf {layers layers' : Layers}
    (hbase : Layers.ofBase read tree base = .ok layers)
    (h : Layers.addAll read tree base layers directories = .ok layers') :
    Layers.Stacked read tree (layersOf base directories) layers' :=
  (Layers.stacked_ofBase hbase).addAll h

theorem stacked_of_load (h : load read tree base directories = .ok tables) :
    Layers.Stacked read tree (layersOf base directories) (Layers.ofTables tables) := by
  rcases load_eq_ok_iff.1 h with ⟨layers, hbase, hlayers⟩
  exact stacked_layersOf hbase hlayers

theorem forall_mem_layersOf {P : Base → Prop} :
    (∀ layer ∈ layersOf base directories, P layer) ↔
      P base ∧ ∀ directory ∈ directories, P (.directory directory) := by
  simp [layersOf]

/-- What all layers have to be like for them to be put upon each other. -/
theorem exists_layers_iff :
    (∃ layers layers', Layers.ofBase read tree base = .ok layers ∧
      Layers.addAll read tree base layers directories = .ok layers') ↔
      (∀ directory ∈ directories,
        base = .directory directory ∨ tree.isDirectory directory = true) ∧
      ∀ layer ∈ layersOf base directories, layer.Readable read tree := by
  rw [forall_mem_layersOf]
  constructor
  · rintro ⟨layers, layers', hbase, hlayers⟩
    have hall := Layers.exists_addAll_iff.1 ⟨layers', hlayers⟩
    exact ⟨fun directory hmem => (hall directory hmem).1, Layers.exists_ofBase_iff.1 ⟨layers, hbase⟩,
      fun directory hmem => (hall directory hmem).2⟩
  · rintro ⟨hthere, hbase, hreadable⟩
    rcases Layers.exists_ofBase_iff.2 hbase with ⟨layers, hlayers⟩
    rcases Layers.exists_addAll_iff.2 fun directory hmem =>
      ⟨hthere directory hmem, hreadable directory hmem⟩ with ⟨layers', hlayers'⟩
    exact ⟨layers, layers', hlayers, hlayers'⟩

theorem exists_load_iff :
    (∃ tables, load read tree base directories = .ok tables) ↔
      (∀ directory ∈ directories,
        base = .directory directory ∨ tree.isDirectory directory = true) ∧
      (∀ layer ∈ layersOf base directories, layer.Readable read tree) ∧
      ∀ kind, ∃ layer ∈ layersOf base directories, layer.HasTable tree kind := by
  constructor
  · rintro ⟨tables, h⟩
    rcases load_eq_ok_iff.1 h with ⟨layers, hbase, hlayers⟩
    rcases exists_layers_iff.1 ⟨layers, _, hbase, hlayers⟩ with ⟨hthere, hreadable⟩
    exact ⟨hthere, hreadable, ((stacked_of_load h).exists_ofTables_iff hreadable).1 ⟨tables, rfl⟩⟩
  · rintro ⟨hthere, hreadable, htables⟩
    rcases exists_layers_iff.2 ⟨hthere, hreadable⟩ with ⟨layers, layers', hbase, hlayers⟩
    have hstacked := stacked_layersOf hbase hlayers
    rcases (hstacked.exists_ofTables_iff hreadable).2 htables with ⟨tables, rfl⟩
    exact ⟨tables, load_eq_ok_iff.2 ⟨layers, hbase, hlayers⟩⟩

/-- The directory on top can be named again. -/
theorem load_concat_last {last : String}
    (hlast : (layersOf base directories).getLast? = some (.directory last)) :
    load read tree base (directories ++ [last]) = load read tree base directories := by
  rw [load_eq, load_eq]
  cases hbase : Layers.ofBase read tree base with
  | error fault =>
      rfl
  | ok layers =>
      refine congrArg (· >>= Layers.tables) ?_
      rw [Layers.addAll_append]
      cases hlayers : Layers.addAll read tree base layers directories with
      | error fault =>
          rfl
      | ok layers' =>
          rcases exists_layers_iff.1 ⟨layers, layers', hbase, hlayers⟩ with ⟨hthere, hreadable⟩
          have hmem : .directory last ∈ layersOf base directories := List.mem_of_getLast? hlast
          have hagain := (stacked_layersOf hbase hlayers).addDirectory_last (hreadable _ hmem) hlast
          -- It was found to exist the first time, or is the first layer, which is not looked for.
          have hknown : base = .directory last ∨ tree.isDirectory last = true := by
            rcases List.mem_cons.1 hmem with hbase | hmem
            · exact Or.inl hbase.symm
            · rcases List.mem_map.1 hmem with ⟨directory, hmem, hsame⟩
              cases hsame
              exact hthere last hmem
          exact Layers.addAll_cons_eq_ok.2 ⟨hknown, layers', hagain, rfl⟩

/-- The last layer wins. Tables can be loaded if all directories exist, but for one that is the first
layer again, if all their files hold tables, and if each of the three tables is there in some layer.
Then a name has the value of the last layer that gives it one, and a page has a table if some layer
has a file for it, where the files of one directory count in the order of their names. So naming the
last directory twice changes nothing. All of this holds however the content of a file is read. -/
theorem load_last_wins (read : Table.Reader) (tree : FileTree) (base : Base)
    (directories : List String) :
    ((∃ tables, load read tree base directories = .ok tables) ↔
      (∀ directory ∈ directories,
        base = .directory directory ∨ tree.isDirectory directory = true) ∧
      (∀ layer ∈ layersOf base directories, layer.Readable read tree) ∧
      ∀ kind, ∃ layer ∈ layersOf base directories, layer.HasTable tree kind) ∧
    (∀ tables, load read tree base directories = .ok tables →
      (∀ kind name value, (tables.table kind).get? name = some value ↔
        Table.LastDefines ((layersOf base directories).flatMap (Base.tables read tree kind))
          name value) ∧
      ∀ page,
        ((tables.usages.get? page).isSome = true ↔
          ∃ layer ∈ layersOf base directories, layer.HasPage tree page) ∧
        ∀ table, tables.usages.get? page = some table → ∀ name value,
          table.get? name = some value ↔
            Table.LastDefines ((layersOf base directories).flatMap (Base.usageTables read tree page))
              name value) ∧
    (∀ path, (tree.list path).Pairwise (· ≤ ·)) ∧
    ∀ last, (layersOf base directories).getLast? = some (.directory last) →
      load read tree base (directories ++ [last]) = load read tree base directories := by
  refine ⟨exists_load_iff, ?_, tree.pairwise_list, fun last => load_concat_last⟩
  intro tables h
  have hstacked := stacked_of_load h
  have hreadable := (exists_load_iff.1 ⟨tables, h⟩).2.1
  constructor
  · -- The loaded tables are the stacks of the layers, so look-ups are those of the stacks.
    intro kind name value
    have hkind := (hstacked.tables kind).symm.trans (Layers.table?_ofTables tables kind)
    exact Table.get?_of_stack_flatMap hkind value
  · intro page
    have hpage : tables.usages.get? page =
        Table.stack ((layersOf base directories).flatMap (Base.usageTables read tree page)) :=
      hstacked.usages page
    constructor
    · rw [hpage]
      exact Table.isSome_stack_flatMap_iff fun layer hlayer =>
        Base.usageTables_ne_nil_iff (hreadable layer hlayer)
    · intro table htable name value
      exact Table.get?_of_stack_flatMap (hpage.symm.trans htable) value

/-- A directory overrides a flag, and a usage in a file of another case, and leaves the other tables
out. -/
theorem load_last_wins_override :
    ∃ (tree : FileTree) (tables : Tables) (leds : Table),
      load TableFile.read tree (.directory "base") ["more"] = .ok tables ∧
      Table.LastDefines
        ((layersOf (.directory "base") ["more"]).flatMap (Base.tables TableFile.read tree .flags))
        "data" 4 ∧
      tables.usages.get? "led" = some leds ∧
      Table.LastDefines
        ((layersOf (.directory "base") ["more"]).flatMap (Base.usageTables TableFile.read tree "led"))
        "power" 5 ∧
      load TableFile.read tree (.directory "base") ["more", "more"] = .ok tables := by
  let tree : FileTree :=
    ⟨[(["base"], .directory), (["base", "usage_pages.yml"], .file "led: 8\n".toUTF8.toList),
      (["base", "collections.yml"], .file "physical: 0\n".toUTF8.toList),
      (["base", "flags.yml"], .file "data: 0\nvariable: 2\n".toUTF8.toList),
      (["base", "usages"], .directory),
      (["base", "usages", "led.yml"], .file "power: 6\n".toUTF8.toList),
      (["more"], .directory),
      (["more", "flags.yml"], .file "data: 4\n".toUTF8.toList),
      (["more", "usages"], .directory),
      (["more", "usages", "LED.yml"], .file "mute: 9\npower: 5\n".toUTF8.toList)]⟩
  let leds : Table := .ofList [("power", 5), ("mute", 9)]
  let tables : Tables :=
    ⟨.ofList [("led", 8)], .ofList [("led", leds)], .ofList [("physical", 0)],
      .ofList [("data", 4), ("variable", 2)]⟩
  have hload : load TableFile.read tree (.directory "base") ["more"] = .ok tables := by
    decide +kernel
  rcases load_last_wins TableFile.read tree (.directory "base") ["more"] with
    ⟨_, hlookups, _, hagain⟩
  rcases hlookups tables hload with ⟨hnames, hpages⟩
  exact ⟨tree, tables, leds, hload, (hnames .flags "data" 4).1 rfl, rfl,
    ((hpages "led").2 leds rfl "power" 5).1 rfl, (hagain "more" rfl).trans hload⟩

end Tables

end HidDescriptor
