import HidDescriptor.FileTree
import HidDescriptor.Table.Standard

/-!
# Layers of tables

Tables are loaded from directories, one layer upon the other. A name in a later layer replaces
the same name in an earlier one. How the content of a file is read is left open.

- `Table.Reader`: what turns the bytes of a table file into a value
- `Base`: where the first layer comes from
- `Layers`: the tables loaded so far
- `Layers.addDirectory`, `Layers.addDirectories`: the layers of one directory and of several
- `Tables.load`: all layers
-/

namespace HidDescriptor

/-- What turns the bytes of a table file into a value. -/
abbrev Table.Reader := List UInt8 → Except ReadFault Datum

/-- The first layer: the standard tables, or a directory in their place. -/
inductive Base
  | standard
  | directory (path : String)
  deriving DecidableEq

/-- Tables under construction. A table that no layer had is absent. -/
structure Layers where
  usagePages : Option Table
  collections : Option Table
  flags : Option Table
  usages : Dictionary Table

namespace Layers

variable (read : Table.Reader)

def empty : Layers := ⟨none, none, none, .empty⟩

def upon (base : Option Table) (extra : Table) : Table :=
  (base.getD .empty).merge extra

def loadTable (tree : FileTree) (path : String) : Except Fault Table :=
  match tree.readFile path with
  | .error fault => .error (.table (.unreadable path (.file fault)))
  | .ok bytes =>
      match read bytes with
      | .error fault => .error (.table (.unreadable path fault))
      | .ok raw => Table.ofDatum raw path

/-- A table with the file of a directory upon it, if that file exists. -/
def addTable (tree : FileTree) (directory name : String) (base : Option Table) :
    Except Fault (Option Table) :=
  let path := FileTree.join directory name
  if tree.isFile path then do
    let table ← loadTable read tree path
    .ok (some (upon base table))
  else .ok base

def suffix : List Char := ".yml".toList

/-- The usage page whose table a file holds. -/
def pageOf? (name : String) : Option String :=
  let cs := name.toList
  if suffix.isSuffixOf cs then
    some (String.ofList (Text.lower (cs.take (cs.length - suffix.length))))
  else none

def addUsages (tree : FileTree) (directory : String) (usages : Dictionary Table) :
    List String → Except Fault (Dictionary Table)
  | [] => .ok usages
  | name :: rest =>
      match pageOf? name with
      | none => addUsages tree directory usages rest
      | some page => do
          let table ← loadTable read tree (FileTree.join directory name)
          addUsages tree directory (usages.insert page (upon (usages.get? page) table)) rest

def addDirectory (tree : FileTree) (layers : Layers) (directory : String) :
    Except Fault Layers := do
  let usagePages ← addTable read tree directory "usage_pages.yml" layers.usagePages
  let collections ← addTable read tree directory "collections.yml" layers.collections
  let flags ← addTable read tree directory "flags.yml" layers.flags
  let below := FileTree.join directory "usages"
  let usages ←
    if tree.isDirectory below then addUsages read tree below layers.usages (tree.list below)
    else .ok layers.usages
  .ok ⟨usagePages, collections, flags, usages⟩

def ofTables (tables : Tables) : Layers :=
  ⟨some tables.usagePages, some tables.collections, some tables.flags, tables.usages⟩

/-- The tables of the layers. Usage pages, collections and flags have to be there. -/
def tables (layers : Layers) : Except Fault Tables :=
  match layers.usagePages, layers.collections, layers.flags with
  | none, _, _ => .error (.table (.missingTable "usage_pages"))
  | _, none, _ => .error (.table (.missingTable "collections"))
  | _, _, none => .error (.table (.missingTable "flags"))
  | some usagePages, some collections, some flags =>
      .ok ⟨usagePages, layers.usages, collections, flags⟩

def ofBase (tree : FileTree) : Base → Except Fault Layers
  | .standard => .ok (ofTables .standard)
  | .directory path => addDirectory read tree empty path

/-- Adds the layers of directories in turn. Each directory is announced when it is found to exist,
and its files are read after that: the announcement may change them, where they are part of a
larger state. The directory of the first layer is neither looked for nor announced again. -/
def addDirectories {σ : Type} (files : σ → FileTree) (announce : σ → String → σ) (base : Base)
    (state : σ) (layers : Layers) : List String → σ × Except Fault Layers
  | [] => (state, .ok layers)
  | directory :: rest =>
      let known := base = .directory directory
      if !known && !(files state).isDirectory directory then
        (state, .error (.table (.noDirectory directory)))
      else
        let state := if known then state else announce state directory
        match addDirectory read (files state) layers directory with
        | .error fault => (state, .error fault)
        | .ok layers => addDirectories files announce base state layers rest

end Layers

namespace Tables

variable (read : Table.Reader)

def loadFrom {σ : Type} (files : σ → FileTree) (announce : σ → String → σ) (state : σ) (base : Base)
    (directories : List String) : σ × Except Fault Tables :=
  match Layers.ofBase read (files state) base with
  | .error fault => (state, .error fault)
  | .ok layers =>
      let (state, result) := Layers.addDirectories read files announce base state layers directories
      (state, result.bind Layers.tables)

/-- The tables of a first layer and further directories, from files that stay as they are. -/
def load (tree : FileTree) (base : Base) (directories : List String) : Except Fault Tables :=
  (loadFrom read id (fun tree _ => tree) tree base directories).2

end Tables
end HidDescriptor
