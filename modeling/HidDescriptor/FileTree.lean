import HidDescriptor.Fault

/-!
# File trees

The files and directories around a working directory, as a value.

- `FileTree`, `FileTree.node?`: what stands at a place
- `FileTree.resolve`: the place that a path leads to
- `isFile`, `isDirectory`, `list`, `readFile`: queries by path
- `writeTarget`, `put`, `makeDirectory`, `makeDirectories`: changes
- `changes`: the files that differ between two trees
-/

namespace HidDescriptor

/-- A place by the names on the way to it from the working directory. The name `..` leads upwards,
and the name `/` to the root of all files. -/
abbrev Place := List String

inductive Node
  | file (content : List UInt8)
  | directory
  deriving DecidableEq

/-- What is known of the places below the working directory and elsewhere. -/
structure FileTree where
  nodes : List (Place × Node)

namespace FileTree

def empty : FileTree := ⟨[]⟩

def rootName : String := "/"

/-- Whether a place is the working directory, a directory above it, or the root of all files. -/
def isAbove (place : Place) : Bool :=
  place.all (· == "..") || place == [rootName]

/-- What stands at a place. The working directory and those above it are always there. -/
def node? (tree : FileTree) (place : Place) : Option Node :=
  if isAbove place then some .directory else tree.nodes.lookup place

def putNode (place : Place) (node : Node) : List (Place × Node) → List (Place × Node)
  | [] => [(place, node)]
  | (p, n) :: rest =>
      if p = place then (place, node) :: rest else (p, n) :: putNode place node rest

def put (tree : FileTree) (place : Place) (node : Node) : FileTree :=
  ⟨putNode place node tree.nodes⟩

/-! ## Paths -/

/-- Why a path leads nowhere. -/
inductive Obstacle
  /-- A directory on the way is missing. -/
  | missing
  /-- A file stands where a directory should. -/
  | notADirectory
  | nameTooLong
  | nullCharacter
  deriving DecidableEq

def Obstacle.fault (path : String) : Obstacle → FileFault
  | missing => .noSuchFile path
  | notADirectory => .notADirectory path
  | nameTooLong => .nameTooLong path
  | nullCharacter => .nullCharacter

def maxNameBytes : Nat := 255

def maxPathBytes : Nat := 4095

/-- The names between the slashes of a path. -/
def components (path : String) : List String :=
  (path.toList.splitOn '/').map String.ofList

/-- The place that a name leads to from a place. -/
def below (place : Place) (name : String) : Place :=
  -- The root is above itself. From the working directory upwards each step adds a name.
  if name = ".." && place == [rootName] then place
  else if name = ".." && !isAbove place then place.dropLast
  else place ++ [name]

/-- Walks from a place along the names of a path. Each step needs a directory to stand in and a
name of bounded length. -/
def walk (tree : FileTree) (place : Place) : List String → Except Obstacle Place
  | [] => .ok place
  | name :: rest =>
      match tree.node? place with
      | none => .error .missing
      | some (.file _) => .error .notADirectory
      | some .directory =>
          -- An empty name stands between two slashes or behind the last one.
          if name = "" || name = "." then walk tree place rest
          else if maxNameBytes < name.utf8ByteSize then .error .nameTooLong
          else walk tree (below place name) rest

def checkPath (path : String) : Except Obstacle Unit :=
  if path.toList.contains (Char.ofNat 0) then .error .nullCharacter
  else if maxPathBytes < path.utf8ByteSize then .error .nameTooLong
  else .ok ()

/-- The place that a path leads to, whether or not something stands there. -/
def resolve (tree : FileTree) (path : String) : Except Obstacle Place := do
  checkPath path
  match components path with
  | [""] => .error .missing
  | "" :: names => tree.walk [rootName] names
  | names => tree.walk [] names

def find? (tree : FileTree) (path : String) : Option Node :=
  match tree.resolve path with
  | .ok place => tree.node? place
  | .error _ => none

def isFile (tree : FileTree) (path : String) : Bool :=
  match tree.find? path with
  | some (.file _) => true
  | _ => false

def isDirectory (tree : FileTree) (path : String) : Bool :=
  match tree.find? path with
  | some .directory => true
  | _ => false

def join (directory name : String) : String :=
  if directory.isEmpty then name
  else if directory.toList.getLast? = some '/' then directory ++ name
  else directory ++ "/" ++ name

def nameBelow? (place : Place) (node : Place × Node) : Option String :=
  match node.1.getLast? with
  | some name => if node.1.dropLast = place then some name else none
  | none => none

/-- The names in a directory, in the order of their code points. -/
def list (tree : FileTree) (path : String) : List String :=
  match tree.resolve path with
  | .ok place => (tree.nodes.filterMap (nameBelow? place)).mergeSort fun a b => decide (a ≤ b)
  | .error _ => []

def readFile (tree : FileTree) (path : String) : Except FileFault (List UInt8) :=
  match tree.resolve path with
  | .error obstacle => .error (obstacle.fault path)
  | .ok place =>
      match tree.node? place with
      | none => .error (.noSuchFile path)
      | some .directory => .error (.isADirectory path)
      | some (.file content) => .ok content

/-! ## Changes -/

/-- Whether a file can be opened for writing at a place: its directory has to exist, and no
directory may stand there. -/
def checkTarget (tree : FileTree) (path : String) (place : Place) : Except FileFault Place :=
  match tree.node? place.dropLast with
  | none => .error (.noSuchFile path)
  | some (.file _) => .error (.notADirectory path)
  | some .directory =>
      match tree.node? place with
      | some .directory => .error (.isADirectory path)
      | _ => .ok place

/-- The path in front of the last name of a path, with the slash between them. -/
def frontOf (path : String) : String :=
  let front := ((path.toList.reverse.dropWhile (· = '/')).dropWhile (· != '/')).reverse
  if front.isEmpty then "." else String.ofList front

/-- The place of a file that is opened for writing. A path that ends in a slash is taken for a
directory, whatever its last name leads to. -/
def writeTarget (tree : FileTree) (path : String) : Except FileFault Place :=
  if path.toList.getLast? = some '/' then
    match do checkPath path; tree.resolve (frontOf path) with
    | .error obstacle => .error (obstacle.fault path)
    | .ok _ => .error (.isADirectory path)
  else
    match tree.resolve path with
    | .error obstacle => .error (obstacle.fault path)
    | .ok place => tree.checkTarget path place

def makeDirectory (tree : FileTree) (path : String) : Except FileFault FileTree :=
  match tree.resolve path with
  | .error obstacle => .error (obstacle.fault path)
  | .ok place =>
      match tree.node? place with
      | some _ => .error (.fileExists path)
      | none => .ok (tree.put place .directory)

/-- The paths to the directories on the way to a path, and the path itself, the shortest first. -/
def ancestors (path : String) : List String :=
  let names := components path
  ((List.range names.length).filter fun i => names.getD i "" != "").map fun i =>
    "/".intercalate (names.take (i + 1))

def ensureDirectory (tree : FileTree) (path : String) : Except FileFault FileTree :=
  match tree.makeDirectory path with
  | .ok tree => .ok tree
  | .error fault => if tree.isDirectory path then .ok tree else .error fault

/-- Makes directories in turn, up to the first that cannot be made. What stands at one of the paths in
front of the last is left as it is. -/
def makeInTurn (last : String) (tree : FileTree) : List String → FileTree × Except FileFault Unit
  | [] => (tree, .ok ())
  | path :: rest =>
      if path != last && (tree.find? path).isSome then makeInTurn last tree rest
      else
        match tree.ensureDirectory path with
        | .error fault => (tree, .error fault)
        | .ok tree => makeInTurn last tree rest

/-- Makes a directory and those on the way to it. What was made before a failure stays. -/
def makeDirectories (tree : FileTree) (path : String) : FileTree × Except FileFault Unit :=
  makeInTurn path tree (ancestors path)

def parentPath (path : String) : String :=
  let cs := path.toList.reverse.dropWhile (· != '/')
  if cs.all (· = '/') then String.ofList cs else String.ofList (cs.dropWhile (· = '/')).reverse

/-- The place of a path by its names alone. -/
def normalised (path : String) : Place :=
  let names := components path
  let root := if names.head? = some "" && 1 < names.length then [rootName] else []
  names.foldl
    (fun place name =>
      if name = "" || name = "." then place else below place name)
    root

def pathOf (place : Place) : String :=
  match place with
  | [] => "."
  | root :: rest => if root = rootName then "/" ++ "/".intercalate rest else "/".intercalate place

/-- The files of the second tree that are not in the first or have other content there, in the
order of their paths. -/
def changes (before after : FileTree) : List (String × List UInt8) :=
  let changed := after.nodes.filterMap fun (place, node) =>
    match node with
    | .directory => none
    | .file content =>
        if before.node? place = some (.file content) then none else some (pathOf place, content)
  changed.mergeSort fun a b => decide (a.1 ≤ b.1)

end FileTree
end HidDescriptor
