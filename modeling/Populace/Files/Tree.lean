import Populace.Files.Fault
import Populace.Files.Path
import Populace.Table

/-!
A tree of files and directories without links, with a directory in it where relative
paths start, and the few operations on it that a run needs.
-/

namespace Populace.Files

/-- What a name in a directory stands for. -/
inductive Node where
  | file (contents : ByteArray)
  | directory

/-- Files and directories by where they are: the names that lead there from the root,
with slashes between them. The root itself has no entry. -/
structure Tree where
  nodes : Table Node
  /-- The names that lead to the directory where relative paths start. -/
  here : List String

namespace Tree

/-- The entry of the names that lead to it. -/
def keyOf (names : List String) : String :=
  "/".intercalate names

/-- What stands at a place, if anything. -/
def node? (t : Tree) (names : List String) : Option Node :=
  if names = [] then some .directory else t.nodes.get? (keyOf names)

/-- Puts something at a place, instead of what was there. -/
def put (t : Tree) (names : List String) (node : Node) : Tree :=
  { t with nodes := t.nodes.insert (keyOf names) node }

/-- Leaves a place empty. -/
def remove (t : Tree) (names : List String) : Tree :=
  { t with nodes := t.nodes.erase (keyOf names) }

/-- Nothing but the directory where relative paths start, and those that lead to it. -/
def empty (here : List String) : Tree :=
  { nodes := (List.range here.length).foldl
      (fun t n => t.insert (keyOf (here.take (n + 1))) .directory) Table.empty
    here }

/-- Everything below the directory where relative paths start, by relative path. -/
def below (t : Tree) : List (String × Node) :=
  t.nodes.entries.filterMap fun (key, node) =>
    let start := (keyOf t.here ++ "/").toList
    if start.isPrefixOf key.toList then
      some (String.ofList (key.toList.drop start.length), node)
    else none

/-- The greatest size of a name, in bytes. -/
def longestName : Nat := 255

/-- Paths of this many bytes are too long. -/
def longestPath : Nat := 4096

/-- One step from a directory. -/
def enter (directory : List String) (piece : String) :
    Except Reason (List String) :=
  if piece = "." then .ok directory
  else if piece = ".." then .ok directory.dropLast
  else if longestName < piece.utf8ByteSize then .error .nameTooLong
  else .ok (directory ++ [piece])

/-- Follows pieces from a place that must be a directory if a piece follows. -/
def follow (t : Tree) (place : List String) : List String → Except Reason (List String)
  | [] => .ok place
  | piece :: pieces =>
    match t.node? place with
    | none => .error .notFound
    | some (.file _) => .error .notDirectory
    | some .directory => do t.follow (← enter place piece) pieces

/-- The place that a path leads to. Only its last piece may lead to nothing. -/
def locate (t : Tree) (path : String) : Except Reason (List String) :=
  if path.toList.contains '\x00' then .error .zeroByte
  else if path.isEmpty then .error .notFound
  else if longestPath ≤ path.utf8ByteSize then .error .nameTooLong
  else t.follow (if Path.isAbsolute path then [] else t.here) (Path.pieces path)

/-- What a path leads to. With a slash behind it, a path leads to directories only. -/
def lookUp (t : Tree) (path : String) : Except Reason Node := do
  let place ← t.locate path
  match t.node? place with
  | none => throw .notFound
  | some .directory => return .directory
  | some (.file contents) =>
    if Path.endsInSlash path then throw .notDirectory else return .file contents

/-- Does the path lead to anything? -/
def exists? (t : Tree) (path : String) : Bool :=
  (t.lookUp path).isOk

/-- Does the path lead to a directory? -/
def isDirectory (t : Tree) (path : String) : Bool :=
  match t.lookUp path with
  | .ok .directory => true
  | _ => false

/-- Opens what is there. Directories can be opened too, but not read. -/
def openFile (t : Tree) (path : String) : Except Fault Node :=
  (t.lookUp path).mapError (⟨.openFile, path, ·⟩)

/-- What is in a file. -/
def contents (t : Tree) (path : String) : Except Fault ByteArray := do
  match ← t.openFile path with
  | .file contents => return contents
  | .directory => throw ⟨.readFile, path, .isDirectory⟩

/-- Where a file can be created, or emptied if it is there. -/
def placeForFile (t : Tree) (path : String) : Except Reason (List String) := do
  let place ← t.locate path
  match t.node? place with
  | some .directory => throw .isDirectory
  | _ => if Path.endsInSlash path then throw .isDirectory else return place

/-- Creates an empty file, or empties the one that is there. -/
def createFile (t : Tree) (path : String) : Except Fault Tree := do
  let place ← (t.placeForFile path).mapError (⟨.createFile, path, ·⟩)
  return t.put place (.file ByteArray.empty)

/-- Puts contents into the file at a path. -/
def fill (t : Tree) (path : String) (contents : ByteArray) : Tree :=
  match t.placeForFile path with
  | .ok place => t.put place (.file contents)
  | .error _ => t

/-- Makes one directory. -/
def makeDirectory (t : Tree) (path : String) : Except Reason Tree := do
  let place ← t.locate path
  match t.node? place with
  | some _ => throw .exists
  | none => return t.put place .directory

/-- Makes a directory, if it is not there already; if the one above it is missing, that
is made before, and so on at most `depth` levels up. What has been made stays. -/
def makeDirectories (path : String) : Nat → EStateM Reason Tree Unit
  | 0 => return
  | depth + 1 => do
    if path.isEmpty then
      return
    let t ← get
    match t.makeDirectory path with
    | .ok t => set t
    | .error .notFound =>
      match Path.parent? path with
      | none => throw .notFound
      | some above =>
        makeDirectories above depth
        let t ← get
        match t.makeDirectory path with
        | .ok t => set t
        | .error e => if !t.isDirectory path then throw e
    | .error e => if !t.isDirectory path then throw e

/-- Makes a directory with all that lead to it. -/
def createDirectories (path : String) : EStateM Fault Tree Unit :=
  fun t => match makeDirectories path (path.length + 1) t with
    | .ok _ t => .ok () t
    | .error reason t => .error ⟨.createDirectory, path, reason⟩ t

/-- Gives a file another path, where it takes the place of a file that is there. -/
def rename (t : Tree) (path target : String) : Except Fault Tree :=
  Except.mapError (⟨.renameTo target, path, ·⟩) do
    let source ← t.locate path
    match t.node? source with
    | none => throw .notFound
    | some node =>
      let place ← t.placeForFile target
      return (t.remove source).put place node

end Tree

end Populace.Files
