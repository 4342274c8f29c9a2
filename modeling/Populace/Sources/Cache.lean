import Populace.Files.Tree
import Populace.Sources.Load
import Populace.Sources.Settings

/-!
Fetching tables from files and from the web. What comes from the web is downloaded once
into a directory and read from there ever after. A download is written under another
name and gets its own only when it is complete.
-/

namespace Populace.Sources

open Populace.Files (Tree)

/-- What the web says to a request. -/
inductive Answer where
  /-- Nothing. -/
  | unreachable (problem : String)
  /-- A status and a body, of which only `sent` bytes arrive if that is given. -/
  | reply (status : Nat) (body : ByteArray) (sent : Option Nat)

/-- What is said about each address. -/
abbrev Web := String → Answer

/-- A web that cannot be reached. -/
def Web.unreachable : Web :=
  fun url => .unreachable ("error sending request for url (" ++ url ++ ")")

/-- Does the status say that the request is at fault, or the server? -/
def isErrorStatus (status : Nat) : Bool :=
  400 ≤ status && status < 600

/-- May the character stand in the name of a download? -/
def isPlainChar (c : Char) : Bool :=
  c.isAlphanum || c = '.' || c = '-' || c = '_'

/-- The name of a download: the table's, and the last piece of the address with other
characters than plain ones replaced. -/
def cacheName (dataset : Dataset) (url : String) : String :=
  let last := (url.toList.reverse.takeWhile (· ≠ '/')).reverse
  let clean := last.map fun c => if isPlainChar c then c else '_'
  if clean.isEmpty then dataset.key else dataset.key ++ "_" ++ String.ofList clean

/-- The path of a download. -/
def Settings.cachePath (s : Settings) (dataset : Dataset) (url : String) : String :=
  Files.Path.child s.cache (cacheName dataset url)

/-- The path of a download that is not complete. -/
def partPath (path : String) : String :=
  Files.Path.withExtension path "part"

/-- The files, and what is told about them. -/
structure Shelf where
  tree : Tree
  log : List Record

namespace Shelf

/-- Tells something. -/
def tell (text : String) : EStateM Failure Shelf Unit :=
  modify fun s => { s with log := s.log ++ [⟨.info, .fetching, text⟩] }

/-- Changes the files, or fails and leaves them. -/
def change (action : Tree → Except Files.Fault Tree) : EStateM Failure Shelf Unit :=
  fun s => match action s.tree with
    | .ok tree => .ok () { s with tree }
    | .error f => .error (.of (.file f)) s

/-- Makes a directory with all that lead to it. -/
def makeDirectories (path : String) : EStateM Failure Shelf Unit :=
  fun s => match Tree.createDirectories path s.tree with
    | .ok _ tree => .ok () { s with tree }
    | .error f tree => .error (.of (.file f)) { s with tree }

end Shelf

/-- Fails for what became of a request. -/
def refuseRequest (url problem : String) : EStateM Failure σ α :=
  inContext (.downloading url) (refuse (.request problem))

/-- Writes a body, as far as it arrives, under a temporary name, and then gives it its
own. -/
def store (url path : String) (body : ByteArray) (sent : Option Nat) :
    EStateM Failure Shelf Unit := do
  let part := partPath path
  Shelf.change (·.createFile part)
  let arrived := min (sent.getD body.size) body.size
  Shelf.change fun t => .ok (t.fill part (body.extract 0 arrived))
  if arrived < body.size then
    refuseRequest url "connection closed before message completed"
  Shelf.change (·.rename part path)
  Shelf.tell ("Downloaded " ++ Text.grouped body.size ++ " bytes into " ++ path)

/-- Gets what is at an address into a file, unless there is one already. -/
def download (web : Web) (url path : String) : EStateM Failure Shelf Unit := do
  if (← get).tree.exists? path then
    Shelf.tell (path ++ " already exists")
  else
    if let some directory := Files.Path.parent? path then
      Shelf.makeDirectories directory
    Shelf.tell ("Missing " ++ path ++ ", so downloading " ++ url)
    match web url with
    | .unreachable problem => refuseRequest url problem
    | .reply status body sent =>
      if isErrorStatus status then
        refuseRequest url ("HTTP status " ++ toString status ++ " for url (" ++ url ++ ")")
      else store url path body sent

/-- The stream of a file: no piece of a long one is so short that a byte order mark could be
cut, so it may as well come all at once. A directory gives one that breaks off at once. -/
def openStream (path : String) : EStateM Failure Shelf Stream := do
  match (← get).tree.openFile path with
  | .error f => refuse (.file f)
  | .ok (.file contents) => return .whole contents.data.toList
  | .ok .directory => return ⟨.atOnce [], some (.of (.file ⟨.readFile, path, .isDirectory⟩))⟩

/-- The stream of a table, behind a download if it needs one. -/
def openTable (settings : Settings) (web : Web) (dataset : Dataset) :
    EStateM Failure Shelf Stream := do
  match settings.source dataset with
  | .file path => openStream path
  | .url url =>
    let path := settings.cachePath dataset url
    download web url path
    openStream path

/-- Fetches tables as the settings say. -/
def cachingFetcher (settings : Settings) (web : Web) : Fetcher Tree :=
  fun dataset tree =>
    match openTable settings web dataset ⟨tree, []⟩ with
    | .ok stream s => { log := s.log, result := .ok stream, state := s.tree }
    | .error e s => { log := s.log, result := .error e, state := s.tree }

end Populace.Sources
