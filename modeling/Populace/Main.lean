import Populace.Command.Run
import Std.Time

/-!
The program on a real machine. The files that a run can come across are read into a
tree, the run is worked out on it, and what has changed is written back. The web is not
reached from here.
-/

namespace Populace

open Populace.Command (Arguments Outcome Surroundings)
open Populace.Files (Node Tree)
open Populace.Sources (Dataset Settings Source Web)

/-- The paths that lead to a path, itself included, the shortest first. -/
def leadingPaths (path : String) : List String :=
  let pieces := Files.Path.pieces path
  let start := if Files.Path.isAbsolute path then "/" else ""
  (List.range pieces.length).map fun n => start ++ "/".intercalate (pieces.take (n + 1))

/-- What is on the disk at a path. -/
def nodeOnDisk (path : String) : IO (Option Node) := do
  let file := (← IO.currentDir) / path
  if ← file.isDir then
    return some .directory
  if ← file.pathExists then
    return some (.file (← IO.FS.readBinFile file))
  return none

/-- Adds what is on the disk at a path, and at those that lead to it. -/
def capture (tree : Tree) (path : String) : IO Tree :=
  (leadingPaths path).foldlM (fun tree path => do
    match tree.locate path, ← nodeOnDisk path with
    | .ok place, some node => return if place = [] then tree else tree.put place node
    | _, _ => return tree) tree

/-- The path that a table is read from. -/
def tablePath (settings : Settings) (dataset : Dataset) : String :=
  match settings.source dataset with
  | .file path => path
  | .url url => settings.cachePath dataset url

/-- The files that a run can come across. -/
def captureAll (args : Arguments) : IO Tree := do
  let here := Files.Path.pieces (toString (← IO.currentDir))
  let tree ← capture (Tree.empty here) (args.settings.getD Sources.standardPath)
  let tree ← (args.output.toList).foldlM capture tree
  match Settings.load tree args.settings with
  | .error _ => return tree
  | .ok settings => (Dataset.all.map (tablePath settings)).foldlM capture tree

/-- Is this what stands at the place already? -/
def isSame (tree : Tree) (key : String) : Node → Bool
  | .directory => match tree.nodes.get? key with
    | some .directory => true
    | _ => false
  | .file contents => match tree.nodes.get? key with
    | some (.file old) => old.data = contents.data
    | _ => false

/-- Writes back what differs from before; directories come before what is in them. -/
def writeBack (before now : Tree) : IO Unit :=
  now.nodes.entries.forM fun (key, node) => do
    if !isSame before key node then
      match node with
      | .directory => IO.FS.createDirAll ("/" ++ key)
      | .file contents => IO.FS.writeBinFile ("/" ++ key) contents

/-- The time of a number of seconds since the first of January 1970. -/
def timeText (seconds : Int) : String :=
  let c := Calendar.civilOf (seconds / 86400)
  let ofDay := (seconds % 86400).toNat
  String.ofList <|
    Calendar.Date.yearText c.year ++ '-' :: Text.padded 2 c.month
      ++ '-' :: Text.padded 2 c.day ++ 'T' :: Text.padded 2 (ofDay / 3600)
      ++ ':' :: Text.padded 2 (ofDay / 60 % 60) ++ ':' :: Text.padded 2 (ofDay % 60) ++ ['Z']

/-- Shows a note on the error output. -/
def showNote : Note → IO Unit
  | .printed text => IO.eprint text
  | .logged record => do
    let now ← Std.Time.Timestamp.now
    IO.eprintln (record.line (timeText now.toSecondsSinceUnixEpoch.val))

/-- The date of today. -/
def currentDate : IO Calendar.Date := do
  let date := (← Std.Time.PlainDateTime.now).date
  let civil : Calendar.Civil :=
    ⟨date.year.toInt, date.month.toNat, date.day.toNat⟩
  match Calendar.Date.ofCivil? civil with
  | some date => return date
  | none => throw (IO.userError "the clock is out of range")

/-- Runs the program. -/
def runOnDisk (arguments : List String) : IO UInt32 := do
  let before ← match Arguments.ofList arguments with
    | .ok args => captureAll args
    | .error _ => pure (Tree.empty [])
  let surroundings : Surroundings :=
    { tree := before
      web := Web.unreachable
      today := ← currentDate
      seed := (← IO.getRandomBytes 8).toUInt64LE!
      filter := ← IO.getEnv "RUST_LOG" }
  let outcome := Command.run surroundings arguments
  writeBack before outcome.tree
  let stdout ← IO.getStdout
  stdout.write outcome.stdout
  stdout.flush
  outcome.stderr.forM showNote
  return outcome.exitCode

end Populace

/-- The command line. -/
def main (arguments : List String) : IO UInt32 :=
  Populace.runOnDisk arguments
