import Populace.Census.Run
import Populace.Command.Arguments
import Populace.Command.LogFilter
import Populace.People.Record
import Populace.Sources.Cache
import Populace.Sources.SettingsText

/-!
A run of the program: what a command line does to the files around it, what it prints,
and how it ends. Everything that can be wrong with the input but does not depend on a
draw is found before the output is touched.
-/

namespace Populace.Command

open Populace.Census (Plan Setting)
open Populace.Files (Tree)
open Populace.Sources (Settings Web)

/-- What surrounds a run. -/
structure Surroundings where
  tree : Tree
  web : Web
  today : Calendar.Date
  /-- The seed of a run that is given none. -/
  seed : UInt64
  /-- Which messages are shown, if anything is said about that. -/
  filter : Option String
  /-- How much time passes before each reading of the clock but the first. -/
  passing : List Nat := []

/-- What a run changes. -/
structure State where
  journal : Journal
  tree : Tree
  stdout : ByteArray

/-- A part of a run. -/
abbrev Part := EStateM Failure State

namespace Part

/-- Something done to the journal. -/
def journaling (action : EStateM Failure Journal α) : Part α :=
  fun ⟨journal, tree, stdout⟩ => match action journal with
    | .ok a journal => .ok a ⟨journal, tree, stdout⟩
    | .error e journal => .error e ⟨journal, tree, stdout⟩

/-- Logs a message of the program itself. -/
def tell (text : String) : Part Unit :=
  journaling (modify (·.log .info .command text))

/-- Loads the reference tables. -/
def load (settings : Settings) (web : Web) : Part Census.Reference :=
  fun ⟨journal, tree, stdout⟩ =>
    match Sources.load (Sources.cachingFetcher settings web) ⟨tree, journal⟩ with
    | .ok data s => .ok data ⟨s.journal, s.fetcher, stdout⟩
    | .error e s => .error e ⟨s.journal, s.fetcher, stdout⟩

/-- Creates the output, if it is a file. -/
def createOutput (path? : Option String) : Part Unit := do
  if let some path := path? then
    match (← get).tree.createFile path with
    | .ok tree => modify fun s => { s with tree }
    | .error f => refuse (.file f)

/-- Puts bytes where the output goes. -/
def putOutput (path? : Option String) (bytes : ByteArray) (s : State) : State :=
  match path? with
  | some path => { s with tree := s.tree.fill path bytes }
  | none => { s with stdout := s.stdout ++ bytes }

/-- Carries a plan out, and writes everybody. What has been written when something fails
stays written. -/
def emit (plan : Plan) (setting : Setting) (seed : UInt64) (path? : Option String) :
    Part UInt64 :=
  fun ⟨journal, tree, stdout⟩ =>
    let start : Census.Run Rows.Writer :=
      { generator := Random.Xorshift.ofSeed seed
        journal
        sink := Rows.Writer.new (Rows.Medium.empty none) }
    let action := do
      let total ← plan.emit setting People.Sink.rows
      Census.Run.sinking Rows.Writer.close
      return total
    match action start with
    | .ok total run =>
      .ok total (putOutput path? run.sink.medium.stored ⟨run.journal, tree, stdout⟩)
    | .error e run =>
      let written := match Rows.Writer.flush run.sink with
        | .ok _ w => w.medium.stored
        | .error _ w => w.medium.stored
      .error e (putOutput path? written ⟨run.journal, tree, stdout⟩)

end Part

/-- What is told about the seed. -/
def seedMessage (seed : UInt64) : String :=
  "Using --rng-seed=" ++ toString seed.toNat

/-- What is told at the end. -/
def doneMessage (total : UInt64) : String :=
  "Generated " ++ Text.grouped total.toNat ++ " people"

/-- Makes the people that are asked for. -/
def perform (w : Surroundings) (args : Arguments) : Part Unit := do
  let settings ← orFail (Settings.load (← get).tree args.settings)
  let data ← Part.load settings w.web
  let options : People.Options := { people := args.people, model := args.model }
  let plan ← Part.journaling (Plan.new data options)
  let seed := args.seed.getD w.seed
  Part.tell (seedMessage seed)
  Part.createOutput args.output
  let total ← Part.emit plan { data, options, today := w.today } seed args.output
  Part.tell (doneMessage total)

/-- How a run ends, and what it leaves. -/
structure Outcome where
  exitCode : UInt32
  stdout : ByteArray
  /-- What goes to the error output, in order. -/
  stderr : List Note
  tree : Tree

/-- The name of the outermost span. -/
def runSpan : String := "generate pplme dataset"

/-- The journal that a run begins with. -/
def newJournal (w : Surroundings) (quiet : Bool) : Journal :=
  { Journal.new runSpan quiet with passing := w.passing }

/-- The notes that are shown. -/
def shown (filter : LogFilter) (notes : List Note) : List Note :=
  notes.filter fun
    | .printed _ => true
    | .logged r => filter.shows r

/-- A line for the error output. -/
def line (text : String) : Note :=
  .printed (text ++ "\n")

/-- How a run that makes people ends. -/
def outcomeOf (filter : LogFilter) (warnings : List String)
    (result : EStateM.Result Failure State Unit) : Outcome :=
  let (exitCode, s, first, last) : UInt32 × State × List Note × List Note := match result with
    | .ok _ s => (0, s, [], [])
    | .error (.crashed c) s => (101, s, [line c.message], [])
    | .error e s => (1, s, [], [line e.report])
  let closed := ({ s.journal with notes := [] } : Journal).closed
  { exitCode
    stdout := s.stdout
    stderr := warnings.map line ++ shown filter s.journal.notes ++ first
      ++ shown filter closed.notes ++ last
    tree := s.tree }

/-- Does what the arguments ask for. -/
def runArguments (w : Surroundings) (args : Arguments) : Outcome :=
  let (warnings, filter) := LogFilter.ofText (w.filter.getD LogFilter.standard)
  outcomeOf filter warnings <|
    perform w args ⟨newJournal w args.quiet, w.tree, ByteArray.empty⟩

/-- Runs the program. -/
def run (w : Surroundings) (arguments : List String) : Outcome :=
  match Arguments.ofList arguments with
  | .ok args => runArguments w args
  | .error stop =>
    if stop = .help ∨ stop = .version then
      { exitCode := 0, stdout := stop.message.toUTF8, stderr := [], tree := w.tree }
    else
      { exitCode := 2, stdout := ByteArray.empty, stderr := [line stop.message],
        tree := w.tree }

end Populace.Command
