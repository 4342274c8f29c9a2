import Populace.Decimal.Layout
import Populace.Log
import Populace.Text.Escaped

/-!
The journal of a long run: spans that nest, counters inside them, warnings, and what
was shown on the way. A counter that takes long shows from time to time how far it has
come. When a span or a counter is finished, a line for it is kept under the span around
it, indented by its depth; closing the journal shows all lines again.
-/

namespace Populace

/-- A stretch of time with a name, and the lines of what finished inside it. -/
structure Span where
  name : String
  started : Nat
  nested : List String
  deriving DecidableEq, Repr

/-- So many items of a known number. `shown` is when it was last shown how many, or the
beginning. -/
structure Counter where
  label : String
  done : Nat
  total : Nat
  started : Nat
  shown : Nat
  deriving DecidableEq, Repr

/-- What is running. -/
inductive Activity where
  | span (s : Span)
  | counter (c : Counter)
  deriving DecidableEq, Repr

/-- What came up, in order: text as it was printed, and messages. -/
inductive Note where
  | printed (text : String)
  | logged (record : Record)
  deriving DecidableEq, Repr

/-- A run's journal. Readings of the clock are nanoseconds. The journal has no clock of its
own, and is told beforehand what it will read: a use that takes the time reads the clock
once. -/
structure Journal where
  name : String
  quiet : Bool
  /-- The last reading. -/
  clock : Nat
  /-- How much time passes before each of the readings to come. Then the clock stands. -/
  passing : List Nat
  /-- The innermost activity first. -/
  running : List Activity
  /-- Lines that no running span holds. -/
  results : List String
  warnings : List String
  notes : List Note
  deriving DecidableEq, Repr

/-- A use of a journal that has no meaning. -/
inductive Misuse where
  | stoppedInsideCounter (name : String)
  | stoppedOther (running name : String)
  | finishedInsideCounter
  | countedInsideCounter (name running : String)
  | nothingToCount
  | tooManyItems (total : Nat) (label : String)
  deriving DecidableEq, Repr

/-- What is said about it. -/
def Misuse.message : Misuse → String
  | .stoppedInsideCounter name =>
    "Can't stop(" ++ name ++ ") while a Progress is top of the stack"
  | .stoppedOther running name =>
    "assertion `left == right` failed\n  left: " ++ Text.quoted running
      ++ "\n right: " ++ Text.quoted name
  | .finishedInsideCounter => "internal error: entered unreachable code"
  | .countedInsideCounter name running =>
    "Can't start_iter(" ++ name ++ ") while Progress(" ++ running
      ++ ") is top of the stack"
  | .nothingToCount => "Can't next() while a TimerSpan is top of the stack"
  | .tooManyItems total label =>
    Text.grouped total ++ " is too few items for " ++ label ++ " progress"

/-- Something done to a journal. -/
abbrev Journaling := EStateM Misuse Journal

/-- The lines of what finished inside an activity. -/
def Activity.inside : Activity → List String
  | .span s => s.nested
  | .counter _ => []

namespace Journal

/-- Seconds with four decimal places. -/
def seconds (x : Float) : String :=
  Decimal.fixed 4 x ++ "s"

/-- So many nanoseconds in seconds. -/
def inSeconds (elapsed : Nat) : Float :=
  Float.ofNat (elapsed / 1000000000) + Float.ofNat (elapsed % 1000000000) * 1e-9

/-- What the clock reads when it is next looked at. -/
def reading (j : Journal) : Nat :=
  j.clock + j.passing.headD 0

/-- The journal behind a look at the clock. -/
def timed (j : Journal) : Journal :=
  { j with clock := j.reading, passing := j.passing.tail }

/-- The time since a reading. -/
def since (j : Journal) (started : Nat) : String :=
  seconds (inSeconds (j.clock - started))

/-- Adds a note. -/
def note (j : Journal) (n : Note) : Journal :=
  { j with notes := j.notes ++ [n] }

/-- Adds a message. -/
def log (j : Journal) (level : Level) (origin : Origin) (text : String) : Journal :=
  j.note (.logged ⟨level, origin, text⟩)

/-- Shows a text, unless the journal is quiet. -/
def print (j : Journal) (text : String) : Journal :=
  if j.quiet then j else j.note (.printed text)

/-- Shows a line, unless the journal is quiet. -/
def printLine (j : Journal) (line : String) : Journal :=
  j.print (line ++ "\n")

/-- Remembers a warning, and logs it. -/
def warn (j : Journal) (text : String) : Journal :=
  let j := j.log .warn .timing text
  { j with warnings := j.warnings ++ [text] }

/-- Begins a span. -/
def start (j : Journal) (name : String) : Journal :=
  let j := (j.printLine (name ++ "...")).timed
  { j with running := .span ⟨name, j.clock, []⟩ :: j.running }

/-- A journal with its outermost span begun. -/
def new (name : String) (quiet : Bool) : Journal :=
  start ⟨name, quiet, 0, [], [], [], [], []⟩ name

/-- A line as it is kept at this depth. -/
def indented (depth : Nat) (line : String) : String :=
  String.ofList (List.replicate (2 * depth) ' ') ++ "- " ++ line

/-- Keeps a line, and those of what finished inside, under the innermost span. -/
def keep (line : String) (inside : List String) : Journaling Unit := do
  let j ← get
  let lines := indented j.running.length line :: inside
  match j.running with
  | [] => set { j with results := j.results ++ lines }
  | .span s :: outer =>
    set { j with running := .span { s with nested := s.nested ++ lines } :: outer }
  | .counter _ :: _ => throw .finishedInsideCounter

/-- Ends the innermost span, which must have this name. -/
def stop (name : String) : Journaling Unit := do
  let j ← get
  set { j with running := j.running.tail }
  match j.running with
  | .span s :: _ =>
    if s.name ≠ name then
      throw (.stoppedOther s.name name)
    modify timed
    let line := name ++ " took " ++ (← get).since s.started
    keep line s.nested
    modify fun j => j.printLine line
  | _ => throw (.stoppedInsideCounter name)

/-- Begins to count so many items, if there are any. -/
def startCounter (label : String) (total : Nat) : Journaling Unit := do
  if total ≠ 0 then
    let j ← get
    match j.running with
    | .counter c :: _ => throw (.countedInsideCounter label c.label)
    | _ =>
      let j := j.timed
      set { j with running := .counter ⟨label, 0, total, j.clock, j.clock⟩ :: j.running }

/-- How many seconds go by before a counter shows again how far it has come. -/
def secondsBetweenShows : Float := 0.2

/-- Has it been so long since the counter was shown? -/
def isDue (shown now : Nat) : Bool :=
  secondsBetweenShows ≤ inSeconds (now - shown)

/-- How far a counter has come. -/
def status (j : Journal) (c : Counter) : String :=
  c.label ++ ": " ++ Text.grouped c.done ++ "/" ++ Text.grouped c.total ++ "... "
    ++ j.since c.started

/-- The journal with a counter that goes on inside of these. It is shown how far the counter
has come, if that is due. -/
def goOn (j : Journal) (c : Counter) (outer : List Activity) : Journal :=
  if isDue c.shown j.clock then
    let k := { j with running := .counter { c with shown := j.clock } :: outer }
    k.print ("\r" ++ j.status c)
  else { j with running := .counter c :: outer }

/-- One more item. The last one ends the counter. -/
def next : Journaling Unit := do
  let j ← get
  match j.running with
  | .counter c :: outer =>
    let c := { c with done := c.done + 1 }
    if c.total < c.done then
      set { j with running := .counter c :: outer }
      throw (.tooManyItems c.total c.label)
    let j := j.timed
    if c.done = c.total then
      let line := c.label ++ " (" ++ Text.grouped c.total ++ ")... " ++ j.since c.started
      set (({ j with running := outer } : Journal).print ("\r" ++ line ++ "\n"))
      keep line []
    else
      set (j.goOn c outer)
  | _ => throw .nothingToCount

/-- The lines of everything that has finished, also inside spans that are still
running. -/
def finished (j : Journal) : List String :=
  j.results ++ j.running.reverse.flatMap Activity.inside

/-- Shows all results, and all warnings if there are any. -/
def summarize (j : Journal) : Journal :=
  let j := j.results.foldl printLine (j.printLine "")
  let j := j.printLine ""
  if j.warnings = [] then j
  else
    let j := j.printLine (toString j.warnings.length ++ " warnings:")
    (j.warnings.foldl printLine j).printLine ""

/-- Closes the journal. If its own span is the innermost one, that ends and everything
is summed up; otherwise something went wrong before, and there is no summary. Another span
of the same name is taken for its own, and cannot end directly inside a counter. -/
def close : Journaling Unit := do
  let j ← get
  let isOwn := match j.running with
    | .span s :: _ => s.name == j.name
    | _ => false
  if isOwn then
    stop j.name
    modify summarize
  else
    modify (·.printLine "dropping Timer early")

/-- The journal as closing leaves it. -/
def closed (j : Journal) : Journal :=
  match close.run j with
  | .ok _ j | .error _ j => j

end Journal

end Populace
