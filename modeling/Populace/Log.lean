/-!
Messages for people who watch a run. A record is a value; whether and how it is shown
is decided elsewhere.
-/

namespace Populace

/-- How much a message matters, the most important first. -/
inductive Level where
  | error
  | warn
  | info
  | debug
  | trace
  deriving DecidableEq, Repr

namespace Level

/-- The level's name in messages. -/
def name : Level → String
  | .error => "ERROR"
  | .warn => "WARN"
  | .info => "INFO"
  | .debug => "DEBUG"
  | .trace => "TRACE"

/-- How many levels matter more. -/
def rank : Level → Nat
  | .error => 0
  | .warn => 1
  | .info => 2
  | .debug => 3
  | .trace => 4

end Level

/-- The part of the program that a message comes from. -/
inductive Origin where
  | command
  | loading
  | fetching
  | planning
  | sharing
  | timing
  deriving DecidableEq, Repr

/-- The part's name, by which messages are also selected: `::` stands between a part
and what it is a part of. -/
def Origin.target : Origin → String
  | .command => "pplme"
  | .loading => "importer"
  | .fetching => "importer::fetch"
  | .planning => "synthpop"
  | .sharing => "synthpop::allocate"
  | .timing => "pplutil::time"

/-- A message. -/
structure Record where
  level : Level
  origin : Origin
  text : String
  deriving DecidableEq, Repr

namespace Record

/-- The message's text, with its later lines set in from its first. -/
def body (r : Record) : String :=
  String.ofList (r.text.toList.flatMap fun c => if c = '\n' then "\n    ".toList else [c])

/-- The message as a line, with the time it came up. -/
def line (r : Record) (time : String) : String :=
  let level := r.level.name
  "[" ++ time ++ " " ++ level ++ String.ofList (List.replicate (5 - level.length) ' ') ++ " "
    ++ r.origin.target ++ "] " ++ r.body

end Record

end Populace
