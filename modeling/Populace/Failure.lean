import Populace.Calendar
import Populace.Decimal.Reader
import Populace.Files.Fault
import Populace.Geo.HalfWidths
import Populace.Journal
import Populace.Rows.Reader
import Populace.Sources.Dataset
import Populace.Sources.SettingsFault

/-!
Why a run did not succeed. A failure is either a refusal, which is a cause and what was
being done when it came up, the outermost activity first, or a crash, which is a fault
of the program itself.
-/

namespace Populace

open Populace.Sources (Dataset SettingsFault)

/-- Why something is refused. -/
inductive Cause where
  | unknownModel (name : String)
  | width (fault : Geo.WidthFault)
  | ages (least greatest : Int)
  | tooFewNames (first last : Nat)
  | nobodyOnline (countries : Nat)
  | noLocation (country : String)
  | beforeCalendar (years : Int) (today : Calendar.Date)
  | tooFewFields (present needed : Nat)
  | whole (fault : Decimal.WholeFault)
  | decimal (fault : Decimal.DecimalFault)
  | file (fault : Files.Fault)
  | settings (fault : SettingsFault)
  /-- No answer came, or it broke off, or its status is an error. -/
  | request (problem : String)
  | unflushed (problem : String)
  /-- Something outside of this library has failed, and said this. -/
  | outside (problem : String)

namespace Cause

/-- What is said about a cause. -/
def message : Cause → String
  | .unknownModel name => Geo.LongitudeModel.unknownMessage name
  | .width fault => fault.message
  | .ages least greatest =>
    "ages must satisfy 0 <= min <= max <= 1000, not " ++ toString least ++ " and "
      ++ toString greatest
  | .tooFewNames first last =>
    "need at least one first and last name, but have " ++ toString first ++ " first and "
      ++ toString last ++ " last"
  | .nobodyOnline countries =>
    "the " ++ toString countries
      ++ " countries with internet user counts have 0 users in total; can't weight anybody"
  | .noLocation country => country ++ " has a quota, but no location"
  | .beforeCalendar years today =>
    toString years ++ " years before " ++ today.text ++ " isn't a valid date"
  | .tooFewFields present needed =>
    "only " ++ toString present ++ " fields, need field " ++ toString needed
  | .whole fault => fault.message
  | .decimal fault => fault.message
  | .file fault => ": ".intercalate fault.messages
  | .settings fault => fault.message
  | .request problem => problem
  | .unflushed problem => "couldn't flush CSV output: " ++ problem
  | .outside problem => problem

/-- The message in its parts, from the outside in. -/
def messages : Cause → List String
  | .file fault => fault.messages
  | cause => [cause.message]

/-- The cause as a reader of rows passes it on: without the reason that the system gave. -/
def brief : Cause → Cause
  | .file fault => .outside (fault.attempt.message fault.path)
  | cause => cause

end Cause

/-- What was being done. -/
inductive Context where
  | row (number : Nat) (fields : Rows.Row)
  | wholeNumber (text : String)
  | latitude (text : String)
  | longitude (text : String)
  | loading (dataset : Dataset)
  | making (country : String)
  | parsing (path : String)
  | downloading (url : String)

/-- A row as it is shown in messages. -/
def rowText (row : Rows.Row) : String :=
  "ByteRecord([" ++ ", ".intercalate (row.map Text.quotedBytes) ++ "])"

namespace Context

/-- What is said about it. -/
def message : Context → String
  | .row number fields => "row " ++ toString number ++ ": " ++ rowText fields
  | .wholeNumber text => text ++ " isn't a whole number"
  | .latitude text => "bad latitude " ++ text
  | .longitude text => "bad longitude " ++ text
  | .loading dataset => "loading " ++ dataset.description
  | .making country => "making somebody in " ++ country
  | .parsing path => "parsing " ++ path
  | .downloading url => "downloading " ++ url

end Context

/-- A fault of the program, which ends it on the spot. -/
inductive Crash where
  /-- A float was to be drawn from bounds that are no interval. -/
  | noInterval (low high : Float)
  | misuse (m : Misuse)

/-- What is said about it. -/
def Crash.message : Crash → String
  | .noInterval low high =>
    "no float lies between " ++ Decimal.plain low ++ " and " ++ Decimal.plain high
  | .misuse m => m.message

/-- Why a run did not succeed. -/
inductive Failure where
  | refused (contexts : List Context) (cause : Cause)
  | crashed (crash : Crash)

namespace Failure

/-- A cause on its own. -/
def of (cause : Cause) : Failure :=
  refused [] cause

/-- The failure when this was being done around it. -/
def within (context : Context) : Failure → Failure
  | .refused contexts cause => refused (context :: contexts) cause
  | .crashed crash => crashed crash

/-- The failure with its cause in brief. -/
def brief : Failure → Failure
  | .refused contexts cause => .refused contexts cause.brief
  | .crashed crash => .crashed crash

/-- All there is to say, from the outside in. -/
def chain : Failure → List String
  | .refused contexts cause => contexts.map Context.message ++ cause.messages
  | .crashed crash => [crash.message]

/-- The chain in one text. -/
def message (f : Failure) : String :=
  ": ".intercalate f.chain

/-- A cause below the first in a report: behind its number if there are several, with
its later lines below its first. -/
def reportedCause (number? : Option Nat) (text : String) : String :=
  let (first, later) := match number? with
    | some n => (String.ofList (Text.spaced 5 n) ++ ": ", "\n       ")
    | none => ("    ", "\n    ")
  first ++ later.intercalate (text.splitOn "\n")

/-- The report at the end of a run that did not succeed. -/
def report (f : Failure) : String :=
  match f.chain with
  | [] => "Error: "
  | [top] => "Error: " ++ top
  | [top, cause] => "Error: " ++ top ++ "\n\nCaused by:\n" ++ reportedCause none cause
  | top :: causes =>
    "Error: " ++ top ++ "\n\nCaused by:\n" ++
      "\n".intercalate (causes.zipIdx.map fun c => reportedCause (some c.2) c.1)

end Failure

/-- Does `action` as part of what `context` tells: its failures say so. -/
def inContext (context : Context) (action : EStateM Failure σ α) : EStateM Failure σ α :=
  fun s => match action s with
    | .error e s => .error (e.within context) s
    | ok => ok

/-- Fails for this cause. -/
def refuse (cause : Cause) : EStateM Failure σ α :=
  throw (Failure.of cause)

/-- Goes on with a value, or refuses. -/
def orRefuse (result : Except Cause α) : EStateM Failure σ α :=
  match result with
  | .ok a => return a
  | .error cause => refuse cause

/-- Goes on with a value, or fails. -/
def orFail (result : Except Failure α) : EStateM Failure σ α :=
  match result with
  | .ok a => return a
  | .error e => throw e

/-- Does something to the journal of a run; a misuse is a crash. -/
def journaled (action : Journaling α) : EStateM Failure Journal α :=
  fun j => match action j with
    | .ok a j => .ok a j
    | .error m j => .error (.crashed (.misuse m)) j

end Populace
