import Populace.Decimal.Reader
import Populace.Geo.HalfWidths
import Populace.People.Options

/-!
The command line: how many people to make, and some options. Arguments are gone through
from left to right; what they mean is settled behind the last one.
-/

namespace Populace.Command

/-- An option that takes a value. -/
inductive Valued where
  | seed
  | settings
  | output
  | model
  deriving DecidableEq, Repr

namespace Valued

/-- The option's name. -/
def name : Valued → String
  | .seed => "rng-seed"
  | .settings => "config"
  | .output => "output"
  | .model => "longitude-model"

/-- All of them. -/
def all : List Valued := [.seed, .settings, .output, .model]

/-- The option in messages. -/
def shown (o : Valued) : String :=
  "--" ++ o.name ++ " <" ++ o.name ++ ">"

end Valued

/-- What is asked for. -/
structure Arguments where
  people : UInt64
  seed : Option UInt64
  settings : Option String
  output : Option String
  model : Geo.LongitudeModel
  quiet : Bool
  deriving DecidableEq

/-- Why a command line is not carried out: something else is asked for, or it makes no
sense. -/
inductive Stop where
  | help
  | version
  | unexpected (argument : String)
  | missingValue (option : Valued)
  | invalid (argument problem : String)
  | repeated (argument : String)
  deriving DecidableEq, Repr

/-- What is said about it. -/
def Stop.message : Stop → String
  | .help =>
    "pplme 0.1.0\n"
      ++ "Generates plausible-looking people, weighted by internet users per country\n\n"
      ++ "USAGE:\n    pplme [FLAGS] [OPTIONS] [num-people]\n"
  | .version => "pplme 0.1.0\n"
  | .unexpected argument =>
    "error: Found argument '" ++ argument
      ++ "' which wasn't expected, or isn't valid in this context"
  | .missingValue option =>
    "error: The argument '" ++ option.shown ++ "' requires a value but none was supplied"
  | .invalid argument problem =>
    "error: Invalid value for '" ++ argument ++ "': " ++ problem
  | .repeated argument =>
    "error: The argument '" ++ argument
      ++ "' was provided more than once, but cannot be used multiple times"

/-- What the arguments so far have given. Values are kept last one first. -/
structure Seen where
  people : Option String
  values : List (Valued × String)
  /-- The options that were met, with or without a value. -/
  met : List Valued
  quiet : Nat
  /-- The option that the last argument left without a value. -/
  waiting : Option Valued
  /-- Behind a `--`, where nothing is an option. -/
  behindDashes : Bool
  deriving DecidableEq, Repr

namespace Seen

/-- Before the first argument. -/
def start : Seen := ⟨none, [], [], 0, none, false⟩

/-- The value for an option. -/
def give (s : Seen) (o : Valued) (value : String) : Seen :=
  { s with values := (o, value) :: s.values, waiting := none }

/-- The number of people; there is only one. -/
def givePeople (s : Seen) (argument : String) : Except Stop Seen :=
  match s.people with
  | none => .ok { s with people := some argument }
  | some _ => .error (.unexpected argument)

/-- Cuts an argument without its dashes at the first equals sign. The value is what
follows it, without more of them in front. -/
def splitValue (cs : List Char) : String × Option String :=
  match cs.dropWhile (· ≠ '=') with
  | [] => (String.ofList cs, none)
  | _ :: value =>
    (String.ofList (cs.takeWhile (· ≠ '=')),
      some (String.ofList (value.dropWhile (· = '='))))

/-- An argument that begins with two dashes or more. -/
def takeLong (s : Seen) (cs : List Char) : Except Stop Seen :=
  let (name, value?) := splitValue (cs.dropWhile (· = '-'))
  match Valued.all.find? (·.name = name), value? with
  | some o, some value => .ok ({ s with met := o :: s.met }.give o value)
  | some o, none => .ok { s with met := o :: s.met, waiting := some o }
  | none, _ =>
    if name = "quiet" then .ok { s with quiet := s.quiet + 1, waiting := none }
    else if name = "help" then .error .help
    else if name = "version" then .error .version
    else .error (.unexpected ("--" ++ name))

/-- An argument that begins with one dash: letters, of which the first decides. -/
def takeShort (cs : List Char) : Except Stop Seen :=
  match cs.dropWhile (· = '-') with
  | 'h' :: _ => .error .help
  | 'V' :: _ => .error .version
  | c :: _ => .error (.unexpected (String.ofList ['-', c]))
  | [] => .error (.unexpected "-")

/-- One more argument. -/
def take (s : Seen) (argument : String) : Except Stop Seen :=
  if s.behindDashes then s.givePeople argument
  else match argument.toList with
    | ['-', '-'] => .ok { s with behindDashes := true }
    | '-' :: '-' :: cs => s.takeLong cs
    | '-' :: c :: cs => takeShort (c :: cs)
    | _ => match s.waiting with
      | some o => .ok (s.give o argument)
      | none => s.givePeople argument

end Seen

/-- The number of people that a text asks for. -/
def readPeople (text : String) : Except String UInt64 :=
  match Decimal.readWhole text with
  | .ok 0 => .error "the number of people must be positive"
  | .ok n => .ok n
  | .error e => .error (text ++ " isn't a number of people: " ++ e.message)

/-- The seed of a text. -/
def readSeed (text : String) : Except String UInt64 :=
  (Decimal.readWhole text).mapError Decimal.WholeFault.message

/-- The model of a text. -/
def readModel (text : String) : Except String Geo.LongitudeModel :=
  match Geo.LongitudeModel.ofName? text with
  | some model => .ok model
  | none => .error (Geo.LongitudeModel.unknownMessage text)

/-- Was the option met, but never with a value? The model may be; then it is the one
that holds where nothing is said. -/
def Seen.lacks (s : Seen) (o : Valued) : Bool :=
  s.met.contains o && (s.values.lookup o).isNone && o != .model

/-- Reads all values given for an option, and hands over the first. An option may be met
once. -/
def Seen.value (s : Seen) (o : Valued) (read : String → Except String α) :
    Except Stop (Option α) := do
  if s.lacks o then
    throw (.missingValue o)
  let values ← (s.values.reverse.filter (·.1 = o)).mapM fun v =>
    (read v.2).mapError (Stop.invalid o.shown)
  if 1 < s.met.count o then
    throw (.repeated o.shown)
  return values.head?

/-- What the arguments ask for, once all of them are seen. -/
def Seen.settle (s : Seen) : Except Stop Arguments := do
  if let some o := s.waiting then
    if s.lacks o then
      throw (.missingValue o)
  let people ← match s.people with
    | none => pure ({} : People.Options).people
    | some text => (readPeople text).mapError (Stop.invalid "<num-people>")
  let seed ← s.value .seed readSeed
  let settings ← s.value .settings Except.ok
  let output ← s.value .output Except.ok
  let model ← s.value .model readModel
  if 1 < s.quiet then
    throw (.repeated "--quiet")
  return {
    people, seed, settings, output
    model := model.getD .legacy
    quiet := s.quiet ≠ 0 }

/-- What a command line asks for. -/
def Arguments.ofList (arguments : List String) : Except Stop Arguments := do
  (← arguments.foldlM Seen.take Seen.start).settle

end Populace.Command
