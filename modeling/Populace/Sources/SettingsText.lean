import Populace.Failure
import Populace.Files.Tree
import Populace.Sources.Settings

/-!
The text of settings: on each line a key, an equals sign and a text in quotes; comments
begin with `#`. A text stands between single quotes as it is, or between double quotes
with escapes for some characters; between three quotes it may run over several lines.
-/

namespace Populace.Sources

/-- Is it a space or a tab? -/
def isSpace (c : Char) : Bool :=
  c = ' ' || c = '\t'

/-- May the character stand in a text or a comment? Controls but the tab may not. -/
def isTextChar (c : Char) : Bool :=
  c = '\t' || (0x20 ≤ c.toNat && c.toNat ≠ 0x7F)

/-- May the character stand in a key without quotes? -/
def isKeyChar (c : Char) : Bool :=
  c.isAlphanum || c = '-' || c = '_'

/-- The value of a hexadecimal digit. -/
def hexDigit? (c : Char) : Option Nat :=
  if '0' ≤ c ∧ c ≤ '9' then some (c.toNat - '0'.toNat)
  else if 'a' ≤ c ∧ c ≤ 'f' then some (c.toNat - 'a'.toNat + 10)
  else if 'A' ≤ c ∧ c ≤ 'F' then some (c.toNat - 'A'.toNat + 10)
  else none

/-- The character whose code point the first `count` characters give in hexadecimal. -/
def codePoint? (count : Nat) (cs : List Char) : Option Char := do
  let ds ← (cs.take count).mapM hexDigit?
  let n := ds.foldl (fun acc d => acc * 16 + d) 0
  if h : ds.length = count ∧ n.isValidChar then some (Char.ofNatAux n h.2) else none

/-- The character of an escape, and how many characters behind the backslash it takes. -/
def escape? : List Char → Option (Char × Nat)
  | 'b' :: _ => some ('\x08', 1)
  | 't' :: _ => some ('\t', 1)
  | 'n' :: _ => some ('\n', 1)
  | 'f' :: _ => some ('\x0c', 1)
  | 'r' :: _ => some ('\r', 1)
  | '"' :: _ => some ('"', 1)
  | '\\' :: _ => some ('\\', 1)
  | 'u' :: cs => (codePoint? 4 cs).map (·, 5)
  | 'U' :: cs => (codePoint? 8 cs).map (·, 9)
  | _ => none

/-- The end of a line in front, if there is one, and how many characters it is. -/
def lineEnd? : List Char → Option Nat
  | '\n' :: _ => some 1
  | '\r' :: '\n' :: _ => some 2
  | _ => none

/-- The number of blanks and line ends in front. -/
def blankRun : List Char → Nat
  | '\r' :: '\n' :: cs => blankRun cs + 2
  | c :: cs => if isSpace c ∨ c = '\n' then blankRun cs + 1 else 0
  | [] => 0

/-- The number of characters that a backslash at the end of a line takes with it: all
blanks and line ends that follow. -/
def continuation? (cs : List Char) : Option Nat :=
  (lineEnd? (cs.dropWhile isSpace)).map fun _ => blankRun cs

/-- What kind of quotes a text stands in. -/
structure Quoting where
  mark : Char
  escapes : Bool
  lines : Bool

/-- The text up to the closing quotes, and what follows them, after leaving out the
first `skip` characters. Up to two quotes right before three closing ones belong to the
text. -/
def quotedText (q : Quoting) : Nat → List Char → Option (List Char × List Char)
  | _, [] => none
  | skip + 1, _ :: cs => quotedText q skip cs
  | 0, c :: cs =>
    let keep (c : Char) (skip : Nat) : Option (List Char × List Char) :=
      (quotedText q skip cs).map fun (text, rest) => (c :: text, rest)
    if c = q.mark then
      if q.lines then
        let marks := (cs.takeWhile (· = q.mark)).length + 1
        if marks < 3 then keep c 0
        else some (List.replicate (min marks 5 - 3) c, cs.drop (min marks 5 - 1))
      else some ([], cs)
    else if c = '\\' ∧ q.escapes then
      match (if q.lines then continuation? cs else none), escape? cs with
      | some skip, _ => quotedText q skip cs
      | none, some (c, skip) => keep c skip
      | none, none => none
    else if isTextChar c then keep c 0
    else if q.lines then
      match lineEnd? (c :: cs) with
      | some n => keep '\n' (n - 1)
      | none => none
    else none

/-- Leaves out a line end in front. -/
def withoutLineEnd (cs : List Char) : List Char :=
  cs.drop ((lineEnd? cs).getD 0)

/-- A text in quotes of one line, and what follows it. -/
def readQuoted : List Char → Option (List Char × List Char)
  | '"' :: cs => quotedText ⟨'"', true, false⟩ 0 cs
  | '\'' :: cs => quotedText ⟨'\'', false, false⟩ 0 cs
  | _ => none

/-- A text in quotes of any kind, and what follows it. -/
def readText : List Char → Option (List Char × List Char)
  | '"' :: '"' :: '"' :: cs => quotedText ⟨'"', true, true⟩ 0 (withoutLineEnd cs)
  | '\'' :: '\'' :: '\'' :: cs => quotedText ⟨'\'', false, true⟩ 0 (withoutLineEnd cs)
  | cs => readQuoted cs

/-- A key, and what follows it. -/
def readKey (cs : List Char) : Option (List Char × List Char) :=
  match cs.takeWhile isKeyChar with
  | [] => readQuoted cs
  | key => some (key, cs.dropWhile isKeyChar)

/-- What follows the end of the line, with blanks and a comment before it; nothing at
all may stand for the end of the last line. -/
def readLineEnd (cs : List Char) : Option (List Char) :=
  let rest := match cs.dropWhile isSpace with
    | '#' :: comment => comment.dropWhile isTextChar
    | other => other
  match rest, lineEnd? rest with
  | [], _ => some []
  | _, some n => some (rest.drop n)
  | _, none => none

/-- A key and its text, and what follows the line. -/
def readAssignment (cs : List Char) : Option ((String × String) × List Char) := do
  let (key, rest) ← readKey (cs.dropWhile isSpace)
  match rest.dropWhile isSpace with
  | '=' :: rest =>
    let (text, rest) ← readText (rest.dropWhile isSpace)
    let rest ← readLineEnd rest
    return ((String.ofList key, String.ofList text), rest)
  | _ => none

/-- Where reading settings has got to: what was set already, and the line. -/
structure Progress where
  settings : Settings
  seen : List Setting
  line : Nat

/-- Takes a key and its text into account. -/
def Progress.assign (p : Progress) (key text : String) : Except SettingsFault Progress :=
  match Setting.ofKey? key with
  | none => .error ⟨p.line, .unknownKey key⟩
  | some setting =>
    if setting ∈ p.seen then .error ⟨p.line, .repeatedKey key⟩
    else .ok { p with settings := p.settings.set setting text, seen := setting :: p.seen }

/-- Past the lines between what was read before and what is to be read now. -/
def Progress.advance (p : Progress) (before now : List Char) : Progress :=
  { p with line := p.line + (before.count '\n' - now.count '\n') }

/-- Reads lines; every line has at least one character, so there are no more of them than
characters. -/
def readLines : Nat → Progress → List Char → Except SettingsFault Settings
  | _, p, [] => .ok p.settings
  | 0, p, _ => .ok p.settings
  | count + 1, p, cs =>
    match readLineEnd cs, readAssignment cs with
    | some rest, _ => readLines count (p.advance cs rest) rest
    | none, some ((key, text), rest) =>
      match p.assign key text with
      | .ok p => readLines count (p.advance cs rest) rest
      | .error e => .error e
    | none, none => .error ⟨p.line, .malformed⟩

/-- The settings of a text. A byte order mark in front does not count. -/
def Settings.ofText (text : String) : Except SettingsFault Settings :=
  let cs := match text.toList with
    | '\ufeff' :: cs => cs
    | cs => cs
  readLines cs.length ⟨standard, [], 1⟩ cs

/-- Where settings are looked for when no path is given. -/
def standardPath : String := "pplme.toml"

/-- The settings of a file. -/
def Settings.ofFile (tree : Files.Tree) (path : String) : Except Failure Settings := do
  let contents ← (tree.contents path).mapError fun f => .of (.file f)
  match String.fromUTF8? contents with
  | none => throw (.of (.file ⟨.readFile, path, .notText⟩))
  | some text =>
    (Settings.ofText text).mapError fun f => (Failure.of (.settings f)).within (.parsing path)

/-- The settings of the file that was asked for, or of the standard one; only the latter
may be missing. -/
def Settings.load (tree : Files.Tree) (path? : Option String) : Except Failure Settings :=
  match path? with
  | some path => Settings.ofFile tree path
  | none =>
    if tree.exists? standardPath then Settings.ofFile tree standardPath
    else .ok Settings.standard

end Populace.Sources
