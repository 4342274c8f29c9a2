import Populace.Pattern.Class
import Populace.Text.Letter

/-!
Reading the form of a pattern. Groups that are open are kept on a stack, each with what
stands before it.
-/

namespace Populace.Pattern

/-- Alternatives that are being read. -/
structure Level where
  /-- Where the first begins. -/
  start : Nat
  /-- Those that are complete, the last first. -/
  arms : List Form
  /-- Where the present one begins. -/
  armStart : Nat
  /-- Its parts, the last first. -/
  parts : List Form

namespace Level

/-- Nothing has been read from a place on. -/
def new (start : Nat) : Level :=
  ⟨start, [], start, []⟩

/-- The present alternative, which ends at a place. -/
def arm (l : Level) (stop : Nat) : Form :=
  Form.sequence ⟨l.armStart, stop⟩ l.parts.reverse

/-- All alternatives, of which the last ends at a place. -/
def form (l : Level) (stop : Nat) : Form :=
  if l.arms.isEmpty then l.arm stop
  else .either ⟨l.start, stop⟩ (l.arm stop :: l.arms).reverse

/-- One more part. -/
def add (l : Level) (f : Form) : Level :=
  { l with parts := f :: l.parts }

end Level

/-- A group that is open. -/
structure OpenGroup where
  /-- Its opening parenthesis. -/
  opening : Span
  mark : GroupMark
  /-- Is the pattern spaced outside? -/
  spaced : Bool
  /-- What stands outside before it. -/
  outside : Level

/-- What has been read of a pattern. -/
structure Reader where
  cursor : Cursor
  /-- Do blanks mean nothing here? -/
  spaced : Bool
  level : Level
  /-- The innermost first. -/
  groups : List OpenGroup
  /-- The number of groups so far that are numbered. -/
  count : Nat
  /-- The names of groups, and where they stand. -/
  names : List (List Char × Span)

namespace Reader

/-- Nothing has been read. -/
def new (text : List Char) : Reader :=
  { cursor := ⟨0, text⟩, spaced := false, level := Level.new 0, groups := [], count := 0
    names := [] }

/-- Adds a part. -/
def add (r : Reader) (f : Form) (cursor : Cursor) : Reader :=
  { r with cursor, level := r.level.add f }

/-- Begins another alternative. -/
def alternate (r : Reader) : Reader :=
  let arm := r.level.arm r.cursor.place
  let cursor := r.cursor.next
  { r with
    cursor
    level := { r.level with arms := arm :: r.level.arms, armStart := cursor.place, parts := [] } }

/-- Goes into a group. -/
def enter (r : Reader) (opening : Span) (mark : GroupMark) (spaced : Bool) (cursor : Cursor) :
    Reader :=
  { r with
    cursor, spaced, level := Level.new cursor.place
    groups := ⟨opening, mark, r.spaced, r.level⟩ :: r.groups }

/-- Goes into a group that is numbered. -/
def enterNumbered (r : Reader) (opening : Span) (cursor : Cursor) : Reader :=
  { r.enter opening (.numbered (r.count + 1)) r.spaced cursor with count := r.count + 1 }

/-- Goes out of a group. -/
def leave (r : Reader) : Except Fault Reader :=
  match r.groups with
  | [] => r.cursor.failAtNext .groupUnopened
  | g :: groups =>
    let cursor := r.cursor.next
    let form := .group (cursor.spanFrom g.opening.start) g.mark (r.level.form r.cursor.place)
    .ok { r with cursor, spaced := g.spaced, level := g.outside.add form, groups }

/-- The letters that modes are set by. -/
def flagLetters : List Char := ['i', 'm', 's', 'U', 'u', 'R', 'x']

/-- The letters of modes up to a colon or a closing parenthesis, each with its place. -/
def readFlags (seen : List (Char × Nat)) (place : Nat) :
    List Char → Except Fault (List (Char × Nat) × Cursor)
  | [] => .error ⟨.flagMissing, ⟨place, place⟩⟩
  | x :: rest =>
    let here : Span := ⟨place, place + 1⟩
    if x = ':' ∨ x = ')' then
      match seen.getLast? with
      | some ('-', last) => .error ⟨.negationDangling, ⟨last, last + 1⟩⟩
      | _ => .ok (seen, ⟨place, x :: rest⟩)
    else if x ≠ '-' ∧ x ∉ flagLetters then .error ⟨.flagUnrecognized, here⟩
    else match seen.lookup x with
      | some first =>
        let before : Span := ⟨first, first + 1⟩
        let flaw := if x = '-' then Flaw.negationRepeated before else .flagDuplicate before
        .error ⟨flaw, here⟩
      | none => readFlags (seen ++ [(x, place)]) (place + 1) rest

/-- Can it be in the name of a group? -/
def isNameChar (isFirst : Bool) (c : Char) : Bool :=
  if isFirst then c == '_' || Text.isAlphabetic c
  else c ∈ ['_', '.', '[', ']'] || Text.isAlphanumeric c

/-- The name of a group, up to a closing angle. -/
def readName (names : List (List Char × Span)) (c : Cursor) : Reading (List Char × Span) :=
  let name := c.rest.takeWhile (· ≠ '>')
  let behind := c.skip name.length
  let span := behind.spanFrom c.place
  match name.zipIdx.find? fun (x, i) => !isNameChar (i == 0) x with
  | some (_, i) => (c.skip i).failAtNext .groupNameInvalid
  | none =>
    if behind.isEnd then behind.fail .groupNameUnclosed
    else if name.isEmpty then c.fail .groupNameEmpty
    else match names.lookup name with
      | some before => .error ⟨.groupNameDuplicate before, span⟩
      | none => .ok ((name, span), behind.next)

/-- The place behind some signs, if they stand here. -/
def pastSigns? (c : Cursor) (signs : String) : Option Cursor :=
  if signs.toList.isPrefixOf c.rest then some (c.skip signs.length) else none

/-- What a parenthesis begins: a group, or a directive on modes. -/
def readGroup (r : Reader) : Except Fault Reader := do
  let opening := r.cursor.spanOfNext
  let inside := r.cursor.step r.spaced
  let aside := ["?=", "?!", "?<=", "?<!"].findSome? (pastSigns? inside)
  let named := ["?P<", "?<"].findSome? (pastSigns? inside)
  match aside, named, pastSigns? inside "?" with
  | some behind, _, _ => behind.failFrom opening.start .lookAround
  | none, some name, _ =>
    let (name, behind) ← readName r.names name
    return { r.enterNumbered opening behind with names := r.names ++ [name] }
  | none, none, some start =>
    if start.isEnd then .error ⟨.groupUnclosed, opening⟩
    else
      let (seen, stop) ← readFlags [] start.place start.rest
      let flags := seen.map (·.1)
      let spaced := (flagState? flags 'x').getD r.spaced
      if stop.rest.head? = some ':' then return r.enter opening (.flagged flags) spaced stop.next
      else if flags.isEmpty then inside.fail .repetitionMissing
      else return { r.add (.directive flags) stop.next with spaced }
  | none, none, none => return r.enterNumbered opening inside

/-- The part that a repetition is of, and what stands before it. -/
def repeated (r : Reader) : Except Fault (Form × Level) :=
  match r.level.parts with
  | [] | .directive _ :: _ => r.cursor.fail .repetitionMissing
  | f :: parts => .ok (f, { r.level with parts })

/-- Goes past a question mark, if one stands here: it asks for few rather than many. -/
def readLazy (c : Cursor) : Bool × Cursor :=
  if c.rest.head? = some '?' then (true, c.next) else (false, c)

/-- Goes past a sign of repetition. -/
def repeatPart (r : Reader) (least : Nat) (most : Option Nat) : Except Fault Reader := do
  let (f, level) ← r.repeated
  let (isLazy, cursor) := readLazy r.cursor.next
  return { r with
    cursor
    level := level.add (.several (cursor.spanFrom f.span.start) f least most isLazy) }

/-- A decimal number between blanks, and the place behind it, also if it is none. -/
def readDecimal (spaced : Bool) (c : Cursor) : Except Fault Nat × Cursor :=
  let start := c.pastBlanks
  let (digits, behind) := start.takeWhile spaced Char.isDigit
  let n := numberOf 10 digits
  let number :=
    if digits.isEmpty then behind.failFrom start.place .countMissing
    else if Nat.pow 2 32 ≤ n then behind.failFrom start.place .decimalInvalid
    else .ok n
  (number, behind.pastBlanks.pastSpace spaced)

/-- The numbers of a counted repetition, from behind its brace on. -/
def readCounts (spaced : Bool) (start : Nat) (c : Cursor) :
    Except Fault ((Nat × Option Nat) × Cursor) := do
  let (least, behind) := readDecimal spaced c
  match behind.rest with
  | [] => behind.failFrom start .countUnclosed
  | ',' :: _ =>
    let second := behind.step spaced
    match second.rest with
    | [] => second.failFrom start .countUnclosed
    | '\x7d' :: _ => return ((← least, none), second)
    | _ =>
      let least ← least
      let (most, behind) := readDecimal spaced second
      return ((least, some (← most)), behind)
  | _ =>
    let n ← least
    return ((n, some n), behind)

/-- Goes past a counted repetition. -/
def repeatCounted (r : Reader) : Except Fault Reader := do
  let start := r.cursor.place
  let (f, level) ← r.repeated
  let counts := r.cursor.step r.spaced
  if counts.isEnd then counts.failFrom start .countUnclosed
  else
    let ((least, most), brace) ← readCounts r.spaced start counts
    if brace.rest.head? ≠ some '\x7d' then brace.failFrom start .countUnclosed
    else
      let (isLazy, cursor) := readLazy (brace.step r.spaced)
      if most.any (· < least) then cursor.failFrom start .countInvalid
      else
        let form := .several (cursor.spanFrom f.span.start) f least most isLazy
        return { r with cursor, level := level.add form }

/-- Reads the next part. -/
def step (r : Reader) : Except Fault Reader := do
  let r := { r with cursor := r.cursor.pastSpace r.spaced }
  let here := r.cursor.spanOfNext
  let atom := fun (a : Atom) => r.add (.atom a) r.cursor.next
  match r.cursor.rest with
  | [] => return r
  | '(' :: _ => r.readGroup
  | ')' :: _ => r.leave
  | '|' :: _ => return r.alternate
  | '[' :: _ =>
    let (brackets, behind) ← readClass r.spaced r.cursor
    return r.add (.set brackets) behind
  | '?' :: _ => r.repeatPart 0 (some 1)
  | '*' :: _ => r.repeatPart 0 none
  | '+' :: _ => r.repeatPart 1 none
  | '\x7b' :: _ => r.repeatCounted
  | '\\' :: _ =>
    let (a, behind) ← readEscape r.spaced r.cursor
    return r.add (.atom a) behind
  | '.' :: _ => return atom (.point here)
  | '^' :: _ => return atom (.place here .start)
  | '$' :: _ => return atom (.place here .stop)
  | x :: _ => return atom (.char ⟨here, x, false⟩)

/-- Reads to the end, in at most so many steps. -/
def finish : Nat → Reader → Except Fault Reader
  | 0, r => .ok r
  | n + 1, r => if r.cursor.isEnd then .ok r else r.step >>= finish n

end Reader

/-- The form of a pattern with this text. Each step of reading goes past one character at
least. -/
def Form.ofText (text : String) : Except Fault Form := do
  let r ← (Reader.new text.toList).finish text.length
  match r.groups with
  | g :: _ => .error ⟨.groupUnclosed, g.opening⟩
  | [] =>
    let form := r.level.form r.cursor.place
    match form.tooDeep? depthLimit with
    | some span => .error ⟨.nestedTooDeep, span⟩
    | none => return form

end Populace.Pattern
