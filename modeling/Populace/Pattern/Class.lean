import Populace.Pattern.Escape

/-!
Reading a set of characters in brackets. Brackets can stand in brackets, and sets can be
joined by operators, which take the set before them as a whole; so what is open is kept on
a stack.
-/

namespace Populace.Pattern

/-- Parts of a set that have been read, the last first, and where the first begins or would
begin. -/
structure Items where
  start : Nat
  found : List ClassForm

namespace Items

/-- No parts yet. -/
def empty (start : Nat) : Items :=
  ⟨start, []⟩

/-- One more part. -/
def add (items : Items) (f : ClassForm) : Items :=
  ⟨if items.found.isEmpty then f.span.start else items.start, f :: items.found⟩

/-- All parts as one. -/
def form (items : Items) : ClassForm :=
  match items.found with
  | [f] => f
  | [] => .union ⟨items.start, items.start⟩ []
  | last :: _ => .union ⟨items.start, last.span.stop⟩ items.found.reverse

end Items

/-- What waits for something to end. -/
inductive Pending where
  /-- A bracket: what stands there up to its first part, whether its complement is meant,
  and what stands in the bracket around it before it. -/
  | bracket (opening : Span) (negated : Bool) (outside : Items)
  /-- An operator, and the set before it. -/
  | operator (operator : Operator) (left : ClassForm)

/-- What has been read of a set in brackets. -/
structure ClassReader where
  cursor : Cursor
  /-- What is open, the innermost first. -/
  pending : List Pending
  /-- What has been read of the innermost bracket, or since its last operator. -/
  items : Items

namespace ClassReader

/-- A bracket has no end. -/
def unclosed (r : ClassReader) : Except Fault α :=
  let opening := r.pending.findSome? fun
    | .bracket opening .. => some opening
    | .operator .. => none
  .error ⟨.classUnclosed, opening.getD (r.cursor.spanFrom r.cursor.place)⟩

/-- Adds a part. -/
def add (r : ClassReader) (f : ClassForm) (cursor : Cursor) : ClassReader :=
  { r with cursor, items := r.items.add f }

/-- A character that stands for itself at a place. -/
def plain (c : Char) (place : Nat) : ClassForm :=
  .atom (.char ⟨⟨place, place + 1⟩, c, false⟩)

/-- Goes into a bracket. Hyphens at its beginning stand for themselves, and so does a
closing bracket without any. -/
def openBracket (spaced : Bool) (r : ClassReader) : Except Fault ClassReader :=
  let start := r.cursor.place
  let inside := r.cursor.step spaced
  let negated := inside.rest.head? = some '^'
  let content := if negated then inside.step spaced else inside
  let (hyphens, behind) := content.takeFitting spaced (· == '-') content.rest.length
  let leadsBracket := hyphens.isEmpty && behind.rest.head? = some ']'
  let leading := if leadsBracket then [(']', behind.place)] else hyphens
  let behind := if leadsBracket then behind.step spaced else behind
  if behind.isEnd then
    if hyphens.isEmpty then behind.failFrom start .classUnclosed
    else r.cursor.fail .classUnclosed
  else
    .ok {
      cursor := behind
      pending := .bracket (behind.spanFrom start) negated r.items :: r.pending
      items := leading.foldl (fun items (c, start) => items.add (plain c start))
        (Items.empty content.place) }

/-- What waits, and the present set, joined to the set before it if an operator stands
between them. -/
def settled (r : ClassReader) : List Pending × ClassForm :=
  let right := r.items.form
  match r.pending with
  | .operator operator left :: pending =>
    (pending, .operator ⟨left.span.start, right.span.stop⟩ operator left right)
  | pending => (pending, right)

/-- Goes past an operator. -/
def operate (r : ClassReader) (operator : Operator) : ClassReader :=
  let (pending, left) := r.settled
  let behind := r.cursor.skip 2
  { cursor := behind
    pending := .operator operator left :: pending
    items := Items.empty behind.place }

/-- A class with a name, such as `[:alpha:]`, if one stands here. -/
def named? (c : Cursor) : Option (ClassForm × Cursor) :=
  match c.rest with
  | '[' :: ':' :: rest =>
    let negated := rest.head? = some '^'
    let name := (if negated then rest.tail else rest).takeWhile (· ≠ ':')
    let size := 2 + (if negated then 1 else 0) + name.length
    if (c.rest.drop size).take 2 = [':', ']'] then
      let behind := c.skip (size + 2)
      (Text.BasicClass.ofName? name).map fun s =>
        (.named (behind.spanFrom c.place) s negated, behind)
    else none
  | _ => none

/-- A character, or what a backslash begins. -/
def readItem (spaced : Bool) (c : Cursor) : Reading Atom :=
  match c.rest with
  | '\\' :: _ => readEscape spaced c
  | x :: _ => .ok (.char ⟨c.spanOfNext, x, false⟩, c.next)
  | [] => c.fail .classUnclosed

/-- The character that an atom is, as the end of a range. -/
def bound : Atom → Except Fault Literal
  | .char l => .ok l
  | a => .error ⟨.rangeBound, a.span⟩

/-- Adds an atom, which cannot be a place. -/
def addAtom (r : ClassReader) (cursor : Cursor) : Atom → Except Fault ClassReader
  | .place span _ => .error ⟨.classEscape, span⟩
  | a => .ok (r.add (.atom a) cursor)

/-- Reads an atom, or a range from one character to another. A hyphen before a closing
bracket stands for itself, and one before another is an operator with it. -/
def readRange (spaced : Bool) (r : ClassReader) : Except Fault ClassReader := do
  let (atom, behind) ← readItem spaced r.cursor
  let hyphen := behind.pastSpace spaced
  let second := hyphen.step spaced
  if hyphen.isEnd then r.unclosed
  else if hyphen.rest.head? ≠ some '-' ∨ second.rest.head? ∈ [some ']', some '-'] then
    r.addAtom behind atom
  else if second.isEnd then r.unclosed
  else
    let (other, behind) ← readItem spaced second
    let first ← bound atom
    let last ← bound other
    let span := behind.spanFrom r.cursor.place
    if first.char ≤ last.char then return r.add (.range span first last) behind
    else .error ⟨.rangeInvalid, span⟩

/-- Goes out of a bracket, to a place where nothing is open or to the bracket around it. -/
def closeBracket (r : ClassReader) : ClassReader :=
  let (pending, inner) := r.settled
  let behind := r.cursor.next
  match pending with
  | .bracket opening negated outside :: pending =>
    let form := .bracket (behind.spanFrom opening.start) negated inner
    { cursor := behind, pending, items := outside.add form }
  | _ => { cursor := behind, pending, items := r.items }

/-- Reads the next part. -/
def step (spaced : Bool) (r : ClassReader) : Except Fault ClassReader :=
  let r := { r with cursor := r.cursor.pastSpace spaced }
  match r.cursor.rest with
  | [] => r.unclosed
  | '[' :: _ => match named? r.cursor with
    | some (f, behind) => .ok (r.add f behind)
    | none => r.openBracket spaced
  | ']' :: _ => .ok r.closeBracket
  | '&' :: '&' :: _ => .ok (r.operate .inter)
  | '-' :: '-' :: _ => .ok (r.operate .diff)
  | '~' :: '~' :: _ => .ok (r.operate .symmDiff)
  | _ => r.readRange spaced

/-- Reads to the end of the outermost bracket, in at most so many steps. -/
def finish (spaced : Bool) : Nat → ClassReader → Except Fault ClassReader
  | 0, r => r.unclosed
  | n + 1, r => do
    let r ← r.step spaced
    if r.pending.isEmpty then return r else finish spaced n r

end ClassReader

/-- Reads a set in brackets, from the opening one on. Each step goes past one character
at least. -/
def readClass (spaced : Bool) (c : Cursor) : Except Fault (ClassForm × Cursor) := do
  let r ← ClassReader.openBracket spaced ⟨c, [], Items.empty c.place⟩
  let r ← r.finish spaced (c.rest.length + 1)
  return (r.items.form, r.cursor)

end Populace.Pattern
