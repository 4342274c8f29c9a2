import Populace.Pattern.Build
import Populace.Pattern.Modes

/-!
What the form of a pattern means. There are no tables of the letters, digits and blanks of
all scripts, of their cases and their properties; where characters are not the basic ones
alone, a form that asks for one of these is at fault. Where they are bytes, one that can stand
for bytes that are no text is.
-/

namespace Populace.Pattern

open Populace.Text (Runs)

/-- A name as it is compared, without the word `is` that may stand before it. -/
def plainName (name : List Char) : String :=
  let bare := fun (cs : List Char) => String.ofList <|
    (cs.filter fun c => c.toNat < 0x80 && !(c == ' ' || c == '_' || c == '-')).map Char.toLower
  match name with
  | i :: s :: rest =>
    if i.toLower = 'i' ∧ s.toLower = 's' then
      let rest := bare rest
      if rest = "c" then "isc" else rest
    else bare name
  | _ => bare name

/-- What is wrong with the name of a property. There is none of that name, or, if the name is
also that of a value that a property can have, no such value. -/
def propertyFlaw (name : List Char) : Flaw :=
  if plainName name ∈ ["cf", "lc", "sc"] then .propertyValueUnknown else .propertyUnknown

/-- The basic characters of a kind. -/
def Kind.basic : Kind → Runs
  | digit => Text.BasicClass.digits
  | blank => Text.BasicClass.blanks
  | wordPart => Text.BasicClass.wordParts

/-- What an operator makes of two sets. -/
def Operator.apply : Operator → Runs → Runs → Runs
  | inter => Runs.inter
  | diff => Runs.diff
  | symmDiff => Runs.symmDiff

namespace Modes

/-- A set, or its complement. Where characters are bytes, that holds some that are none of a
text. -/
def complement (m : Modes) (span : Span) (negated : Bool) (s : Runs) : Except Fault Runs :=
  if !negated then .ok s
  else if m.unicode then .ok s.compl
  else .error ⟨.notText, span⟩

/-- A set with all characters that differ in case only, if that does not count. Of characters
of all scripts these are not known, so that none may be named; a set in which none is, is
empty or everything. -/
def folded (m : Modes) (span : Span) (namesChars : Bool) (s : Runs) : Except Fault Runs :=
  if !m.anyCase then .ok s
  else if !m.unicode then .ok (Text.BasicClass.anyCase s)
  else if namesChars then .error ⟨.caseUnknown, span⟩
  else .ok s

/-- The characters of a kind, or those that are not. -/
def kindSet (m : Modes) (span : Span) (kind : Kind) (negated : Bool) : Except Fault Runs :=
  if m.unicode then .error ⟨.kindUnknown, span⟩ else m.complement span negated kind.basic

/-- The characters with a property. -/
def propertySet (m : Modes) (span : Span) (name : List Char) : Except Fault Runs :=
  .error ⟨if m.unicode then propertyFlaw name else .notInBytes, span⟩

/-- The code point of a character in brackets, where bytes are basic characters only. -/
def classPoint (m : Modes) (l : Literal) : Except Fault Nat :=
  if m.unicode || l.char.toNat < 0x80 then .ok l.char.toNat
  else .error ⟨if l.isHighByte then .notText else .notInBytes, l.span⟩

end Modes

/-- The set that an atom stands for in brackets. Points and places are not read there. -/
def Atom.set (m : Modes) : Atom → Except Fault Runs
  | char l => do
    let n ← m.classPoint l
    return [(n, n)]
  | kind span k negated => m.kindSet span k negated
  | property span name => m.propertySet span name
  | point _ | place .. => .ok []

/-- What an atom stands for. -/
def Atom.pattern (m : Modes) : Atom → Except Fault Pattern
  | char l =>
    if !m.unicode && l.isHighByte then .error ⟨.notText, l.span⟩
    else if !m.anyCase then .ok (.text [l.char])
    else if m.unicode then .error ⟨.caseUnknown, l.span⟩
    else
      let n := l.char.toNat
      .ok (ofSet (Text.BasicClass.anyCase [(n, n)]))
  | kind span k negated => (m.kindSet span k negated).map ofSet
  | property span name => (m.propertySet span name).map ofSet
  | point span => (m.complement span true m.lineEnds).map ofSet
  | place _ sign => .ok (.place (m.anchor sign))

mutual

/-- The set that a form in brackets stands for. -/
def ClassForm.set (m : Modes) : ClassForm → Except Fault Runs
  | .atom a => a.set m
  | .range _ first last => do return [(← m.classPoint first, ← m.classPoint last)]
  | .named span members negated => do
    m.complement span negated (← m.folded span true members)
  | .union _ items => ClassForm.unionSet m items
  | .operator _ op left right => do
    let leftSet ← left.set m
    let rightSet ← right.set m
    let rightSet ← m.folded right.span right.namesChars rightSet
    let leftSet ← m.folded left.span left.namesChars leftSet
    return op.apply leftSet rightSet
  | .bracket span negated inner => do
    let s ← inner.set m
    m.complement span negated (← m.folded span inner.namesChars s)

/-- What is in one of some sets. -/
def ClassForm.unionSet (m : Modes) : List ClassForm → Except Fault Runs
  | [] => .ok []
  | f :: fs => do return (← f.set m) ++ (← ClassForm.unionSet m fs)

end

mutual

/-- What a form means, and the modes that hold behind it. -/
def Form.meaning (m : Modes) : Form → Except Fault (Pattern × Modes)
  | .nothing => .ok (.nothing, m)
  | .directive flags => .ok (.nothing, m.change flags)
  | .atom a => do return (← a.pattern m, m)
  | .set brackets => do return (ofSet (Runs.ordered (← brackets.set m)), m)
  | .several _ kind least most isLazy => do
    let (kind, _) ← kind.meaning m
    return (.repeated kind least most (isLazy = m.swapsGreed), m)
  | .group _ (.numbered number) inner => do
    let (inner, _) ← inner.meaning m
    return (.group number inner, m)
  | .group _ (.flagged flags) inner => do
    let (inner, _) ← inner.meaning (m.change flags)
    return (inner, m)
  | .either _ arms => do
    let (arms, m) ← Form.meanings m arms
    return (.anyOf arms, m)
  | .next _ parts => do
    let (parts, m) ← Form.meanings m parts
    return (.sequence parts, m)

/-- What forms mean that stand one behind the other, and the modes that hold behind them. -/
def Form.meanings (m : Modes) : List Form → Except Fault (List Pattern × Modes)
  | [] => .ok ([], m)
  | f :: fs => do
    let (p, m) ← f.meaning m
    let (ps, m) ← Form.meanings m fs
    return (p :: ps, m)

end

end Populace.Pattern
