import Populace.Proofs.Rows.Boundaries
import Populace.Proofs.Sources.Reading
import Populace.Sources.NameList

/-!
# What lists of names say

Every row has a first field, and no field is wrong as a name, so a list of names is always
read. From plain text come the first fields of the lines, but for empty ones and the
header; since nothing is remembered from one line to the next, lists of names may be read
in pieces that end lines.
-/

namespace Populace.Sources

open Populace.Rows (Row IsPlain EndsLine plainRows linesOf)

variable {header : String}

/-- The first field of a line. -/
def firstField (line : List UInt8) : String :=
  Text.lossy (Rows.Field.trimmed (line.takeWhile (· ≠ Rows.comma)))

/-- The names in plain text. -/
def namesIn (header : String) (bytes : List UInt8) : List String :=
  ((linesOf bytes).map firstField).filter fun name => name ≠ "" ∧ name ≠ header

/-- The text of a row's first field. -/
def firstText (row : Row) : String :=
  Text.lossy (row.headD [])

theorem readName_eq {row : Row} (h : row ≠ []) (names : List String) :
    readName header names row
      = .ok (if firstText row = "" ∨ firstText row = header then names
        else firstText row :: names) := by
  cases row with
  | nil => exact absurd rfl h
  | cons f more => rfl

/-- Rows are read by their first fields. -/
theorem foldRows_readName {rows : List Row} (h : ∀ row ∈ rows, row ≠ []) (number : Nat)
    (names : List String) :
    foldRows (readName header) number names rows
      = .ok (((rows.map firstText).filter fun name => name ≠ "" ∧ name ≠ header).reverse
          ++ names) := by
  induction rows generalizing number names with
  | nil => rfl
  | cons row rows ih =>
      have hrest := ih fun r hr => h r (by simp [hr])
      rw [foldRows, readName_eq (h row (by simp))]
      dsimp only
      rw [hrest, List.map_cons]
      by_cases hskip : firstText row = "" ∨ firstText row = header
      · have hdrop : ¬ (firstText row ≠ "" ∧ firstText row ≠ header) := by
          rw [← not_or]
          exact fun hnot => hnot hskip
        rw [if_pos hskip, List.filter_cons_of_neg (by simpa using hdrop)]
      · have hkeep : firstText row ≠ "" ∧ firstText row ≠ header := not_or.1 hskip
        rw [if_neg hskip, List.filter_cons_of_pos (by simpa using hkeep)]
        simp

theorem firstText_of_line (line : List UInt8) :
    firstText ((line.splitOn Rows.comma).map Rows.Field.trimmed) = firstField line := by
  rw [firstText, List.headD_eq_head?_getD, List.head?_map, Rows.head?_splitOn]
  rfl

/-- A list of names is read whatever its bytes are. -/
theorem exists_readNames {s : Stream} (h : s.broken = none) :
    ∃ names, readNames header s = .ok names := by
  have hrows : ∀ row ∈ (Rows.scan Rows.comma s.readAs).finished.map Row.trimmed, row ≠ [] := by
    intro row hrow
    obtain ⟨r, hr, rfl⟩ := List.mem_map.1 hrow
    simpa [Row.trimmed] using Rows.ne_nil_of_finished hr
  rw [readNames, foldRows_of_unnoticed _ (Stream.break?_of_unbroken h), foldRows_readName hrows]
  exact ⟨_, rfl⟩

theorem readNames_of_plain {s : Stream} (hs : s.broken = none) (h : IsPlain s.bytes) :
    readNames header s = .ok (namesIn header s.bytes) := by
  have hrows : ∀ row ∈ plainRows Rows.comma s.bytes, row ≠ [] :=
    fun row => Rows.ne_nil_of_plainRow
  have hfirst : (plainRows Rows.comma s.bytes).map firstText
      = (linesOf s.bytes).map firstField := by
    rw [plainRows, List.map_map]
    exact List.map_congr_left fun line _ => firstText_of_line line
  rw [readNames, foldRows_of_plain (by decide) hs h, foldRows_readName hrows, hfirst, namesIn]
  simp [Except.map]

theorem namesIn_append {front : List UInt8} (h : EndsLine front) (back : List UInt8) :
    namesIn header (front ++ back) = namesIn header front ++ namesIn header back := by
  rw [namesIn, Rows.linesOf_append h, List.map_append, List.filter_append, namesIn, namesIn]

/-- A list of names is read from any bytes that do not break off, whatever the header is.
From plain text it has the first fields of all lines with something on them, in order and
as often as they are there, but for those that are empty or the header; so two texts one
behind the other, of which the first is empty or ends a line, have the names of both. In
which pieces the bytes come makes no difference. -/
theorem names_read_by_line (header : String) :
    (∀ s : Stream, s.broken = none → ∃ names, readNames header s = .ok names)
      ∧ (∀ s : Stream, s.broken = none → IsPlain s.bytes →
          readNames header s
            = .ok (((linesOf s.bytes).map firstField).filter fun name =>
                name ≠ "" ∧ name ≠ header))
      ∧ ∀ front back all : Stream, front.broken = none → back.broken = none →
          all.broken = none → all.bytes = front.bytes ++ back.bytes →
          IsPlain front.bytes → IsPlain back.bytes → EndsLine front.bytes →
          ∃ names more, readNames header front = .ok names
            ∧ readNames header back = .ok more
            ∧ readNames header all = .ok (names ++ more) := by
  refine ⟨fun s => exists_readNames, fun s => readNames_of_plain, ?_⟩
  intro front back all hfront hback hall hbytes hplain hplain' hends
  refine ⟨_, _, readNames_of_plain hfront hplain, readNames_of_plain hback hplain', ?_⟩
  have hboth : IsPlain all.bytes := hbytes ▸ hplain.append hplain' hends
  rw [readNames_of_plain hall hboth, hbytes, namesIn_append hends]

/-- Two texts that come one behind the other, and both in one stream of two pieces. -/
theorem names_read_by_line_in_pieces :
    ∃ (front back : List UInt8) (filled : ∀ piece ∈ [front, back], piece ≠ []),
      IsPlain front ∧ IsPlain back ∧ EndsLine front
      ∧ front ++ back = Text.bytesOf "name,1\r\n A ,2\n\nA\rname\n,\nB"
      ∧ readNames "name" ⟨⟨[front, back], filled⟩, none⟩ = .ok ["A", "A", "B"] := by
  let front := Text.bytesOf "name,1\r\n A ,2\n\n"
  let back := Text.bytesOf "A\rname\n,\nB"
  have hfront : IsPlain (Stream.whole front).bytes := ⟨by decide, by decide⟩
  have hback : IsPlain (Stream.whole back).bytes := ⟨by decide, by decide⟩
  have hends : EndsLine (Stream.whole front).bytes :=
    .inr ⟨Text.bytesOf "name,1\r\n A ,2\n", Rows.lineFeed, by decide, by decide⟩
  have hfilled : ∀ piece ∈ [front, back], piece ≠ [] := by decide
  have hbytes : Stream.bytes ⟨⟨[front, back], hfilled⟩, none⟩
      = (Stream.whole front).bytes ++ (Stream.whole back).bytes := rfl
  obtain ⟨-, hread, hpieces⟩ := names_read_by_line "name"
  obtain ⟨names, more, hnames, hmore, hall⟩ :=
    hpieces (.whole front) (.whole back) _ rfl rfl rfl hbytes hfront hback hends
  rw [hread _ rfl hfront] at hnames
  rw [hread _ rfl hback] at hmore
  cases hnames
  cases hmore
  rw [Stream.bytes_whole] at hfront hback hends
  refine ⟨front, back, hfilled, hfront, hback, hends, by decide,
    hall.trans (congrArg Except.ok ?_)⟩
  decide

end Populace.Sources
