import Populace.Proofs.Rows.Boundaries
import Populace.Proofs.Sources.CountryFile

/-!
# Comments in country files

A comment is told from other rows only after the row has been read, so what a comment line
does is up to its quotes. If it leaves none open, it is a row of its own and may stand
between any two lines (`Inert`). If it does, lines behind it belong to the comment as well:
all of them if there is no other quote to come. Only a quote right behind a semicolon can
be the one that is left open. The text is one that comes at once; without a byte order mark
in front it makes no difference in which pieces it comes (`foldRows_of_unmarked`).
-/

namespace Populace.Sources

open Populace.Rows (Row IsLine IsLineEnd LeavesOpen BeginsWith endsRow quote rowsIn
  byteOrderMark)

/-- `#` -/
def hash : UInt8 := 0x23

/-- Wherever the comment stands between the lines of a country file that can be read, the
same is read. -/
def Inert (comment : List UInt8) : Prop :=
  ∀ (before after : List (List UInt8)) (ending : List UInt8) (locations : Table Geo.Position),
    (∀ line ∈ before ++ after, IsLine semicolon line) →
    ¬ byteOrderMark <+: (before ++ after).flatten →
    IsLineEnd ending →
    readLocations (.whole (before ++ after).flatten) = .ok locations →
    readLocations (.whole (before ++ (comment ++ ending) :: after).flatten) = .ok locations

/-! ## The row of a comment -/

theorem exists_trimmed_cons {b : UInt8} (hb : Rows.isBlank b = false) (f : List UInt8) :
    ∃ g, Rows.Field.trimmed (b :: f) = b :: g := by
  rw [Rows.Field.trimmed, List.dropWhile_cons_of_neg (by simp [hb]), List.reverse_cons,
    List.dropWhile_append]
  split
  · rw [List.dropWhile_cons_of_neg (by simp [hb])]
    exact ⟨[], rfl⟩
  · rw [List.reverse_append]
    exact ⟨_, rfl⟩

/-- A row that begins with a `#` is passed over. -/
theorem placeOf_of_hash {row : Row} (h : BeginsWith hash row) : placeOf row.trimmed = .ok none := by
  obtain ⟨f, more, rfl⟩ := h
  obtain ⟨g, hg⟩ := exists_trimmed_cons (show Rows.isBlank hash = false by decide) f
  have hfirst : textAt? (Row.trimmed ((hash :: f) :: more)) 0 = some (Text.lossy (hash :: g)) := by
    show some (Text.lossy (Rows.Field.trimmed (hash :: f))) = _
    rw [hg]
  refine placeOf_of_comment hfirst ⟨[], Text.charsOf 0 g, ?_, by simp⟩
  rw [Text.lossy, String.toList_ofList]
  rfl

section Comment

variable {more : List UInt8} (hmore : ∀ b ∈ more, endsRow b = false)

include hmore

/-- Behind a comment its row is under way, and no other row has been read. -/
theorem run_comment :
    (Rows.Scan.start.run semicolon (hash :: more)).place ≠ .rowStart
      ∧ (Rows.Scan.start.run semicolon (hash :: more)).rows = []
      ∧ BeginsWith hash (Rows.Scan.start.run semicolon (hash :: more)).underway := by
  have hfirst : Rows.Scan.start.step semicolon hash = ⟨.plain, [hash], [], []⟩ := by decide
  rw [Rows.Scan.run_cons, hfirst]
  exact Rows.Scan.run_open (by simp) ⟨[], [], rfl⟩ hmore

theorem quoted_comment_iff :
    (Rows.Scan.start.run semicolon (hash :: more)).place = .quoted
      ↔ LeavesOpen semicolon (hash :: more) :=
  Rows.Scan.quoted_iff_leavesOpen (by decide) (by decide)
    (List.forall_mem_cons.2 ⟨by decide, hmore⟩)

/-- A comment that leaves no quotes open is a row of its own. -/
theorem rowsIn_comment_of_closed (hclosed : ¬ LeavesOpen semicolon (hash :: more))
    {ending : List UInt8} (hending : IsLineEnd ending) (back : List UInt8) :
    ∃ row, BeginsWith hash row
      ∧ rowsIn semicolon (hash :: more ++ ending ++ back) = row :: rowsIn semicolon back := by
  obtain ⟨hplace, hrows, hbegins⟩ := run_comment hmore
  have hq : (Rows.Scan.start.run semicolon (hash :: more)).place ≠ .quoted :=
    mt (quoted_comment_iff hmore).1 hclosed
  have hrun : Rows.Scan.start.run semicolon (hash :: more ++ ending)
      = (Rows.Scan.start.run semicolon (hash :: more)).endRow := by
    rw [Rows.Scan.run_append, Rows.Scan.run_lineEnd (by decide) hending hq, if_neg hplace]
  have hstart : (Rows.Scan.start.run semicolon (hash :: more ++ ending)).place = .rowStart := by
    rw [hrun]
    rfl
  refine ⟨_, hbegins, ?_⟩
  rw [Rows.rowsIn_append hstart, rowsIn, hrun]
  simp [Rows.Scan.finished, Rows.Scan.complete, Rows.Scan.endRow, hrows, Rows.Scan.underway]

/-- A comment that leaves quotes open goes on behind its line. -/
theorem rowsIn_comment_of_open (hopen : LeavesOpen semicolon (hash :: more))
    {ending : List UInt8} (hending : IsLineEnd ending) (back : List UInt8) :
    ∃ row rest, BeginsWith hash row ∧ rest <:+ back ∧ (quote ∉ back → rest = [])
      ∧ rowsIn semicolon (hash :: more ++ ending ++ back) = row :: rowsIn semicolon rest := by
  obtain ⟨-, hrows, hbegins⟩ := run_comment hmore
  have hquoted : (Rows.Scan.start.run semicolon (hash :: more)).place = .quoted :=
    (quoted_comment_iff hmore).2 hopen
  have hnone : quote ∉ ending := by
    rcases hending with rfl | rfl | rfl <;> decide
  obtain ⟨hq, hrows', hbegins'⟩ := Rows.Scan.run_quoted hquoted hbegins hnone
  obtain ⟨row, rest, hrow, hrest, hfinished, hall⟩ :=
    Rows.Scan.exists_row_end (by simp [hq]) hbegins' semicolon back
  refine ⟨row, rest, hrow, hrest, hall hq, ?_⟩
  rw [rowsIn, Rows.Scan.run_append, Rows.Scan.run_append, hfinished]
  simp [Rows.Scan.complete, hrows', hrows]

end Comment

/-! ## Reading around a comment -/

/-- Text without a byte order mark is read row by row. -/
theorem readLocations_of_unmarked {text : List UInt8} (h : ¬ byteOrderMark <+: text) :
    readLocations (.whole text)
      = foldRows readLocation 1 Table.empty ((rowsIn semicolon text).map Row.trimmed) := by
  rw [readLocations, foldRows_whole, Rows.scan, Rows.withoutMark_of_unmarked h, rowsIn]

section Around

variable {front rest : List UInt8} {row : Row}
  (hfront : (Rows.Scan.start.run semicolon front).place = .rowStart)
  (hmark : ¬ byteOrderMark <+: front)

include hfront hmark

/-- A comment between two texts is read between their rows. -/
theorem readLocations_around (comment : List UInt8)
    (hrows : rowsIn semicolon (hash :: comment) = row :: rowsIn semicolon rest) :
    readLocations (.whole (front ++ hash :: comment))
      = foldRows readLocation 1 Table.empty ((rowsIn semicolon front).map Row.trimmed
          ++ row.trimmed :: (rowsIn semicolon rest).map Row.trimmed) := by
  have hunmarked := Rows.unmarked_insert hmark (show hash ∉ byteOrderMark by decide) comment
  rw [readLocations_of_unmarked hunmarked, Rows.rowsIn_append hfront, hrows, List.map_append,
    List.map_cons]

/-- With its quotes closed the comment could as well not be there. -/
theorem readLocations_comment_of_closed {more ending back : List UInt8}
    (hmore : ∀ b ∈ more, endsRow b = false) (hclosed : ¬ LeavesOpen semicolon (hash :: more))
    (hending : IsLineEnd ending) (hunmarked : ¬ byteOrderMark <+: front ++ back)
    {locations : Table Geo.Position} :
    readLocations (.whole (front ++ (hash :: more ++ ending ++ back))) = .ok locations
      ↔ readLocations (.whole (front ++ back)) = .ok locations := by
  obtain ⟨row, hrow, hrows⟩ := rowsIn_comment_of_closed hmore hclosed hending back
  have hinserted := readLocations_around hfront hmark (more ++ ending ++ back) hrows
  rw [List.cons_append, List.cons_append, hinserted,
    readLocation_adds.foldRows_insert (placeOf_of_hash hrow), ← List.map_append,
    ← Rows.rowsIn_append hfront, ← readLocations_of_unmarked hunmarked]

/-- With quotes left open the comment is read as an empty one in front of a later part of
the text. -/
theorem readLocations_comment_of_open {more ending : List UInt8}
    (hmore : ∀ b ∈ more, endsRow b = false) (hopen : LeavesOpen semicolon (hash :: more))
    (hending : IsLineEnd ending) (back : List UInt8) :
    ∃ rest, rest <:+ back ∧ (quote ∉ back → rest = [])
      ∧ readLocations (.whole (front ++ (hash :: more ++ ending ++ back)))
        = readLocations (.whole (front ++ hash :: Rows.lineFeed :: rest)) := by
  obtain ⟨row, rest, hrow, hrest, hall, hrows⟩ := rowsIn_comment_of_open hmore hopen hending back
  have hnone : ∀ b ∈ ([] : List UInt8), endsRow b = false := List.forall_mem_nil _
  have hbare : ¬ LeavesOpen semicolon [hash] := mt (quoted_comment_iff hnone).2 (by decide)
  obtain ⟨row', hrow', hrows'⟩ := rowsIn_comment_of_closed hnone hbare (.inl rfl) rest
  have hinserted := readLocations_around hfront hmark (more ++ ending ++ back) hrows
  have hempty := readLocations_around hfront hmark (Rows.lineFeed :: rest) hrows'
  refine ⟨rest, hrest, hall, ?_⟩
  rw [List.cons_append, List.cons_append, hinserted,
    readLocation_adds.foldRows_replace (placeOf_of_hash hrow) (placeOf_of_hash hrow')]
  exact hempty.symm

end Around

/-! ## Comments between lines -/

theorem unmarked_front {front back : List UInt8} (h : ¬ byteOrderMark <+: front ++ back) :
    ¬ byteOrderMark <+: front :=
  fun hmark => h (hmark.trans (List.prefix_append front back))

theorem flatten_insert (before after : List (List UInt8)) (line : List UInt8) :
    (before ++ line :: after).flatten = before.flatten ++ (line ++ after.flatten) := by
  rw [List.flatten_append, List.flatten_cons]

theorem inert_of_closed {more : List UInt8} (hmore : ∀ b ∈ more, endsRow b = false)
    (hclosed : ¬ LeavesOpen semicolon (hash :: more)) : Inert (hash :: more) := by
  intro before after ending locations hlines hmark hending hread
  have hfront := Rows.place_of_lines (by decide) (by decide) fun line hline =>
    hlines line (List.mem_append_left after hline)
  rw [List.flatten_append] at hmark hread
  rw [flatten_insert]
  exact (readLocations_comment_of_closed hfront (unmarked_front hmark) hmore hclosed hending
    hmark).2 hread

/-- A line that locates a country. -/
theorem readLocations_countryLine :
    ∃ locations p, readLocations (.whole (countryLine "A" "-3" "4")) = .ok locations
      ∧ locations.get? "A" = some p := by
  obtain ⟨x, hx⟩ : ∃ x, Decimal.readFloat "-3" = .ok x := ⟨_, rfl⟩
  obtain ⟨y, hy⟩ : ∃ y, Decimal.readFloat "4" = .ok y := ⟨_, rfl⟩
  have hrows : Rows.plainRows semicolon (countryLine "A" "-3" "4") = [countryRow "A" "-3" "4"] := by
    decide
  refine ⟨Table.empty.insert "A" ⟨y, x⟩, ⟨y, x⟩, ?_, ?_⟩
  · rw [readLocations_of_plain rfl ⟨by decide, by decide⟩, Stream.bytes_whole, hrows,
      readLocation_adds.foldRows_of_ok (placeOf_of_locates (locates_countryRow hx hy))]
    rfl
  · rw [Table.get?_insert, if_pos rfl]

theorem isLine_countryLine : IsLine semicolon (countryLine "A" "-3" "4") := by
  have hopen : ∀ b ∈ (countryLine "A" "-3" "4").dropLast, endsRow b = false :=
    Rows.endsRow_of_mem (by decide) (by decide)
  refine ⟨_, [Rows.lineFeed], by decide, hopen, .inl rfl, ?_⟩
  rw [← Rows.Scan.quoted_iff_leavesOpen (by decide) (by decide) hopen]
  decide

theorem closed_of_inert {more : List UInt8} (hmore : ∀ b ∈ more, endsRow b = false)
    (h : Inert (hash :: more)) : ¬ LeavesOpen semicolon (hash :: more) := by
  intro hopen
  obtain ⟨locations, p, hread, hp⟩ := readLocations_countryLine
  have hline := isLine_countryLine
  have hfront : (Rows.Scan.start.run semicolon []).place = .rowStart := rfl
  have hending : IsLineEnd [Rows.lineFeed] := .inl rfl
  -- with the comment in front of this line, only the comment is read
  obtain ⟨rest, -, hall, hlost⟩ := readLocations_comment_of_open hfront (by decide) hmore hopen
    hending (countryLine "A" "-3" "4")
  have hsame := h [] [countryLine "A" "-3" "4"] [Rows.lineFeed] locations (by simpa using hline)
    (by decide) hending (by simpa using hread)
  rw [flatten_insert, List.flatten_singleton] at hsame
  rw [List.flatten_nil, hlost, hall (by decide)] at hsame
  have hnothing : readLocations (.whole [hash, Rows.lineFeed]) = .ok Table.empty := rfl
  rw [List.nil_append, hnothing] at hsame
  cases hsame
  cases hp

/-- A comment may stand anywhere between the lines of a country file if and only if it
leaves no quotes open; it leaves none open if no quote stands right behind a semicolon in
it. A comment that leaves quotes open takes more than its own line: what is read is read
from the lines before it, and from some end of the text behind it, of which nothing is left
unless there is another quote in it. -/
theorem comment_inert_iff {more : List UInt8} (hmore : ∀ b ∈ more, endsRow b = false) :
    (Inert (hash :: more) ↔ ¬ LeavesOpen semicolon (hash :: more))
      ∧ (LeavesOpen semicolon (hash :: more) → [semicolon, quote] <:+: hash :: more)
      ∧ (LeavesOpen semicolon (hash :: more) →
          ∀ (before after : List (List UInt8)) (ending : List UInt8),
            (∀ line ∈ before ++ after, IsLine semicolon line) →
            ¬ byteOrderMark <+: (before ++ after).flatten →
            IsLineEnd ending →
            ∃ rest, rest <:+ after.flatten ∧ (quote ∉ after.flatten → rest = [])
              ∧ readLocations (.whole (before ++ (hash :: more ++ ending) :: after).flatten)
                = readLocations (.whole (before.flatten ++ hash :: Rows.lineFeed :: rest))) := by
  refine ⟨⟨closed_of_inert hmore, inert_of_closed hmore⟩, fun hopen => ?_, ?_⟩
  · exact hopen.opening (show some hash ≠ some quote by decide)
  · intro hopen before after ending hlines hmark hending
    have hfront := Rows.place_of_lines (by decide) (by decide) fun line hline =>
      hlines line (List.mem_append_left after hline)
    rw [List.flatten_append] at hmark
    rw [flatten_insert]
    exact readLocations_comment_of_open hfront (unmarked_front hmark) hmore hopen hending _

theorem comment_inert_iff_open_quote :
    (∀ b ∈ Text.bytesOf " cf. the;\"2nd edition", endsRow b = false)
      ∧ ¬ Inert (Text.bytesOf "# cf. the;\"2nd edition") := by
  have hmore : ∀ b ∈ Text.bytesOf " cf. the;\"2nd edition", endsRow b = false :=
    Rows.endsRow_of_mem (by decide) (by decide)
  have hcomment : Text.bytesOf "# cf. the;\"2nd edition"
      = hash :: Text.bytesOf " cf. the;\"2nd edition" := by decide
  have hopen := (quoted_comment_iff hmore).1 (by decide)
  refine ⟨hmore, ?_⟩
  rw [hcomment, (comment_inert_iff hmore).1]
  exact not_not_intro hopen

end Populace.Sources
