import Populace.Proofs.People.Identifiers
import Populace.Proofs.Rows.Reader
import Populace.Proofs.Rows.Writer
import Populace.Proofs.Sources.Pieces
import Populace.Sources.NameList

/-!
# People written as rows and read back

A row of a person has five fields, of which only the name can hold anything at all. The
identifier needs no quotes, has no blanks and begins with a plain byte, so the table has
no byte order mark in front, and its first column is a list of names that are the
identifiers. The field of the date of birth spells its year, month and day
(`Calendar.Date.text_spells`).
-/

namespace Populace.People

open Populace.Rows (Medium Writer)
open Populace.Sources (Stream readName readNames fieldText)

variable {p : Person} {people : List Person} {header : String}

/-! ## The identifier's field -/

theorem isPlain_of_id {c : Char} (h : c ∈ p.id.text.toList) : Text.IsPlain c := by
  have hall : ('-' :: Uuid.lowercase).all (fun c => decide (Text.IsPlain c)) = true := by decide
  have hmem := Uuid.mem_of_isHyphenated (Uuid.isHyphenated_text p.id) h
  exact of_decide_eq_true (List.all_eq_true.1 hall c hmem)

/-- The bytes of an identifier have no meaning of their own, whoever reads them. -/
theorem harmless_of_id {b : UInt8} (h : b ∈ Text.bytesOf p.id.text) :
    b < 0x80 ∧ Rows.needsQuotes b = false ∧ Rows.isBlank b = false := by
  have hall : ('-' :: Uuid.lowercase).all (fun c => !Rows.needsQuotes (Text.plainByte c)
      && !Rows.isBlank (Text.plainByte c)) = true := by decide
  rw [Text.bytesOf_of_plain fun c hc => isPlain_of_id hc, List.mem_map] at h
  obtain ⟨c, hc, rfl⟩ := h
  have hmem := Uuid.mem_of_isHyphenated (Uuid.isHyphenated_text p.id) hc
  refine ⟨Text.plainByte_lt (isPlain_of_id hc), ?_⟩
  simpa using List.all_eq_true.1 hall c hmem

theorem bytesOf_id_ne_nil (p : Person) : Text.bytesOf p.id.text ≠ [] := by
  have hne : p.id.text ≠ "" := Uuid.ne_empty_of_isHyphenated (Uuid.isHyphenated_text p.id)
  rw [Text.bytesOf_of_plain fun c hc => isPlain_of_id hc]
  simpa using hne

theorem trimmed_id (p : Person) :
    Rows.Field.trimmed (Text.bytesOf p.id.text) = Text.bytesOf p.id.text :=
  Rows.Field.trimmed_of_no_blank fun _ hb => (harmless_of_id hb).2.2

/-! ## The rows of a table of people -/

/-- Nothing in front of the first identifier is taken for a byte order mark. -/
theorem withoutMark_rowsOf (people : List Person) :
    Rows.withoutMark (rowsOf people) = rowsOf people := by
  cases people with
  | nil => rfl
  | cons p people =>
      have hplain : (Text.bytesOf p.id.text).any Rows.needsQuotes = false := by
        rw [List.any_eq_false]
        intro b hb
        rw [(harmless_of_id hb).2.1]
        decide
      obtain ⟨b, rest, hid⟩ := List.exists_cons_of_ne_nil (bytesOf_id_ne_nil p)
      have hb : b < 0x80 := (harmless_of_id (p := p) (by simp [hid])).1
      rw [rowsOf, List.flatMap_cons, Person.row, List.map_cons, List.map_cons,
        Rows.rowBytes_cons, Rows.fieldBytes_plain hplain, hid]
      exact Rows.withoutMark_of_plain hb _

/-- People's rows are read back field by field. -/
theorem finished_rowsOf (people : List Person) :
    (Rows.scan Rows.comma (rowsOf people)).finished = people.map Person.row := by
  have hrows : rowsOf people = (people.map Person.row).flatMap Rows.rowBytes := by
    rw [rowsOf, List.flatMap_map]
  have hmark : Rows.withoutMark ((people.map Person.row).flatMap Rows.rowBytes)
      = (people.map Person.row).flatMap Rows.rowBytes := by
    rw [← hrows]
    exact withoutMark_rowsOf people
  rw [hrows]
  apply Rows.finished_rows ?_ hmark
  -- a row of five fields is neither no row nor an empty line
  intro r hr
  obtain ⟨p, -, rfl⟩ := List.mem_map.1 hr
  simp [Person.row]

/-! ## The identifiers as a list of names -/

theorem readName_row (hp : p.id.text ≠ header) (names : List String) :
    readName header names (Rows.Row.trimmed p.row) = .ok (p.id.text :: names) := by
  have hfield : fieldText (Rows.Row.trimmed p.row) 0 = .ok p.id.text := by
    show Except.ok (Text.lossy (Rows.Field.trimmed (Text.bytesOf p.id.text))) = _
    rw [trimmed_id, Text.lossy_bytesOf fun c hc => isPlain_of_id hc]
  have hne : p.id.text ≠ "" := Uuid.ne_empty_of_isHyphenated (Uuid.isHyphenated_text p.id)
  rw [readName, hfield]
  show Except.ok _ = _
  rw [if_neg (by simp [hne, hp])]

theorem foldRows_rows (h : ∀ p ∈ people, p.id.text ≠ header) (number : Nat)
    (names : List String) :
    Sources.foldRows (readName header) number names
        ((people.map Person.row).map Rows.Row.trimmed)
      = .ok ((people.map fun p => p.id.text).reverse ++ names) := by
  induction people generalizing number names with
  | nil => rfl
  | cons p people ih =>
      simp only [List.map_cons, Sources.foldRows, readName_row (h p List.mem_cons_self)]
      rw [ih fun q hq => h q (List.mem_cons_of_mem _ hq)]
      simp

/-- The first column of people's rows are their identifiers. -/
theorem readNames_rowsOf (h : ∀ p ∈ people, p.id.text ≠ header) :
    readNames header (Stream.whole (rowsOf people)) = .ok (people.map fun p => p.id.text) := by
  rw [readNames, Sources.foldRows_whole, finished_rowsOf, foldRows_rows h]
  simp [Except.map]

/-- Whoever the people are, the sink takes them all and finishes, and what is written then
reads back as one row for each of them in order, with five fields that hold the bytes of
the identifier, the name, the date of birth and the two coordinates. The identifiers are
written in groups of lowercase digits. Read as a list of names the table gives the
identifiers, whichever header is skipped that is not one of them. -/
theorem rows_read_back (people : List Person) :
    ∃ w v, Sink.rows.Accepts people (Writer.new (Medium.empty none)) w
      ∧ Sink.rows.finish w = .ok () v
      ∧ (Rows.scan Rows.comma v.reached).finished
          = people.map (fun p =>
              [Text.bytesOf p.id.text, Text.bytesOf p.name, Text.bytesOf p.born.text,
                Text.bytesOf (Decimal.compact p.position.latitude),
                Text.bytesOf (Decimal.compact p.position.longitude)])
      ∧ (∀ p ∈ people, Uuid.IsHyphenated p.id.text)
      ∧ ∀ header, (∀ p ∈ people, p.id.text ≠ header) →
          readNames header (Stream.whole v.reached)
            = .ok (people.map fun p => p.id.text) := by
  obtain ⟨w, haccepts, hw⟩ := rows_accepts Writer.holds_new people
  obtain ⟨v, hfinish, -, hstored⟩ := Writer.flush_of_holds hw
  have hbytes : v.reached = rowsOf people := by
    rw [Writer.reached, hstored]
    simp
  refine ⟨w, v, haccepts, hfinish, ?_, fun p _ => Uuid.isHyphenated_text p.id, ?_⟩
  · rw [hbytes, finished_rowsOf]
    rfl
  · intro header h
    rw [hbytes]
    exact readNames_rowsOf h

/-- Somebody whose name needs quotes. -/
def ada : Person where
  id := ⟨0x0123456789ab4def8123456789abcdef#128⟩
  name := "Ada, \"AL\""
  born := ⟨-56270, by decide⟩
  position := { latitude := 51.5, longitude := -0.125 }

theorem rows_read_back_ada :
    ∃ w v, Sink.rows.Accepts [ada] (Writer.new (Medium.empty none)) w
      ∧ Sink.rows.finish w = .ok () v
      ∧ (Rows.scan Rows.comma v.reached).finished
          = [["01234567-89ab-4def-8123-456789abcdef", "Ada, \"AL\"", "1815-12-10", "51.5",
              "-0.125"].map Text.bytesOf]
      ∧ readNames "id" (Stream.whole v.reached)
          = .ok ["01234567-89ab-4def-8123-456789abcdef"] := by
  obtain ⟨w, v, haccepts, hfinish, hrows, -, hnames⟩ := rows_read_back [ada]
  have hrow : ada.row = ["01234567-89ab-4def-8123-456789abcdef", "Ada, \"AL\"", "1815-12-10",
      "51.5", "-0.125"].map Text.bytesOf := by decide +kernel
  have hid : ada.id.text = "01234567-89ab-4def-8123-456789abcdef" := by decide +kernel
  refine ⟨w, v, haccepts, hfinish, ?_, ?_⟩
  · rw [hrows, ← hrow]
    rfl
  · rw [hnames "id" (by simp [hid]), List.map_singleton, hid]

end Populace.People
