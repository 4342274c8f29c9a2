import Populace.Proofs.Decimal.Whole
import Populace.Proofs.Sources.Reading
import Populace.Sources.RankFile

/-!
# What rank files say

A row ranks a country if a whole number stands in its third field, in which commas do not
count (`Ranks`); any other row has a fault, that of its first missing field or of its
number (`RankFault`). A rank file of plain text is known from its lines by these two alone,
and what it says of areas is what it says of users.
-/

namespace Populace.Sources

open Populace.Rows (Row IsPlain plainRows)

/-- The characters but for the commas. -/
def withoutCommas (text : String) : List Char :=
  text.toList.filter (· ≠ ',')

/-- A row with three fields, of which the third is a whole number of 64 bits. -/
def IsRank (row : Row) : Prop :=
  3 ≤ row.length ∧ ∃ text, textAt? row 2 = some text
    ∧ ∃ n, n < UInt64.size ∧ Decimal.Writes (withoutCommas text) n

/-- The row gives the country this number. -/
structure Ranks (row : Row) (country : String) (n : UInt64) : Prop where
  country : textAt? row 1 = some country
  number : ∃ text, textAt? row 2 = some text ∧ Decimal.Writes (withoutCommas text) n.toNat

/-- What is wrong with a row: the first of its fields that is missing, or its number. -/
inductive RankFault (row : Row) : Failure → Prop where
  | short (h : row.length < 3) :
      RankFault row (.of (.tooFewFields row.length (max 1 row.length)))
  | number {text : String} {fault : Decimal.WholeFault} (h : 3 ≤ row.length)
      (htext : textAt? row 2 = some text)
      (hread : Decimal.readWhole (String.ofList (withoutCommas text)) = .error fault) :
      RankFault row ((Failure.of (.whole fault)).within (.wholeNumber text))

/-- What a row says: a country and its number. -/
def rankOf (row : Row) : Except Failure (Option (String × UInt64)) := do
  let country ← fieldText row 1
  let value ← readNumber (← fieldText row 2)
  return some (country, value)

theorem readRank_adds : Adds readRank rankOf noted := by
  intro t row
  rw [readRank, rankOf, map_bind]
  refine bind_congr fun country => ?_
  rw [map_bind]
  refine bind_congr fun text => ?_
  rw [map_bind]
  rfl

/-! ## One row -/

variable {row : Row} {country text : String} {n : UInt64}

theorem readNumber_eq (text : String) :
    readNumber text = match Decimal.readWhole (String.ofList (withoutCommas text)) with
      | .ok n => .ok n
      | .error fault => .error ((Failure.of (.whole fault)).within (.wholeNumber text)) := rfl

theorem readNumber_eq_ok_iff :
    readNumber text = .ok n ↔ Decimal.Writes (withoutCommas text) n.toNat := by
  rw [← String.toList_ofList (l := withoutCommas text), ← Decimal.readWhole_eq_ok_iff,
    readNumber_eq]
  split <;> simp [*]

theorem readNumber_eq_error_iff {e : Failure} :
    readNumber text = .error e
      ↔ ∃ fault, Decimal.readWhole (String.ofList (withoutCommas text)) = .error fault
        ∧ e = (Failure.of (.whole fault)).within (.wholeNumber text) := by
  rw [readNumber_eq]
  split <;> simp [*, eq_comm]

/-- With both fields there, it is up to the number. -/
theorem rankOf_of_texts (hcountry : textAt? row 1 = some country)
    (htext : textAt? row 2 = some text) :
    rankOf row = (readNumber text).map fun n => some (country, n) := by
  rw [rankOf, fieldText_eq_ok_iff.2 hcountry, fieldText_eq_ok_iff.2 htext]
  show (readNumber text >>= fun _ => _) = _
  cases readNumber text <;> rfl

theorem rankOf_of_short (h : row.length < 3) :
    rankOf row = .error (.of (.tooFewFields row.length (max 1 row.length))) := by
  rw [rankOf]
  by_cases hone : row.length ≤ 1
  · rw [fieldText_of_le hone, Nat.max_eq_left hone]
    rfl
  · have htwo : row.length = 2 := by omega
    obtain ⟨country, hcountry⟩ := exists_textAt? (show 1 < row.length by omega)
    rw [fieldText_eq_ok_iff.2 hcountry, fieldText_of_le (Nat.le_of_eq htwo), htwo]
    rfl

/-- A row with three fields has texts in the second and the third. -/
theorem texts_of_long (h : 3 ≤ row.length) :
    ∃ country text, textAt? row 1 = some country ∧ textAt? row 2 = some text := by
  obtain ⟨country, hcountry⟩ := exists_textAt? (show 1 < row.length by omega)
  obtain ⟨text, htext⟩ := exists_textAt? (show 2 < row.length by omega)
  exact ⟨country, text, hcountry, htext⟩

theorem rankOf_eq_ok_iff {said : Option (String × UInt64)} :
    rankOf row = .ok said ↔ ∃ country n, Ranks row country n ∧ said = some (country, n) := by
  by_cases hlong : 3 ≤ row.length
  · obtain ⟨country, text, hcountry, htext⟩ := texts_of_long hlong
    rw [rankOf_of_texts hcountry htext]
    constructor
    · intro h
      cases hread : readNumber text with
      | error e =>
          rw [hread] at h
          cases h
      | ok n =>
          rw [hread] at h
          cases h
          exact ⟨country, n, ⟨hcountry, text, htext, readNumber_eq_ok_iff.1 hread⟩, rfl⟩
    · rintro ⟨country', n, ⟨hcountry', text', htext', hwrites⟩, rfl⟩
      rw [hcountry] at hcountry'
      rw [htext] at htext'
      cases hcountry'
      cases htext'
      rw [readNumber_eq_ok_iff.2 hwrites]
      rfl
  · rw [rankOf_of_short (by omega)]
    constructor
    · intro h
      cases h
    · rintro ⟨country, n, ⟨-, text, htext, -⟩, -⟩
      exact absurd (lt_of_textAt? htext) (by omega)

theorem rankOf_eq_error_iff {e : Failure} : rankOf row = .error e ↔ RankFault row e := by
  by_cases hlong : 3 ≤ row.length
  · obtain ⟨country, text, hcountry, htext⟩ := texts_of_long hlong
    have herror : rankOf row = .error e ↔ readNumber text = .error e := by
      rw [rankOf_of_texts hcountry htext]
      cases readNumber text <;> simp [Except.map]
    rw [herror, readNumber_eq_error_iff]
    constructor
    · rintro ⟨fault, hread, rfl⟩
      exact .number hlong htext hread
    · rintro (hshort | ⟨-, htext', hread⟩)
      · omega
      · rw [htext] at htext'
        cases htext'
        exact ⟨_, hread, rfl⟩
  · rw [rankOf_of_short (by omega)]
    constructor
    · intro h
      cases h
      exact .short (by omega)
    · rintro (hshort | ⟨hlong', -, -⟩)
      · rfl
      · exact absurd hlong' hlong

theorem ranks_iff : rankOf row = .ok (some (country, n)) ↔ Ranks row country n := by
  rw [rankOf_eq_ok_iff]
  constructor
  · rintro ⟨country', n', h, heq⟩
    cases heq
    exact h
  · intro h
    exact ⟨country, n, h, rfl⟩

theorem isRank_iff : IsRank row ↔ ∃ said, rankOf row = .ok said := by
  simp only [rankOf_eq_ok_iff]
  constructor
  · rintro ⟨hlong, text, htext, n, hn, hwrites⟩
    obtain ⟨country, -, hcountry, -⟩ := texts_of_long hlong
    refine ⟨_, country, UInt64.ofNat n, ⟨hcountry, text, htext, ?_⟩, rfl⟩
    rwa [UInt64.toNat_ofNat_of_lt' hn]
  · rintro ⟨-, country, n, ⟨hcountry, text, htext, hwrites⟩, -⟩
    exact ⟨lt_of_textAt? htext, text, htext, n.toNat, n.toNat_lt, hwrites⟩

/-! ## All rows -/

variable {s : Stream}

theorem readUsers_of_plain (hs : s.broken = none) (h : IsPlain s.bytes) :
    readUsers s = foldRows readRank 1 Table.empty (plainRows tab s.bytes) :=
  foldRows_of_plain (by decide) hs h

theorem readAreas_of_ok {users : Table UInt64} (h : readUsers s = .ok users) :
    readAreas s = .ok (users.map UInt64.toFloat) := by
  rw [readUsers] at h
  rw [readAreas, h]
  rfl

theorem readAreas_eq_error_iff {e : Failure} :
    readAreas s = .error e ↔ readUsers s = .error e := by
  rw [readAreas, readUsers]
  cases readRankFile s <;> simp [Except.map]

/-- A rank file of plain text is read if and only if the third field of each of its rows is
there and a whole number of 64 bits, commas apart. It then has the countries of the second
fields, and each has the number of its last row. Otherwise the failure is that of the first
row with a fault, whatever follows, and tells the number of this row. As a file of areas it
is read for the same countries, and fails in the same way. -/
theorem rank_file_read_by_line (hs : s.broken = none) (h : IsPlain s.bytes) :
    ((∃ users, readUsers s = .ok users) ↔ ∀ row ∈ plainRows tab s.bytes, IsRank row)
      ∧ (∀ users, readUsers s = .ok users →
          (∀ country, country ∈ users.names
            ↔ ∃ row ∈ plainRows tab s.bytes, textAt? row 1 = some country)
          ∧ ∀ country n, users.get? country = some n
            ↔ Latest (fun row m => Ranks row country m) (plainRows tab s.bytes) n)
      ∧ (∀ e, readUsers s = .error e
          ↔ FirstFault RankFault (plainRows tab s.bytes) e)
      ∧ (∀ users, readUsers s = .ok users → ∃ areas,
          readAreas s = .ok areas ∧ areas.names = users.names
            ∧ ∀ country, areas.get? country = (users.get? country).map UInt64.toFloat)
      ∧ ∀ e, readAreas s = .error e ↔ readUsers s = .error e := by
  have hgood : (∃ users, readUsers s = .ok users)
      ↔ ∀ row ∈ plainRows tab s.bytes, IsRank row := by
    rw [readUsers_of_plain hs h, readRank_adds.foldRows_ok_iff]
    exact forall₂_congr fun row _ => isRank_iff.symm
  refine ⟨hgood, ?_, ?_, ?_, fun e => readAreas_eq_error_iff⟩
  · intro users husers
    have hrows := husers
    rw [readUsers_of_plain hs h] at hrows
    obtain ⟨hnames, hlatest⟩ := readRank_adds.table_of_foldRows
      (fun _ _ _ _ => ranks_iff) hrows
    refine ⟨fun country => (hnames country).trans ?_, hlatest⟩
    -- every row ranks the country in its second field
    refine exists_congr fun row => and_congr_right fun hrow => ?_
    constructor
    · rintro ⟨n, hranks⟩
      exact hranks.country
    · intro hcountry
      obtain ⟨said, hsaid⟩ := isRank_iff.1 (hgood.1 ⟨users, husers⟩ row hrow)
      obtain ⟨country', n, hranks, -⟩ := rankOf_eq_ok_iff.1 hsaid
      have heq : country' = country := Option.some.inj (hranks.country.symm.trans hcountry)
      exact ⟨n, heq ▸ hranks⟩
  · intro e
    rw [readUsers_of_plain hs h]
    exact readRank_adds.firstFault_iff fun row _ c => rankOf_eq_error_iff
  · intro users husers
    exact ⟨_, readAreas_of_ok husers, Table.names_map _ _, Table.get?_map _ _⟩

/-- Three rows with an empty line between them, of which two are about one country. -/
def repeatedRanks : List UInt8 :=
  Text.bytesOf "1\tA\t1\r\n\n2\tA\t+2,0\n3\t B \t5"

/-- A row that ranks a country, one with a word for its number, and one without any. -/
def spoiltRanks : List UInt8 :=
  Text.bytesOf "1\tA\t5\n\n2\tB\tmany\n3\tC\n"

/-- The last row of a country counts; and the first row with a fault is told, by its number and
what is wrong. -/
theorem rank_file_read_by_line_repeated :
    (IsPlain repeatedRanks ∧ ∃ users, readUsers (.whole repeatedRanks) = .ok users
        ∧ users.get? "A" = some 20 ∧ users.get? "B" = some 5)
      ∧ IsPlain spoiltRanks ∧ ∃ e, readUsers (.whole spoiltRanks) = .error e
        ∧ e.chain = ["row 2: ByteRecord([\"2\", \"B\", \"many\"])", "many isn't a whole number",
          "invalid digit found in string"] := by
  refine ⟨?_, ?_⟩
  · have hplain : IsPlain (Stream.whole repeatedRanks).bytes := ⟨by decide, by decide⟩
    obtain ⟨hread, htable, -⟩ := rank_file_read_by_line rfl hplain
    rw [Stream.bytes_whole] at hplain hread htable
    have hrows : plainRows tab repeatedRanks
        = [[[0x31], [0x41], [0x31]], [[0x32], [0x41], [0x2B, 0x32, 0x2C, 0x30]],
          [[0x33], [0x42], [0x35]]] := by decide
    have hone : Decimal.Writes (withoutCommas "1") 1 :=
      ⟨['1'], .inl (by decide), by decide, List.all_eq_true.1 (by decide), by decide⟩
    have htwenty : Decimal.Writes (withoutCommas "+2,0") 20 :=
      ⟨['2', '0'], .inr (by decide), by decide, List.all_eq_true.1 (by decide), by decide⟩
    have hfive : Decimal.Writes (withoutCommas "5") 5 :=
      ⟨['5'], .inl (by decide), by decide, List.all_eq_true.1 (by decide), by decide⟩
    obtain ⟨users, husers⟩ := hread.2 <| by
      rw [hrows]
      simp only [List.forall_mem_cons]
      exact ⟨⟨by decide, "1", by decide, 1, by decide, hone⟩,
        ⟨by decide, "+2,0", by decide, 20, by decide, htwenty⟩,
        ⟨by decide, "5", by decide, 5, by decide, hfive⟩, by simp⟩
    have hother : ∀ b, ¬ Ranks [[0x33], [0x42], [0x35]] "A" b := by
      intro b h
      exact absurd h.country (by decide)
    refine ⟨hplain, users, husers, ?_, ?_⟩
    · exact ((htable users husers).2 "A" 20).2
        ⟨[_], _, [_], hrows, ⟨by decide, "+2,0", by decide, htwenty⟩, by simpa using hother⟩
    · exact ((htable users husers).2 "B" 5).2
        ⟨[_, _], _, [], hrows, ⟨by decide, "5", by decide, hfive⟩, by simp⟩
  · have hplain : IsPlain (Stream.whole spoiltRanks).bytes := ⟨by decide, by decide⟩
    obtain ⟨-, -, hfails, -⟩ := rank_file_read_by_line rfl hplain
    have hrows : plainRows tab (Stream.whole spoiltRanks).bytes
        = [[[0x31], [0x41], [0x35]]] ++ [[0x32], [0x42], Text.bytesOf "many"]
          :: [[[0x33], [0x43]]] := by decide
    have hgood : ∀ c, ¬ RankFault [[0x31], [0x41], [0x35]] c := by
      intro c hfault
      cases rankOf_eq_error_iff.2 hfault
    have hbad : RankFault [[0x32], [0x42], Text.bytesOf "many"] _ :=
      .number (by decide) (show textAt? _ 2 = some "many" by decide) rfl
    exact ⟨hplain, _, (hfails _).2 ⟨_, _, _, _, hrows, by simpa using hgood, hbad, rfl⟩, rfl⟩

end Populace.Sources
