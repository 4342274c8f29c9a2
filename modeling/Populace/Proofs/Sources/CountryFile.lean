import Populace.Proofs.Sources.Reading
import Populace.Sources.CountryFile

/-!
# What country files say

A row is passed over if it is a comment or has the names of the coordinates in their
places (`IsSkipped`). Any other row locates a country if both coordinates are numbers
(`Locates`), and has a fault if not (`LocationFault`): these three cases are all there are
(`placeOf_cases`), and a country file of plain text is known from its lines by them alone.
-/

namespace Populace.Sources

open Populace.Rows (Row IsPlain plainRows)
open Populace.Geo (Position)

/-- The text begins with a `#` behind any number of byte order marks. -/
def BeginsComment (text : String) : Prop :=
  ∃ marks rest, text.toList = marks ++ '#' :: rest ∧ ∀ c ∈ marks, c = '\ufeff'

/-- A comment, or the row with the names of the fields. -/
def IsSkipped (row : Row) : Prop :=
  (∃ first, textAt? row 0 = some first ∧ BeginsComment first)
    ∨ 63 ≤ row.length ∧ (textAt? row 61 = some "latitude" ∨ textAt? row 62 = some "longitude")

/-- A row with 63 fields or more, of which the 62nd and the 63rd are numbers. -/
def HasCoordinates (row : Row) : Prop :=
  63 ≤ row.length
    ∧ (∃ text x, textAt? row 61 = some text ∧ Decimal.readFloat text = .ok x)
    ∧ ∃ text y, textAt? row 62 = some text ∧ Decimal.readFloat text = .ok y

/-- The row locates the country here. -/
structure Locates (row : Row) (country : String) (p : Position) : Prop where
  counts : ¬ IsSkipped row
  country : textAt? row 21 = some country
  latitude : ∃ text, textAt? row 61 = some text ∧ Decimal.readFloat text = .ok p.latitude
  longitude : ∃ text, textAt? row 62 = some text ∧ Decimal.readFloat text = .ok p.longitude

/-- What is wrong with a row that counts: the first of its coordinates that is missing, or
if both are there the first that is no number. -/
inductive LocationFault (row : Row) : Failure → Prop where
  | short (hcounts : ¬ IsSkipped row) (h : row.length < 63) :
      LocationFault row (.of (.tooFewFields row.length (max 61 row.length)))
  | latitude {text : String} {fault : Decimal.DecimalFault} (hcounts : ¬ IsSkipped row)
      (h : 63 ≤ row.length) (htext : textAt? row 61 = some text)
      (hread : Decimal.readFloat text = .error fault) :
      LocationFault row ((Failure.of (.decimal fault)).within (.latitude text))
  | longitude {first text : String} {x : Float} {fault : Decimal.DecimalFault}
      (hcounts : ¬ IsSkipped row) (hfirst : textAt? row 61 = some first)
      (hlatitude : Decimal.readFloat first = .ok x) (htext : textAt? row 62 = some text)
      (hread : Decimal.readFloat text = .error fault) :
      LocationFault row ((Failure.of (.decimal fault)).within (.longitude text))

/-- What a row says: nothing, or a country and its place. -/
def placeOf (row : Row) : Except Failure (Option (String × Position)) := do
  if isComment (← fieldText row 0) then
    return none
  let latitude ← fieldText row latitudeField
  let longitude ← fieldText row longitudeField
  if latitude = "latitude" ∨ longitude = "longitude" then
    return none
  let latitude ← readCoordinate .latitude latitude
  let longitude ← readCoordinate .longitude longitude
  let country ← fieldText row nameField
  return some (country, Position.ofLatLon latitude longitude)

theorem readLocation_adds : Adds readLocation placeOf noted := by
  intro t row
  rw [readLocation, placeOf, map_bind]
  refine bind_congr fun first => ?_
  split
  · rfl
  · rw [map_bind]
    refine bind_congr fun latitude => ?_
    rw [map_bind]
    refine bind_congr fun longitude => ?_
    split
    · rfl
    · rw [map_bind]
      refine bind_congr fun x => ?_
      rw [map_bind]
      refine bind_congr fun y => ?_
      rw [map_bind]
      rfl

/-! ## One row -/

variable {row : Row}

theorem isComment_iff {text : String} : isComment text = true ↔ BeginsComment text := by
  rw [isComment, beq_iff_eq]
  constructor
  · intro h
    obtain ⟨rest, hrest⟩ := List.head?_eq_some_iff.1 h
    refine ⟨text.toList.takeWhile (· = '\ufeff'), rest, ?_, fun c hc => ?_⟩
    · rw [← hrest, List.takeWhile_append_dropWhile]
    · simpa using List.all_eq_true.1 List.all_takeWhile c hc
  · rintro ⟨marks, rest, htext, hmarks⟩
    have hdrop : (marks ++ '#' :: rest).dropWhile (· = '\ufeff') = '#' :: rest := by
      rw [List.dropWhile_append_of_pos (by simpa using hmarks)]
      rfl
    rw [htext, hdrop]
    rfl

theorem placeOf_of_comment {first : String} (hfirst : textAt? row 0 = some first)
    (hcomment : BeginsComment first) : placeOf row = .ok none := by
  rw [placeOf, fieldText_eq_ok_iff.2 hfirst]
  show (if isComment first = true then _ else _) = _
  rw [if_pos (isComment_iff.2 hcomment)]
  rfl

section NoComment

variable {first latitude longitude country : String} (hfirst : textAt? row 0 = some first)
  (hcomment : ¬ BeginsComment first)

include hfirst hcomment

theorem placeOf_of_no_comment :
    placeOf row = do
      let latitude ← fieldText row latitudeField
      let longitude ← fieldText row longitudeField
      if latitude = "latitude" ∨ longitude = "longitude" then
        return none
      let x ← readCoordinate .latitude latitude
      let y ← readCoordinate .longitude longitude
      let country ← fieldText row nameField
      return some (country, Position.ofLatLon x y) := by
  rw [placeOf, fieldText_eq_ok_iff.2 hfirst]
  show (if isComment first = true then _ else _) = _
  rw [if_neg (by rwa [isComment_iff])]

theorem placeOf_of_short (h : row.length < 63) :
    placeOf row = .error (.of (.tooFewFields row.length (max 61 row.length))) := by
  rw [placeOf_of_no_comment hfirst hcomment]
  by_cases hle : row.length ≤ 61
  · have hmissing : fieldText row latitudeField = _ := fieldText_of_le hle
    rw [hmissing, Nat.max_eq_left hle]
    rfl
  · have heq : row.length = 62 := by omega
    obtain ⟨latitude, hlatitude⟩ := exists_textAt? (show 61 < row.length by omega)
    have hfound : fieldText row latitudeField = _ := fieldText_eq_ok_iff.2 hlatitude
    have hmissing : fieldText row longitudeField = _ := fieldText_of_le (Nat.le_of_eq heq)
    rw [hfound, hmissing, heq]
    rfl

theorem placeOf_of_texts (hlatitude : textAt? row 61 = some latitude)
    (hlongitude : textAt? row 62 = some longitude) :
    placeOf row = if latitude = "latitude" ∨ longitude = "longitude" then .ok none else do
      let x ← readCoordinate .latitude latitude
      let y ← readCoordinate .longitude longitude
      let country ← fieldText row nameField
      return some (country, Position.ofLatLon x y) := by
  have hlat : fieldText row latitudeField = _ := fieldText_eq_ok_iff.2 hlatitude
  have hlon : fieldText row longitudeField = _ := fieldText_eq_ok_iff.2 hlongitude
  rw [placeOf_of_no_comment hfirst hcomment, hlat, hlon]
  rfl

end NoComment

theorem not_beginsComment {first : String} (hcounts : ¬ IsSkipped row)
    (hfirst : textAt? row 0 = some first) : ¬ BeginsComment first :=
  fun h => hcounts (.inl ⟨first, hfirst, h⟩)

/-- A row that counts and has both coordinates is read by them. -/
theorem placeOf_of_counts {latitude longitude : String} (hcounts : ¬ IsSkipped row)
    (hlatitude : textAt? row 61 = some latitude) (hlongitude : textAt? row 62 = some longitude) :
    placeOf row = do
      let x ← readCoordinate .latitude latitude
      let y ← readCoordinate .longitude longitude
      let country ← fieldText row nameField
      return some (country, Position.ofLatLon x y) := by
  have hlong : 62 < row.length := lt_of_textAt? hlongitude
  obtain ⟨first, hfirst⟩ := exists_textAt? (show 0 < row.length by omega)
  have hnames : ¬ (latitude = "latitude" ∨ longitude = "longitude") := by
    rintro (rfl | rfl)
    · exact hcounts (.inr ⟨hlong, .inl hlatitude⟩)
    · exact hcounts (.inr ⟨hlong, .inr hlongitude⟩)
  rw [placeOf_of_texts hfirst (not_beginsComment hcounts hfirst) hlatitude hlongitude,
    if_neg hnames]

theorem readCoordinate_eq (context : String → Context) (text : String) :
    readCoordinate context text = match Decimal.readFloat text with
      | .ok x => .ok x
      | .error fault => .error ((Failure.of (.decimal fault)).within (context text)) := rfl

/-! ## The three kinds of rows -/

theorem placeOf_of_skipped (h : IsSkipped row) : placeOf row = .ok none := by
  rcases h with ⟨first, hfirst, hcomment⟩ | ⟨hlong, hnames⟩
  · exact placeOf_of_comment hfirst hcomment
  · obtain ⟨first, hfirst⟩ := exists_textAt? (show 0 < row.length by omega)
    by_cases hcomment : BeginsComment first
    · exact placeOf_of_comment hfirst hcomment
    · obtain ⟨latitude, hlatitude⟩ := exists_textAt? (show 61 < row.length by omega)
      obtain ⟨longitude, hlongitude⟩ := exists_textAt? (show 62 < row.length by omega)
      have hone : latitude = "latitude" ∨ longitude = "longitude" := by
        rw [hlatitude, hlongitude] at hnames
        exact hnames.imp Option.some.inj Option.some.inj
      rw [placeOf_of_texts hfirst hcomment hlatitude hlongitude, if_pos hone]

theorem placeOf_of_locates {country : String} {p : Position} (h : Locates row country p) :
    placeOf row = .ok (some (country, p)) := by
  obtain ⟨latitude, hlatitude, hx⟩ := h.latitude
  obtain ⟨longitude, hlongitude, hy⟩ := h.longitude
  have hcountry : fieldText row nameField = .ok country := fieldText_eq_ok_iff.2 h.country
  rw [placeOf_of_counts h.counts hlatitude hlongitude, readCoordinate_eq, readCoordinate_eq, hx,
    hy, hcountry]
  rfl

theorem placeOf_of_fault (hrow : row ≠ []) {e : Failure} (h : LocationFault row e) :
    placeOf row = .error e := by
  cases h with
  | short hcounts hshort =>
      obtain ⟨first, hfirst⟩ := exists_textAt? (List.length_pos_iff.2 hrow)
      exact placeOf_of_short hfirst (not_beginsComment hcounts hfirst) hshort
  | latitude hcounts hlong hlatitude hread =>
      obtain ⟨longitude, hlongitude⟩ := exists_textAt? (show 62 < row.length by omega)
      rw [placeOf_of_counts hcounts hlatitude hlongitude, readCoordinate_eq, hread]
      rfl
  | longitude hcounts hfirst hx hlongitude hread =>
      rw [placeOf_of_counts hcounts hfirst hlongitude, readCoordinate_eq, readCoordinate_eq, hx,
        hread]
      rfl

/-- A row that counts has coordinates or a fault. -/
theorem locates_or_fault (hcounts : ¬ IsSkipped row) :
    (HasCoordinates row ∧ ∃ country p, Locates row country p) ∨ ∃ e, LocationFault row e := by
  by_cases hlong : 63 ≤ row.length
  · obtain ⟨country, hcountry⟩ := exists_textAt? (show 21 < row.length by omega)
    obtain ⟨latitude, hlatitude⟩ := exists_textAt? (show 61 < row.length by omega)
    obtain ⟨longitude, hlongitude⟩ := exists_textAt? (show 62 < row.length by omega)
    cases hx : Decimal.readFloat latitude with
    | error fault => exact .inr ⟨_, .latitude hcounts hlong hlatitude hx⟩
    | ok x =>
        cases hy : Decimal.readFloat longitude with
        | error fault => exact .inr ⟨_, .longitude hcounts hlatitude hx hlongitude hy⟩
        | ok y =>
            exact .inl ⟨⟨hlong, ⟨latitude, x, hlatitude, hx⟩, longitude, y, hlongitude, hy⟩,
              country, ⟨y, x⟩, hcounts, hcountry, ⟨latitude, hlatitude, hx⟩,
              longitude, hlongitude, hy⟩
  · exact .inr ⟨_, .short hcounts (by omega)⟩

/-- Numbers at both ends are no fault. -/
theorem not_fault_of_coordinates (h : HasCoordinates row) {e : Failure} :
    ¬ LocationFault row e := by
  obtain ⟨hlong, ⟨latitude, x, hlatitude, hx⟩, longitude, y, hlongitude, hy⟩ := h
  intro hfault
  cases hfault with
  | short _ hshort => omega
  | latitude _ _ htext hread =>
      rw [hlatitude] at htext
      cases htext
      rw [hx] at hread
      cases hread
  | longitude _ _ _ htext hread =>
      rw [hlongitude] at htext
      cases htext
      rw [hy] at hread
      cases hread

/-- A row is passed over, or locates a country, or has a fault. -/
theorem placeOf_cases (hrow : row ≠ []) :
    (IsSkipped row ∧ placeOf row = .ok none)
      ∨ (∃ country p, Locates row country p ∧ placeOf row = .ok (some (country, p)))
      ∨ ∃ e, LocationFault row e ∧ placeOf row = .error e := by
  by_cases hskip : IsSkipped row
  · exact .inl ⟨hskip, placeOf_of_skipped hskip⟩
  · rcases locates_or_fault hskip with ⟨-, country, p, h⟩ | ⟨e, h⟩
    · exact .inr (.inl ⟨country, p, h, placeOf_of_locates h⟩)
    · exact .inr (.inr ⟨e, h, placeOf_of_fault hrow h⟩)

theorem locates_iff (hrow : row ≠ []) {country : String} {p : Position} :
    placeOf row = .ok (some (country, p)) ↔ Locates row country p := by
  refine ⟨fun h => ?_, placeOf_of_locates⟩
  rcases placeOf_cases hrow with ⟨-, hplace⟩ | ⟨c, q, hlocates, hplace⟩ | ⟨e, -, hplace⟩ <;>
    rw [hplace] at h <;> cases h
  exact hlocates

theorem locationFault_iff (hrow : row ≠ []) {e : Failure} :
    placeOf row = .error e ↔ LocationFault row e := by
  refine ⟨fun h => ?_, placeOf_of_fault hrow⟩
  rcases placeOf_cases hrow with ⟨-, hplace⟩ | ⟨c, q, -, hplace⟩ | ⟨e', hfault, hplace⟩ <;>
    rw [hplace] at h <;> cases h
  exact hfault

theorem placeOf_ok_iff (hrow : row ≠ []) :
    (∃ said, placeOf row = .ok said) ↔ (¬ IsSkipped row → HasCoordinates row) := by
  constructor
  · rintro ⟨said, hsaid⟩ hcounts
    rcases locates_or_fault hcounts with ⟨h, -⟩ | ⟨e, h⟩
    · exact h
    · rw [placeOf_of_fault hrow h] at hsaid
      cases hsaid
  · intro h
    rcases placeOf_cases hrow with ⟨-, hplace⟩ | ⟨c, q, -, hplace⟩ | ⟨e, hfault, -⟩
    · exact ⟨_, hplace⟩
    · exact ⟨_, hplace⟩
    · by_cases hskip : IsSkipped row
      · exact ⟨none, placeOf_of_skipped hskip⟩
      · exact absurd hfault (not_fault_of_coordinates (h hskip))

/-! ## All rows -/

variable {s : Stream}

theorem readLocations_of_plain (hs : s.broken = none) (h : IsPlain s.bytes) :
    readLocations s
      = foldRows readLocation 1 Table.empty (plainRows semicolon s.bytes) :=
  foldRows_of_plain (by decide) hs h

/-- A country file of plain text is read if and only if each row that is not passed over
has 63 fields or more, of which the 62nd and the 63rd are numbers. It then has the countries
that such rows name, and each is where its last row locates it. Otherwise the failure is that of the first
row with a fault, and tells the number of this row, in which the rows that are passed over
count. -/
theorem country_file_read_by_line (hs : s.broken = none) (h : IsPlain s.bytes) :
    ((∃ locations, readLocations s = .ok locations)
        ↔ ∀ row ∈ plainRows semicolon s.bytes, ¬ IsSkipped row → HasCoordinates row)
      ∧ (∀ locations, readLocations s = .ok locations →
          (∀ country, country ∈ locations.names
            ↔ ∃ row ∈ plainRows semicolon s.bytes, ¬ IsSkipped row
              ∧ textAt? row 21 = some country)
          ∧ ∀ country p, locations.get? country = some p
            ↔ Latest (fun row q => Locates row country q) (plainRows semicolon s.bytes) p)
      ∧ ∀ e, readLocations s = .error e
          ↔ FirstFault LocationFault (plainRows semicolon s.bytes) e := by
  have hgood : (∃ locations, readLocations s = .ok locations)
      ↔ ∀ row ∈ plainRows semicolon s.bytes, ¬ IsSkipped row → HasCoordinates row := by
    rw [readLocations_of_plain hs h, readLocation_adds.foldRows_ok_iff]
    exact forall₂_congr fun row hrow => placeOf_ok_iff (Rows.ne_nil_of_plainRow hrow)
  refine ⟨hgood, ?_, fun e => ?_⟩
  · intro locations hlocations
    have hrows := hlocations
    rw [readLocations_of_plain hs h] at hrows
    obtain ⟨hnames, hlatest⟩ := readLocation_adds.table_of_foldRows
      (fun _ hrow _ _ => locates_iff (Rows.ne_nil_of_plainRow hrow)) hrows
    refine ⟨fun country => (hnames country).trans ?_, hlatest⟩
    -- every row that counts locates the country that it names
    refine exists_congr fun row => and_congr_right fun hrow => ?_
    constructor
    · rintro ⟨p, hlocates⟩
      exact ⟨hlocates.counts, hlocates.country⟩
    · rintro ⟨hcounts, hcountry⟩
      have hcoordinates := hgood.1 ⟨locations, hlocations⟩ row hrow hcounts
      rcases locates_or_fault hcounts with ⟨-, c, p, hlocates⟩ | ⟨e, hfault⟩
      · have heq : c = country := Option.some.inj (hlocates.country.symm.trans hcountry)
        exact ⟨p, heq ▸ hlocates⟩
      · exact absurd hfault (not_fault_of_coordinates hcoordinates)
  · rw [readLocations_of_plain hs h]
    exact readLocation_adds.firstFault_iff fun row hrow c =>
      locationFault_iff (Rows.ne_nil_of_plainRow hrow)

/-- A line of a country file in which only the name and the place are filled in. -/
def countryLine (country latitude longitude : String) : List UInt8 :=
  List.replicate 21 semicolon ++ Text.bytesOf country ++ List.replicate 40 semicolon
    ++ Text.bytesOf latitude ++ semicolon :: Text.bytesOf longitude ++ [Rows.lineFeed]

/-- The fields of such a line. -/
def countryRow (country latitude longitude : String) : Row :=
  List.replicate 21 [] ++ Text.bytesOf country :: List.replicate 39 []
    ++ [Text.bytesOf latitude, Text.bytesOf longitude]

theorem locates_countryRow {x y : Float} (hx : Decimal.readFloat "-3" = .ok x)
    (hy : Decimal.readFloat "4" = .ok y) : Locates (countryRow "A" "-3" "4") "A" ⟨y, x⟩ := by
  refine ⟨?_, by decide, ⟨"-3", by decide, hx⟩, "4", by decide, hy⟩
  rintro (⟨first, hfirst, hbegins⟩ | ⟨-, h | h⟩)
  · have hempty : first = "" := Option.some.inj (hfirst.symm.trans (by decide))
    rw [hempty, ← isComment_iff] at hbegins
    exact absurd hbegins (by decide)
  · exact absurd h (by decide)
  · exact absurd h (by decide)

/-- A comment, the names of the fields, and one country twice. -/
def movedCountry : List UInt8 :=
  Text.bytesOf "# by name; not by size\n" ++ countryLine "name" "latitude" "longitude"
    ++ countryLine "A" "1.5" "2" ++ countryLine " A " "-3" "4"

/-- A comment, and a row that is too short. -/
def shortCountry : List UInt8 :=
  Text.bytesOf "# by name\nA;B\n"

/-- The last row of a country counts; and the first row with a fault is told, by its number with
the comment counted and what is wrong. -/
theorem country_file_read_by_line_moved :
    (IsPlain movedCountry ∧ ∃ locations p, readLocations (.whole movedCountry) = .ok locations
        ∧ locations.get? "A" = some p ∧ Decimal.readFloat "-3" = .ok p.latitude
        ∧ Decimal.readFloat "4" = .ok p.longitude)
      ∧ IsPlain shortCountry ∧ ∃ e, readLocations (.whole shortCountry) = .error e
        ∧ e.chain = ["row 2: ByteRecord([\"A\", \"B\"])", "only 2 fields, need field 61"] := by
  refine ⟨?_, ?_⟩
  · have hplain : IsPlain (Stream.whole movedCountry).bytes := ⟨by decide, by decide⟩
    obtain ⟨hread, htable, -⟩ := country_file_read_by_line rfl hplain
    rw [Stream.bytes_whole] at hplain hread htable
    have hrows : plainRows semicolon movedCountry
        = [[Text.bytesOf "# by name", Text.bytesOf "not by size"],
          countryRow "name" "latitude" "longitude", countryRow "A" "1.5" "2",
          countryRow "A" "-3" "4"] := by decide
    obtain ⟨x, hx⟩ : ∃ x, Decimal.readFloat "-3" = .ok x := ⟨_, rfl⟩
    obtain ⟨y, hy⟩ : ∃ y, Decimal.readFloat "4" = .ok y := ⟨_, rfl⟩
    obtain ⟨x', hx'⟩ : ∃ x, Decimal.readFloat "1.5" = .ok x := ⟨_, rfl⟩
    obtain ⟨y', hy'⟩ : ∃ y, Decimal.readFloat "2" = .ok y := ⟨_, rfl⟩
    have hcomment : IsSkipped [Text.bytesOf "# by name", Text.bytesOf "not by size"] :=
      .inl ⟨"# by name", by decide, [], " by name".toList, by decide, by simp⟩
    have hnames : IsSkipped (countryRow "name" "latitude" "longitude") :=
      .inr ⟨by decide, .inl (by decide)⟩
    obtain ⟨locations, hlocations⟩ := hread.2 <| by
      rw [hrows]
      simp only [List.forall_mem_cons]
      exact ⟨absurd hcomment, absurd hnames,
        fun _ => ⟨by decide, ⟨"1.5", x', by decide, hx'⟩, "2", y', by decide, hy'⟩,
        fun _ => ⟨by decide, ⟨"-3", x, by decide, hx⟩, "4", y, by decide, hy⟩, by simp⟩
    refine ⟨hplain, locations, ⟨y, x⟩, hlocations, ?_, hx, hy⟩
    exact ((htable locations hlocations).2 "A" ⟨y, x⟩).2
      ⟨[_, _, _], _, [], hrows, locates_countryRow hx hy, by simp⟩
  · have hplain : IsPlain (Stream.whole shortCountry).bytes := ⟨by decide, by decide⟩
    obtain ⟨-, -, hfails⟩ := country_file_read_by_line rfl hplain
    have hrows : plainRows semicolon (Stream.whole shortCountry).bytes
        = [[Text.bytesOf "# by name"]] ++ [[0x41], [0x42]] :: [] := by decide
    have hcomment : IsSkipped [Text.bytesOf "# by name"] :=
      .inl ⟨"# by name", by decide, [], " by name".toList, by decide, by simp⟩
    have hgood : ∀ c, ¬ LocationFault [Text.bytesOf "# by name"] c := by
      intro c hfault
      cases hfault with
      | short hcounts _ => exact hcounts hcomment
      | latitude hcounts _ _ _ => exact hcounts hcomment
      | longitude hcounts _ _ _ _ => exact hcounts hcomment
    have hcounts : ¬ IsSkipped [[0x41], [0x42]] := by
      rintro (⟨first, hfirst, hbegins⟩ | ⟨hlong, -⟩)
      · have hname : first = "A" := Option.some.inj (hfirst.symm.trans (by decide))
        rw [hname, ← isComment_iff] at hbegins
        exact absurd hbegins (by decide)
      · exact absurd hlong (by decide)
    have hbad : LocationFault [[0x41], [0x42]] _ := .short hcounts (by decide)
    exact ⟨hplain, _, (hfails _).2 ⟨_, _, _, _, hrows, by simpa using hgood, hbad, rfl⟩, rfl⟩

end Populace.Sources
