import Populace.Proofs.People.Mishaps
import Populace.Proofs.Sources.Pieces
import Populace.Sources.Load

/-!
# Who is to blame for a misuse

Part of what a run does comes from outside, and may fail with anything: fetchers, and what
breaks a stream off. What reads rows and what makes people has no journal to misuse, so it
is never to blame (`Harmless`); where it passes a failure on, the misuse is the one that
it was told of.
-/

namespace Populace

variable {σ α β : Type}

namespace Failure

/-- The misuse that a failure tells of. -/
def misuse? : Failure → Option Misuse
  | crashed (.misuse m) => some m
  | _ => none

@[simp] theorem misuse?_of (c : Cause) : (Failure.of c).misuse? = none := rfl

@[simp] theorem misuse?_within (c : Context) (e : Failure) :
    (e.within c).misuse? = e.misuse? := by
  cases e <;> rfl

@[simp] theorem misuse?_brief (e : Failure) : e.brief.misuse? = e.misuse? := by
  cases e <;> rfl

end Failure

/-- Whatever misuse the failure tells of, `raised` accounts for it. -/
def Blames (raised : Misuse → σ → Prop) (e : Failure) (s : σ) : Prop :=
  ∀ m, e.misuse? = some m → raised m s

theorem Blames.within {raised : Misuse → σ → Prop} {e : Failure} {s : σ}
    (h : Blames raised e s) (c : Context) : Blames raised (e.within c) s := by
  intro m hm
  rw [Failure.misuse?_within] at hm
  exact h m hm

theorem blames_of_none {raised : Misuse → σ → Prop} {e : Failure} {s : σ}
    (h : e.misuse? = none) : Blames raised e s := by
  intro m hm
  rw [h] at hm
  cases hm

/-! ## Reading rows -/

/-- No failure tells of a misuse. -/
def Harmless (result : Except Failure α) : Prop :=
  ∀ e, result = .error e → e.misuse? = none

namespace Harmless

theorem ok (a : α) : Harmless (.ok a) := by
  intro e h
  cases h

theorem error {e : Failure} (h : e.misuse? = none) : Harmless (.error e : Except Failure α) := by
  intro e' he
  cases he
  exact h

theorem bind {x : Except Failure α} {f : α → Except Failure β} (hx : Harmless x)
    (hf : ∀ a, Harmless (f a)) : Harmless (x >>= f) := by
  cases x with
  | ok a => exact hf a
  | error e => exact .error (hx e rfl)

end Harmless

namespace Sources

theorem fieldText_harmless (row : Rows.Row) (index : Nat) : Harmless (fieldText row index) := by
  rw [fieldText]
  split
  · exact .ok _
  · exact .error rfl

theorem readNumber_harmless (text : String) : Harmless (readNumber text) := by
  rw [readNumber]
  split
  · exact .ok _
  · exact .error rfl

theorem readCoordinate_harmless (context : String → Context) (text : String) :
    Harmless (readCoordinate context text) := by
  rw [readCoordinate]
  split
  · exact .ok _
  · exact .error rfl

theorem readName_harmless (header : String) (names : List String) (row : Rows.Row) :
    Harmless (readName header names row) :=
  (fieldText_harmless row 0).bind fun _ => .ok _

theorem readRank_harmless (t : Table UInt64) (row : Rows.Row) : Harmless (readRank t row) :=
  (fieldText_harmless row 1).bind fun _ => (fieldText_harmless row 2).bind fun text =>
    (readNumber_harmless text).bind fun _ => .ok _

theorem readLocation_harmless (t : Table Geo.Position) (row : Rows.Row) :
    Harmless (readLocation t row) := by
  refine (fieldText_harmless row 0).bind fun first => ?_
  split
  · exact .ok t
  · refine (fieldText_harmless row latitudeField).bind fun latitude =>
      (fieldText_harmless row longitudeField).bind fun longitude => ?_
    split
    · exact .ok t
    · exact (readCoordinate_harmless _ latitude).bind fun _ =>
        (readCoordinate_harmless _ longitude).bind fun _ =>
        (fieldText_harmless row nameField).bind fun _ => .ok _

theorem foldRows_harmless {read : α → Rows.Row → Except Failure α}
    (hread : ∀ acc row, Harmless (read acc row)) (number : Nat) (acc : α)
    (rows : List Rows.Row) : Harmless (foldRows read number acc rows) := by
  induction rows generalizing number acc with
  | nil => exact .ok acc
  | cons row rows ih =>
      have hrow := hread acc row
      rw [foldRows]
      cases h : read acc row with
      | ok acc => exact ih (number + 1) acc
      | error e =>
          rw [h] at hrow
          exact .error ((Failure.misuse?_within _ e).trans (hrow e rfl))

/-- A misuse that comes up while a stream is read is what broke the stream off. -/
def FromStream (s : Stream) (result : Except Failure α) : Prop :=
  ∀ e m, result = .error e → e.misuse? = some m →
    ∃ cause, s.broken = some cause ∧ cause.misuse? = some m

theorem FromStream.map {s : Stream} {result : Except Failure α} (h : FromStream s result)
    (f : α → β) : FromStream s (result.map f) := by
  intro e m he hm
  cases result with
  | ok a => cases he
  | error e' =>
      cases he
      exact h e m rfl hm

theorem fromStream_foldRows (s : Stream) (delimiter : UInt8)
    {read : α → Rows.Row → Except Failure α} (hread : ∀ acc row, Harmless (read acc row))
    (acc : α) : FromStream s (s.foldRows delimiter read acc) := by
  intro e m he hm
  have hrows := foldRows_harmless hread 1 acc
  cases hbreak : s.break? with
  | none =>
      rw [foldRows_of_unnoticed acc hbreak] at he
      rw [hrows _ e he] at hm
      cases hm
  | some cause =>
      rw [foldRows_of_noticed acc hbreak] at he
      cases hresult : foldRows read 1 acc
          ((Rows.scan delimiter s.readAs).complete.map Rows.Row.trimmed) with
      | error e' =>
          rw [hresult] at he
          cases he
          rw [hrows _ e hresult] at hm
          cases hm
      | ok table =>
          -- all complete rows are good
          rw [hresult] at he
          cases he
          rw [Failure.misuse?_brief] at hm
          exact ⟨cause, Stream.broken_of_break? hbreak, hm⟩

theorem fromStream_readUsers (s : Stream) : FromStream s (readUsers s) :=
  fromStream_foldRows s tab readRank_harmless _

theorem fromStream_readAreas (s : Stream) : FromStream s (readAreas s) :=
  (fromStream_foldRows s tab readRank_harmless _).map _

theorem fromStream_readLocations (s : Stream) : FromStream s (readLocations s) :=
  fromStream_foldRows s semicolon readLocation_harmless _

theorem fromStream_readNames (header : String) (s : Stream) :
    FromStream s (readNames header s) :=
  (fromStream_foldRows s Rows.comma (readName_harmless header) _).map _

end Sources

/-! ## Making people -/

namespace People

theorem misuse?_of_draw {shape : Shape} {names : NamePool} {options : Options}
    {today : Calendar.Date} (hsound : shape.Sound options.model) {g k : Random.Xorshift}
    {e : Failure} (h : Person.draw shape names options today g = .error e k) :
    e.misuse? = none := by
  by_cases hages : options.HasAges
  · cases mishap_of_draw hages hsound h with
    | unborn _ _ _ => rfl
    | unplaced _ => rfl
  · rw [draw_of_bad_ages hages] at h
    cases h
    rfl

end People

end Populace
