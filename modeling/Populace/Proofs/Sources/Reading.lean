import Populace.Proofs.Sources.Pieces
import Populace.Proofs.Table

/-!
# What is read from rows

A reader takes each row for what it says, whatever has been read before, and adds that to
what it has (`Adds`). So reading succeeds if every row makes sense, and otherwise fails for
the first one that does not, whose number it tells (`FirstFault`). If rows say something
about names, then the table that is read holds for each name what the last row about it
says (`Latest`).
-/

namespace Populace.Sources

open Populace.Rows (Row)

variable {α β : Type}

/-- The text of a field, if the row has it. -/
def textAt? (row : Row) (index : Nat) : Option String :=
  row[index]?.map Text.lossy

theorem exists_textAt? {row : Row} {index : Nat} (h : index < row.length) :
    ∃ text, textAt? row index = some text := by
  rw [textAt?, List.getElem?_eq_getElem h]
  exact ⟨_, rfl⟩

theorem lt_of_textAt? {row : Row} {index : Nat} {text : String}
    (h : textAt? row index = some text) : index < row.length := by
  refine Nat.lt_of_not_le fun hle => ?_
  rw [textAt?, List.getElem?_eq_none hle] at h
  cases h

theorem fieldText_eq_ok_iff {row : Row} {index : Nat} {text : String} :
    fieldText row index = .ok text ↔ textAt? row index = some text := by
  rw [fieldText, textAt?]
  cases row[index]? <;> simp

theorem fieldText_of_le {row : Row} {index : Nat} (h : row.length ≤ index) :
    fieldText row index = .error (.of (.tooFewFields row.length index)) := by
  rw [fieldText, List.getElem?_eq_none h]

/-- Reading a row adds what it says to what has been read. -/
def Adds (read : α → Row → Except Failure α) (say : Row → Except Failure β)
    (add : α → β → α) : Prop :=
  ∀ acc row, read acc row = (say row).map (add acc)

/-- Changing a result may wait until the last step. -/
theorem map_bind {γ : Type} (x : Except Failure α) (f : α → Except Failure β) (g : β → γ) :
    (x >>= f).map g = x >>= fun a => (f a).map g := by
  cases x <;> rfl

/-- The failure is that of the first row with a fault, and tells this row and its number,
counted from one. -/
def FirstFault (fault : Row → Failure → Prop) (rows : List Row) (e : Failure) : Prop :=
  ∃ before row after cause, rows = before ++ row :: after
    ∧ (∀ r ∈ before, ∀ c, ¬ fault r c)
    ∧ fault row cause
    ∧ e = cause.within (.row (before.length + 1) row)

/-- Of all in the list that give something, the last one gives this. -/
def Latest (gives : β → α → Prop) (xs : List β) (a : α) : Prop :=
  ∃ before x after, xs = before ++ x :: after ∧ gives x a ∧ ∀ y ∈ after, ∀ b, ¬ gives y b

theorem latest_cons {gives : β → α → Prop} {x : β} {xs : List β} {a : α} :
    Latest gives (x :: xs) a
      ↔ Latest gives xs a ∨ gives x a ∧ ∀ y ∈ xs, ∀ b, ¬ gives y b := by
  constructor
  · rintro ⟨before, y, after, heq, hgives, hafter⟩
    cases before with
    | nil =>
        cases heq
        exact .inr ⟨hgives, hafter⟩
    | cons z before =>
        cases heq
        exact .inl ⟨before, y, after, rfl, hgives, hafter⟩
  · rintro (⟨before, y, after, rfl, hgives, hafter⟩ | ⟨hgives, hafter⟩)
    · exact ⟨x :: before, y, after, rfl, hgives, hafter⟩
    · exact ⟨[], x, xs, rfl, hgives, hafter⟩

/-- Something is given in the end if anything is given at all. -/
theorem exists_latest_iff {gives : β → α → Prop} {xs : List β} :
    (∃ a, Latest gives xs a) ↔ ∃ x ∈ xs, ∃ a, gives x a := by
  induction xs with
  | nil => simp [Latest]
  | cons x xs ih =>
      simp only [latest_cons, List.mem_cons, exists_eq_or_imp, ← ih]
      constructor
      · rintro ⟨a, hlater | ⟨hgives, -⟩⟩
        · exact .inr ⟨a, hlater⟩
        · exact .inl ⟨a, hgives⟩
      · rintro (⟨a, hgives⟩ | ⟨a, hlater⟩)
        · by_cases hmore : ∃ y ∈ xs, ∃ b, gives y b
          · obtain ⟨b, hlater⟩ := ih.2 hmore
            exact ⟨b, .inl hlater⟩
          · exact ⟨a, .inr ⟨hgives, fun y hy b hb => hmore ⟨y, hy, b, hb⟩⟩⟩
        · exact ⟨a, .inl hlater⟩

theorem Latest.congr {gives gives' : β → α → Prop} {xs : List β} {a : α}
    (h : ∀ x ∈ xs, ∀ b, gives x b ↔ gives' x b) : Latest gives xs a ↔ Latest gives' xs a := by
  induction xs with
  | nil => simp [Latest]
  | cons x xs ih =>
      have htail : ∀ y ∈ xs, ∀ b, gives y b ↔ gives' y b := fun y hy => h y (by simp [hy])
      have hnone : (∀ y ∈ xs, ∀ b, ¬ gives y b) ↔ ∀ y ∈ xs, ∀ b, ¬ gives' y b :=
        forall₂_congr fun y hy => forall_congr' fun b => not_congr (htail y hy b)
      rw [latest_cons, latest_cons, ih htail, h x (by simp), hnone]

/-! ## Reading one row after the other -/

variable {read : α → Row → Except Failure α} {say : Row → Except Failure β}
  {add : α → β → α} {row : Row} {rows : List Row} {number : Nat} {acc : α}

theorem Adds.foldRows_of_ok (h : Adds read say add) {b : β} (hrow : say row = .ok b) :
    foldRows read number acc (row :: rows) = foldRows read (number + 1) (add acc b) rows := by
  rw [foldRows, h acc row, hrow]
  rfl

theorem Adds.foldRows_of_error (h : Adds read say add) {cause : Failure}
    (hrow : say row = .error cause) :
    foldRows read number acc (row :: rows) = .error (cause.within (.row number row)) := by
  rw [foldRows, h acc row, hrow]
  rfl

/-- Reading succeeds if every row makes sense. -/
theorem Adds.foldRows_ok_iff (h : Adds read say add) :
    (∃ result, foldRows read number acc rows = .ok result)
      ↔ ∀ row ∈ rows, ∃ b, say row = .ok b := by
  induction rows generalizing number acc with
  | nil => simp [foldRows]
  | cons row rows ih =>
      cases hrow : say row with
      | ok b =>
          rw [h.foldRows_of_ok hrow, ih]
          simp [hrow]
      | error cause =>
          rw [h.foldRows_of_error hrow]
          simp [hrow]

/-- Reading fails at the first row that makes no sense. -/
theorem Adds.foldRows_eq_error_iff (h : Adds read say add) {e : Failure} :
    foldRows read number acc rows = .error e
      ↔ ∃ before row after cause, rows = before ++ row :: after
        ∧ (∀ r ∈ before, ∃ b, say r = .ok b)
        ∧ say row = .error cause
        ∧ e = cause.within (.row (number + before.length) row) := by
  induction rows generalizing number acc with
  | nil => simp [foldRows]
  | cons row rows ih =>
      cases hrow : say row with
      | ok b =>
          rw [h.foldRows_of_ok hrow, ih]
          constructor
          · rintro ⟨before, r, after, cause, rfl, hbefore, hr, rfl⟩
            refine ⟨row :: before, r, after, cause, rfl, ?_, hr, ?_⟩
            · simpa [hrow] using hbefore
            · rw [List.length_cons, Nat.add_assoc, Nat.add_comm 1]
          · rintro ⟨before, r, after, cause, heq, hbefore, hr, rfl⟩
            cases before with
            | nil =>
                cases heq
                rw [hrow] at hr
                cases hr
            | cons r' before =>
                cases heq
                refine ⟨before, r, after, cause, rfl, fun x hx => hbefore x (by simp [hx]), hr, ?_⟩
                rw [List.length_cons, Nat.add_assoc, Nat.add_comm 1]
      | error cause =>
          rw [h.foldRows_of_error hrow]
          constructor
          · intro heq
            cases heq
            exact ⟨[], row, rows, cause, rfl, by simp, hrow, rfl⟩
          · rintro ⟨before, r, after, cause', heq, hbefore, hr, rfl⟩
            cases before with
            | nil =>
                cases heq
                rw [hrow] at hr
                cases hr
                rfl
            | cons r' before =>
                cases heq
                obtain ⟨b, hb⟩ := hbefore row (by simp)
                rw [hrow] at hb
                cases hb

theorem Adds.firstFault_iff (h : Adds read say add) {fault : Row → Failure → Prop}
    (hfault : ∀ row ∈ rows, ∀ c, say row = .error c ↔ fault row c) {e : Failure} :
    foldRows read 1 acc rows = .error e ↔ FirstFault fault rows e := by
  have hgood : ∀ row ∈ rows, (∃ b, say row = .ok b) ↔ ∀ c, ¬ fault row c := by
    intro row hrow
    simp only [← hfault row hrow]
    cases say row <;> simp
  rw [h.foldRows_eq_error_iff]
  constructor
  · rintro ⟨before, row, after, cause, rfl, hbefore, hrow, rfl⟩
    refine ⟨before, row, after, cause, rfl, fun r hr => (hgood r (by simp [hr])).1 (hbefore r hr),
      (hfault row (by simp) cause).1 hrow, by rw [Nat.add_comm]⟩
  · rintro ⟨before, row, after, cause, rfl, hbefore, hrow, rfl⟩
    refine ⟨before, row, after, cause, rfl, fun r hr => (hgood r (by simp [hr])).2 (hbefore r hr),
      (hfault row (by simp) cause).2 hrow, by rw [Nat.add_comm]⟩

/-- Rows one behind the other are read one behind the other. -/
theorem foldRows_append (front back : List Row) :
    foldRows read number acc (front ++ back)
      = foldRows read number acc front >>= fun acc =>
        foldRows read (number + front.length) acc back := by
  induction front generalizing number acc with
  | nil => rfl
  | cons row front ih =>
      rw [List.cons_append, foldRows, foldRows]
      cases read acc row with
      | error e => rfl
      | ok acc =>
          dsimp only
          rw [ih, List.length_cons, Nat.add_assoc, Nat.add_comm 1]

/-- What is read does not depend on where the rows are counted from. -/
theorem foldRows_eq_ok_of_number {other : Nat} {result : α} :
    foldRows read number acc rows = .ok result ↔ foldRows read other acc rows = .ok result := by
  induction rows generalizing number other acc with
  | nil => rfl
  | cons row rows ih =>
      rw [foldRows, foldRows]
      cases read acc row with
      | error e => simp
      | ok acc => exact ih

/-- A row may be replaced by one that says the same. -/
theorem Adds.foldRows_replace (h : Adds read say add) {row' : Row} {b : β}
    (hrow : say row = .ok b) (hrow' : say row' = .ok b) (front back : List Row) :
    foldRows read number acc (front ++ row :: back)
      = foldRows read number acc (front ++ row' :: back) := by
  rw [foldRows_append, foldRows_append]
  refine bind_congr fun acc => ?_
  rw [h.foldRows_of_ok hrow, h.foldRows_of_ok hrow']

/-! ## Tables -/

/-- The table with what a row says, if it says anything. -/
def noted (t : Table α) : Option (String × α) → Table α
  | none => t
  | some (name, value) => t.insert name value

/-- What a name has in the end is what the last row about it says, or else what it had. -/
theorem Adds.get?_of_foldRows {read : Table α → Row → Except Failure (Table α)}
    {say : Row → Except Failure (Option (String × α))} (h : Adds read say noted)
    {t u : Table α} (hu : foldRows read number t rows = .ok u) (name : String) (value : α) :
    u.get? name = some value
      ↔ Latest (fun row v => say row = .ok (some (name, v))) rows value
        ∨ t.get? name = some value ∧ ∀ row ∈ rows, ∀ v, say row ≠ .ok (some (name, v)) := by
  induction rows generalizing number t with
  | nil =>
      cases hu
      simp [Latest]
  | cons row rows ih =>
      cases hrow : say row with
      | error cause =>
          rw [h.foldRows_of_error hrow] at hu
          cases hu
      | ok said =>
          rw [h.foldRows_of_ok hrow] at hu
          rw [ih hu, latest_cons]
          cases said with
          | none => simp [noted, hrow]
          | some entry =>
              obtain ⟨m, v⟩ := entry
              rw [noted, Table.get?_insert]
              by_cases hm : name = m
              · subst hm
                simp [hrow]
              · have hm' : m ≠ name := fun heq => hm heq.symm
                simp [hm, hm', hrow]

/-- A table read from nothing has the names that rows tell something about, and holds what
the last of these rows tells. -/
theorem Adds.table_of_foldRows {read : Table α → Row → Except Failure (Table α)}
    {say : Row → Except Failure (Option (String × α))} (h : Adds read say noted)
    {tells : String → Row → α → Prop}
    (htells : ∀ row ∈ rows, ∀ name v, say row = .ok (some (name, v)) ↔ tells name row v)
    {t : Table α} (ht : foldRows read number Table.empty rows = .ok t) :
    (∀ name, name ∈ t.names ↔ ∃ row ∈ rows, ∃ v, tells name row v)
      ∧ ∀ name v, t.get? name = some v ↔ Latest (tells name) rows v := by
  have hlatest : ∀ name v, t.get? name = some v ↔ Latest (tells name) rows v := by
    intro name v
    rw [h.get?_of_foldRows ht, Table.get?_empty,
      Latest.congr fun row hrow v => htells row hrow name v]
    simp
  refine ⟨fun name => ?_, hlatest⟩
  simp only [Table.mem_names_iff, hlatest, exists_latest_iff]

/-- A row that says nothing may be left out, if all are read. -/
theorem Adds.foldRows_insert {read : Table α → Row → Except Failure (Table α)}
    {say : Row → Except Failure (Option (String × α))} (h : Adds read say noted)
    (hrow : say row = .ok none) {t u : Table α} (front back : List Row) :
    foldRows read number t (front ++ row :: back) = .ok u
      ↔ foldRows read number t (front ++ back) = .ok u := by
  rw [foldRows_append, foldRows_append]
  cases foldRows read number t front with
  | error e => rfl
  | ok t =>
      show foldRows read _ t (row :: back) = .ok u ↔ foldRows read _ t back = .ok u
      rw [h.foldRows_of_ok hrow, noted]
      exact foldRows_eq_ok_of_number

/-! ## Streams of plain text -/

/-- Plain text is read line by line, in whatever pieces it comes. -/
theorem foldRows_of_plain {s : Stream} {delimiter : UInt8} (hd : Rows.endsRow delimiter = false)
    (hs : s.broken = none) (h : Rows.IsPlain s.bytes) :
    s.foldRows delimiter read acc
      = foldRows read 1 acc (Rows.plainRows delimiter s.bytes) := by
  rw [foldRows_of_unmarked acc hs h.unmarked, foldRows_whole, Rows.finished_of_plain hd h]

end Populace.Sources
