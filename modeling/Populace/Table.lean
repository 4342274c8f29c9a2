/-!
Tables from names to values, kept in the order of the names.
-/

namespace Populace

/-- The names of the entries rise strictly. -/
def Ascending (entries : List (String × α)) : Prop :=
  entries.Pairwise fun a b => a.1 < b.1

/-- Values by name; the entries are in the order of their names. -/
structure Table (α : Type) where
  entries : List (String × α)
  ascending : Ascending entries

namespace Table

/-- The entries with `name` given a value: at its place, or instead of the one it had. -/
def insertEntry (name : String) (value : α) : List (String × α) → List (String × α)
  | [] => [(name, value)]
  | entry :: rest =>
    if name < entry.1 then (name, value) :: entry :: rest
    else if name = entry.1 then (name, value) :: rest
    else entry :: insertEntry name value rest

/-- Every name after inserting is the one inserted or was there before. -/
theorem mem_insertEntry {name : String} {value : α} {entries : List (String × α)}
    {e : String × α} (h : e ∈ insertEntry name value entries) :
    e = (name, value) ∨ e ∈ entries := by
  induction entries with
  | nil => simpa [insertEntry] using h
  | cons entry rest ih =>
    rw [insertEntry] at h
    split at h
    · simpa using h
    · split at h
      · rcases List.mem_cons.1 h with rfl | h
        · exact .inl rfl
        · exact .inr (List.mem_cons_of_mem _ h)
      · rcases List.mem_cons.1 h with rfl | h
        · exact .inr List.mem_cons_self
        · exact (ih h).imp_right (List.mem_cons_of_mem _)

theorem ascending_insertEntry (name : String) (value : α) {entries : List (String × α)}
    (h : Ascending entries) : Ascending (insertEntry name value entries) := by
  induction entries with
  | nil => simp [insertEntry, Ascending]
  | cons entry rest ih =>
    have ⟨hhead, htail⟩ := List.pairwise_cons.1 h
    rw [insertEntry]
    split
    · rename_i hlt
      refine List.pairwise_cons.2 ⟨fun e he => ?_, h⟩
      rcases List.mem_cons.1 he with rfl | he
      · exact hlt
      · exact String.lt_trans hlt (hhead e he)
    · split
      · rename_i heq
        exact List.pairwise_cons.2 ⟨fun e he => heq ▸ hhead e he, htail⟩
      · rename_i hlt hne
        refine List.pairwise_cons.2 ⟨fun e he => ?_, ih htail⟩
        rcases mem_insertEntry he with rfl | he
        · exact String.not_le.1 fun hle => hne (String.le_antisymm hle (String.not_lt.1 hlt))
        · exact hhead e he

/-- No entries. -/
def empty : Table α := ⟨[], List.Pairwise.nil⟩

/-- Gives `name` a value, which takes the place of the one it had. -/
def insert (t : Table α) (name : String) (value : α) : Table α :=
  ⟨insertEntry name value t.entries, ascending_insertEntry name value t.ascending⟩

/-- Leaves `name` without a value. -/
def erase (t : Table α) (name : String) : Table α :=
  ⟨t.entries.filter (·.1 ≠ name), t.ascending.filter _⟩

/-- The value of a name. -/
def get? (t : Table α) (name : String) : Option α :=
  t.entries.lookup name

/-- Does the name have a value? -/
def contains (t : Table α) (name : String) : Bool :=
  (t.get? name).isSome

/-- The number of entries. -/
def size (t : Table α) : Nat :=
  t.entries.length

/-- The names, in order. -/
def names (t : Table α) : List String :=
  t.entries.map Prod.fst

/-- The values, in the order of their names. -/
def values (t : Table α) : List α :=
  t.entries.map Prod.snd

/-- A table of the entries listed; of two with one name, the later one counts. -/
def ofList (entries : List (String × α)) : Table α :=
  entries.foldl (fun t e => t.insert e.1 e.2) empty

/-- The same names with other values. -/
def map (f : α → β) (t : Table α) : Table β :=
  ⟨t.entries.map fun e => (e.1, f e.2),
    List.pairwise_map.2 <| t.ascending.imp fun hab => hab⟩

/-- The entries whose names and values pass a test, with other values. -/
def filterMap (f : String → α → Option β) (t : Table α) : Table β :=
  ⟨t.entries.filterMap fun e => (f e.1 e.2).map fun b => (e.1, b),
    List.pairwise_filterMap.2 <| t.ascending.imp fun {a b} hab x hx y hy => by
      simp only [Option.map_eq_some_iff] at hx hy
      obtain ⟨_, _, rfl⟩ := hx
      obtain ⟨_, _, rfl⟩ := hy
      exact hab⟩

end Table

end Populace
