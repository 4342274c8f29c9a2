import Populace.Table

/-!
# What tables hold

A table has a value for a name if and only if there is an entry of both, and each
operation is known by what it does to the values of all names.
-/

namespace Populace.Table

variable {α : Type}

private theorem lookup_cons (name key : String) (value : α) (rest : List (String × α)) :
    List.lookup name ((key, value) :: rest)
      = if name = key then some value else rest.lookup name := by
  rw [List.lookup_cons]
  by_cases h : name = key
  · simp [h]
  · have hbeq : (name == key) = false := by simpa using h
    simp [h, hbeq]

theorem get?_eq_some_iff {t : Table α} {name : String} {value : α} :
    t.get? name = some value ↔ (name, value) ∈ t.entries := by
  obtain ⟨entries, hasc⟩ := t
  change entries.lookup name = some value ↔ (name, value) ∈ entries
  induction entries with
  | nil => simp
  | cons entry rest ih =>
      obtain ⟨key, v⟩ := entry
      have ⟨hhead, htail⟩ := List.pairwise_cons.1 hasc
      rw [lookup_cons]
      by_cases hkey : name = key
      · subst hkey
        -- the entries behind have greater names
        have hnot : (name, value) ∉ rest :=
          fun hmem => String.lt_irrefl _ (hhead (name, value) hmem)
        simp [hnot, eq_comm]
      · simp [hkey, ih htail]

theorem contains_iff {t : Table α} {name : String} :
    t.contains name ↔ name ∈ t.names := by
  rw [contains, Option.isSome_iff_exists]
  simp only [get?_eq_some_iff, names, List.mem_map, Prod.exists, exists_and_right,
    exists_eq_right]

theorem mem_names_iff {t : Table α} {name : String} :
    name ∈ t.names ↔ ∃ value, t.get? name = some value := by
  rw [← contains_iff, contains, Option.isSome_iff_exists]

theorem get?_empty (name : String) : (empty : Table α).get? name = none := rfl

theorem names_map {β : Type} (f : α → β) (t : Table α) : (t.map f).names = t.names := by
  simp [names, map]

theorem get?_map {β : Type} (f : α → β) (t : Table α) (name : String) :
    (t.map f).get? name = (t.get? name).map f := by
  obtain ⟨entries, hasc⟩ := t
  change (entries.map fun e => (e.1, f e.2)).lookup name = (entries.lookup name).map f
  clear hasc
  induction entries with
  | nil => rfl
  | cons entry rest ih =>
      obtain ⟨key, v⟩ := entry
      rw [List.map_cons, lookup_cons, lookup_cons, ih]
      by_cases hkey : name = key <;> simp [hkey]

theorem get?_insert (t : Table α) (name : String) (value : α) (m : String) :
    (t.insert name value).get? m = if m = name then some value else t.get? m := by
  obtain ⟨entries, hasc⟩ := t
  change (insertEntry name value entries).lookup m
    = if m = name then some value else entries.lookup m
  clear hasc
  induction entries with
  | nil => rw [insertEntry, lookup_cons]
  | cons entry rest ih =>
      obtain ⟨key, v⟩ := entry
      -- the entry goes in front, in place of the first one, or further behind
      rw [insertEntry]
      split
      · rw [lookup_cons]
      · split
        · rename_i hkey
          rw [lookup_cons, lookup_cons]
          by_cases hm : m = name
          · simp [hm]
          · have hm' : m ≠ key := fun h => hm (h.trans hkey.symm)
            simp [hm, hm']
        · rename_i hkey
          rw [lookup_cons, lookup_cons, ih]
          by_cases hm : m = key
          · have hm' : key ≠ name := fun h => hkey h.symm
            simp [hm, hm']
          · simp [hm]

theorem get?_erase (t : Table α) (name m : String) :
    (t.erase name).get? m = if m = name then none else t.get? m := by
  obtain ⟨entries, hasc⟩ := t
  change (entries.filter (·.1 ≠ name)).lookup m = if m = name then none else entries.lookup m
  clear hasc
  induction entries with
  | nil => simp
  | cons entry rest ih =>
      obtain ⟨key, v⟩ := entry
      by_cases hkey : key = name
      · rw [List.filter_cons_of_neg (by simpa using hkey), ih, lookup_cons]
        by_cases hm : m = name
        · simp [hm]
        · have hm' : m ≠ key := fun h => hm (h.trans hkey)
          simp [hm, hm']
      · rw [List.filter_cons_of_pos (by simpa using hkey), lookup_cons, lookup_cons, ih]
        by_cases hm : m = key
        · simp [hm, hkey]
        · simp [hm]

/-- Only the last of two values for a name counts. -/
theorem insert_insert (t : Table α) (name : String) (v v' : α) :
    (t.insert name v).insert name v' = t.insert name v' := by
  obtain ⟨entries, hasc⟩ := t
  have h : insertEntry name v' (insertEntry name v entries) = insertEntry name v' entries := by
    clear hasc
    induction entries with
    | nil => simp [insertEntry]
    | cons entry rest ih =>
        obtain ⟨key, w⟩ := entry
        by_cases hlt : name < key
        · simp [insertEntry, hlt]
        · by_cases heq : name = key
          · simp [insertEntry, heq]
          · simp [insertEntry, hlt, heq, ih]
  simp only [insert, h]

/-- A name that has a value gets another one at its place. -/
theorem insert_at_place {t : Table α} {name : String} {v : α} (h : t.get? name = some v) (w : α) :
    ∃ front back, t.entries = front ++ (name, v) :: back
      ∧ (t.insert name w).entries = front ++ (name, w) :: back := by
  have hmem : (name, v) ∈ t.entries := get?_eq_some_iff.1 h
  obtain ⟨entries, hasc⟩ := t
  change (name, v) ∈ entries at hmem
  change ∃ front back, entries = front ++ (name, v) :: back
    ∧ insertEntry name w entries = front ++ (name, w) :: back
  clear h
  induction entries with
  | nil => cases hmem
  | cons entry rest ih =>
      have ⟨hhead, htail⟩ := List.pairwise_cons.1 hasc
      rcases List.mem_cons.1 hmem with rfl | hmem
      · exact ⟨[], rest, rfl, by simp [insertEntry]⟩
      · -- the names in front of it are smaller
        have hless : entry.1 < name := hhead (name, v) hmem
        have hnot : ¬ name < entry.1 := String.lt_asymm hless
        have hne : name ≠ entry.1 := fun heq => String.lt_irrefl _ (heq ▸ hless)
        obtain ⟨front, back, hentries, hinsert⟩ := ih htail hmem
        refine ⟨entry :: front, back, by rw [hentries]; rfl, ?_⟩
        rw [insertEntry, if_neg hnot, if_neg hne, hinsert]
        rfl

/-- Entries in order are known by what they are. -/
theorem entries_eq_of_mem {entries entries' : List (String × α)} (hasc : Ascending entries)
    (hasc' : Ascending entries') (h : ∀ e, e ∈ entries ↔ e ∈ entries') : entries = entries' := by
  induction entries generalizing entries' with
  | nil =>
      cases entries' with
      | nil => rfl
      | cons e' rest' => exact absurd ((h e').2 List.mem_cons_self) List.not_mem_nil
  | cons e rest ih =>
      cases entries' with
      | nil => exact absurd ((h e).1 List.mem_cons_self) List.not_mem_nil
      | cons e' rest' =>
          have ⟨hhead, htail⟩ := List.pairwise_cons.1 hasc
          have ⟨hhead', htail'⟩ := List.pairwise_cons.1 hasc'
          -- of two different first entries each would be behind the other
          have hfirst : e = e' := by
            rcases List.mem_cons.1 ((h e).1 List.mem_cons_self) with heq | hmem
            · exact heq
            · rcases List.mem_cons.1 ((h e').2 List.mem_cons_self) with heq | hmem'
              · exact heq.symm
              · exact absurd (String.lt_trans (hhead e' hmem') (hhead' e hmem))
                  (String.lt_irrefl _)
          subst hfirst
          refine congrArg (e :: ·) (ih htail htail' fun x => ?_)
          have hx := h x
          rw [List.mem_cons, List.mem_cons] at hx
          constructor
          · intro hmem
            refine (hx.1 (.inr hmem)).resolve_left ?_
            rintro rfl
            exact String.lt_irrefl _ (hhead x hmem)
          · intro hmem
            refine (hx.2 (.inr hmem)).resolve_left ?_
            rintro rfl
            exact String.lt_irrefl _ (hhead' x hmem)

/-- A table is known by the values of all names. -/
theorem eq_of_get? {t u : Table α} (h : ∀ name, t.get? name = u.get? name) : t = u := by
  have hentries : t.entries = u.entries := by
    refine entries_eq_of_mem t.ascending u.ascending fun e => ?_
    obtain ⟨name, value⟩ := e
    rw [← get?_eq_some_iff, ← get?_eq_some_iff, h name]
  cases t
  cases u
  cases hentries
  rfl

end Populace.Table
