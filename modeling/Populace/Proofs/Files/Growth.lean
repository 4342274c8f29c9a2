import Populace.Files.Tree
import Populace.Proofs.Actions
import Populace.Proofs.Table

/-!
# How trees grow

Nothing that a run does takes a directory away, so a place that a path has once led to is
where the path leads from then on (`Grows`). Making directories leaves all files as they
are, too (`Extends`): whatever could be read before reads the same afterwards.
-/

namespace Populace.Files.Tree

/-! ## What stands at a place -/

theorem node?_nil (t : Tree) : t.node? [] = some .directory := rfl

theorem node?_of_ne_nil {names : List String} (h : names ≠ []) (t : Tree) :
    t.node? names = t.nodes.get? (keyOf names) := by
  rw [node?, if_neg h]

theorem node?_put (t : Tree) (place names : List String) (node : Node) :
    (t.put place node).node? names
      = if names = [] then some .directory
        else if keyOf names = keyOf place then some node else t.node? names := by
  by_cases h : names = []
  · rw [if_pos h, h, node?_nil]
  · rw [if_neg h, node?_of_ne_nil h, node?_of_ne_nil h]
    exact Table.get?_insert _ _ _ _

theorem node?_remove (t : Tree) (place names : List String) :
    (t.remove place).node? names
      = if names = [] then some .directory
        else if keyOf names = keyOf place then none else t.node? names := by
  by_cases h : names = []
  · rw [if_pos h, h, node?_nil]
  · rw [if_neg h, node?_of_ne_nil h, node?_of_ne_nil h]
    exact Table.get?_erase _ _ _

theorem ne_nil_of_node {t : Tree} {place : List String} (h : t.node? place ≠ some .directory) :
    place ≠ [] := by
  rintro rfl
  exact h rfl

theorem ne_nil_of_none {t : Tree} {place : List String} (h : t.node? place = none) :
    place ≠ [] := by
  rintro rfl
  cases h

theorem put_put (t : Tree) (place : List String) (node node' : Node) :
    (t.put place node).put place node' = t.put place node' := by
  simp only [put, Table.insert_insert]

/-- Places with one entry hold the same, but for the root. -/
theorem node?_congr {t : Tree} {names place : List String} (hn : names ≠ []) (hp : place ≠ [])
    (h : keyOf names = keyOf place) : t.node? names = t.node? place := by
  rw [node?_of_ne_nil hn, node?_of_ne_nil hp, h]

/-- A file that a tree with one more file has is that file or was there before. -/
theorem file_of_put {t : Tree} {place names : List String} {c c' : ByteArray}
    (h : (t.put place (.file c')).node? names = some (.file c)) :
    (keyOf names = keyOf place ∧ c = c') ∨ t.node? names = some (.file c) := by
  rw [node?_put] at h
  split at h
  · cases h
  · split at h
    · rename_i hkey
      cases h
      exact .inl ⟨hkey, rfl⟩
    · exact .inr h

theorem file_of_remove {t : Tree} {place names : List String} {c : ByteArray}
    (h : (t.remove place).node? names = some (.file c)) :
    keyOf names ≠ keyOf place ∧ t.node? names = some (.file c) := by
  rw [node?_remove] at h
  split at h
  · cases h
  · split at h
    · cases h
    · rename_i hkey
      exact ⟨hkey, h⟩

/-- A tree is known by what stands at all places. -/
theorem eq_of_nodes {t u : Tree} (hhere : t.here = u.here)
    (h : ∀ place, t.node? place = u.node? place) : t = u := by
  have hnodes : t.nodes = u.nodes := by
    refine Table.eq_of_get? fun name => ?_
    -- each entry is that of a single name
    have hname := h [name]
    rwa [node?_of_ne_nil (by simp), node?_of_ne_nil (by simp), keyOf,
      String.intercalate_singleton] at hname
  cases t
  cases u
  cases hhere
  cases hnodes
  rfl

/-! ## Growth -/

/-- The directories of the one tree are directories of the other. -/
structure Grows (t u : Tree) : Prop where
  here : u.here = t.here
  directories : ∀ names, t.node? names = some .directory → u.node? names = some .directory

/-- Nothing but directories has been added. -/
structure Extends (t u : Tree) : Prop extends Grows t u where
  files : ∀ names contents, u.node? names = some (.file contents)
    ↔ t.node? names = some (.file contents)

theorem Grows.refl (t : Tree) : Grows t t := ⟨rfl, fun _ h => h⟩

theorem Grows.trans {t u v : Tree} (h : Grows t u) (h' : Grows u v) : Grows t v :=
  ⟨h'.here.trans h.here, fun names hn => h'.directories names (h.directories names hn)⟩

theorem Extends.refl (t : Tree) : Extends t t := ⟨.refl t, fun _ _ => Iff.rfl⟩

theorem Extends.trans {t u v : Tree} (h : Extends t u) (h' : Extends u v) : Extends t v :=
  ⟨h.toGrows.trans h'.toGrows, fun names c => (h'.files names c).trans (h.files names c)⟩

/-- A directory may be put where nothing is. -/
theorem extends_put {t : Tree} {place : List String} (h : t.node? place = none) :
    Extends t (t.put place .directory) := by
  have hfree : t.node? place ≠ some .directory := by simp [h]
  refine ⟨⟨rfl, fun names hn => ?_⟩, fun names c => ?_⟩
  · rw [node?_put, hn]
    split
    · rfl
    · split <;> rfl
  · rw [node?_put]
    split
    · rename_i hnil
      simp [hnil, node?_nil]
    · split
      · rename_i hnil hkey
        simp [node?_congr hnil (ne_nil_of_node hfree) hkey, h]
      · rfl

/-- A file may be put where no directory is. -/
theorem grows_put_file {t : Tree} {place : List String}
    (h : t.node? place ≠ some .directory) (c : ByteArray) :
    Grows t (t.put place (.file c)) := by
  refine ⟨rfl, fun names hn => ?_⟩
  rw [node?_put]
  split
  · rfl
  · split
    · rename_i hnil hkey
      -- no directory has the entry of the file
      rw [node?_congr hnil (ne_nil_of_node h) hkey] at hn
      exact absurd hn h
    · exact hn

/-- A file may be taken away. -/
theorem grows_remove_file {t : Tree} {place : List String}
    (h : t.node? place ≠ some .directory) : Grows t (t.remove place) := by
  refine ⟨rfl, fun names hn => ?_⟩
  rw [node?_remove]
  split
  · rfl
  · split
    · rename_i hnil hkey
      rw [node?_congr hnil (ne_nil_of_node h) hkey] at hn
      exact absurd hn h
    · exact hn

/-- Taking something away makes no directory. -/
theorem not_directory_of_remove {t : Tree} {place' : List String}
    (h : t.node? place' ≠ some .directory) (place : List String) :
    (t.remove place).node? place' ≠ some .directory := by
  rw [node?_remove, if_neg (ne_nil_of_node h)]
  split
  · simp
  · exact h

/-- A file may be moved to where no directory is. -/
theorem grows_move_file {t : Tree} {place place' : List String}
    (h : t.node? place ≠ some .directory) (h' : t.node? place' ≠ some .directory)
    (c : ByteArray) : Grows t ((t.remove place).put place' (.file c)) :=
  (grows_remove_file h).trans (grows_put_file (not_directory_of_remove h' place) c)

/-! ## Paths in trees that grow -/

theorem follow_of_grows {t u : Tree} (h : Grows t u) {start place : List String}
    {pieces : List String} (hf : t.follow start pieces = .ok place) :
    u.follow start pieces = .ok place := by
  induction pieces generalizing start with
  | nil => exact hf
  | cons piece pieces ih =>
      -- only directories are gone through, and they are still there
      rw [follow] at hf ⊢
      cases hnode : t.node? start with
      | none => simp [hnode] at hf
      | some node =>
          cases node with
          | file c => simp [hnode] at hf
          | directory =>
              rw [hnode] at hf
              rw [h.directories start hnode]
              cases henter : enter start piece with
              | error e =>
                  rw [henter] at hf
                  cases hf
              | ok next =>
                  rw [henter] at hf
                  exact ih hf

/-- The path is one that can be followed, whatever the tree. -/
def Followable (path : String) : Prop :=
  path.toList.contains '\x00' = false ∧ path.isEmpty = false ∧ path.utf8ByteSize < longestPath

/-- Where the path starts. -/
def startOf (t : Tree) (path : String) : List String :=
  if Path.isAbsolute path then [] else t.here

theorem locate_eq_ok_iff {t : Tree} {path : String} {place : List String} :
    t.locate path = .ok place
      ↔ Followable path ∧ t.follow (t.startOf path) (Path.pieces path) = .ok place := by
  rw [locate, Followable, startOf]
  split
  · simp_all
  · split
    · simp_all
    · split
      · rename_i hlong
        simp [Nat.not_lt.2 hlong]
      · simp_all

theorem locate_of_grows {t u : Tree} (h : Grows t u) {path : String} {place : List String}
    (hl : t.locate path = .ok place) : u.locate path = .ok place := by
  rw [locate_eq_ok_iff] at hl ⊢
  refine ⟨hl.1, ?_⟩
  rw [startOf, h.here]
  exact follow_of_grows h hl.2

theorem lookUp_eq_file_iff {t : Tree} {path : String} {c : ByteArray} :
    t.lookUp path = .ok (.file c) ↔ Path.endsInSlash path = false
      ∧ ∃ place, t.locate path = .ok place ∧ t.node? place = some (.file c) := by
  rw [lookUp]
  cases hl : t.locate path with
  | error e => simp [bind, Except.bind]
  | ok place =>
      simp only [bind, Except.bind, Except.ok.injEq, exists_eq_left']
      cases hnode : t.node? place with
      | none => simp [throw, throwThe, MonadExceptOf.throw]
      | some node =>
          cases node with
          | directory => simp [pure, Except.pure]
          | file c' =>
              cases Path.endsInSlash path <;>
                simp [throw, throwThe, MonadExceptOf.throw, pure, Except.pure]

theorem contents_eq_ok_iff {t : Tree} {path : String} {c : ByteArray} :
    t.contents path = .ok c ↔ t.lookUp path = .ok (.file c) := by
  rw [contents, openFile]
  cases t.lookUp path with
  | error e => exact iff_of_false nofun nofun
  | ok node =>
      cases node with
      | directory => exact iff_of_false nofun nofun
      | file c' =>
          constructor
          · intro h
            cases h
            rfl
          · intro h
            cases h
            rfl

/-- What can be read from a tree reads the same when directories have been added. -/
theorem contents_of_extends {t u : Tree} (h : Extends t u) {path : String} {c : ByteArray}
    (hc : t.contents path = .ok c) : u.contents path = .ok c := by
  rw [contents_eq_ok_iff, lookUp_eq_file_iff] at hc ⊢
  obtain ⟨hslash, place, hl, hnode⟩ := hc
  exact ⟨hslash, place, locate_of_grows h.toGrows hl, (h.files place c).2 hnode⟩

section Elsewhere

variable {t : Tree} {path : String} {place : List String} {c : ByteArray}

theorem node?_put_of_ne {names : List String} (hkey : keyOf names ≠ keyOf place) (node : Node) :
    (t.put place node).node? names = t.node? names := by
  rw [node?_put, if_neg hkey]
  split
  · rename_i hnil
    rw [hnil, node?_nil]
  · rfl

theorem node?_remove_of_ne {names : List String} (hkey : keyOf names ≠ keyOf place) :
    (t.remove place).node? names = t.node? names := by
  rw [node?_remove, if_neg hkey]
  split
  · rename_i hnil
    rw [hnil, node?_nil]
  · rfl

/-- What can be read reads the same when a file has been put elsewhere. -/
theorem contents_put_of_ne (hplace : t.node? place ≠ some .directory)
    (h : t.contents path = .ok c)
    (hne : ∀ own, t.locate path = .ok own → keyOf own ≠ keyOf place) (c' : ByteArray) :
    (t.put place (.file c')).contents path = .ok c := by
  rw [contents_eq_ok_iff, lookUp_eq_file_iff] at h ⊢
  obtain ⟨hslash, own, hl, hnode⟩ := h
  refine ⟨hslash, own, locate_of_grows (grows_put_file hplace c') hl, ?_⟩
  rw [node?_put_of_ne (hne own hl), hnode]

/-- And when one has been taken away from elsewhere. -/
theorem contents_remove_of_ne (hplace : t.node? place ≠ some .directory)
    (h : t.contents path = .ok c)
    (hne : ∀ own, t.locate path = .ok own → keyOf own ≠ keyOf place) :
    (t.remove place).contents path = .ok c := by
  rw [contents_eq_ok_iff, lookUp_eq_file_iff] at h ⊢
  obtain ⟨hslash, own, hl, hnode⟩ := h
  refine ⟨hslash, own, locate_of_grows (grows_remove_file hplace) hl, ?_⟩
  rw [node?_remove_of_ne (hne own hl), hnode]

end Elsewhere

/-! ## Making files -/

theorem placeForFile_eq_ok_iff {t : Tree} {path : String} {place : List String} :
    t.placeForFile path = .ok place ↔ Path.endsInSlash path = false
      ∧ t.locate path = .ok place ∧ t.node? place ≠ some .directory := by
  rw [placeForFile]
  cases hl : t.locate path with
  | error e => simp [bind, Except.bind]
  | ok p =>
      have hplace : (pure p : Except Reason (List String)) = .ok place ↔ p = place := by
        simp [pure, Except.pure]
      have hopen : t.node? p ≠ some .directory →
          ((if Path.endsInSlash path = true then throw .isDirectory else pure p :
            Except Reason (List String)) = .ok place
          ↔ Path.endsInSlash path = false ∧ p = place ∧ t.node? place ≠ some .directory) := by
        intro hp
        cases Path.endsInSlash path with
        | true => simp [throw, throwThe, MonadExceptOf.throw]
        | false =>
            simp only [Bool.false_eq_true, if_false, hplace, true_and]
            exact ⟨fun h => ⟨h, h ▸ hp⟩, And.left⟩
      simp only [bind, Except.bind, Except.ok.injEq]
      cases hnode : t.node? p with
      | none => exact hopen (by simp [hnode])
      | some node =>
          cases node with
          | file c => exact hopen (by simp [hnode])
          | directory =>
              simp only [throw, throwThe, MonadExceptOf.throw, reduceCtorEq, false_iff]
              rintro ⟨-, rfl, hdir⟩
              exact hdir hnode

/-- A file that can be read can be written, in the same place. -/
theorem placeForFile_of_contents {t : Tree} {path : String} {c : ByteArray}
    (h : t.contents path = .ok c) : ∃ place, t.placeForFile path = .ok place := by
  rw [contents_eq_ok_iff, lookUp_eq_file_iff] at h
  obtain ⟨hslash, place, hl, hnode⟩ := h
  exact ⟨place, placeForFile_eq_ok_iff.2 ⟨hslash, hl, by simp [hnode]⟩⟩

section Filling

variable {t : Tree} {path : String} {place : List String}

theorem createFile_of_place (h : t.placeForFile path = .ok place) :
    t.createFile path = .ok (t.put place (.file ByteArray.empty)) := by
  rw [createFile, h]
  rfl

theorem fill_of_place (h : t.placeForFile path = .ok place) (c : ByteArray) :
    t.fill path c = t.put place (.file c) := by
  rw [fill, h]

theorem node?_put_self (h : place ≠ []) (node : Node) :
    (t.put place node).node? place = some node := by
  rw [node?_put, if_neg h, if_pos rfl]

theorem ne_nil_of_placeForFile (h : t.placeForFile path = .ok place) : place ≠ [] :=
  ne_nil_of_node (placeForFile_eq_ok_iff.1 h).2.2

/-- The place of a file stays one when a file is written, be it this one or another. -/
theorem placeForFile_put {other : String} {place' : List String}
    (h : t.placeForFile path = .ok place) (h' : t.placeForFile other = .ok place')
    (c : ByteArray) : (t.put place' (.file c)).placeForFile path = .ok place := by
  obtain ⟨hslash, hl, hnode⟩ := placeForFile_eq_ok_iff.1 h
  have hgrows := grows_put_file (placeForFile_eq_ok_iff.1 h').2.2 c
  refine placeForFile_eq_ok_iff.2 ⟨hslash, locate_of_grows hgrows hl, ?_⟩
  rw [node?_put, if_neg (ne_nil_of_placeForFile h)]
  split
  · simp
  · exact hnode

theorem contents_of_node {c : ByteArray} (h : t.placeForFile path = .ok place)
    (hnode : t.node? place = some (.file c)) : t.contents path = .ok c := by
  rw [contents_eq_ok_iff, lookUp_eq_file_iff]
  exact ⟨(placeForFile_eq_ok_iff.1 h).1, place, (placeForFile_eq_ok_iff.1 h).2.1, hnode⟩

/-- What a file is filled with is what can be read from it. -/
theorem contents_fill (h : t.placeForFile path = .ok place) (c : ByteArray) :
    (t.fill path c).contents path = .ok c := by
  rw [fill_of_place h]
  exact contents_of_node (placeForFile_put h h c)
    (node?_put_self (ne_nil_of_placeForFile h) _)

/-- A file that is moved can be read where it has been moved to. -/
theorem contents_move {old : List String} (hold : t.node? old ≠ some .directory)
    (h : t.placeForFile path = .ok place) (c : ByteArray) :
    ((t.remove old).put place (.file c)).contents path = .ok c := by
  obtain ⟨hslash, hl, hnode⟩ := placeForFile_eq_ok_iff.1 h
  rw [contents_eq_ok_iff, lookUp_eq_file_iff]
  exact ⟨hslash, place, locate_of_grows (grows_move_file hold hnode c) hl,
    node?_put_self (ne_nil_of_placeForFile h) _⟩

theorem locate_of_place (h : t.placeForFile path = .ok place) : t.locate path = .ok place :=
  (placeForFile_eq_ok_iff.1 h).2.1

/-- Giving a file another path comes down to the place of that path. -/
theorem rename_of_file {c : ByteArray} (hl : t.locate path = .ok place)
    (hnode : t.node? place = some (.file c)) (target : String) :
    t.rename path target = match t.placeForFile target with
      | .ok place' => .ok ((t.remove place).put place' (.file c))
      | .error e => .error ⟨.renameTo target, path, e⟩ := by
  rw [rename]
  simp only [hl, hnode, bind, Except.bind]
  cases t.placeForFile target <;> rfl

end Filling

end Populace.Files.Tree
