import Populace.Proofs.Files.Folders

/-!
# Names in one directory

Once a directory is there (`Ready`), a name in it leads to one place, whatever the other
names stand for. So two trees that agree on some names cannot be told apart by what is
done to these, and they still agree afterwards (`Agree`).
-/

namespace Populace.Files.Tree

/-! ## Directories that are ready -/

/-- The directory is there, with all that lead to it. -/
structure Ready (directory : String) (above : List String) (t : Tree) : Prop where
  follows : t.follow (t.startOf directory) (Path.pieces directory) = .ok above
  leading : ∀ front, front <+: above → t.node? front = some .directory
  there : t.There (Path.tidy directory)

theorem Ready.of_grows {directory : String} {above : List String} {t u : Tree} (h : Grows t u)
    (ht : Ready directory above t) : Ready directory above u := by
  refine ⟨?_, fun front hfront => h.directories front (ht.leading front hfront),
    ht.there.of_grows h⟩
  rw [startOf_of_grows h]
  exact follow_of_grows h ht.follows

/-- Where the path above the names leads, the path of the directory does. -/
theorem follow_of_there {t : Tree} {directory : String} (hhere : t.node? t.here = some .directory)
    (hstraight : Straight directory) (h : t.There (Path.tidy directory)) :
    t.follow (t.startOf directory) (Path.pieces directory) = .ok (t.placeOf directory)
      ∧ t.node? (t.placeOf directory) = some .directory := by
  rcases h with hnil | hd
  · obtain rfl := Path.eq_empty_of_tidy directory hnil
    have hplace : t.placeOf "" = t.here := by
      simp [placeOf, startOf, Path.pieces, Path.cut, Path.isAbsolute]
    exact ⟨by rw [hplace]; rfl, by rwa [hplace]⟩
  · obtain ⟨place, hl, hnode⟩ := isDirectory_iff.1 hd
    obtain ⟨k, hpieces⟩ := Path.pieces_tidy directory
    obtain rfl := (place_of_locate hstraight.tidy hl).trans (placeOf_tidy t directory)
    have hfollow := (locate_eq_ok_iff.1 hl).2
    rw [startOf_tidy] at hfollow
    refine ⟨?_, hnode⟩
    rw [hpieces, follow_append, hfollow]
    exact follow_points hnode k

/-- A directory that has been made is ready. -/
theorem ready_of_createDirectories {t u : Tree} {directory : String} (hsound : t.Sound)
    (hstraight : Straight directory)
    (h : createDirectories (Path.tidy directory) t = .ok () u) :
    Ready directory (t.placeOf directory) u := by
  have hthere := there_of_createDirectories h
  have hgrows := (extends_of_createDirectories h).toGrows
  have hhere : u.node? u.here = some .directory := by
    rw [hgrows.here]
    exact hgrows.directories _ hsound.here
  obtain ⟨hfollow, hnode⟩ := follow_of_there hhere hstraight hthere
  rw [placeOf_of_here hgrows.here] at hfollow hnode
  refine ⟨hfollow, fun front hfront => ?_, hthere⟩
  have hstart : t.startOf directory <+: t.placeOf directory := List.prefix_append _ _
  rcases List.prefix_or_prefix_of_prefix hfront hstart with hshort | hlong
  · exact hgrows.directories front (hsound.directory_of_start hshort)
  · rw [startOf_of_grows hgrows] at hfollow
    exact directory_of_follow hstraight hfollow hnode hlong hfront

/-! ## Paths of names -/

section Names

variable {directory name : String} {above : List String} {t u : Tree}

/-- Where the path of a name leads is decided in the directory. -/
theorem locate_of_ready (ht : Ready directory above t) (hname : Path.Plain name)
    (hpath : Followable (Path.child directory name)) :
    t.locate (Path.child directory name) = enter above name := by
  rw [locate_of_followable hpath, startOf_child hname, pieces_of_plain hname, follow_append,
    ht.follows]
  have hnode := ht.leading above List.prefix_rfl
  change t.follow above [name] = enter above name
  cases henter : enter above name with
  | error e =>
      rw [follow, hnode, henter]
      rfl
  | ok place =>
      rw [follow_cons_of_ok hnode henter]
      rfl

/-- A name has the same place in all trees where the directory is ready. -/
theorem locate_congr (ht : Ready directory above t) (hu : Ready directory above u)
    (hname : Path.Plain name) :
    t.locate (Path.child directory name) = u.locate (Path.child directory name) := by
  by_cases hpath : Followable (Path.child directory name)
  · rw [locate_of_ready ht hname hpath, locate_of_ready hu hname hpath]
  · exact locate_congr_of_not_followable hpath t u

theorem place_of_ready (ht : Ready directory above t) (hname : Path.Plain name)
    {place : List String} (h : t.locate (Path.child directory name) = .ok place) :
    place = above ++ [name] := by
  rw [locate_of_ready ht hname (locate_eq_ok_iff.1 h).1, enter, if_neg hname.ne_dot,
    if_neg hname.ne_dots] at h
  split at h
  · cases h
  · exact (Except.ok.inj h).symm

theorem exists_iff {path : String} : t.exists? path = true ↔ ∃ node, t.lookUp path = .ok node := by
  rw [exists?]
  cases t.lookUp path <;> simp [Except.isOk, Except.toBool]

/-- What a path leads to stands at a place. -/
theorem lookUp_eq_ok {path : String} {node : Node} (h : t.lookUp path = .ok node) :
    ∃ place, t.locate path = .ok place ∧ t.node? place = some node := by
  rw [lookUp] at h
  cases hl : t.locate path with
  | error e =>
      rw [hl] at h
      cases h
  | ok place =>
      refine ⟨place, rfl, ?_⟩
      simp only [hl, bind, Except.bind] at h
      split at h
      · cases h
      · rename_i hnode
        rw [hnode]
        cases h
        rfl
      · rename_i hnode
        rw [hnode]
        split at h
        · cases h
        · cases h
          rfl

/-- A name stands for something only if there is nothing to be made above it. -/
theorem there_of_exists (hname : Path.Plain name)
    (h : t.exists? (Path.child directory name) = true) : t.There (Path.tidy directory) := by
  obtain ⟨node, hlook⟩ := exists_iff.1 h
  obtain ⟨place, hl, -⟩ := lookUp_eq_ok hlook
  obtain ⟨hpath, hfollow⟩ := locate_eq_ok_iff.1 hl
  obtain ⟨k, hpieces⟩ := Path.pieces_tidy directory
  rw [pieces_of_plain hname, follow_append, hpieces, follow_append, startOf_child hname] at hfollow
  cases hstart : t.follow (t.startOf directory) (Path.pieces (Path.tidy directory)) with
  | error e =>
      rw [hstart] at hfollow
      cases hfollow
  | ok above =>
      rw [hstart] at hfollow
      cases hpoints : t.follow above (List.replicate k ".") with
      | error e =>
          simp only [Except.bind, hpoints] at hfollow
          cases hfollow
      | ok above' =>
          simp only [Except.bind, hpoints] at hfollow
          obtain rfl := follow_points_eq hpoints
          refine Decidable.or_iff_not_imp_left.2 fun hne => isDirectory_iff.2 ⟨above', ?_, ?_⟩
          · have hbegins := (Path.tidy_begins_folder directory).trans
              (Path.folder_begins_child directory name)
            rw [locate_of_followable (followable_of_begins hbegins hne hpath), startOf_tidy, hstart]
          · exact (follow_cons_eq_ok hfollow).1

/-- The way to a directory has no entry in common with what stands in it. -/
theorem keyOf_child_ne {front : List String} (hne : front ≠ []) (hfront : front <+: above)
    (name : String) : keyOf (above ++ [name]) ≠ keyOf front := by
  obtain ⟨back, rfl⟩ := hfront
  intro hkey
  rw [List.append_assoc, keyOf, keyOf, String.intercalate_append_of_ne_nil hne (by simp)] at hkey
  have hlength := congrArg String.length hkey
  have hslash : "/".length = 1 := rfl
  simp only [String.length_append, hslash] at hlength
  omega

/-- Making a directory leaves what stands in it as it is. -/
theorem node_of_createDirectories (hstraight : Straight directory)
    (h : createDirectories (Path.tidy directory) t = .ok () u) (name : String) :
    u.node? (t.placeOf directory ++ [name]) = t.node? (t.placeOf directory ++ [name]) := by
  have hconfined := createDirectories_confined hstraight.tidy t
  rw [h, stateBehind_ok] at hconfined
  rcases hconfined.nodes (t.placeOf directory ++ [name]) with
    hsame | ⟨-, -, front, hne, hfront, hkey⟩ | ⟨_, hmem, -⟩
  · exact hsame
  · rw [placeOf_tidy] at hfront
    exact absurd hkey (keyOf_child_ne hne hfront name)
  · cases hmem

theorem exists_of_createDirectories (hsound : t.Sound) (hstraight : Straight directory)
    (hname : Path.Plain name) (h : createDirectories (Path.tidy directory) t = .ok () u) :
    u.exists? (Path.child directory name) = t.exists? (Path.child directory name) := by
  cases hexists : t.exists? (Path.child directory name) with
  | true =>
      rw [createDirectories_of_there (there_of_exists hname hexists)] at h
      cases h
      exact hexists
  | false =>
      refine Bool.eq_false_iff.2 fun hu => ?_
      obtain ⟨node, hlook⟩ := exists_iff.1 hu
      obtain ⟨place, hl, hnode⟩ := lookUp_eq_ok hlook
      obtain rfl := place_of_ready (ready_of_createDirectories hsound hstraight h) hname hl
      have hsame := node_of_createDirectories hstraight h name
      -- what is there now was there before, and could be reached
      obtain ⟨hpath, hfollow⟩ := locate_eq_ok_iff.1 hl
      rw [startOf_of_grows (extends_of_createDirectories h).toGrows] at hfollow
      have hback := follow_of_rooted hsound.rooted (hstraight.child hname) hfollow
        (by simp [← hsame, hnode]) hsame.symm
      have hlocate := locate_eq_ok_iff.2 ⟨hpath, hback⟩
      have hlook' : t.lookUp (Path.child directory name) = .ok node := by
        rw [← hlook, lookUp, lookUp, hlocate, hl]
        simp only [bind, Except.bind, hsame]
      rw [exists_iff.2 ⟨node, hlook'⟩] at hexists
      cases hexists

end Names

/-! ## Trees that agree -/

/-- In both trees the directory is ready, and the names stand for the same. -/
structure Agree (directory : String) (above : List String) (names : List String)
    (t u : Tree) : Prop where
  left : Ready directory above t
  right : Ready directory above u
  same : ∀ name ∈ names, t.node? (above ++ [name]) = u.node? (above ++ [name])

section Agree

variable {directory name : String} {above names : List String} {t u : Tree}
  (h : Agree directory above names t u) (hmem : name ∈ names) (hname : Path.Plain name)

include h hmem hname

theorem lookUp_congr :
    t.lookUp (Path.child directory name) = u.lookUp (Path.child directory name) := by
  rw [lookUp, lookUp, locate_congr h.left h.right hname]
  cases hl : u.locate (Path.child directory name) with
  | error e => rfl
  | ok place =>
      obtain rfl := place_of_ready h.right hname hl
      simp only [bind, Except.bind, h.same name hmem]

theorem exists_congr :
    t.exists? (Path.child directory name) = u.exists? (Path.child directory name) := by
  rw [exists?, exists?, lookUp_congr h hmem hname]

theorem openFile_congr :
    t.openFile (Path.child directory name) = u.openFile (Path.child directory name) := by
  rw [openFile, openFile, lookUp_congr h hmem hname]

theorem placeForFile_congr :
    t.placeForFile (Path.child directory name) = u.placeForFile (Path.child directory name) := by
  rw [placeForFile, placeForFile, locate_congr h.left h.right hname]
  cases hl : u.locate (Path.child directory name) with
  | error e => rfl
  | ok place =>
      obtain rfl := place_of_ready h.right hname hl
      simp only [bind, Except.bind, h.same name hmem]

/-- Filling a file in both keeps them in agreement. -/
theorem agree_put {place : List String}
    (hplace : t.placeForFile (Path.child directory name) = .ok place) (c : ByteArray) :
    Agree directory above names (t.put place (.file c)) (u.put place (.file c)) := by
  have hplace' := hplace
  rw [placeForFile_congr h hmem hname] at hplace'
  refine ⟨h.left.of_grows (grows_put_file (placeForFile_eq_ok_iff.1 hplace).2.2 c),
    h.right.of_grows (grows_put_file (placeForFile_eq_ok_iff.1 hplace').2.2 c),
    fun other hother => ?_⟩
  rw [node?_put, node?_put, h.same other hother]

/-- And so does taking a file away and filling another. -/
theorem agree_move {old place : List String} {c : ByteArray}
    (hold : t.node? old ≠ some .directory) (hold' : u.node? old ≠ some .directory)
    (hplace : t.placeForFile (Path.child directory name) = .ok place) :
    Agree directory above names ((t.remove old).put place (.file c))
      ((u.remove old).put place (.file c)) := by
  have hplace' := hplace
  rw [placeForFile_congr h hmem hname] at hplace'
  refine ⟨h.left.of_grows (grows_move_file hold (placeForFile_eq_ok_iff.1 hplace).2.2 c),
    h.right.of_grows (grows_move_file hold' (placeForFile_eq_ok_iff.1 hplace').2.2 c),
    fun other hother => ?_⟩
  rw [node?_put, node?_put, node?_remove, node?_remove, h.same other hother]

end Agree

/-- What happens to some names of a ready directory leaves everything else as it is. -/
theorem Confined.frame {directory : String} {above names : List String} {t u : Tree}
    (h : Confined directory names t u) (hstraight : Straight directory)
    (ht : Ready directory above t) {place : List String}
    (hother : ∀ name ∈ names, keyOf place ≠ keyOf (above ++ [name])) :
    u.node? place = t.node? place := by
  have habove : t.placeOf directory = above := (place_of_follow hstraight ht.follows).symm
  rcases h.nodes place with hsame | ⟨hnone, -, front, hne, hfront, hkey⟩ | ⟨name, hmem, hkey⟩
  · exact hsame
  · -- all that lead to the directory are there
    rw [node?_congr (ne_nil_of_none hnone) hne hkey, ht.leading front (habove ▸ hfront)] at hnone
    cases hnone
  · exact absurd (habove ▸ hkey) (hother name hmem)

end Populace.Files.Tree
