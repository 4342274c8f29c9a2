import Populace.Proofs.Files.Parents

/-!
# Ways through directories

A path without `..` leads where its pieces say, if it leads anywhere. In a tree where only
directories lead to something (`Rooted`), whatever stands at the end of such a way can be
reached.
-/

namespace Populace.Files

/-! ## Plain names -/

/-- A name that stands for something in a directory. -/
structure Path.Plain (name : String) : Prop where
  ne_empty : name ≠ ""
  no_slash : '/' ∉ name.toList
  ne_dot : name ≠ "."
  ne_dots : name ≠ ".."

/-- Different names in a directory have different paths. -/
theorem Path.child_inj {directory name name' : String}
    (h : Path.child directory name = Path.child directory name') : name = name' := by
  rw [child_eq, child_eq] at h
  have hlist := congrArg String.toList h
  rw [String.toList_append, String.toList_append] at hlist
  exact String.toList_inj.1 (List.append_cancel_left hlist)

namespace Tree

/-! ## Steps -/

theorem enter_eq_ok {place next : List String} {piece : String} (hdots : piece ≠ "..")
    (h : enter place piece = .ok next) : next = place ++ [piece].filter (· ≠ ".") := by
  by_cases hdot : piece = "."
  · rw [enter, if_pos hdot] at h
    cases h
    simp [hdot]
  · rw [enter, if_neg hdot, if_neg hdots] at h
    split at h
    · cases h
    · cases h
      simp [hdot]

/-- One step of a way: it starts in a directory. -/
theorem follow_cons_eq_ok {t : Tree} {start place : List String} {piece : String}
    {pieces : List String} (h : t.follow start (piece :: pieces) = .ok place) :
    t.node? start = some .directory
      ∧ ∃ next, enter start piece = .ok next ∧ t.follow next pieces = .ok place := by
  rw [follow] at h
  cases hnode : t.node? start with
  | none => simp [hnode] at h
  | some node =>
      cases node with
      | file c => simp [hnode] at h
      | directory =>
          simp only [hnode] at h
          cases henter : enter start piece with
          | error e =>
              rw [henter] at h
              cases h
          | ok next =>
              rw [henter] at h
              exact ⟨rfl, next, rfl, h⟩

theorem follow_cons_of_ok {t : Tree} {start next : List String} {piece : String}
    (hnode : t.node? start = some .directory) (henter : enter start piece = .ok next)
    (pieces : List String) : t.follow start (piece :: pieces) = t.follow next pieces := by
  rw [follow, hnode, henter]
  rfl

theorem follow_of_none {t : Tree} {start way : List String} (hway : way ≠ [])
    (h : t.node? start = none) : t.follow start way = .error .notFound := by
  obtain ⟨piece, rest, rfl⟩ := List.exists_cons_of_ne_nil hway
  rw [follow, h]

theorem follow_of_file {t : Tree} {start way : List String} (hway : way ≠ [])
    {c : ByteArray} (h : t.node? start = some (.file c)) :
    t.follow start way = .error .notDirectory := by
  obtain ⟨piece, rest, rfl⟩ := List.exists_cons_of_ne_nil hway
  rw [follow, h]

theorem follow_points {t : Tree} {start : List String} (h : t.node? start = some .directory)
    (k : Nat) : t.follow start (List.replicate k ".") = .ok start := by
  induction k with
  | zero => rfl
  | succ k ih =>
      have henter : enter start "." = .ok start := by rw [enter, if_pos rfl]
      rw [List.replicate_succ, follow_cons_of_ok h henter, ih]

/-! ## Straight paths -/

/-- No piece of the path leads back. -/
def Straight (path : String) : Prop :=
  ".." ∉ Path.pieces path

/-- Where a straight path leads, if it leads anywhere. -/
def placeOf (t : Tree) (path : String) : List String :=
  t.startOf path ++ (Path.pieces path).filter (· ≠ ".")

theorem place_of_follow {t : Tree} {start place : List String} {pieces : List String}
    (hdots : ".." ∉ pieces) (h : t.follow start pieces = .ok place) :
    place = start ++ pieces.filter (· ≠ ".") := by
  induction pieces generalizing start with
  | nil =>
      cases h
      simp
  | cons piece pieces ih =>
      rw [List.mem_cons, not_or] at hdots
      obtain ⟨-, next, henter, hrest⟩ := follow_cons_eq_ok h
      rw [ih hdots.2 hrest, enter_eq_ok (Ne.symm hdots.1) henter, List.append_assoc,
        ← List.filter_append, List.singleton_append]

theorem follow_points_eq {t : Tree} {start place : List String} {k : Nat}
    (h : t.follow start (List.replicate k ".") = .ok place) : place = start := by
  have hplace := place_of_follow (by simp) h
  rw [hplace]
  simp

theorem place_of_locate {t : Tree} {path : String} {place : List String}
    (hstraight : Straight path) (h : t.locate path = .ok place) : place = t.placeOf path :=
  place_of_follow hstraight (locate_eq_ok_iff.1 h).2

theorem locate_of_followable {t : Tree} {path : String} (h : Followable path) :
    t.locate path = t.follow (t.startOf path) (Path.pieces path) := by
  rw [locate, h.1, h.2.1, if_neg (by simp), if_neg (by simp), if_neg (Nat.not_le.2 h.2.2)]
  rfl

theorem locate_congr_of_not_followable {path : String} (h : ¬ Followable path) (t u : Tree) :
    t.locate path = u.locate path := by
  rw [locate, locate]
  split
  · rfl
  · split
    · rfl
    · split
      · rfl
      · rename_i hzero hempty hlong
        exact absurd ⟨by simpa using hzero, by simpa using hempty, Nat.not_le.1 hlong⟩ h

theorem startOf_of_grows {t u : Tree} (h : Grows t u) (path : String) :
    u.startOf path = t.startOf path := by
  rw [startOf, startOf, h.here]

theorem placeOf_of_here {t u : Tree} (h : u.here = t.here) (path : String) :
    u.placeOf path = t.placeOf path := by
  rw [placeOf, placeOf, startOf, startOf, h]

/-! ## Trees with nothing outside of directories -/

/-- What has a name stands in a directory. -/
def Rooted (t : Tree) : Prop :=
  ∀ above name, t.node? (above ++ [name]) ≠ none → t.node? above = some .directory

theorem Rooted.directory_above {t : Tree} (h : t.Rooted) {front back : List String}
    (hback : back ≠ []) (hn : t.node? (front ++ back) ≠ none) :
    t.node? front = some .directory := by
  induction back generalizing front with
  | nil => exact absurd rfl hback
  | cons name back ih =>
      refine h front name ?_
      by_cases hnil : back = []
      · rwa [hnil] at hn
      · rw [ih hnil (by rwa [List.append_assoc])]
        simp

/-- What stands at the end of a straight way in one tree is reached in each tree where it
stands, too. -/
theorem follow_of_rooted {t u : Tree} (h : t.Rooted) {start place : List String}
    {pieces : List String} (hdots : ".." ∉ pieces) (hf : u.follow start pieces = .ok place)
    (hn : t.node? place ≠ none) (hsame : t.node? place = u.node? place) :
    t.follow start pieces = .ok place := by
  induction pieces generalizing start with
  | nil => exact hf
  | cons piece pieces ih =>
      have hplace := place_of_follow hdots hf
      rw [List.mem_cons, not_or] at hdots
      obtain ⟨hnode, next, henter, hrest⟩ := follow_cons_eq_ok hf
      have hstart : t.node? start = some .directory := by
        by_cases hback : (piece :: pieces).filter (· ≠ ".") = []
        · rw [hback, List.append_nil] at hplace
          rw [hplace] at hsame
          rwa [hsame]
        · exact h.directory_above hback (hplace ▸ hn)
      rw [follow_cons_of_ok hstart henter]
      exact ih hdots.2 hrest

/-- A way that ends in a directory goes through directories. -/
theorem directory_of_follow {t : Tree} {start place front : List String} {pieces : List String}
    (hdots : ".." ∉ pieces) (hf : t.follow start pieces = .ok place)
    (hplace : t.node? place = some .directory) (hstart : start <+: front)
    (hfront : front <+: place) : t.node? front = some .directory := by
  induction pieces generalizing start with
  | nil =>
      cases hf
      rwa [List.IsPrefix.eq_of_length_le hfront hstart.length_le]
  | cons piece pieces ih =>
      rw [List.mem_cons, not_or] at hdots
      obtain ⟨hnode, next, henter, hrest⟩ := follow_cons_eq_ok hf
      by_cases hsame : front = start
      · rwa [hsame]
      · -- a longer way goes on with the first piece
        refine ih hdots.2 hrest ?_
        have hnext : next <+: place := by
          rw [place_of_follow hdots.2 hrest]
          exact List.prefix_append _ _
        rcases List.prefix_or_prefix_of_prefix hnext hfront with h | h
        · exact h
        · have hlonger : start.length < front.length :=
            Nat.lt_of_le_of_ne hstart.length_le fun hlen => hsame (hstart.eq_of_length hlen).symm
          have hnext : next.length ≤ start.length + 1 := by
            rw [enter_eq_ok (Ne.symm hdots.1) henter, List.length_append]
            exact Nat.add_le_add_left (List.length_filter_le _ _) _
          exact h.eq_of_length_le (Nat.le_trans hnext hlonger) ▸ List.prefix_rfl

/-- Only directories lead to something, and relative paths start in one. -/
structure Sound (t : Tree) : Prop where
  rooted : t.Rooted
  here : t.node? t.here = some .directory

/-- Paths start in directories. -/
theorem Sound.directory_of_start {t : Tree} (h : t.Sound) {path : String} {front : List String}
    (hfront : front <+: t.startOf path) : t.node? front = some .directory := by
  rw [startOf] at hfront
  split at hfront
  · rw [List.prefix_nil.1 hfront, node?_nil]
  · obtain ⟨back, hback⟩ := hfront
    have hhere := h.here
    rw [← hback] at hhere
    by_cases hnil : back = []
    · rwa [hnil, List.append_nil] at hhere
    · exact h.rooted.directory_above hnil (by simp [hhere])

/-! ## The path above a path -/

theorem Straight.above {above path : String} (h : Straight path)
    (habove : Path.Above above path) : Straight above := by
  obtain ⟨way, -, hpieces⟩ := habove.pieces_eq_append
  rw [Straight, hpieces, List.mem_append, not_or] at h
  exact h.1

section Above

variable {above path : String} {t u : Tree}

theorem startOf_of_above (h : Path.Above above path) (t : Tree) :
    t.startOf above = t.startOf path := by
  rw [startOf, startOf, h.isAbsolute]

theorem placeOf_above (h : Path.Above above path) (t : Tree) :
    t.placeOf above <+: t.placeOf path := by
  obtain ⟨way, -, hpieces⟩ := h.pieces_eq_append
  rw [placeOf, placeOf, startOf_of_above h, hpieces, List.filter_append, ← List.append_assoc]
  exact List.prefix_append _ _

theorem followable_of_begins (hpre : above.toList <+: path.toList)
    (hne : above ≠ "") (h : Followable path) : Followable above := by
  obtain ⟨rest, hrest⟩ := hpre
  have hsplit : path = above ++ String.ofList rest := by
    rw [← String.toList_inj, ← hrest]
    simp
  obtain ⟨hzero, -, hshort⟩ := h
  refine ⟨?_, by simpa using hne, ?_⟩
  · rw [← hrest] at hzero
    simp_all
  · rw [hsplit, String.utf8ByteSize_append] at hshort
    omega

/-- Where a path leads is decided behind the path above it. -/
theorem locate_of_above {way : List String} (hpath : Followable path)
    (h : Path.Above above path) (hway : Path.pieces path = Path.pieces above ++ way) (t : Tree) :
    t.locate path = (t.follow (t.startOf above) (Path.pieces above)).bind (t.follow · way) := by
  rw [locate_of_followable hpath, ← follow_append, startOf_of_above h, hway]

/-- A file in the way of a path was in its way before there were more directories. -/
theorem locate_of_file_above {place : List String} {c : ByteArray}
    (hrooted : t.Rooted) (hextends : t.Extends u) (hpath : Followable path)
    (habove : Path.Above above path) (hstraight : Straight above)
    (hfollow : u.follow (u.startOf above) (Path.pieces above) = .ok place)
    (hnode : u.node? place = some (.file c)) : t.locate path = .error .notDirectory := by
  obtain ⟨way, hway, hpieces⟩ := habove.pieces_eq_append
  have hold := (hextends.files place c).1 hnode
  rw [startOf_of_grows hextends.toGrows] at hfollow
  have hback := follow_of_rooted hrooted hstraight hfollow (by simp [hold])
    (hold.trans hnode.symm)
  rw [locate_of_above hpath habove hpieces, hback]
  exact follow_of_file hway hold

end Above

/-! ## Names in directories -/

section Names

variable {directory name : String}

theorem startOf_tidy (t : Tree) (directory : String) :
    t.startOf (Path.tidy directory) = t.startOf directory := by
  rw [startOf, startOf, Path.isAbsolute_tidy]

theorem placeOf_tidy (t : Tree) (directory : String) :
    t.placeOf (Path.tidy directory) = t.placeOf directory := by
  obtain ⟨k, hpieces⟩ := Path.pieces_tidy directory
  rw [placeOf, placeOf, startOf_tidy, hpieces, List.filter_append]
  simp

theorem Straight.tidy (h : Straight directory) :
    Straight (Path.tidy directory) := by
  obtain ⟨k, hpieces⟩ := Path.pieces_tidy directory
  rw [Straight, hpieces, List.mem_append, not_or] at h
  exact h.1

theorem pieces_of_plain (hname : Path.Plain name) :
    Path.pieces (Path.child directory name) = Path.pieces directory ++ [name] :=
  Path.pieces_child directory hname.ne_empty hname.no_slash

theorem Straight.child (h : Straight directory) (hname : Path.Plain name) :
    Straight (Path.child directory name) := by
  rw [Straight, pieces_of_plain hname, List.mem_append, List.mem_singleton]
  exact not_or.2 ⟨h, Ne.symm hname.ne_dots⟩

theorem startOf_child (hname : Path.Plain name) (t : Tree) :
    t.startOf (Path.child directory name) = t.startOf directory := by
  rw [startOf, startOf, Path.isAbsolute_child directory hname.ne_empty hname.no_slash]

theorem placeOf_child (hname : Path.Plain name) (t : Tree) :
    t.placeOf (Path.child directory name) = t.placeOf directory ++ [name] := by
  rw [placeOf, placeOf, startOf_child hname, pieces_of_plain hname, List.filter_append,
    ← List.append_assoc]
  simp [hname.ne_dot]

end Names

end Tree

end Populace.Files
