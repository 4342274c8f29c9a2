import Populace.Proofs.Files.Growth

/-!
# Names in directories

The path of a name in a directory leads to that name wherever the directory is, and
another extension changes nothing but the name. Two places that have an entry in common
end in the same name.
-/

namespace Populace.Files

namespace Path

/-! ## Pieces -/

theorem cut_cons (c : Char) (cs : List Char) :
    ∃ piece pieces, cut cs = piece :: pieces
      ∧ cut (c :: cs) = if c = '/' then [] :: cut cs else (c :: piece) :: pieces := by
  have hne : cut cs ≠ [] := by
    cases cs with
    | nil => simp [cut]
    | cons d ds =>
        rw [cut]
        split
        · simp
        · split <;> simp
  obtain ⟨piece, pieces, hcut⟩ := List.exists_cons_of_ne_nil hne
  exact ⟨piece, pieces, hcut, by rw [cut, hcut]⟩

theorem cut_append (front back : List Char) :
    cut (front ++ '/' :: back) = cut front ++ cut back := by
  induction front with
  | nil => simp [cut]
  | cons c front ih =>
      obtain ⟨piece, pieces, hcut, hcons⟩ := cut_cons c front
      obtain ⟨piece', pieces', hcut', hcons'⟩ := cut_cons c (front ++ '/' :: back)
      rw [ih, hcut, List.cons_append, List.cons.injEq] at hcut'
      obtain ⟨rfl, rfl⟩ := hcut'
      rw [List.cons_append, hcons, hcons', ih]
      split <;> simp

theorem cut_of_plain {cs : List Char} (h : '/' ∉ cs) : cut cs = [cs] := by
  induction cs with
  | nil => rfl
  | cons c cs ih =>
      rw [List.mem_cons, not_or] at h
      rw [cut, if_neg (Ne.symm h.1), ih h.2]

/-! ## Folders -/

/-- What stands in front of a name in the path of the name in a directory. -/
def folder (directory : String) : String :=
  if directory.isEmpty || endsInSlash directory then directory else directory ++ "/"

theorem child_eq (directory name : String) : child directory name = folder directory ++ name := by
  rw [child, folder]
  split
  · rfl
  · rfl

/-- A text in front of a name that is no part of the name. -/
def Closed (front : List Char) : Prop :=
  front = [] ∨ ∃ cs, front = cs ++ ['/']

theorem closed_folder (directory : String) : Closed (folder directory).toList := by
  rw [folder]
  split
  · rename_i h
    rw [Bool.or_eq_true] at h
    rcases h with h | h
    · exact .inl (by simpa using h)
    · exact .inr (List.getLast?_eq_some_iff.1 (by simpa [endsInSlash] using h))
  · exact .inr ⟨directory.toList, by simp⟩

/-- None of these characters is the mark, from the back on. -/
theorem ne_of_mem_reverse {mark : Char} {cs : List Char} (h : mark ∉ cs) :
    ∀ c ∈ cs.reverse, (decide (c ≠ mark)) = true := by
  intro c hc
  rw [List.mem_reverse] at hc
  exact decide_eq_true fun heq => h (heq ▸ hc)

section Names

variable {front name : List Char}

theorem takeWhile_of_closed (hfront : Closed front) (hname : '/' ∉ name) :
    (front ++ name).reverse.takeWhile (· ≠ '/') = name.reverse := by
  rw [List.reverse_append, List.takeWhile_append_of_pos (ne_of_mem_reverse hname)]
  rcases hfront with rfl | ⟨cs, rfl⟩ <;> simp

theorem dropWhile_of_closed (hfront : Closed front) (hname : '/' ∉ name) :
    (front ++ name).reverse.dropWhile (· ≠ '/') = front.reverse := by
  rw [List.reverse_append, List.dropWhile_append_of_pos (ne_of_mem_reverse hname)]
  rcases hfront with rfl | ⟨cs, rfl⟩ <;> simp

/-- The name behind a closed text can be told from the whole. -/
theorem name_eq_of_closed {front' name' : List Char} (hfront : Closed front)
    (hfront' : Closed front') (hname : '/' ∉ name) (hname' : '/' ∉ name')
    (h : front ++ name = front' ++ name') : name = name' := by
  have htake := takeWhile_of_closed hfront hname
  rw [h, takeWhile_of_closed hfront' hname'] at htake
  exact (List.reverse_inj.1 htake).symm

end Names

/-- A path that ends in a slash has no piece behind it. -/
theorem pieces_folder (directory : String) : pieces (folder directory) = pieces directory := by
  rw [folder]
  split
  · rfl
  · rw [pieces, pieces, String.toList_append]
    have hslash : "/".toList = '/' :: [] := rfl
    simp [hslash, cut_append, cut]

/-- The pieces of a path in a directory are those of the directory, and the name. -/
theorem pieces_child (directory : String) {name : String} (hne : name ≠ "")
    (hname : '/' ∉ name.toList) : pieces (child directory name) = pieces directory ++ [name] := by
  have hne' : name.toList ≠ [] := by simpa using hne
  rw [child_eq, ← pieces_folder directory, pieces, pieces, String.toList_append]
  rcases closed_folder directory with h | ⟨cs, h⟩
  · rw [h]
    simp [cut_of_plain hname, hne', cut]
  · rw [h, List.append_assoc, List.singleton_append, cut_append, cut_append,
      cut_of_plain hname]
    simp [hne', cut]

/-! ## Extensions -/

/-- The name without its extension. -/
def stem (name : List Char) : List Char :=
  (withoutExtension name.reverse).reverse

theorem withExtension_of_closed {front name : List Char} (hfront : Closed front)
    (hname : '/' ∉ name) (extension : String) :
    withExtension (String.ofList (front ++ name)) extension
      = String.ofList front ++ (String.ofList (stem name) ++ "." ++ extension) := by
  rw [withExtension]
  simp only [String.toList_ofList, takeWhile_of_closed hfront hname,
    dropWhile_of_closed hfront hname, stem]
  simp [String.append_assoc]

theorem withExtension_of_plain {name : String} (hname : '/' ∉ name.toList) (extension : String) :
    withExtension name extension
      = String.ofList (stem name.toList) ++ "." ++ extension := by
  have h := withExtension_of_closed (.inl rfl) hname extension
  simpa using h

/-- Only the name in a path gets the extension. -/
theorem withExtension_child (directory : String) {name : String} (hname : '/' ∉ name.toList)
    (extension : String) :
    withExtension (child directory name) extension
      = child directory (withExtension name extension) := by
  have hchild : child directory name
      = String.ofList ((folder directory).toList ++ name.toList) := by
    rw [child_eq]
    simp
  rw [hchild, withExtension_of_closed (closed_folder directory) hname,
    withExtension_of_plain hname, child_eq, String.ofList_toList]

/-- A name is cut off at its last point, unless there is none but in front. -/
theorem stem_cases (name : List Char) :
    stem name = name ∨ ∃ extension, name = stem name ++ '.' :: extension := by
  rw [stem, withoutExtension]
  split
  · rename_i c rest hdrop
    have hsplit := List.takeWhile_append_dropWhile (p := (· ≠ '.')) (l := name.reverse)
    rw [hdrop] at hsplit
    refine .inr ⟨(name.reverse.takeWhile (· ≠ '.')).reverse, ?_⟩
    have hname := congrArg List.reverse hsplit
    rw [List.reverse_reverse] at hname
    simpa using hname.symm
  · exact .inl (List.reverse_reverse name)

theorem stem_of_point {front extension : List Char} (hfront : front ≠ [])
    (hextension : '.' ∉ extension) : stem (front ++ '.' :: extension) = front := by
  obtain ⟨c, rest, hreverse⟩ :=
    List.exists_cons_of_ne_nil (mt List.reverse_eq_nil_iff.1 hfront)
  have hdrop : (front ++ '.' :: extension).reverse.dropWhile (· ≠ '.') = '.' :: c :: rest := by
    rw [List.reverse_append, List.reverse_cons, List.append_assoc,
      List.dropWhile_append_of_pos (ne_of_mem_reverse hextension), hreverse]
    simp
  rw [stem, withoutExtension, hdrop]
  change (c :: rest).reverse = front
  rw [← hreverse, List.reverse_reverse]

theorem stem_isPrefix (name : List Char) : stem name <+: name := by
  rcases stem_cases name with h | ⟨extension, h⟩
  · exact ⟨[], by rw [List.append_nil, h]⟩
  · exact ⟨_, h.symm⟩

/-- What a name begins with is still there without the extension, if there is no point
in it. -/
theorem prefix_stem {front name : List Char} (hfront : front <+: name) (hpoint : '.' ∉ front) :
    front <+: stem name := by
  rcases stem_cases name with h | ⟨extension, h⟩
  · rwa [h]
  · rw [h] at hfront
    rcases List.prefix_or_prefix_of_prefix hfront (List.prefix_append _ _) with hp | ⟨rest, rfl⟩
    · exact hp
    · -- what is behind the stem would begin with the point
      cases rest with
      | nil => simp
      | cons c rest =>
          have hc := (List.prefix_append_right_inj _).1 hfront
          rw [List.cons_prefix_cons] at hc
          exact absurd (by simp [hc.1]) hpoint

end Path

/-! ## Places of names -/

namespace Tree

theorem follow_append (t : Tree) (start : List String) (front back : List String) :
    t.follow start (front ++ back) = (t.follow start front).bind (t.follow · back) := by
  induction front generalizing start with
  | nil => rfl
  | cons piece front ih =>
      rw [List.cons_append, follow, follow]
      cases t.node? start with
      | none => rfl
      | some node =>
          cases node with
          | file c => rfl
          | directory =>
              cases enter start piece with
              | error e => rfl
              | ok next => exact ih next

/-- A path that ends in a plain name leads to a place of that name. -/
theorem locate_child {t : Tree} {directory name : String} {place : List String}
    (hne : name ≠ "") (hname : '/' ∉ name.toList) (hdot : name ≠ ".") (hdots : name ≠ "..")
    (h : t.locate (Path.child directory name) = .ok place) : ∃ above, place = above ++ [name] := by
  obtain ⟨-, hfollow⟩ := locate_eq_ok_iff.1 h
  rw [Path.pieces_child directory hne hname, follow_append] at hfollow
  cases habove : t.follow (t.startOf (Path.child directory name)) (Path.pieces directory) with
  | error e =>
      rw [habove] at hfollow
      cases hfollow
  | ok above =>
      rw [habove] at hfollow
      refine ⟨above, ?_⟩
      have henter : enter above name = .ok place := by
        simp only [Except.bind, follow] at hfollow
        split at hfollow
        · cases hfollow
        · cases hfollow
        · cases hname : enter above name with
          | error e => simp [hname, bind, Except.bind] at hfollow
          | ok next => simpa [hname, bind, Except.bind] using hfollow
      rw [enter, if_neg hdot, if_neg hdots] at henter
      split at henter
      · cases henter
      · exact (Except.ok.inj henter).symm

/-- Places with one entry end in the same name. -/
theorem name_eq_of_keyOf {above above' : List String} {name name' : String}
    (hname : '/' ∉ name.toList) (hname' : '/' ∉ name'.toList)
    (h : keyOf (above ++ [name]) = keyOf (above' ++ [name'])) : name = name' := by
  have hkey : ∀ (above : List String) (name : String), ∃ front, Path.Closed front
      ∧ (keyOf (above ++ [name])).toList = front ++ name.toList := by
    intro above name
    by_cases hnil : above = []
    · exact ⟨[], .inl rfl, by simp [hnil, keyOf]⟩
    · refine ⟨(keyOf above).toList ++ ['/'], .inr ⟨_, rfl⟩, ?_⟩
      rw [keyOf, String.intercalate_append_of_ne_nil hnil (List.cons_ne_nil _ _)]
      simp [keyOf]
  obtain ⟨front, hfront, heq⟩ := hkey above name
  obtain ⟨front', hfront', heq'⟩ := hkey above' name'
  rw [h, heq'] at heq
  exact String.toList_inj.1 (Path.name_eq_of_closed hfront hfront' hname hname' heq.symm)

end Tree

end Populace.Files
