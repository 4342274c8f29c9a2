import Populace.Proofs.Files.Paths

/-!
# What is above a path

A path without its last piece is a beginning of it, and has the same pieces but for the
last one and for points, which lead nowhere. All names in one directory have the same path
above them, and that leads where the directory is.
-/

namespace Populace.Files.Path

/-! ## Parts -/

/-- The pieces of a path as lists of characters. -/
def parts (cs : List Char) : List (List Char) :=
  (cut cs).filter (· ≠ [])

theorem pieces_eq (path : String) : pieces path = (parts path.toList).map String.ofList := rfl

theorem parts_append (front back : List Char) :
    parts (front ++ '/' :: back) = parts front ++ parts back := by
  rw [parts, parts, parts, cut_append, List.filter_append]

theorem parts_of_plain {cs : List Char} (hne : cs ≠ []) (h : '/' ∉ cs) : parts cs = [cs] := by
  rw [parts, cut_of_plain h]
  simp [hne]

theorem parts_slash (cs : List Char) : parts (cs ++ ['/']) = parts cs := by
  rw [parts_append]
  simp [parts, cut]

/-! ## Tails -/

theorem withoutTail_suffix (cs : List Char) : withoutTail cs <:+ cs := by
  fun_induction withoutTail cs with
  | case1 c rest ih => exact ih.trans (List.suffix_cons _ _)
  | case2 rest ih => exact ih.trans (List.suffix_cons _ _)
  | case3 cs _ _ => exact List.suffix_rfl

/-- A slash can only stand in front of a path that has lost its tail. -/
theorem withoutTail_eq_slash {cs rest : List Char} (h : withoutTail cs = '/' :: rest) :
    rest = [] := by
  fun_induction withoutTail cs with
  | case1 c rest ih => exact ih h
  | case2 rest ih => exact ih h
  | case3 cs hslash _ =>
      subst h
      cases rest with
      | nil => rfl
      | cons c rest => exact absurd rfl (hslash c rest)

theorem withoutTail_ne_nil {cs : List Char} (h : cs ≠ []) : withoutTail cs ≠ [] := by
  fun_induction withoutTail cs with
  | case1 c rest ih => exact ih (List.cons_ne_nil _ _)
  | case2 rest ih => exact ih (List.cons_ne_nil _ _)
  | case3 cs _ _ => exact h

/-- Nothing but points is lost with the tail of a path. -/
theorem parts_withoutTail (cs : List Char) :
    ∃ k, parts cs.reverse = parts (withoutTail cs).reverse ++ List.replicate k ['.'] := by
  fun_induction withoutTail cs with
  | case1 c rest ih =>
      obtain ⟨k, hk⟩ := ih
      exact ⟨k, by rw [List.reverse_cons, parts_slash, hk]⟩
  | case2 rest ih =>
      obtain ⟨k, hk⟩ := ih
      rw [List.reverse_cons, parts_slash] at hk
      refine ⟨k + 1, ?_⟩
      have hpoint : parts ['.'] = [['.']] := parts_of_plain (by simp) (by decide)
      rw [List.reverse_cons, List.reverse_cons, List.append_assoc, List.singleton_append,
        parts_append, hpoint, hk, List.replicate_succ', List.append_assoc]
  | case3 cs _ _ => exact ⟨0, by simp⟩

/-! ## Parents -/

/-- The pieces of a path without its last one, and what else they have in common. -/
structure Above (above path : String) : Prop where
  parts : ∃ k last k', last ≠ [] ∧ '/' ∉ last ∧ Path.parts path.toList
    = Path.parts above.toList ++ List.replicate k ['.'] ++ last :: List.replicate k' ['.']
  isPrefix : above.toList <+: path.toList
  isAbsolute : Path.isAbsolute above = Path.isAbsolute path

theorem parts_closed {front last : List Char} (hfront : Closed front) (hne : last ≠ [])
    (hlast : '/' ∉ last) : parts (front ++ last) = parts front ++ [last] := by
  rcases hfront with rfl | ⟨cs, rfl⟩
  · rw [List.nil_append, parts_of_plain hne hlast]
    rfl
  · rw [List.append_assoc, List.singleton_append, parts_append, parts_slash,
      parts_of_plain hne hlast]

/-- What is left of a path without its tail ends in a piece, unless it is the root. -/
theorem exists_last {cs : List Char} (hne : cs ≠ []) (hroot : cs ≠ ['/'])
    (hslash : ∀ rest, cs = '/' :: rest → rest = []) :
    ∃ last, last ≠ [] ∧ '/' ∉ last ∧ Closed (cs.dropWhile (· ≠ '/')).reverse
      ∧ cs.reverse = (cs.dropWhile (· ≠ '/')).reverse ++ last := by
  refine ⟨(cs.takeWhile (· ≠ '/')).reverse, ?_, ?_, ?_, ?_⟩
  · obtain ⟨c, rest, rfl⟩ := List.exists_cons_of_ne_nil hne
    have hc : c ≠ '/' := by
      rintro rfl
      exact hroot (by rw [hslash rest rfl])
    simp [hc]
  · rw [List.mem_reverse]
    intro hmem
    have hall := List.all_takeWhile (p := fun c => decide (c ≠ '/')) (l := cs)
    simpa using List.all_eq_true.1 hall _ hmem
  · rw [Closed]
    cases hdrop : cs.dropWhile (· ≠ '/') with
    | nil => exact .inl rfl
    | cons c rest =>
        have hhead := List.head?_dropWhile_not (p := fun c => decide (c ≠ '/')) (l := cs)
        rw [hdrop] at hhead
        have hc : c = '/' := by simpa using hhead
        exact .inr ⟨rest.reverse, by rw [hc, List.reverse_cons]⟩
  · rw [← List.reverse_append, List.takeWhile_append_dropWhile]

theorem isAbsolute_of_begins {above path : String} (h : above.toList <+: path.toList)
    (hne : above.toList ≠ []) : isAbsolute above = isAbsolute path := by
  obtain ⟨c, rest, hc⟩ := List.exists_cons_of_ne_nil hne
  obtain ⟨tail, htail⟩ := h
  rw [isAbsolute, isAbsolute, ← htail, hc]
  rfl

/-- A path that begins with a name starts where relative ones do. -/
theorem not_isAbsolute_of_plain {path : String} {name : List Char} (hne : name ≠ [])
    (hname : '/' ∉ name) (h : name <+: path.toList) : isAbsolute path = false := by
  obtain ⟨c, rest, rfl⟩ := List.exists_cons_of_ne_nil hne
  obtain ⟨tail, htail⟩ := h
  have hc : c ≠ '/' := fun hc => hname (hc ▸ List.mem_cons_self)
  rw [isAbsolute, ← htail]
  simp [hc]

theorem reverse_isPrefix {back cs : List Char} (h : back <:+ cs.reverse) : back.reverse <+: cs := by
  have hrev := List.reverse_prefix.2 h
  rwa [List.reverse_reverse] at hrev

theorem above_of_parent {path above : String} (h : parent? path = some above) :
    Above above path := by
  obtain ⟨cs, hcs⟩ : ∃ cs, withoutTail path.toList.reverse = cs := ⟨_, rfl⟩
  obtain ⟨k', htail⟩ := parts_withoutTail path.toList.reverse
  have hsuffix := withoutTail_suffix path.toList.reverse
  have hslash : ∀ rest, cs = '/' :: rest → rest = [] :=
    fun rest hrest => withoutTail_eq_slash (hcs.trans hrest)
  rw [List.reverse_reverse, hcs] at htail
  rw [hcs] at hsuffix
  rw [parent?, hcs] at h
  split at h
  · cases h
  · cases h
  · rename_i hne hroot
    cases h
    obtain ⟨last, hlast, hplain, hclosed, hsplit⟩ := exists_last hne hroot hslash
    obtain ⟨k, hk⟩ := parts_withoutTail (cs.dropWhile (· ≠ '/'))
    have hprefix : (withoutTail (cs.dropWhile (· ≠ '/'))).reverse <+: path.toList :=
      reverse_isPrefix ((withoutTail_suffix _).trans ((List.dropWhile_suffix _).trans hsuffix))
    refine ⟨⟨k, last, k', hlast, hplain, ?_⟩, by rwa [String.toList_ofList], ?_⟩
    · rw [htail, hsplit, parts_closed hclosed hlast hplain, hk, String.toList_ofList]
      simp
    · by_cases hnil : (withoutTail (cs.dropWhile (· ≠ '/'))).reverse = []
      · -- without a slash the path begins with its last piece
        have hdrop : cs.dropWhile (· ≠ '/') = [] := by
          refine Classical.byContradiction fun hdrop => ?_
          exact withoutTail_ne_nil hdrop (List.reverse_eq_nil_iff.1 hnil)
        rw [hdrop, List.reverse_nil, List.nil_append] at hsplit
        have hlead : last <+: path.toList := hsplit ▸ reverse_isPrefix hsuffix
        rw [hnil, not_isAbsolute_of_plain hlast hplain hlead]
        rfl
      · exact isAbsolute_of_begins (by rwa [String.toList_ofList]) (by rwa [String.toList_ofList])

theorem Above.pieces_eq_append {above path : String} (h : Above above path) :
    ∃ way, way ≠ [] ∧ pieces path = pieces above ++ way := by
  obtain ⟨k, last, k', -, -, hparts⟩ := h.parts
  refine ⟨List.replicate k "." ++ String.ofList last :: List.replicate k' ".", by simp, ?_⟩
  rw [pieces_eq path, hparts, pieces_eq above]
  simp

/-! ## The path above a name -/

/-- The path of a directory as it stands above the names in it. -/
def tidy (directory : String) : String :=
  String.ofList (withoutTail (folder directory).toList.reverse).reverse

section Tidy

variable (directory : String)

/-- A path that ends in a name, and not in a point that stands alone, has no tail. -/
theorem withoutTail_of_head {c : Char} {rest : List Char} (hc : c ≠ '/')
    (hrest : c = '.' → rest.head? ≠ some '/') : withoutTail (c :: rest) = c :: rest := by
  rw [withoutTail.eq_def]
  split
  · rename_i heq
    exact absurd (List.cons.inj heq).1 hc
  · rename_i heq
    obtain ⟨rfl, rfl⟩ := List.cons.inj heq
    exact absurd rfl (hrest rfl)
  · rfl

theorem withoutTail_of_plain {front name : List Char} (hne : name ≠ []) (hname : '/' ∉ name)
    (hdot : name ≠ ['.']) : withoutTail (front ++ name).reverse = (front ++ name).reverse := by
  obtain ⟨c, back, hback⟩ := List.exists_cons_of_ne_nil (mt List.reverse_eq_nil_iff.1 hne)
  have hmem : ∀ d ∈ c :: back, d ≠ '/' := by
    rintro d hd rfl
    rw [← hback, List.mem_reverse] at hd
    exact hname hd
  rw [List.reverse_append, hback, List.cons_append]
  refine withoutTail_of_head (hmem c List.mem_cons_self) fun hc hhead => ?_
  cases back with
  | nil => exact hdot (by simpa [hc] using congrArg List.reverse hback)
  | cons d back => exact hmem d (by simp) (by simpa using hhead)

variable (directory : String)

/-- All names in a directory have the same path above them. -/
theorem parent_child {name : String} (hne : name ≠ "") (hname : '/' ∉ name.toList)
    (hdot : name ≠ ".") : parent? (child directory name) = some (tidy directory) := by
  have hne' : name.toList ≠ [] := by simpa using hne
  have hdot' : name.toList ≠ ['.'] := fun h => hdot (String.toList_inj.1 h)
  rw [parent?, child_eq, String.toList_append, withoutTail_of_plain hne' hname hdot']
  split
  · rename_i hnil
    simp [hne] at hnil
  · rename_i hslash
    have htake := takeWhile_of_closed (closed_folder directory) hname
    rw [hslash] at htake
    exact absurd (by simpa using htake.symm) hne
  · rw [dropWhile_of_closed (closed_folder directory) hname]
    rfl

theorem folder_begins_child (name : String) :
    (folder directory).toList <+: (child directory name).toList := by
  rw [child_eq, String.toList_append]
  exact List.prefix_append _ _

theorem toList_tidy : (tidy directory).toList
    = (withoutTail (folder directory).toList.reverse).reverse := String.toList_ofList

theorem tidy_begins_folder : (tidy directory).toList <+: (folder directory).toList := by
  rw [toList_tidy]
  exact reverse_isPrefix (withoutTail_suffix _)

theorem begins_folder : directory.toList <+: (folder directory).toList := by
  rw [folder]
  split
  · exact List.prefix_rfl
  · rw [String.toList_append]
    exact List.prefix_append _ _

theorem eq_empty_of_tidy (h : tidy directory = "") : directory = "" := by
  have hnil : (withoutTail (folder directory).toList.reverse).reverse = [] := by
    rw [← toList_tidy, h]
    rfl
  have hfolder : (folder directory).toList = [] := by
    refine Classical.byContradiction fun hne => ?_
    exact withoutTail_ne_nil (mt List.reverse_eq_nil_iff.1 hne) (List.reverse_eq_nil_iff.1 hnil)
  have hpre := begins_folder directory
  rw [hfolder, List.prefix_nil] at hpre
  simpa using hpre

theorem isAbsolute_folder : isAbsolute (folder directory) = isAbsolute directory := by
  by_cases hnil : directory = ""
  · rw [hnil]
    rfl
  · exact (isAbsolute_of_begins (begins_folder directory) (by simpa using hnil)).symm

theorem isAbsolute_tidy : isAbsolute (tidy directory) = isAbsolute directory := by
  by_cases hnil : tidy directory = ""
  · rw [hnil, eq_empty_of_tidy directory hnil]
  · rw [isAbsolute_of_begins (tidy_begins_folder directory) (by simpa using hnil),
      isAbsolute_folder]

theorem isAbsolute_child {name : String} (hne : name ≠ "") (hname : '/' ∉ name.toList) :
    isAbsolute (child directory name) = isAbsolute directory := by
  by_cases hnil : directory = ""
  · have hchild : child "" name = name := by simp [child]
    rw [hnil, hchild, not_isAbsolute_of_plain (by simpa using hne) hname List.prefix_rfl]
    rfl
  · have hpre := (begins_folder directory).trans (folder_begins_child directory name)
    exact (isAbsolute_of_begins hpre (by simpa using hnil)).symm

/-- It leads where the path of the directory leads. -/
theorem pieces_tidy : ∃ k, pieces directory = pieces (tidy directory) ++ List.replicate k "." := by
  obtain ⟨k, hk⟩ := parts_withoutTail (folder directory).toList.reverse
  rw [List.reverse_reverse, ← toList_tidy] at hk
  refine ⟨k, ?_⟩
  rw [← pieces_folder, pieces_eq, pieces_eq, hk, List.map_append, List.map_replicate]

end Tidy

end Populace.Files.Path
