import Populace.Proofs.Files.Paths
import Populace.Sources.Cache

/-!
# The names of downloads

Both names of a download, the temporary one and its own, are plain ones in the directory
where downloads are kept, and begin with the key of the table. So no two tables have a
name in common; but the two names of one table are the same if and only if its address
ends as the temporary name does.
-/

namespace Populace.Sources

open Populace.Files

/-- The temporary name of a download. -/
def partName (dataset : Dataset) (url : String) : String :=
  Path.withExtension (cacheName dataset url) "part"

/-- What is behind the last slash of an address. -/
def lastPiece (url : String) : List Char :=
  (url.toList.reverse.takeWhile (· ≠ '/')).reverse

/-- The character as it stands in the name of a download. -/
def cleanChar (c : Char) : Char :=
  if isPlainChar c then c else '_'

theorem toList_cacheName (dataset : Dataset) (url : String) :
    (cacheName dataset url).toList = dataset.key.toList
      ++ if lastPiece url = [] then [] else '_' :: (lastPiece url).map cleanChar := by
  have hname : cacheName dataset url
      = if ((lastPiece url).map cleanChar).isEmpty then dataset.key
        else dataset.key ++ "_" ++ String.ofList ((lastPiece url).map cleanChar) := rfl
  rw [hname]
  by_cases h : lastPiece url = []
  · simp [h]
  · simp [h]

/-! ## Keys -/

theorem key_plain (dataset : Dataset) :
    '/' ∉ dataset.key.toList ∧ '.' ∉ dataset.key.toList ∧ dataset.key.toList ≠ [] := by
  cases dataset <;> decide

/-- The keys tell the tables apart however a name goes on. -/
theorem dataset_eq_of_keys {d d' : Dataset} {name : List Char}
    (h : d.key.toList <+: name) (h' : d'.key.toList <+: name) : d = d' := by
  have hboth := List.prefix_or_prefix_of_prefix h h'
  have hkeys : ∀ d d' : Dataset, d.key.toList <+: d'.key.toList → d = d' := by
    intro d d'
    cases d <;> cases d' <;> decide
  exact hboth.elim (hkeys d d') fun h => (hkeys d' d h).symm

/-! ## The two names -/

section Names

variable (dataset : Dataset) (url : String)

theorem cleanChar_ne_slash (c : Char) : cleanChar c ≠ '/' := by
  rw [cleanChar]
  split
  · rintro rfl
    simp_all [isPlainChar]
  · decide

theorem cacheName_plain : '/' ∉ (cacheName dataset url).toList := by
  rw [toList_cacheName, List.mem_append, not_or]
  refine ⟨(key_plain dataset).1, ?_⟩
  split
  · simp
  · rw [List.mem_cons, not_or]
    refine ⟨by decide, fun hmem => ?_⟩
    obtain ⟨c, -, hc⟩ := List.mem_map.1 hmem
    exact cleanChar_ne_slash c hc

theorem key_prefix_cacheName : dataset.key.toList <+: (cacheName dataset url).toList := by
  rw [toList_cacheName]
  exact List.prefix_append _ _

theorem toList_partName : (partName dataset url).toList
    = Path.stem (cacheName dataset url).toList ++ ".part".toList := by
  rw [partName, Path.withExtension_of_plain (cacheName_plain dataset url)]
  simp

theorem partName_plain : '/' ∉ (partName dataset url).toList := by
  rw [toList_partName, List.mem_append, not_or]
  refine ⟨fun hmem => cacheName_plain dataset url ?_, by decide⟩
  exact (Path.stem_isPrefix _).subset hmem

theorem key_prefix_partName : dataset.key.toList <+: (partName dataset url).toList := by
  rw [toList_partName]
  exact (Path.prefix_stem (key_prefix_cacheName dataset url) (key_plain dataset).2.1).trans
    (List.prefix_append _ _)

/-- The temporary path is that of the temporary name, in the same directory. -/
theorem partPath_cachePath (settings : Settings) :
    partPath (settings.cachePath dataset url)
      = Path.child settings.cache (partName dataset url) :=
  Path.withExtension_child settings.cache (cacheName_plain dataset url) "part"

end Names

/-- A name that begins with a key leads nowhere but to itself. -/
theorem ne_of_key_prefix {dataset : Dataset} {name : String}
    (h : dataset.key.toList <+: name.toList) : name ≠ "" ∧ name ≠ "." ∧ name ≠ ".." := by
  refine ⟨?_, ?_, ?_⟩ <;> rintro rfl <;> revert h <;> cases dataset <;> decide

/-! ## When they are the same -/

theorem cleanChar_eq {c : Char} (h : cleanChar c ≠ '_') : cleanChar c = c := by
  rw [cleanChar] at h ⊢
  split at h
  · rename_i hplain
    rw [if_pos hplain]
  · exact absurd rfl h

theorem lastPiece_suffix (url : String) : lastPiece url <:+ url.toList := by
  have h : url.toList.reverse.takeWhile (· ≠ '/') <+: url.toList.reverse :=
    List.takeWhile_prefix _
  have h' := List.reverse_suffix.2 h
  rwa [List.reverse_reverse] at h'

theorem lastPiece_append {front back : List Char} (h : '/' ∉ back) :
    lastPiece (String.ofList (front ++ back)) = lastPiece (String.ofList front) ++ back := by
  simp only [lastPiece, String.toList_ofList, List.reverse_append,
    List.takeWhile_append_of_pos (Path.ne_of_mem_reverse h), List.reverse_reverse]

/-- A name ends as the temporary one does only if the address does. -/
theorem suffix_url_of_cacheName {dataset : Dataset} {url : String}
    (h : ".part".toList <:+ (cacheName dataset url).toList) : ".part".toList <:+ url.toList := by
  rw [toList_cacheName] at h
  split at h
  · -- no key has a point in it
    rw [List.append_nil] at h
    exact absurd (h.subset (by decide : '.' ∈ ".part".toList)) (key_plain dataset).2.1
  · have hclean : ".part".toList <:+ '_' :: (lastPiece url).map cleanChar := by
      rcases List.suffix_or_suffix_of_suffix h (List.suffix_append _ _) with hs | hs
      · exact hs
      · exact absurd (hs.subset List.mem_cons_self) (by decide)
    rcases List.suffix_cons_iff.1 hclean with hs | hs
    · cases hs
    · obtain ⟨back, hback, hpart⟩ := List.suffix_map_iff.1 hs
      have hself : back.map cleanChar = back := by
        refine (List.map_congr_left fun c hc => cleanChar_eq ?_).trans (List.map_id' back)
        intro hc'
        have hmem : '_' ∈ ".part".toList := hpart ▸ List.mem_map.2 ⟨c, hc, hc'⟩
        revert hmem
        decide
      rw [hpart, hself]
      exact hback.trans (lastPiece_suffix url)

/-- The two names of a download are the same if and only if the address ends as the
temporary name does. -/
theorem partName_eq_iff (dataset : Dataset) (url : String) :
    partName dataset url = cacheName dataset url ↔ ".part".toList <:+ url.toList := by
  constructor
  · intro h
    apply suffix_url_of_cacheName
    rw [← h, toList_partName]
    exact List.suffix_append _ _
  · rintro ⟨front, hurl⟩
    have hlast : lastPiece url = lastPiece (String.ofList front) ++ ".part".toList := by
      rw [← lastPiece_append (by decide), hurl, String.ofList_toList]
    have hne : lastPiece url ≠ [] := by
      rw [hlast]
      simp
    have hname : (cacheName dataset url).toList = (dataset.key.toList
        ++ '_' :: (lastPiece (String.ofList front)).map cleanChar) ++ '.' :: "part".toList := by
      rw [toList_cacheName, if_neg hne, hlast, List.map_append]
      have hpart : ".part".toList.map cleanChar = '.' :: "part".toList := by decide
      rw [hpart]
      simp
    refine String.toList_inj.1 ?_
    rw [toList_partName, hname, Path.stem_of_point (by simp) (by decide)]
    rfl

end Populace.Sources
