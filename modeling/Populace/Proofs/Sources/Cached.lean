import Mathlib
import Populace.Proofs.Sources.DownloadNames
import Populace.Proofs.Sources.Downloads

/-!
# What is in the cache

Tables are opened one after the other, and the web may answer otherwise each time. Every
file that was not there before then stands at one of the two paths of a download, and
holds what an answer has brought (`Downloaded`). The path of a complete download holds a
body that has not arrived as a whole only if its address ends as the temporary name does.
-/

namespace Populace.Sources

open Populace.Files (Node Tree)

/-- Opens tables one after the other, each with what the web says by then. -/
def openAll (settings : Settings) : List (Web × Dataset) → Tree → Tree
  | [], t => t
  | (web, dataset) :: rest, t =>
    openAll settings rest (cachingFetcher settings web dataset t).state

/-- Where in the tree a download has put a file, and what the file holds. -/
inductive Downloaded (settings : Settings) (opens : List (Web × Dataset)) (t : Tree) :
    List String → ByteArray → Prop where
  /-- Under the temporary name stands what has arrived. -/
  | arrived {web dataset url body sent place} :
    (web, dataset) ∈ opens → settings.source dataset = .url url → web.Answers url body sent →
      t.locate (partPath (settings.cachePath dataset url)) = .ok place →
      Downloaded settings opens t place (arrivedBytes body sent)
  /-- Under its own name stands all of it. -/
  | complete {web dataset url body sent place} :
    (web, dataset) ∈ opens → settings.source dataset = .url url → web.Answers url body sent →
      ¬ arrived body sent < body.size →
      t.locate (settings.cachePath dataset url) = .ok place →
      Downloaded settings opens t place body

theorem Downloaded.mono {settings : Settings} {opens opens' : List (Web × Dataset)}
    {t u : Tree} {place : List String} {c : ByteArray} (hopens : opens ⊆ opens')
    (hgrows : t.Grows u) (h : Downloaded settings opens t place c) :
    Downloaded settings opens' u place c := by
  cases h with
  | arrived hmem hsource hanswers hlocate =>
      exact .arrived (hopens hmem) hsource hanswers (Tree.locate_of_grows hgrows hlocate)
  | complete hmem hsource hanswers hcomplete hlocate =>
      exact .complete (hopens hmem) hsource hanswers hcomplete
        (Tree.locate_of_grows hgrows hlocate)

/-- Every file of the one tree is in the other or was downloaded to the entry of its place. -/
def Accounted (settings : Settings) (opens : List (Web × Dataset)) (t u : Tree) : Prop :=
  ∀ place c, u.node? place = some (.file c) → t.node? place = some (.file c)
    ∨ ∃ place', Tree.keyOf place = Tree.keyOf place' ∧ Downloaded settings opens u place' c

section Steps

variable {settings : Settings} {web : Web} {dataset : Dataset} {t u : Tree}

/-- Opening one table makes the tree grow, and every new file was downloaded. -/
theorem accounted_of_fetched (h : Fetched settings web dataset t u) :
    t.Grows u ∧ Accounted settings [(web, dataset)] t u := by
  cases h with
  | kept hu => exact ⟨hu.toGrows, fun place c hc => .inl ((hu.files place c).1 hc)⟩
  | @begun url body sent v part ha hv hpart =>
      have hplace := Tree.placeForFile_eq_ok_iff.1 hpart
      have hgrows := Tree.grows_put_file hplace.2.2 (arrivedBytes body sent)
      refine ⟨hv.toGrows.trans hgrows, fun place c hc => ?_⟩
      rcases Tree.file_of_put hc with ⟨hkey, rfl⟩ | hold
      · exact .inr ⟨part, hkey, .arrived List.mem_cons_self ha.source ha.reply
          (Tree.locate_of_grows hgrows hplace.2.1)⟩
      · exact .inl ((hv.files place c).1 hold)
  | @landed url body sent v part place ha hv hpart hcomplete hown =>
      have hplace := Tree.placeForFile_eq_ok_iff.1 hpart
      have hplace' := Tree.placeForFile_eq_ok_iff.1 hown
      have hput := Tree.grows_put_file hplace.2.2 body
      have hmove := Tree.grows_move_file (Tree.placeForFile_eq_ok_iff.1
        (Tree.placeForFile_put hpart hpart body)).2.2 hplace'.2.2 body
      refine ⟨hv.toGrows.trans (hput.trans hmove), fun names c hc => ?_⟩
      rcases Tree.file_of_put hc with ⟨hkey, rfl⟩ | hold
      · exact .inr ⟨place, hkey, .complete List.mem_cons_self ha.source ha.reply hcomplete
          (Tree.locate_of_grows hmove hplace'.2.1)⟩
      · -- the temporary file is gone
        obtain ⟨hother, hold⟩ := Tree.file_of_remove hold
        rcases Tree.file_of_put hold with ⟨hkey, -⟩ | hold
        · exact absurd hkey hother
        · exact .inl ((hv.files names c).1 hold)

/-- However many tables are opened, every file that is new was downloaded. -/
theorem accounted_openAll (settings : Settings) (opens : List (Web × Dataset)) (t : Tree) :
    t.Grows (openAll settings opens t)
      ∧ Accounted settings opens t (openAll settings opens t) := by
  induction opens generalizing t with
  | nil => exact ⟨.refl t, fun place c hc => .inl hc⟩
  | cons entry rest ih =>
      obtain ⟨web, dataset⟩ := entry
      obtain ⟨hgrows, haccounted⟩ :=
        accounted_of_fetched (fetched_cachingFetcher settings web dataset t)
      obtain ⟨hgrows', haccounted'⟩ := ih (cachingFetcher settings web dataset t).state
      rw [openAll]
      -- what the first table has brought is still where its path leads
      refine ⟨hgrows.trans hgrows', fun place c hc => ?_⟩
      rcases haccounted' place c hc with hold | ⟨place', hkey, hdown⟩
      · rcases haccounted place c hold with hold | ⟨place', hkey, hdown⟩
        · exact .inl hold
        · exact .inr ⟨place', hkey, hdown.mono (by simp) hgrows'⟩
      · exact .inr ⟨place', hkey, hdown.mono (List.subset_cons_self _ _) (.refl _)⟩

end Steps

/-! ## The paths of downloads -/

section Paths

variable {settings : Settings} {dataset dataset' : Dataset} {t : Tree} {url url' : String}
  {place place' : List String}

theorem locate_cachePath (h : t.locate (settings.cachePath dataset url) = .ok place) :
    ∃ above, place = above ++ [cacheName dataset url] := by
  obtain ⟨hne, hdot, hdots⟩ := ne_of_key_prefix (key_prefix_cacheName dataset url)
  exact Tree.locate_child hne (cacheName_plain dataset url) hdot hdots h

theorem locate_partPath (h : t.locate (partPath (settings.cachePath dataset url)) = .ok place) :
    ∃ above, place = above ++ [partName dataset url] := by
  rw [partPath_cachePath] at h
  obtain ⟨hne, hdot, hdots⟩ := ne_of_key_prefix (key_prefix_partName dataset url)
  exact Tree.locate_child hne (partName_plain dataset url) hdot hdots h

/-- Two downloads with a place in common are of one table. -/
theorem dataset_eq_of_own (h : t.locate (settings.cachePath dataset url) = .ok place)
    (h' : t.locate (settings.cachePath dataset' url') = .ok place')
    (hkey : Tree.keyOf place = Tree.keyOf place') : dataset = dataset' := by
  obtain ⟨above, rfl⟩ := locate_cachePath h
  obtain ⟨above', rfl⟩ := locate_cachePath h'
  have hname : cacheName dataset url = cacheName dataset' url' :=
    Tree.name_eq_of_keyOf (cacheName_plain _ _) (cacheName_plain _ _) hkey
  refine dataset_eq_of_keys (key_prefix_cacheName dataset url) ?_
  rw [hname]
  exact key_prefix_cacheName dataset' url'

/-- A download stands where a temporary file does only if both are of one table, and the
two names are the same. -/
theorem name_eq_of_part (h : t.locate (settings.cachePath dataset url) = .ok place)
    (h' : t.locate (partPath (settings.cachePath dataset' url')) = .ok place')
    (hkey : Tree.keyOf place = Tree.keyOf place') :
    dataset = dataset' ∧ partName dataset' url' = cacheName dataset url := by
  obtain ⟨above, rfl⟩ := locate_cachePath h
  obtain ⟨above', rfl⟩ := locate_partPath h'
  have hname : cacheName dataset url = partName dataset' url' :=
    Tree.name_eq_of_keyOf (cacheName_plain _ _) (partName_plain _ _) hkey
  refine ⟨dataset_eq_of_keys (key_prefix_cacheName dataset url) ?_, hname.symm⟩
  rw [hname]
  exact key_prefix_partName dataset' url'

/-- What was downloaded to the path of a table came from the table's address, and is
complete unless the address ends as the temporary name does. -/
theorem complete_of_downloaded {opens : List (Web × Dataset)} {c : ByteArray}
    (hsource : settings.source dataset = .url url)
    (hlocate : t.locate (settings.cachePath dataset url) = .ok place)
    (hkey : Tree.keyOf place = Tree.keyOf place') (h : Downloaded settings opens t place' c) :
    ∃ web body sent, (web, dataset) ∈ opens ∧ web.Answers url body sent
      ∧ c = arrivedBytes body sent ∧ (c = body ∨ ".part".toList <:+ url.toList) := by
  cases h with
  | @arrived web dataset' url' body sent _ hmem hsource' hanswers hlocate' =>
      obtain ⟨rfl, hname⟩ := name_eq_of_part hlocate hlocate' hkey
      rw [hsource] at hsource'
      cases hsource'
      exact ⟨web, body, sent, hmem, hanswers, rfl, .inr ((partName_eq_iff dataset url).1 hname)⟩
  | @complete web dataset' url' _ sent _ hmem hsource' hanswers hcomplete hlocate' =>
      obtain rfl := dataset_eq_of_own hlocate hlocate' hkey
      rw [hsource] at hsource'
      cases hsource'
      exact ⟨web, c, sent, hmem, hanswers, (arrivedBytes_of_complete hcomplete).symm, .inl rfl⟩

end Paths

/-! ## What lands -/

section Landing

variable {settings : Settings} {web : Web} {dataset : Dataset} {url : String} {t u : Tree}
  {body : ByteArray} {sent : Option Nat}

/-- An answer that can be stored is what the path of the download then holds, if it is
complete or the address ends as the temporary name does. -/
theorem contents_store {path : String} {part place : List String} (s : Shelf)
    (hpart : s.tree.placeForFile (partPath path) = .ok part)
    (hown : s.tree.placeForFile path = .ok place)
    (hlands : ¬ arrived body sent < body.size ∨ partPath path = path) :
    (stateBehind (store url path body sent s)).tree.contents path
      = .ok (arrivedBytes body sent) := by
  rw [tree_store, hpart]
  dsimp only
  split
  · rename_i hbroken
    -- the temporary file is not moved, but its path is the one that is looked at
    have hsame : partPath path = path := hlands.resolve_left (absurd hbroken)
    rw [hsame] at hpart
    exact Tree.contents_of_node (Tree.placeForFile_put hpart hpart _)
      (Tree.node?_put_self (Tree.ne_nil_of_placeForFile hpart) _)
  · rename_i hcomplete
    have hput := Tree.placeForFile_put hown hpart body
    rw [hput, arrivedBytes_of_complete hcomplete]
    exact Tree.contents_move (Tree.placeForFile_eq_ok_iff.1
      (Tree.placeForFile_put hpart hpart body)).2.2 hput body

/-- The same with the directories made first. -/
theorem contents_fetched {directory : String} {part place : List String}
    (hsource : settings.source dataset = .url url)
    (hmissing : t.exists? (settings.cachePath dataset url) = false)
    (hanswers : web.Answers url body sent)
    (hparent : Files.Path.parent? (settings.cachePath dataset url) = some directory)
    (hmake : Tree.createDirectories directory t = .ok () u)
    (hpart : u.placeForFile (partPath (settings.cachePath dataset url)) = .ok part)
    (hown : u.placeForFile (settings.cachePath dataset url) = .ok place)
    (hlands : ¬ arrived body sent < body.size
      ∨ partPath (settings.cachePath dataset url) = settings.cachePath dataset url) :
    (cachingFetcher settings web dataset t).state.contents (settings.cachePath dataset url)
      = .ok (arrivedBytes body sent) := by
  obtain ⟨status, hreply, hstatus⟩ := hanswers
  have hdirectories : Shelf.makeDirectories directory ⟨t, []⟩ = .ok () ⟨u, []⟩ := by
    simp only [Shelf.makeDirectories, hmake]
  have hmiss : (⟨t, []⟩ : Shelf).tree.exists? (settings.cachePath dataset url) = false := hmissing
  rw [state_cachingFetcher, behind_openTable hsource, download_of_missing hmiss, hparent]
  dsimp only
  rw [bind_of_ok hdirectories, request, bind_of_ok (Shelf.run_tell _ _), hreply]
  dsimp only
  rw [if_neg (by simp [hstatus])]
  exact contents_store _ hpart hown hlands

end Landing

/-- **What is in the cache.** However often tables are opened and whatever the web answers,
every new file at the path of a download holds what has arrived of an answer for the
address of its table, one without an error status, and that is all of it unless the
address ends as the temporary name does. Such an answer does land there if its file can be
made: a complete one always, and with such an address also one that has broken off. From
then on it is what the table is read from. -/
theorem cached_file_complete_unless_part (settings : Settings) :
    (∀ (opens : List (Web × Dataset)) (t : Tree) (dataset : Dataset) (url : String)
        (place : List String) (c : ByteArray),
      settings.source dataset = .url url →
      (openAll settings opens t).locate (settings.cachePath dataset url) = .ok place →
      (openAll settings opens t).node? place = some (.file c) →
      t.node? place ≠ some (.file c) →
      ∃ web body sent, (web, dataset) ∈ opens ∧ web.Answers url body sent
        ∧ c = arrivedBytes body sent ∧ (c = body ∨ ".part".toList <:+ url.toList))
      ∧ ∀ (web : Web) (dataset : Dataset) (url : String) (body : ByteArray) (sent : Option Nat)
          (t u : Tree) (directory : String) (part place : List String),
        settings.source dataset = .url url → web.Answers url body sent →
        (¬ arrived body sent < body.size ∨ ".part".toList <:+ url.toList) →
        t.exists? (settings.cachePath dataset url) = false →
        Files.Path.parent? (settings.cachePath dataset url) = some directory →
        Tree.createDirectories directory t = .ok () u →
        u.placeForFile (partPath (settings.cachePath dataset url)) = .ok part →
        u.placeForFile (settings.cachePath dataset url) = .ok place →
        (cachingFetcher settings web dataset t).state.contents (settings.cachePath dataset url)
            = .ok (arrivedBytes body sent)
          ∧ ∀ later : Web,
            (cachingFetcher settings later dataset
              (cachingFetcher settings web dataset t).state).result
              = .ok (.whole (arrivedBytes body sent).data.toList) := by
  constructor
  · intro opens t dataset url place c hsource hlocate hnode hnew
    rcases (accounted_openAll settings opens t).2 place c hnode with hold | ⟨place', hkey, hdown⟩
    · exact absurd hold hnew
    · exact complete_of_downloaded hsource hlocate hkey hdown
  · intro web dataset url body sent t u directory part place hsource hanswers hlands hmissing
      hparent hmake hpart hown
    have hsame : ".part".toList <:+ url.toList →
        partPath (settings.cachePath dataset url) = settings.cachePath dataset url := by
      intro hurl
      rw [partPath_cachePath, (partName_eq_iff dataset url).2 hurl]
      rfl
    have hcontents := contents_fetched hsource hmissing hanswers hparent hmake hpart hown
      (hlands.imp_right hsame)
    exact ⟨hcontents, fun later => result_of_contents hsource hcontents later⟩

/-- All tables are at one address, which ends as a temporary name does. -/
def onePart : Settings where
  cache := "c"
  source _ := .url "http://x.test/a.part"

/-- Only the first of two rows arrives, with a status that tells of no error. -/
def halfWeb : Web :=
  fun _ => .reply 300 "1\tAndoria\t5\n2\tBetazed\t7\n".toUTF8 (some 12)

/-- Half of a table lands in the cache, and is the table whatever the web says later. -/
theorem cached_file_complete_unless_part_half :
    ∃ t, t = openAll onePart [(halfWeb, .areas)] (Tree.empty ["home"])
      ∧ t.contents "c/areas_a.part" = .ok "1\tAndoria\t5\n".toUTF8
      ∧ (∀ later : Web, (cachingFetcher onePart later .areas t).result
        = .ok (.whole "1\tAndoria\t5\n".toUTF8.data.toList))
      ∧ ∃ web body sent, (web, Dataset.areas) ∈ [(halfWeb, Dataset.areas)]
        ∧ web.Answers "http://x.test/a.part" body sent
        ∧ "1\tAndoria\t5\n".toUTF8 = arrivedBytes body sent := by
  have hpath : onePart.cachePath .areas "http://x.test/a.part" = "c/areas_a.part" := by
    decide +kernel
  have hbytes : arrivedBytes "1\tAndoria\t5\n2\tBetazed\t7\n".toUTF8 (some 12)
      = "1\tAndoria\t5\n".toUTF8 := by decide +kernel
  have hmake : value? (Tree.createDirectories "c" (Tree.empty ["home"])) = some () := by
    decide +kernel
  have hplace : (stateBehind (Tree.createDirectories "c" (Tree.empty ["home"]))).placeForFile
      "c/areas_a.part" = .ok ["home", "c", "areas_a.part"] := by decide +kernel
  have hpart : partPath "c/areas_a.part" = "c/areas_a.part" := by decide +kernel
  have hlocate : (openAll onePart [(halfWeb, .areas)] (Tree.empty ["home"])).locate
      "c/areas_a.part" = .ok ["home", "c", "areas_a.part"] := by decide +kernel
  have hnew : ((Tree.empty ["home"]).node? ["home", "c", "areas_a.part"]).isNone := by
    decide +kernel
  obtain ⟨hcomplete, hlands⟩ := cached_file_complete_unless_part onePart
  obtain ⟨u, hmake⟩ := eq_ok_of_value hmake
  rw [hmake] at hplace
  have hhalf := hlands halfWeb .areas "http://x.test/a.part"
    "1\tAndoria\t5\n2\tBetazed\t7\n".toUTF8 (some 12) (Tree.empty ["home"]) u "c"
    ["home", "c", "areas_a.part"] ["home", "c", "areas_a.part"] rfl ⟨300, rfl, by decide⟩
    (.inr (by decide)) (by decide +kernel) (by decide +kernel) hmake
  rw [hpath, hpart, hbytes] at hhalf
  obtain ⟨hcontents, hlater⟩ := hhalf hplace hplace
  refine ⟨_, rfl, hcontents, hlater, ?_⟩
  obtain ⟨-, place, hlocate', hnode⟩ :=
    Tree.lookUp_eq_file_iff.1 (Tree.contents_eq_ok_iff.1 hcontents)
  cases hlocate'.symm.trans hlocate
  obtain ⟨web, body, sent, hmem, hanswers, harrived, -⟩ :=
    hcomplete [(halfWeb, .areas)] (Tree.empty ["home"]) .areas "http://x.test/a.part"
      _ _ rfl (by rw [hpath]; exact hlocate) hnode (fun hold => by simp [hold] at hnew)
  exact ⟨web, body, sent, hmem, hanswers, harrived⟩

end Populace.Sources
