import Populace.Proofs.Files.Siblings
import Populace.Proofs.Sources.Cached

/-!
# What opening a table may change

Besides the directories that lead to the cache, opening a table changes two names in it
at most, which begin with the key of the table (`confined_cachingFetcher`). What has been
downloaded for a table stays what it is, so a table that could be opened once is opened
the same way ever after, whatever the web says by then.
-/

namespace Populace.Sources

open Populace.Files (Node Tree)

/-! ## The names that belong to a table -/

section Names

variable (dataset : Dataset) (url : String)

theorem plain_cacheName : Files.Path.Plain (cacheName dataset url) :=
  have ⟨hempty, hdot, hdots⟩ := ne_of_key_prefix (key_prefix_cacheName dataset url)
  ⟨hempty, cacheName_plain dataset url, hdot, hdots⟩

theorem plain_partName : Files.Path.Plain (partName dataset url) :=
  have ⟨hempty, hdot, hdots⟩ := ne_of_key_prefix (key_prefix_partName dataset url)
  ⟨hempty, partName_plain dataset url, hdot, hdots⟩

/-- The names under which a table may stand in the cache. -/
def cacheNames : List String :=
  [cacheName dataset url, partName dataset url]

variable {dataset url}

theorem own_mem : cacheName dataset url ∈ cacheNames dataset url := List.mem_cons_self

theorem part_mem : partName dataset url ∈ cacheNames dataset url := by
  simp [cacheNames]

theorem plain_of_cacheNames {name : String} (h : name ∈ cacheNames dataset url) :
    Files.Path.Plain name := by
  rcases List.mem_pair.1 h with rfl | rfl
  · exact plain_cacheName dataset url
  · exact plain_partName dataset url

theorem key_prefix_of_cacheNames {name : String} (h : name ∈ cacheNames dataset url) :
    dataset.key.toList <+: name.toList := by
  rcases List.mem_pair.1 h with rfl | rfl
  · exact key_prefix_cacheName dataset url
  · exact key_prefix_partName dataset url

/-- No name belongs to two tables. -/
theorem dataset_eq_of_cacheNames {dataset' : Dataset} {url' name : String}
    (h : name ∈ cacheNames dataset url) (h' : name ∈ cacheNames dataset' url') :
    dataset = dataset' :=
  dataset_eq_of_keys (key_prefix_of_cacheNames h) (key_prefix_of_cacheNames h')

end Names

/-! ## What is confined to the cache -/

section Confinement

variable {settings : Settings} {dataset : Dataset} {url : String}

/-- What opening a table may do to the files. -/
abbrev Kept (settings : Settings) (dataset : Dataset) (url : String) (s u : Shelf) : Prop :=
  Tree.Confined settings.cache (cacheNames dataset url) s.tree u.tree

theorem place_of_cachePath (hstraight : Tree.Straight settings.cache) {t : Tree}
    {place : List String} (h : t.placeForFile (settings.cachePath dataset url) = .ok place) :
    place = t.placeOf settings.cache ++ [cacheName dataset url] := by
  have hname := plain_cacheName dataset url
  rw [← Tree.placeOf_child hname]
  exact Tree.place_of_locate (hstraight.child hname) (Tree.locate_of_place h)

theorem place_of_partPath (hstraight : Tree.Straight settings.cache) {t : Tree}
    {place : List String}
    (h : t.placeForFile (partPath (settings.cachePath dataset url)) = .ok place) :
    place = t.placeOf settings.cache ++ [partName dataset url] := by
  have hname := plain_partName dataset url
  rw [partPath_cachePath] at h
  rw [← Tree.placeOf_child hname]
  exact Tree.place_of_locate (hstraight.child hname) (Tree.locate_of_place h)

theorem store_confined (hstraight : Tree.Straight settings.cache) (body : ByteArray)
    (sent : Option Nat) :
    Keeps (Kept settings dataset url)
      (store url (settings.cachePath dataset url) body sent) := by
  intro s
  have hrefl := Tree.Confined.refl settings.cache (cacheNames dataset url) s.tree
  rw [Kept, tree_store]
  cases hbegun : s.tree.placeForFile (partPath (settings.cachePath dataset url)) with
  | error e => exact hrefl
  | ok part =>
      have hplace := place_of_partPath hstraight hbegun
      dsimp only
      split
      · exact hrefl.put part_mem hplace _
      · cases hlanded : (s.tree.put part (.file body)).placeForFile
            (settings.cachePath dataset url) with
        | error e => exact hrefl.put part_mem hplace _
        | ok place =>
            have hplace' := place_of_cachePath hstraight hlanded
            exact ((hrefl.put part_mem hplace _).remove part_mem hplace).put own_mem hplace' _

theorem request_confined (hstraight : Tree.Straight settings.cache) (web : Web) :
    Keeps (Kept settings dataset url) (request web url (settings.cachePath dataset url)) := by
  refine Keeps.bind (fun s => .refl _ _ s.tree) .trans fun _ => ?_
  cases web url with
  | unreachable problem => exact fun s => .refl _ _ s.tree
  | reply status body sent =>
      dsimp only
      split
      · exact fun s => .refl _ _ s.tree
      · exact store_confined hstraight body sent

/-- All downloads have the same path above them. -/
theorem parent_cachePath (settings : Settings) (dataset : Dataset) (url : String) :
    Files.Path.parent? (settings.cachePath dataset url)
      = some (Files.Path.tidy settings.cache) :=
  have hname := plain_cacheName dataset url
  Files.Path.parent_child settings.cache hname.ne_empty hname.no_slash hname.ne_dot

/-- What is missing is requested when the directory for it has been made. -/
theorem download_of_missing_table {web : Web} {s : Shelf}
    (h : s.tree.exists? (settings.cachePath dataset url) = false) :
    download web url (settings.cachePath dataset url) s = (do
      Shelf.makeDirectories (Files.Path.tidy settings.cache)
      request web url (settings.cachePath dataset url)) s := by
  rw [download_of_missing h, parent_cachePath]

theorem directories_confined (hstraight : Tree.Straight settings.cache) :
    Keeps (Kept settings dataset url) (Shelf.makeDirectories (Files.Path.tidy settings.cache)) := by
  intro s
  have hmade := Tree.createDirectories_confined hstraight.tidy s.tree
  rw [Kept, Shelf.tree_makeDirectories]
  exact hmade.widen (by rw [Tree.placeOf_tidy])

theorem openTable_confined (hstraight : Tree.Straight settings.cache)
    (hsource : settings.source dataset = .url url) (web : Web) :
    Keeps (Kept settings dataset url) (openTable settings web dataset) := by
  intro s
  rw [behind_openTable hsource]
  cases hexists : s.tree.exists? (settings.cachePath dataset url) with
  | true =>
      rw [download_of_exists hexists]
      exact .refl _ _ s.tree
  | false =>
      rw [download_of_missing_table hexists]
      exact (directories_confined hstraight).bind .trans
        (fun _ => request_confined hstraight web) s

/-- Opening a table changes nothing but the way to the cache and the names of the table. -/
theorem confined_cachingFetcher (hstraight : Tree.Straight settings.cache)
    (hsource : settings.source dataset = .url url) (web : Web) (t : Tree) :
    Tree.Confined settings.cache (cacheNames dataset url) t
      (cachingFetcher settings web dataset t).state := by
  rw [state_cachingFetcher]
  exact openTable_confined hstraight hsource web ⟨t, []⟩

end Confinement

/-! ## What is there already -/

section Stability

variable {settings : Settings} {dataset : Dataset} {url : String} {t : Tree}

/-- What has been downloaded for a table is not touched again. -/
theorem contents_of_fetched {web : Web} {dataset' : Dataset} {u : Tree} {c : ByteArray}
    (hfetched : Fetched settings web dataset' t u) (hsource : settings.source dataset = .url url)
    (h : t.contents (settings.cachePath dataset url) = .ok c) :
    u.contents (settings.cachePath dataset url) = .ok c := by
  have hthere : t.exists? (settings.cachePath dataset url) = true := by
    rw [Tree.exists?, Tree.contents_eq_ok_iff.1 h]
    rfl
  -- the table itself would not have been requested
  have hother : ∀ {url' body sent}, Answered settings web dataset' t url' body sent →
      dataset ≠ dataset' := by
    rintro url' body sent ha rfl
    have hurl := ha.source
    rw [hsource] at hurl
    cases hurl
    exact absurd ha.missing (by simp [hthere])
  cases hfetched with
  | kept hu => exact Tree.contents_of_extends hu h
  | @begun url' body sent v part ha hv hpart =>
      have hplace := Tree.placeForFile_eq_ok_iff.1 hpart
      exact Tree.contents_put_of_ne hplace.2.2 (Tree.contents_of_extends hv h)
        (fun own hl hkey => hother ha (name_eq_of_part hl hplace.2.1 hkey).1) _
  | @landed url' body sent v part place ha hv hpart hcomplete hown =>
      have hplace := Tree.placeForFile_eq_ok_iff.1 hpart
      have hplace' := Tree.placeForFile_eq_ok_iff.1 hown
      have hput := Tree.placeForFile_eq_ok_iff.1 (Tree.placeForFile_put hpart hpart body)
      have hgrows := Tree.grows_remove_file hput.2.2
      have hbegun := Tree.contents_put_of_ne hplace.2.2 (Tree.contents_of_extends hv h)
        (fun own hl hkey => hother ha (name_eq_of_part hl hplace.2.1 hkey).1) body
      have hremoved := Tree.contents_remove_of_ne hput.2.2 hbegun
        fun own hl hkey => hother ha (name_eq_of_part hl hput.2.1 hkey).1
      exact Tree.contents_put_of_ne (Tree.not_directory_of_remove hplace'.2.2 part) hremoved
        (fun own hl hkey => hother ha
          (dataset_eq_of_own hl (Tree.locate_of_grows hgrows hplace'.2.1) hkey)) body

/-- Nor is a directory that stands in its place. -/
theorem lookUp_of_fetched {web : Web} {dataset' : Dataset} {u : Tree} {node : Node}
    (hfetched : Fetched settings web dataset' t u) (hsource : settings.source dataset = .url url)
    (h : t.lookUp (settings.cachePath dataset url) = .ok node) :
    u.lookUp (settings.cachePath dataset url) = .ok node := by
  cases node with
  | file c =>
      rw [← Tree.contents_eq_ok_iff] at h ⊢
      exact contents_of_fetched hfetched hsource h
  | directory =>
      have hgrows := (accounted_of_fetched hfetched).1
      rw [Tree.lookUp_eq_directory_iff] at h ⊢
      exact Tree.isDirectory_of_grows hgrows h

theorem lookUp_openAll (hsource : settings.source dataset = .url url) {node : Node}
    (opens : List (Web × Dataset))
    (h : t.lookUp (settings.cachePath dataset url) = .ok node) :
    (openAll settings opens t).lookUp (settings.cachePath dataset url) = .ok node := by
  induction opens generalizing t with
  | nil => exact h
  | cons entry rest ih =>
      exact ih (lookUp_of_fetched (fetched_cachingFetcher settings entry.1 entry.2 t) hsource h)

/-- A table that has been opened stands in the cache. -/
theorem lookUp_of_opened {web : Web} {stream : Stream}
    (hsource : settings.source dataset = .url url)
    (h : (cachingFetcher settings web dataset t).result = .ok stream) :
    ∃ node, (cachingFetcher settings web dataset t).state.lookUp
        (settings.cachePath dataset url) = .ok node
      ∧ stream = streamOf (settings.cachePath dataset url) node := by
  rw [cachingFetcher] at h ⊢
  cases hopen : openTable settings web dataset ⟨t, []⟩ with
  | error e s =>
      rw [hopen] at h
      cases h
  | ok stream' s =>
      rw [hopen] at h
      cases h
      rw [openTable, hsource] at hopen
      obtain ⟨_, u, -, hstream⟩ := bind_eq_ok_iff.1 hopen
      obtain ⟨node, hlook, hnode, rfl⟩ := openStream_eq_ok hstream
      exact ⟨node, hlook, hnode⟩

/-- Without an answer, or with an error status, no file is made or changed. -/
theorem extends_of_refused {web : Web} (hsource : settings.source dataset = .url url)
    (hrefused : ∀ status body sent, web url = .reply status body sent →
      400 ≤ status ∧ status < 600) (t : Tree) :
    t.Extends (cachingFetcher settings web dataset t).state := by
  refine extends_of_unanswered (fetched_cachingFetcher settings web dataset t) ?_
  rintro url' body sent ⟨hsource', -, status, hreply, hstatus⟩
  rw [hsource] at hsource'
  cases hsource'
  have hrange := hrefused status body sent hreply
  simp [isErrorStatus, hrange] at hstatus

/-- A complete body of any other status is what the table then is. -/
theorem contents_of_accepted {web : Web} {status : Nat} {body : ByteArray} {sent : Option Nat}
    {u : Tree} {part place : List String} (hsource : settings.source dataset = .url url)
    (hreply : web url = .reply status body sent) (hstatus : ¬ (400 ≤ status ∧ status < 600))
    (hcomplete : ¬ arrived body sent < body.size)
    (hmissing : t.exists? (settings.cachePath dataset url) = false)
    (hmake : Tree.createDirectories (Files.Path.tidy settings.cache) t = .ok () u)
    (hpart : u.placeForFile (partPath (settings.cachePath dataset url)) = .ok part)
    (hown : u.placeForFile (settings.cachePath dataset url) = .ok place) :
    (cachingFetcher settings web dataset t).state.contents (settings.cachePath dataset url)
      = .ok body := by
  have hanswers : web.Answers url body sent :=
    ⟨status, hreply, by simpa [isErrorStatus] using hstatus⟩
  have hlands := contents_fetched hsource hmissing hanswers
    (parent_cachePath settings dataset url) hmake hpart hown (.inl hcomplete)
  rwa [arrivedBytes_of_complete hcomplete] at hlands

end Stability

/-- **The cache is stable and contained.** A table from the web that could be opened once is
opened the same way ever after, with nothing said but that it is there, and what has been
downloaded for any table stays what it is, whatever is opened and whatever the web says. One
opening changes nothing but directories that are missing on the way to the cache and two
names in it that begin with the table's key; no file at all unless the web answers with a
status outside of 400 to 599, and the complete body of such an answer is then the table.
Opening a table that is a file changes nothing. -/
theorem cache_stable_and_contained (settings : Settings)
    (hstraight : Tree.Straight settings.cache) :
    (∀ (web : Web) (dataset : Dataset) (url : String) (t : Tree) (stream : Stream)
        (opens : List (Web × Dataset)) (later : Web),
      settings.source dataset = .url url →
      (cachingFetcher settings web dataset t).result = .ok stream →
      cachingFetcher settings later dataset
          (openAll settings opens (cachingFetcher settings web dataset t).state)
        = { log := [⟨.info, .fetching, settings.cachePath dataset url ++ " already exists"⟩]
            result := .ok stream
            state := openAll settings opens (cachingFetcher settings web dataset t).state })
      ∧ (∀ (opens : List (Web × Dataset)) (t : Tree) (dataset : Dataset) (url : String)
          (c : ByteArray), settings.source dataset = .url url →
        t.contents (settings.cachePath dataset url) = .ok c →
        (openAll settings opens t).contents (settings.cachePath dataset url) = .ok c)
      ∧ (∀ (web : Web) (dataset : Dataset) (url : String) (t : Tree),
        settings.source dataset = .url url →
        (∃ own part, (∀ name ∈ [own, part], Files.Path.Plain name
            ∧ dataset.key.toList <+: name.toList)
          ∧ Tree.Confined settings.cache [own, part] t
            (cachingFetcher settings web dataset t).state)
        ∧ ((∀ status body sent, web url = .reply status body sent → 400 ≤ status ∧ status < 600) →
          t.Extends (cachingFetcher settings web dataset t).state)
        ∧ ∀ status body sent u part place, web url = .reply status body sent →
          ¬ (400 ≤ status ∧ status < 600) → ¬ arrived body sent < body.size →
          t.exists? (settings.cachePath dataset url) = false →
          Tree.createDirectories (Files.Path.tidy settings.cache) t = .ok () u →
          u.placeForFile (partPath (settings.cachePath dataset url)) = .ok part →
          u.placeForFile (settings.cachePath dataset url) = .ok place →
          (cachingFetcher settings web dataset t).state.contents
            (settings.cachePath dataset url) = .ok body)
      ∧ ∀ (web : Web) (dataset : Dataset) (path : String) (t : Tree),
        settings.source dataset = .file path →
        (cachingFetcher settings web dataset t).state = t := by
  refine ⟨?_, ?_, ?_, ?_⟩
  · intro web dataset url t stream opens later hsource hopened
    obtain ⟨node, hlook, rfl⟩ := lookUp_of_opened hsource hopened
    exact fetch_of_lookUp hsource (lookUp_openAll hsource opens hlook) later
  · intro opens t dataset url c hsource hcontents
    rw [Tree.contents_eq_ok_iff] at hcontents ⊢
    exact lookUp_openAll hsource opens hcontents
  · intro web dataset url t hsource
    refine ⟨⟨cacheName dataset url, partName dataset url, ?_, ?_⟩, ?_, ?_⟩
    · exact fun name hname => ⟨plain_of_cacheNames hname, key_prefix_of_cacheNames hname⟩
    · exact confined_cachingFetcher hstraight hsource web t
    · exact fun hrefused => extends_of_refused hsource hrefused t
    · intro status body sent u part place hreply hstatus hcomplete hmissing hmake hpart hown
      exact contents_of_accepted hsource hreply hstatus hcomplete hmissing hmake hpart hown
  · intro web dataset path t hsource
    rw [state_cachingFetcher, openTable, hsource]
    dsimp only
    rw [behind_openStream]

/-- All tables are at one address. -/
def oneAddress : Settings where
  cache := "c"
  source _ := .url "http://x.test/b.txt"

/-- Every address has moved, and the answer says so. -/
def movedWeb : Web :=
  fun _ => .reply 300 "moved\n".toUTF8 none

/-- What is said about a table that has moved is the table from then on. -/
theorem cache_stable_and_contained_moved :
    Tree.Straight oneAddress.cache ∧ ∃ t,
      t = (cachingFetcher oneAddress movedWeb .locations (Tree.empty ["home"])).state
        ∧ (∃ own part, (∀ name ∈ [own, part], Files.Path.Plain name
            ∧ Dataset.locations.key.toList <+: name.toList)
          ∧ Tree.Confined "c" [own, part] (Tree.empty ["home"]) t)
        ∧ t.contents "c/locations_b.txt" = .ok "moved\n".toUTF8
        ∧ ∀ (opens : List (Web × Dataset)) (later : Web),
          (openAll oneAddress opens t).contents "c/locations_b.txt" = .ok "moved\n".toUTF8
            ∧ (cachingFetcher oneAddress later .locations (openAll oneAddress opens t)).result
              = .ok (.whole "moved\n".toUTF8.data.toList) := by
  have hstraight : Tree.Straight oneAddress.cache := by
    rw [Tree.Straight]
    decide +kernel
  obtain ⟨hstable, hkept, hopen, -⟩ := cache_stable_and_contained oneAddress hstraight
  have hpath : oneAddress.cachePath .locations "http://x.test/b.txt" = "c/locations_b.txt" := by
    decide +kernel
  have hmake : value? (Tree.createDirectories "c" (Tree.empty ["home"])) = some () := by
    decide +kernel
  have hplaces : (stateBehind (Tree.createDirectories "c" (Tree.empty ["home"]))).placeForFile
        (partPath "c/locations_b.txt") = .ok ["home", "c", "locations_b.part"]
      ∧ (stateBehind (Tree.createDirectories "c" (Tree.empty ["home"]))).placeForFile
        "c/locations_b.txt" = .ok ["home", "c", "locations_b.txt"] := by decide +kernel
  have hopened : (cachingFetcher oneAddress movedWeb .locations
      (Tree.empty ["home"])).result.isOk = true := by decide +kernel
  obtain ⟨u, hmake⟩ := eq_ok_of_value hmake
  rw [hmake] at hplaces
  obtain ⟨hconfined, -, hlands⟩ :=
    hopen movedWeb .locations "http://x.test/b.txt" (Tree.empty ["home"]) rfl
  have hcontents := hlands 300 "moved\n".toUTF8 none u _ _ rfl (by decide) (by decide +kernel)
    (by decide +kernel) hmake (by rw [hpath]; exact hplaces.1) (by rw [hpath]; exact hplaces.2)
  refine ⟨hstraight, _, rfl, hconfined, by rwa [hpath] at hcontents, fun opens later => ?_⟩
  have hlater := hkept opens _ .locations "http://x.test/b.txt" _ rfl hcontents
  cases hresult : (cachingFetcher oneAddress movedWeb .locations (Tree.empty ["home"])).result with
  | error e =>
      rw [hresult] at hopened
      cases hopened
  | ok stream =>
      have hagain := fun opens later => hstable movedWeb .locations "http://x.test/b.txt"
        (Tree.empty ["home"]) stream opens later rfl hresult
      have hstream := congrArg Reply.result (hagain [] movedWeb)
      rw [openAll, result_of_contents rfl hcontents movedWeb] at hstream
      refine ⟨by rwa [hpath] at hlater, ?_⟩
      rw [hagain opens later, hstream]

end Populace.Sources
