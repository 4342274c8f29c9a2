import Populace.Proofs.Sources.Containment

/-!
# The order of opening

Tables from the web keep to names of their own in the cache, so what opening one of them
comes to does not depend on what has become of the others, and it makes no difference
which is opened first. If the directory of the cache cannot be made, all of them fail for
the same reason; else it is there for all of them from the first opening on.
-/

namespace Populace.Sources

open Populace.Files (Node Tree)

/-- Opens tables one after the other, with one web for all, and tells what has become of
each. -/
def openEach (settings : Settings) (web : Web) :
    List Dataset → Tree → List (Dataset × Except Failure Stream) × Tree
  | [], t => ([], t)
  | dataset :: rest, t =>
    let reply := cachingFetcher settings web dataset t
    let others := openEach settings web rest reply.state
    ((dataset, reply.result) :: others.1, others.2)

/-! ## Two openings of one table -/

section Twice

variable {settings : Settings} {dataset : Dataset} {url : String} {above : List String}

/-- The cache is ready for both, and the names of the table stand for the same. -/
abbrev Same (settings : Settings) (above : List String) (dataset : Dataset) (url : String)
    (s u : Shelf) : Prop :=
  Tree.Agree settings.cache above (cacheNames dataset url) s.tree u.tree

theorem refuse_alike {R : Shelf → Shelf → Prop} {s u : Shelf} (h : R s u) (problem : String) :
    Alike R (refuseRequest url problem s : EStateM.Result Failure Shelf Unit)
      (refuseRequest url problem u) :=
  .error h

theorem tell_alike {R : Shelf → Shelf → Prop} {s u : Shelf} (text : String)
    (h : R { s with log := s.log ++ [⟨.info, .fetching, text⟩] }
      { u with log := u.log ++ [⟨.info, .fetching, text⟩] }) :
    Alike R (Shelf.tell text s) (Shelf.tell text u) :=
  .ok h

theorem store_alike (body : ByteArray) (sent : Option Nat) {s u : Shelf}
    (h : Same settings above dataset url s u) :
    Alike (Same settings above dataset url)
      (store url (settings.cachePath dataset url) body sent s)
      (store url (settings.cachePath dataset url) body sent u) := by
  have hplain := plain_partName dataset url
  have hpath := partPath_cachePath dataset url settings
  have hpart := Tree.placeForFile_congr h part_mem hplain
  rw [← hpath] at hpart
  rw [store_eq, store_eq, ← hpart]
  cases hbegun : s.tree.placeForFile (partPath (settings.cachePath dataset url)) with
  | error e => exact .error h
  | ok part =>
      have hput : ∀ c, Tree.Agree settings.cache above (cacheNames dataset url)
          (s.tree.put part (.file c)) (u.tree.put part (.file c)) :=
        fun c => Tree.agree_put h part_mem hplain (hpath ▸ hbegun) c
      dsimp only
      split
      · exact refuse_alike (hput _) _
      · have hown := Tree.placeForFile_congr (hput body) own_mem (plain_cacheName dataset url)
        have hown' : (s.tree.put part (.file body)).placeForFile (settings.cachePath dataset url)
            = (u.tree.put part (.file body)).placeForFile (settings.cachePath dataset url) := hown
        rw [← hown']
        cases hlanded : (s.tree.put part (.file body)).placeForFile
            (settings.cachePath dataset url) with
        | error e => exact .error (hput body)
        | ok place =>
            dsimp only
            refine tell_alike _ ?_
            have hold := Tree.placeForFile_eq_ok_iff.1 (Tree.placeForFile_put hbegun hbegun body)
            have hold' := Tree.placeForFile_eq_ok_iff.1
              (Tree.placeForFile_put (hpart ▸ hbegun) (hpart ▸ hbegun) body)
            exact Tree.agree_move (hput body) own_mem (plain_cacheName dataset url) hold.2.2
              hold'.2.2 hlanded

theorem request_alike (web : Web) {s u : Shelf} (h : Same settings above dataset url s u) :
    Alike (Same settings above dataset url)
      (request web url (settings.cachePath dataset url) s)
      (request web url (settings.cachePath dataset url) u) := by
  refine Alike.bind (tell_alike _ h) fun _ s u h => ?_
  cases web url with
  | unreachable problem => exact refuse_alike h _
  | reply status body sent =>
      dsimp only
      split
      · exact refuse_alike h _
      · exact store_alike body sent h

/-- The directory of the cache need not be made where it is ready. -/
theorem makeDirectories_of_ready {s : Shelf} (h : Tree.Ready settings.cache above s.tree) :
    Shelf.makeDirectories (Files.Path.tidy settings.cache) s = .ok () s := by
  simp only [Shelf.makeDirectories, Tree.createDirectories_of_there h.there]

theorem download_alike (web : Web) {s u : Shelf} (h : Same settings above dataset url s u) :
    Alike (Same settings above dataset url)
      (download web url (settings.cachePath dataset url) s)
      (download web url (settings.cachePath dataset url) u) := by
  have hexists : s.tree.exists? (settings.cachePath dataset url)
      = u.tree.exists? (settings.cachePath dataset url) :=
    Tree.exists_congr h own_mem (plain_cacheName dataset url)
  cases hs : s.tree.exists? (settings.cachePath dataset url) with
  | true =>
      rw [download_of_exists hs, download_of_exists (hexists ▸ hs)]
      exact tell_alike _ h
  | false =>
      rw [download_of_missing_table hs, download_of_missing_table (hexists ▸ hs),
        bind_of_ok (makeDirectories_of_ready h.left), bind_of_ok (makeDirectories_of_ready h.right)]
      exact request_alike web h

theorem openStream_alike {s u : Shelf} (h : Same settings above dataset url s u) :
    Alike (Same settings above dataset url)
      (openStream (settings.cachePath dataset url) s)
      (openStream (settings.cachePath dataset url) u) := by
  have hopen : s.tree.openFile (settings.cachePath dataset url)
      = u.tree.openFile (settings.cachePath dataset url) :=
    Tree.openFile_congr h own_mem (plain_cacheName dataset url)
  rw [openStream, bind_of_ok (run_get s), bind_of_ok (run_get u), ← hopen]
  cases s.tree.openFile (settings.cachePath dataset url) with
  | error f => exact .error h
  | ok node =>
      cases node with
      | file c => exact .ok h
      | directory => exact .ok h

/-- What the other names of the cache stand for makes no difference to a table. -/
theorem fetch_alike (hsource : settings.source dataset = .url url) (web : Web) {t u : Tree}
    (h : Tree.Agree settings.cache above (cacheNames dataset url) t u) :
    (cachingFetcher settings web dataset t).result = (cachingFetcher settings web dataset u).result
      ∧ Tree.Agree settings.cache above (cacheNames dataset url)
        (cachingFetcher settings web dataset t).state
        (cachingFetcher settings web dataset u).state := by
  have hshelves : Same settings above dataset url ⟨t, []⟩ ⟨u, []⟩ := h
  have halike : Alike (Same settings above dataset url)
      (openTable settings web dataset ⟨t, []⟩) (openTable settings web dataset ⟨u, []⟩) := by
    rw [openTable, hsource]
    exact Alike.bind (download_alike web hshelves) fun _ s u h => openStream_alike h
  rw [cachingFetcher, cachingFetcher]
  cases ht : openTable settings web dataset ⟨t, []⟩ <;>
    cases hu : openTable settings web dataset ⟨u, []⟩ <;> rw [ht, hu] at halike <;>
    cases halike with
    | _ hr => exact ⟨rfl, hr⟩

end Twice

/-! ## Two tables -/

section Pairs

variable {settings : Settings} {above : List String} {t : Tree} {dataset dataset' : Dataset}
  {url url' : String}

theorem ready_behind (ht : Tree.Ready settings.cache above t) (web : Web) (dataset : Dataset) :
    Tree.Ready settings.cache above (cachingFetcher settings web dataset t).state :=
  ht.of_grows (accounted_of_fetched (fetched_cachingFetcher settings web dataset t)).1

/-- The entries of different tables are different. -/
theorem keyOf_ne_of_tables (hne : dataset ≠ dataset') {name name' : String}
    (hname : name ∈ cacheNames dataset url) (hname' : name' ∈ cacheNames dataset' url') :
    Tree.keyOf (above ++ [name]) ≠ Tree.keyOf (above ++ [name']) := by
  intro hkey
  have heq := Tree.name_eq_of_keyOf (plain_of_cacheNames hname).no_slash
    (plain_of_cacheNames hname').no_slash hkey
  exact hne (dataset_eq_of_cacheNames hname (heq ▸ hname'))

variable (hstraight : Tree.Straight settings.cache) (ht : Tree.Ready settings.cache above t)
  (hsource : settings.source dataset = .url url) (web : Web)

include hstraight ht hsource

/-- Where the cache is ready, only the names of a table change when it is opened. -/
theorem node_behind {place : List String} (hother : ∀ name ∈ cacheNames dataset url,
      Tree.keyOf place ≠ Tree.keyOf (above ++ [name])) :
    (cachingFetcher settings web dataset t).state.node? place = t.node? place :=
  (confined_cachingFetcher hstraight hsource web t).frame hstraight ht hother

/-- So the names of another table stand for what they did. -/
theorem agree_behind (hne : dataset ≠ dataset') :
    Tree.Agree settings.cache above (cacheNames dataset' url') t
      (cachingFetcher settings web dataset t).state := by
  refine ⟨ht, ready_behind ht web dataset, fun name hname => ?_⟩
  exact (node_behind hstraight ht hsource web fun _ hown =>
    keyOf_ne_of_tables hne.symm hname hown).symm

variable (hsource' : settings.source dataset' = .url url') (hne : dataset ≠ dataset')

include hsource' hne

/-- A table comes to the same whether another one is opened before it or not. -/
theorem result_behind :
    (cachingFetcher settings web dataset' (cachingFetcher settings web dataset t).state).result
      = (cachingFetcher settings web dataset' t).result :=
  (fetch_alike hsource' web (agree_behind hstraight ht hsource web hne)).1.symm

/-- The names of a table stand for the same whether another one is opened behind it or
before it. -/
theorem node_of_either {place : List String} {name : String} (hplace : place ≠ [])
    (hname : name ∈ cacheNames dataset url)
    (hkey : Tree.keyOf place = Tree.keyOf (above ++ [name])) :
    (cachingFetcher settings web dataset'
        (cachingFetcher settings web dataset t).state).state.node? place
      = (cachingFetcher settings web dataset
        (cachingFetcher settings web dataset' t).state).state.node? place := by
  have hother : ∀ other ∈ cacheNames dataset' url',
      Tree.keyOf place ≠ Tree.keyOf (above ++ [other]) :=
    fun other hmem => hkey ▸ keyOf_ne_of_tables hne hname hmem
  have hbehind := node_behind hstraight (ready_behind ht web dataset) hsource' web hother
  have hbefore := (fetch_alike hsource web
    (agree_behind hstraight ht hsource' web hne.symm)).2.same name hname
  have hnil : above ++ [name] ≠ [] := by simp
  rw [hbehind, Tree.node?_congr hplace hnil hkey, hbefore, Tree.node?_congr hplace hnil hkey]

/-- Two tables leave the same files in either order. -/
theorem states_commute :
    (cachingFetcher settings web dataset' (cachingFetcher settings web dataset t).state).state
      = (cachingFetcher settings web dataset
        (cachingFetcher settings web dataset' t).state).state := by
  have hready := ready_behind ht web dataset
  have hready' := ready_behind ht web dataset'
  have hhere : ∀ d u, (cachingFetcher settings web d u).state.here = u.here := fun d u =>
    (accounted_of_fetched (fetched_cachingFetcher settings web d u)).1.here
  refine Tree.eq_of_nodes (by simp only [hhere]) fun place => ?_
  by_cases hplace : place = []
  · rw [hplace, Tree.node?_nil, Tree.node?_nil]
  · by_cases hown : ∃ name ∈ cacheNames dataset url,
        Tree.keyOf place = Tree.keyOf (above ++ [name])
    · obtain ⟨name, hname, hkey⟩ := hown
      exact node_of_either hstraight ht hsource web hsource' hne hplace hname hkey
    · by_cases hown' : ∃ name ∈ cacheNames dataset' url',
          Tree.keyOf place = Tree.keyOf (above ++ [name])
      · obtain ⟨name, hname, hkey⟩ := hown'
        exact (node_of_either hstraight ht hsource' web hsource hne.symm hplace hname hkey).symm
      · -- all other places are as they were
        have hother : ∀ name ∈ cacheNames dataset url,
            Tree.keyOf place ≠ Tree.keyOf (above ++ [name]) :=
          fun name hname hkey => hown ⟨name, hname, hkey⟩
        have hother' : ∀ name ∈ cacheNames dataset' url',
            Tree.keyOf place ≠ Tree.keyOf (above ++ [name]) :=
          fun name hname hkey => hown' ⟨name, hname, hkey⟩
        rw [node_behind hstraight hready hsource' web hother',
          node_behind hstraight ht hsource web hother,
          node_behind hstraight hready' hsource web hother,
          node_behind hstraight ht hsource' web hother']

end Pairs

/-! ## All orders -/

section Orders

variable {settings : Settings} {above : List String} (web : Web)
  (hurls : ∀ dataset, ∃ url, settings.source dataset = .url url)
  (hstraight : Tree.Straight settings.cache)

include hurls hstraight

theorem openEach_perm_of_ready {datasets datasets' : List Dataset}
    (hperm : datasets.Perm datasets') {t : Tree} (ht : Tree.Ready settings.cache above t)
    (hnodup : datasets.Nodup) :
    (openEach settings web datasets t).1.Perm (openEach settings web datasets' t).1
      ∧ (openEach settings web datasets t).2 = (openEach settings web datasets' t).2 := by
  induction hperm generalizing t with
  | nil => exact ⟨.nil, rfl⟩
  | cons dataset _ ih =>
      obtain ⟨hreplies, hfiles⟩ := ih (ready_behind ht web dataset) (List.nodup_cons.1 hnodup).2
      exact ⟨hreplies.cons _, hfiles⟩
  | swap dataset dataset' rest =>
      have hne : dataset' ≠ dataset := fun heq => by simp [heq] at hnodup
      obtain ⟨url, hsource⟩ := hurls dataset
      obtain ⟨url', hsource'⟩ := hurls dataset'
      have hstates := states_commute hstraight ht hsource' web hsource hne
      have hresult := result_behind hstraight ht hsource' web hsource hne
      have hresult' := result_behind hstraight ht hsource web hsource' hne.symm
      simp only [openEach, hstates, hresult, hresult']
      exact ⟨.swap _ _ _, trivial⟩
  | trans hfirst _ ih ih' =>
      obtain ⟨hreplies, hfiles⟩ := ih ht hnodup
      obtain ⟨hreplies', hfiles'⟩ := ih' ht (hfirst.nodup_iff.1 hnodup)
      exact ⟨hreplies.trans hreplies', hfiles.trans hfiles'⟩

end Orders

/-! ## Before the cache is there -/

section Start

variable {settings : Settings} {dataset : Dataset} {url : String} {t u : Tree}

theorem missing_of_no_directory {f : Files.Fault}
    (h : Tree.createDirectories (Files.Path.tidy settings.cache) t = .error f u) :
    t.exists? (settings.cachePath dataset url) = false := by
  refine Bool.eq_false_iff.2 fun hexists => ?_
  rw [Tree.createDirectories_of_there
    (Tree.there_of_exists (plain_cacheName dataset url) hexists)] at h
  cases h

variable (hsource : settings.source dataset = .url url) (web : Web)

include hsource

/-- If the directory of the cache cannot be made, that is what opening a table comes to. -/
theorem fetch_of_no_directory {f : Files.Fault}
    (h : Tree.createDirectories (Files.Path.tidy settings.cache) t = .error f u) :
    cachingFetcher settings web dataset t
      = { log := [], result := .error (.of (.file f)), state := u } := by
  have hmissing : (⟨t, []⟩ : Shelf).tree.exists? (settings.cachePath dataset url) = false :=
    missing_of_no_directory h
  have hmake : Shelf.makeDirectories (Files.Path.tidy settings.cache) ⟨t, []⟩
      = .error (.of (.file f)) ⟨u, []⟩ := by
    simp only [Shelf.makeDirectories, h]
  have hdownload : download web url (settings.cachePath dataset url) ⟨t, []⟩
      = .error (.of (.file f)) ⟨u, []⟩ := by
    rw [download_of_missing_table hmissing, bind_of_error hmake]
  rw [cachingFetcher, openTable, hsource]
  dsimp only
  rw [bind_of_error hdownload]

/-- If it can be made, it might as well have been there. -/
theorem fetch_of_directory (hsound : t.Sound) (hstraight : Tree.Straight settings.cache)
    (h : Tree.createDirectories (Files.Path.tidy settings.cache) t = .ok () u) :
    cachingFetcher settings web dataset t = cachingFetcher settings web dataset u := by
  have hname := plain_cacheName dataset url
  have hexists : u.exists? (settings.cachePath dataset url)
      = t.exists? (settings.cachePath dataset url) :=
    Tree.exists_of_createDirectories hsound hstraight hname h
  cases ht : t.exists? (settings.cachePath dataset url) with
  | true =>
      rw [Tree.createDirectories_of_there (Tree.there_of_exists hname ht)] at h
      cases h
      rfl
  | false =>
      have hmissing : (⟨t, []⟩ : Shelf).tree.exists? (settings.cachePath dataset url) = false := ht
      have hmissing' : (⟨u, []⟩ : Shelf).tree.exists? (settings.cachePath dataset url) = false :=
        hexists.trans ht
      have hmake : Shelf.makeDirectories (Files.Path.tidy settings.cache) ⟨t, []⟩
          = .ok () ⟨u, []⟩ := by
        simp only [Shelf.makeDirectories, h]
      have hmake' : Shelf.makeDirectories (Files.Path.tidy settings.cache) ⟨u, []⟩
          = .ok () ⟨u, []⟩ :=
        makeDirectories_of_ready (Tree.ready_of_createDirectories hsound hstraight h)
      have hdownload : download web url (settings.cachePath dataset url) ⟨t, []⟩
          = download web url (settings.cachePath dataset url) ⟨u, []⟩ := by
        rw [download_of_missing_table hmissing, download_of_missing_table hmissing',
          bind_of_ok hmake, bind_of_ok hmake']
      have hopen : openTable settings web dataset ⟨t, []⟩
          = openTable settings web dataset ⟨u, []⟩ := by
        rw [openTable, hsource]
        dsimp only
        rw [run_bind, run_bind, hdownload]
      rw [cachingFetcher, cachingFetcher, hopen]

end Start

section Orders

variable {settings : Settings} (web : Web)
  (hurls : ∀ dataset, ∃ url, settings.source dataset = .url url)

include hurls

/-- If the directory of the cache cannot be made, all tables fail for the reason of the
first. -/
theorem openEach_of_no_directory {t u : Tree} {f : Files.Fault} (datasets : List Dataset)
    (h : Tree.createDirectories (Files.Path.tidy settings.cache) t = .error f u)
    (hagain : Tree.createDirectories (Files.Path.tidy settings.cache) u = .error f u) :
    openEach settings web datasets t
      = (datasets.map (·, .error (.of (.file f))), if datasets = [] then t else u) := by
  induction datasets generalizing t with
  | nil => rfl
  | cons dataset rest ih =>
      obtain ⟨url, hsource⟩ := hurls dataset
      simp only [openEach, fetch_of_no_directory hsource web h, ih hagain, List.map_cons]
      simp

/-- Tables from the web come to the same in every order, and leave the same files. -/
theorem openEach_perm (hstraight : Tree.Straight settings.cache) {t : Tree} (hsound : t.Sound)
    {datasets datasets' : List Dataset} (hnodup : datasets.Nodup)
    (hperm : datasets.Perm datasets') :
    (openEach settings web datasets t).1.Perm (openEach settings web datasets' t).1
      ∧ (openEach settings web datasets t).2 = (openEach settings web datasets' t).2 := by
  have hagain := Tree.createDirectories_again hsound.rooted hstraight.tidy
  cases hmake : Tree.createDirectories (Files.Path.tidy settings.cache) t with
  | error f u =>
      rw [hmake, stateBehind_error] at hagain
      rw [openEach_of_no_directory web hurls datasets hmake hagain,
        openEach_of_no_directory web hurls datasets' hmake hagain]
      have hnil : datasets = [] ↔ datasets' = [] := by
        rw [← List.length_eq_zero_iff, ← List.length_eq_zero_iff, hperm.length_eq]
      exact ⟨hperm.map _, by simp only [hnil]⟩
  | ok _ u =>
      -- the first table might as well find the directory there
      have hstart : ∀ datasets, datasets ≠ [] →
          openEach settings web datasets t = openEach settings web datasets u := by
        intro datasets hne
        obtain ⟨dataset, rest, rfl⟩ := List.exists_cons_of_ne_nil hne
        obtain ⟨url, hsource⟩ := hurls dataset
        simp only [openEach, fetch_of_directory hsource web hsound hstraight hmake]
      by_cases hnil : datasets = []
      · subst hnil
        rw [List.nil_perm.1 hperm]
        exact ⟨.refl _, rfl⟩
      · have hnil' : datasets' ≠ [] := fun h => hnil (List.perm_nil.1 (h ▸ hperm))
        rw [hstart datasets hnil, hstart datasets' hnil']
        exact openEach_perm_of_ready web hurls hstraight hperm
          (Tree.ready_of_createDirectories hsound hstraight hmake) hnodup

end Orders

/-- The two paths of a table in the cache. -/
def cachePaths (settings : Settings) (dataset : Dataset) (url : String) : List String :=
  [settings.cachePath dataset url, partPath (settings.cachePath dataset url)]

theorem name_of_cachePaths {settings : Settings} {dataset : Dataset} {url path : String}
    (h : path ∈ cachePaths settings dataset url) :
    ∃ name ∈ cacheNames dataset url, path = Files.Path.child settings.cache name := by
  rcases List.mem_pair.1 h with rfl | rfl
  · exact ⟨cacheName dataset url, own_mem, rfl⟩
  · exact ⟨partName dataset url, part_mem, partPath_cachePath dataset url settings⟩

/-- **The order of opening.** If all tables come from the web and no piece of the path of
the cache leads back, then from any tree in which only directories lead to something, with
one web for all, opening different tables comes to the same for each of them and leaves the
same files, in whatever order. Both paths of a table are plain names in the cache, whatever
its address, and none of them is a path of another table. -/
theorem order_of_opening_irrelevant (settings : Settings)
    (hurls : ∀ dataset, ∃ url, settings.source dataset = .url url)
    (hstraight : Tree.Straight settings.cache) :
    (∀ (web : Web) (t : Tree) (datasets datasets' : List Dataset),
      t.Sound → datasets.Nodup → datasets.Perm datasets' →
      (openEach settings web datasets t).1.Perm (openEach settings web datasets' t).1
        ∧ (openEach settings web datasets t).2 = (openEach settings web datasets' t).2)
      ∧ ∀ (dataset : Dataset) (url path : String), path ∈ cachePaths settings dataset url →
        (∃ name, Files.Path.Plain name ∧ path = Files.Path.child settings.cache name)
          ∧ ∀ (dataset' : Dataset) (url' : String), dataset ≠ dataset' →
            path ∉ cachePaths settings dataset' url' := by
  refine ⟨fun web t datasets datasets' hsound hnodup hperm =>
    openEach_perm web hurls hstraight hsound hnodup hperm, fun dataset url path hpath => ?_⟩
  obtain ⟨name, hname, rfl⟩ := name_of_cachePaths hpath
  refine ⟨⟨name, plain_of_cacheNames hname, rfl⟩, fun dataset' url' hne hpath' => ?_⟩
  obtain ⟨name', hname', hchild⟩ := name_of_cachePaths hpath'
  obtain rfl := Files.Path.child_inj hchild
  exact hne (dataset_eq_of_cacheNames hname hname')

/-- Two tables are at an address that ends as a temporary name does. -/
def twoAddresses : Settings where
  cache := "c/./d"
  source
    | .areas => .url "http://x.test/a.part"
    | .locations => .url "http://x.test/a.part"
    | _ => .url "http://x.test/b.txt"

/-- One address breaks off, the other is not found. -/
def brokenWeb : Web := fun url =>
  if url = "http://x.test/a.part" then .reply 200 "1\tAndoria\t5\n".toUTF8 (some 4)
  else .reply 404 "gone\n".toUTF8 none

/-- A single directory is a sound tree. -/
theorem sound_empty {name : String} (hname : '/' ∉ name.toList) : (Tree.empty [name]).Sound := by
  have hnode : ∀ names, names ≠ [] → (Tree.empty [name]).node? names
      = if Tree.keyOf names = name then some .directory else none := by
    intro names hne
    have hkey : Tree.keyOf [name] = name := by simp [Tree.keyOf]
    rw [Tree.node?_of_ne_nil hne]
    refine (Table.get?_insert Table.empty (Tree.keyOf [name]) Node.directory _).trans ?_
    rw [hkey]
    rfl
  refine ⟨fun above last h => ?_, ?_⟩
  · rw [hnode _ (by simp)] at h
    split at h
    · rename_i hkey
      by_cases hnil : above = []
      · rw [hnil, Tree.node?_nil]
      · -- the entry of a longer way has a slash in it
        rw [Tree.keyOf, String.intercalate_append_of_ne_nil hnil (by simp)] at hkey
        refine absurd ?_ hname
        rw [← hkey]
        simp
    · exact absurd rfl h
  · change (Tree.empty [name]).node? [name] = _
    rw [hnode _ (by simp)]
    simp [Tree.keyOf]

/-- Half of a table stands in the cache in either order, and nothing else. -/
theorem order_of_opening_irrelevant_broken :
    (∃ t, t = (openEach twoAddresses brokenWeb [.areas, .firstNames, .locations]
        (Tree.empty ["home"])).2
      ∧ t = (openEach twoAddresses brokenWeb [.locations, .firstNames, .areas]
        (Tree.empty ["home"])).2
      ∧ t.contents "c/d/areas_a.part" = .ok "1\tAn".toUTF8)
      ∧ (openEach twoAddresses brokenWeb [.areas, .firstNames, .locations]
          (Tree.empty ["home"])).1.Perm
        (openEach twoAddresses brokenWeb [.locations, .firstNames, .areas]
          (Tree.empty ["home"])).1
      ∧ "c/./d/areas_a.part" ∉ cachePaths twoAddresses .locations "http://x.test/a.part" := by
  have hurls : ∀ dataset, ∃ url, twoAddresses.source dataset = .url url := by
    intro dataset
    cases dataset <;> exact ⟨_, rfl⟩
  have hstraight : Tree.Straight twoAddresses.cache := by
    rw [Tree.Straight]
    decide +kernel
  obtain ⟨horders, hpaths⟩ := order_of_opening_irrelevant twoAddresses hurls hstraight
  obtain ⟨hreplies, hfiles⟩ := horders brokenWeb (Tree.empty ["home"])
    [.areas, .firstNames, .locations] [.locations, .firstNames, .areas]
    (sound_empty (by decide)) (by decide) (by decide)
  have hcontents : (openEach twoAddresses brokenWeb [.areas, .firstNames, .locations]
      (Tree.empty ["home"])).2.contents "c/d/areas_a.part" = .ok "1\tAn".toUTF8 := by
    decide +kernel
  have hpath : "c/./d/areas_a.part" ∈ cachePaths twoAddresses .areas "http://x.test/a.part" := by
    decide +kernel
  exact ⟨⟨_, rfl, hfiles, hcontents⟩, hreplies,
    (hpaths .areas "http://x.test/a.part" _ hpath).2 .locations "http://x.test/a.part" (by decide)⟩

end Populace.Sources
