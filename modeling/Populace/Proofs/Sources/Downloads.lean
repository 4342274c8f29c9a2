import Populace.Proofs.Files.Folders
import Populace.Sources.Cache

/-!
# What fetching does to the files

Opening a table makes directories at most, unless the web answers a request for it. Then
what arrives of the body is put under the temporary name, and if that is all of it the
file may get the name of the download (`Fetched`).
-/

namespace Populace.Sources

open Populace.Files (Node Tree)

/-- How many bytes of a body arrive. -/
abbrev arrived (body : ByteArray) (sent : Option Nat) : Nat :=
  min (sent.getD body.size) body.size

/-- The bytes of a body that arrive. -/
def arrivedBytes (body : ByteArray) (sent : Option Nat) : ByteArray :=
  body.extract 0 (arrived body sent)

theorem arrivedBytes_of_complete {body : ByteArray} {sent : Option Nat}
    (h : ¬ arrived body sent < body.size) : arrivedBytes body sent = body := by
  have hall : arrived body sent = body.size :=
    Nat.le_antisymm (Nat.min_le_right _ _) (Nat.not_lt.1 h)
  rw [arrivedBytes, hall, ByteArray.extract_zero_size]

/-- The answer to a request has a body, and no status that says there is an error. -/
def Web.Answers (web : Web) (url : String) (body : ByteArray) (sent : Option Nat) : Prop :=
  ∃ status, web url = .reply status body sent ∧ isErrorStatus status = false

/-- A table that is not there is requested, and the answer has a body. -/
structure Answered (settings : Settings) (web : Web) (dataset : Dataset) (t : Tree)
    (url : String) (body : ByteArray) (sent : Option Nat) : Prop where
  source : settings.source dataset = .url url
  missing : t.exists? (settings.cachePath dataset url) = false
  reply : web.Answers url body sent

/-- What opening a table makes of the files. -/
inductive Fetched (settings : Settings) (web : Web) (dataset : Dataset) (t : Tree) :
    Tree → Prop where
  /-- There may be directories that were not there before. -/
  | kept {u} : t.Extends u → Fetched settings web dataset t u
  /-- What has arrived of a body stands under the temporary name. -/
  | begun {url body sent u part} :
    Answered settings web dataset t url body sent → t.Extends u →
      u.placeForFile (partPath (settings.cachePath dataset url)) = .ok part →
      Fetched settings web dataset t (u.put part (.file (arrivedBytes body sent)))
  /-- All of a body has arrived, and the file has been given the name of the download. -/
  | landed {url body sent u part place} :
    Answered settings web dataset t url body sent → t.Extends u →
      u.placeForFile (partPath (settings.cachePath dataset url)) = .ok part →
      ¬ arrived body sent < body.size →
      (u.put part (.file body)).placeForFile (settings.cachePath dataset url) = .ok place →
      Fetched settings web dataset t
        (((u.put part (.file body)).remove part).put place (.file body))

/-! ## Storing a body -/

namespace Shelf

variable {action : Tree → Except Files.Fault Tree} {s : Shelf}

theorem run_tell (text : String) (s : Shelf) :
    tell text s = .ok () { s with log := s.log ++ [⟨.info, .fetching, text⟩] } := rfl

theorem change_of_ok {t : Tree} (h : action s.tree = .ok t) :
    change action s = .ok () { s with tree := t } := by
  simp only [change, h]

theorem change_of_error {f : Files.Fault} (h : action s.tree = .error f) :
    change action s = .error (.of (.file f)) s := by
  simp only [change, h]

theorem tree_makeDirectories (path : String) (s : Shelf) :
    (stateBehind (makeDirectories path s)).tree
      = stateBehind (Tree.createDirectories path s.tree) := by
  rw [makeDirectories]
  cases Tree.createDirectories path s.tree <;> rfl

end Shelf

/-- What storing a body comes to. It fails with the temporary file left behind if the body
breaks off or there is no place for the file of its own. -/
theorem store_eq (url path : String) (body : ByteArray) (sent : Option Nat) (s : Shelf) :
    store url path body sent s =
      match s.tree.placeForFile (partPath path) with
      | .error e => .error (.of (.file ⟨.createFile, partPath path, e⟩)) s
      | .ok part =>
        if arrived body sent < body.size then
          refuseRequest url "connection closed before message completed"
            { s with tree := s.tree.put part (.file (arrivedBytes body sent)) }
        else match (s.tree.put part (.file body)).placeForFile path with
          | .error e => .error (.of (.file ⟨.renameTo path, partPath path, e⟩))
              { s with tree := s.tree.put part (.file body) }
          | .ok place =>
            Shelf.tell ("Downloaded " ++ Text.grouped body.size ++ " bytes into " ++ path)
              { s with tree :=
                  ((s.tree.put part (.file body)).remove part).put place (.file body) } := by
  cases hpart : s.tree.placeForFile (partPath path) with
  | error e =>
      have hcreate : Shelf.change (·.createFile (partPath path)) s
          = .error (.of (.file ⟨.createFile, partPath path, e⟩)) s := by
        refine Shelf.change_of_error ?_
        rw [Tree.createFile, hpart]
        rfl
      rw [store, bind_of_error hcreate]
  | ok part =>
      have hcreate : Shelf.change (·.createFile (partPath path)) s
          = .ok () { s with tree := s.tree.put part (.file ByteArray.empty) } :=
        Shelf.change_of_ok (Tree.createFile_of_place hpart)
      have hwrite : Shelf.change
          (fun t => .ok (t.fill (partPath path) (body.extract 0 (arrived body sent))))
          { s with tree := s.tree.put part (.file ByteArray.empty) }
          = .ok () { s with tree := s.tree.put part (.file (arrivedBytes body sent)) } := by
        refine Shelf.change_of_ok (congrArg Except.ok ?_)
        rw [Tree.fill_of_place (Tree.placeForFile_put hpart hpart _), Tree.put_put, arrivedBytes]
      rw [store, bind_of_ok hcreate, bind_of_ok hwrite]
      dsimp only
      by_cases hbroken : arrived body sent < body.size
      · rw [if_pos hbroken, if_pos hbroken]
        rfl
      · rw [if_neg hbroken, if_neg hbroken, arrivedBytes_of_complete hbroken]
        have hput := Tree.placeForFile_put hpart hpart body
        have hrename := Tree.rename_of_file (Tree.locate_of_place hput)
          (Tree.node?_put_self (Tree.ne_nil_of_placeForFile hpart) (.file body)) path
        cases hplace : (s.tree.put part (.file body)).placeForFile path with
        | error e =>
            rw [hplace] at hrename
            have hchange : Shelf.change (·.rename (partPath path) path)
                { s with tree := s.tree.put part (.file body) } = .error _ _ :=
              Shelf.change_of_error hrename
            rw [bind_of_error hchange]
        | ok place =>
            rw [hplace] at hrename
            have hchange : Shelf.change (·.rename (partPath path) path)
                { s with tree := s.tree.put part (.file body) } = .ok () _ :=
              Shelf.change_of_ok hrename
            rw [bind_of_ok hchange]

/-- What storing a body leaves: nothing if there is no place for the temporary file, and
else the temporary file, unless the body is complete and there is a place for it. -/
theorem tree_store (url path : String) (body : ByteArray) (sent : Option Nat) (s : Shelf) :
    (stateBehind (store url path body sent s)).tree =
      match s.tree.placeForFile (partPath path) with
      | .error _ => s.tree
      | .ok part =>
        if arrived body sent < body.size then
          s.tree.put part (.file (arrivedBytes body sent))
        else match (s.tree.put part (.file body)).placeForFile path with
          | .error _ => s.tree.put part (.file body)
          | .ok place => ((s.tree.put part (.file body)).remove part).put place (.file body) := by
  rw [store_eq]
  cases s.tree.placeForFile (partPath path) with
  | error e => rfl
  | ok part =>
      dsimp only
      split
      · rfl
      · cases (s.tree.put part (.file body)).placeForFile path <;> rfl

/-! ## Requests -/

/-- Requests what is at an address and stores it. -/
def request (web : Web) (url path : String) : EStateM Failure Shelf Unit := do
  Shelf.tell ("Missing " ++ path ++ ", so downloading " ++ url)
  match web url with
  | .unreachable problem => refuseRequest url problem
  | .reply status body sent =>
    if isErrorStatus status then
      refuseRequest url ("HTTP status " ++ toString status ++ " for url (" ++ url ++ ")")
    else store url path body sent

theorem download_of_exists {web : Web} {url path : String} {s : Shelf}
    (h : s.tree.exists? path = true) :
    download web url path s = Shelf.tell (path ++ " already exists") s := by
  rw [download, bind_of_ok (run_get s), if_pos h]

/-- A file that is missing is requested, once there is a directory for it. -/
theorem download_of_missing {web : Web} {url path : String} {s : Shelf}
    (h : s.tree.exists? path = false) :
    download web url path s = match Files.Path.parent? path with
      | some directory => (do
          Shelf.makeDirectories directory
          request web url path) s
      | none => request web url path s := by
  rw [download, bind_of_ok (run_get s), if_neg (by simp [h])]
  cases Files.Path.parent? path <;> rfl

section Fetching

variable {settings : Settings} {web : Web} {dataset : Dataset} {url : String} {t : Tree}

theorem fetched_store {body : ByteArray} {sent : Option Nat} {s : Shelf}
    (ha : Answered settings web dataset t url body sent) (ht : t.Extends s.tree) :
    Fetched settings web dataset t
      (stateBehind (store url (settings.cachePath dataset url) body sent s)).tree := by
  rw [tree_store]
  cases hpart : s.tree.placeForFile (partPath (settings.cachePath dataset url)) with
  | error e => exact .kept ht
  | ok part =>
      dsimp only
      split
      · exact .begun ha ht hpart
      · rename_i hcomplete
        cases hplace : (s.tree.put part (.file body)).placeForFile
            (settings.cachePath dataset url) with
        | error e =>
            -- the body is complete, but stays under its temporary name
            have hbody : arrivedBytes body sent = body := arrivedBytes_of_complete hcomplete
            rw [← hbody]
            exact .begun ha ht hpart
        | ok place => exact .landed ha ht hpart hcomplete hplace

theorem fetched_request {s : Shelf} (hsource : settings.source dataset = .url url)
    (hmissing : t.exists? (settings.cachePath dataset url) = false) (ht : t.Extends s.tree) :
    Fetched settings web dataset t
      (stateBehind (request web url (settings.cachePath dataset url) s)).tree := by
  rw [request, bind_of_ok (Shelf.run_tell _ s)]
  cases hweb : web url with
  | unreachable problem => exact .kept ht
  | reply status body sent =>
      dsimp only
      split
      · exact .kept ht
      · rename_i hstatus
        have ha : Answered settings web dataset t url body sent :=
          ⟨hsource, hmissing, status, hweb, by simpa using hstatus⟩
        exact fetched_store ha ht

theorem fetched_download (hsource : settings.source dataset = .url url) (s : Shelf) :
    Fetched settings web dataset s.tree
      (stateBehind (download web url (settings.cachePath dataset url) s)).tree := by
  cases hexists : s.tree.exists? (settings.cachePath dataset url) with
  | true =>
      rw [download_of_exists hexists]
      exact .kept (.refl _)
  | false =>
      rw [download_of_missing hexists]
      cases Files.Path.parent? (settings.cachePath dataset url) with
      | none => exact fetched_request hsource hexists (.refl _)
      | some directory =>
          have hmake := Tree.createDirectories_extends directory s.tree
          rw [← Shelf.tree_makeDirectories] at hmake
          dsimp only
          cases hrun : Shelf.makeDirectories directory s with
          | error e u =>
              rw [hrun] at hmake
              rw [bind_of_error hrun]
              exact .kept hmake
          | ok _ u =>
              rw [hrun] at hmake
              rw [bind_of_ok hrun]
              exact fetched_request hsource hexists hmake

end Fetching

/-- Reading a file leaves everything as it is. -/
theorem behind_openStream (path : String) (s : Shelf) :
    stateBehind (openStream path s) = s := by
  rw [openStream, bind_of_ok (run_get s)]
  cases s.tree.openFile path with
  | error f => rfl
  | ok node => cases node <;> rfl

/-- A table from the web is opened when its download is over. -/
theorem behind_openTable {settings : Settings} {dataset : Dataset} {url : String}
    (hsource : settings.source dataset = .url url) (web : Web) (s : Shelf) :
    stateBehind (openTable settings web dataset s)
      = stateBehind (download web url (settings.cachePath dataset url) s) := by
  rw [openTable, hsource]
  dsimp only
  cases hrun : download web url (settings.cachePath dataset url) s with
  | error e u => rw [bind_of_error hrun]; rfl
  | ok _ u => rw [bind_of_ok hrun, behind_openStream]; rfl

/-- Whatever the web answers, opening a table does to the files what `Fetched` says. -/
theorem fetched_openTable (settings : Settings) (web : Web) (dataset : Dataset) (s : Shelf) :
    Fetched settings web dataset s.tree
      (stateBehind (openTable settings web dataset s)).tree := by
  cases hsource : settings.source dataset with
  | file path =>
      rw [openTable, hsource]
      dsimp only
      rw [behind_openStream]
      exact .kept (.refl _)
  | url url =>
      rw [behind_openTable hsource]
      exact fetched_download hsource s

theorem state_cachingFetcher (settings : Settings) (web : Web) (dataset : Dataset) (t : Tree) :
    (cachingFetcher settings web dataset t).state
      = (stateBehind (openTable settings web dataset ⟨t, []⟩)).tree := by
  rw [cachingFetcher]
  cases openTable settings web dataset ⟨t, []⟩ <;> rfl

theorem fetched_cachingFetcher (settings : Settings) (web : Web) (dataset : Dataset)
    (t : Tree) :
    Fetched settings web dataset t (cachingFetcher settings web dataset t).state := by
  rw [state_cachingFetcher]
  exact fetched_openTable settings web dataset ⟨t, []⟩

/-- Without an answer that has a body, opening a table makes directories at most. -/
theorem extends_of_unanswered {settings : Settings} {web : Web} {dataset : Dataset} {t u : Tree}
    (h : Fetched settings web dataset t u)
    (hunanswered : ∀ url body sent, ¬ Answered settings web dataset t url body sent) :
    t.Extends u := by
  cases h with
  | kept hu => exact hu
  | begun ha => exact absurd ha (hunanswered _ _ _)
  | landed ha => exact absurd ha (hunanswered _ _ _)

/-! ## Tables that are there -/

/-- The stream of what a path leads to. -/
def streamOf (path : String) : Node → Stream
  | .file contents => .whole contents.data.toList
  | .directory => ⟨.atOnce [], some (.of (.file ⟨.readFile, path, .isDirectory⟩))⟩

theorem openStream_of_lookUp {path : String} {node : Node} {s : Shelf}
    (h : s.tree.lookUp path = .ok node) : openStream path s = .ok (streamOf path node) s := by
  rw [openStream, bind_of_ok (run_get s), Tree.openFile, h]
  cases node <;> rfl

theorem openStream_eq_ok {path : String} {stream : Stream} {s u : Shelf}
    (h : openStream path s = .ok stream u) :
    ∃ node, s.tree.lookUp path = .ok node ∧ stream = streamOf path node ∧ u = s := by
  cases hlook : s.tree.lookUp path with
  | error e =>
      rw [openStream, bind_of_ok (run_get s), Tree.openFile, hlook] at h
      cases h
  | ok node =>
      rw [openStream_of_lookUp hlook] at h
      cases h
      exact ⟨node, rfl, rfl, rfl⟩

/-- A table that is there is opened as it is, whatever the web says, and nothing changes. -/
theorem fetch_of_lookUp {settings : Settings} {dataset : Dataset} {url : String} {t : Tree}
    {node : Node} (hsource : settings.source dataset = .url url)
    (h : t.lookUp (settings.cachePath dataset url) = .ok node) (web : Web) :
    cachingFetcher settings web dataset t
      = { log := [⟨.info, .fetching, settings.cachePath dataset url ++ " already exists"⟩]
          result := .ok (streamOf (settings.cachePath dataset url) node)
          state := t } := by
  have hexists : t.exists? (settings.cachePath dataset url) = true := by
    rw [Tree.exists?, h]
    rfl
  have hdownload : download web url (settings.cachePath dataset url) ⟨t, []⟩ = .ok ()
      ⟨t, [⟨.info, .fetching, settings.cachePath dataset url ++ " already exists"⟩]⟩ :=
    download_of_exists hexists
  have hstream : ∀ log, openStream (settings.cachePath dataset url) ⟨t, log⟩
      = .ok (streamOf (settings.cachePath dataset url) node) ⟨t, log⟩ :=
    fun log => openStream_of_lookUp h
  rw [cachingFetcher, openTable, hsource]
  dsimp only
  rw [bind_of_ok hdownload, hstream]

/-- A table that can be read where downloads are kept is what is read, whatever the web
says. -/
theorem result_of_contents {settings : Settings} {dataset : Dataset} {url : String} {t : Tree}
    {c : ByteArray} (hsource : settings.source dataset = .url url)
    (h : t.contents (settings.cachePath dataset url) = .ok c) (web : Web) :
    (cachingFetcher settings web dataset t).result = .ok (.whole c.data.toList) := by
  rw [fetch_of_lookUp hsource (Tree.contents_eq_ok_iff.1 h)]
  rfl

end Populace.Sources
