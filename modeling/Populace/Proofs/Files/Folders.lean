import Populace.Proofs.Files.Ways

/-!
# Making directories

On the way to making a directory nothing changes but what is missing on that way
(`Confined`), and nothing but directories is added. It makes no difference to do it again:
the second time ends as the first did, with the directory there or with the same reason,
and leaves everything as it is.
-/

namespace Populace.Files.Tree

/-! ## One directory -/

theorem isDirectory_iff {t : Tree} {path : String} :
    t.isDirectory path = true
      ↔ ∃ place, t.locate path = .ok place ∧ t.node? place = some .directory := by
  rw [isDirectory, lookUp]
  cases hl : t.locate path with
  | error e => simp [bind, Except.bind]
  | ok place =>
      simp only [bind, Except.bind, Except.ok.injEq, exists_eq_left']
      cases hnode : t.node? place with
      | none => simp [throw, throwThe, MonadExceptOf.throw]
      | some node =>
          cases node with
          | directory => simp [pure, Except.pure]
          | file c =>
              cases Path.endsInSlash path <;>
                simp [throw, throwThe, MonadExceptOf.throw, pure, Except.pure]

theorem lookUp_eq_directory_iff {t : Tree} {path : String} :
    t.lookUp path = .ok .directory ↔ t.isDirectory path = true := by
  rw [isDirectory]
  cases t.lookUp path with
  | error e => simp
  | ok node => cases node <;> simp

theorem isDirectory_of_grows {t u : Tree} (h : Grows t u) {path : String}
    (hd : t.isDirectory path = true) : u.isDirectory path = true := by
  obtain ⟨place, hl, hnode⟩ := isDirectory_iff.1 hd
  exact isDirectory_iff.2 ⟨place, locate_of_grows h hl, h.directories place hnode⟩

/-- What becomes of a path that a directory is to be made at. -/
theorem makeDirectory_eq (t : Tree) (path : String) :
    t.makeDirectory path = match t.locate path with
      | .error e => .error e
      | .ok place => match t.node? place with
        | some _ => .error .exists
        | none => .ok (t.put place .directory) := by
  rw [makeDirectory]
  cases t.locate path with
  | error e => rfl
  | ok place => cases hnode : t.node? place <;> simp [bind, Except.bind, hnode] <;> rfl

theorem makeDirectory_of_error {t : Tree} {path : String} {e : Reason}
    (h : t.locate path = .error e) : t.makeDirectory path = .error e := by
  rw [makeDirectory_eq, h]

theorem makeDirectory_of_isDirectory {t : Tree} {path : String} (h : t.isDirectory path = true) :
    t.makeDirectory path = .error .exists := by
  obtain ⟨place, hl, hnode⟩ := isDirectory_iff.1 h
  simp only [makeDirectory_eq, hl, hnode]

theorem makeDirectory_eq_ok_iff {t u : Tree} {path : String} :
    t.makeDirectory path = .ok u ↔ ∃ place, t.locate path = .ok place
      ∧ t.node? place = none ∧ u = t.put place .directory := by
  rw [makeDirectory_eq]
  cases hl : t.locate path with
  | error e => simp
  | ok place => cases hnode : t.node? place <;> simp [hnode, eq_comm]

theorem isDirectory_of_makeDirectory {t u : Tree} {path : String}
    (h : t.makeDirectory path = .ok u) : u.isDirectory path = true := by
  obtain ⟨place, hl, hnode, rfl⟩ := makeDirectory_eq_ok_iff.1 h
  exact isDirectory_iff.2 ⟨place, locate_of_grows (extends_put hnode).toGrows hl,
    node?_put_self (ne_nil_of_none hnode) _⟩

/-- Makes a directory, if it is not there already. -/
def ensure (path : String) : EStateM Reason Tree Unit :=
  fun t => match t.makeDirectory path with
    | .ok u => .ok () u
    | .error e => if t.isDirectory path then .ok () t else .error e t

theorem ensure_of_isDirectory {t : Tree} {path : String} (h : t.isDirectory path = true) :
    ensure path t = .ok () t := by
  simp only [ensure, makeDirectory_of_isDirectory h, if_pos h]

theorem ensure_eq_ok {t u : Tree} {path : String} (h : ensure path t = .ok () u) :
    u.isDirectory path = true := by
  rw [ensure] at h
  cases hmake : t.makeDirectory path with
  | ok v =>
      rw [hmake] at h
      cases h
      exact isDirectory_of_makeDirectory hmake
  | error e =>
      rw [hmake] at h
      by_cases hd : t.isDirectory path = true
      · simp only [if_pos hd] at h
        cases h
        exact hd
      · simp only [if_neg hd] at h
        cases h

theorem ensure_eq_error_iff {t u : Tree} {path : String} {e : Reason} :
    ensure path t = .error e u
      ↔ t.makeDirectory path = .error e ∧ t.isDirectory path = false ∧ u = t := by
  rw [ensure]
  cases hmake : t.makeDirectory path with
  | ok v => simp
  | error e' =>
      cases hd : t.isDirectory path with
      | true => simp
      | false => simp [eq_comm]

theorem ensure_of_error {t : Tree} {path : String} {e : Reason} (h : t.locate path = .error e) :
    ensure path t = .error e t := by
  refine ensure_eq_error_iff.2 ⟨makeDirectory_of_error h, ?_, rfl⟩
  rw [isDirectory, lookUp, h]
  rfl

theorem ensure_extends (path : String) : Keeps Extends (ensure path) := by
  intro t
  rw [ensure]
  cases hmake : t.makeDirectory path with
  | ok u =>
      obtain ⟨place, -, hnode, rfl⟩ := makeDirectory_eq_ok_iff.1 hmake
      exact extends_put hnode
  | error e =>
      dsimp only
      split <;> exact .refl t

/-! ## All directories on a way -/

/-- There is nothing to be made at the path. -/
def There (t : Tree) (path : String) : Prop :=
  path = "" ∨ t.isDirectory path = true

theorem There.of_grows {t u : Tree} (h : Grows t u) {path : String} (hp : t.There path) :
    u.There path :=
  hp.imp_right (isDirectory_of_grows h)

section Levels

variable {t u : Tree} {path : String} {depth : Nat}

/-- If a directory above is missing, the ones above come first. -/
theorem makeDirectories_of_notFound (hpath : path ≠ "")
    (h : t.makeDirectory path = .error .notFound) :
    makeDirectories path (depth + 1) t = match Path.parent? path with
      | none => .error .notFound t
      | some above => (do
          makeDirectories above depth
          ensure path) t := by
  rw [makeDirectories, if_neg (by simpa using hpath), bind_of_ok (run_get t), h]
  dsimp only
  cases Path.parent? path with
  | none => rfl
  | some above =>
      dsimp only
      cases hrun : makeDirectories above depth t with
      | error e v => rw [bind_of_error hrun, bind_of_error hrun]
      | ok _ v =>
          rw [bind_of_ok hrun, bind_of_ok hrun, bind_of_ok (run_get v), ensure]
          cases v.makeDirectory path with
          | ok w => rfl
          | error e => cases v.isDirectory path <;> rfl

theorem makeDirectories_of_found (hpath : path ≠ "")
    (h : t.makeDirectory path ≠ .error .notFound) :
    makeDirectories path (depth + 1) t = ensure path t := by
  rw [makeDirectories, if_neg (by simpa using hpath), bind_of_ok (run_get t), ensure]
  cases hmake : t.makeDirectory path with
  | ok w => rfl
  | error e =>
      cases e with
      | notFound => exact absurd hmake h
      | _ => cases t.isDirectory path <;> rfl

theorem makeDirectories_of_there (h : t.There path) (depth : Nat) :
    makeDirectories path depth t = .ok () t := by
  cases depth with
  | zero => rfl
  | succ depth =>
      by_cases hpath : path = ""
      · rw [makeDirectories, if_pos (by simp [hpath])]
        rfl
      · have hd := h.resolve_left hpath
        rw [makeDirectories_of_found hpath (by simp [makeDirectory_of_isDirectory hd]),
          ensure_of_isDirectory hd]

theorem there_of_makeDirectories (h : makeDirectories path (depth + 1) t = .ok () u) :
    u.There path := by
  by_cases hpath : path = ""
  · exact .inl hpath
  · refine .inr ?_
    by_cases hmake : t.makeDirectory path = .error .notFound
    · rw [makeDirectories_of_notFound hpath hmake] at h
      split at h
      · cases h
      · obtain ⟨_, v, -, hensure⟩ := bind_eq_ok_iff.1 h
        exact ensure_eq_ok hensure
    · rw [makeDirectories_of_found hpath hmake] at h
      exact ensure_eq_ok h

/-- What has been made once need not be made again. -/
theorem makeDirectories_again_of_ok (h : makeDirectories path depth t = .ok () u) :
    makeDirectories path depth u = .ok () u := by
  cases depth with
  | zero => rfl
  | succ depth => exact makeDirectories_of_there (there_of_makeDirectories h) _

/-- What the making of one directory keeps is kept however far the making of all of them
gets. -/
theorem makeDirectories_keeps {R : Tree → Tree → Prop} {P : String → Prop} (refl : ∀ t, R t t)
    (trans : ∀ {a b c}, R a b → R b c → R a c)
    (habove : ∀ {path above}, P path → Path.Above above path → P above)
    (hensure : ∀ path, P path → Keeps R (ensure path)) (hpath : P path) (depth : Nat) :
    Keeps R (makeDirectories path depth) := by
  induction depth generalizing path with
  | zero => exact refl
  | succ depth ih =>
      intro t
      by_cases hempty : path = ""
      · rw [makeDirectories_of_there (.inl hempty)]
        exact refl t
      · by_cases hmake : t.makeDirectory path = .error .notFound
        · rw [makeDirectories_of_notFound hempty hmake]
          cases hparent : Path.parent? path with
          | none => exact refl t
          | some above =>
              -- the directory above is made first, and then this one
              exact (ih (habove hpath (Path.above_of_parent hparent))).bind trans
                (fun _ => hensure path hpath) t
        · rw [makeDirectories_of_found hempty hmake]
          exact hensure path hpath t

theorem makeDirectories_extends (path : String) (depth : Nat) :
    Keeps Extends (makeDirectories path depth) :=
  makeDirectories_keeps (P := fun _ => True) .refl .trans (fun _ _ => trivial)
    (fun path _ => ensure_extends path) trivial depth

/-! ## Making them again -/

theorem followable_of_notFound (hpath : path ≠ "") (h : t.makeDirectory path = .error .notFound) :
    Followable path := by
  have hempty : path.isEmpty = false := by simpa using hpath
  have hzero : path.toList.contains '\x00' = false := by
    refine Bool.eq_false_iff.2 fun hzero => ?_
    have hl : t.locate path = .error .zeroByte := by rw [locate, if_pos hzero]
    simp [makeDirectory_of_error hl] at h
  refine ⟨hzero, hempty, Nat.not_le.1 fun hlong => ?_⟩
  have hl : t.locate path = .error .nameTooLong := by
    rw [locate, hzero, hempty, if_neg (by simp), if_neg (by simp), if_pos hlong]
  simp [makeDirectory_of_error hl] at h

/-- If the directory above cannot be made, neither can this one, unless it is a file that
is in the way. -/
theorem makeDirectories_of_above {above : String} {e : Reason} (hpath : Followable path)
    (hparent : Path.parent? path = some above)
    (habove : makeDirectories above depth u = .error e u)
    (hfile : ∀ place c, u.follow (u.startOf above) (Path.pieces above) = .ok place →
      u.node? place ≠ some (.file c)) :
    makeDirectories path (depth + 1) u = .error e u := by
  have hne : path ≠ "" := by simpa using hpath.2.1
  have hthere := Path.above_of_parent hparent
  obtain ⟨way, hway, hpieces⟩ := hthere.pieces_eq_append
  have hlocate := locate_of_above hpath hthere hpieces u
  by_cases hmake : u.makeDirectory path = .error .notFound
  · rw [makeDirectories_of_notFound hne hmake, hparent]
    dsimp only
    rw [bind_of_error habove]
  · rw [makeDirectories_of_found hne hmake]
    cases hfollow : u.follow (u.startOf above) (Path.pieces above) with
    | error e' =>
        -- both paths break off at the same place
        rw [hfollow] at hlocate
        have hne' : above ≠ "" := by
          rintro rfl
          cases hfollow
        have hl : u.locate above = .error e' := by
          rw [locate_of_followable (followable_of_begins hthere.isPrefix hne' hpath), hfollow]
        cases depth with
        | zero => cases habove
        | succ depth =>
            have hfound : u.makeDirectory above ≠ .error .notFound := by
              rw [makeDirectory_of_error hl, ← makeDirectory_of_error hlocate]
              exact hmake
            rw [makeDirectories_of_found hne' hfound, ensure_of_error hl] at habove
            rw [ensure_of_error hlocate, ← habove]
    | ok place =>
        rw [hfollow] at hlocate
        cases hnode : u.node? place with
        | none =>
            exact absurd (makeDirectory_of_error (hlocate.trans (follow_of_none hway hnode))) hmake
        | some node =>
            cases node with
            | file c => exact absurd hnode (hfile place c hfollow)
            | directory =>
                have hthere : u.There above := by
                  refine Decidable.or_iff_not_imp_left.2 fun hne' => ?_
                  exact isDirectory_iff.2 ⟨place, by
                    rw [locate_of_followable (followable_of_begins hthere.isPrefix hne' hpath),
                      hfollow], hnode⟩
                rw [makeDirectories_of_there hthere] at habove
                cases habove

theorem makeDirectories_again_of_error {e : Reason} (hrooted : t.Rooted)
    (hstraight : Straight path) (h : makeDirectories path depth t = .error e u) :
    makeDirectories path depth u = .error e u := by
  induction depth generalizing path e u with
  | zero => cases h
  | succ depth ih =>
      have hpath : path ≠ "" := by
        intro hnil
        rw [makeDirectories_of_there (.inl hnil)] at h
        cases h
      by_cases hmake : t.makeDirectory path = .error .notFound
      · have hround : makeDirectories path (depth + 1) t = _ :=
          makeDirectories_of_notFound hpath hmake
        rw [hround] at h
        cases hparent : Path.parent? path with
        | none =>
            rw [hparent] at h hround
            cases h
            exact hround
        | some above =>
            rw [hparent] at h
            have hfollowable := followable_of_notFound hpath hmake
            have habove := Path.above_of_parent hparent
            have hdots := hstraight.above habove
            dsimp only at h
            cases hrun : makeDirectories above depth t with
            | error e' v =>
                have hextends := makeDirectories_extends above depth t
                rw [hrun] at hextends
                rw [bind_of_error hrun] at h
                cases h
                refine makeDirectories_of_above hfollowable hparent (ih hdots hrun) ?_
                intro place c hfollow hnode
                have hl := locate_of_file_above hrooted hextends hfollowable habove hdots hfollow
                  hnode
                rw [makeDirectory_of_error hl] at hmake
                cases hmake
            | ok _ v =>
                rw [bind_of_ok hrun] at h
                obtain ⟨-, -, rfl⟩ := ensure_eq_error_iff.1 h
                by_cases hagain : u.makeDirectory path = .error .notFound
                · rw [makeDirectories_of_notFound hpath hagain, hparent]
                  dsimp only
                  rw [bind_of_ok (makeDirectories_again_of_ok hrun), h]
                · rw [makeDirectories_of_found hpath hagain, h]
      · rw [makeDirectories_of_found hpath hmake] at h
        obtain ⟨-, -, rfl⟩ := ensure_eq_error_iff.1 h
        rw [makeDirectories_of_found hpath hmake, h]

end Levels

section Making

variable {t u : Tree} {path : String}

theorem createDirectories_keeps {R : Tree → Tree → Prop}
    (h : ∀ depth, Keeps R (makeDirectories path depth)) : Keeps R (createDirectories path) := by
  intro t
  have hmade := h (path.length + 1) t
  rw [createDirectories]
  cases hmake : makeDirectories path (path.length + 1) t with
  | ok _ u =>
      rw [hmake] at hmade
      exact hmade
  | error e u =>
      rw [hmake] at hmade
      exact hmade

theorem createDirectories_extends (path : String) : Keeps Extends (createDirectories path) :=
  createDirectories_keeps (makeDirectories_extends path)

theorem extends_of_createDirectories (h : createDirectories path t = .ok () u) :
    t.Extends u := by
  have hextends := createDirectories_extends path t
  rwa [h] at hextends

theorem createDirectories_of_there {t : Tree} {path : String} (h : t.There path) :
    createDirectories path t = .ok () t := by
  rw [createDirectories, makeDirectories_of_there h]

theorem there_of_createDirectories {t u : Tree} {path : String}
    (h : createDirectories path t = .ok () u) : u.There path := by
  rw [createDirectories] at h
  cases hrun : makeDirectories path (path.length + 1) t with
  | ok _ v =>
      rw [hrun] at h
      cases h
      exact there_of_makeDirectories hrun
  | error e v =>
      rw [hrun] at h
      cases h

/-- Making all directories on a straight way once more ends as it did the first time, and
changes nothing. -/
theorem createDirectories_again {t : Tree} {path : String} (hrooted : t.Rooted)
    (hstraight : Straight path) :
    createDirectories path (stateBehind (createDirectories path t)) = createDirectories path t := by
  cases hmake : makeDirectories path (path.length + 1) t with
  | ok _ u =>
      have hfirst : createDirectories path t = .ok () u := by
        simp only [createDirectories, hmake]
      have hsecond : createDirectories path u = .ok () u := by
        simp only [createDirectories, makeDirectories_again_of_ok hmake]
      rw [hfirst, stateBehind_ok, hsecond]
  | error e u =>
      have hfirst : createDirectories path t = .error ⟨.createDirectory, path, e⟩ u := by
        simp only [createDirectories, hmake]
      have hsecond : createDirectories path u = .error ⟨.createDirectory, path, e⟩ u := by
        simp only [createDirectories, makeDirectories_again_of_error hrooted hstraight hmake]
      rw [hfirst, stateBehind_error, hsecond]

end Making

/-! ## What may change -/

/-- Nothing has changed but that directories that were missing on the way of a path are
there, and what has one of some names behind it. -/
structure Confined (path : String) (names : List String) (t u : Tree) : Prop where
  here : u.here = t.here
  nodes : ∀ place, u.node? place = t.node? place
    ∨ (t.node? place = none ∧ u.node? place = some .directory
      ∧ ∃ front, front ≠ [] ∧ front <+: t.placeOf path ∧ keyOf place = keyOf front)
    ∨ ∃ name ∈ names, keyOf place = keyOf (t.placeOf path ++ [name])

section Confined

variable {t u v : Tree} {path : String} {names : List String}

theorem Confined.refl (path : String) (names : List String) (t : Tree) : Confined path names t t :=
  ⟨rfl, fun _ => .inl rfl⟩

theorem Confined.trans (h : Confined path names t u) (h' : Confined path names u v) :
    Confined path names t v := by
  refine ⟨h'.here.trans h.here, fun place => ?_⟩
  have hplace := placeOf_of_here h.here path
  have hnode' := h'.nodes place
  rw [hplace] at hnode'
  rcases h.nodes place with hsame | ⟨hnone, hdirectory, hfront⟩ | hname
  · rwa [← hsame]
  · rcases hnode' with hsame' | ⟨hnone', -⟩ | hname'
    · exact .inr (.inl ⟨hnone, hsame'.trans hdirectory, hfront⟩)
    · rw [hdirectory] at hnone'
      cases hnone'
    · exact .inr (.inr hname')
  · exact .inr (.inr hname)

/-- What is confined to the way of a path is confined to a longer one, and to names
behind it. -/
theorem Confined.widen {other : String} (h : Confined other [] t u)
    (hother : t.placeOf other <+: t.placeOf path) : Confined path names t u := by
  refine ⟨h.here, fun place => ?_⟩
  rcases h.nodes place with hsame | ⟨hnone, hdirectory, front, hne, hfront, hkey⟩ | ⟨_, hmem, -⟩
  · exact .inl hsame
  · exact .inr (.inl ⟨hnone, hdirectory, front, hne, hfront.trans hother, hkey⟩)
  · cases hmem

/-- What is put behind the path under one of the names stays confined. -/
theorem Confined.put {name : String} {place : List String} (h : Confined path names t u)
    (hmem : name ∈ names) (hplace : place = t.placeOf path ++ [name]) (node : Node) :
    Confined path names t (u.put place node) := by
  refine ⟨h.here, fun other => ?_⟩
  rw [node?_put]
  split
  · rename_i hnil
    exact .inl (by rw [hnil, node?_nil])
  · split
    · rename_i hkey
      exact .inr (.inr ⟨name, hmem, hplace ▸ hkey⟩)
    · exact h.nodes other

theorem Confined.remove {name : String} {place : List String} (h : Confined path names t u)
    (hmem : name ∈ names) (hplace : place = t.placeOf path ++ [name]) :
    Confined path names t (u.remove place) := by
  refine ⟨h.here, fun other => ?_⟩
  rw [node?_remove]
  split
  · rename_i hnil
    exact .inl (by rw [hnil, node?_nil])
  · split
    · rename_i hkey
      exact .inr (.inr ⟨name, hmem, hplace ▸ hkey⟩)
    · exact h.nodes other

theorem ensure_confined (hstraight : Straight path) : Keeps (Confined path []) (ensure path) := by
  intro t
  rw [ensure]
  cases hmake : t.makeDirectory path with
  | ok u =>
      obtain ⟨place, hl, hnode, rfl⟩ := makeDirectory_eq_ok_iff.1 hmake
      have hplace := place_of_locate hstraight hl
      refine ⟨rfl, fun names => ?_⟩
      rw [stateBehind_ok, node?_put]
      split
      · rename_i hnil
        exact .inl (by rw [hnil, node?_nil])
      · rename_i hnil
        split
        · rename_i hkey
          have hne := ne_nil_of_none hnode
          exact .inr (.inl ⟨(node?_congr hnil hne hkey).trans hnode, rfl, place, hne,
            hplace ▸ List.prefix_rfl, hkey⟩)
        · exact .inl rfl
  | error e =>
      dsimp only
      split <;> exact .refl path [] t

/-- A path without a way back, whose way is a part of the way of another path in any tree. -/
def OnWay (path other : String) : Prop :=
  Straight other ∧ ∀ t : Tree, t.placeOf other <+: t.placeOf path

theorem OnWay.above {other above : String} (h : OnWay path other)
    (habove : Path.Above above other) : OnWay path above :=
  ⟨h.1.above habove, fun t => (placeOf_above habove t).trans (h.2 t)⟩

theorem createDirectories_confined (hstraight : Straight path) :
    Keeps (Confined path []) (createDirectories path) := by
  refine createDirectories_keeps fun depth => ?_
  refine makeDirectories_keeps (P := OnWay path) (.refl path []) .trans ?_ ?_ ?_ depth
  · exact fun hother habove => hother.above habove
  · exact fun other hother t => (ensure_confined hother.1 t).widen (hother.2 t)
  · exact ⟨hstraight, fun t => List.prefix_rfl⟩

end Confined

end Populace.Files.Tree
