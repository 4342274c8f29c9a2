import Populace.Proofs.Command.CommandLine
import Populace.Proofs.Command.Output
import Populace.Proofs.Journal.Agreement

/-!
# What a run does besides telling of it

What is shown on the way, and whether it is, has no part in what a run does: preparing is
the same with journals that agree, and what is written depends on the plan and the seed
alone. So two runs from the same input end alike and leave the same files and the same
output, and an output that goes to a file is the one that would have been printed.
-/

namespace Populace

variable {σ α : Type}

/-! ## Loading -/

namespace Sources

/-- The fetchers are in the same state, and the journals agree. -/
def Loading.Agree (l m : Loading σ) : Prop :=
  l.fetcher = m.fetcher ∧ l.journal.Agree m.journal

variable {l m : Loading σ}

theorem Loading.journaling_alike {action : EStateM Failure Journal α}
    (haction : Journal.Heedless action) (h : Loading.Agree l m) :
    Alike Loading.Agree (Loading.journaling action l) (Loading.journaling action m) := by
  obtain ⟨f, j⟩ := l
  obtain ⟨f', k⟩ := m
  obtain ⟨hfetcher, hjournal⟩ := h
  dsimp only at hfetcher hjournal
  subst hfetcher
  rw [Loading.journaling, Loading.journaling]
  rcases (haction j k hjournal).cases with ⟨a, j', k', hj, hk, h⟩ | ⟨e, j', k', hj, hk, h⟩
  · rw [hj, hk]
    exact .ok ⟨rfl, h⟩
  · rw [hj, hk]
    exact .error ⟨rfl, h⟩

theorem Loading.fetch_alike (fetcher : Fetcher σ) (dataset : Dataset) (h : Loading.Agree l m) :
    Alike Loading.Agree (Loading.fetch fetcher dataset l) (Loading.fetch fetcher dataset m) := by
  obtain ⟨f, j⟩ := l
  obtain ⟨f', k⟩ := m
  obtain ⟨hfetcher, hjournal⟩ := h
  dsimp only at hfetcher hjournal
  subst hfetcher
  have hnoted : ∀ records : List Record,
      (records.foldl (fun j r => j.note (.logged r)) j).Agree
        (records.foldl (fun j r => j.note (.logged r)) k) := by
    intro records
    induction records generalizing j k with
    | nil => exact hjournal
    | cons r rest ih => exact ih _ _ (hjournal.map fun j => Journal.agree_note j _)
  rw [Loading.fetch, Loading.fetch]
  cases (fetcher dataset f).result with
  | ok stream => exact .ok ⟨rfl, hnoted _⟩
  | error e => exact .error ⟨rfl, hnoted _⟩

theorem loadTable_alike (fetcher : Fetcher σ) (dataset : Dataset)
    (read : Stream → Except Failure α) (h : Loading.Agree l m) :
    Alike Loading.Agree (loadTable fetcher dataset read l) (loadTable fetcher dataset read m) := by
  refine (Loading.journaling_alike (.modify fun _ _ h => h.start _) h).bind fun _ l₁ m₁ h₁ => ?_
  have htable : Alike Loading.Agree
      ((Loading.fetch fetcher dataset >>= fun stream => orFail (read stream)) l₁)
      ((Loading.fetch fetcher dataset >>= fun stream => orFail (read stream)) m₁) :=
    (Loading.fetch_alike fetcher dataset h₁).bind fun stream _ _ h => alike_orFail h _
  exact htable.inContext.bind fun table _ _ h =>
    (Loading.journaling_alike (.stop _) h).bind fun _ _ _ h => .ok h

theorem load_alike (fetcher : Fetcher σ) (h : Loading.Agree l m) :
    Alike Loading.Agree (load fetcher l) (load fetcher m) := by
  refine (Loading.journaling_alike (.modify fun _ _ h => h.start _) h).bind fun _ _ _ h => ?_
  refine (loadTable_alike fetcher _ _ h).bind fun users _ _ h => ?_
  refine (loadTable_alike fetcher _ _ h).bind fun areas _ _ h => ?_
  refine (loadTable_alike fetcher _ _ h).bind fun locations _ _ h => ?_
  refine (loadTable_alike fetcher _ _ h).bind fun first _ _ h => ?_
  refine (loadTable_alike fetcher _ _ h).bind fun last _ _ h => ?_
  refine (Loading.journaling_alike (.modify fun _ _ h => ?_) h).bind fun _ _ _ h => ?_
  · exact (h.map fun j => Journal.agree_note j _).map fun j => Journal.agree_note j _
  · refine (alike_orRefuse h _).bind fun names _ _ h => ?_
    exact (Loading.journaling_alike (.stop _) h).bind fun _ _ _ h => .ok h

end Sources

/-! ## Planning -/

namespace Census

theorem agree_logSkipped (countries : List String) (j : Journal) :
    j.Agree (logSkipped countries j) := by
  obtain ⟨notes, hnotes⟩ := logSkipped_eq countries j
  rw [hnotes]
  rfl

theorem new_heedless (data : Reference) (options : People.Options) :
    Journal.Heedless (Plan.new data options) := by
  refine (Journal.Heedless.orRefuse _).bind fun _ => ?_
  refine (Journal.Heedless.modify fun _ _ h => h.start _).bind fun _ => ?_
  refine (Journal.Heedless.orRefuse _).bind fun quotas => ?_
  refine (Journal.Heedless.modify fun _ _ h => h.map (agree_logSkipped _)).bind fun _ => ?_
  refine (Journal.Heedless.modify fun _ _ h => ?_).bind fun _ => ?_
  · exact h.map fun j => Journal.agree_note j _
  · exact (Journal.Heedless.stop _).bind fun _ => .done _

end Census

namespace Command

open Populace.Census (Course Plan Setting)
open Populace.Files (Tree)
open Populace.Sources (Settings Web)

/-! ## Preparing -/

/-- The files and what has been printed are the same. -/
def State.SameFiles (s t : State) : Prop :=
  s.tree = t.tree ∧ s.stdout = t.stdout

/-- All but the notes is the same, and the journals agree. -/
def State.Agree (s t : State) : Prop :=
  s.journal.Agree t.journal ∧ s.SameFiles t

section Preparing

variable {s t : State}

theorem Part.journaling_alike {action : EStateM Failure Journal α}
    (haction : Journal.Heedless action) (h : s.Agree t) :
    Alike State.Agree (Part.journaling action s) (Part.journaling action t) := by
  obtain ⟨j, tree, stdout⟩ := s
  obtain ⟨k, tree', stdout'⟩ := t
  obtain ⟨hjournal, htree, hstdout⟩ := h
  dsimp only at hjournal htree hstdout
  subst htree hstdout
  rw [Part.journaling, Part.journaling]
  rcases (haction j k hjournal).cases with ⟨a, j', k', hj, hk, h⟩ | ⟨e, j', k', hj, hk, h⟩
  · rw [hj, hk]
    exact .ok ⟨h, rfl, rfl⟩
  · rw [hj, hk]
    exact .error ⟨h, rfl, rfl⟩

theorem Part.load_alike (settings : Settings) (web : Web) (h : s.Agree t) :
    Alike State.Agree (Part.load settings web s) (Part.load settings web t) := by
  obtain ⟨j, tree, stdout⟩ := s
  obtain ⟨k, tree', stdout'⟩ := t
  obtain ⟨hjournal, htree, hstdout⟩ := h
  have halike := Sources.load_alike (Sources.cachingFetcher settings web)
    (l := ⟨tree, j⟩) (m := ⟨tree', k⟩) ⟨htree, hjournal⟩
  dsimp only at hstdout
  subst hstdout
  rw [Part.load, Part.load]
  rcases halike.cases with ⟨data, l, m, hl, hm, h⟩ | ⟨e, l, m, hl, hm, h⟩
  · rw [hl, hm]
    exact .ok ⟨h.2, h.1, rfl⟩
  · rw [hl, hm]
    exact .error ⟨h.2, h.1, rfl⟩

theorem prepare_alike (w : Surroundings) (args : Arguments) (h : s.Agree t) :
    Alike State.Agree (prepare w args s) (prepare w args t) := by
  rw [prepare, bind_of_ok (run_get s), bind_of_ok (run_get t), h.2.1]
  refine (alike_orFail h _).bind fun settings _ _ h => ?_
  refine (Part.load_alike settings w.web h).bind fun data _ _ h => ?_
  exact (Part.journaling_alike (Census.new_heedless _ _) h).bind fun plan _ _ h => .ok h

end Preparing

/-! ## Carrying out -/

/-- The same files, the same web and the same day. -/
structure SameInput (w w' : Surroundings) : Prop where
  tree : w.tree = w'.tree
  web : w.web = w'.web
  today : w.today = w'.today

/-- The same people are asked for, wherever they go and whatever is shown. -/
structure SameTask (args args' : Arguments) : Prop where
  people : args.people = args'.people
  seed : args.seed = args'.seed
  settings : args.settings = args'.settings
  model : args.model = args'.model

section Runs

variable {w w' : Surroundings} {args args' : Arguments}

/-- New journals agree, whether they are quiet or not and however the time goes by. -/
theorem newJournal_agree (w w' : Surroundings) (quiet quiet' : Bool) :
    (newJournal w quiet).Agree (newJournal w' quiet') := by
  rw [Journal.Agree, newJournal, newJournal, Journal.running_new, Journal.running_new]

theorem prepared_alike (hinput : SameInput w w') (htask : SameTask args args') :
    Alike State.Agree (prepare w args (start w args)) (prepare w' args' (start w' args')) := by
  have hsame : prepare w args = prepare w' args' := by
    simp only [prepare, htask.people, htask.settings, htask.model, hinput.web, hinput.today]
  rw [hsame]
  exact prepare_alike w' args' ⟨newJournal_agree _ _ _ _, hinput.tree, rfl⟩

/-- Two runs of one task fail alike before the output is created, or write one course. -/
theorem perform_cases (hinput : SameInput w w') (htask : SameTask args args')
    (hseed : args.seed ≠ none) :
    (∃ e s s', perform w args (start w args) = .error e s
        ∧ perform w' args' (start w' args') = .error e s' ∧ s.SameFiles s')
      ∨ ∃ course s s', perform w args (start w args) = record args.output course s
        ∧ perform w' args' (start w' args') = record args'.output course s'
        ∧ s.SameFiles s' ∧ s.stdout = ByteArray.empty := by
  have hstdout := stdout_behind_prepare w args (start w args)
  rw [perform_eq, perform_eq]
  rcases (prepared_alike hinput htask).cases with
    ⟨⟨plan, setting⟩, s, s', hprepared, hprepared', h⟩ | ⟨e, s, s', hprepared, hprepared', h⟩
  · rw [hprepared] at hstdout
    obtain ⟨-, -, _, hplanned⟩ := planned_of_prepare hprepared
    obtain ⟨-, -, _, hplanned'⟩ := planned_of_prepare hprepared'
    obtain ⟨j, hcarried⟩ := carryOut_eq w args plan setting hplanned.behind
    obtain ⟨j', hcarried'⟩ := carryOut_eq w' args' plan setting hplanned'.behind
    -- the seed is the one that is given
    obtain ⟨seed, hgiven⟩ := Option.ne_none_iff_exists'.1 hseed
    have hseeds : seedOf w' args' = seedOf w args := by
      rw [seedOf, seedOf, ← htask.seed, hgiven]
      rfl
    rw [hseeds] at hcarried'
    rw [bind_of_ok hprepared, bind_of_ok hprepared']
    exact .inr ⟨_, _, _, hcarried, hcarried', h.2, hstdout⟩
  · exact .inl ⟨e, s, s', bind_of_error hprepared, bind_of_error hprepared', h.2⟩

/-! ## Where the output goes -/

theorem record_alike (path? : Option String) (course : Course) {s t : State}
    (h : s.SameFiles t) :
    Alike State.SameFiles (record path? course s) (record path? course t) := by
  obtain ⟨htree, hstdout⟩ := h
  rw [record, record, ← htree]
  cases created path? s.tree with
  | error f => exact .error ⟨htree, hstdout⟩
  | ok tree =>
      have hput : ∀ bytes, (Part.putOutput path? bytes { s with tree }).SameFiles
          (Part.putOutput path? bytes { t with tree }) := by
        intro bytes
        cases path? with
        | none => exact ⟨rfl, congrArg (· ++ bytes) hstdout⟩
        | some path => exact ⟨rfl, hstdout⟩
      cases course.ending with
      | ok _ _ => exact .ok (hput _)
      | error e _ => exact .error (hput _)

/-- What is written to a file in one run is printed in the other. -/
theorem record_file {path : String} {course : Course} {s t : State}
    (h : record (some path) course s = .ok () t) (s' : State) :
    t.stdout = s.stdout ∧ t.tree.contents path = .ok (written course)
      ∧ ∃ t', record none course s' = .ok () t' ∧ t'.stdout = s'.stdout ++ written course := by
  rw [record] at h
  cases hplace : s.tree.placeForFile path with
  | error reason =>
      have hcreated : created (some path) s.tree = .error ⟨.createFile, path, reason⟩ := by
        rw [created, Tree.createFile, hplace]
        rfl
      rw [hcreated] at h
      cases h
  | ok place =>
      rw [created_of_place hplace] at h
      cases hend : course.ending with
      | error e g =>
          rw [hend] at h
          cases h
      | ok _ g =>
          rw [hend] at h
          cases h
          refine ⟨rfl, ?_, { s' with stdout := s'.stdout ++ written course }, ?_, rfl⟩
          · exact Tree.contents_fill (Tree.placeForFile_put hplace hplace _) _
          · rw [record, hend]
            rfl

/-! ## Whole runs -/

/-- The runs end alike, have printed the same, and leave the same files. -/
structure SameEffects (a b : Outcome) : Prop where
  exitCode : a.exitCode = b.exitCode
  stdout : a.stdout = b.stdout
  tree : a.tree = b.tree

theorem sameEffects_outcomeOf {r r' : EStateM.Result Failure State Unit}
    (h : Alike State.SameFiles r r') (filter filter' : LogFilter)
    (warnings warnings' : List String) :
    SameEffects (outcomeOf filter warnings r) (outcomeOf filter' warnings' r') := by
  cases h with
  | ok h => exact ⟨rfl, h.2, h.1⟩
  | error h =>
      rename_i e s s'
      cases e <;> exact ⟨rfl, h.2, h.1⟩

/-- Two runs of one task with one output have the same effects. -/
theorem runArguments_sameEffects (hinput : SameInput w w') (htask : SameTask args args')
    (houtput : args.output = args'.output) (hseed : args.seed ≠ none) :
    SameEffects (runArguments w args) (runArguments w' args') := by
  have halike : Alike State.SameFiles (perform w args (start w args))
      (perform w' args' (start w' args')) := by
    rcases perform_cases hinput htask hseed with
      ⟨e, s, s', hrun, hrun', hfiles⟩ | ⟨course, s, s', hrun, hrun', hfiles, -⟩
    · rw [hrun, hrun']
      exact .error hfiles
    · rw [hrun, hrun', houtput]
      exact record_alike _ course hfiles
  exact sameEffects_outcomeOf halike _ _ _ _

/-- A run that writes a file prints nothing, and writes what is printed by a run of the
same task that prints. -/
theorem runArguments_output (hinput : SameInput w w') (htask : SameTask args args')
    (hseed : args.seed ≠ none) {path : String} (hpath : args.output = some path)
    (hprints : args'.output = none) (hsucceeds : (runArguments w args).exitCode = 0) :
    (runArguments w' args').exitCode = 0
      ∧ (runArguments w args).stdout = ByteArray.empty
      ∧ (runArguments w args).tree.contents path = .ok (runArguments w' args').stdout := by
  have hperform : ∀ w args, ∃ filter warnings, runArguments w args
      = outcomeOf filter warnings (perform w args (start w args)) := fun _ _ => ⟨_, _, rfl⟩
  obtain ⟨filter, warnings, hfile⟩ := hperform w args
  obtain ⟨filter', warnings', hprint⟩ := hperform w' args'
  rw [hfile] at hsucceeds
  rw [hfile, hprint]
  rcases perform_cases hinput htask hseed with
    ⟨e, s, s', hrun, -, -⟩ | ⟨course, s, s', hrun, hrun', hfiles, hstdout⟩
  · exact absurd hsucceeds ((exitCode_outcomeOf_ne_zero _ _ _).2 ⟨e, s, hrun⟩)
  · rw [hpath] at hrun
    rw [hprints] at hrun'
    cases hrecord : record (some path) course s with
    | error e t =>
        exact absurd hsucceeds ((exitCode_outcomeOf_ne_zero _ _ _).2 ⟨e, t, hrun.trans hrecord⟩)
    | ok _ t =>
        obtain ⟨hkept, hcontents, t', hrecord', hprinted⟩ := record_file hrecord s'
        rw [← hfiles.2, hstdout, ByteArray.empty_append] at hprinted
        rw [hrun.trans hrecord, hrun'.trans hrecord']
        refine ⟨rfl, hkept.trans hstdout, ?_⟩
        rw [outcomeOf, outcomeOf]
        dsimp only
        rw [hcontents, hprinted]

end Runs

/-! ## Command lines -/

/-- The command lines ask for the same, but for whether the run is quiet. -/
def SameButQuiet (line line' : List String) : Prop :=
  (Arguments.ofList line).map Arguments.aloud = (Arguments.ofList line').map Arguments.aloud

/-- A seed is given. -/
def GivesSeed (line : List String) : Prop :=
  ∀ args, Arguments.ofList line = .ok args → args.seed ≠ none

section Lines

variable {w w' : Surroundings} {line line' : List String}

theorem run_of_stop {stop : Stop} (h : Arguments.ofList line = .error stop) :
    run w line = if stop = .help ∨ stop = .version then
      { exitCode := 0, stdout := stop.message.toUTF8, stderr := [], tree := w.tree }
    else
      { exitCode := 2, stdout := ByteArray.empty, stderr := [Command.line stop.message],
        tree := w.tree } := by
  rw [run, h]

theorem run_of_args {args : Arguments} (h : Arguments.ofList line = .ok args) :
    run w line = runArguments w args := by
  rw [run, h]

theorem run_sameEffects (hinput : SameInput w w') (hsame : SameButQuiet line line')
    (hseed : GivesSeed line) : SameEffects (run w line) (run w' line') := by
  rw [SameButQuiet] at hsame
  cases hline : Arguments.ofList line with
  | error stop =>
      cases hline' : Arguments.ofList line' with
      | ok args' =>
          rw [hline, hline'] at hsame
          cases hsame
      | error stop' =>
          -- nothing is carried out, for the same reason
          rw [hline, hline'] at hsame
          cases hsame
          rw [run_of_stop hline, run_of_stop hline']
          split
          · exact ⟨rfl, rfl, hinput.tree⟩
          · exact ⟨rfl, rfl, hinput.tree⟩
  | ok args =>
      cases hline' : Arguments.ofList line' with
      | error stop' =>
          rw [hline, hline'] at hsame
          cases hsame
      | ok args' =>
          rw [hline, hline'] at hsame
          have haloud : args.aloud = args'.aloud := Except.ok.inj hsame
          rw [Arguments.aloud, Arguments.aloud, Arguments.mk.injEq] at haloud
          obtain ⟨hpeople, hseeds, hsettings, houtput, hmodel, -⟩ := haloud
          rw [run_of_args hline, run_of_args hline']
          exact runArguments_sameEffects hinput ⟨hpeople, hseeds, hsettings, hmodel⟩ houtput
            (hseed args hline)

end Lines

/-- **What is shown does not matter, and an output is what would be printed.** Take the same
files, the same web and the same day, and a command line that gives a seed. Whatever is
logged and whether the run is quiet or not, it ends with the same exit code, prints the same
bytes and leaves the same files, also where it fails or makes no sense. And if a run with
an output succeeds, it prints nothing, and the output is exactly what the same command line
prints without it, where it succeeds as well. Wherever options can stand, `--quiet` makes no
other difference to what is asked for than that, and so does `--output`, however it is
written. -/
theorem effects_of_run {w w' : Surroundings} (hinput : SameInput w w') :
    (∀ line line', SameButQuiet line line' → GivesSeed line →
        SameEffects (run w line) (run w' line'))
      ∧ (∀ line line' args path, Arguments.ofList line = .ok args → args.output = some path →
        Arguments.ofList line' = .ok { args with output := none } → GivesSeed line →
        (run w line).exitCode = 0 →
          (run w' line').exitCode = 0 ∧ (run w line).stdout = ByteArray.empty
            ∧ (run w line).tree.contents path = .ok (run w' line').stdout)
      ∧ ∀ front back, TakesOptions front →
        (¬ AsksForQuiet (front ++ back) →
          SameButQuiet (front ++ "--quiet" :: back) (front ++ back))
        ∧ ∀ path option args, Redirects path option →
          Arguments.ofList (front ++ option ++ back) = .ok args →
            args.output = some path
              ∧ Arguments.ofList (front ++ back) = .ok { args with output := none } := by
  refine ⟨fun line line' hsame hseed => run_sameEffects hinput hsame hseed, ?_, ?_⟩
  · intro line line' args path hline hpath hline' hseed hsucceeds
    rw [run_of_args hline] at hsucceeds ⊢
    rw [run_of_args hline']
    have htask : SameTask args { args with output := none } := ⟨rfl, rfl, rfl, rfl⟩
    exact runArguments_output hinput htask (hseed args hline) hpath rfl hsucceeds
  · intro front back hfront
    refine ⟨fun hnot => ofList_quiet hfront hnot, ?_⟩
    intro path option args hoption hline
    exact ofList_output hfront hoption hline

/-- A day on which everybody can have been born. -/
def onLaterDay : Surroundings :=
  { onFirstDay with today := ⟨18262, by decide⟩ }

/-- Two people are written to a file, or printed by a run that tells nothing about it. -/
theorem effects_of_run_on_later_day :
    SameEffects (run onLaterDay ["2", "--quiet", "--rng-seed=7"])
        (run { onLaterDay with filter := some "off", seed := 2 } ["2", "--rng-seed=7"])
      ∧ (run onLaterDay ["2", "--output", "people.csv", "--rng-seed=7"]).stdout = ByteArray.empty
      ∧ (run onLaterDay ["2", "--output", "people.csv", "--rng-seed=7"]).tree.contents "people.csv"
        = .ok (run onLaterDay ["2", "--rng-seed=7"]).stdout := by
  have hfront : TakesOptions ["2"] := by
    intro s hs
    cases hs
    exact ⟨rfl, rfl⟩
  have hnot : ¬ AsksForQuiet (["2"] ++ ["--rng-seed=7"]) := by
    rintro ⟨s, hs, hquiet⟩
    cases hs
    exact hquiet rfl
  have hseeds : ∀ line ∈ [["2", "--quiet", "--rng-seed=7"],
      ["2", "--output", "people.csv", "--rng-seed=7"]], GivesSeed line := by
    have hgiven : ∀ line ∈ [["2", "--quiet", "--rng-seed=7"],
        ["2", "--output", "people.csv", "--rng-seed=7"]],
        (Arguments.ofList line).toOption.map (·.seed) = some (some 7) := by decide +kernel
    intro line hline args hargs hnone
    have hseed := hgiven line hline
    rw [hargs] at hseed
    cases hnone.symm.trans (Option.some.inj hseed)
  have hinput : SameInput onLaterDay { onLaterDay with filter := some "off", seed := 2 } :=
    ⟨rfl, rfl, rfl⟩
  have hself : SameInput onLaterDay onLaterDay := ⟨rfl, rfl, rfl⟩
  obtain ⟨hshown, -, hlines⟩ := effects_of_run hinput
  obtain ⟨-, houtput, -⟩ := effects_of_run hself
  obtain ⟨hquiet, hredirects⟩ := hlines ["2"] ["--rng-seed=7"] hfront
  refine ⟨hshown _ _ (hquiet hnot) (hseeds _ (by simp)), ?_⟩
  have hsucceeds : (run onLaterDay ["2", "--output", "people.csv", "--rng-seed=7"]).exitCode
      = 0 := by decide +kernel
  have hunderstood : (Arguments.ofList
      ["2", "--output", "people.csv", "--rng-seed=7"]).toOption.isSome = true := by
    decide +kernel
  cases hargs : Arguments.ofList ["2", "--output", "people.csv", "--rng-seed=7"] with
  | error stop =>
      rw [hargs] at hunderstood
      cases hunderstood
  | ok args =>
      obtain ⟨hpath, hprints⟩ := hredirects "people.csv" ["--output", "people.csv"] args
        (.apart (by intro c cs h; cases h)) hargs
      exact (houtput _ _ args "people.csv" hargs hpath hprints (hseeds _ (by simp)) hsucceeds).2

end Command

end Populace
