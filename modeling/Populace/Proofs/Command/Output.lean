import Populace.Command.Run
import Populace.Proofs.Census.Delivery
import Populace.Proofs.Census.Stuck
import Populace.Proofs.Rows.Writer
import Populace.Proofs.Sources.Loading

/-!
# What becomes of the output

A run prepares everything first and then carries its plan out. Without the web preparing
leaves all files as they are; carrying out empties the output and then writes the rows of
everybody in the course of the plan. So a file that was there before is lost to a run that
fails if and only if the run fails while the plan is carried out, and that is so at a
country where nobody can be placed.
-/

namespace Populace.Command

open Populace.Census (Course Made Plan Planned Setting)
open Populace.Files (Tree)
open Populace.People Populace.Random
open Populace.Rows (Writer)
open Populace.Sources (Settings)

/-! ## The two halves of a run -/

/-- What a run starts with. -/
def start (w : Surroundings) (args : Arguments) : State :=
  ⟨newJournal w args.quiet, w.tree, ByteArray.empty⟩

/-- What is done before the output is touched: a plan is made, and its setting. -/
def prepare (w : Surroundings) (args : Arguments) : Part (Plan × Setting) := do
  let settings ← orFail (Settings.load (← get).tree args.settings)
  let data ← Part.load settings w.web
  let options : Options := { people := args.people, model := args.model }
  let plan ← Part.journaling (Plan.new data options)
  return (plan, { data, options, today := w.today })

/-- The seed of a run. -/
def seedOf (w : Surroundings) (args : Arguments) : UInt64 :=
  args.seed.getD w.seed

/-- What is done with a plan. -/
def carryOut (w : Surroundings) (args : Arguments) (plan : Plan) (setting : Setting) :
    Part Unit := do
  Part.tell (seedMessage (seedOf w args))
  Part.createOutput args.output
  let total ← Part.emit plan setting (seedOf w args) args.output
  Part.tell (doneMessage total)

theorem perform_eq (w : Surroundings) (args : Arguments) :
    perform w args = prepare w args >>= fun p => carryOut w args p.1 p.2 := by
  simp only [perform, prepare, carryOut, seedOf, bind_assoc, pure_bind]

/-! ## Preparing -/

/-- No file is another one than before. -/
def State.Spares (s t : State) : Prop :=
  s.tree.Extends t.tree

theorem spares_refl (s : State) : s.Spares s :=
  .refl s.tree

theorem spares_trans {a b c : State} (h : a.Spares b) (h' : b.Spares c) : a.Spares c :=
  Tree.Extends.trans h h'

theorem journaling_spares {α : Type} (action : EStateM Failure Journal α) :
    Keeps State.Spares (Part.journaling action) := by
  intro ⟨j, t, o⟩
  simp only [Part.journaling]
  cases action j <;> exact Tree.Extends.refl t

theorem load_spares (settings : Settings) {w : Surroundings} (hweb : w.web.Unreachable) :
    Keeps State.Spares (Part.load settings w.web) := by
  intro ⟨j, t, o⟩
  have h := Sources.extends_load settings hweb ⟨t, j⟩
  simp only [Part.load]
  cases hload : Sources.load (Sources.cachingFetcher settings w.web) ⟨t, j⟩ with
  | ok data s =>
      rw [hload] at h
      exact h
  | error e s =>
      rw [hload] at h
      exact h

/-- What loading and uses of the journal keep is kept by preparing. -/
theorem prepare_keeps {R : State → State → Prop} {w : Surroundings} (refl : ∀ s, R s s)
    (trans : ∀ {a b c}, R a b → R b c → R a c)
    (hjournal : ∀ {α : Type} (action : EStateM Failure Journal α),
      Keeps R (Part.journaling action))
    (hload : ∀ settings, Keeps R (Part.load settings w.web)) (args : Arguments) :
    Keeps R (prepare w args) := by
  intro s
  rw [prepare, bind_of_ok (run_get s)]
  cases Settings.load s.tree args.settings with
  | error e => exact refl s
  | ok settings =>
      rw [bind_of_ok (orFail_ok settings s)]
      exact (hload settings).bind trans (fun data =>
        (hjournal _).bind trans fun plan => .done refl _) s

theorem prepare_spares {w : Surroundings} (hweb : w.web.Unreachable) (args : Arguments) :
    Keeps State.Spares (prepare w args) :=
  prepare_keeps spares_refl spares_trans journaling_spares
    (fun settings => load_spares settings hweb) args

/-- Nothing is printed while a run is prepared. -/
theorem stdout_behind_prepare (w : Surroundings) (args : Arguments) (s : State) :
    (stateBehind (prepare w args s)).stdout = s.stdout := by
  refine prepare_keeps (R := fun s t => t.stdout = s.stdout) (fun s => rfl)
    (fun h h' => Eq.trans h' h) (fun action s => ?_) (fun settings s => ?_) args s
  · rw [Part.journaling]
    cases action s.journal <;> rfl
  · rw [Part.load]
    cases Sources.load (Sources.cachingFetcher settings w.web) ⟨s.tree, s.journal⟩ <;> rfl

/-- What has been prepared is a plan for the options of the command line, and the date. -/
theorem planned_of_prepare {w : Surroundings} {args : Arguments} {s t : State} {plan : Plan}
    {setting : Setting} (h : prepare w args s = .ok (plan, setting) t) :
    setting.options = { people := args.people, model := args.model } ∧ setting.today = w.today
      ∧ ∃ j, Planned setting.data setting.options j plan t.journal := by
  rw [prepare] at h
  obtain ⟨_, _, -, h⟩ := bind_eq_ok_iff.1 h
  obtain ⟨settings, _, -, h⟩ := bind_eq_ok_iff.1 h
  obtain ⟨data, ⟨j, tree, stdout⟩, -, h⟩ := bind_eq_ok_iff.1 h
  obtain ⟨plan', u, hplan, h⟩ := bind_eq_ok_iff.1 h
  cases h
  refine ⟨rfl, rfl, j, ?_⟩
  simp only [Part.journaling] at hplan
  cases hnew : Plan.new data { people := args.people, model := args.model } j with
  | error e k =>
      rw [hnew] at hplan
      cases hplan
  | ok plan' k =>
      rw [hnew] at hplan
      cases hplan
      exact Census.planned_of_new hnew

/-! ## Carrying out -/

/-- What a plan leads to from a seed. -/
def courseFrom (plan : Plan) (setting : Setting) (seed : UInt64) : Course :=
  plan.course setting (Xorshift.ofSeed seed)

/-- The rows of everybody in a course. -/
def written (course : Course) : ByteArray :=
  ⟨(rowsOf (course.made.map Made.person)).toArray⟩

section Emitting

variable (plan : Plan) (setting : Setting) (seed : UInt64) (path? : Option String) {s : State}

/-- Whether it is complete or not, the course has been written in the end. -/
theorem emit_writes (hj : s.journal.NotCounting) :
    ∃ j, Part.emit plan setting seed path? s
      = match (courseFrom plan setting seed).ending with
        | .ok _ _ => .ok plan.total
            (Part.putOutput path? (written (courseFrom plan setting seed)) { s with journal := j })
        | .error e _ => .error e
            (Part.putOutput path? (written (courseFrom plan setting seed))
              { s with journal := j }) := by
  obtain ⟨journal, tree, stdout⟩ := s
  -- the writer refuses nobody, so the end of the delivery is that of the course
  obtain ⟨v, haccepts, hv⟩ := rows_accepts Writer.holds_new
    ((courseFrom plan setting seed).made.map Made.person)
  rw [List.nil_append] at hv
  have hdeliver : (courseFrom plan setting seed).deliver Sink.rows
      (Writer.new (Rows.Medium.empty none))
        = mapState (·, v) (courseFrom plan setting seed).ending :=
    Course.deliverAll_of_accepts haccepts
  obtain ⟨u, hflush, hu, hstored⟩ := Writer.flush_of_holds hv
  cases hend : (courseFrom plan setting seed).ending with
  | error e g =>
      rw [hend] at hdeliver
      obtain ⟨j, hemit⟩ := Census.emit_of_deliver_error plan setting Sink.rows journal hdeliver
      refine ⟨j, ?_⟩
      rw [Part.emit]
      simp only [bind_of_error hemit, hflush, hstored]
      rfl
  | ok _ g =>
      rw [hend] at hdeliver
      obtain ⟨j, hemit⟩ := Census.emit_of_deliver_ok plan setting Sink.rows hj hdeliver
      have hfinish : Sink.rows.finish v = .ok () u := by
        simp only [Sink.rows, hflush]
      rw [hfinish] at hemit
      obtain ⟨u', hclose, hstored'⟩ := Writer.close_of_holds hu
      refine ⟨j, ?_⟩
      rw [Part.emit]
      simp only [bind_of_ok hemit, bind_of_ok (Census.Run.sinking_of_ok hclose), run_pure,
        hstored']
      rfl

end Emitting

theorem run_tell (text : String) (s : State) :
    Part.tell text s = .ok () { s with journal := s.journal.log .info .command text } := rfl

/-- The tree when the output has been created. -/
def created (path? : Option String) (tree : Tree) : Except Files.Fault Tree :=
  match path? with
  | some path => tree.createFile path
  | none => .ok tree

theorem createOutput_eq (path? : Option String) (s : State) :
    Part.createOutput path? s = match created path? s.tree with
      | .ok tree => .ok () { s with tree }
      | .error f => .error (.of (.file f)) s := by
  cases path? with
  | none => rfl
  | some path =>
      rw [created]
      simp only [Part.createOutput, bind_of_ok (run_get s)]
      cases s.tree.createFile path <;> rfl

/-- How a course is written: not at all if the output cannot be created, and else up to its
end, which decides how the writing ends. -/
def record (path? : Option String) (course : Course) (s : State) :
    EStateM.Result Failure State Unit :=
  match created path? s.tree with
  | .error f => .error (.of (.file f)) s
  | .ok tree => match course.ending with
    | .ok _ _ => .ok () (Part.putOutput path? (written course) { s with tree })
    | .error e _ => .error e (Part.putOutput path? (written course) { s with tree })

/-- Carrying a plan out writes its course. -/
theorem carryOut_eq (w : Surroundings) (args : Arguments) (plan : Plan) (setting : Setting)
    {s : State} (hj : s.journal.NotCounting) :
    ∃ j, carryOut w args plan setting s
      = record args.output (courseFrom plan setting (seedOf w args)) { s with journal := j } := by
  obtain ⟨k, htell, hk⟩ : ∃ k, Part.tell (seedMessage (seedOf w args)) s
      = .ok () { s with journal := k } ∧ k.NotCounting := ⟨_, run_tell _ s, hj⟩
  have hcreate := createOutput_eq args.output { s with journal := k }
  dsimp only at hcreate
  cases hcreated : created args.output s.tree with
  | error f =>
      rw [hcreated] at hcreate
      refine ⟨k, ?_⟩
      rw [carryOut, bind_of_ok htell, bind_of_error hcreate, record]
      simp only [hcreated]
  | ok tree =>
      rw [hcreated] at hcreate
      obtain ⟨j, hemit⟩ := emit_writes plan setting (seedOf w args) args.output
        (s := { s with journal := k, tree }) hk
      rw [carryOut, bind_of_ok htell, bind_of_ok hcreate]
      cases hend : (courseFrom plan setting (seedOf w args)).ending with
      | error e g =>
          rw [hend] at hemit
          refine ⟨j, ?_⟩
          rw [bind_of_error hemit, record]
          simp only [hcreated, hend]
      | ok _ g =>
          rw [hend] at hemit
          -- at the end it is told how many there are
          refine ⟨j.log .info .command (doneMessage plan.total), ?_⟩
          rw [bind_of_ok hemit, run_tell, record]
          simp only [hcreated, hend]
          cases args.output <;> rfl

theorem created_of_place {tree : Tree} {path : String} {place : List String}
    (h : tree.placeForFile path = .ok place) :
    created (some path) tree = .ok (tree.put place (.file ByteArray.empty)) :=
  Tree.createFile_of_place h

/-- A course that is written onto a file which is there replaces it, and fails if and only
if the course does. -/
theorem record_writes {course : Course} {path : String} {bytes : ByteArray} {s : State}
    (hold : s.tree.contents path = .ok bytes) :
    (stateBehind (record (some path) course s)).tree.contents path = .ok (written course)
      ∧ ((∃ e t, record (some path) course s = .error e t) ↔ course.Fails) := by
  obtain ⟨place, hplace⟩ := Tree.placeForFile_of_contents hold
  have hcontents := Tree.contents_fill (Tree.placeForFile_put hplace hplace ByteArray.empty)
    (written course)
  rw [record, created_of_place hplace]
  cases hend : course.ending with
  | error e g => exact ⟨hcontents, fun _ => ⟨e, g, hend⟩, fun _ => ⟨_, _, rfl⟩⟩
  | ok _ g =>
      refine ⟨hcontents, ?_, ?_⟩
      · rintro ⟨e, t, h⟩
        cases h
      · rintro ⟨e, k, h⟩
        rw [hend] at h
        cases h

/-! ## Whole runs -/

section Outcomes

variable (filter : LogFilter) (warnings : List String)
  (result : EStateM.Result Failure State Unit)

theorem tree_outcomeOf : (outcomeOf filter warnings result).tree = (stateBehind result).tree := by
  cases result with
  | ok _ s => rfl
  | error e s => cases e <;> rfl

theorem exitCode_outcomeOf_ne_zero :
    (outcomeOf filter warnings result).exitCode ≠ 0 ↔ ∃ e s, result = .error e s := by
  cases result with
  | ok _ s => simp [outcomeOf]
  | error e s => cases e <;> simp [outcomeOf]

end Outcomes

/-- The command line is understood and all input is in order, and this is what is planned. -/
structure Accepted (w : Surroundings) (arguments : List String) (args : Arguments)
    (plan : Plan) (setting : Setting) : Prop where
  understood : Arguments.ofList arguments = .ok args
  prepared : ∃ s, prepare w args (start w args) = .ok (plan, setting) s

section Runs

variable {w : Surroundings} {arguments : List String} {path : String} {bytes : ByteArray}

theorem run_of_understood {args : Arguments} (h : Arguments.ofList arguments = .ok args) :
    ∃ filter warnings,
      run w arguments = outcomeOf filter warnings (perform w args (start w args)) := by
  rw [run, h]
  exact ⟨_, _, rfl⟩

/-- A run whose input is not in order leaves the files as they were. -/
theorem spared_of_unaccepted (hweb : w.web.Unreachable) (hold : w.tree.contents path = .ok bytes)
    (h : ¬ ∃ args plan setting, Accepted w arguments args plan setting) :
    (run w arguments).tree.contents path = .ok bytes := by
  cases hargs : Arguments.ofList arguments with
  | error stop =>
      rw [run, hargs]
      dsimp only
      split <;> exact hold
  | ok args =>
      obtain ⟨filter, warnings, hrun⟩ := run_of_understood (w := w) hargs
      rw [hrun, tree_outcomeOf, perform_eq]
      have hspares := prepare_spares hweb args (start w args)
      cases hprepare : prepare w args (start w args) with
      | ok p s => exact absurd ⟨args, p.1, p.2, hargs, s, hprepare⟩ h
      | error e s =>
          rw [hprepare] at hspares
          rw [bind_of_error hprepare]
          exact Tree.contents_of_extends hspares hold

/-- A run whose input is in order replaces the output by the course of the plan, and fails
if and only if the course does. -/
theorem written_of_accepted {args : Arguments} {plan : Plan} {setting : Setting}
    (hweb : w.web.Unreachable) (hpath : args.output = some path)
    (hold : w.tree.contents path = .ok bytes) (h : Accepted w arguments args plan setting) :
    (run w arguments).tree.contents path
        = .ok (written (courseFrom plan setting (seedOf w args)))
      ∧ ((run w arguments).exitCode ≠ 0
        ↔ (courseFrom plan setting (seedOf w args)).Fails) := by
  obtain ⟨s, hprepare⟩ := h.prepared
  obtain ⟨filter, warnings, hrun⟩ := run_of_understood (w := w) h.understood
  have hspares := prepare_spares hweb args (start w args)
  rw [hprepare] at hspares
  have hold' : s.tree.contents path = .ok bytes := Tree.contents_of_extends hspares hold
  obtain ⟨-, -, j, hplanned⟩ := planned_of_prepare hprepare
  obtain ⟨k, hcarried⟩ := carryOut_eq w args plan setting hplanned.behind
  rw [hrun, tree_outcomeOf, exitCode_outcomeOf_ne_zero, perform_eq, bind_of_ok hprepare, hcarried,
    hpath]
  exact record_writes hold'

end Runs

/-- **When a failing run loses its output.** Without the web, a run that fails changes a file
that it was to write if and only if it has accepted all its input and then cannot complete
the course of the plan, and what the course leaves is not what was there before. Then the
file holds exactly the rows of the course. A course fails wherever somebody is planned for
a country with a half-width that bounds no interval, and for no other reason, unless the
calendar does not reach back a hundred years. -/
theorem failing_run_loses_output_iff (w : Surroundings) (arguments : List String)
    (path : String) (bytes : ByteArray) (hweb : w.web.Unreachable)
    (hpath : ∀ args, Arguments.ofList arguments = .ok args → args.output = some path)
    (hold : w.tree.contents path = .ok bytes) :
    ((run w arguments).exitCode ≠ 0 ∧ (run w arguments).tree.contents path ≠ .ok bytes
      ↔ ∃ args plan setting, Accepted w arguments args plan setting
        ∧ (courseFrom plan setting (seedOf w args)).Fails
        ∧ written (courseFrom plan setting (seedOf w args)) ≠ bytes)
      ∧ ∀ args plan setting, Accepted w arguments args plan setting →
        (run w arguments).tree.contents path
            = .ok (written (courseFrom plan setting (seedOf w args)))
          ∧ (plan.Stuck setting → (courseFrom plan setting (seedOf w args)).Fails)
          ∧ ((courseFrom plan setting (seedOf w args)).Fails →
            plan.Stuck setting ∨ w.today.number < Calendar.earliest + 100 * daysPerYear) := by
  refine ⟨⟨?_, ?_⟩, fun args plan setting h => ⟨?_, ?_, ?_⟩⟩
  · rintro ⟨hfailed, hlost⟩
    by_cases haccepted : ∃ args plan setting, Accepted w arguments args plan setting
    · obtain ⟨args, plan, setting, h⟩ := haccepted
      obtain ⟨hwritten, hfails⟩ := written_of_accepted hweb (hpath args h.understood) hold h
      refine ⟨args, plan, setting, h, hfails.1 hfailed, fun hsame => hlost ?_⟩
      rw [hwritten, hsame]
    · exact absurd (spared_of_unaccepted hweb hold haccepted) hlost
  · rintro ⟨args, plan, setting, h, hfails, hnew⟩
    obtain ⟨hwritten, hfailed⟩ := written_of_accepted hweb (hpath args h.understood) hold h
    refine ⟨hfailed.2 hfails, ?_⟩
    rw [hwritten]
    exact fun hsame => hnew (Except.ok.inj hsame)
  · exact (written_of_accepted hweb (hpath args h.understood) hold h).1
  · exact fun hstuck => Census.fails_of_stuck hstuck _
  · intro hfails
    obtain ⟨s, hprepare⟩ := h.prepared
    obtain ⟨hoptions, htoday, j, hplanned⟩ := planned_of_prepare hprepare
    have hcases := Census.stuck_of_fails hplanned hfails
    rw [htoday, hoptions] at hcases
    exact hcases

/-- The first day of the calendar, with one country and an older output. -/
def onFirstDay : Surroundings where
  tree := [
    ("pplme.toml", "internet_users = 'users'\nareas = 'areas'\nlocations = 'locations'\n"
      ++ "first_names = 'first'\nlast_names = 'last'\n"),
    ("users", "1\tAndoria\t5\n"), ("areas", ""),
    ("locations", ";".intercalate <|
      List.replicate 21 "" ++ ["Andoria"] ++ List.replicate 39 "" ++ ["20", "10"]),
    ("first", "KATHRYN"), ("last", "JANEWAY"), ("people.csv", "older rows")
  ].foldl (fun t (name, text) => t.put ["home", name] (.file text.toUTF8)) (Tree.empty ["home"])
  web := Sources.Web.unreachable
  today := ⟨Calendar.earliest, by decide⟩
  seed := 1
  filter := none

/-- Nobody was born a day ago then, but that is found out when the output is empty. -/
theorem failing_run_loses_output_on_first_day :
    ∃ args plan setting, Accepted onFirstDay ["2", "--output=people.csv"] args plan setting
      ∧ (courseFrom plan setting (seedOf onFirstDay args)).Fails
      ∧ (run onFirstDay ["2", "--output=people.csv"]).tree.contents "people.csv"
        = .ok (written (courseFrom plan setting (seedOf onFirstDay args))) := by
  have hpath : (Arguments.ofList ["2", "--output=people.csv"]).toOption.map (·.output)
      = some (some "people.csv") := by decide +kernel
  have hold : onFirstDay.tree.contents "people.csv" = .ok "older rows".toUTF8 := by
    decide +kernel
  have hfailed : (run onFirstDay ["2", "--output=people.csv"]).exitCode ≠ 0 := by
    decide +kernel
  have hlost : (run onFirstDay ["2", "--output=people.csv"]).tree.contents "people.csv"
      ≠ .ok "older rows".toUTF8 := by decide +kernel
  obtain ⟨hiff, hall⟩ := failing_run_loses_output_iff onFirstDay ["2", "--output=people.csv"]
    "people.csv" "older rows".toUTF8 Sources.Web.unreachable_unreachable
    (fun args hargs => by rw [hargs] at hpath; exact Option.some.inj hpath) hold
  obtain ⟨args, plan, setting, haccepted, hfails, -⟩ := hiff.1 ⟨hfailed, hlost⟩
  exact ⟨args, plan, setting, haccepted, hfails, (hall args plan setting haccepted).1⟩

end Populace.Command
