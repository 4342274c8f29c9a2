import Populace.Proofs.Sources.Lines

/-!
# The stages of loading

Each table is a stage of its own: it is fetched, and then it is read. The first stage with
trouble ends the loading (`Stops`); what it is, what has been fetched by then and which
lines have been kept are known from what the fetcher gives for the tables up to this one.
If no stage has any trouble, all that can still be wrong is that there are no names.
-/

namespace Populace

open Populace.People (NamePool)

/-- The failure that a result is, if it is one. -/
def failure? {α : Type} : Except Failure α → Option Failure
  | .ok _ => none
  | .error e => some e

theorem failure?_eq_none_iff {α : Type} {result : Except Failure α} :
    failure? result = none ↔ ∃ a, result = .ok a := by
  cases result <;> simp [failure?]

/-- There is a pool of names unless there are none of one kind. -/
theorem People.NamePool.ofLists_cases (first last : List String) :
    ((first = [] ∨ last = []) ∧ NamePool.ofLists first last
        = .error (.tooFewNames first.length last.length))
      ∨ (first ≠ [] ∧ last ≠ []) ∧ ∃ pool, NamePool.ofLists first last = .ok pool
        ∧ pool.first.toList = first ∧ pool.last.toList = last := by
  have hpos : ∀ names : List String, 0 < names.toArray.size ↔ names ≠ [] := by
    simp [List.length_pos_iff]
  by_cases hnames : first = [] ∨ last = []
  · refine .inl ⟨hnames, dif_neg ?_⟩
    rw [hpos, hpos, ← not_or]
    exact not_not_intro hnames
  · obtain ⟨hfirst, hlast⟩ := not_or.1 hnames
    refine .inr ⟨⟨hfirst, hlast⟩, _, dif_pos ⟨(hpos first).2 hfirst, (hpos last).2 hlast⟩, rfl, rfl⟩

/-- A pool has names of both kinds. -/
theorem People.NamePool.named (pool : NamePool) :
    ¬ (pool.first.toList = [] ∨ pool.last.toList = []) := by
  have hfirst := pool.first_pos
  have hlast := pool.last_pos
  rintro (h | h)
  · simp [Array.toList_eq_nil_iff.1 h] at hfirst
  · simp [Array.toList_eq_nil_iff.1 h] at hlast

namespace Sources

variable {σ α : Type}

/-! ## What a fetcher gives -/

/-- The tables that are loaded before this one. -/
def Dataset.before (dataset : Dataset) : List Dataset :=
  Dataset.all.takeWhile (· ≠ dataset)

/-- The fetcher's state when it has been asked for these tables, one after the other. -/
def Fetcher.after (fetcher : Fetcher σ) (f : σ) (datasets : List Dataset) : σ :=
  datasets.foldl (fun f dataset => (fetcher dataset f).state) f

/-- What the fetcher gives for a table when it has been asked for those before it. -/
def Fetcher.answer (fetcher : Fetcher σ) (f : σ) (dataset : Dataset) : Except Failure Stream :=
  (fetcher dataset (fetcher.after f dataset.before)).result

/-- Why a table cannot be loaded from what was given for it, if it cannot: it was not to be
had, or it cannot be read. -/
def trouble? (dataset : Dataset) : Except Failure Stream → Option Failure
  | .error e => some e
  | .ok s => match dataset with
    | .internetUsers => failure? (readUsers s)
    | .areas => failure? (readAreas s)
    | .locations => failure? (readLocations s)
    | .firstNames => failure? (readNames "firstname" s)
    | .lastNames => failure? (readNames "lastname" s)

/-- The table is what is read from the bytes that the fetcher gives for it. -/
def Fetcher.Yields (fetcher : Fetcher σ) (f : σ) (dataset : Dataset)
    (read : Stream → Except Failure α) (table : α) : Prop :=
  ∃ s, fetcher.answer f dataset = .ok s ∧ read s = .ok table

theorem Fetcher.Yields.unique {fetcher : Fetcher σ} {f : σ} {dataset : Dataset}
    {read : Stream → Except Failure α} {table table' : α}
    (h : fetcher.Yields f dataset read table) (h' : fetcher.Yields f dataset read table') :
    table = table' := by
  obtain ⟨s, hs, htable⟩ := h
  obtain ⟨s', hs', htable'⟩ := h'
  cases hs.symm.trans hs'
  exact Except.ok.inj (htable.symm.trans htable')

/-- Of two tables one is loaded before the other. -/
theorem before_cases (d d' : Dataset) : d = d' ∨ d ∈ d'.before ∨ d' ∈ d.before := by
  cases d <;> cases d' <;> decide

/-! ## One stage -/

theorem finished_start (j : Journal) (name : String) : (j.start name).finished = j.finished := by
  have hfinished : (j.start name).held.finished = j.held.finished := by
    rw [Journal.held_start, Journal.finished_cons, Activity.inside, List.append_nil]
    rfl
  exact hfinished

section Stage

variable (fetcher : Fetcher σ) {dataset : Dataset} {read : Stream → Except Failure α}

/-- The journal of a table's span when the table has been fetched. -/
def fetched (fetcher : Fetcher σ) (dataset : Dataset) (l : Loading σ) : Loading σ :=
  ⟨(fetcher dataset l.fetcher).state, (fetcher dataset l.fetcher).log.foldl
    (fun j r => j.note (.logged r)) (l.journal.start (tableSpan dataset))⟩

theorem gains_fetched (dataset : Dataset) (l : Loading σ) :
    (l.journal.start (tableSpan dataset)).Gains [] (fetched fetcher dataset l).journal :=
  gains_noted _ (Journal.gains_start _ _)

/-- A table is fetched inside of its span. -/
theorem fetch_in_span (dataset : Dataset) (l : Loading σ) :
    Loading.fetch fetcher dataset ⟨l.fetcher, l.journal.start (tableSpan dataset)⟩
      = match (fetcher dataset l.fetcher).result with
        | .ok s => .ok s (fetched fetcher dataset l)
        | .error e => .error e (fetched fetcher dataset l) := rfl

theorem Loading.journaled_of_ok {action : Journaling α} {l : Loading σ} {a : α} {k : Journal}
    (h : action l.journal = .ok a k) :
    Loading.journaling (journaled action) l = .ok a ⟨l.fetcher, k⟩ := by
  rw [Loading.journaling, journaled_eq_ok_iff.2 h]

/-- A stage with trouble tells which table it was about, and keeps no line. -/
theorem loadTable_of_trouble (hread : ∀ s, trouble? dataset (.ok s) = failure? (read s))
    (l : Loading σ) {e : Failure}
    (h : trouble? dataset (fetcher dataset l.fetcher).result = some e) :
    ∃ l', loadTable fetcher dataset read l = .error (e.within (.loading dataset)) l'
      ∧ l'.fetcher = (fetcher dataset l.fetcher).state
      ∧ l'.journal.finished = l.journal.finished
      ∧ l.journal.clock ≤ l'.journal.clock := by
  have htable : (Loading.fetch fetcher dataset >>= fun s => orFail (read s))
      ⟨l.fetcher, l.journal.start (tableSpan dataset)⟩ = .error e (fetched fetcher dataset l) := by
    have hfetch := fetch_in_span fetcher dataset l
    cases hresult : (fetcher dataset l.fetcher).result with
    | error cause =>
        rw [hresult] at h hfetch
        cases h
        exact bind_of_error hfetch
    | ok s =>
        rw [hresult, hread] at h
        rw [hresult] at hfetch
        cases hs : read s with
        | ok table =>
            rw [hs] at h
            cases h
        | error cause =>
            rw [hs] at h
            cases h
            rw [bind_of_ok hfetch, hs, orFail_error]
  have hgains := gains_fetched fetcher dataset l
  refine ⟨fetched fetcher dataset l, ?_, rfl, ?_, ?_⟩
  · exact (bind_of_ok rfl).trans (bind_of_error (inContext_of_error htable))
  · rw [hgains.finished_of_nothing, finished_start]
  · exact (Journal.clock_le_start l.journal _).trans hgains.later

/-- A stage without trouble keeps the line of its span. -/
theorem loadTable_of_stream {l : Loading σ} (hl : l.journal.NotCounting) {s : Stream} {table : α}
    (hs : (fetcher dataset l.fetcher).result = .ok s) (htable : read s = .ok table) :
    ∃ l', loadTable fetcher dataset read l = .ok table l'
      ∧ l'.fetcher = (fetcher dataset l.fetcher).state
      ∧ l.journal.Gains [tableEntry l.journal.running.length dataset] l'.journal := by
  have hfetch := fetch_in_span fetcher dataset l
  rw [hs] at hfetch
  have hread : (Loading.fetch fetcher dataset >>= fun s => orFail (read s))
      ⟨l.fetcher, l.journal.start (tableSpan dataset)⟩ = .ok table (fetched fetcher dataset l) := by
    rw [bind_of_ok hfetch, htable, orFail_ok]
  obtain ⟨k, hstop, hgains⟩ := Journal.stop_of_gains hl (gains_fetched fetcher dataset l)
  refine ⟨⟨(fetched fetcher dataset l).fetcher, k⟩, ?_, rfl, hgains⟩
  refine (bind_of_ok rfl).trans ((bind_of_ok (inContext_of_ok hread)).trans ?_)
  rw [bind_of_ok (Loading.journaled_of_ok hstop)]
  rfl

end Stage

/-! ## All stages -/

section Load

variable (fetcher : Fetcher σ) (start : Loading σ)

/-- Loading that began here has come so far: these tables have been loaded, without any
trouble, and nothing else has been fetched. -/
structure Reaches (loaded : List Dataset) (l : Loading σ) : Prop where
  state : l.fetcher = fetcher.after start.fetcher loaded
  lines : (start.journal.start loadingSpan).Gains
    (loaded.map (tableEntry (start.journal.running.length + 1))) l.journal
  untroubled : ∀ d ∈ loaded, trouble? d (fetcher.answer start.fetcher d) = none

/-- Loading that began here ends in failure, for the first table with trouble or for want
of names. -/
inductive Stops : Failure → Loading σ → Prop where
  | atTable {dataset e l}
    (hbefore : ∀ d ∈ dataset.before, trouble? d (fetcher.answer start.fetcher d) = none)
    (htrouble : trouble? dataset (fetcher.answer start.fetcher dataset) = some e)
    (hfetcher : l.fetcher = fetcher.after start.fetcher (dataset.before ++ [dataset]))
    (hfinished : ∃ lines, l.journal.finished = start.journal.finished ++ lines
      ∧ Journal.Told start.journal.clock l.journal.clock
        (dataset.before.map (tableEntry (start.journal.running.length + 1))) lines) :
    Stops (e.within (.loading dataset)) l
  | atNames {first last l}
    (huntroubled : ∀ d, trouble? d (fetcher.answer start.fetcher d) = none)
    (hfirst : fetcher.Yields start.fetcher .firstNames (readNames "firstname") first)
    (hlast : fetcher.Yields start.fetcher .lastNames (readNames "lastname") last)
    (hnone : first = [] ∨ last = [])
    (hfetcher : l.fetcher = fetcher.after start.fetcher Dataset.all) :
    Stops (.of (.tooFewNames first.length last.length)) l

/-- Each table is the one that its own reader makes of its own bytes. -/
structure Supplied (data : Census.Reference) : Prop where
  users : fetcher.Yields start.fetcher .internetUsers readUsers data.users
  areas : fetcher.Yields start.fetcher .areas readAreas data.areas
  locations : fetcher.Yields start.fetcher .locations readLocations data.locations
  first : fetcher.Yields start.fetcher .firstNames (readNames "firstname") data.names.first.toList
  last : fetcher.Yields start.fetcher .lastNames (readNames "lastname") data.names.last.toList

variable {fetcher start}

/-- From one stage to the next, or to the end. -/
theorem reaches_loadTable (dataset : Dataset) {read : Stream → Except Failure α}
    (hread : ∀ s, trouble? dataset (.ok s) = failure? (read s)) {l : Loading σ}
    (h : Reaches fetcher start dataset.before l) :
    Meets
      (fun table l' => Reaches fetcher start (dataset.before ++ [dataset]) l'
        ∧ fetcher.Yields start.fetcher dataset read table)
      (Stops fetcher start) (loadTable fetcher dataset read l) := by
  have hanswer : (fetcher dataset l.fetcher).result = fetcher.answer start.fetcher dataset := by
    rw [h.state]
    rfl
  have hafter : (fetcher dataset l.fetcher).state
      = fetcher.after start.fetcher (dataset.before ++ [dataset]) := by
    rw [h.state, Fetcher.after, Fetcher.after, List.foldl_append]
    rfl
  cases htrouble : trouble? dataset (fetcher.answer start.fetcher dataset) with
  | some e =>
      rw [← hanswer] at htrouble
      obtain ⟨l', hl', hfetcher, hkept, hlater⟩ := loadTable_of_trouble fetcher hread l htrouble
      obtain ⟨lines, htold, hlines⟩ := h.lines.finished
      rw [hl']
      refine .atTable h.untroubled (hanswer ▸ htrouble) (hfetcher.trans hafter) ⟨lines, ?_, ?_⟩
      · rw [hkept, hlines, finished_start]
      · exact htold.mono (Journal.clock_le_start start.journal _) hlater
  | none =>
      cases hs : fetcher.answer start.fetcher dataset with
      | error e =>
          rw [hs] at htrouble
          cases htrouble
      | ok s =>
          have hgood := htrouble
          rw [hs, hread, failure?_eq_none_iff] at hgood
          obtain ⟨table, htable⟩ := hgood
          obtain ⟨l', hl', hfetcher, hgains⟩ := loadTable_of_stream fetcher h.lines.notCounting
            (hanswer.trans hs) htable
          rw [hl']
          refine ⟨⟨hfetcher.trans hafter, ?_, ?_⟩, s, hs, htable⟩
          · have hline := h.lines.trans hgains
            rw [h.lines.depth, Journal.depth_start] at hline
            rwa [List.map_append]
          · intro d hd
            rcases List.mem_append.1 hd with hd | hd
            · exact h.untroubled d hd
            · rwa [List.mem_singleton.1 hd]

/-- What is only noted is no stage. -/
theorem Reaches.noted {loaded : List Dataset} {l : Loading σ} (h : Reaches fetcher start loaded l)
    {k : Journal} (hheld : k.held = l.journal.held) (hclock : k.clock = l.journal.clock) :
    Reaches fetcher start loaded ⟨l.fetcher, k⟩ :=
  ⟨h.state, h.lines.noted hheld hclock, h.untroubled⟩

theorem meets_stages (fetcher : Fetcher σ) (hstart : start.journal.NotCounting) :
    Meets (fun data l => Supplied fetcher start data
        ∧ l.fetcher = fetcher.after start.fetcher Dataset.all)
      (Stops fetcher start) (load fetcher start) := by
  have h₁ : Reaches fetcher start [] ⟨start.fetcher, start.journal.start loadingSpan⟩ :=
    ⟨rfl, Journal.gains_start _ _, List.forall_mem_nil _⟩
  rw [load, bind_of_ok (show Loading.journaling _ start = .ok () _ from rfl)]
  refine (reaches_loadTable .internetUsers (fun _ => rfl) h₁).bind
    fun users l₂ ⟨h₂, husers⟩ => ?_
  refine (reaches_loadTable .areas (fun _ => rfl) h₂).bind
    fun areas l₃ ⟨h₃, hareas⟩ => ?_
  refine (reaches_loadTable .locations (fun _ => rfl) h₃).bind
    fun locations l₄ ⟨h₄, hlocations⟩ => ?_
  refine (reaches_loadTable .firstNames (fun _ => rfl) h₄).bind
    fun first l₅ ⟨h₅, hfirst⟩ => ?_
  refine (reaches_loadTable .lastNames (fun _ => rfl) h₅).bind
    fun last l₆ ⟨h₆, hlast⟩ => ?_
  rw [bind_of_ok (show Loading.journaling _ l₆ = .ok () _ from rfl)]
  have h₇ := h₆.noted (k := (l₆.journal.log .info .loading
    (countriesMessage users.size areas.size locations.size)).log .info .loading
      (namesMessage first.length last.length)) rfl rfl
  rcases NamePool.ofLists_cases first last with ⟨hnone, hrefused⟩ | ⟨-, pool, hpool, rfl, rfl⟩
  · rw [hrefused, bind_of_error (orRefuse_error _ _)]
    exact .atNames (fun d => h₇.untroubled d (by cases d <;> decide)) hfirst hlast hnone h₇.state
  · rw [hpool, bind_of_ok (orRefuse_ok _ _)]
    obtain ⟨k, hstop, -⟩ := Journal.stop_of_gains hstart h₇.lines
    rw [bind_of_ok (Loading.journaled_of_ok hstop)]
    exact ⟨⟨husers, hareas, hlocations, hfirst, hlast⟩, h₇.state⟩

theorem untroubled_of_yields {dataset : Dataset} {read : Stream → Except Failure α} {table : α}
    (hread : ∀ s, trouble? dataset (.ok s) = failure? (read s)) {f : σ}
    (h : fetcher.Yields f dataset read table) :
    trouble? dataset (fetcher.answer f dataset) = none := by
  obtain ⟨s, hs, htable⟩ := h
  rw [hs, hread, htable]
  rfl

theorem Supplied.untroubled {data : Census.Reference} (h : Supplied fetcher start data)
    (d : Dataset) : trouble? d (fetcher.answer start.fetcher d) = none := by
  cases d with
  | internetUsers => exact untroubled_of_yields (fun _ => rfl) h.users
  | areas => exact untroubled_of_yields (fun _ => rfl) h.areas
  | locations => exact untroubled_of_yields (fun _ => rfl) h.locations
  | firstNames => exact untroubled_of_yields (fun _ => rfl) h.first
  | lastNames => exact untroubled_of_yields (fun _ => rfl) h.last

/-- The first table with trouble is known, and so is the trouble. -/
theorem first_trouble_unique {answer : Dataset → Except Failure Stream} {d d' : Dataset}
    {e e' : Failure} (hbefore : ∀ b ∈ d.before, trouble? b (answer b) = none)
    (hd : trouble? d (answer d) = some e)
    (hbefore' : ∀ b ∈ d'.before, trouble? b (answer b) = none)
    (hd' : trouble? d' (answer d') = some e') : d = d' ∧ e = e' := by
  rcases before_cases d d' with rfl | hmem | hmem
  · rw [hd] at hd'
    cases hd'
    exact ⟨rfl, rfl⟩
  · rw [hbefore' d hmem] at hd
    cases hd
  · rw [hbefore d' hmem] at hd'
    cases hd'

/-- The chain of a refusal begins with what was being done. -/
theorem chain_within {e : Failure} (h : ∀ crash, e ≠ .crashed crash) (context : Context) :
    (e.within context).chain = context.message :: e.chain := by
  cases e with
  | refused contexts cause => rfl
  | crashed crash => exact absurd rfl (h crash)

/-- **Loading goes stage by stage.** It asks the fetcher for the tables in their order, once
for each, and what it is given decides how it ends. The first table with trouble ends it:
the failure is what went wrong there, told as part of loading that table; no table behind it
is asked for; and the journal has gained one line for each table before it. If no table
has any trouble, each is what its own reader makes of its own bytes, and loading fails if
and only if one of the two lists of names is empty. -/
theorem load_goes_by_stage (fetcher : Fetcher σ) {l : Loading σ} (hl : l.journal.NotCounting) :
    (∀ d e, (∀ b ∈ d.before, trouble? b (fetcher.answer l.fetcher b) = none) →
        trouble? d (fetcher.answer l.fetcher d) = some e →
        ∃ l', load fetcher l = .error (e.within (.loading d)) l'
          ∧ ((∀ crash, e ≠ .crashed crash) →
            (e.within (.loading d)).chain = ("loading " ++ d.description) :: e.chain)
          ∧ l'.fetcher = fetcher.after l.fetcher (d.before ++ [d])
          ∧ ∃ lines, l'.journal.finished = l.journal.finished ++ lines
            ∧ Journal.Told l.journal.clock l'.journal.clock
              (d.before.map fun b =>
                ⟨l.journal.running.length + 1, "load " ++ b.description ++ " took "⟩) lines)
      ∧ ((∀ d, trouble? d (fetcher.answer l.fetcher d) = none) →
        ∃ first last l', fetcher.Yields l.fetcher .firstNames (readNames "firstname") first
          ∧ fetcher.Yields l.fetcher .lastNames (readNames "lastname") last
          ∧ l'.fetcher = fetcher.after l.fetcher Dataset.all
          ∧ if first = [] ∨ last = [] then
              load fetcher l = .error (.of (.tooFewNames first.length last.length)) l'
            else ∃ data, load fetcher l = .ok data l' ∧ Supplied fetcher l data) := by
  have hends := meets_stages fetcher hl
  refine ⟨fun d e hbefore htrouble => ?_, fun huntroubled => ?_⟩
  · cases hload : load fetcher l with
    | ok data l' =>
        rw [hload] at hends
        rw [hends.1.untroubled d] at htrouble
        cases htrouble
    | error e' l' =>
        rw [hload] at hends
        cases hends with
        | atTable hbefore' htrouble' hfetcher hfinished =>
            obtain ⟨rfl, rfl⟩ := first_trouble_unique hbefore htrouble hbefore' htrouble'
            exact ⟨l', rfl, fun hcrash => chain_within hcrash _, hfetcher, hfinished⟩
        | atNames huntroubled _ _ _ _ =>
            rw [huntroubled] at htrouble
            cases htrouble
  · cases hload : load fetcher l with
    | ok data l' =>
        rw [hload] at hends
        obtain ⟨hdata, hfetcher⟩ := hends
        refine ⟨_, _, l', hdata.first, hdata.last, hfetcher, ?_⟩
        rw [if_neg data.names.named]
        exact ⟨data, rfl, hdata⟩
    | error e l' =>
        rw [hload] at hends
        cases hends with
        | atTable _ htrouble _ _ =>
            rw [huntroubled] at htrouble
            cases htrouble
        | atNames _ hfirst hlast hnone hfetcher =>
            refine ⟨_, _, l', hfirst, hlast, hfetcher, ?_⟩
            rw [if_pos hnone]

end Load

/-- Notes for which tables it is asked. All can be read, but for one that may be spoilt. -/
def attentive (spoilt? : Option Dataset) : Fetcher (List Dataset) := fun dataset asked =>
  let text := if some dataset = spoilt? then "1\tA\tmany\n" else
    match dataset with
    | .internetUsers | .areas => "1\tA\t5\n"
    | .locations => "# none yet\n"
    | .firstNames => "firstname\nKATHRYN\n"
    | .lastNames => "JANEWAY\n"
  ⟨[], .ok (.whole (Text.bytesOf text)), asked ++ [dataset]⟩

/-- A journal whose clock is one second further when it is first looked at, then half a second,
and then a quarter. -/
def slowing : Journal :=
  { Journal.new "run" true with passing := [1000000000, 500000000, 250000000] }

/-- If the areas cannot be read, the locations are not asked for. Otherwise all tables are
read. -/
theorem load_goes_by_stage_attentive :
    slowing.NotCounting
      ∧ (∃ (e : Failure) (l : Loading (List Dataset)),
        load (attentive (some .areas)) ⟨[], slowing⟩ = .error (e.within (.loading .areas)) l
        ∧ (e.within (.loading .areas)).chain = ["loading area by country",
          "row 1: ByteRecord([\"1\", \"A\", \"many\"])", "many isn't a whole number",
          "invalid digit found in string"]
        ∧ l.fetcher = [.internetUsers, .areas]
        ∧ l.journal.finished = ["    - load internet users by country took 0.2500s"])
      ∧ ∃ (data : Census.Reference) (l : Loading (List Dataset)),
        load (attentive none) ⟨[], slowing⟩ = .ok data l
        ∧ l.fetcher = Dataset.all
        ∧ Supplied (attentive none) ⟨[], slowing⟩ data
        ∧ data.users = .ofList [("A", 5)] ∧ data.locations = .empty
        ∧ data.names.first.toList = ["KATHRYN"] ∧ data.names.last.toList = ["JANEWAY"] := by
  have hcounting : slowing.NotCounting := (Journal.inSpan_start _ "run").notCounting
  refine ⟨hcounting, ?_, ?_⟩
  · obtain ⟨hstops, -⟩ := load_goes_by_stage (attentive (some .areas)) (l := ⟨[], slowing⟩) hcounting
    have hgood : ∀ d ∈ Dataset.areas.before,
        trouble? d ((attentive (some .areas)).answer [] d) = none := by
      intro d hd
      obtain rfl : d = .internetUsers := by simpa [Dataset.before, Dataset.all] using hd
      exact Option.isNone_iff_eq_none.1 (by decide +kernel)
    have hbad : trouble? .areas ((attentive (some .areas)).answer [] .areas) = some _ := rfl
    have hlines : (stateBehind (load (attentive (some .areas)) ⟨[], slowing⟩)).journal.finished
        = ["    - load internet users by country took 0.2500s"] := by decide +kernel
    obtain ⟨l, hload, -, hasked, -⟩ := hstops .areas _ hgood hbad
    rw [hload] at hlines
    exact ⟨_, l, hload, rfl, hasked, hlines⟩
  · obtain ⟨-, hloads⟩ := load_goes_by_stage (attentive none) (l := ⟨[], slowing⟩) hcounting
    have hgood : ∀ d, trouble? d ((attentive none).answer [] d) = none := by
      intro d
      cases d <;> exact Option.isNone_iff_eq_none.1 (by decide +kernel)
    have husers : (attentive none).Yields [] .internetUsers readUsers (.ofList [("A", 5)]) :=
      ⟨_, rfl, rfl⟩
    have hlocations : (attentive none).Yields [] .locations readLocations .empty := ⟨_, rfl, rfl⟩
    have hfirst : (attentive none).Yields [] .firstNames (readNames "firstname") ["KATHRYN"] :=
      ⟨_, rfl, rfl⟩
    have hlast : (attentive none).Yields [] .lastNames (readNames "lastname") ["JANEWAY"] :=
      ⟨_, rfl, rfl⟩
    obtain ⟨first, last, l, hfirst', hlast', hasked, hnamed⟩ := hloads hgood
    rw [hfirst'.unique hfirst, hlast'.unique hlast, if_neg (by decide)] at hnamed
    obtain ⟨data, hload, hdata⟩ := hnamed
    exact ⟨data, l, hload, hasked, hdata, hdata.users.unique husers,
      hdata.locations.unique hlocations, hdata.first.unique hfirst, hdata.last.unique hlast⟩

end Sources

end Populace
