import Populace.Proofs.Blame
import Populace.Proofs.Journal.Gains

/-!
# What loading adds to a journal

Loading opens a span, and inside of it one for each table. If it succeeds the journal has
gained a line for each of them; and however it ends, no use of the journal that loading
makes is a misuse: one that it tells of comes from the fetcher.
-/

namespace Populace.Sources

variable {σ α : Type}

/-- The line of a table that has been loaded. -/
def tableEntry (depth : Nat) (dataset : Dataset) : Journal.Entry :=
  ⟨depth, "load " ++ dataset.description ++ " took "⟩

/-- A fetch leaves this state and tells of the misuse, at once or where its stream breaks
off. -/
def Fetcher.Raises (fetcher : Fetcher σ) (m : Misuse) (l : Loading σ) : Prop :=
  ∃ dataset g e, (fetcher dataset g).state = l.fetcher ∧ e.misuse? = some m
    ∧ ((fetcher dataset g).result = .error e
      ∨ ∃ stream, (fetcher dataset g).result = .ok stream ∧ stream.broken = some e)

/-! ## One table -/

namespace Loading

theorem meets_journaling {action : EStateM Failure Journal α} {Q : α → Journal → Prop}
    {E : Failure → Loading σ → Prop} {l : Loading σ}
    (h : Meets Q (fun e j => E e ⟨l.fetcher, j⟩) (action l.journal)) :
    Meets (fun a l => Q a l.journal) E (Loading.journaling action l) := by
  obtain ⟨f, j⟩ := l
  dsimp only at h
  rw [Loading.journaling]
  cases haction : action j <;> rwa [haction] at h

end Loading

/-- What the fetcher tells is noted, and no more. -/
theorem gains_noted {entries : List Journal.Entry} {j k : Journal} (records : List Record)
    (h : j.Gains entries k) : j.Gains entries (records.foldl (fun j r => j.note (.logged r)) k) := by
  induction records generalizing k with
  | nil => exact h
  | cons r rest ih => exact ih (h.noted rfl rfl)

section Tables

variable {entries : List Journal.Entry} {j : Journal} {l : Loading σ} (fetcher : Fetcher σ)
  (dataset : Dataset)

/-- Fetching fails for what the fetcher raises, and so does reading what it has fetched. -/
theorem meets_fetch (h : j.Gains entries l.journal) :
    Meets
      (fun stream l => j.Gains entries l.journal
        ∧ ∀ e m, stream.broken = some e → e.misuse? = some m → fetcher.Raises m l)
      (Blames fetcher.Raises) (Loading.fetch fetcher dataset l) := by
  obtain ⟨f, k⟩ := l
  have hnoted := gains_noted (fetcher dataset f).log h
  rw [Loading.fetch]
  cases hresult : (fetcher dataset f).result with
  | error e => exact fun m hm => ⟨dataset, f, e, rfl, hm, .inl hresult⟩
  | ok stream =>
      exact ⟨hnoted, fun e m he hm => ⟨dataset, f, e, rfl, hm, .inr ⟨stream, hresult, he⟩⟩⟩

/-- A table adds the line of its span. -/
theorem meets_loadTable {read : Stream → Except Failure α}
    (hread : ∀ s, FromStream s (read s)) (h : j.Gains entries l.journal) :
    Meets
      (fun _ l => j.Gains (entries ++ [tableEntry j.running.length dataset]) l.journal)
      (Blames fetcher.Raises) (loadTable fetcher dataset read l) := by
  refine (Loading.meets_journaling (Journal.meets_start l.journal _)).bind fun _ l₁ h₁ => ?_
  -- in the span of the table, the table is fetched and read
  have htable : Meets (fun _ l₂ => (l.journal.start (tableSpan dataset)).Gains [] l₂.journal)
      (Blames fetcher.Raises)
      ((Loading.fetch fetcher dataset >>= fun stream => orFail (read stream)) l₁) := by
    refine (meets_fetch fetcher dataset h₁).bind fun stream l₂ ⟨h₂, hbroken⟩ => ?_
    have hstream := hread stream
    cases hresult : read stream with
    | ok table => exact h₂
    | error e =>
        intro m hm
        obtain ⟨cause, hcause, hm⟩ := hstream e m hresult hm
        exact hbroken cause m hcause hm
  refine (htable.inContext fun e l he => he.within _).bind fun table l₂ h₂ => ?_
  refine (Loading.meets_journaling (Journal.meets_stop h.notCounting h₂)).bind fun _ l₃ h₃ => ?_
  rw [h.depth] at h₃
  exact h.trans h₃

end Tables

/-! ## All tables -/

/-- The lines that loading adds. -/
def loadEntries (depth : Nat) : List Journal.Entry :=
  ⟨depth, "load reference data took "⟩ :: Dataset.all.map (tableEntry (depth + 1))

theorem meets_load (fetcher : Fetcher σ) {l : Loading σ} (hl : l.journal.NotCounting) :
    Meets
      (fun _ l' => l.journal.Gains (loadEntries l.journal.running.length) l'.journal)
      (Blames fetcher.Raises) (load fetcher l) := by
  refine (Loading.meets_journaling (Journal.meets_start l.journal _)).bind fun _ l₁ h₁ => ?_
  refine (meets_loadTable fetcher _ fromStream_readUsers h₁).bind fun users l₂ h₂ => ?_
  refine (meets_loadTable fetcher _ fromStream_readAreas h₂).bind fun areas l₃ h₃ => ?_
  refine (meets_loadTable fetcher _ fromStream_readLocations h₃).bind fun locations l₄ h₄ => ?_
  refine (meets_loadTable fetcher _ (fromStream_readNames _) h₄).bind fun first l₅ h₅ => ?_
  refine (meets_loadTable fetcher _ (fromStream_readNames _) h₅).bind fun last l₆ h₆ => ?_
  refine (Loading.meets_journaling (Journal.meets_modify h₆ rfl rfl)).bind fun _ l₇ h₇ => ?_
  refine (Meets.orRefuse (fun _ _ => blames_of_none rfl) _ l₇).bind fun names l₈ h₈ => ?_
  rw [← h₈] at h₇
  refine (Loading.meets_journaling (Journal.meets_stop hl h₇)).bind fun _ l₉ h₉ => ?_
  rw [Journal.depth_start] at h₉
  exact h₉

end Populace.Sources
