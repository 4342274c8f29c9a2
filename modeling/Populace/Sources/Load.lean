import Populace.Census.Reference
import Populace.Sources.CountryFile
import Populace.Sources.NameList
import Populace.Sources.RankFile

/-!
Loading all reference tables, one after the other. Wherever the bytes come from is a
`Fetcher`; the first table that cannot be had or read ends the loading.
-/

namespace Populace.Sources

open Populace.Census (Reference)
open Populace.People (NamePool)

/-- What a fetcher gives: what it tells, a stream or a failure, and its state behind
that. -/
structure Reply (σ : Type) where
  log : List Record
  result : Except Failure Stream
  state : σ

/-- Gives the bytes of a table, and has a state of its own. -/
abbrev Fetcher (σ : Type) := Dataset → σ → Reply σ

/-- The state of loading: the fetcher's state, and the journal. -/
structure Loading (σ : Type) where
  fetcher : σ
  journal : Journal

namespace Loading

/-- Something done to the journal. -/
def journaling (action : EStateM Failure Journal α) : EStateM Failure (Loading σ) α :=
  fun ⟨f, j⟩ => match action j with
    | .ok a j => .ok a ⟨f, j⟩
    | .error e j => .error e ⟨f, j⟩

/-- Fetches a table; what the fetcher tells goes to the journal. -/
def fetch (fetcher : Fetcher σ) (dataset : Dataset) : EStateM Failure (Loading σ) Stream :=
  fun ⟨f, j⟩ =>
    let reply := fetcher dataset f
    let j := reply.log.foldl (fun j r => j.note (.logged r)) j
    match reply.result with
    | .ok stream => .ok stream ⟨reply.state, j⟩
    | .error e => .error e ⟨reply.state, j⟩

end Loading

/-- The span of loading everything. -/
def loadingSpan : String := "load reference data"

/-- The span of loading one table. -/
def tableSpan (dataset : Dataset) : String :=
  "load " ++ dataset.description

/-- Fetches and reads one table. -/
def loadTable (fetcher : Fetcher σ) (dataset : Dataset) (read : Stream → Except Failure α) :
    EStateM Failure (Loading σ) α := do
  Loading.journaling (modify (·.start (tableSpan dataset)))
  let table ← inContext (.loading dataset) do
    orFail (read (← Loading.fetch fetcher dataset))
  Loading.journaling (journaled (Journal.stop (tableSpan dataset)))
  return table

/-- What is told about the tables by country. -/
def countriesMessage (users areas locations : Nat) : String :=
  Text.grouped users ++ " countries have internet user counts, " ++ Text.grouped areas
    ++ " have an area, " ++ Text.grouped locations ++ " have a location"

/-- What is told about the lists of names. -/
def namesMessage (first last : Nat) : String :=
  Text.grouped first ++ " first names, " ++ Text.grouped last ++ " last names"

/-- Loads everything. -/
def load (fetcher : Fetcher σ) : EStateM Failure (Loading σ) Reference := do
  Loading.journaling (modify (·.start loadingSpan))
  let users ← loadTable fetcher .internetUsers readUsers
  let areas ← loadTable fetcher .areas readAreas
  let locations ← loadTable fetcher .locations readLocations
  let first ← loadTable fetcher .firstNames (readNames "firstname")
  let last ← loadTable fetcher .lastNames (readNames "lastname")
  Loading.journaling <| modify fun j =>
    (j.log .info .loading (countriesMessage users.size areas.size locations.size)).log
      .info .loading (namesMessage first.length last.length)
  let names ← orRefuse (NamePool.ofLists first last)
  Loading.journaling (journaled (Journal.stop loadingSpan))
  return { users, areas, locations, names }

end Populace.Sources
