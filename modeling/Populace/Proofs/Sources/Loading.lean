import Populace.Proofs.Sources.Downloads

/-!
# What loading does to the files

Loading does nothing to the state of a fetcher but fetch, so what every fetch keeps is
kept by loading everything. With a web that cannot be reached nothing is downloaded, and
the files are all as they were.
-/

namespace Populace.Sources

open Populace.Files (Tree)

variable {σ α : Type}

/-! ## Loading only fetches -/

/-- The fetcher's state behind loading stands in this relation to the one before. -/
def Loading.Kept (R : σ → σ → Prop) (a b : Loading σ) : Prop :=
  R a.fetcher b.fetcher

section Kept

variable {R : σ → σ → Prop} (refl : ∀ f, R f f)

include refl

theorem journaling_keeps (action : EStateM Failure Journal α) :
    Keeps (Loading.Kept R) (Loading.journaling action) := by
  intro ⟨f, j⟩
  simp only [Loading.journaling]
  cases action j <;> exact refl f

theorem orFail_keeps (result : Except Failure α) :
    Keeps (Loading.Kept R) (orFail result) := by
  intro s
  cases result <;> exact refl s.fetcher

theorem orRefuse_keeps (result : Except Cause α) :
    Keeps (Loading.Kept R) (orRefuse result) := by
  intro s
  cases result <;> exact refl s.fetcher

omit refl in
theorem fetch_keeps {fetcher : Fetcher σ} (hfetch : ∀ d f, R f (fetcher d f).state)
    (dataset : Dataset) : Keeps (Loading.Kept R) (Loading.fetch fetcher dataset) := by
  intro ⟨f, j⟩
  simp only [Loading.fetch]
  have h := hfetch dataset f
  cases (fetcher dataset f).result <;> exact h

variable (trans : ∀ {a b c}, R a b → R b c → R a c)

include trans

theorem loadTable_keeps {fetcher : Fetcher σ} (hfetch : ∀ d f, R f (fetcher d f).state)
    (dataset : Dataset) (read : Stream → Except Failure α) :
    Keeps (Loading.Kept R) (loadTable fetcher dataset read) := by
  have htable : Keeps (Loading.Kept R)
      (Loading.fetch fetcher dataset >>= fun stream => orFail (read stream)) :=
    (fetch_keeps hfetch dataset).bind trans fun stream => orFail_keeps refl _
  exact (journaling_keeps refl _).bind trans fun _ => htable.inContext.bind trans fun _ =>
    (journaling_keeps refl _).bind trans fun _ => Keeps.done (fun s => refl s.fetcher) _

/-- What every fetch keeps is kept by loading everything. -/
theorem load_keeps {fetcher : Fetcher σ} (hfetch : ∀ d f, R f (fetcher d f).state) :
    Keeps (Loading.Kept R) (load fetcher) := by
  have htable {β : Type} (dataset : Dataset) (read : Stream → Except Failure β) :=
    loadTable_keeps refl trans hfetch dataset read
  exact (journaling_keeps refl _).bind trans fun _ =>
    (htable _ _).bind trans fun _ => (htable _ _).bind trans fun _ =>
    (htable _ _).bind trans fun _ => (htable _ _).bind trans fun _ =>
    (htable _ _).bind trans fun _ => (journaling_keeps refl _).bind trans fun _ =>
    (orRefuse_keeps refl _).bind trans fun _ => (journaling_keeps refl _).bind trans fun _ =>
    Keeps.done (fun s => refl s.fetcher) _

end Kept

/-! ## Without the web -/

/-- No request is answered. -/
def Web.Unreachable (web : Web) : Prop :=
  ∀ url, ∃ problem, web url = .unreachable problem

theorem Web.unreachable_unreachable : Web.unreachable.Unreachable :=
  fun _ => ⟨_, rfl⟩

variable {settings : Settings} {web : Web}

theorem not_answered (hweb : web.Unreachable) {dataset : Dataset} {t : Tree} {url : String}
    {body : ByteArray} {sent : Option Nat} :
    ¬ Answered settings web dataset t url body sent := by
  rintro ⟨-, -, status, hreply, -⟩
  obtain ⟨problem, hproblem⟩ := hweb url
  rw [hproblem] at hreply
  cases hreply

/-- Without answers, opening a table makes directories at most. -/
theorem extends_of_fetched (hweb : web.Unreachable) {dataset : Dataset} {t u : Tree}
    (h : Fetched settings web dataset t u) : t.Extends u :=
  extends_of_unanswered h fun _ _ _ => not_answered hweb

/-- Loading without the web leaves all files as they are, whether it succeeds or not. -/
theorem extends_load (settings : Settings) (hweb : web.Unreachable) :
    Keeps (Loading.Kept Tree.Extends) (load (cachingFetcher settings web)) :=
  load_keeps .refl .trans fun dataset t =>
    extends_of_fetched hweb (fetched_cachingFetcher settings web dataset t)

end Populace.Sources
