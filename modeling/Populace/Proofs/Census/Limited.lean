import Populace.Proofs.Census.Population
import Populace.Proofs.People.Records
import Populace.Proofs.Rows.Limits

/-!
# Rows on a medium with little room

People are handed to a sink one by one up to the first failure, then the sink is finished
if there was none, and in the end the writer is closed. With a medium that has room for so
many bytes, what has reached it is at all times the beginning of the full text, and a text
that is too long for it is noticed by one of these calls at the latest. So a run that
succeeds has written everybody's row.
-/

namespace Populace.People

open Populace.Rows (Medium Writer)
open Populace.Rows.Writer (Puts)

variable {σ : Type}

/-- Hands people to the sink one by one, up to the first failure. -/
def Sink.emitAll (sink : Sink σ) : List Person → EStateM Failure σ Unit
  | [] => return
  | p :: people => do
    sink.emit p
    sink.emitAll people

/-- And finishes the sink behind the last one. -/
def Sink.takeAll (sink : Sink σ) (people : List Person) : EStateM Failure σ Unit := do
  sink.emitAll people
  sink.finish

theorem emitAll_of_accepts {sink : Sink σ} {people : List Person} {s t : σ}
    (h : sink.Accepts people s t) : sink.emitAll people s = .ok () t := by
  induction people generalizing s with
  | nil =>
      cases h
      rfl
  | cons p people ih =>
      obtain ⟨u, hp, hu⟩ := h
      rw [Sink.emitAll, bind_of_ok hp]
      exact ih hu

/-- The pieces of some people's rows. -/
def piecesOf (people : List Person) : List (List UInt8) :=
  people.flatMap fun p => Rows.rowPieces p.row

theorem flatten_piecesOf (people : List Person) : (piecesOf people).flatten = rowsOf people := by
  induction people with
  | nil => rfl
  | cons p people ih =>
      have hcons : piecesOf (p :: people) = Rows.rowPieces p.row ++ piecesOf people :=
        List.flatMap_cons
      rw [hcons, List.flatten_append, ih]
      rfl

/-- Handing people over is putting in the pieces of their rows. -/
theorem emitAll_rows (people : List Person) :
    Sink.rows.emitAll people = Writer.putPieces (piecesOf people) := by
  induction people with
  | nil => rfl
  | cons p people ih =>
      have hcons : piecesOf (p :: people) = Rows.rowPieces p.row ++ piecesOf people :=
        List.flatMap_cons
      have hemit : Sink.rows.emit p = Writer.putPieces (Rows.rowPieces p.row) := by
        simp only [Sink.rows, Writer.putRow]
      rw [Sink.emitAll, ih, hcons, Writer.putPieces_append, hemit]

theorem prefix_rowsOf {front people : List Person} (h : front <+: people) :
    rowsOf front <+: rowsOf people := by
  obtain ⟨back, rfl⟩ := h
  rw [rowsOf, rowsOf, List.flatMap_append]
  exact List.prefix_append _ _

/-- A writer in front of a medium with room for so many bytes. -/
def limited (room : Nat) : Writer := Writer.new (Medium.empty (some room))

theorem emitAll_puts (room : Nat) (people : List Person) :
    Puts room (rowsOf people) (Sink.rows.emitAll people (limited room)) := by
  rw [emitAll_rows, ← flatten_piecesOf]
  exact Writer.putPieces_puts (Writer.within_new room) (piecesOf people)

/-- What handing over some people, finishing and closing does to a medium with room for so
many bytes. -/
structure Faithful (room : Nat) (people : List Person) : Prop where
  /-- Whichever pieces have been put in, the beginning of the full text is there. -/
  while_putting : ∀ front, front <+: piecesOf people →
    (stateBehind (Writer.putPieces front (limited room))).reached <+: rowsOf people
  behind_emit : ∀ front, front <+: people →
    (stateBehind (Sink.rows.emitAll front (limited room))).reached <+: rowsOf people
  behind_all : (stateBehind (Sink.rows.takeAll people (limited room))).reached <+: rowsOf people
  behind_close : (stateBehind (Writer.close
    (stateBehind (Sink.rows.takeAll people (limited room))))).reached <+: rowsOf people
  /-- If finishing succeeds, all that was handed over so far is there. -/
  finished : ∀ front, front <+: people → ∀ v,
    Sink.rows.finish (stateBehind (Sink.rows.emitAll front (limited room))) = .ok () v →
      v.reached = rowsOf front
  /-- With room for all of it nothing fails, and the full text is there. -/
  enough : (rowsOf people).length ≤ room → ∃ v u,
    Sink.rows.takeAll people (limited room) = .ok () v ∧ v.reached = rowsOf people
      ∧ Writer.close v = .ok () u ∧ u.reached = rowsOf people
  /-- With too little room the failure is reported before closing, and by closing again. -/
  too_little : room < (rowsOf people).length → ∃ e v d u,
    Sink.rows.takeAll people (limited room) = .error e v ∧ Writer.close v = .error d u
      ∧ u.reached = (rowsOf people).take room

theorem takeAll_of_room {room : Nat} {people : List Person}
    (hroom : (rowsOf people).length ≤ room) :
    ∃ v, Sink.rows.takeAll people (limited room) = .ok () v ∧ v.Within room (rowsOf people)
      ∧ v.reached = rowsOf people := by
  obtain ⟨w, hemit, hw⟩ := (emitAll_puts room people).ok_of_room hroom
  obtain ⟨v, hflush, hv, hreached⟩ := Writer.flush_of_room hw hroom
  exact ⟨v, (bind_of_ok hemit).trans hflush, hv, hreached⟩

theorem takeAll_of_overfull {room : Nat} {people : List Person}
    (hroom : room < (rowsOf people).length) :
    ∃ e v, Sink.rows.takeAll people (limited room) = .error e v
      ∧ v.Full room (rowsOf people) := by
  have hputs := emitAll_puts room people
  cases hemit : Sink.rows.emitAll people (limited room) with
  | ok _ w =>
      rw [hemit] at hputs
      obtain ⟨v, hflush, hv⟩ := Writer.flush_of_overfull hputs hroom
      exact ⟨_, v, (bind_of_ok hemit).trans hflush, hv⟩
  | error e w =>
      rw [hemit] at hputs
      exact ⟨e, w, bind_of_error hemit, hputs⟩

theorem faithful (room : Nat) (people : List Person) : Faithful room people := by
  have hemits : ∀ front, front <+: people →
      (stateBehind (Sink.rows.emitAll front (limited room))).reached <+: rowsOf people :=
    fun front h => (emitAll_puts room front).reached_begins.trans (prefix_rowsOf h)
  have hputting : ∀ front, front <+: piecesOf people →
      (stateBehind (Writer.putPieces front (limited room))).reached <+: rowsOf people := by
    intro front ⟨back, hfront⟩
    have hputs := Writer.putPieces_puts (Writer.within_new room) front
    rw [← flatten_piecesOf, ← hfront, List.flatten_append]
    exact hputs.reached_begins.trans (List.prefix_append _ _)
  have hfinished : ∀ front, front <+: people → ∀ v,
      Sink.rows.finish (stateBehind (Sink.rows.emitAll front (limited room))) = .ok () v →
        v.reached = rowsOf front :=
    fun front _ v h => Writer.reached_of_flush_ok (emitAll_puts room front) h
  by_cases hroom : (rowsOf people).length ≤ room
  · obtain ⟨v, htake, hv, hreached⟩ := takeAll_of_room hroom
    obtain ⟨u, hflush, -, hclosed⟩ := Writer.flush_of_room hv hroom
    have hclose := Writer.close_of_flush_ok hflush
    refine ⟨hputting, hemits, ?_, ?_, hfinished, ?_, ?_⟩
    · exact ⟨[], by rw [List.append_nil, htake, stateBehind_ok, hreached]⟩
    · exact ⟨[], by rw [List.append_nil, htake, stateBehind_ok, hclose, stateBehind_ok, hclosed]⟩
    · exact fun _ => ⟨v, u, htake, hreached, hclose, hclosed⟩
    · intro h
      omega
  · have hover : room < (rowsOf people).length := by omega
    obtain ⟨e, v, htake, hv⟩ := takeAll_of_overfull hover
    obtain ⟨u, hflush, hu⟩ := Writer.flush_of_full hv
    have hclose := Writer.close_of_flush_error hflush
    refine ⟨hputting, hemits, ?_, ?_, hfinished, ?_, ?_⟩
    · rw [htake, stateBehind_error]
      exact hv.reached_begins
    · rw [htake, stateBehind_error, hclose, stateBehind_error]
      exact hu.reached_begins
    · intro h
      omega
    · exact fun _ => ⟨e, v, _, u, htake, hclose, hu.reached_eq⟩

end Populace.People

namespace Populace.Census

open Populace.People Populace.Random

variable {σ : Type}

/-- A run that succeeds has handed over everybody that is planned, and has finished the sink
behind them. -/
theorem offered_of_generate {w : Setting} {sink : Sink σ} {g : Xorshift} {j : Journal} {s : σ}
    {n : UInt64} {r : Run σ} (h : generate w sink ⟨g, j, s⟩ = .ok n r) :
    ∃ made t, made.length = n.toNat ∧ sink.Accepts (made.map Made.person) s t
      ∧ sink.finish t = .ok () r.sink
      ∧ generate w sink.traced ⟨g, j, ⟨[], s⟩⟩
        = .ok n ⟨r.generator, r.journal, ⟨emissions made ++ [.finish], r.sink⟩⟩ := by
  cases hplan : Plan.new w.data w.options j with
  | error e k =>
      rw [generate_of_unplanned hplan] at h
      cases h
  | ok plan k =>
      have hplanned := planned_of_new hplan
      obtain ⟨l, left, hoffers, htraced⟩ := emit_traced_offers plan w sink hplanned.behind g s
      have huntraced : mapState Run.untraced (generate w sink.traced ⟨g, j, ⟨[], s⟩⟩)
          = .ok n r := (generate_untraces w sink _).trans h
      rw [generate_of_planned hplan, htraced] at huntraced
      obtain ⟨groups, m, haccounts⟩ := Course.accounts_ofCountries w plan.quotas.entries g
      rw [← Plan.course] at haccounts
      generalize plan.course w g = course at hoffers haccounts
      cases hoffers with
      | refused _ _ => cases huntraced
      | incomplete _ => cases huntraced
      | unfinished _ _ => cases huntraced
      | @finished made h t u haccepts hfinish =>
          cases huntraced
          obtain ⟨rfl, hcounts⟩ := haccounts.complete _ rfl
          have hlength := (shared_groups hplanned.quotas hcounts).2.2.2
          have hmade : made = groups.flatMap Prod.snd := haccounts.made
          refine ⟨made, t, ?_, haccepts, hfinish, ?_⟩
          · rw [hplanned.total, ← hlength, hmade]
          · rw [generate_of_planned hplan, htraced]
            rfl

/-- **Nothing is lost without a report.** Whoever is handed over and however much room the
medium has, what has reached it is at all times the beginning of the full text; if
finishing succeeds, the rows of everybody so far are there; with room for the full text no
call fails, and otherwise handing over or finishing fails, and closing too. A whole run
that succeeds has got the rows of everybody it handed over to the medium, and they are as
many as it says. -/
theorem limited_medium_faithful (room : Nat) :
    (∀ people, Faithful room people)
      ∧ ∀ (w : Setting) (g : Xorshift) (j : Journal) (n : UInt64) (r : Run Rows.Writer),
        generate w Sink.rows ⟨g, j, limited room⟩ = .ok n r →
          ∃ made, made.length = n.toNat ∧ r.sink.reached = rowsOf (made.map Made.person)
            ∧ ∃ k, generate w Sink.rows.traced ⟨g, j, ⟨[], limited room⟩⟩
              = .ok n ⟨r.generator, k, ⟨emissions made ++ [.finish], r.sink⟩⟩ := by
  refine ⟨faithful room, fun w g j n r h => ?_⟩
  obtain ⟨made, t, hlength, haccepts, hfinish, htraced⟩ := offered_of_generate h
  have hputs := emitAll_puts room (made.map Made.person)
  have hflush : Rows.Writer.flush
      (stateBehind (Sink.rows.emitAll (made.map Made.person) (limited room))) = .ok () r.sink := by
    rw [emitAll_of_accepts haccepts]
    exact hfinish
  exact ⟨made, hlength, Rows.Writer.reached_of_flush_ok hputs hflush, r.journal, htraced⟩

theorem rowsOf_ada : rowsOf [ada] = Text.bytesOf
    "01234567-89ab-4def-8123-456789abcdef,\"Ada, \"\"AL\"\"\",1815-12-10,51.5,-0.125\n" := by
  decide +kernel

/-- Of one row of 74 bytes the first forty get there if there is room for no more, which two
calls report, and all of them if there is room. A run that makes four people and has room
for their rows succeeds. -/
theorem limited_medium_faithful_one_row :
    (∃ e v d u, Sink.rows.takeAll [ada] (limited 40) = .error e v ∧ Rows.Writer.close v = .error d u
      ∧ u.reached = Text.bytesOf "01234567-89ab-4def-8123-456789abcdef,\"Ad")
    ∧ (∃ v u, Sink.rows.takeAll [ada] (limited 74) = .ok () v ∧ Rows.Writer.close v = .ok () u
      ∧ u.reached = Text.bytesOf
        "01234567-89ab-4def-8123-456789abcdef,\"Ada, \"\"AL\"\"\",1815-12-10,51.5,-0.125\n")
    ∧ ∃ (r : Run Rows.Writer) (made : List Made), generate threeCountries Sink.rows
        ⟨⟨1, 2, 3, 4⟩, Journal.new "run" true, limited 500⟩ = .ok 4 r
      ∧ made.length = 4 ∧ r.sink.reached = rowsOf (made.map Made.person) := by
  have hbytes := rowsOf_ada
  have hlength : (rowsOf [ada]).length = 74 := by decide +kernel
  have hfour : value? (generate threeCountries Sink.rows
      ⟨⟨1, 2, 3, 4⟩, Journal.new "run" true, limited 500⟩) = some 4 := by decide +kernel
  refine ⟨?_, ?_, ?_⟩
  · obtain ⟨e, v, d, u, htake, hclose, hreached⟩ :=
      ((limited_medium_faithful 40).1 [ada]).too_little (by omega)
    refine ⟨e, v, d, u, htake, hclose, ?_⟩
    rw [hreached, hbytes]
    decide +kernel
  · obtain ⟨v, u, htake, -, hclose, hreached⟩ :=
      ((limited_medium_faithful 74).1 [ada]).enough (by omega)
    exact ⟨v, u, htake, hclose, hreached.trans hbytes⟩
  · obtain ⟨r, hrun⟩ := eq_ok_of_value hfour
    obtain ⟨made, hmade, hreached, -⟩ := (limited_medium_faithful 500).2 _ _ _ _ _ hrun
    exact ⟨r, made, hrun, hmade, hreached⟩

end Populace.Census
