import Populace.People.Sink
import Populace.Proofs.Actions

/-!
# The calls that a sink gets

A sink has a state of its own, and may fail at any call. `Accepts` says that it takes
people one by one without a failure; of any list of people a sink either takes everybody
or there is a first one whom it refuses. The traced sink does the same as the sink it is
made of and keeps a list of all calls, failing ones included.
-/

namespace Populace.People

variable {σ : Type}

/-- A call of a sink. -/
inductive Call where
  | emit (person : Person)
  | finish

/-- Whether the call hands a person over. -/
def Call.isEmit : Call → Bool
  | .emit _ => true
  | .finish => false

namespace Sink

/-- The sink takes all these people, one by one, on its way from one state to another. -/
def Accepts (sink : Sink σ) : List Person → σ → σ → Prop
  | [], s, t => t = s
  | p :: people, s, t => ∃ u, sink.emit p s = .ok () u ∧ sink.Accepts people u t

/-- A sink either takes everybody, or it takes some and refuses the one behind them. -/
theorem accepts_or_refuses (sink : Sink σ) (people : List Person) (s : σ) :
    (∃ t, sink.Accepts people s t)
      ∨ ∃ front p back t e u, people = front ++ p :: back ∧ sink.Accepts front s t
        ∧ sink.emit p t = .error e u := by
  induction people generalizing s with
  | nil => exact .inl ⟨s, rfl⟩
  | cons p people ih =>
      cases hp : sink.emit p s with
      | error e u => exact .inr ⟨[], p, people, s, e, u, rfl, rfl, hp⟩
      | ok _ t =>
          rcases ih t with ⟨v, hv⟩ | ⟨front, q, back, v, e, u, rfl, hv, hq⟩
          · exact .inl ⟨v, t, hp, hv⟩
          · exact .inr ⟨p :: front, q, back, v, e, u, rfl, ⟨t, hp, hv⟩, hq⟩

end Sink

/-- A sink's state, and all calls the sink has got. -/
structure Traced (σ : Type) where
  calls : List Call
  state : σ

namespace Traced

/-- A call that is kept, whether it fails or not. -/
def call (c : Call) (action : EStateM Failure σ Unit) : EStateM Failure (Traced σ) Unit :=
  fun t => mapState (⟨t.calls ++ [c], ·⟩) (action t.state)

end Traced

/-- The sink that also keeps all calls. -/
def Sink.traced (sink : Sink σ) : Sink (Traced σ) where
  emit p := Traced.call (.emit p) (sink.emit p)
  finish := Traced.call .finish sink.finish

namespace Sink

variable {sink : Sink σ} {p : Person} {s t : σ} {e : Failure} {calls : List Call}

theorem traced_emit_of_ok (h : sink.emit p s = .ok () t) :
    sink.traced.emit p ⟨calls, s⟩ = .ok () ⟨calls ++ [.emit p], t⟩ := by
  simp only [traced, Traced.call, h, mapState]

theorem traced_emit_of_error (h : sink.emit p s = .error e t) :
    sink.traced.emit p ⟨calls, s⟩ = .error e ⟨calls ++ [.emit p], t⟩ := by
  simp only [traced, Traced.call, h, mapState]

theorem traced_finish_of_ok (h : sink.finish s = .ok () t) :
    sink.traced.finish ⟨calls, s⟩ = .ok () ⟨calls ++ [.finish], t⟩ := by
  simp only [traced, Traced.call, h, mapState]

theorem traced_finish_of_error (h : sink.finish s = .error e t) :
    sink.traced.finish ⟨calls, s⟩ = .error e ⟨calls ++ [.finish], t⟩ := by
  simp only [traced, Traced.call, h, mapState]

/-- Taking people is the same with calls kept: one call for each of them, in order. -/
theorem Accepts.traced {people : List Person} (h : sink.Accepts people s t)
    (calls : List Call) :
    sink.traced.Accepts people ⟨calls, s⟩ ⟨calls ++ people.map .emit, t⟩ := by
  induction people generalizing s calls with
  | nil =>
      cases h
      simp [Accepts]
  | cons p people ih =>
      obtain ⟨u, hp, hu⟩ := h
      refine ⟨⟨calls ++ [.emit p], u⟩, traced_emit_of_ok hp, ?_⟩
      have hrest : sink.traced.Accepts people ⟨calls ++ [.emit p], u⟩
          ⟨calls ++ [.emit p] ++ people.map .emit, t⟩ := ih hu _
      simpa using hrest

end Sink

end Populace.People
