import Populace.Census.Run
import Populace.Proofs.People.Calls

/-!
# What a plan leads to

The course of a plan is what is made of it, as far as sinks and journals have no say in
it: everybody in order, each with the generator behind the making, and the end, which is
a failure if somebody cannot be made. `Course.deliver` hands the people of a course to a
sink.
-/

namespace Populace.Census

open Populace.People Populace.Random

variable {σ : Type}

/-- Somebody who was made, and the generator behind that. -/
structure Made where
  person : Person
  behind : Xorshift

/-- Everybody who is made, in order, and how the making ends. -/
structure Course where
  made : List Made
  ending : EStateM.Result Failure Xorshift Unit

namespace Course

/-- Nobody else is made. -/
def ended (g : Xorshift) : Course :=
  ⟨[], .ok () g⟩

/-- Nobody else can be made. -/
def failed (e : Failure) (g : Xorshift) : Course :=
  ⟨[], .error e g⟩

/-- Somebody, and then the others. -/
def cons (m : Made) (c : Course) : Course :=
  ⟨m :: c.made, c.ending⟩

/-- Goes on with another course, unless the first one has failed. -/
def andThen (c : Course) (next : Xorshift → Course) : Course :=
  match c.ending with
  | .ok _ g => ⟨c.made ++ (next g).made, (next g).ending⟩
  | .error _ _ => c

/-- One person of a country. -/
def ofPerson (w : Setting) (country : String) (shape : Shape) (g : Xorshift) : Course :=
  match inContext (.making country)
      (Person.draw shape w.data.names w.options w.today) g with
  | .ok person g => cons ⟨person, g⟩ (ended g)
  | .error e g => failed e g

/-- So many people of a country. -/
def ofPeople (w : Setting) (country : String) (shape : Shape) : Nat → Xorshift → Course
  | 0, g => ended g
  | n + 1, g => (ofPerson w country shape g).andThen (ofPeople w country shape n)

/-- The people of one country. -/
def ofCountry (w : Setting) (country : String) (quota : UInt64) (g : Xorshift) : Course :=
  match shape? w.data country w.options.model with
  | none => failed (.of (.noLocation country)) g
  | some (shape, _) => ofPeople w country shape quota.toNat g

/-- The people of some countries. -/
def ofCountries (w : Setting) : List (String × UInt64) → Xorshift → Course
  | [], g => ended g
  | (country, quota) :: rest, g => (ofCountry w country quota g).andThen (ofCountries w rest)

/-- Hands everybody to a sink, up to the first one it refuses; then the generator is the
one behind whoever was refused. -/
def deliverAll (sink : Sink σ) (ending : EStateM.Result Failure Xorshift Unit) :
    List Made → σ → EStateM.Result Failure (Xorshift × σ) Unit
  | [], s => mapState (·, s) ending
  | m :: rest, s =>
    match sink.emit m.person s with
    | .ok _ s => deliverAll sink ending rest s
    | .error e s => .error e (m.behind, s)

/-- Hands the people of a course to a sink. -/
def deliver (sink : Sink σ) (c : Course) (s : σ) : EStateM.Result Failure (Xorshift × σ) Unit :=
  deliverAll sink c.ending c.made s

/-- Goes on with another delivery, unless the first one has failed. -/
def deliverThen (d : EStateM.Result Failure (Xorshift × σ) Unit)
    (next : Xorshift → σ → EStateM.Result Failure (Xorshift × σ) Unit) :
    EStateM.Result Failure (Xorshift × σ) Unit :=
  match d with
  | .ok _ (g, s) => next g s
  | .error e gs => .error e gs

end Course

/-- The course of a plan. -/
def Plan.course (plan : Plan) (w : Setting) (g : Xorshift) : Course :=
  Course.ofCountries w plan.quotas.entries g

namespace Course

/-! ## Where the people of a course come from -/

/-- These people are made one behind the other from the generator that the one before has
left, and all live in this shape. -/
def Drawn (w : Setting) (shape : Shape) : Xorshift → List Made → Xorshift → Prop
  | g, [], h => h = g
  | g, m :: rest, h =>
    Person.draw shape w.data.names w.options w.today g = .ok m.person m.behind
      ∧ Drawn w shape m.behind rest h

/-- The people of each country are drawn in the shape of the country, and one generator
goes through all countries. -/
def DrawnByCountry (w : Setting) : Xorshift → List (String × List Made) → Xorshift → Prop
  | g, [], h => h = g
  | g, (country, people) :: rest, h =>
    ∃ shape warning? k, shape? w.data country w.options.model = some (shape, warning?)
      ∧ Drawn w shape g people k ∧ DrawnByCountry w k rest h

/-- The people of a course, country by country, and the generator behind them: they are
all of those asked for if the course does not fail. -/
structure Accounts (w : Setting) (countries : List (String × UInt64)) (g : Xorshift)
    (c : Course) (groups : List (String × List Made)) (h : Xorshift) : Prop where
  drawn : DrawnByCountry w g groups h
  made : c.made = groups.flatMap Prod.snd
  order : groups.map Prod.fst <+: countries.map Prod.fst
  complete : ∀ k, c.ending = .ok () k → k = h
    ∧ groups.map (fun e => (e.1, e.2.length)) = countries.map fun e => (e.1, e.2.toNat)

section Origin

variable (w : Setting)

theorem andThen_of_ok {c : Course} {g : Xorshift} (h : c.ending = .ok () g)
    (next : Xorshift → Course) :
    c.andThen next = ⟨c.made ++ (next g).made, (next g).ending⟩ := by
  simp only [andThen, h]

theorem andThen_of_error {c : Course} {e : Failure} {g : Xorshift} (h : c.ending = .error e g)
    (next : Xorshift → Course) : c.andThen next = c := by
  simp only [andThen, h]

theorem drawn_ofPeople (country : String) (shape : Shape) (n : Nat) (g : Xorshift) :
    ∃ h, Drawn w shape g (ofPeople w country shape n g).made h
      ∧ ∀ k, (ofPeople w country shape n g).ending = .ok () k →
        k = h ∧ (ofPeople w country shape n g).made.length = n := by
  induction n generalizing g with
  | zero =>
      refine ⟨g, rfl, fun k hk => ?_⟩
      cases hk
      exact ⟨rfl, rfl⟩
  | succ n ih =>
      rw [ofPeople, ofPerson]
      cases hdraw : Person.draw shape w.data.names w.options w.today g with
      | error e k =>
          -- nobody has been made, so the generator in front is the one left
          rw [inContext_of_error hdraw]
          refine ⟨g, rfl, fun k hk => ?_⟩
          cases hk
      | ok person k =>
          obtain ⟨h, hdrawn, hcomplete⟩ := ih k
          rw [inContext_of_ok hdraw]
          refine ⟨h, ⟨hdraw, hdrawn⟩, fun l hl => ?_⟩
          obtain ⟨rfl, hlength⟩ := hcomplete l hl
          exact ⟨rfl, congrArg (· + 1) hlength⟩

/-- Whatever course some countries lead to, its people can be accounted for. -/
theorem accounts_ofCountries (countries : List (String × UInt64)) (g : Xorshift) :
    ∃ groups h, Accounts w countries g (ofCountries w countries g) groups h := by
  induction countries generalizing g with
  | nil =>
      refine ⟨[], g, rfl, rfl, List.prefix_rfl, fun k hk => ?_⟩
      cases hk
      exact ⟨rfl, rfl⟩
  | cons entry rest ih =>
      obtain ⟨country, quota⟩ := entry
      rw [ofCountries, ofCountry]
      cases hshape : shape? w.data country w.options.model with
      | none =>
          refine ⟨[], g, rfl, rfl, List.nil_prefix, fun k hk => ?_⟩
          cases hk
      | some found =>
          obtain ⟨shape, warning?⟩ := found
          obtain ⟨k, hdrawn, hfull⟩ := drawn_ofPeople w country shape quota.toNat g
          cases hend : (ofPeople w country shape quota.toNat g).ending with
          | error e l =>
              -- the country is not complete, and nothing follows it
              simp only [andThen_of_error hend]
              refine ⟨[(country, (ofPeople w country shape quota.toNat g).made)], k,
                ⟨shape, warning?, k, hshape, hdrawn, rfl⟩, by simp, by simp, ?_⟩
              intro l hl
              rw [hend] at hl
              cases hl
          | ok _ l =>
              obtain ⟨rfl, hlength⟩ := hfull l hend
              obtain ⟨groups, h, haccounts⟩ := ih l
              simp only [andThen_of_ok hend]
              refine ⟨(country, (ofPeople w country shape quota.toNat g).made) :: groups, h,
                ⟨shape, warning?, l, hshape, hdrawn, haccounts.drawn⟩, ?_, ?_, ?_⟩
              · rw [haccounts.made, List.flatMap_cons]
              · simpa using haccounts.order
              · intro m hm
                obtain ⟨hm, hcounts⟩ := haccounts.complete m hm
                exact ⟨hm, by simp [hcounts, hlength]⟩

end Origin

/-! ## Delivery -/

section Delivery

variable {sink : Sink σ} {s t : σ}

/-- A sink that takes everybody leaves the end to the course. -/
theorem deliverAll_of_accepts {made : List Made} {ending : EStateM.Result Failure Xorshift Unit}
    (h : sink.Accepts (made.map Made.person) s t) :
    deliverAll sink ending made s = mapState (·, t) ending := by
  induction made generalizing s with
  | nil =>
      cases h
      rfl
  | cons m made ih =>
      obtain ⟨u, hm, hu⟩ := h
      rw [deliverAll, hm]
      exact ih hu

/-- A sink that refuses somebody ends the delivery. -/
theorem deliverAll_of_refuses {front back : List Made} {m : Made} {e : Failure} {u : σ}
    {ending : EStateM.Result Failure Xorshift Unit}
    (h : sink.Accepts (front.map Made.person) s t) (hm : sink.emit m.person t = .error e u) :
    deliverAll sink ending (front ++ m :: back) s = .error e (m.behind, u) := by
  induction front generalizing s with
  | nil =>
      cases h
      rw [List.nil_append, deliverAll, hm]
  | cons n front ih =>
      obtain ⟨v, hn, hv⟩ := h
      rw [List.cons_append, deliverAll, hn]
      exact ih hv

theorem deliver_cons (m : Made) (c : Course) (s : σ) :
    (cons m c).deliver sink s = match sink.emit m.person s with
      | .ok _ s => c.deliver sink s
      | .error e s => .error e (m.behind, s) := rfl

theorem andThen_cons (m : Made) (c : Course) (next : Xorshift → Course) :
    (cons m c).andThen next = cons m (c.andThen next) := by
  obtain ⟨made, ending⟩ := c
  cases ending <;> rfl

/-- One course behind another is handed over one behind the other. -/
theorem deliver_andThen (c : Course) (next : Xorshift → Course) (s : σ) :
    (c.andThen next).deliver sink s
      = deliverThen (c.deliver sink s) fun g s => (next g).deliver sink s := by
  obtain ⟨made, ending⟩ := c
  -- the state of the sink changes with each of the people of the first course
  induction made generalizing s with
  | nil => cases ending <;> rfl
  | cons m made ih =>
      have hcons : (⟨m :: made, ending⟩ : Course) = cons m ⟨made, ending⟩ := rfl
      rw [hcons, andThen_cons, deliver_cons, deliver_cons]
      cases sink.emit m.person s with
      | ok _ t => exact ih t
      | error e t => rfl

end Delivery

end Course

end Populace.Census
