import Populace.Proofs.Journal.Uses

/-!
# What the lines of a journal tell

Uses of a journal nest: what begins inside of a span is over before the span is. So they
tell a `Story`: a forest of what is over, and around it what is still running. The lines
of a journal are those of its story, everything that is over in the order in which it has
begun (`finished_tells_story`).
-/

namespace Populace.Journal

/-! ## Stories -/

/-- What is over, one behind the other: spans, with what was over inside of them before
they were, and counters, with the times of all items but the last. -/
inductive Past where
  | nothing
  | span (before : Past) (name : String) (started : Nat) (inside : Past) (stopped : Nat)
  | counter (before : Past) (label : String) (started : Nat) (counted : List Nat)
      (stopped : Nat)

/-- What is running, and what is over. A span has begun behind everything that is over in
the story around it, and so has a counter, for which there are more items than the last
one left. -/
inductive Story where
  | idle (past : Past)
  | inSpan (around : Story) (name : String) (started : Nat) (past : Past)
  | inCounter (around : Story) (label : String) (started : Nat) (counted : List Nat) (more : Nat)

/-- The lines of what is over when there is so much around it: the line of a span comes
directly before those of what was over inside. -/
def Past.lines (depth : Nat) : Past → List String
  | .nothing => []
  | .span before name started inside stopped =>
    before.lines depth
      ++ setIn depth (spanLine name started stopped) :: inside.lines (depth + 1)
  | .counter before label started counted stopped =>
    before.lines depth
      ++ [setIn depth (counterLine label (counted.length + 1) started stopped)]

/-- How much is running. -/
def Story.depth : Story → Nat
  | .idle _ => 0
  | .inSpan around _ _ _ => around.depth + 1
  | .inCounter around _ _ _ _ => around.depth + 1

/-- The lines of all that is over. -/
def Story.lines : Story → List String
  | .idle past => past.lines 0
  | .inSpan around _ _ past => around.lines ++ past.lines (around.depth + 1)
  | .inCounter around _ _ _ _ => around.lines

/-! ## Stories and uses -/

/-- One more item at each of these times. -/
def items (times : List Nat) : List Timed :=
  times.map (⟨·, .next⟩)

/-- The uses that tell what is over. -/
def Past.uses : Past → List Timed
  | .nothing => []
  | .span before name started inside stopped =>
    before.uses ++ ⟨started, .start name⟩ :: (inside.uses ++ [⟨stopped, .stop name⟩])
  | .counter before label started counted stopped =>
    before.uses ++ ⟨started, .count label (counted.length + 1)⟩
      :: (items counted ++ [⟨stopped, .next⟩])

/-- The uses that tell a story. -/
def Story.uses : Story → List Timed
  | .idle past => past.uses
  | .inSpan around name started past => around.uses ++ ⟨started, .start name⟩ :: past.uses
  | .inCounter around label started counted more =>
    around.uses ++ ⟨started, .count label (counted.length + more + 1)⟩ :: items counted

/-- Does the use belong to a story? Warnings do not, nor do counters without items. -/
def Timed.tells (u : Timed) : Bool :=
  match u.use with
  | .count _ 0 | .warn _ => false
  | _ => true

/-- Puts something behind what is over inside of the innermost activity. -/
def Story.add (f : Past → Past) : Story → Story
  | .idle past => .idle (f past)
  | .inSpan around name started past => .inSpan around name started (f past)
  | .inCounter around label started counted more => .inCounter around label started counted more

/-- How a story goes on. -/
def Story.tell (story : Story) (u : Timed) : Story :=
  match u.use, story with
  | .start name, story => .inSpan story name u.clock .nothing
  | .stop _, .inSpan around name started past =>
    around.add fun before => .span before name started past u.clock
  | .count label (total + 1), story => .inCounter story label u.clock [] total
  | .next, .inCounter around label started counted 0 =>
    around.add fun before => .counter before label started counted u.clock
  | .next, .inCounter around label started counted (more + 1) =>
    .inCounter around label started (counted ++ [u.clock]) more
  | _, story => story

theorem tell_items (around : Story) (label : String) (started : Nat) (counted times : List Nat)
    (more : Nat) :
    (items times).foldl Story.tell (.inCounter around label started counted (times.length + more))
      = .inCounter around label started (counted ++ times) more := by
  induction times generalizing counted with
  | nil => simp [items]
  | cons t times ih =>
      have hmore : (t :: times).length + more = times.length + more + 1 := by simp; omega
      rw [hmore]
      refine (ih (counted ++ [t])).trans ?_
      rw [List.append_assoc, List.singleton_append]

/-- Telling what is over, from any place where it can be put. -/
theorem tell_past {place : Past → Story} (hplace : ∀ p f, (place p).add f = place (f p))
    (past : Past) : past.uses.foldl Story.tell (place .nothing) = place past := by
  induction past generalizing place with
  | nothing => rfl
  | span before name started inside stopped ihbefore ihinside =>
      rw [Past.uses, List.foldl_append, ihbefore hplace, List.foldl_cons, List.foldl_append]
      -- what is inside is put into the span that has begun
      have hinside := @ihinside (.inSpan (place before) name started) fun _ _ => rfl
      rw [show Story.tell (place before) ⟨started, .start name⟩
        = .inSpan (place before) name started .nothing from rfl, hinside]
      exact hplace before _
  | counter before label started counted stopped ihbefore =>
      rw [Past.uses, List.foldl_append, ihbefore hplace, List.foldl_cons, List.foldl_append]
      have hitems := tell_items (place before) label started [] counted 0
      rw [show Story.tell (place before) ⟨started, .count label (counted.length + 1)⟩
        = .inCounter (place before) label started [] (counted.length + 0) from rfl, hitems]
      exact hplace before _

/-- Whoever hears the uses of a story knows the story. -/
theorem tell_uses (story : Story) : story.uses.foldl Story.tell (.idle .nothing) = story := by
  induction story with
  | idle past => exact tell_past (fun _ _ => rfl) past
  | inSpan around name started past ih =>
      rw [Story.uses, List.foldl_append, ih, List.foldl_cons]
      exact @tell_past (.inSpan around name started) (fun _ _ => rfl) past
  | inCounter around label started counted more ih =>
      rw [Story.uses, List.foldl_append, ih, List.foldl_cons]
      exact tell_items around label started [] counted more

theorem Story.uses_injective {a b : Story} (h : a.uses = b.uses) : a = b := by
  rw [← tell_uses a, h, tell_uses]

/-! ## A journal holds its story -/

/-- When a counter was last shown that began then and has had items at these times. -/
def lastShown (started : Nat) (counted : List Nat) : Nat :=
  counted.foldl (fun shown now => if isDue shown now then now else shown) started

theorem lastShown_concat (started : Nat) (counted : List Nat) (now : Nat) :
    lastShown started (counted ++ [now])
      = if isDue (lastShown started counted) now then now else lastShown started counted := by
  rw [lastShown, List.foldl_append, ← lastShown]
  rfl

/-- What a journal with this story holds. -/
def Story.held : Story → Held
  | .idle past => ⟨[], past.lines 0⟩
  | .inSpan around name started past =>
    ⟨.span ⟨name, started, past.lines (around.depth + 1)⟩ :: around.held.running,
      around.held.results⟩
  | .inCounter around label started counted more =>
    ⟨.counter ⟨label, counted.length, counted.length + more + 1, started,
        lastShown started counted⟩ :: around.held.running,
      around.held.results⟩

theorem length_running (story : Story) : story.held.running.length = story.depth := by
  induction story with
  | idle past => rfl
  | inSpan around name started past ih => exact congrArg (· + 1) ih
  | inCounter around label started counted more ih => exact congrArg (· + 1) ih

/-- The lines of everything that has finished. -/
def Held.finished (h : Held) : List String :=
  h.results ++ h.running.reverse.flatMap Activity.inside

@[simp] theorem finished_cons (a : Activity) (outer : List Activity) (results : List String) :
    (Held.mk (a :: outer) results).finished = (Held.mk outer results).finished ++ a.inside := by
  simp [Held.finished]

theorem finished_held (story : Story) : story.held.finished = story.lines := by
  induction story with
  | idle past => simp [Story.held, Story.lines, Held.finished]
  | inSpan around name started past ih => simp [Story.held, Story.lines, Activity.inside, ih]
  | inCounter around label started counted more ih =>
      simp [Story.held, Story.lines, Activity.inside, ih]

section Telling

variable {story : Story} {clock : Nat} {use : Use} {before after : Held} {lines : List String}

/-- Lines are kept where something is put behind what is over. -/
theorem held_add {f : Past → Past} (h : Kept lines story.held after)
    (hf : ∀ past, (f past).lines story.depth = past.lines story.depth ++ lines) :
    (story.add f).held = after := by
  cases story with
  | idle past =>
      cases h
      exact congrArg (Held.mk []) (hf past)
  | inSpan around name started past =>
      cases h
      rw [Story.add, Story.held]
      simp only [Story.depth] at hf
      rw [hf]
  | inCounter around label started counted more => cases h

theorem uses_add {f : Past → Past} {us : List Timed} (h : Kept lines story.held after)
    (hf : ∀ past, (f past).uses = past.uses ++ us) : (story.add f).uses = story.uses ++ us := by
  cases story with
  | idle past => exact hf past
  | inSpan around name started past =>
      simp [Story.add, Story.uses, hf]
  | inCounter around label started counted more => cases h

/-- A story goes on with every use that has a meaning. -/
theorem tell_of_step (h : Step clock use story.held after) :
    (story.tell ⟨clock, use⟩).held = after
      ∧ (story.tell ⟨clock, use⟩).uses
        = story.uses ++ [(⟨clock, use⟩ : Timed)].filter Timed.tells := by
  generalize hbefore : story.held = before at h
  cases h with
  | @start name running results =>
      obtain ⟨rfl, rfl⟩ := Held.mk.inj hbefore
      exact ⟨rfl, rfl⟩
  | @stop s outer results after hkept =>
      cases story with
      | idle past => cases hbefore
      | inCounter around label started counted more => cases hbefore
      | inSpan around name started past =>
          -- the span is put behind what was over before it began
          cases hbefore
          have hdepth := length_running around
          have hspan : ∀ before : Past, (Past.span before name started past clock).uses
              = before.uses ++ ⟨started, .start name⟩ :: (past.uses ++ [⟨clock, .stop name⟩]) :=
            fun _ => rfl
          refine ⟨held_add hkept fun before => ?_, (uses_add hkept hspan).trans ?_⟩
          · rw [Past.lines, hdepth]
          · rw [List.filter_eq_self.2 (by simp [Timed.tells])]
            simp [Story.uses]
  | countNothing => exact ⟨hbefore, (List.append_nil _).symm⟩
  | @count label total running results _ =>
      obtain ⟨rfl, rfl⟩ := Held.mk.inj hbefore
      refine ⟨?_, ?_⟩
      · simp [Story.tell, Story.held, lastShown]
      · simp [Story.tell, Story.uses, Timed.tells, items]
  | @next c outer results hmore =>
      cases story with
      | idle past => cases hbefore
      | inSpan around name started past => cases hbefore
      | inCounter around label started counted more =>
          cases hbefore
          dsimp only at hmore
          obtain ⟨more, rfl⟩ : ∃ n, more = n + 1 := Nat.exists_eq_succ_of_ne_zero (by omega)
          have htotal : counted.length + 1 + more = counted.length + (more + 1) := by omega
          refine ⟨?_, ?_⟩
          · simp [Story.tell, Story.held, htotal, noticed, lastShown_concat]
          · rw [List.filter_eq_self.2 (by simp [Timed.tells])]
            simp [Story.tell, Story.uses, items, htotal]
  | @last c outer results after hfull hkept =>
      cases story with
      | idle past => cases hbefore
      | inSpan around name started past => cases hbefore
      | inCounter around label started counted more =>
          -- the counter is put behind what was over before it began
          cases hbefore
          dsimp only at hfull
          obtain rfl : more = 0 := by omega
          have hdepth := length_running around
          have hcounter : ∀ before : Past, (Past.counter before label started counted clock).uses
              = before.uses ++ ⟨started, .count label (counted.length + 1)⟩
                :: (items counted ++ [⟨clock, .next⟩]) := fun _ => rfl
          refine ⟨held_add hkept fun before => ?_, (uses_add hkept hcounter).trans ?_⟩
          · rw [Past.lines, hdepth]
          · rw [List.filter_eq_self.2 (by simp [Timed.tells])]
            simp [Story.uses]
  | warn => exact ⟨hbefore, (List.append_nil _).symm⟩

end Telling

theorem held_new (name : String) (quiet : Bool) :
    (Journal.new name quiet).held = (Story.inSpan (.idle .nothing) name 0 .nothing).held :=
  held_start _ name

/-- Every journal that is reached holds a story, which its uses tell. -/
theorem Reached.story {name : String} {quiet : Bool} {uses : List Timed} {j : Journal}
    (h : Reached name quiet uses j) :
    ∃ story : Story, story.held = j.held
      ∧ story.uses = ⟨0, .start name⟩ :: uses.filter Timed.tells := by
  induction h with
  | new => exact ⟨_, (held_new name quiet).symm, rfl⟩
  | @use uses u j k _ hact ih =>
      obtain ⟨story, hheld, huses⟩ := ih
      have hstep := step_of_act hact
      rw [← hheld] at hstep
      obtain ⟨hafter, htold⟩ := tell_of_step hstep
      refine ⟨story.tell u, hafter, ?_⟩
      rw [htold, huses, List.filter_append, List.cons_append]

/-! ## One use, one line at most -/

/-- The use ends what is innermost: a span, or a counter with one item left. -/
def Ends (use : Use) (running : List Activity) : Prop :=
  (∃ name, use = .stop name)
    ∨ use = .next ∧ ∃ c outer, running = .counter c :: outer ∧ c.done + 1 = c.total

theorem Kept.finished {lines : List String} {before after : Held} (h : Kept lines before after) :
    after.finished = before.finished ++ lines := by
  cases h with
  | outside => simp [Held.finished]
  | inSpan => simp [Activity.inside]

/-- Where something ends one line is put between two that were there, and nowhere else does
a line come or go. -/
theorem Step.finished {clock : Nat} {use : Use} {before after : Held}
    (h : Step clock use before after) :
    (Ends use before.running → ∃ above line below, before.finished = above ++ below
        ∧ after.finished = above ++ line :: below)
      ∧ (¬ Ends use before.running → after.finished = before.finished) := by
  cases h with
  | start => exact ⟨by simp [Ends], by simp [Activity.inside]⟩
  | @stop s outer results after hkept =>
      refine ⟨fun _ => ?_, fun h => absurd (.inl ⟨_, rfl⟩) h⟩
      exact ⟨_, _, s.nested, finished_cons _ _ _, hkept.finished⟩
  | countNothing => exact ⟨by simp [Ends], by simp⟩
  | count => exact ⟨by simp [Ends], by simp [Activity.inside]⟩
  | next hless =>
      refine ⟨?_, by simp [Activity.inside]⟩
      rintro (⟨name, hstop⟩ | ⟨-, c, outer, hr, hfull⟩)
      · cases hstop
      · cases hr
        omega
  | @last c outer results after hfull hkept =>
      refine ⟨fun _ => ?_, fun h => absurd (.inr ⟨rfl, c, outer, rfl, hfull⟩) h⟩
      exact ⟨_, _, [], finished_cons _ _ _, hkept.finished⟩
  | warn => exact ⟨by simp [Ends], by simp⟩

/-- **What the lines of a journal tell.** The uses that a journal has had since it was new,
but for warnings and counters without items, tell one story, and its lines are those of
that story: one for each span and each counter that is over, in the order in which they
have begun, so that a span comes directly before what was over inside of it, each set in
by what was around it. The next use adds a line if it ends a span or counts the last item,
and leaves all lines that were there in their order; no other use changes a line. -/
theorem finished_tells_story {name : String} {quiet : Bool} {uses : List Timed} {j : Journal}
    (h : Reached name quiet uses j) :
    (∃ story : Story, story.uses = ⟨0, .start name⟩ :: uses.filter Timed.tells
        ∧ (∀ other : Story, other.uses = ⟨0, .start name⟩ :: uses.filter Timed.tells →
          other = story)
        ∧ j.finished = story.lines)
      ∧ ∀ (u : Timed) (k : Journal), u.act j = .ok () k →
        (Ends u.use j.running → ∃ above line below, j.finished = above ++ below
            ∧ k.finished = above ++ line :: below)
          ∧ (¬ Ends u.use j.running → k.finished = j.finished) := by
  obtain ⟨story, hheld, huses⟩ := h.story
  refine ⟨⟨story, huses, fun other hother => ?_, ?_⟩, fun u k hact => ?_⟩
  · exact Story.uses_injective (hother.trans huses.symm)
  · rw [← finished_held, hheld]
    rfl
  · exact (step_of_act hact).finished

/-- A counter of two items inside of a span: its line is behind that of the span, and set in
further. -/
theorem finished_tells_story_nested :
    ∃ j, Reached "outer" true
        [⟨250000000, .start "inner"⟩, ⟨500000000, .count "items" 2⟩, ⟨1000000000, .next⟩,
          ⟨1750000000, .next⟩, ⟨2750000000, .stop "inner"⟩] j
      ∧ j.finished = ["  - inner took 2.5000s", "    - items (2)... 1.2500s"] := by
  have hmeaning : value? (List.forM
      [⟨250000000, .start "inner"⟩, ⟨500000000, .count "items" 2⟩, ⟨1000000000, .next⟩,
        ⟨1750000000, .next⟩, ⟨2750000000, .stop "inner"⟩] Timed.act
      (Journal.new "outer" true)) = some () := by decide +kernel
  obtain ⟨j, hj⟩ := eq_ok_of_value hmeaning
  have hreached := Reached.append .new hj
  obtain ⟨⟨story, -, hunique, hlines⟩, -⟩ := finished_tells_story hreached
  have hstory := hunique (.inSpan (.idle .nothing) "outer" 0
    (.span .nothing "inner" 250000000
      (.counter .nothing "items" 500000000 [1000000000] 1750000000) 2750000000)) rfl
  rw [← hstory] at hlines
  refine ⟨j, hreached, hlines.trans ?_⟩
  decide +kernel

end Populace.Journal
