import Populace.Command.Arguments

/-!
# Command lines with one option more

An argument only adds to what the arguments before it have given (`take_behind`), so one
option more, put in where an option can stand, leaves everything else about a command line
as it is: `--quiet` makes no other difference than that the run is quiet, and `--output`
none but that the output goes somewhere else.
-/

namespace Populace.Command

namespace Seen

/-! ## One argument -/

/-- What is seen when the options of `earlier` were given before. -/
def behind (s earlier : Seen) : Seen :=
  { s with
    values := s.values ++ earlier.values
    met := s.met ++ earlier.met
    quiet := earlier.quiet + s.quiet }

section Behind

variable (s earlier : Seen)

@[simp] theorem people_behind : (s.behind earlier).people = s.people := rfl

@[simp] theorem waiting_behind : (s.behind earlier).waiting = s.waiting := rfl

@[simp] theorem behindDashes_behind :
    (s.behind earlier).behindDashes = s.behindDashes := rfl

theorem givePeople_behind (argument : String) :
    (s.behind earlier).givePeople argument = (s.givePeople argument).map (·.behind earlier) := by
  rw [givePeople, givePeople, people_behind]
  cases s.people <;> rfl

theorem takeLong_behind (cs : List Char) :
    (s.behind earlier).takeLong cs = (s.takeLong cs).map (·.behind earlier) := by
  rw [takeLong, takeLong]
  obtain ⟨name, value?⟩ := splitValue (cs.dropWhile (· = '-'))
  dsimp only
  cases Valued.all.find? (·.name = name) with
  | some o => cases value? <;> rfl
  | none =>
      dsimp only
      split
      · rfl
      · split
        · rfl
        · split <;> rfl

/-- No letter is an option that a run goes on with. -/
theorem takeShort_stops (cs : List Char) : ∃ stop, takeShort cs = .error stop := by
  rw [takeShort]
  split <;> exact ⟨_, rfl⟩

/-- An argument does the same whatever options were given before. -/
theorem take_behind (argument : String) :
    (s.behind earlier).take argument = (s.take argument).map (·.behind earlier) := by
  rw [take, take, behindDashes_behind, waiting_behind]
  split
  · exact givePeople_behind s earlier argument
  · split
    · rfl
    · exact takeLong_behind s earlier _
    · obtain ⟨stop, hstop⟩ := takeShort_stops (_ :: _)
      rw [hstop]
      rfl
    · cases s.waiting with
      | some o => rfl
      | none => exact givePeople_behind s earlier argument

theorem foldlM_behind (arguments : List String) :
    arguments.foldlM take (s.behind earlier)
      = (arguments.foldlM take s).map (·.behind earlier) := by
  induction arguments generalizing s with
  | nil => rfl
  | cons argument rest ih =>
      rw [List.foldlM_cons, List.foldlM_cons, take_behind]
      cases s.take argument with
      | error stop => rfl
      | ok t => exact ih t

end Behind

/-- Everything that an argument can do. -/
inductive Taken (s : Seen) (argument : String) : Seen → Prop where
  | people : Taken s argument { s with people := some argument }
  | dashes : Taken s argument { s with behindDashes := true }
  | valued {o value} : Taken s argument ({ s with met := o :: s.met }.give o value)
  | opened {o} : Taken s argument { s with met := o :: s.met, waiting := some o }
  | quiet : Taken s argument { s with quiet := s.quiet + 1, waiting := none }
  | value {o} : s.waiting = some o → Taken s argument (s.give o argument)

theorem taken_of_givePeople {s t : Seen} {argument : String}
    (h : s.givePeople argument = .ok t) : Taken s argument t := by
  rw [givePeople] at h
  cases hpeople : s.people with
  | some other =>
      rw [hpeople] at h
      cases h
  | none =>
      rw [hpeople] at h
      cases h
      exact .people

theorem taken_of_takeLong {s t : Seen} {cs : List Char} {argument : String}
    (h : s.takeLong cs = .ok t) : Taken s argument t := by
  rw [takeLong] at h
  obtain ⟨name, value?⟩ := splitValue (cs.dropWhile (· = '-'))
  dsimp only at h
  split at h
  · cases h
    exact .valued
  · cases h
    exact .opened
  · split at h
    · cases h
      exact .quiet
    · split at h
      · cases h
      · split at h <;> cases h

theorem taken_of_take {s t : Seen} {argument : String} (h : s.take argument = .ok t) :
    Taken s argument t := by
  rw [take] at h
  split at h
  · exact taken_of_givePeople h
  · split at h
    · cases h
      exact .dashes
    · exact taken_of_takeLong h
    · obtain ⟨stop, hstop⟩ := takeShort_stops (_ :: _)
      rw [hstop] at h
      cases h
    · cases hwaiting : s.waiting with
      | some o =>
          rw [hwaiting] at h
          cases h
          exact .value hwaiting
      | none =>
          rw [hwaiting] at h
          exact taken_of_givePeople h

/-- Whatever has a value, or waits for one, was met. -/
structure Accounted (s : Seen) : Prop where
  values : ∀ v ∈ s.values, v.1 ∈ s.met
  waiting : ∀ o, s.waiting = some o → o ∈ s.met

theorem accounted_start : Accounted .start :=
  ⟨fun _ h => (nomatch h), fun _ h => (nomatch h)⟩

theorem accounted_take {s t : Seen} {argument : String} (hs : s.Accounted)
    (h : s.take argument = .ok t) : t.Accounted := by
  obtain ⟨hvalues, hwaiting⟩ := hs
  cases taken_of_take h with
  | people => exact ⟨hvalues, hwaiting⟩
  | dashes => exact ⟨hvalues, hwaiting⟩
  | valued =>
      refine ⟨fun v hv => ?_, fun _ h => nomatch h⟩
      rcases List.mem_cons.1 hv with rfl | hv
      · exact List.mem_cons_self
      · exact List.mem_cons_of_mem _ (hvalues v hv)
  | opened =>
      refine ⟨fun v hv => List.mem_cons_of_mem _ (hvalues v hv), fun o ho => ?_⟩
      cases ho
      exact List.mem_cons_self
  | quiet => exact ⟨hvalues, fun _ h => nomatch h⟩
  | value ho =>
      refine ⟨fun v hv => ?_, fun _ h => nomatch h⟩
      rcases List.mem_cons.1 hv with rfl | hv
      · exact hwaiting _ ho
      · exact hvalues v hv

theorem accounted_foldlM {s t : Seen} {arguments : List String} (hs : s.Accounted)
    (h : arguments.foldlM take s = .ok t) : t.Accounted := by
  induction arguments generalizing s with
  | nil =>
      cases h
      exact hs
  | cons argument rest ih =>
      rw [List.foldlM_cons] at h
      cases hargument : s.take argument with
      | error stop =>
          rw [hargument] at h
          cases h
      | ok u =>
          rw [hargument] at h
          exact ih (accounted_take hs hargument) h

/-! ## What is settled in the end -/

theorem ok_of_bind {ε α β : Type} {x : Except ε α} {f : α → Except ε β} {b : β}
    (h : x >>= f = .ok b) : ∃ a, x = .ok a ∧ f a = .ok b := by
  cases x with
  | error e => cases h
  | ok a => exact ⟨a, rfl, h⟩

/-- Stops at an option that still waits for a value and has none. -/
def checkWaiting (s : Seen) : Except Stop Unit :=
  match s.waiting with
  | some o => if s.lacks o then .error (.missingValue o) else .ok ()
  | none => .ok ()

/-- The number of people. -/
def askedPeople (s : Seen) : Except Stop UInt64 :=
  match s.people with
  | none => .ok ({} : People.Options).people
  | some text => (readPeople text).mapError (Stop.invalid "<num-people>")

/-- What is asked for, but for whether the run is quiet. -/
def asked (s : Seen) : Except Stop Arguments := do
  s.checkWaiting
  let people ← s.askedPeople
  let seed ← s.value .seed readSeed
  let settings ← s.value .settings Except.ok
  let output ← s.value .output Except.ok
  let model ← s.value .model readModel
  return { people, seed, settings, output, model := model.getD .legacy, quiet := false }

theorem settle_eq (s : Seen) :
    s.settle = s.asked >>= fun args =>
      if 1 < s.quiet then .error (.repeated "--quiet")
      else .ok { args with quiet := s.quiet ≠ 0 } := by
  have hend : ∀ args : Arguments,
      (if 1 < s.quiet then throw (Stop.repeated "--quiet") >>= fun _ : Unit => pure args
        else pure args : Except Stop Arguments)
        = if 1 < s.quiet then .error (.repeated "--quiet") else .ok args := by
    intro args
    split <;> rfl
  simp only [settle, asked, checkWaiting, askedPeople, bind_assoc, pure_bind, hend]
  cases s.waiting with
  | none => cases s.people <;> rfl
  | some o =>
      dsimp only
      by_cases hlacks : s.lacks o = true
      · rw [if_pos hlacks, if_pos hlacks]
        rfl
      · rw [if_neg hlacks, if_neg hlacks]
        cases s.people <;> rfl

/-- The text that is given for an option. -/
theorem value_text (s : Seen) (o : Valued) :
    s.value o Except.ok = if s.lacks o = true then .error (.missingValue o)
      else if 1 < s.met.count o then .error (.repeated o.shown)
      else .ok ((s.values.reverse.filter (·.1 = o)).map Prod.snd).head? := by
  have hread : ∀ values : List (Valued × String),
      values.mapM (fun v => (Except.ok v.2).mapError (Stop.invalid o.shown))
        = (.ok (values.map Prod.snd) : Except Stop (List String)) := by
    intro values
    induction values with
    | nil => rfl
    | cons v rest ih =>
        rw [List.mapM_cons, ih]
        rfl
  rw [value, hread]
  cases s.lacks o with
  | true => rfl
  | false =>
      rw [if_neg Bool.false_ne_true, if_neg Bool.false_ne_true]
      split <;> rfl

/-! ## An output more -/

/-- What is seen behind an option for the output. -/
def redirected (s : Seen) (path : String) : Seen :=
  ({ s with met := .output :: s.met } : Seen).give .output path

section Redirected

variable {s earlier : Seen} {o : Valued} {path : String}

theorem lacks_redirected (ho : o ≠ .output) :
    (s.behind (earlier.redirected path)).lacks o = (s.behind earlier).lacks o := by
  have hbeq : (o == Valued.output) = false := by simpa using ho
  simp [lacks, behind, redirected, give, List.lookup_append, List.lookup_cons, hbeq, ho]

theorem value_redirected {α : Type} (ho : o ≠ .output) (read : String → Except String α) :
    (s.behind (earlier.redirected path)).value o read = (s.behind earlier).value o read := by
  have hfilter : ((s.behind (earlier.redirected path)).values.reverse.filter (·.1 = o))
      = (s.behind earlier).values.reverse.filter (·.1 = o) := by
    simp [behind, redirected, give, ho.symm]
  have hcount : (s.behind (earlier.redirected path)).met.count o
      = (s.behind earlier).met.count o := by
    simp [behind, redirected, give, ho.symm]
  rw [value, value, lacks_redirected ho, hfilter, hcount]

/-- Where the output is given once, it is the one that is added, and without that there is
none. -/
theorem output_of_redirected (hs : s.Accounted) (he : earlier.Accounted)
    {output : Option String}
    (h : (s.behind (earlier.redirected path)).value .output Except.ok = .ok output) :
    output = some path ∧ .output ∉ (s.behind earlier).met
      ∧ (s.behind earlier).value .output Except.ok = .ok none := by
  rw [value_text] at h
  split at h
  · cases h
  · split at h
    · cases h
    · rename_i hcount
      have hmet : .output ∉ s.met ∧ .output ∉ earlier.met := by
        simp only [behind, redirected, give, List.count_append, List.count_cons_self] at hcount
        constructor
        · exact List.count_eq_zero.1 (by omega)
        · exact List.count_eq_zero.1 (by omega)
      -- whatever has a value was met, so no other value is for the output
      have hvalues : ∀ values : List (Valued × String), (∀ v ∈ values, v.1 ≠ .output) →
          values.reverse.filter (·.1 = .output) = [] := by
        intro values hnone
        rw [List.filter_eq_nil_iff]
        intro v hv
        simpa using hnone v (List.mem_reverse.1 hv)
      have hown := hvalues s.values fun v hv heq => hmet.1 (heq ▸ hs.values v hv)
      have hold := hvalues earlier.values fun v hv heq => hmet.2 (heq ▸ he.values v hv)
      have hnot : .output ∉ (s.behind earlier).met := by
        simpa [behind] using hmet
      refine ⟨?_, hnot, ?_⟩
      · simp only [behind, redirected, give, List.reverse_append, List.reverse_cons,
          List.filter_append, hown, hold] at h
        cases h
        rfl
      · have hlacks : (s.behind earlier).lacks .output = false := by
          simp [lacks, hnot]
        rw [value_text, hlacks, if_neg Bool.false_ne_true, List.count_eq_zero.2 hnot]
        simp only [behind, List.reverse_append, List.filter_append, hown, hold]
        rfl

theorem checkWaiting_redirected (hs : s.Accounted) (hnot : .output ∉ (s.behind earlier).met) :
    (s.behind (earlier.redirected path)).checkWaiting = (s.behind earlier).checkWaiting := by
  rw [checkWaiting, checkWaiting, waiting_behind, waiting_behind]
  cases hwaiting : s.waiting with
  | none => rfl
  | some o =>
      have ho : o ≠ .output := by
        rintro rfl
        exact hnot (List.mem_append_left _ (hs.waiting _ hwaiting))
      dsimp only
      rw [lacks_redirected ho]

theorem asked_redirected (hs : s.Accounted) (he : earlier.Accounted) {args : Arguments}
    (h : (s.behind (earlier.redirected path)).asked = .ok args) :
    args.output = some path ∧ (s.behind earlier).asked = .ok { args with output := none } := by
  have hother : ∀ {α : Type} (o : Valued) (read : String → Except String α), o ≠ .output →
      (s.behind (earlier.redirected path)).value o read = (s.behind earlier).value o read :=
    fun _ read ho => value_redirected ho read
  have hpeople : (s.behind (earlier.redirected path)).askedPeople
      = (s.behind earlier).askedPeople := rfl
  rw [asked, hpeople, hother .seed readSeed (by decide), hother .settings Except.ok (by decide),
    hother .model readModel (by decide)] at h
  obtain ⟨_, hchecked, h⟩ := ok_of_bind h
  obtain ⟨people, hpeople, h⟩ := ok_of_bind h
  obtain ⟨seed, hseed, h⟩ := ok_of_bind h
  obtain ⟨settings, hsettings, h⟩ := ok_of_bind h
  obtain ⟨output, houtput, h⟩ := ok_of_bind h
  obtain ⟨model, hmodel, h⟩ := ok_of_bind h
  obtain ⟨hpath, hnot, hnone⟩ := output_of_redirected hs he houtput
  cases h
  refine ⟨hpath, ?_⟩
  rw [checkWaiting_redirected hs hnot] at hchecked
  rw [asked, hchecked, hpeople, hseed, hsettings, hnone, hmodel]
  rfl

end Redirected

end Seen

/-! ## Whole command lines -/

open Seen

/-- An option can stand behind these arguments: none of them waits for a value, and none
is `--`. -/
def TakesOptions (front : List String) : Prop :=
  ∀ s, front.foldlM take .start = .ok s → s.waiting = none ∧ s.behindDashes = false

/-- The command line asks for a quiet run. -/
def AsksForQuiet (arguments : List String) : Prop :=
  ∃ s, arguments.foldlM take .start = .ok s ∧ s.quiet ≠ 0

/-- What is asked for when everything is shown. -/
def Arguments.aloud (args : Arguments) : Arguments :=
  { args with quiet := false }

theorem take_quiet {s : Seen} (hwaiting : s.waiting = none) (hdashes : s.behindDashes = false) :
    s.take "--quiet" = .ok { s with quiet := s.quiet + 1 } := by
  obtain ⟨people, values, met, quiet, waiting, behindDashes⟩ := s
  dsimp only at hwaiting hdashes
  subst hwaiting hdashes
  rfl

theorem take_output {s : Seen} (hdashes : s.behindDashes = false) :
    s.take "--output" = .ok { s with met := .output :: s.met, waiting := some .output } := by
  obtain ⟨people, values, met, quiet, waiting, behindDashes⟩ := s
  dsimp only at hdashes
  subst hdashes
  rfl

/-- A text that is no option is the value that is waited for. -/
theorem take_value {s : Seen} {o : Valued} {argument : String} (hwaiting : s.waiting = some o)
    (hdashes : s.behindDashes = false) (hplain : ∀ c cs, argument.toList ≠ '-' :: c :: cs) :
    s.take argument = .ok (s.give o argument) := by
  rw [take, hdashes, hwaiting, if_neg Bool.false_ne_true]
  split
  · rename_i h
    exact absurd h (hplain _ _)
  · rename_i h
    exact absurd h (hplain _ _)
  · rename_i h
    exact absurd h (hplain _ _)
  · rfl

theorem take_joined {s : Seen} {path : String} (hdashes : s.behindDashes = false)
    (hplain : path.toList.head? ≠ some '=') :
    s.take ("--output=" ++ path) = .ok (s.redirected path) := by
  have hlong : s.takeLong ('o' :: 'u' :: 't' :: 'p' :: 'u' :: 't' :: '=' :: path.toList)
      = .ok (({ s with met := .output :: s.met } : Seen).give .output
        (String.ofList (path.toList.dropWhile (· = '=')))) := rfl
  have hvalue : path.toList.dropWhile (· = '=') = path.toList := by
    cases hpath : path.toList with
    | nil => rfl
    | cons c cs =>
        rw [hpath] at hplain
        have hc : c ≠ '=' := by
          rintro rfl
          exact hplain rfl
        simp [hc]
  have hlist : ("--output=" ++ path).toList
      = '-' :: '-' :: 'o' :: 'u' :: 't' :: 'p' :: 'u' :: 't' :: '=' :: path.toList := by
    rw [String.toList_append]
    rfl
  rw [hvalue, String.ofList_toList] at hlong
  rw [take, hdashes, hlist, if_neg Bool.false_ne_true]
  exact hlong

/-- The option for the output, with this path. -/
inductive Redirects (path : String) : List String → Prop where
  | apart : (∀ c cs, path.toList ≠ '-' :: c :: cs) → Redirects path ["--output", path]
  | joined : path.toList.head? ≠ some '=' → Redirects path ["--output=" ++ path]

theorem foldlM_redirects {path : String} {option : List String} (h : Redirects path option)
    {s : Seen} (hdashes : s.behindDashes = false) :
    option.foldlM take s = .ok (s.redirected path) := by
  cases h with
  | apart hplain =>
      have hgiven := take_value (s := { s with met := .output :: s.met, waiting := some .output })
        rfl hdashes hplain
      rw [List.foldlM_cons, take_output hdashes]
      change [path].foldlM take { s with met := .output :: s.met, waiting := some .output } = _
      rw [List.foldlM_cons, hgiven]
      rfl
  | joined hplain =>
      rw [List.foldlM_cons, take_joined hdashes hplain]
      rfl

section Lines

variable {front back : List String}

theorem ofList_append (front back : List String) :
    Arguments.ofList (front ++ back)
      = front.foldlM take .start >>= fun s => back.foldlM take s >>= settle := by
  rw [Arguments.ofList, List.foldlM_append, bind_assoc]

theorem behind_quiet (s : Seen) :
    s.behind { Seen.start with quiet := 1 } = { s with quiet := s.quiet + 1 } := by
  simp [behind, Seen.start, Nat.add_comm]

/-- Nothing but the quietness is settled by how often it is asked for. -/
theorem settle_quiet {s : Seen} (h : s.quiet = 0) :
    ({ s with quiet := s.quiet + 1 } : Seen).settle.map Arguments.aloud
      = s.settle.map Arguments.aloud := by
  have hasked : ({ s with quiet := s.quiet + 1 } : Seen).asked = s.asked := rfl
  rw [settle_eq, settle_eq, hasked]
  cases s.asked with
  | error stop => rfl
  | ok args =>
      rw [h]
      rfl

/-- `--quiet` changes nothing but that the run is quiet. -/
theorem ofList_quiet (hfront : TakesOptions front) (hnot : ¬ AsksForQuiet (front ++ back)) :
    (Arguments.ofList (front ++ "--quiet" :: back)).map Arguments.aloud
      = (Arguments.ofList (front ++ back)).map Arguments.aloud := by
  rw [ofList_append, ofList_append]
  cases hs : front.foldlM take .start with
  | error stop => rfl
  | ok s =>
      obtain ⟨hwaiting, hdashes⟩ := hfront s hs
      have hquiet : ("--quiet" :: back).foldlM take s
          = (back.foldlM take s).map (·.behind { Seen.start with quiet := 1 }) := by
        rw [← foldlM_behind, behind_quiet, List.foldlM_cons, take_quiet hwaiting hdashes]
        rfl
      change (("--quiet" :: back).foldlM take s >>= settle).map _
        = (back.foldlM take s >>= settle).map _
      rw [hquiet]
      cases ht : back.foldlM take s with
      | error stop => rfl
      | ok t =>
          -- the command line without it does not ask for a quiet run
          have hloud : t.quiet = 0 := by
            refine Classical.byContradiction fun hne => hnot ⟨t, ?_, hne⟩
            rw [List.foldlM_append, hs]
            exact ht
          change (t.behind { Seen.start with quiet := 1 }).settle.map _ = t.settle.map _
          rw [behind_quiet]
          exact settle_quiet hloud

/-- An option for the output changes nothing but where that goes. -/
theorem ofList_output {path : String} {option : List String} {args : Arguments}
    (hfront : TakesOptions front) (hoption : Redirects path option)
    (h : Arguments.ofList (front ++ option ++ back) = .ok args) :
    args.output = some path
      ∧ Arguments.ofList (front ++ back) = .ok { args with output := none } := by
  rw [List.append_assoc, ofList_append] at h
  obtain ⟨s, hs, h⟩ := ok_of_bind h
  obtain ⟨hwaiting, hdashes⟩ := hfront s hs
  rw [List.foldlM_append, foldlM_redirects hoption hdashes] at h
  -- what comes behind the option comes behind no values, with or without it
  let bare : Seen := { s with values := [], met := [], quiet := 0 }
  have hbare : s = bare.behind s := by
    simp [bare, behind]
  have hredirected : s.redirected path = bare.behind (s.redirected path) := by
    simp [bare, behind, redirected, give, hwaiting]
  obtain ⟨t, ht, hsettled⟩ := ok_of_bind h
  change back.foldlM take (s.redirected path) = .ok t at ht
  rw [hredirected, foldlM_behind] at ht
  cases hr : back.foldlM take bare with
  | error stop =>
      rw [hr] at ht
      cases ht
  | ok r =>
      rw [hr] at ht
      cases ht
      have hbareAccounted : bare.Accounted :=
        ⟨fun _ hv => (nomatch hv), fun _ ho => nomatch hwaiting.symm.trans ho⟩
      rw [settle_eq] at hsettled
      obtain ⟨asked, hasked, hquiet⟩ := ok_of_bind hsettled
      obtain ⟨hpath, hother⟩ := asked_redirected (accounted_foldlM hbareAccounted hr)
        (accounted_foldlM accounted_start hs) hasked
      have hfold : back.foldlM take s = .ok (r.behind s) := by
        rw [hbare, foldlM_behind, hr]
        rfl
      have hsame : (r.behind (s.redirected path)).quiet = (r.behind s).quiet := rfl
      rw [hsame] at hquiet
      split at hquiet
      · cases hquiet
      · rename_i hmost
        cases hquiet
        refine ⟨hpath, ?_⟩
        rw [ofList_append, hs]
        change (back.foldlM take s >>= settle) = _
        rw [hfold]
        change (r.behind s).settle = _
        rw [settle_eq, hother]
        change (if 1 < (r.behind s).quiet then _ else _) = _
        rw [if_neg hmost]

end Lines

end Populace.Command
