import Populace.Proofs.Rows.Settled
import Populace.Proofs.Sources.CountryFile
import Populace.Proofs.Sources.NameList
import Populace.Proofs.Sources.RankFile

/-!
# Streams that break off

No table is to be made of a part of a file. If a row that is settled by the bytes that have
arrived has a fault, then it is what reading fails for, just as it would for the whole file;
otherwise it fails for the break (`Watchful`). Every reader of tables keeps to this, but where
the first piece of a stream is a byte order mark and nothing else: then nothing behind it is
read, the break goes unnoticed, and the table is that of an empty file.
-/

namespace Populace

open Populace.Rows (Row Settled byteOrderMark endedRows fileRows)

namespace Sources

variable {α β : Type} {delimiter : UInt8} {s : Stream}

/-! ## What is read of a stream -/

/-- The rows of a stream: all, or of one that is seen to break off those that have come to
their end. -/
def Stream.rows (delimiter : UInt8) (s : Stream) : List Row :=
  if s.break?.isSome then endedRows delimiter s.readAs else fileRows delimiter s.readAs

theorem foldRows_of_unbroken {read : α → Row → Except Failure α} (h : s.break? = none) (acc : α) :
    s.foldRows delimiter read acc = foldRows read 1 acc (s.rows delimiter) := by
  rw [foldRows_of_unnoticed acc h, Stream.rows, h]
  rfl

/-- Where a break is noticed reading fails, for a row or for the break. -/
theorem foldRows_of_broken {read : α → Row → Except Failure α} {cause : Failure}
    (h : s.break? = some cause) (acc : α) :
    s.foldRows delimiter read acc
      = foldRows read 1 acc (s.rows delimiter) >>= fun _ => .error cause.brief := by
  rw [foldRows_of_noticed acc h, Stream.rows, h]
  rfl

theorem foldRows_of_bad_rows {read : α → Row → Except Failure α} {acc : α} {e : Failure}
    (h : foldRows read 1 acc (s.rows delimiter) = .error e) :
    s.foldRows delimiter read acc = .error e := by
  cases hbreak : s.break? with
  | none => rw [foldRows_of_unbroken hbreak, h]
  | some cause =>
      rw [foldRows_of_broken hbreak, h]
      rfl

/-- No table is made where a break is noticed. -/
theorem not_ok_of_broken {read : α → Row → Except Failure α} {cause : Failure}
    (h : s.break? = some cause) (acc table : α) : s.foldRows delimiter read acc ≠ .ok table := by
  rw [foldRows_of_broken h]
  cases foldRows read 1 acc (s.rows delimiter) <;> exact nofun

theorem ne_nil_of_row {row : Row} (h : row ∈ s.rows delimiter) : row ≠ [] := by
  rw [Stream.rows] at h
  split at h
  · exact Rows.ne_nil_of_fileRow ((Rows.endedRows_prefix_fileRows _ _).subset h)
  · exact Rows.ne_nil_of_fileRow h

/-- Rows that have come to their end are read, whatever follows. -/
theorem endedRows_prefix_rows {bytes : List UInt8} (h : bytes <+: s.readAs) :
    endedRows delimiter bytes <+: s.rows delimiter := by
  obtain ⟨rest, hrest⟩ := h
  have hended : endedRows delimiter bytes <+: endedRows delimiter s.readAs := by
    rw [← hrest]
    exact Rows.endedRows_prefix_append _ _ _
  rw [Stream.rows]
  split
  · exact hended
  · exact hended.trans (Rows.endedRows_prefix_fileRows _ _)

/-! ## Reading to the break -/

/-- The reader is watchful of a stream that breaks off for this cause. It makes a table only if
the first piece is a byte order mark and nothing else, and then that of an empty file,
whatever comes behind it. A row with a fault that is settled is the failure, for every stream
that is read as a file with the same bytes in front; without such a row the break is the
failure. -/
structure Watchful (delimiter : UInt8) (fault : Row → Failure → Prop)
    (read : Stream → Except Failure α) (s : Stream) (cause : Failure) : Prop where
  table_iff : (∃ table, read s = .ok table) ↔ s.MarkAlone
  atMark (hmark : s.MarkAlone) :
    ∃ table, read s = .ok table ∧ read (.whole []) = .ok table
  atRow {before : List Row} {row : Row} {e : Failure}
    (hsettled : Settled delimiter s.readAs (before ++ [row]))
    (hbefore : ∀ r ∈ before, ∀ c, ¬ fault r c) (hrow : fault row e)
    (t : Stream) (ht : s.readAs <+: t.readAs) :
    read t = .error (e.within (.row (before.length + 1) row))
  atBreak (hmark : ¬ s.MarkAlone)
    (hgood : ∀ rows, Settled delimiter s.readAs rows → ∀ r ∈ rows, ∀ c, ¬ fault r c) :
    read s = .error cause.brief

theorem Watchful.map {fault : Row → Failure → Prop} {read : Stream → Except Failure α}
    {cause : Failure} (h : Watchful delimiter fault read s cause) (f : α → β) :
    Watchful delimiter fault (fun s => (read s).map f) s cause where
  table_iff := by
    rw [← h.table_iff]
    cases read s <;> simp [Except.map]
  atMark hmark := by
    obtain ⟨table, htable, hempty⟩ := h.atMark hmark
    exact ⟨f table, congrArg (Except.map f) htable, congrArg (Except.map f) hempty⟩
  atRow hsettled hbefore hrow t ht := by
    rw [h.atRow hsettled hbefore hrow t ht]
    rfl
  atBreak hmark hgood := by
    rw [h.atBreak hmark hgood]
    rfl

section Adds

variable {read : α → Row → Except Failure α} {say : Row → Except Failure β}
  {add : α → β → α} {fault : Row → Failure → Prop} {acc : α}

theorem ok_of_no_fault {row : Row} (h : ∀ c, say row = .error c ↔ fault row c)
    (hnone : ∀ c, ¬ fault row c) : ∃ b, say row = .ok b := by
  cases hsay : say row with
  | ok b => exact ⟨b, rfl⟩
  | error c => exact absurd ((h c).1 hsay) (hnone c)

/-- Rows that begin with a bad one behind good ones cannot be read. -/
theorem Adds.foldRows_of_bad_prefix (h : Adds read say add) {before rows : List Row} {row : Row}
    {e : Failure} (hrows : before ++ [row] <+: rows) (hbefore : ∀ r ∈ before, ∃ b, say r = .ok b)
    (hrow : say row = .error e) :
    foldRows read 1 acc rows = .error (e.within (.row (before.length + 1) row)) := by
  obtain ⟨after, rfl⟩ := hrows
  refine h.foldRows_eq_error_iff.2 ⟨before, row, after, e, ?_, hbefore, hrow, ?_⟩
  · rw [List.append_assoc, List.singleton_append]
  · rw [Nat.add_comm]

/-- A reader that adds what each row says is watchful. -/
theorem Adds.watchful (h : Adds read say add)
    (hfault : ∀ row, row ≠ [] → ∀ c, say row = .error c ↔ fault row c) {cause : Failure}
    (hs : s.broken = some cause) :
    Watchful delimiter fault (fun s => s.foldRows delimiter read acc) s cause where
  table_iff := by
    constructor
    · rintro ⟨table, htable⟩
      refine Decidable.byContradiction fun hmark => ?_
      exact not_ok_of_broken ((Stream.break?_of_more hmark).trans hs) acc table htable
    · intro hmark
      refine ⟨acc, ?_⟩
      rw [foldRows_of_unnoticed acc (Stream.break?_of_alone hmark), Stream.readAs_of_alone hmark]
      rfl
  atMark hmark := by
    refine ⟨acc, ?_, foldRows_whole acc []⟩
    rw [foldRows_of_unnoticed acc (Stream.break?_of_alone hmark), Stream.readAs_of_alone hmark]
    rfl
  atRow hsettled hbefore hrow t ht := by
    have hrows := (Rows.settled_iff.1 hsettled).trans (endedRows_prefix_rows ht)
    have hne : ∀ r ∈ _, r ≠ [] := fun r hr => ne_nil_of_row (hrows.subset hr)
    refine foldRows_of_bad_rows (h.foldRows_of_bad_prefix hrows (fun r hr => ?_) ?_)
    · exact ok_of_no_fault (hfault r (hne r (by simp [hr]))) (hbefore r hr)
    · exact (hfault _ (hne _ (by simp)) _).2 hrow
  atBreak hmark hgood := by
    have hbreak : s.break? = some cause := (Stream.break?_of_more hmark).trans hs
    have hrows : s.rows delimiter = endedRows delimiter s.readAs := by
      rw [Stream.rows, hbreak]
      rfl
    have hsettled : Settled delimiter s.readAs (endedRows delimiter s.readAs) :=
      Rows.settled_of_ended List.prefix_rfl
    have hok : ∃ result, foldRows read 1 acc (s.rows delimiter) = .ok result :=
      h.foldRows_ok_iff.2 fun r hr =>
        ok_of_no_fault (hfault r (ne_nil_of_row hr)) (hgood _ hsettled r (hrows ▸ hr))
    obtain ⟨result, hresult⟩ := hok
    rw [foldRows_of_broken hbreak, hresult]
    rfl

end Adds

/-! ## The readers -/

/-- What a row says in a list of names: nothing, or its name. -/
def nameOf (header : String) (row : Row) : Except Failure (Option String) := do
  let name ← fieldText row 0
  return if name = "" ∨ name = header then none else some name

theorem readName_adds (header : String) :
    Adds (readName header) (nameOf header) fun names said => said.toList ++ names := by
  intro names row
  rw [readName, nameOf, map_bind]
  refine bind_congr fun name => ?_
  split <;> rfl

/-- No row is wrong in a list of names. -/
theorem nameOf_ne_error {header : String} {row : Row} (hrow : row ≠ []) (c : Failure) :
    nameOf header row ≠ .error c := by
  obtain ⟨name, hname⟩ := exists_textAt? (List.length_pos_iff.2 hrow)
  rw [nameOf, fieldText_eq_ok_iff.2 hname]
  exact nofun

section Readers

variable {cause : Failure} (hs : s.broken = some cause)

include hs

theorem readUsers_watchful : Watchful tab RankFault readUsers s cause :=
  readRank_adds.watchful (fun _ _ _ => rankOf_eq_error_iff) hs

theorem readAreas_watchful : Watchful tab RankFault readAreas s cause :=
  (readUsers_watchful hs).map _

theorem readLocations_watchful : Watchful semicolon LocationFault readLocations s cause :=
  readLocation_adds.watchful (fun _ hrow _ => locationFault_iff hrow) hs

theorem readNames_watchful (header : String) :
    Watchful Rows.comma (fun _ _ => False) (readNames header) s cause :=
  ((readName_adds header).watchful
    (fun _ hrow c => iff_of_false (nameOf_ne_error hrow c) id) hs).map _

end Readers

/-- A cause in brief begins as the cause itself does. -/
theorem chain_brief (cause : Failure) :
    cause.brief.chain <+: cause.chain ∧ cause.brief.chain ≠ [] := by
  have hmessages : ∀ c : Cause, c.brief.messages <+: c.messages ∧ c.brief.messages ≠ [] := by
    intro c
    cases c with
    | file fault => exact ⟨⟨[fault.reason.message], rfl⟩, nofun⟩
    | _ => exact ⟨List.prefix_rfl, nofun⟩
  cases cause with
  | refused contexts c =>
      obtain ⟨hfront, hne⟩ := hmessages c
      exact ⟨(List.prefix_append_right_inj _).2 hfront,
        fun h => hne (List.append_eq_nil_iff.1 h).2⟩
  | crashed crash => exact ⟨List.prefix_rfl, nofun⟩

/-- **A broken stream gives a table if and only if its first piece is a byte order mark and
nothing else.** This holds of users, areas, locations and names under any header, in whatever
pieces the bytes come. From any other stream the failure is that of the first row with a fault
among those which every file with these bytes in front has, and it is the same for every such
file; or if none of these has a fault, it is what broke the stream off, in brief. The bytes
are the ones that have come, but that a byte order mark which is cut is read as text, as if
there was another one in front of it. -/
theorem broken_stream_read_iff_mark (header : String) {s : Stream} {cause : Failure}
    (hs : s.broken = some cause) :
    (Watchful tab RankFault readUsers s cause
        ∧ Watchful tab RankFault readAreas s cause
        ∧ Watchful semicolon LocationFault readLocations s cause
        ∧ Watchful Rows.comma (fun _ _ => False) (readNames header) s cause)
      ∧ (cause.brief.chain <+: cause.chain ∧ cause.brief.chain ≠ [])
      ∧ (¬ s.MarkAlone →
          s.readAs = if s.CutsMark then byteOrderMark ++ s.bytes else s.bytes)
      ∧ ∀ file, (Stream.whole file).readAs = file :=
  ⟨⟨readUsers_watchful hs, readAreas_watchful hs, readLocations_watchful hs,
    readNames_watchful hs header⟩, chain_brief cause, fun hmark => if_neg hmark,
    Stream.readAs_whole⟩

/-- What is told when a connection breaks. -/
def lost : Failure :=
  .of (.outside "connection lost")

/-- Lost in a row of names behind a byte order mark that came alone, and behind one that was
cut; and lost behind a row with a fault. -/
theorem broken_stream_read_iff_mark_lost :
    readNames "name" ⟨⟨[Text.bytesOf "\ufeff", Text.bytesOf "A\nB"], by decide⟩, some lost⟩
        = .ok []
      ∧ readNames "name" ⟨⟨[[0xEF], [0xBB, 0xBF], Text.bytesOf "A\n\"B"], by decide⟩, some lost⟩
        = .error lost
      ∧ readUsers ⟨⟨[Text.bytesOf "1\tA\n2", Text.bytesOf "\tB\t5"], by decide⟩, some lost⟩
        = .error ((Failure.of (.tooFewFields 2 2)).within (.row 1 [[0x31], [0x41]])) := by
  refine ⟨?_, ?_, ?_⟩
  · let s : Stream := ⟨⟨[Text.bytesOf "\ufeff", Text.bytesOf "A\nB"], by decide⟩, some lost⟩
    obtain ⟨⟨-, -, -, hnames⟩, -⟩ := broken_stream_read_iff_mark "name" (s := s) rfl
    obtain ⟨names, hmark, hempty⟩ := hnames.atMark (by decide)
    exact hmark.trans hempty.symm
  · let s : Stream :=
      ⟨⟨[[0xEF], [0xBB, 0xBF], Text.bytesOf "A\n\"B"], by decide⟩, some lost⟩
    obtain ⟨⟨-, -, -, hnames⟩, -⟩ := broken_stream_read_iff_mark "name" (s := s) rfl
    exact hnames.atBreak (by decide) fun _ _ _ _ _ => id
  · let s : Stream := ⟨⟨[Text.bytesOf "1\tA\n2", Text.bytesOf "\tB\t5"], by decide⟩, some lost⟩
    obtain ⟨⟨husers, -⟩, -⟩ := broken_stream_read_iff_mark "name" (s := s) rfl
    have hrow : Settled tab s.readAs ([] ++ [[[0x31], [0x41]]]) :=
      Rows.settled_iff.2 (by decide)
    exact husers.atRow hrow (by simp) (.short (by decide)) _ List.prefix_rfl

end Sources

end Populace
