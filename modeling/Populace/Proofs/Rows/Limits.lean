import Populace.Proofs.Rows.Writer

/-!
# A medium with little room

The medium has room for so many bytes and takes no more, but it takes what it can of the
last ones. As long as no write has failed, the bytes that have reached the medium and those
in the buffer are together all that were put in (`Writer.Within`). The write that fails
fills the medium up and keeps the buffer, so from then on every further write of the buffer
fails and changes nothing (`Writer.Full`).
-/

namespace Populace.Rows

variable {room : Nat} {bytes : List UInt8}

namespace Medium

variable {stored more : ByteArray}

theorem write_of_fits (h : stored.size + more.size ≤ room) :
    write ⟨some room, stored⟩ more = (true, ⟨some room, stored ++ more⟩) := by
  unfold write
  exact if_pos (by omega)

theorem write_of_overfull (hfits : stored.size ≤ room) (h : room < stored.size + more.size) :
    write ⟨some room, stored⟩ more
      = (false, ⟨some room, stored ++ more.extract 0 (room - stored.size)⟩) := by
  unfold write
  exact if_neg (by omega)

end Medium

namespace Writer

variable {w : Writer}

/-- No write has failed yet, and these bytes have been put in. -/
structure Within (w : Writer) (room : Nat) (bytes : List UInt8) : Prop where
  limited : w.medium.capacity = some room
  fits : w.medium.stored.size ≤ room
  written : w.reached ++ w.buffer.data.toList = bytes

/-- A write has failed: the medium is full with the first of these bytes, which are more
than it has room for, and something waits in the buffer. -/
structure Full (w : Writer) (room : Nat) (bytes : List UInt8) : Prop where
  limited : w.medium.capacity = some room
  reached_eq : w.reached = bytes.take room
  overfull : room < bytes.length
  waiting : 0 < w.buffer.size

theorem within_new (room : Nat) : (new (Medium.empty (some room))).Within room [] :=
  ⟨rfl, Nat.zero_le room, rfl⟩

theorem length_reached (w : Writer) : w.reached.length = w.medium.stored.size := by
  rw [reached, Array.length_toList, ByteArray.size]

theorem Within.reached_begins (h : w.Within room bytes) : w.reached <+: bytes :=
  ⟨_, h.written⟩

theorem Full.reached_begins (h : w.Full room bytes) : w.reached <+: bytes := by
  rw [h.reached_eq]
  exact List.take_prefix room bytes

/-- A full medium has no room for what comes later either. -/
theorem Full.append (h : w.Full room bytes) (more : List UInt8) :
    w.Full room (bytes ++ more) := by
  have hroom : room < bytes.length := h.overfull
  refine ⟨h.limited, ?_, ?_, h.waiting⟩
  · rw [h.reached_eq, List.take_append_of_le_length (by omega)]
  · rw [List.length_append]
    omega

/-! ## Writing the buffer out -/

theorem flush_of_room (h : w.Within room bytes) (hroom : bytes.length ≤ room) :
    ∃ v, flush w = .ok () v ∧ v.Within room bytes ∧ v.reached = bytes := by
  obtain ⟨buffer, capacity, stored⟩ := w
  obtain ⟨rfl, -, rfl⟩ := h
  have hsize : stored.size + buffer.size ≤ room := by
    rw [List.length_append, length_reached] at hroom
    simpa using hroom
  have hstored : (stored ++ buffer).data.toList = stored.data.toList ++ buffer.data.toList := by
    simp
  refine ⟨⟨ByteArray.empty, ⟨some room, stored ++ buffer⟩⟩, ?_, ⟨rfl, ?_, ?_⟩, hstored⟩
  · simp only [flush, Medium.write_of_fits hsize]
  · rw [ByteArray.size_append]
    exact hsize
  · rw [reached, hstored]
    simp [reached]

theorem flush_of_overfull (h : w.Within room bytes) (hroom : room < bytes.length) :
    ∃ v, flush w = .error (.of (.outside fullMessage)) v ∧ v.Full room bytes := by
  obtain ⟨buffer, capacity, stored⟩ := w
  obtain ⟨rfl, hfits, rfl⟩ := h
  have hfits : stored.size ≤ room := hfits
  have hsize : room < stored.size + buffer.size := by
    rw [List.length_append, length_reached] at hroom
    simpa using hroom
  have hwaiting : 0 < buffer.size := by omega
  refine ⟨⟨buffer, ⟨some room, stored ++ buffer.extract 0 (room - stored.size)⟩⟩, ?_, rfl, ?_,
    hroom, hwaiting⟩
  · simp only [flush, Medium.write_of_overfull hfits hsize]
  · -- all that was stored is within the room, and the rest of the room is for the buffer
    have hlength : stored.data.toList.length = stored.size := by
      rw [Array.length_toList, ByteArray.size]
    simp only [reached, ByteArray.data_append, Array.toList_append, ByteArray.data_extract,
      Array.toList_extract, List.extract_eq_take_drop, List.drop_zero, Nat.sub_zero]
    rw [List.take_append, hlength,
      List.take_of_length_le (l := stored.data.toList) (by omega)]

/-- Nothing more gets into a full medium. -/
theorem flush_of_full (h : w.Full room bytes) :
    ∃ v, flush w = .error (.of (.outside fullMessage)) v ∧ v.Full room bytes := by
  have hstored : w.medium.stored.size = room := by
    have hover : room < bytes.length := h.overfull
    rw [← length_reached, h.reached_eq, List.length_take]
    omega
  refine ⟨w, ?_, h⟩
  obtain ⟨buffer, capacity, stored⟩ := w
  obtain ⟨rfl, -, -, hwaiting⟩ := h
  have hwaiting : 0 < buffer.size := hwaiting
  have hstored : stored.size = room := hstored
  have hnothing : stored ++ buffer.extract 0 0 = stored := by
    simp
  rw [flush, Medium.write_of_overfull (by omega) (by omega), hstored, Nat.sub_self]
  simp only [hnothing]

/-! ## Putting bytes in -/

/-- How putting bytes in ends, when these are all that should have been put in by then. -/
def Puts (room : Nat) (bytes : List UInt8) : EStateM.Result Failure Writer Unit → Prop
  | .ok _ v => v.Within room bytes
  | .error _ v => v.Full room bytes

theorem Puts.reached_begins {r : EStateM.Result Failure Writer Unit} (h : Puts room bytes r) :
    (stateBehind r).reached <+: bytes := by
  cases r with
  | ok _ v => exact Within.reached_begins h
  | error e v => exact Full.reached_begins h

/-- As long as there is room for all bytes nothing fails. -/
theorem Puts.ok_of_room {r : EStateM.Result Failure Writer Unit} (h : Puts room bytes r)
    (hroom : bytes.length ≤ room) : ∃ v, r = .ok () v ∧ v.Within room bytes := by
  cases r with
  | ok _ v => exact ⟨v, rfl, h⟩
  | error e v =>
      have hover : room < bytes.length := Full.overfull h
      omega

theorem append_of_within (h : w.Within room bytes) (piece : List UInt8) :
    ∃ v, append piece w = .ok () v ∧ v.Within room (bytes ++ piece) := by
  obtain ⟨buffer, medium⟩ := w
  refine ⟨⟨piece.foldl ByteArray.push buffer, medium⟩, rfl, h.limited, h.fits, ?_⟩
  have hwritten : medium.stored.data.toList ++ buffer.data.toList = bytes := h.written
  rw [reached, toList_push, ← List.append_assoc, hwritten]

/-- A piece is put in, or the buffer in front of it does not get out. -/
theorem putPiece_puts (h : w.Within room bytes) (piece : List UInt8) :
    Puts room (bytes ++ piece) (putPiece piece w) := by
  rw [putPiece, bind_of_ok (run_get w)]
  by_cases htight : bufferSize < w.buffer.size + piece.length
  · rw [if_pos htight]
    show Puts room (bytes ++ piece) ((flush >>= fun _ => append piece) w)
    by_cases hroom : bytes.length ≤ room
    · obtain ⟨u, hflush, hu, -⟩ := flush_of_room h hroom
      obtain ⟨v, happend, hv⟩ := append_of_within hu piece
      rw [bind_of_ok hflush, happend]
      exact hv
    · obtain ⟨v, hflush, hv⟩ := flush_of_overfull h (by omega)
      rw [bind_of_error hflush]
      exact hv.append piece
  · rw [if_neg htight]
    obtain ⟨v, happend, hv⟩ := append_of_within h piece
    show Puts room (bytes ++ piece) (append piece w)
    rw [happend]
    exact hv

theorem putPieces_puts (h : w.Within room bytes) (pieces : List (List UInt8)) :
    Puts room (bytes ++ pieces.flatten) (putPieces pieces w) := by
  induction pieces generalizing w bytes with
  | nil => simpa [putPieces, Puts] using h
  | cons piece rest ih =>
      have hpiece : Puts room (bytes ++ piece) (putPiece piece w) := putPiece_puts h piece
      rw [List.flatten_cons, ← List.append_assoc, putPieces]
      cases hrun : putPiece piece w with
      | ok _ u =>
          rw [hrun] at hpiece
          rw [bind_of_ok hrun]
          exact ih hpiece
      | error e u =>
          rw [hrun] at hpiece
          rw [bind_of_error hrun]
          exact Full.append hpiece rest.flatten

theorem putPieces_append (front back : List (List UInt8)) :
    putPieces (front ++ back) = putPieces front >>= fun _ => putPieces back := by
  induction front with
  | nil => rfl
  | cons piece front ih =>
      show (putPiece piece >>= fun _ => putPieces (front ++ back)) = _
      rw [ih, putPieces, bind_assoc]

/-! ## At the end -/

/-- A buffer that cannot be written out is reported, whatever was reported before. -/
theorem flush_behind_of_overfull {r : EStateM.Result Failure Writer Unit}
    (h : Puts room bytes r) (hroom : room < bytes.length) :
    ∃ e v, flush (stateBehind r) = .error e v ∧ v.Full room bytes := by
  cases r with
  | ok _ u =>
      obtain ⟨v, hflush, hv⟩ := flush_of_overfull h hroom
      exact ⟨_, v, hflush, hv⟩
  | error e u =>
      obtain ⟨v, hflush, hv⟩ := flush_of_full h
      exact ⟨_, v, hflush, hv⟩

/-- If the buffer is written out, nothing is missing. -/
theorem reached_of_flush_ok {r : EStateM.Result Failure Writer Unit} {v : Writer}
    (h : Puts room bytes r) (hflush : flush (stateBehind r) = .ok () v) : v.reached = bytes := by
  by_cases hroom : bytes.length ≤ room
  · obtain ⟨u, rfl, hu⟩ := h.ok_of_room hroom
    obtain ⟨v', hflush', -, hreached⟩ := flush_of_room hu hroom
    rw [stateBehind_ok, hflush'] at hflush
    cases hflush
    exact hreached
  · obtain ⟨e, v', hflush', -⟩ := flush_behind_of_overfull h (by omega)
    rw [hflush'] at hflush
    cases hflush

theorem close_of_flush_ok {v : Writer} (h : flush w = .ok () v) : close w = .ok () v := by
  simp only [close, h]

theorem close_of_flush_error {v : Writer} {e : Failure} (h : flush w = .error e v) :
    close w = .error (.of (.unflushed fullMessage)) v := by
  simp only [close, h]

end Writer

end Populace.Rows
