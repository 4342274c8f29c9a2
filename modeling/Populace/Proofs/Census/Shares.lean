import Mathlib.Algebra.Order.BigOperators.Group.List
import Mathlib.Algebra.Order.Ring.Nat
import Populace.Census.Share
import Populace.Proofs.Table

/-!
# Shares of a number of people

Shares are rounded down, so they never add up to more than there is to share; this is why
no sum of quotas and no quota overflows a word.
-/

namespace Populace.Census

/-! ## Rounding down -/

theorem share_le {people total users : Nat} (h : users ≤ total) :
    share people total users ≤ people := by
  exact Nat.div_le_of_le_mul (Nat.mul_le_mul_right people h)

/-- What is shared out, times the total, and what is left over of each share are together
all that is due. -/
theorem sum_share_add_rest (people total : Nat) (users : List Nat) :
    (users.map (share people total)).sum * total
      + (users.map fun n => n * people % total).sum = users.sum * people := by
  induction users with
  | nil => simp
  | cons n users ih =>
      have hn : share people total n * total + n * people % total = n * people :=
        Nat.div_add_mod' (n * people) total
      simp only [List.map_cons, List.sum_cons, Nat.add_mul]
      omega

/-- Rounding each share down gives no more than rounding their sum down. -/
theorem sum_share_le_share_sum (people total : Nat) (users : List Nat) :
    (users.map (share people total)).sum ≤ share people total users.sum := by
  have hdue := sum_share_add_rest people total users
  rcases Nat.eq_zero_or_pos total with rfl | hpos
  · have hzero : users.map (share people 0) = users.map fun _ => 0 :=
      List.map_congr_left fun n _ => Nat.div_zero _
    simp [hzero]
  · rw [share, Nat.le_div_iff_mul_le hpos]
    omega

/-- Of several shares, each rounded down loses less than one; so together they fall short of
the share of all by less than their number. -/
theorem share_sum_le_sum_share {people total : Nat} (hpos : 0 < total) {users : List Nat}
    (hne : users ≠ []) :
    share people total users.sum
      ≤ (users.map (share people total)).sum + (users.length - 1) := by
  have hdue := sum_share_add_rest people total users
  -- nothing left over is as much as the total
  have hrest : (users.map fun n => n * people % total).sum ≤ users.length * (total - 1) := by
    have hle : ∀ r ∈ users.map fun n => n * people % total, r ≤ total - 1 := by
      intro r hr
      obtain ⟨n, -, rfl⟩ := List.mem_map.1 hr
      have hlt : n * people % total < total := Nat.mod_lt _ hpos
      omega
    simpa using List.sum_le_card_nsmul _ _ hle
  have hlength : 0 < users.length := List.length_pos_iff.2 hne
  rw [share, ← Nat.lt_succ_iff, Nat.div_lt_iff_lt_mul hpos, Nat.succ_mul, Nat.add_mul,
    Nat.sub_mul, Nat.one_mul]
  rw [Nat.mul_sub, Nat.mul_one] at hrest
  have hwhole : total ≤ users.length * total := Nat.le_mul_of_pos_left total hlength
  have hmany : users.length ≤ users.length * total := Nat.le_mul_of_pos_right _ hpos
  omega

theorem sum_share_le {people total : Nat} {users : List Nat} (h : users.sum ≤ total) :
    (users.map (share people total)).sum ≤ people :=
  (sum_share_le_share_sum people total users).trans (share_le h)

/-- Words add up as numbers do as long as the sum is one. -/
theorem toNat_sum {words : List UInt64} (h : (words.map UInt64.toNat).sum < 2 ^ 64) :
    (words.foldr (· + ·) 0).toNat = (words.map UInt64.toNat).sum := by
  induction words with
  | nil => rfl
  | cons word words ih =>
      rw [List.map_cons, List.sum_cons] at h ⊢
      rw [List.foldr_cons, UInt64.toNat_add, ih (by omega), Nat.mod_eq_of_lt h]

/-! ## Quotas -/

/-- The sum of all counts, with and without a location. -/
def allUsers (users : Table UInt64) : Nat :=
  (users.entries.map fun entry => entry.2.toNat).sum

theorem totalUsers_eq (users : Table UInt64) : totalUsers users = allUsers users := by
  rw [totalUsers, allUsers, Table.values, List.map_map]
  rfl

section Quotas

variable {α : Type} {users quotas : Table UInt64} {locations : Table α} {people : UInt64}

theorem le_totalUsers {name : String} {n : UInt64} (h : (name, n) ∈ users.entries) :
    n.toNat ≤ totalUsers users := by
  refine List.le_sum_of_mem ?_
  exact List.mem_map.2 ⟨n, List.mem_map.2 ⟨_, h, rfl⟩, rfl⟩

/-- The quotas are the shares of the countries that have a location. -/
theorem quotas_of_allocate (h : allocate users locations people = .ok quotas) :
    quotas.entries.map (fun e => (e.1, e.2.toNat))
      = (users.entries.filter fun e => locations.contains e.1).map
        fun e => (e.1, share people.toNat (totalUsers users) e.2.toNat) := by
  have hquotas : quotas = users.filterMap fun country n =>
      if locations.contains country then
        some (UInt64.ofNat (share people.toNat (totalUsers users) n.toNat))
      else none := by
    rw [allocate] at h
    split at h
    · cases h
    · exact (Except.ok.inj h).symm
  subst hquotas
  have hexact : ∀ e ∈ users.entries,
      (UInt64.ofNat (share people.toNat (totalUsers users) e.2.toNat)).toNat
        = share people.toNat (totalUsers users) e.2.toNat := by
    intro e he
    have hle : share people.toNat (totalUsers users) e.2.toNat ≤ people.toNat :=
      share_le (le_totalUsers he)
    exact UInt64.toNat_ofNat_of_lt' (Nat.lt_of_le_of_lt hle people.toNat_lt)
  rw [Table.filterMap, List.map_filterMap, ← List.filterMap_eq_map, List.filterMap_filter]
  refine List.filterMap_congr fun e he => ?_
  by_cases hloc : locations.contains e.1
  · simp [hloc, hexact e he]
  · simp [hloc]

/-- The quotas alone, without the names. -/
theorem toNat_quotas (h : allocate users locations people = .ok quotas) :
    quotas.entries.map (·.2.toNat)
      = ((users.entries.filter fun e => locations.contains e.1).map (·.2.toNat)).map
        (share people.toNat (totalUsers users)) := by
  have hsnd := congrArg (List.map Prod.snd) (quotas_of_allocate h)
  simpa [Function.comp_def] using hsnd

/-- The users of the countries with a location are among all users. -/
theorem sum_located_le (users : Table UInt64) (locations : Table α) :
    ((users.entries.filter fun e => locations.contains e.1).map (·.2.toNat)).sum
      ≤ totalUsers users := by
  have hsub : ((users.entries.filter fun e => locations.contains e.1).map (·.2.toNat)).Sublist
      (users.entries.map (·.2.toNat)) := List.filter_sublist.map _
  exact (hsub.sum_le_sum fun n _ => Nat.zero_le n).trans_eq (totalUsers_eq users).symm

/-- All quotas together are no more people than there are to share. -/
theorem sum_quotas_le (h : allocate users locations people = .ok quotas) :
    (quotas.entries.map (·.2.toNat)).sum ≤ people.toNat := by
  rw [toNat_quotas h]
  exact sum_share_le (sum_located_le users locations)

theorem toNat_sum_quotas (h : allocate users locations people = .ok quotas) :
    (quotas.values.foldr (· + ·) 0).toNat = (quotas.entries.map (·.2.toNat)).sum := by
  have hvalues : quotas.values.map UInt64.toNat = quotas.entries.map (·.2.toNat) := by
    rw [Table.values, List.map_map]
    rfl
  have hsmall : (quotas.values.map UInt64.toNat).sum < 2 ^ 64 := by
    rw [hvalues]
    exact Nat.lt_of_le_of_lt (sum_quotas_le h) people.toNat_lt
  rw [toNat_sum hsmall, hvalues]

end Quotas

end Populace.Census
