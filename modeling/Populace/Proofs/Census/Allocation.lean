import Populace.Proofs.Census.Planning

/-!
# Sharing out is exact

Quotas are the exact shares, rounded down: `allocate_exact_shares` says when there are
any, which countries get one, how large each is and by how little all of them together
fall short of what is due to the countries with a location. It also says why words are
wide enough: 128 bits for the users of all countries and for a product, 64 bits for a
quota and for the sum of all quotas.
-/

namespace Populace.Census

open Populace.People

/-- The countries with users and a location, and how many users each of them has. -/
def located {α : Type} (users : Table UInt64) (locations : Table α) :
    List (String × UInt64) :=
  users.entries.filter fun e => locations.contains e.1

/-- The users of the countries with a location. -/
def locatedUsers {α : Type} (users : Table UInt64) (locations : Table α) : Nat :=
  ((located users locations).map (·.2.toNat)).sum

/-- The people that all quotas together ask for. -/
def quotaSum (quotas : Table UInt64) : Nat :=
  (quotas.values.map UInt64.toNat).sum

theorem quotaSum_eq (quotas : Table UInt64) :
    quotaSum quotas = (quotas.entries.map (·.2.toNat)).sum := by
  rw [quotaSum, Table.values, List.map_map]
  rfl

/-! ## Which countries get how many -/

/-- What the quotas are, with the sum of all counts as the total: who gets one, how
large it is, and how many people all of them ask for. -/
structure ExactShares {α : Type} (users : Table UInt64) (locations : Table α)
    (people : UInt64) (quotas : Table UInt64) : Prop where
  names : ∀ country, quotas.contains country
    ↔ users.contains country ∧ locations.contains country
  shares : ∀ country quota, quotas.get? country = some quota →
    ∃ n, users.get? country = some n
      ∧ quota.toNat = n.toNat * people.toNat / allUsers users
  sum_le : quotaSum quotas
    ≤ locatedUsers users locations * people.toNat / allUsers users
  due_le : locatedUsers users locations * people.toNat / allUsers users ≤ people.toNat
  deficit : located users locations ≠ [] →
    locatedUsers users locations * people.toNat / allUsers users
      ≤ quotaSum quotas + ((located users locations).length - 1)
  sums : ∀ front, front <+: quotas.values → (front.map UInt64.toNat).sum < 2 ^ 64
  size : quotas.size ≤ users.size

section Quotas

variable {α : Type} {users quotas : Table UInt64} {locations : Table α} {people : UInt64}

theorem totalUsers_pos_of_allocate (h : allocate users locations people = .ok quotas) :
    0 < totalUsers users := by
  rw [allocate] at h
  split at h
  · cases h
  · rename_i hne
    exact Nat.pos_of_ne_zero hne

/-- Nothing is shared out if and only if nobody is online. -/
theorem allocate_error_iff (users : Table UInt64) (locations : Table α) (people : UInt64) :
    (∃ c, allocate users locations people = .error c) ↔ totalUsers users = 0 := by
  rw [allocate]
  by_cases h : totalUsers users = 0
  · simp [h]
  · simp [h]

/-- The entry of a country among the quotas comes from its entry among the users. -/
theorem mem_quotas_iff (h : allocate users locations people = .ok quotas) (country : String)
    (m : Nat) :
    (∃ quota, (country, quota) ∈ quotas.entries ∧ quota.toNat = m)
      ↔ ∃ n, (country, n) ∈ located users locations
        ∧ m = share people.toNat (totalUsers users) n.toNat := by
  have hquotas := quotas_of_allocate h
  have hleft : (country, m) ∈ quotas.entries.map (fun e => (e.1, e.2.toNat))
      ↔ ∃ quota, (country, quota) ∈ quotas.entries ∧ quota.toNat = m := by
    simp
  rw [← hleft, hquotas, List.mem_map]
  constructor
  · rintro ⟨⟨c, n⟩, he, heq⟩
    cases heq
    exact ⟨n, he, rfl⟩
  · rintro ⟨n, he, rfl⟩
    exact ⟨(country, n), he, rfl⟩

theorem contains_quotas_iff (h : allocate users locations people = .ok quotas)
    (country : String) :
    quotas.contains country ↔ users.contains country ∧ locations.contains country := by
  have hentry (t : Table UInt64) : t.contains country ↔ ∃ n, (country, n) ∈ t.entries := by
    rw [Table.contains_iff, Table.names]
    simp
  rw [hentry, hentry]
  constructor
  · rintro ⟨quota, hquota⟩
    obtain ⟨n, hn, -⟩ := (mem_quotas_iff h country quota.toNat).1 ⟨quota, hquota, rfl⟩
    obtain ⟨hmem, hloc⟩ := List.mem_filter.1 hn
    exact ⟨⟨n, hmem⟩, hloc⟩
  · rintro ⟨⟨n, hmem⟩, hloc⟩
    obtain ⟨quota, hquota, -⟩ := (mem_quotas_iff h country _).2
      ⟨n, List.mem_filter.2 ⟨hmem, hloc⟩, rfl⟩
    exact ⟨quota, hquota⟩

theorem share_of_quota (h : allocate users locations people = .ok quotas) {country : String}
    {quota : UInt64} (hquota : quotas.get? country = some quota) :
    ∃ n, users.get? country = some n
      ∧ quota.toNat = n.toNat * people.toNat / totalUsers users := by
  obtain ⟨n, hn, hshare⟩ := (mem_quotas_iff h country quota.toNat).1
    ⟨quota, Table.get?_eq_some_iff.1 hquota, rfl⟩
  exact ⟨n, Table.get?_eq_some_iff.2 (List.mem_of_mem_filter hn), hshare⟩

/-- The quotas are the shares of the countries with a location, one by one. -/
theorem quotaSum_of_allocate (h : allocate users locations people = .ok quotas) :
    quotaSum quotas = (((located users locations).map (·.2.toNat)).map
      (share people.toNat (totalUsers users))).sum := by
  rw [quotaSum_eq, toNat_quotas h, located]

theorem size_quotas_le (h : allocate users locations people = .ok quotas) :
    quotas.size ≤ users.size := by
  have hlength := congrArg List.length (toNat_quotas h)
  simp only [List.length_map] at hlength
  rw [Table.size, hlength]
  exact List.length_filter_le _ _

/-- No sum on the way to the sum of all quotas overflows a word. -/
theorem sum_front_quotas_lt (h : allocate users locations people = .ok quotas)
    {front : List UInt64} (hfront : front <+: quotas.values) :
    (front.map UInt64.toNat).sum < 2 ^ 64 := by
  have hle : (front.map UInt64.toNat).sum ≤ quotaSum quotas :=
    (hfront.map UInt64.toNat).sublist.sum_le_sum fun n _ => Nat.zero_le n
  have hsum := sum_quotas_le h
  rw [← quotaSum_eq] at hsum
  exact Nat.lt_of_le_of_lt (hle.trans hsum) people.toNat_lt

theorem exactShares_of_allocate (h : allocate users locations people = .ok quotas) :
    ExactShares users locations people quotas where
  names := contains_quotas_iff h
  shares _ _ hquota := by
    rw [← totalUsers_eq]
    exact share_of_quota h hquota
  sum_le := by
    rw [quotaSum_of_allocate h, ← totalUsers_eq]
    exact sum_share_le_share_sum _ _ _
  due_le := by
    rw [← totalUsers_eq]
    exact share_le (sum_located_le users locations)
  deficit := by
    intro hne
    rw [quotaSum_of_allocate h, ← totalUsers_eq]
    have hmap : (located users locations).map (·.2.toNat) ≠ [] := by simpa using hne
    simpa [locatedUsers, share] using share_sum_le_sum_share (totalUsers_pos_of_allocate h) hmap
  sums _ hfront := sum_front_quotas_lt h hfront
  size := size_quotas_le h

end Quotas

/-! ## Words are wide enough -/

/-- The users of all countries, added up one by one, and the products of users and people
all fit into 128 bits, and the shares into 64. -/
structure FitsWords (users : Table UInt64) (people : UInt64) : Prop where
  sums : ∀ front, front <+: users.values → (front.map UInt64.toNat).sum < 2 ^ 128
  products : ∀ n ∈ users.values, n.toNat * people.toNat < 2 ^ 128
  shares : ∀ n ∈ users.values, n.toNat * people.toNat / allUsers users < 2 ^ 64

theorem sum_words_lt {words : List UInt64} (h : words.length < 2 ^ 64) :
    (words.map UInt64.toNat).sum < 2 ^ 128 := by
  have hle : ∀ n ∈ words.map UInt64.toNat, n ≤ 2 ^ 64 - 1 := by
    intro n hn
    obtain ⟨word, -, rfl⟩ := List.mem_map.1 hn
    have hlt := word.toNat_lt
    omega
  have hsum : (words.map UInt64.toNat).sum ≤ words.length * (2 ^ 64 - 1) := by
    simpa using List.sum_le_card_nsmul _ _ hle
  have hmul : words.length * (2 ^ 64 - 1) ≤ (2 ^ 64 - 1) * (2 ^ 64 - 1) :=
    Nat.mul_le_mul_right _ (by omega)
  omega

theorem fitsWords {users : Table UInt64} (h : users.size < 2 ^ 64) (people : UInt64) :
    FitsWords users people where
  sums := by
    intro front hfront
    have hlength : front.length ≤ users.size := by
      rw [Table.size, ← List.length_map Prod.snd]
      exact hfront.length_le
    exact sum_words_lt (Nat.lt_of_le_of_lt hlength h)
  products n _ :=
    calc n.toNat * people.toNat < 2 ^ 64 * 2 ^ 64 :=
          Nat.mul_lt_mul'' n.toNat_lt people.toNat_lt
      _ = 2 ^ 128 := by decide
  shares n hn := by
    obtain ⟨entry, hentry, rfl⟩ := List.mem_map.1 hn
    rw [← totalUsers_eq]
    exact Nat.lt_of_le_of_lt (share_le (le_totalUsers hentry)) people.toNat_lt

/-- **Sharing out is exact.** It fails if and only if no country has any users at all.
Otherwise the countries with users and a location get their share of the people, rounded
down, and together fall short of what is due to all of them by less than one each. No
number on the way is too large for its word, so a plan's total is the sum of its quotas,
and no more countries have a quota than have users. -/
theorem allocate_exact_shares (data : Reference) (options : Options) :
    ((∃ c, allocate data.users data.locations options.people = .error c)
        ↔ allUsers data.users = 0)
      ∧ (allUsers data.users ≠ 0 →
        ∃ quotas, allocate data.users data.locations options.people = .ok quotas
          ∧ ExactShares data.users data.locations options.people quotas)
      ∧ (data.users.size < 2 ^ 64 → FitsWords data.users options.people)
      ∧ ∀ j plan k, Plan.new data options j = .ok plan k →
        allocate data.users data.locations options.people = .ok plan.quotas
          ∧ plan.total.toNat = quotaSum plan.quotas := by
  have hfails := allocate_error_iff data.users data.locations options.people
  rw [totalUsers_eq] at hfails
  refine ⟨hfails, ?_, fun hsize => fitsWords hsize options.people, ?_⟩
  · intro hne
    cases hquotas : allocate data.users data.locations options.people with
    | error c => exact absurd (hfails.1 ⟨c, hquotas⟩) hne
    | ok quotas => exact ⟨quotas, rfl, exactShares_of_allocate hquotas⟩
  · intro j plan k hplan
    have hplanned := planned_of_new hplan
    refine ⟨hplanned.quotas, ?_⟩
    rw [hplanned.total, toNat_sum_quotas hplanned.quotas, quotaSum_eq]

/-- Three countries with 10 users in all, one of them without a location. -/
def tenUsers : Reference where
  users := .ofList [("Andoria", 3), ("Betazed", 5), ("Cardassia", 2)]
  areas := .empty
  locations := .ofList [("Andoria", ⟨20.0, 10.0⟩), ("Betazed", ⟨30.0, -5.0⟩)]
  names := ⟨#["ANNIKA"], #["HANSEN"], by decide, by decide⟩

/-- Of 9 people 7 are due to the two countries that can get any, and 6 are given to them. If
the only users are none, nobody can be given anywhere. -/
theorem allocate_exact_shares_ten_users :
    (∃ quotas, allocate tenUsers.users tenUsers.locations 9 = .ok quotas
        ∧ quotas.entries = [("Andoria", 2), ("Betazed", 4)]
        ∧ ExactShares tenUsers.users tenUsers.locations 9 quotas
        ∧ quotaSum quotas = 6)
      ∧ allUsers tenUsers.users = 10
      ∧ locatedUsers tenUsers.users tenUsers.locations * 9 / 10 = 7
      ∧ ∃ c, allocate (.ofList [("Andoria", 0)]) tenUsers.locations 9 = .error c := by
  obtain ⟨-, hshares, -⟩ := allocate_exact_shares tenUsers { people := 9 }
  obtain ⟨hrefused, -⟩ := allocate_exact_shares
    { tenUsers with users := .ofList [("Andoria", 0)] } { people := 9 }
  obtain ⟨quotas, hquotas, hexact⟩ := hshares (by decide +kernel)
  have hentries : (allocate tenUsers.users tenUsers.locations 9).toOption.map (·.entries)
      = some [("Andoria", 2), ("Betazed", 4)] := by decide +kernel
  have hsame : quotas.entries = [("Andoria", 2), ("Betazed", 4)] := by
    rw [show allocate tenUsers.users tenUsers.locations 9 = _ from hquotas] at hentries
    exact Option.some.inj hentries
  refine ⟨⟨quotas, hquotas, hsame, hexact, ?_⟩, by decide +kernel, by decide +kernel,
    hrefused.2 (by decide +kernel)⟩
  rw [quotaSum_eq, hsame]
  rfl

end Populace.Census
